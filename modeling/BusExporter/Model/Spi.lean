import BusExporter.Model.Decoder
import BusExporter.Model.Host

/-! The SPI reader and writer (`reader/spi/mod.rs`). -/

namespace BusExporter.Spi
open Lib Config

structure SpiDevice (ω : Type) where
  transfer : List UInt8 → ω → Result (List UInt8) × ω

/-- What the trait asks of a device: the receive buffer is as long as the transmit buffer. -/
def SpiDevice.FullDuplex {ω : Type} (device : SpiDevice ω) : Prop :=
  ∀ tx w rx, (device.transfer tx w).1 = .ok rx → rx.length = tx.length

namespace LinuxSpiDevice
variable {ω : Type} (host : Host ω)

def opened (devicePath : String) : SpiDevice ω where
  transfer tx w :=
    let (rx, w) := withContext "SPI transfer failed" (host.transferSpi devicePath tx w)
    (rx.map List.ofFn, w)

def open_ (devicePath : String) (speedHz : UInt32) (mode bitsPerWord : UInt8) (w : ω) :
    Result (SpiDevice ω) × ω :=
  match withContext s!"opening SPI device {devicePath}" (host.openSpi devicePath w) with
  | (.error e, w) => (.error e, w)
  | (.ok (), w) =>
      if 3 < mode then (.error ⟨s!"invalid SPI mode: {mode}", []⟩, w)
      else
        match withContext s!"configuring SPI device {devicePath}"
            (host.configureSpi devicePath speedHz mode bitsPerWord w) with
        | (.error e, w) => (.error e, w)
        | (.ok (), w) => (.ok (opened host devicePath), w)

end LinuxSpiDevice

structure SpiMetricReader (ω : Type) where
  device : SpiDevice ω
  devicePath : String
  connected : Bool := false
  metrics : List MetricConfig := []

variable {ω : Type}

def responseLength (metric : MetricConfig) : UInt16 :=
  metric.responseLength.getD (asU16 metric.command.length)

def txBuf (metric : MetricConfig) : List UInt8 :=
  metric.command ++ List.replicate ((responseLength metric).toNat - metric.command.length) 0

def readSpiMetric (decodeBytes : Decoder.ByteDecoder) (metric : MetricConfig)
    (s : SpiMetricReader ω × ω) : Except Panic (Result (Float × Float) × (SpiMetricReader ω × ω)) :=
  let (client, w) := s
  let responseOffset := metric.responseOffset.toNat
  let numBytes := Decoder.byteCount (Decoder.mapDataType metric.dataType)
  match withContext s!"SPI transfer on {client.devicePath}"
      (client.device.transfer (txBuf metric) w) with
  | (.error e, w) => .ok (.error e, client, w)
  | (.ok bytes, w) =>
      -- the response is sliced without a check of its length
      if bytes.length < responseOffset + numBytes then .error .sliceOutOfRange
      else
        let payload := (bytes.drop responseOffset).take numBytes
        .ok (Decoder.bytesValue decodeBytes metric payload, client, w)

def metricReader (decodeBytes : Decoder.ByteDecoder) : MetricReader (SpiMetricReader ω × ω) where
  setMetrics metrics s := ({ s.1 with metrics }, s.2)
  connect s := (.ok (), { s.1 with connected := true }, s.2)
  disconnect s := (.ok (), { s.1 with connected := false }, s.2)
  isConnected s := s.1.connected
  read cancelled s := readEach cancelled (readSpiMetric decodeBytes) s.1.metrics s

structure SpiMetricWriter (ω : Type) where
  device : SpiDevice ω
  devicePath : String

def executeWrites (host : Host ω) (writer : SpiMetricWriter ω) (steps : List WriteStep) (w : ω) :
    Result Unit × ω :=
  runSteps (fun idx step =>
    writeThenSleep host
      (step.command.map fun command w =>
        let (rx, w) := withContext s!"SPI write step {idx} on {writer.devicePath}"
          (writer.device.transfer command w)
        (rx.map fun _ => (), w))
      step.delay) steps.zipIdx w

end BusExporter.Spi
