import BusExporter.Model.Decoder
import BusExporter.Model.Host

/-! The I2C reader and writer (`reader/i2c/mod.rs`). Bus locks are left out: one task at a time is on
the bus in every step here. -/

namespace BusExporter.I2c
open Lib Config

structure I2cDevice (ω : Type) where
  writeRead : List UInt8 → Nat → ω → Result (List UInt8) × ω
  write : List UInt8 → ω → Result Unit × ω

namespace LinuxI2cDevice
variable {ω : Type} (host : Host ω)

def opened (busPath : String) (address : UInt8) : I2cDevice ω where
  writeRead buf readLen w :=
    match withContext "I2C write register address" (host.writeI2c busPath address buf w) with
    | (.error e, w) => (.error e, w)
    | (.ok (), w) =>
        let (data, w) := withContext "I2C read data" (host.readI2c busPath address readLen w)
        (data.map List.ofFn, w)
  write buf w := withContext "I2C write" (host.writeI2c busPath address buf w)

def open_ (busPath : String) (address : UInt8) (w : ω) : Result (I2cDevice ω) × ω :=
  match withContext s!"opening I2C bus {busPath}" (host.openI2c busPath w) with
  | (.error e, w) => (.error e, w)
  | (.ok (), w) =>
      let (selected, w) := host.ioctlI2cSlave busPath address w
      if selected then (.ok (opened host busPath address), w)
      else
        (.error ⟨s!"ioctl I2C_SLAVE failed for address {hexPrefixed 4 address.toNat} on {busPath}", []⟩, w)

end LinuxI2cDevice

structure I2cMetricReader (ω : Type) where
  device : I2cDevice ω
  busPath : String
  address : UInt8
  connected : Bool := false
  metrics : List MetricConfig := []

variable {ω : Type}

def readI2cMetric (decodeBytes : Decoder.ByteDecoder) (metric : MetricConfig)
    (s : I2cMetricReader ω × ω) : Except Panic (Result (Float × Float) × (I2cMetricReader ω × ω)) :=
  match metric.address with
  -- the address is unwrapped, as validated before
  | none => .error .unwrapNone
  | some addr =>
      let (client, w) := s
      let register := addr.toUInt8
      let numBytes := Decoder.byteCount (Decoder.mapDataType metric.dataType)
      let (bytes, w) := withContext
        s!"reading I2C register {hexPrefixed 4 register.toNat} ({numBytes} bytes) from device {hexPrefixed 4 client.address.toNat} on {client.busPath}"
        (client.device.writeRead [register] numBytes w)
      .ok (bytes.bind (Decoder.bytesValue decodeBytes metric), client, w)

def metricReader (decodeBytes : Decoder.ByteDecoder) : MetricReader (I2cMetricReader ω × ω) where
  setMetrics metrics s := ({ s.1 with metrics }, s.2)
  connect s := (.ok (), { s.1 with connected := true }, s.2)
  disconnect s := (.ok (), { s.1 with connected := false }, s.2)
  isConnected s := s.1.connected
  read cancelled s := readEach cancelled (readI2cMetric decodeBytes) s.1.metrics s

structure I2cMetricWriter (ω : Type) where
  device : I2cDevice ω
  busPath : String

def registerWrite (step : WriteStep) : Option (List UInt8) :=
  match step.address, step.value with
  | some address, some value => some (address :: value.asBytes)
  | _, _ => none

def executeWrites (host : Host ω) (writer : I2cMetricWriter ω) (steps : List WriteStep) (w : ω) :
    Result Unit × ω :=
  runSteps (fun idx step =>
    writeThenSleep host
      ((registerWrite step).map fun buf w =>
        withContext s!"I2C write step {idx} on {writer.busPath}" (writer.device.write buf w))
      step.delay) steps.zipIdx w

end BusExporter.I2c
