import BusExporter.Model.I2c
import BusExporter.Model.I3c
import BusExporter.Model.Modbus
import BusExporter.Model.Spi

/-! The reader and writer factories (`reader/mod.rs`), in the build for Linux. A boxed reader is one
of the four shipped ones. -/

namespace BusExporter
open Lib Config

/-- The code outside the repository: the Modbus client library and the operating system. -/
structure Platform (κ ω : Type) where
  modbus : Modbus.TokioModbus κ ω
  host : Host ω

variable {κ ω : Type}

inductive BusReader (κ ω : Type)
  | modbus (reader : Modbus.ModbusMetricReader κ)
  | i2c (reader : I2c.I2cMetricReader ω)
  | spi (reader : Spi.SpiMetricReader ω)
  | i3c (reader : I3c.I3cMetricReaderHandle ω)

namespace BusReader
variable (platform : Platform κ ω)

def modbusReader : MetricReader (Modbus.ModbusMetricReader κ × ω) :=
  Modbus.ModbusMetricReader.metricReader platform.modbus

def i2cReader : MetricReader (I2c.I2cMetricReader ω × ω) := I2c.metricReader Decoder.decodeBytes

def spiReader : MetricReader (Spi.SpiMetricReader ω × ω) := Spi.metricReader Decoder.decodeBytes

def i3cReader : MetricReader (I3c.I3cMetricReaderHandle ω × ω) :=
  I3c.I3cMetricReaderHandle.metricReader Decoder.decodeBytes platform.host

def inject {ρ : Type} (wrap : ρ → BusReader κ ω) (s : ρ × ω) : BusReader κ ω × ω := (wrap s.1, s.2)

def metricReader : MetricReader (BusReader κ ω × ω) where
  setMetrics metrics
    | (.modbus reader, w) => inject .modbus ((modbusReader platform).setMetrics metrics (reader, w))
    | (.i2c reader, w) => inject .i2c (i2cReader.setMetrics metrics (reader, w))
    | (.spi reader, w) => inject .spi (spiReader.setMetrics metrics (reader, w))
    | (.i3c reader, w) => inject .i3c ((i3cReader platform).setMetrics metrics (reader, w))
  connect
    | (.modbus reader, w) => ((modbusReader platform).connect (reader, w)).map id (inject .modbus)
    | (.i2c reader, w) => (i2cReader.connect (reader, w)).map id (inject .i2c)
    | (.spi reader, w) => (spiReader.connect (reader, w)).map id (inject .spi)
    | (.i3c reader, w) => ((i3cReader platform).connect (reader, w)).map id (inject .i3c)
  disconnect
    | (.modbus reader, w) => ((modbusReader platform).disconnect (reader, w)).map id (inject .modbus)
    | (.i2c reader, w) => (i2cReader.disconnect (reader, w)).map id (inject .i2c)
    | (.spi reader, w) => (spiReader.disconnect (reader, w)).map id (inject .spi)
    | (.i3c reader, w) => ((i3cReader platform).disconnect (reader, w)).map id (inject .i3c)
  isConnected
    | (.modbus reader, w) => (modbusReader platform).isConnected (reader, w)
    | (.i2c reader, w) => i2cReader.isConnected (reader, w)
    | (.spi reader, w) => spiReader.isConnected (reader, w)
    | (.i3c reader, w) => (i3cReader platform).isConnected (reader, w)
  read cancelled
    | (.modbus reader, w) =>
        ((modbusReader platform).read (cancelled ∘ inject .modbus) (reader, w)).map
          (·.map id (inject .modbus))
    | (.i2c reader, w) =>
        (i2cReader.read (cancelled ∘ inject .i2c) (reader, w)).map (·.map id (inject .i2c))
    | (.spi reader, w) =>
        (spiReader.read (cancelled ∘ inject .spi) (reader, w)).map (·.map id (inject .spi))
    | (.i3c reader, w) =>
        ((i3cReader platform).read (cancelled ∘ inject .i3c) (reader, w)).map (·.map id (inject .i3c))

end BusReader

def serialPort (device : String) (bps : UInt32) (dataBits stopBits : UInt8) (parity : Parity) :
    Modbus.SerialPortBuilder :=
  { device, bps, parity
    dataBits := if dataBits = 5 then 5 else if dataBits = 6 then 6 else if dataBits = 7 then 7 else 8
    stopBits := if stopBits = 2 then 2 else 1 }

def addressMode (pid : Option String) (address : Option UInt8) (deviceClass : Option String)
    (instance_ : Option UInt8) : Except Panic I3c.AddressMode :=
  match pid, address with
  | some pid, _ => .ok (.pid pid)
  | none, some addr => .ok (.static addr)
  | none, none =>
      match deviceClass, instance_ with
      | some class_, some instance_ => .ok (.deviceClass class_ instance_)
      -- both fields are unwrapped here
      | _, _ => .error .unwrapNone

variable (platform : Platform κ ω)

def create (collector : CollectorConfig) (w : ω) : Except Panic (Result (BusReader κ ω) × ω) :=
  match collector.protocol with
  | .modbusTcp endpoint =>
      .ok (.ok (.modbus (Modbus.ModbusTcpMetricReader.new endpoint (collector.slaveId.getD 1))), w)
  | .modbusRtu device bps dataBits stopBits parity =>
      let builder := serialPort device bps dataBits stopBits parity
      .ok (.ok (.modbus (Modbus.ModbusRtuMetricReader.new builder (collector.slaveId.getD 1))), w)
  | .i2c bus address =>
      let (device, w) := withContext "failed to open I2C device"
        (I2c.LinuxI2cDevice.open_ platform.host bus address w)
      .ok (device.map fun device => .i2c { device, busPath := bus, address }, w)
  | .spi devicePath speedHz mode bitsPerWord =>
      let (device, w) := withContext "failed to open SPI device"
        (Spi.LinuxSpiDevice.open_ platform.host devicePath speedHz mode bitsPerWord w)
      .ok (device.map fun device => .spi { device, devicePath }, w)
  | .i3c bus pid address deviceClass instance_ => do
      let mode ← addressMode pid address deviceClass instance_
      let (device, w) := withContext "failed to open I3C device"
        (I3c.LinuxI3cDevice.open_ platform.host bus w)
      .ok (device.map fun device => .i3c { client := .new device bus mode }, w)

def metricReaderFactoryImpl : MetricReaderFactory (BusReader κ ω) ω :=
  ⟨create platform, BusReader.metricReader platform⟩

inductive BusWriter (ω : Type)
  | i2c (writer : I2c.I2cMetricWriter ω)
  | spi (writer : Spi.SpiMetricWriter ω)
  | i3c (client : I3c.I3cMetricReader ω)

def BusWriter.executeWrites (steps : List WriteStep) :
    BusWriter ω × ω → Result Unit × (BusWriter ω × ω)
  | (.i2c writer, w) => (I2c.executeWrites platform.host writer steps w).map id (.i2c writer, ·)
  | (.spi writer, w) => (Spi.executeWrites platform.host writer steps w).map id (.spi writer, ·)
  | (.i3c client, w) =>
      (I3c.executeWrites platform.host steps (client, w)).map id fun s => (.i3c s.1, s.2)

def createWriter (collector : CollectorConfig) (w : ω) :
    Except Panic (Result (Option (BusWriter ω)) × ω) :=
  if collector.initWrites.isEmpty && collector.prePoll.isEmpty then .ok (.ok none, w)
  else
    match collector.protocol with
    | .modbusTcp .. | .modbusRtu .. => .ok (.ok none, w)
    | .i2c bus address =>
        let (device, w) := withContext "failed to open I2C device for writer"
          (I2c.LinuxI2cDevice.open_ platform.host bus address w)
        .ok (device.map fun device => some (.i2c { device, busPath := bus }), w)
    | .spi devicePath speedHz mode bitsPerWord =>
        let (device, w) := withContext "failed to open SPI device for writer"
          (Spi.LinuxSpiDevice.open_ platform.host devicePath speedHz mode bitsPerWord w)
        .ok (device.map fun device => some (.spi { device, devicePath }), w)
    | .i3c bus pid address deviceClass instance_ => do
        let mode ← addressMode pid address deviceClass instance_
        let (device, w) := withContext "failed to open I3C device for writer"
          (I3c.LinuxI3cDevice.open_ platform.host bus w)
        .ok (device.map fun device => some (.i3c (.new device bus mode)), w)

end BusExporter
