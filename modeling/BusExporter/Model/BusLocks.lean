import BusExporter.Lib.Critical
import BusExporter.Model.I3c
import BusExporter.Model.Spi

/-! What the readers and writers of the byte buses do at the same time (`reader/i2c/mod.rs`, `reader/spi/mod.rs`,
`reader/i3c/mod.rs`): each blocking closure takes the lock of its bus, then that of its own device, and makes its
system calls one by one, a scan of sysfs counted as one. Each bus has a state of its own. The mutex that an I3C
client has around its device is left out, since it never blocks: it is reached only through the client, which the
closure has locked and borrows alone, and a read gives it back before it retries. -/

namespace BusExporter.Buses
open Lib

inductive BusLock
  | i2c (busPath : String)
  | spi (devicePath : String)
  | i3c (busPath : String)
deriving DecidableEq

structure DeviceLock where
  owner : Nat
  bus : BusLock
deriving DecidableEq

/-- A bus with its devices, and the clients of those on it that resolve addresses. -/
structure Bus (ω : Type) where
  devices : ω
  clients : Nat → I3c.I3cMetricReader ω

inductive Call
  | readI2c (busPath : String) (address register : UInt8) (numBytes : Nat)
  | writeI2c (busPath : String) (address : UInt8) (idx : Nat) (buf : List UInt8)
  | readSpi (devicePath : String) (txBuf : List UInt8)
  | writeSpi (devicePath : String) (idx : Nat) (command : List UInt8)
  | readI3c (busPath : String) (register : UInt8) (numBytes : Nat)
  | writeI3c (busPath : String) (idx : Nat) (buf : List UInt8)
deriving DecidableEq

def Call.bus : Call → BusLock
  | .readI2c busPath .. | .writeI2c busPath .. => .i2c busPath
  | .readSpi devicePath .. | .writeSpi devicePath .. => .spi devicePath
  | .readI3c busPath .. | .writeI3c busPath .. => .i3c busPath

structure Transaction where
  owner : Nat
  call : Call
deriving DecidableEq

def Transaction.device (t : Transaction) : DeviceLock := ⟨t.owner, t.call.bus⟩

inductive Answer
  | bytes (r : Result (List UInt8))
  | written (r : Result Unit)

section Calls
variable {ω : Type} (host : Host ω)

def Bus.onDevices {α : Type} (f : ω → α × ω) (b : Bus ω) : α × Bus ω :=
  ((f b.devices).1, { b with devices := (f b.devices).2 })

def Bus.onClient {α : Type} (owner : Nat) (f : I3c.I3cMetricReader ω × ω → α × (I3c.I3cMetricReader ω × ω))
    (b : Bus ω) : α × Bus ω :=
  let s := f (b.clients owner, b.devices)
  (s.1, ⟨s.2.2, Function.update b.clients owner s.2.1⟩)

def writeRead (busPath : String) (address : UInt8) (writeBuf : List UInt8) (readLen : Nat) :
    Work (Bus ω) (Result (List UInt8)) := do
  match ← .op (Bus.onDevices (withContext "I2C write register address" ∘ host.writeI2c busPath address writeBuf)) with
  | .error e => return .error e
  | .ok () =>
      let data ← .op (Bus.onDevices (withContext "I2C read data" ∘ host.readI2c busPath address readLen))
      return data.map List.ofFn

def transfer (owner : Nat) (address : UInt8) (writeBuf : List UInt8) (readLen : Nat) :
    Work (Bus ω) (Result (List UInt8)) :=
  .op (Bus.onClient owner fun s =>
    let data := s.1.device.writeRead address writeBuf readLen s.2
    (data.1, s.1, data.2))

def resolveAddress (owner : Nat) : Work (Bus ω) (Result UInt8) :=
  .op (Bus.onClient owner (I3c.I3cMetricReader.resolveAddress host))

def retryRead (owner : Nat) (register : UInt8) (byteCount : Nat) :
    List Duration → Error → Work (Bus ω) (Result (List UInt8))
  | [], lastErr => do
      let busPath ← .op (Bus.onClient owner fun s => (s.1.busPath, s))
      return .error (lastErr.context s!"I3C read failed after {I3c.I3cMetricReader.backoffs.length} retries on {busPath}")
  | backoff :: rest, _ => do
      .op (Bus.onDevices fun w => ((), host.sleep backoff w))
      .op (Bus.onClient owner fun s => ((), s.1.invalidateAddress, s.2))
      match ← resolveAddress host owner with
      | .error e => retryRead owner register byteCount rest e
      | .ok newAddr =>
          match ← transfer owner newAddr [register] byteCount with
          | .ok data => return .ok data
          | .error e => retryRead owner register byteCount rest e

def readRegisterSync (owner : Nat) (register : UInt8) (byteCount : Nat) : Work (Bus ω) (Result (List UInt8)) := do
  match ← resolveAddress host owner with
  | .error e => return .error e
  | .ok address =>
      match ← transfer owner address [register] byteCount with
      | .ok data => return .ok data
      | .error err =>
          match I3c.classifyError err with
          | .other => return .error (err.context "I3C read failed (non-retriable)")
          | .transferError => retryRead host owner register byteCount I3c.I3cMetricReader.backoffs err

def writeBytes (owner : Nat) (buf : List UInt8) : Work (Bus ω) (Result Unit) := do
  match ← resolveAddress host owner with
  | .error e => return .error e
  | .ok address =>
      let data ← transfer owner address buf 0
      return (data.mapError (·.context "I3C write_bytes")).map fun _ => ()

def readI2cContext (busPath : String) (address register : UInt8) (numBytes : Nat) : String :=
  s!"reading I2C register {hexPrefixed 4 register.toNat} ({numBytes} bytes) from device {hexPrefixed 4 address.toNat} on {busPath}"

def Transaction.work (t : Transaction) : Work (Bus ω) Answer :=
  match t.call with
  | .readI2c busPath address register numBytes => do
      let bytes ← writeRead host busPath address [register] numBytes
      return .bytes (bytes.mapError (·.context (readI2cContext busPath address register numBytes)))
  | .writeI2c busPath address idx buf => do
      let written ← .op (Bus.onDevices (withContext "I2C write" ∘ host.writeI2c busPath address buf))
      return .written (written.mapError (·.context s!"I2C write step {idx} on {busPath}"))
  | .readSpi devicePath txBuf => do
      let rx ← .op (Bus.onDevices ((Spi.LinuxSpiDevice.opened host devicePath).transfer txBuf))
      return .bytes (rx.mapError (·.context s!"SPI transfer on {devicePath}"))
  | .writeSpi devicePath idx command => do
      let rx ← .op (Bus.onDevices ((Spi.LinuxSpiDevice.opened host devicePath).transfer command))
      return .written ((rx.mapError (·.context s!"SPI write step {idx} on {devicePath}")).map fun _ => ())
  | .readI3c _ register numBytes => do
      let bytes ← readRegisterSync host t.owner register numBytes
      return .bytes bytes
  | .writeI3c _ idx buf => do
      let written ← writeBytes host t.owner buf
      return .written (written.mapError (·.context s!"I3C write step {idx}"))

end Calls

abbrev State (ω : Type) := Critical.State BusLock DeviceLock Transaction (Bus ω) Answer

abbrev Input := Critical.Input Transaction

abbrev Event := Critical.Event Transaction Answer

def transactions {ω : Type} (host : Host ω) : Critical.Jobs BusLock DeviceLock Transaction (Bus ω) Answer where
  key := DeviceLock.bus
  resource := Transaction.device
  work := Transaction.work host

def machine {ω : Type} (host : Host ω) : Machine (State ω) Input Event := (transactions host).machine

end BusExporter.Buses
