import BusExporter.Model.Host

/-! A host that keeps a record: what each call notes is appended, and the call does what it did. -/

namespace BusExporter
open Lib

structure Notes (ε : Type) where
  wroteI2c : String → UInt8 → List UInt8 → Bool → Option ε := fun _ _ _ _ => none
  transferredSpi : String → List UInt8 → Bool → Option ε := fun _ _ _ => none
  transferredI3c : String → List UInt8 → Nat → Bool → Option ε := fun _ _ _ _ => none
  enumerated : Result (List (Result SysfsEntry)) → Option ε := fun _ => none
  slept : Duration → Option ε := fun _ => none

variable {ω ε α : Type}

def unnoted (step : ω → α × ω) (s : ω × List ε) : α × (ω × List ε) := ((step s.1).1, (step s.1).2, s.2)

def noting (note : α → Option ε) (step : ω → α × ω) (s : ω × List ε) : α × (ω × List ε) :=
  ((step s.1).1, (step s.1).2, match note (step s.1).1 with
    | none => s.2
    | some e => s.2 ++ [e])

def Host.recorded (host : Host ω) (notes : Notes ε) : Host (ω × List ε) where
  openI2c path := unnoted (host.openI2c path)
  ioctlI2cSlave path addr := unnoted (host.ioctlI2cSlave path addr)
  writeI2c path addr data := noting (fun r => notes.wroteI2c path addr data r.isOk) (host.writeI2c path addr data)
  readI2c path addr n := unnoted (host.readI2c path addr n)
  openSpi path := unnoted (host.openSpi path)
  configureSpi path speedHz mode bits := unnoted (host.configureSpi path speedHz mode bits)
  transferSpi path tx := noting (fun r => notes.transferredSpi path tx r.isOk) (host.transferSpi path tx)
  openI3c path := unnoted (host.openI3c path)
  transferI3c path writeBuf n :=
    noting (fun r => notes.transferredI3c path writeBuf n r.isOk) (host.transferI3c path writeBuf n)
  readI3cSysfs := noting notes.enumerated host.readI3cSysfs
  sleep d s := (noting (fun _ => notes.slept d) (fun w => ((), host.sleep d w)) s).2

end BusExporter
