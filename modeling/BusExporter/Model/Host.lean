import BusExporter.Model.Reader

/-! The operating system under the bus devices: what the Linux device files and sysfs answer, over a
state `ω` of the host and its buses. -/

namespace BusExporter
open Lib

structure SysfsEntry where
  path : String
  pid : Result String
  dcr : Result String
  dynamicAddress : Result String

structure Host (ω : Type) where
  openI2c : String → ω → Result Unit × ω
  ioctlI2cSlave : String → UInt8 → ω → Bool × ω
  writeI2c : String → UInt8 → List UInt8 → ω → Result Unit × ω
  readI2c : String → UInt8 → (n : Nat) → ω → Result (Fin n → UInt8) × ω
  openSpi : String → ω → Result Unit × ω
  configureSpi : String → (speedHz : UInt32) → (mode bitsPerWord : UInt8) → ω → Result Unit × ω
  /-- The transfer fills a receive buffer as long as the transmit buffer. -/
  transferSpi : String → (tx : List UInt8) → ω → Result (Fin tx.length → UInt8) × ω
  openI3c : String → ω → Result Unit × ω
  transferI3c : String → List UInt8 → (n : Nat) → ω → Result (Fin n → UInt8) × ω
  readI3cSysfs : ω → Result (List (Result SysfsEntry)) × ω
  sleep : Duration → ω → ω

def withContext {α ω : Type} (text : String) (step : Result α × ω) : Result α × ω :=
  (step.1.mapError (·.context text), step.2)

def runSteps {σ : Type} (execute : Nat → Config.WriteStep → σ → Result Unit × σ) :
    List (Config.WriteStep × Nat) → σ → Result Unit × σ
  | [], s => (.ok (), s)
  | (step, idx) :: rest, s =>
      match execute idx step s with
      | (.error e, s) => (.error e, s)
      | (.ok (), s) => runSteps execute rest s

def writeThenSleep {ω : Type} (host : Host ω) (write : Option (ω → Result Unit × ω))
    (delay : Option Duration) (w : ω) : Result Unit × ω :=
  match write with
  | some write =>
      match write w with
      | (.error e, w) => (.error e, w)
      | (.ok (), w) => (.ok (), (delay.map host.sleep).getD id w)
  | none => (.ok (), (delay.map host.sleep).getD id w)

end BusExporter
