import BusExporter.Model.I3c

/-! The I3C device file (`linux_device` in `reader/i3c/mod.rs`): the request that the kernel gets. -/

namespace BusExporter.I3c
open Lib

inductive I3cTransferDir
  | write
  | read

def I3cTransferDir.toUInt8 : I3cTransferDir → UInt8
  | .write => 0
  | .read => 1

/-- The buffer that `data` points to stands for the pointer. -/
structure I3cPrivTransfer where
  data : List UInt8
  len : UInt16
  rnw : UInt8
deriving DecidableEq

namespace I3cPrivTransfer

-- the pointer, the length, the direction and five bytes of padding
def size : Nat := 16

def of (dir : I3cTransferDir) (buf : List UInt8) : I3cPrivTransfer :=
  { data := buf, len := asU16 buf.length, rnw := dir.toUInt8 }

end I3cPrivTransfer

def i3cIocPrivXferBase : UInt64 := 0x69

def i3cIocPrivXferNr : UInt64 := 0x30

def i3cIocPrivXfer (numXfers : Nat) : UInt64 :=
  let size := UInt64.ofNat (numXfers * I3cPrivTransfer.size)
  let dir : UInt64 := 3
  dir <<< 30 ||| i3cIocPrivXferBase <<< 8 ||| i3cIocPrivXferNr ||| size <<< 16

/-- The arguments of the system call. A descriptor is known by the file that it is open on. -/
structure Ioctl where
  fd : String
  request : UInt64
  xfers : List I3cPrivTransfer
deriving DecidableEq

/-- The kernel fills the buffer of the read transfer. -/
abbrev Kernel (ω : Type) := Ioctl → (readLen : Nat) → ω → Result (Fin readLen → UInt8) × ω

def privXfer (fd : String) (writeBuf : List UInt8) (readLen : Nat) : Ioctl :=
  let readBuf := List.replicate readLen 0
  let xfers := [I3cPrivTransfer.of .write writeBuf, I3cPrivTransfer.of .read readBuf]
  { fd, request := i3cIocPrivXfer xfers.length, xfers }

structure LinuxI3cDevice where
  busPath : String
  fd : Option String := none

namespace LinuxI3cDevice
variable {ω : Type}

def writeRead (ioctl : Kernel ω) (dev : LinuxI3cDevice) (_address : UInt8) (writeBuf : List UInt8)
    (readLen : Nat) (w : ω) : Result (List UInt8) × ω :=
  match dev.fd with
  | none => (.error ⟨"I3C device not opened", []⟩, w)
  | some fd =>
      let (readBuf, w) := withContext "I3C private transfer ioctl failed"
        (ioctl (privXfer fd writeBuf readLen) readLen w)
      (readBuf.map List.ofFn, w)

end LinuxI3cDevice

def onKernel {ω : Type} (host : Host ω) (ioctl : Kernel ω) : Host ω :=
  { host with transferI3c := fun fd writeBuf readLen => ioctl (privXfer fd writeBuf readLen) readLen }

end BusExporter.I3c
