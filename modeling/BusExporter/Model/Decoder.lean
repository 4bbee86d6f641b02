import BusExporter.Lib.F64
import BusExporter.Model.Reader

/-! Decoding of raw bytes and Modbus registers into metric values (`reader/decoder.rs`). -/

namespace BusExporter.Decoder
open Lib

inductive ByteOrder
  | bigEndian
  | littleEndian
  | midBigEndian
  | midLittleEndian
deriving DecidableEq

inductive DataType
  | u8
  | u16
  | i16
  | u32
  | i32
  | f32
  | u64
  | i64
  | f64
  | bool
deriving DecidableEq

inductive DecodeError
  | insufficientRegisters (expected got : Nat)
deriving DecidableEq

def DecodeError.text : DecodeError → String
  | .insufficientRegisters expected got =>
      s!"insufficient registers: expected {expected}, got {got}"

def registersNeeded : DataType → Nat
  | .u8 | .u16 | .i16 | .bool => 1
  | .u32 | .i32 | .f32 => 2
  | .u64 | .i64 | .f64 => 4

def byteCount : DataType → Nat
  | .bool | .u8 => 1
  | .u16 | .i16 => 2
  | .u32 | .i32 | .f32 => 4
  | .u64 | .i64 | .f64 => 8

def beNat (bytes : List UInt8) : Nat := bytes.foldl (fun acc b => acc * 256 + b.toNat) 0

/-- The word of the leading bytes in the given order. Mid-endian orders have no meaning for bytes:
they are read as their plain counterparts. -/
def wordOf (byteOrder : ByteOrder) (bytes : List UInt8) : Nat :=
  match byteOrder with
  | .bigEndian | .midBigEndian => beNat bytes
  | .littleEndian | .midLittleEndian => beNat bytes.reverse

def raw32 (dataType : DataType) (word : Nat) : Float :=
  match dataType with
  | .i32 => F64.ofI64 (F64.signed 32 word)
  | .f32 => F64.ofF32 (Float32.ofBits (UInt32.ofNat word))
  | _ => F64.ofU64 word

def raw64 (dataType : DataType) (word : Nat) : Float :=
  match dataType with
  | .i64 => F64.ofI64 (F64.signed 64 word)
  | .f64 => Float.ofBits (UInt64.ofNat word)
  | _ => F64.ofU64 word

def scaled (raw scale offset : Float) : Float × Float := (raw, raw * scale + offset)

def decodeBytes (bytes : List UInt8) (dataType : DataType) (byteOrder : ByteOrder)
    (scale offset : Float) : Except DecodeError (Float × Float) :=
  let needed := byteCount dataType
  if bytes.length < needed then .error (.insufficientRegisters needed bytes.length)
  else
    let first := bytes.headD 0
    let raw : Float := match dataType with
      | .bool => if first &&& 0x01 ≠ 0 then 1.0 else 0.0
      | .u8 => F64.ofU64 first.toNat
      | .u16 => F64.ofU64 (wordOf byteOrder (bytes.take 2))
      | .i16 => F64.ofI64 (F64.signed 16 (wordOf byteOrder (bytes.take 2)))
      | .u32 | .i32 | .f32 => raw32 dataType (wordOf byteOrder (bytes.take 4))
      | .u64 | .i64 | .f64 => raw64 dataType (wordOf byteOrder (bytes.take 8))
    .ok (scaled raw scale offset)

def high (r : UInt16) : UInt8 := (r >>> 8).toUInt8

def low (r : UInt16) : UInt8 := r.toUInt8

def reorder32 (regs : List UInt16) (byteOrder : ByteOrder) : List UInt8 :=
  match regs with
  | r0 :: r1 :: _ =>
      match byteOrder with
      | .bigEndian => [high r0, low r0, high r1, low r1]
      | .littleEndian => [low r1, high r1, low r0, high r0]
      | .midBigEndian => [high r1, low r1, high r0, low r0]
      | .midLittleEndian => [low r0, high r0, low r1, high r1]
  | _ => []

def reorder64 (regs : List UInt16) (byteOrder : ByteOrder) : List UInt8 :=
  match regs with
  | r0 :: r1 :: r2 :: r3 :: _ =>
      match byteOrder with
      | .bigEndian => [high r0, low r0, high r1, low r1, high r2, low r2, high r3, low r3]
      | .littleEndian => [low r3, high r3, low r2, high r2, low r1, high r1, low r0, high r0]
      | .midBigEndian => [high r2, low r2, high r3, low r3, high r0, low r0, high r1, low r1]
      | .midLittleEndian => [low r0, high r0, low r1, high r1, low r2, high r2, low r3, high r3]
  | _ => []

def decode (registers : List UInt16) (dataType : DataType) (byteOrder : ByteOrder)
    (scale offset : Float) : Except DecodeError (Float × Float) :=
  let needed := registersNeeded dataType
  if registers.length < needed then .error (.insufficientRegisters needed registers.length)
  else
    let first := registers.headD 0
    let raw : Float := match dataType with
      | .bool => if first ≠ 0 then 1.0 else 0.0
      | .u8 => F64.ofU64 (low first).toNat
      | .u16 => F64.ofU64 first.toNat
      | .i16 => F64.ofI64 (F64.signed 16 first.toNat)
      | .u32 | .i32 | .f32 => raw32 dataType (beNat (reorder32 registers byteOrder))
      | .u64 | .i64 | .f64 => raw64 dataType (beNat (reorder64 registers byteOrder))
    .ok (scaled raw scale offset)

abbrev RegisterDecoder :=
  List UInt16 → DataType → ByteOrder → Float → Float → Except DecodeError (Float × Float)

abbrev ByteDecoder :=
  List UInt8 → DataType → ByteOrder → Float → Float → Except DecodeError (Float × Float)

def mapByteOrder : Config.ByteOrder → ByteOrder
  | .bigEndian => .bigEndian
  | .littleEndian => .littleEndian
  | .midBigEndian => .midBigEndian
  | .midLittleEndian => .midLittleEndian

def mapDataType : Config.DataType → DataType
  | .u8 => .u8
  | .u16 => .u16
  | .i16 => .i16
  | .u32 => .u32
  | .i32 => .i32
  | .f32 => .f32
  | .u64 => .u64
  | .i64 => .i64
  | .f64 => .f64
  | .bool => .bool

@[simp] theorem registersNeeded_mapDataType (d : Config.DataType) :
    registersNeeded (mapDataType d) = d.registerCount.toNat := by
  cases d <;> rfl

@[simp] theorem byteCount_mapDataType (d : Config.DataType) :
    byteCount (mapDataType d) = d.byteSize := by
  cases d <;> rfl

theorem decode_ok {registers : List UInt16} {dataType : DataType}
    (enough : registersNeeded dataType ≤ registers.length) (byteOrder : ByteOrder)
    (scale offset : Float) :
    ∃ value, decode registers dataType byteOrder scale offset = .ok value := by
  unfold decode
  simp only [Nat.not_lt.mpr enough, if_false]
  exact ⟨_, rfl⟩

def decoded (value : Except DecodeError (Float × Float)) : Result (Float × Float) :=
  value.mapError fun e => ⟨e.text, []⟩

def bytesValue (decodeBytes : ByteDecoder) (metric : Config.MetricConfig) (bytes : List UInt8) :
    Result (Float × Float) :=
  decoded (decodeBytes bytes (mapDataType metric.dataType) (mapByteOrder metric.byteOrder)
    metric.scale metric.offset)

end BusExporter.Decoder
