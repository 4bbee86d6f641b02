import BusExporter.Lib.Bytes
import BusExporter.Model.Decoder

/-! Byte orders: the reordering of registers undoes the documented encodings, and registers decode as
their bytes on the wire do. -/

namespace BusExporter.Decoder
open Lib

theorem beNat_eq (bytes : List UInt8) : beNat bytes = beValue bytes := rfl

def ofBytes (hi lo : UInt8) : UInt16 := UInt16.ofNat (beNat [hi, lo])

def swapBytes (r : UInt16) : UInt16 := ofBytes (low r) (high r)

theorem high_toNat (r : UInt16) : (high r).toNat = r.toNat / 256 := by
  have small := r.toNat_lt
  simp only [high, UInt16.toNat_toUInt8, UInt16.toNat_shiftRight, UInt16.toNat_ofNat]
  rw [Nat.shiftRight_eq_div_pow]
  change r.toNat / 256 % 256 = r.toNat / 256
  omega

theorem low_toNat (r : UInt16) : (low r).toNat = r.toNat % 256 := UInt16.toNat_toUInt8 r

theorem ofBytes_toNat (hi lo : UInt8) : (ofBytes hi lo).toNat = hi.toNat * 256 + lo.toNat := by
  have big := hi.toNat_lt
  have small := lo.toNat_lt
  change (UInt16.ofNat ((0 * 256 + hi.toNat) * 256 + lo.toNat)).toNat = _
  rw [UInt16.toNat_ofNat']
  omega

@[simp] theorem high_ofBytes (hi lo : UInt8) : high (ofBytes hi lo) = hi := by
  have small := lo.toNat_lt
  rw [← UInt8.toNat_inj, high_toNat, ofBytes_toNat]
  omega

@[simp] theorem low_ofBytes (hi lo : UInt8) : low (ofBytes hi lo) = lo := by
  have small := lo.toNat_lt
  rw [← UInt8.toNat_inj, low_toNat, ofBytes_toNat]
  omega

@[simp] theorem ofBytes_high_low (r : UInt16) : ofBytes (high r) (low r) = r := by
  rw [← UInt16.toNat_inj, ofBytes_toNat, high_toNat, low_toNat]
  omega

@[simp] theorem swapBytes_ofBytes (hi lo : UInt8) : swapBytes (ofBytes hi lo) = ofBytes lo hi := by
  rw [swapBytes, low_ofBytes, high_ofBytes]

def u32ToRegs (byteOrder : ByteOrder) (val : UInt32) : List UInt16 :=
  match beBytes 4 val.toNat with
  | [b0, b1, b2, b3] =>
      let be0 := ofBytes b0 b1
      let be1 := ofBytes b2 b3
      match byteOrder with
      | .bigEndian => [be0, be1]
      | .littleEndian => [swapBytes be1, swapBytes be0]
      | .midBigEndian => [be1, be0]
      | .midLittleEndian => [swapBytes be0, swapBytes be1]
  | _ => []

def u64ToRegs (byteOrder : ByteOrder) (val : UInt64) : List UInt16 :=
  match beBytes 8 val.toNat with
  | [b0, b1, b2, b3, b4, b5, b6, b7] =>
      let be0 := ofBytes b0 b1
      let be1 := ofBytes b2 b3
      let be2 := ofBytes b4 b5
      let be3 := ofBytes b6 b7
      match byteOrder with
      | .bigEndian => [be0, be1, be2, be3]
      | .littleEndian => [swapBytes be3, swapBytes be2, swapBytes be1, swapBytes be0]
      | .midBigEndian => [be2, be3, be0, be1]
      | .midLittleEndian => [swapBytes be0, swapBytes be1, swapBytes be2, swapBytes be3]
  | _ => []

def u32FromBeBytes (bytes : List UInt8) : UInt32 := UInt32.ofNat (beNat bytes)

def u64FromBeBytes (bytes : List UInt8) : UInt64 := UInt64.ofNat (beNat bytes)

theorem reorder32_u32ToRegs (byteOrder : ByteOrder) (val : UInt32) :
    reorder32 (u32ToRegs byteOrder val) byteOrder = beBytes 4 val.toNat := by
  cases byteOrder <;> simp [u32ToRegs, beBytes, reorder32]

theorem reorder64_u64ToRegs (byteOrder : ByteOrder) (val : UInt64) :
    reorder64 (u64ToRegs byteOrder val) byteOrder = beBytes 8 val.toNat := by
  cases byteOrder <;> simp [u64ToRegs, beBytes, reorder64]

theorem beNat_u32ToRegs (byteOrder : ByteOrder) (val : UInt32) :
    beNat (reorder32 (u32ToRegs byteOrder val) byteOrder) = val.toNat := by
  rw [reorder32_u32ToRegs, beNat_eq, beValue_beBytes]
  exact Nat.mod_eq_of_lt val.toNat_lt

theorem beNat_u64ToRegs (byteOrder : ByteOrder) (val : UInt64) :
    beNat (reorder64 (u64ToRegs byteOrder val) byteOrder) = val.toNat := by
  rw [reorder64_u64ToRegs, beNat_eq, beValue_beBytes]
  exact Nat.mod_eq_of_lt val.toNat_lt

theorem toNat_u32FromBeBytes (bytes : List UInt8) (four : bytes.length = 4) :
    beBytes 4 (u32FromBeBytes bytes).toNat = bytes := by
  have small : beNat bytes < 2 ^ 32 := by
    have := beValue_lt bytes
    rwa [four] at this
  rw [u32FromBeBytes, UInt32.toNat_ofNat', Nat.mod_eq_of_lt small, beNat_eq, ← four, beBytes_beValue]

theorem toNat_u64FromBeBytes (bytes : List UInt8) (eight : bytes.length = 8) :
    beBytes 8 (u64FromBeBytes bytes).toNat = bytes := by
  have small : beNat bytes < 2 ^ 64 := by
    have := beValue_lt bytes
    rwa [eight] at this
  rw [u64FromBeBytes, UInt64.toNat_ofNat', Nat.mod_eq_of_lt small, beNat_eq, ← eight, beBytes_beValue]

theorem u32ToRegs_reorder32 (byteOrder : ByteOrder) (r0 r1 : UInt16) :
    u32ToRegs byteOrder (u32FromBeBytes (reorder32 [r0, r1] byteOrder)) = [r0, r1] := by
  have bytes := toNat_u32FromBeBytes (reorder32 [r0, r1] byteOrder) (by cases byteOrder <;> rfl)
  rw [u32ToRegs, bytes]
  cases byteOrder <;> simp [reorder32]

theorem u64ToRegs_reorder64 (byteOrder : ByteOrder) (r0 r1 r2 r3 : UInt16) :
    u64ToRegs byteOrder (u64FromBeBytes (reorder64 [r0, r1, r2, r3] byteOrder)) = [r0, r1, r2, r3] := by
  have bytes := toNat_u64FromBeBytes (reorder64 [r0, r1, r2, r3] byteOrder)
    (by cases byteOrder <;> rfl)
  rw [u64ToRegs, bytes]
  cases byteOrder <;> simp [reorder64]

section Decoding
variable (dataType : DataType) (byteOrder : ByteOrder) (scale offset : Float)

theorem decode_fails_iff (registers : List UInt16) :
    (∃ e, decode registers dataType byteOrder scale offset = .error e) ↔
      registers.length < registersNeeded dataType := by
  constructor
  · rintro ⟨e, failed⟩
    by_contra enough
    obtain ⟨value, decoded⟩ := decode_ok (Nat.not_lt.mp enough) byteOrder scale offset
    rw [decoded] at failed
    cases failed
  · intro short
    exact ⟨_, if_pos short⟩

theorem reorder32_append {registers : List UInt16} (enough : 2 ≤ registers.length)
    (more : List UInt16) : reorder32 (registers ++ more) byteOrder = reorder32 registers byteOrder := by
  obtain _ | ⟨r0, _ | ⟨r1, rest⟩⟩ := registers
  · simp at enough
  · simp at enough
  · cases byteOrder <;> rfl

theorem reorder64_append {registers : List UInt16} (enough : 4 ≤ registers.length)
    (more : List UInt16) : reorder64 (registers ++ more) byteOrder = reorder64 registers byteOrder := by
  obtain _ | ⟨r0, _ | ⟨r1, _ | ⟨r2, _ | ⟨r3, rest⟩⟩⟩⟩ := registers
  · simp at enough
  · simp at enough
  · simp at enough
  · simp at enough
  · cases byteOrder <;> rfl

theorem decode_append {registers : List UInt16} (enough : registersNeeded dataType ≤ registers.length)
    (more : List UInt16) :
    decode (registers ++ more) dataType byteOrder scale offset =
      decode registers dataType byteOrder scale offset := by
  have longer : ¬(registers ++ more).length < registersNeeded dataType := by
    rw [List.length_append]
    omega
  have first : (registers ++ more).headD 0 = registers.headD 0 := by
    cases registers with
    | nil => cases dataType <;> simp [registersNeeded] at enough
    | cons r rest => rfl
  simp only [decode, longer, Nat.not_lt.mpr enough, if_false, first]
  cases dataType with
  | u8 | u16 | i16 | bool => rfl
  | u32 | i32 | f32 => rw [reorder32_append byteOrder enough]
  | u64 | i64 | f64 => rw [reorder64_append byteOrder enough]

theorem decode_take {registers : List UInt16} (enough : registersNeeded dataType ≤ registers.length) :
    decode registers dataType byteOrder scale offset =
      decode (registers.take (registersNeeded dataType)) dataType byteOrder scale offset := by
  have kept : registersNeeded dataType ≤ (registers.take (registersNeeded dataType)).length := by
    rw [List.length_take]
    omega
  rw [← decode_append dataType byteOrder scale offset kept, List.take_append_drop]

theorem decode_u32ToRegs (two : registersNeeded dataType = 2) (val : UInt32) :
    decode (u32ToRegs byteOrder val) dataType byteOrder scale offset =
      .ok (scaled (raw32 dataType val.toNat) scale offset) := by
  have enough : (u32ToRegs byteOrder val).length = 2 := by
    cases byteOrder <;> simp [u32ToRegs, beBytes]
  have word := beNat_u32ToRegs byteOrder val
  simp only [decode, enough, two, Nat.lt_irrefl, if_false, word]
  cases dataType <;> simp [registersNeeded] at two <;> rfl

theorem decode_u64ToRegs (four : registersNeeded dataType = 4) (val : UInt64) :
    decode (u64ToRegs byteOrder val) dataType byteOrder scale offset =
      .ok (scaled (raw64 dataType val.toNat) scale offset) := by
  have enough : (u64ToRegs byteOrder val).length = 4 := by
    cases byteOrder <;> simp [u64ToRegs, beBytes]
  have word := beNat_u64ToRegs byteOrder val
  simp only [decode, enough, four, Nat.lt_irrefl, if_false, word]
  cases dataType <;> simp [registersNeeded] at four <;> rfl

def wireBytes (registers : List UInt16) : List UInt8 := registers.flatMap fun r => [high r, low r]

theorem length_wireBytes (registers : List UInt16) :
    (wireBytes registers).length = 2 * registers.length := by
  induction registers with
  | nil => rfl
  | cons r rest ih =>
      rw [wireBytes, List.flatMap_cons, List.length_append, ← wireBytes, ih, List.length_cons,
        List.length_cons, List.length_cons, List.length_nil]
      omega

/-- The same value, or a failure of both: one counts registers, the other bytes. -/
def SameDecoding (a b : Except DecodeError (Float × Float)) : Prop :=
  (∃ value, a = .ok value ∧ b = .ok value) ∨ (∃ e e', a = .error e ∧ b = .error e')

theorem wordOf_wire32 {registers : List UInt16} (enough : 2 ≤ registers.length)
    (plain : byteOrder = .bigEndian ∨ byteOrder = .littleEndian) :
    wordOf byteOrder ((wireBytes registers).take 4) = beNat (reorder32 registers byteOrder) := by
  obtain _ | ⟨r0, _ | ⟨r1, rest⟩⟩ := registers
  · simp at enough
  · simp at enough
  · rcases plain with rfl | rfl <;> rfl

theorem wordOf_wire64 {registers : List UInt16} (enough : 4 ≤ registers.length)
    (plain : byteOrder = .bigEndian ∨ byteOrder = .littleEndian) :
    wordOf byteOrder ((wireBytes registers).take 8) = beNat (reorder64 registers byteOrder) := by
  obtain _ | ⟨r0, _ | ⟨r1, _ | ⟨r2, _ | ⟨r3, rest⟩⟩⟩⟩ := registers
  · simp at enough
  · simp at enough
  · simp at enough
  · simp at enough
  · rcases plain with rfl | rfl <;> rfl

theorem decodeBytes_wire (wide : registersNeeded dataType ≠ 1)
    (plain : byteOrder = .bigEndian ∨ byteOrder = .littleEndian) (registers : List UInt16) :
    SameDecoding (decode registers dataType byteOrder scale offset)
      (decodeBytes (wireBytes registers) dataType byteOrder scale offset) := by
  have sizes : byteCount dataType = 2 * registersNeeded dataType := by
    cases dataType <;> first | rfl | exact absurd rfl wide
  have long := length_wireBytes registers
  rcases Nat.lt_or_ge registers.length (registersNeeded dataType) with short | enough
  · exact .inr ⟨_, _, if_pos short, if_pos (by omega)⟩
  · have bytes : ¬(wireBytes registers).length < byteCount dataType := by omega
    simp only [decode, decodeBytes, bytes, Nat.not_lt.mpr enough, if_false]
    cases dataType with
    | u8 | u16 | i16 | bool => exact absurd rfl wide
    | u32 | i32 | f32 =>
        rw [wordOf_wire32 byteOrder enough plain]
        exact .inl ⟨_, rfl, rfl⟩
    | u64 | i64 | f64 =>
        rw [wordOf_wire64 byteOrder enough plain]
        exact .inl ⟨_, rfl, rfl⟩

theorem decodeBytes_wire16 (word : dataType = .u16 ∨ dataType = .i16) (registers : List UInt16) :
    SameDecoding (decode registers dataType byteOrder scale offset)
      (decodeBytes (wireBytes registers) dataType .bigEndian scale offset) := by
  cases registers with
  | nil => rcases word with rfl | rfl <;> exact .inr ⟨_, _, rfl, rfl⟩
  | cons r rest =>
      have value : wordOf .bigEndian ((wireBytes (r :: rest)).take 2) = r.toNat := by
        change (0 * 256 + (high r).toNat) * 256 + (low r).toNat = r.toNat
        rw [high_toNat, low_toNat]
        omega
      rcases word with rfl | rfl <;> simp only [decode, decodeBytes, value] <;>
        exact .inl ⟨_, rfl, rfl⟩

/-- What decoding depends on, for each byte order: the leading registers, reordered into the word that
they encode; and for the plain orders, their bytes on the wire. -/
theorem decode_registers :
    (∀ registers,
      ((∃ e, decode registers dataType byteOrder scale offset = .error e) ↔
        registers.length < registersNeeded dataType) ∧
      (registersNeeded dataType ≤ registers.length →
        decode registers dataType byteOrder scale offset =
          decode (registers.take (registersNeeded dataType)) dataType byteOrder scale offset)) ∧
    (∀ val : UInt32, u32FromBeBytes (reorder32 (u32ToRegs byteOrder val) byteOrder) = val ∧
      (registersNeeded dataType = 2 →
        decode (u32ToRegs byteOrder val) dataType byteOrder scale offset =
          .ok (scaled (raw32 dataType val.toNat) scale offset))) ∧
    (∀ r0 r1, u32ToRegs byteOrder (u32FromBeBytes (reorder32 [r0, r1] byteOrder)) = [r0, r1]) ∧
    (∀ val : UInt64, u64FromBeBytes (reorder64 (u64ToRegs byteOrder val) byteOrder) = val ∧
      (registersNeeded dataType = 4 →
        decode (u64ToRegs byteOrder val) dataType byteOrder scale offset =
          .ok (scaled (raw64 dataType val.toNat) scale offset))) ∧
    (∀ r0 r1 r2 r3,
      u64ToRegs byteOrder (u64FromBeBytes (reorder64 [r0, r1, r2, r3] byteOrder)) = [r0, r1, r2, r3]) ∧
    (registersNeeded dataType ≠ 1 → (byteOrder = .bigEndian ∨ byteOrder = .littleEndian) → ∀ registers,
      SameDecoding (decode registers dataType byteOrder scale offset)
        (decodeBytes (wireBytes registers) dataType byteOrder scale offset)) ∧
    ((dataType = .u16 ∨ dataType = .i16) → ∀ registers,
      SameDecoding (decode registers dataType byteOrder scale offset)
        (decodeBytes (wireBytes registers) dataType .bigEndian scale offset)) := by
  refine ⟨?_, ?_, u32ToRegs_reorder32 byteOrder, ?_, u64ToRegs_reorder64 byteOrder, ?_, ?_⟩
  · intro registers
    exact ⟨decode_fails_iff dataType byteOrder scale offset registers,
      decode_take dataType byteOrder scale offset⟩
  · intro val
    refine ⟨?_, fun two => decode_u32ToRegs dataType byteOrder scale offset two val⟩
    rw [u32FromBeBytes, beNat_u32ToRegs, UInt32.ofNat_toNat]
  · intro val
    refine ⟨?_, fun four => decode_u64ToRegs dataType byteOrder scale offset four val⟩
    rw [u64FromBeBytes, beNat_u64ToRegs, UInt64.ofNat_toNat]
  · exact decodeBytes_wire dataType byteOrder scale offset
  · exact decodeBytes_wire16 dataType byteOrder scale offset

/-- A single register is not read as its two bytes are: an even flag register is set, its bytes are not. -/
theorem flag_register_differs :
    ¬∀ (registers : List UInt16) (dataType : DataType) (byteOrder : ByteOrder) (scale offset : Float),
      (byteOrder = .bigEndian ∨ byteOrder = .littleEndian) →
        SameDecoding (decode registers dataType byteOrder scale offset)
          (decodeBytes (wireBytes registers) dataType byteOrder scale offset) := by
  intro all
  have flag := all [2] .bool .bigEndian 1.0 0.0 (.inl rfl)
  rcases flag with ⟨value, set, unset⟩ | ⟨e, e', failed, -⟩
  · have raw : (1.0 : Float) = 0.0 := by
      have pairs := Except.ok.inj (set.trans unset.symm)
      exact congrArg Prod.fst pairs
    revert raw
    decide
  · cases failed

end Decoding

end BusExporter.Decoder
