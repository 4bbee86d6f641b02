import Mathlib.Data.Nat.ModEq
import Mathlib.Tactic.Ring

/-! Words and their bytes, the most significant byte first. -/

namespace BusExporter.Lib

def beValue (bytes : List UInt8) : Nat := bytes.foldl (fun acc b => acc * 256 + b.toNat) 0

def beBytes : Nat → Nat → List UInt8
  | 0, _ => []
  | width + 1, n => UInt8.ofNat (n / 256 ^ width) :: beBytes width n

@[simp] theorem length_beBytes (width n : Nat) : (beBytes width n).length = width := by
  induction width with
  | zero => rfl
  | succ width ih => rw [beBytes, List.length_cons, ih]

theorem beValue_cons (b : UInt8) (bytes : List UInt8) :
    beValue (b :: bytes) = b.toNat * 256 ^ bytes.length + beValue bytes := by
  have fold (acc : Nat) : bytes.foldl (fun acc b => acc * 256 + b.toNat) acc =
      acc * 256 ^ bytes.length + beValue bytes := by
    induction bytes generalizing acc with
    | nil => simp [beValue]
    | cons c bytes ih =>
        have first : beValue (c :: bytes) = c.toNat * 256 ^ bytes.length + beValue bytes := by
          rw [beValue, List.foldl_cons, ih, Nat.zero_mul, Nat.zero_add]
        rw [List.foldl_cons, ih, first, List.length_cons]
        ring
  rw [beValue, List.foldl_cons, fold, Nat.zero_mul, Nat.zero_add]

theorem beValue_lt (bytes : List UInt8) : beValue bytes < 256 ^ bytes.length := by
  induction bytes with
  | nil => simp [beValue]
  | cons b bytes ih =>
      have small : b.toNat + 1 ≤ 256 := b.toNat_lt
      calc beValue (b :: bytes) = b.toNat * 256 ^ bytes.length + beValue bytes := beValue_cons b bytes
        _ < b.toNat * 256 ^ bytes.length + 256 ^ bytes.length := by omega
        _ = (b.toNat + 1) * 256 ^ bytes.length := by ring
        _ ≤ 256 * 256 ^ bytes.length := Nat.mul_le_mul_right _ small
        _ = 256 ^ (b :: bytes).length := by rw [List.length_cons, Nat.pow_succ']

theorem beValue_beBytes (width n : Nat) : beValue (beBytes width n) = n % 256 ^ width := by
  induction width with
  | zero => rw [beBytes, Nat.pow_zero, Nat.mod_one, beValue, List.foldl_nil]
  | succ width ih =>
      have head : (UInt8.ofNat (n / 256 ^ width)).toNat = n / 256 ^ width % 256 := UInt8.toNat_ofNat'
      rw [beBytes, beValue_cons, ih, length_beBytes, head, Nat.pow_succ, Nat.mod_mul, Nat.mul_comm,
        Nat.add_comm]

theorem beBytes_mod (width n : Nat) : beBytes width (n % 256 ^ width) = beBytes width n := by
  have whole (width more : Nat) : beBytes width (n % 256 ^ (width + more)) = beBytes width n := by
    induction width generalizing more with
    | zero => rfl
    | succ width ih =>
        have head : n % 256 ^ (width + 1 + more) / 256 ^ width % 256 = n / 256 ^ width % 256 := by
          rw [Nat.add_assoc, Nat.pow_add, Nat.mod_mul_right_div_self, Nat.pow_add, Nat.pow_one,
            Nat.mod_mul_right_mod]
        have tail := ih (1 + more)
        rw [← Nat.add_assoc] at tail
        rw [beBytes, beBytes, tail]
        congr 1
        apply UInt8.toNat_inj.mp
        rw [UInt8.toNat_ofNat', UInt8.toNat_ofNat']
        exact head
  exact whole width 0

theorem beBytes_beValue (bytes : List UInt8) : beBytes bytes.length (beValue bytes) = bytes := by
  induction bytes with
  | nil => rfl
  | cons b bytes ih =>
      have rest := beValue_lt bytes
      have positive : 0 < 256 ^ bytes.length := Nat.pow_pos (by decide)
      have head : (b.toNat * 256 ^ bytes.length + beValue bytes) / 256 ^ bytes.length = b.toNat := by
        rw [Nat.mul_comm, Nat.mul_add_div positive, Nat.div_eq_of_lt rest, Nat.add_zero]
      have tail : (b.toNat * 256 ^ bytes.length + beValue bytes) % 256 ^ bytes.length =
          beValue bytes := by
        rw [Nat.mul_comm, Nat.mul_add_mod, Nat.mod_eq_of_lt rest]
      rw [List.length_cons, beBytes, beValue_cons, head, UInt8.ofNat_toNat, ← beBytes_mod, tail, ih]

end BusExporter.Lib
