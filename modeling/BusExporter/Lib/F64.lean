import BusExporter.Lib.Primitives
import Mathlib.Data.Nat.Digits.Lemmas
import Mathlib.Tactic.Tauto

/-! Conversions to 64-bit floats, and their display text: the shortest decimal that reads back as
the same float, without an exponent. -/

namespace BusExporter.Lib.F64
open Float.Model

def signed (width n : Nat) : Int := if n < 2 ^ (width - 1) then n else n - 2 ^ width

def ofU64 (n : Nat) : Float := Float.ofNat n

def ofI64 (n : Int) : Float := Float.ofInt n

def ofF32 (x : Float32) : Float :=
  .ofModel <| .pack <| match x.toModel.unpack with
    | .finite sign mantissa exponent _ => UnpackedFloat.round Format.binary64 sign mantissa exponent
    | special => special

def asSecsF64 (d : Duration) : Float :=
  ofU64 (d / 1000000000) + ofU64 (d % 1000000000) / ofU64 1000000000

def fraction (mantissa : Nat) (exponent : Int) : Nat × Nat :=
  if 0 ≤ exponent then (mantissa * 2 ^ exponent.toNat, 1) else (mantissa, 2 ^ (-exponent).toNat)

def decimalExponent (num den : Nat) : Int :=
  if den ≤ num then (Nat.toDigits 10 (num / den)).length
  else 1 - (((List.range 400).find? fun j => den ≤ num * 10 ^ j).getD 400 : Nat)

def read (digits : Nat) (exponent : Int) : Float :=
  Float.ofScientific digits (exponent < 0) exponent.natAbs

/-- The nearest decimal with `n` digits that reads back as `x`, where there is one. -/
def decimalWith (x : Float) (num den n : Nat) : Option (Nat × Int) :=
  let exponent := decimalExponent num den - n
  let scaled := if 0 ≤ exponent then (num, den * 10 ^ exponent.toNat)
    else (num * 10 ^ (-exponent).toNat, den)
  let low := scaled.1 / scaled.2
  let lowReads := read low exponent == x
  let highReads := read (low + 1) exponent == x
  if lowReads && (!highReads || 2 * (scaled.1 % scaled.2) ≤ scaled.2) then some (low, exponent)
  else if highReads then some (low + 1, exponent)
  else none

def shortest (x : Float) (num den : Nat) : Nat × Int :=
  (((List.range 17).map (· + 1)).findSome? (decimalWith x num den)).getD (0, 0)

def decimalText (digits : Nat) (exponent : Int) : List Char :=
  if 0 ≤ exponent then Nat.toDigits 10 (digits * 10 ^ exponent.toNat)
  else
    let places := (-exponent).toNat
    Duration.decimal (digits / 10 ^ places) (digits % 10 ^ places) places

def signText : UnpackedFloat.Sign → List Char
  | .positive => []
  | .negative => ['-']

def displayChars (x : Float) : List Char :=
  match x.toModel.unpack with
  | .notANumber => ['N', 'a', 'N']
  | .infinity sign => signText sign ++ ['i', 'n', 'f']
  | .zero sign => signText sign ++ ['0']
  | .finite sign mantissa exponent _ =>
      let size := fraction mantissa exponent
      let decimal := shortest x.abs size.1 size.2
      signText sign ++ decimalText decimal.1 decimal.2

def display (x : Float) : String := String.ofList (displayChars x)

def numeric (c : Char) : Bool := c.isDigit || c ∈ ['-', '.', 'N', 'a', 'i', 'n', 'f']

theorem digit_of_toDigits {n : Nat} {c : Char} (member : c ∈ Nat.toDigits 10 n) : c.isDigit = true :=
  Nat.isDigit_of_mem_toDigits (by omega) (by omega) member

theorem not_mem_toDigits {c : Char} (other : c.isDigit = false) (n : Nat) : c ∉ Nat.toDigits 10 n := by
  intro member
  rw [digit_of_toDigits member] at other
  cases other

theorem numeric_toDigits {n : Nat} {c : Char} (member : c ∈ Nat.toDigits 10 n) : numeric c = true := by
  simp [numeric, digit_of_toDigits member]

theorem numeric_decimal {whole fraction digits : Nat} {c : Char}
    (member : c ∈ Duration.decimal whole fraction digits) : numeric c = true := by
  unfold Duration.decimal at member
  rcases List.mem_append.mp member with inWhole | inFraction
  · exact numeric_toDigits (by simpa using inWhole)
  · split at inFraction
    · simp at inFraction
    · rcases List.mem_cons.mp inFraction with rfl | kept
      · decide
      · have inside := List.mem_of_mem_tail (List.mem_reverse.mp
          ((List.dropWhile_suffix _).subset (List.mem_reverse.mp kept)))
        exact numeric_toDigits (by simpa using inside)

theorem numeric_word {c : Char} (member : c ∈ ['-', '.', 'N', 'a', 'i', 'n', 'f']) :
    numeric c = true := by
  rw [numeric, decide_eq_true member, Bool.or_true]

theorem numeric_signText {sign : UnpackedFloat.Sign} {c : Char} (member : c ∈ signText sign) :
    numeric c = true := by
  cases sign with
  | positive => cases member
  | negative =>
      apply numeric_word
      rw [List.mem_singleton.mp member]
      exact List.mem_cons_self

theorem numeric_displayChars {x : Float} {c : Char} (member : c ∈ displayChars x) :
    numeric c = true := by
  unfold displayChars at member
  split at member
  · apply numeric_word
    simp only [List.mem_cons, List.not_mem_nil, or_false] at member ⊢
    tauto
  · rcases List.mem_append.mp member with inSign | inWord
    · exact numeric_signText inSign
    · apply numeric_word
      simp only [List.mem_cons, List.not_mem_nil, or_false] at inWord ⊢
      tauto
  · rcases List.mem_append.mp member with inSign | zero
    · exact numeric_signText inSign
    · rw [List.mem_singleton.mp zero]
      rfl
  · rcases List.mem_append.mp member with inSign | inDecimal
    · exact numeric_signText inSign
    · unfold decimalText at inDecimal
      split at inDecimal
      · exact numeric_toDigits inDecimal
      · exact numeric_decimal inDecimal

end BusExporter.Lib.F64
