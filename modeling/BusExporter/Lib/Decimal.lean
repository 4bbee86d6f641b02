import BusExporter.Lib.F64
import Mathlib.Algebra.Order.Field.Basic
import Mathlib.Algebra.Order.Field.Rat
import Mathlib.Data.List.TakeWhile
import Mathlib.Data.Nat.Cast.Field
import Mathlib.Tactic.FieldSimp
import Mathlib.Tactic.Linarith
import Mathlib.Tactic.NormNum

/-! Decimal text with a fixed number of places, and the reading of decimal text as a rational number. -/

namespace BusExporter.Lib.Decimal

/-- The nearest natural number to a fraction, the even one of two that are equally near. -/
def roundHalfEven (num den : Nat) : Nat :=
  let low := num / den
  let twice := 2 * (num % den)
  if twice < den then low else if den < twice then low + 1 else low + low % 2

def fixedChars (places units : Nat) : List Char :=
  Nat.toDigits 10 (units / 10 ^ places) ++
    if places = 0 then [] else '.' :: (Nat.toDigits 10 (units % 10 ^ places)).leftpad places '0'

def readDigits (text : List Char) : Option Nat :=
  if text ≠ [] ∧ text.all Char.isDigit then some (Nat.ofDigitChars 10 text 0) else none

def readUnsigned (text : List Char) : Option ℚ :=
  match text.dropWhile (· ≠ '.') with
  | [] => (readDigits text).map fun (n : Nat) => (n : ℚ)
  | _ :: fraction =>
      (readDigits (text.takeWhile (· ≠ '.'))).bind fun (whole : Nat) =>
        (readDigits fraction).map fun (part : Nat) => (whole + part / 10 ^ fraction.length : ℚ)

def readDecimal : List Char → Option ℚ
  | '-' :: rest => (readUnsigned rest).map fun q => -q
  | text => readUnsigned text

def readInteger : List Char → Option Int
  | '-' :: rest => (readDigits rest).map fun (n : Nat) => -(n : Int)
  | text => (readDigits text).map Int.ofNat

theorem roundHalfEven_bounds (num : Nat) {den : Nat} (positive : 0 < den) :
    2 * (den * roundHalfEven num den) ≤ 2 * num + den ∧ 2 * num ≤ 2 * (den * roundHalfEven num den) + den := by
  have split := Nat.div_add_mod num den
  have rest := Nat.mod_lt num positive
  have parity : num / den % 2 = 0 ∨ num / den % 2 = 1 := by omega
  unfold roundHalfEven
  generalize num / den = low at split parity ⊢
  generalize num % den = part at split rest ⊢
  dsimp only
  split_ifs with down up
  · omega
  · rw [Nat.mul_add]
    omega
  · rcases parity with even | odd
    · rw [even, Nat.add_zero]
      omega
    · rw [odd, Nat.mul_add]
      omega

theorem roundHalfEven_near (num : Nat) {den : Nat} (positive : 0 < den) :
    |(roundHalfEven num den : ℚ) - num / den| ≤ 1 / 2 := by
  have scale : (0 : ℚ) < den := by exact_mod_cast positive
  obtain ⟨above, below⟩ := roundHalfEven_bounds num positive
  have above : 2 * ((den : ℚ) * roundHalfEven num den) ≤ 2 * num + den := by exact_mod_cast above
  have below : 2 * (num : ℚ) ≤ 2 * (den * roundHalfEven num den) + den := by exact_mod_cast below
  have difference : (roundHalfEven num den : ℚ) - num / den = (den * roundHalfEven num den - num) / den := by
    field_simp
  rw [difference, abs_div, abs_of_pos scale, div_le_iff₀ scale, abs_le]
  constructor <;> linarith

theorem readDigits_toDigits (n : Nat) : readDigits (Nat.toDigits 10 n) = some n := by
  have digits : (Nat.toDigits 10 n).all Char.isDigit = true :=
    List.all_eq_true.mpr fun c member => F64.digit_of_toDigits member
  rw [readDigits, if_pos ⟨Nat.toDigits_ne_nil, digits⟩, Nat.ofDigitChars_ten_toDigits]

theorem toDigits_head (n : Nat) : (Nat.toDigits 10 n).head? ≠ some '-' := fun minus =>
  F64.not_mem_toDigits rfl n (List.mem_of_head? minus)

theorem readInteger_toString (n : Int) : readInteger (toString n).toList = some n := by
  cases n with
  | ofNat n =>
      have text : (toString (Int.ofNat n)).toList = Nat.toDigits 10 n := by
        change (Nat.repr n).toList = _
        simp
      rw [text]
      unfold readInteger
      split
      · rename_i digits
        exact absurd (congrArg List.head? digits) (toDigits_head n)
      · rw [readDigits_toDigits, Option.map_some]
  | negSucc n =>
      have text : (toString (Int.negSucc n)).toList = '-' :: Nat.toDigits 10 (n + 1) := by
        change ("-" ++ Nat.repr (n + 1)).toList = _
        simp
      rw [text, readInteger, readDigits_toDigits, Option.map_some]
      rfl

theorem dot_not_mem_toDigits (n : Nat) : ∀ c ∈ Nat.toDigits 10 n, decide (c ≠ '.') = true := by
  intro c member
  rw [decide_eq_true_eq]
  rintro rfl
  exact F64.not_mem_toDigits rfl n member

theorem readUnsigned_toDigits (n : Nat) : readUnsigned (Nat.toDigits 10 n) = some (n : ℚ) := by
  have dropped := List.dropWhile_eq_nil_iff.mpr (dot_not_mem_toDigits n)
  simp only [readUnsigned, dropped, readDigits_toDigits, Option.map_some]

theorem readDigits_leftpad (places : Nat) {n : Nat} : readDigits ((Nat.toDigits 10 n).leftpad places '0') = some n := by
  have digits : ((Nat.toDigits 10 n).leftpad places '0').all Char.isDigit = true := by
    rw [List.all_eq_true]
    intro c member
    rcases List.mem_append.mp member with zero | digit
    · rw [List.eq_of_mem_replicate zero]
      rfl
    · exact F64.digit_of_toDigits digit
  have nonempty : (Nat.toDigits 10 n).leftpad places '0' ≠ [] := by
    simp [List.leftpad]
  rw [readDigits, if_pos ⟨nonempty, digits⟩, List.leftpad, Nat.ofDigitChars_append,
    Nat.ofDigitChars_replicate_zero, Nat.mul_zero, Nat.ofDigitChars_ten_toDigits]

theorem length_leftpad_toDigits {places n : Nat} (small : n < 10 ^ places) (some : places ≠ 0) :
    ((Nat.toDigits 10 n).leftpad places '0').length = places := by
  rw [List.length_leftpad]
  exact Nat.max_eq_left ((Nat.length_toDigits_le_iff (by decide) (Nat.pos_of_ne_zero some)).mpr small)

theorem readUnsigned_fixedChars (places units : Nat) :
    readUnsigned (fixedChars places units) = some (units / 10 ^ places : ℚ) := by
  unfold fixedChars
  by_cases none : places = 0
  · subst none
    simp [readUnsigned_toDigits]
  · rw [if_neg none]
    have free := dot_not_mem_toDigits (units / 10 ^ places)
    have whole : (Nat.toDigits 10 (units / 10 ^ places) ++
        '.' :: (Nat.toDigits 10 (units % 10 ^ places)).leftpad places '0').takeWhile (· ≠ '.') =
          Nat.toDigits 10 (units / 10 ^ places) := by
      rw [List.takeWhile_append_of_pos free, List.takeWhile_cons_of_neg (by simp), List.append_nil]
    have part : (Nat.toDigits 10 (units / 10 ^ places) ++
        '.' :: (Nat.toDigits 10 (units % 10 ^ places)).leftpad places '0').dropWhile (· ≠ '.') =
          '.' :: (Nat.toDigits 10 (units % 10 ^ places)).leftpad places '0' := by
      rw [List.dropWhile_append_of_pos free, List.dropWhile_cons_of_neg (by simp)]
    have small : units % 10 ^ places < 10 ^ places := Nat.mod_lt _ (by positivity)
    simp only [readUnsigned, whole, part, readDigits_toDigits, readDigits_leftpad, Option.bind_some,
      Option.map_some, length_leftpad_toDigits small none, Option.some.injEq]
    have split : (units : ℚ) = 10 ^ places * (units / 10 ^ places : ℕ) + (units % 10 ^ places : ℕ) := by
      exact_mod_cast (Nat.div_add_mod units (10 ^ places)).symm
    rw [split]
    field_simp

open F64 Float.Model

def withSign : UnpackedFloat.Sign → ℚ → ℚ
  | .positive, q => q
  | .negative, q => -q

def exact (x : Float) : Option ℚ :=
  match x.toModel.unpack with
  | .notANumber => none
  | .infinity _ => none
  | .zero _ => some 0
  | .finite sign mantissa exponent _ =>
      let size := fraction mantissa exponent
      some (withSign sign (size.1 / size.2))

def isWhole (x : Float) : Bool :=
  match x.toModel.unpack with
  | .notANumber => false
  | .infinity _ => false
  | .zero _ => true
  | .finite _ mantissa exponent _ =>
      let size := fraction mantissa exponent
      size.1 % size.2 == 0

def clampI64 (n : Int) : Int := max (-2 ^ 63) (min (2 ^ 63 - 1) n)

def asI64 (x : Float) : Int :=
  match x.toModel.unpack with
  | .notANumber => 0
  | .infinity .positive => 2 ^ 63 - 1
  | .infinity .negative => -2 ^ 63
  | .zero _ => 0
  | .finite .positive mantissa exponent _ =>
      let size := fraction mantissa exponent
      clampI64 (size.1 / size.2 : Nat)
  | .finite .negative mantissa exponent _ =>
      let size := fraction mantissa exponent
      clampI64 (-(size.1 / size.2 : Nat))

def fixedFloat (places : Nat) (x : Float) : List Char :=
  match x.toModel.unpack with
  | .notANumber => ['N', 'a', 'N']
  | .infinity sign => signText sign ++ ['i', 'n', 'f']
  | .zero sign => signText sign ++ fixedChars places 0
  | .finite sign mantissa exponent _ =>
      let size := fraction mantissa exponent
      signText sign ++ fixedChars places (roundHalfEven (size.1 * 10 ^ places) size.2)

/-- The text of a float, up to half a unit of its last place. -/
def Near (places : Nat) (text : List Char) (x : Float) : Prop :=
  exact x = none ∧ text = displayChars x ∨
    ∃ q r, readDecimal text = some q ∧ exact x = some r ∧ |q - r| ≤ 1 / (2 * 10 ^ places)

theorem fraction_positive (mantissa : Nat) (exponent : Int) : 0 < (fraction mantissa exponent).2 := by
  unfold fraction
  split_ifs
  · exact Nat.one_pos
  · exact Nat.two_pow_pos _

theorem quotient_whole {num den : ℕ} (positive : 0 < den) {n : ℤ} (same : (num / den : ℚ) = n) :
    num % den = 0 ∧ n = (num / den : ℕ) := by
  have scale : (den : ℚ) ≠ 0 := by exact_mod_cast positive.ne'
  have product : (num : ℤ) = n * den := by exact_mod_cast (div_eq_iff scale).mp same
  have divides : den ∣ num := Int.natCast_dvd_natCast.mp ⟨n, by rw [product, mul_comm]⟩
  refine ⟨Nat.mod_eq_zero_of_dvd divides, ?_⟩
  rw [Int.natCast_div, product, Int.mul_ediv_cancel _ (by exact_mod_cast positive.ne')]

theorem quotient_exact {num den : ℕ} (positive : 0 < den) (whole : num % den = 0) :
    (num / den : ℚ) = ((num / den : ℕ) : ℤ) := by
  have scale : (den : ℚ) ≠ 0 := by exact_mod_cast positive.ne'
  rw [Int.cast_natCast, Nat.cast_div (Nat.dvd_of_mod_eq_zero whole) scale]

theorem negated {q : ℚ} {n : ℤ} (same : withSign .negative q = n) : q = ((-n : ℤ) : ℚ) := by
  rw [Int.cast_neg, ← same, withSign, neg_neg]

theorem isWhole_iff {x : Float} : isWhole x = true ↔ ∃ n : ℤ, exact x = some (n : ℚ) := by
  unfold isWhole exact
  cases x.toModel.unpack with
  | notANumber => simp
  | infinity sign => simp
  | zero sign => exact ⟨fun _ => ⟨0, by simp⟩, fun _ => rfl⟩
  | finite sign mantissa exponent small =>
      have positive := fraction_positive mantissa exponent
      rw [beq_iff_eq]
      constructor
      · intro whole
        have same := quotient_exact positive whole
        cases sign with
        | positive => exact ⟨_, congrArg some same⟩
        | negative => exact ⟨-_, congrArg some (by rw [withSign, same, Int.cast_neg])⟩
      · rintro ⟨n, same⟩
        have same := Option.some.inj same
        cases sign with
        | positive => exact (quotient_whole positive same).1
        | negative => exact (quotient_whole positive (negated same)).1

theorem asI64_exact {x : Float} {n : ℤ} (whole : exact x = some (n : ℚ)) : asI64 x = clampI64 n := by
  unfold exact at whole
  unfold asI64
  cases kind : x.toModel.unpack with
  | notANumber => simp [kind] at whole
  | infinity sign => simp [kind] at whole
  | zero sign =>
      rw [kind] at whole
      obtain rfl : n = 0 := by exact_mod_cast (Option.some.inj whole).symm
      rfl
  | finite sign mantissa exponent small =>
      rw [kind] at whole
      have positive := fraction_positive mantissa exponent
      have same := Option.some.inj whole
      cases sign with
      | positive => exact congrArg clampI64 (quotient_whole positive same).2.symm
      | negative =>
          have size := (quotient_whole positive (negated same)).2
          dsimp only
          rw [← size, neg_neg]

theorem clampI64_eq_iff {n : ℤ} : clampI64 n = n ↔ -2 ^ 63 ≤ n ∧ n < 2 ^ 63 := by
  unfold clampI64
  omega

theorem fixedChars_near (places num : Nat) {den : Nat} (positive : 0 < den) :
    ∃ q, readUnsigned (fixedChars places (roundHalfEven (num * 10 ^ places) den)) = some q ∧
      |q - num / den| ≤ 1 / (2 * 10 ^ places) := by
  refine ⟨_, readUnsigned_fixedChars places _, ?_⟩
  have near := roundHalfEven_near (num * 10 ^ places) positive
  have scale : (0 : ℚ) < 10 ^ places := by positivity
  have difference : (roundHalfEven (num * 10 ^ places) den : ℚ) / 10 ^ places - num / den =
      (roundHalfEven (num * 10 ^ places) den - (num * 10 ^ places : ℕ) / den) / 10 ^ places := by
    push_cast
    field_simp
  rw [difference, abs_div, abs_of_pos scale, div_le_div_iff₀ scale (by positivity)]
  linarith [mul_le_mul_of_nonneg_right near scale.le]

theorem readDecimal_unsigned {text : List Char} {q : ℚ} (read : readUnsigned text = some q)
    (plain : text.head? ≠ some '-') : readDecimal text = some q := by
  unfold readDecimal
  split
  · simp at plain
  · exact read

theorem fixedChars_head (places units : Nat) : (fixedChars places units).head? ≠ some '-' := by
  unfold fixedChars
  cases digits : Nat.toDigits 10 (units / 10 ^ places) with
  | nil => exact absurd digits Nat.toDigits_ne_nil
  | cons c rest =>
      have first : c ∈ Nat.toDigits 10 (units / 10 ^ places) := by
        rw [digits]
        exact List.mem_cons_self
      intro minus
      obtain rfl := Option.some.inj minus
      exact F64.not_mem_toDigits rfl _ first

theorem readDecimal_signed (sign : UnpackedFloat.Sign) {text : List Char} {q : ℚ}
    (read : readUnsigned text = some q) (plain : text.head? ≠ some '-') :
    readDecimal (signText sign ++ text) = some (withSign sign q) := by
  cases sign with
  | positive => exact readDecimal_unsigned read plain
  | negative =>
      have minus : signText .negative ++ text = '-' :: text := rfl
      rw [minus, readDecimal, read]
      rfl

theorem withSign_near (sign : UnpackedFloat.Sign) {q r bound : ℚ} (near : |q - r| ≤ bound) :
    |withSign sign q - withSign sign r| ≤ bound := by
  cases sign with
  | positive => exact near
  | negative =>
      rw [abs_sub_comm] at near
      simpa [withSign, neg_add_eq_sub] using near

theorem fixedFloat_near (places : Nat) (x : Float) : Near places (fixedFloat places x) x := by
  unfold Near fixedFloat exact displayChars
  cases x.toModel.unpack with
  | notANumber => exact .inl ⟨rfl, rfl⟩
  | infinity sign => exact .inl ⟨rfl, rfl⟩
  | zero sign =>
      refine .inr ⟨_, _, readDecimal_signed sign (readUnsigned_fixedChars places 0) (fixedChars_head _ _), rfl, ?_⟩
      have none : withSign sign ((0 : ℕ) / 10 ^ places) = 0 := by cases sign <;> simp [withSign]
      rw [none, sub_self, abs_zero]
      positivity
  | finite sign mantissa exponent small =>
      obtain ⟨q, read, near⟩ :=
        fixedChars_near places (fraction mantissa exponent).1 (fraction_positive mantissa exponent)
      exact .inr ⟨_, _, readDecimal_signed sign read (fixedChars_head _ _), rfl, withSign_near sign near⟩

theorem numeric_fixedChars {places units : Nat} {c : Char} (member : c ∈ fixedChars places units) :
    numeric c = true := by
  unfold fixedChars at member
  rcases List.mem_append.mp member with whole | part
  · exact numeric_toDigits whole
  · split_ifs at part
    · cases part
    · rcases List.mem_cons.mp part with rfl | inPart
      · decide
      · rcases List.mem_append.mp inPart with zero | digit
        · rw [List.eq_of_mem_replicate zero]
          decide
        · exact numeric_toDigits digit

theorem numeric_fixedFloat {places : Nat} {x : Float} {c : Char} (member : c ∈ fixedFloat places x) :
    numeric c = true := by
  unfold fixedFloat at member
  cases kind : x.toModel.unpack with
  | notANumber =>
      apply numeric_displayChars (x := x)
      rw [kind] at member
      rwa [displayChars, kind]
  | infinity sign =>
      apply numeric_displayChars (x := x)
      rw [kind] at member
      rwa [displayChars, kind]
  | zero sign =>
      rw [kind] at member
      rcases List.mem_append.mp member with inSign | inDecimal
      · exact numeric_signText inSign
      · exact numeric_fixedChars inDecimal
  | finite sign mantissa exponent small =>
      rw [kind] at member
      rcases List.mem_append.mp member with inSign | inDecimal
      · exact numeric_signText inSign
      · exact numeric_fixedChars inDecimal

end BusExporter.Lib.Decimal
