import Mathlib.Algebra.GroupWithZero.Nat
import Mathlib.Data.List.Basic
import Mathlib.Tactic.SplitIfs

/-! Fixed-width integer, duration and text operations of a systems language, on Lean's own types. -/

namespace BusExporter.Lib

def satAdd (a b : UInt16) : UInt16 := UInt16.ofNat (min (a.toNat + b.toNat) 65535)

def satSub (a b : UInt16) : UInt16 := UInt16.ofNat (a.toNat - b.toNat)

def asU16 (n : Nat) : UInt16 := UInt16.ofNat n

@[simp] theorem satAdd_toNat (a b : UInt16) : (satAdd a b).toNat = min (a.toNat + b.toNat) 65535 := by
  simp only [satAdd, UInt16.toNat_ofNat']
  omega

@[simp] theorem satSub_toNat (a b : UInt16) : (satSub a b).toNat = a.toNat - b.toNat := by
  have := a.toNat_lt
  simp only [satSub, UInt16.toNat_ofNat']
  omega

@[simp] theorem asU16_toNat (n : Nat) : (asU16 n).toNat = n % 65536 := by
  simp [asU16]

theorem asU16_exact {n : Nat} (small : n ≤ 65535) : (asU16 n).toNat = n := by
  rw [asU16_toNat]
  omega

theorem max_toNat (a b : UInt16) : (max a b).toNat = max a.toNat b.toNat := by
  change (if a ≤ b then b else a).toNat = _
  by_cases order : a ≤ b
  · rw [if_pos order, Nat.max_eq_right (UInt16.le_iff_toNat_le.mp order)]
  · rw [if_neg order, Nat.max_eq_left (by rw [UInt16.le_iff_toNat_le] at order; omega)]

theorem except_bind_ok {ε α β : Type} {x : Except ε α} {f : α → Except ε β} {b : β}
    (done : x >>= f = .ok b) : ∃ a, x = .ok a ∧ f a = .ok b := by
  cases x with
  | error e => cases done
  | ok a => exact ⟨a, rfl, done⟩

abbrev Duration := Nat

namespace Duration

def fromSecs (secs : Nat) : Duration := secs * 1000000000

def asMillis (d : Duration) : Nat := d / 1000000

def decimal (whole fraction digits : Nat) : List Char :=
  let padded := (toString (10 ^ digits + fraction)).toList.tail
  let kept := (padded.reverse.dropWhile (· == '0')).reverse
  (toString whole).toList ++ if kept.isEmpty then [] else '.' :: kept

def debug (d : Duration) : String :=
  if 1000000000 ≤ d then String.ofList (decimal (d / 1000000000) (d % 1000000000) 9 ++ ['s'])
  else if 1000000 ≤ d then String.ofList (decimal (d / 1000000) (d % 1000000) 6 ++ ['m', 's'])
  else if 1000 ≤ d then String.ofList (decimal (d / 1000) (d % 1000) 3 ++ ['µ', 's'])
  else String.ofList (decimal d 0 0 ++ ['n', 's'])

end Duration

def trimStartMatches (pattern text : List Char) : List Char :=
  go text.length text
where
  go : Nat → List Char → List Char
    | 0, text => text
    | fuel + 1, text =>
        if pattern ≠ [] ∧ pattern.isPrefixOf text then go fuel (text.drop pattern.length) else text

def isWhitespace (c : Char) : Bool :=
  let n := c.toNat
  (9 ≤ n && n ≤ 13) || n == 0x20 || n == 0x85 || n == 0xA0 || n == 0x1680 || (0x2000 ≤ n && n ≤ 0x200A) ||
    n == 0x2028 || n == 0x2029 || n == 0x202F || n == 0x205F || n == 0x3000

def trimEnd (text : String) : String :=
  String.ofList (text.toList.reverse.dropWhile isWhitespace).reverse

def rsplitOnce (separator : Char) (text : List Char) : Option (List Char × List Char) :=
  match text.reverse.span (· != separator) with
  | (after, _ :: before) => some (before.reverse, after.reverse)
  | (_, []) => none

def digitValue (radix : Nat) (c : Char) : Option Nat :=
  let value :=
    if '0' ≤ c ∧ c ≤ '9' then some (c.toNat - '0'.toNat)
    else if 'a' ≤ c ∧ c ≤ 'z' then some (c.toNat - 'a'.toNat + 10)
    else if 'A' ≤ c ∧ c ≤ 'Z' then some (c.toNat - 'A'.toNat + 10)
    else none
  value.filter (· < radix)

def fromStrRadix (radix limit : Nat) (text : List Char) : Option Nat :=
  let digits := match text with
    | '+' :: rest => rest
    | _ => text
  if digits.isEmpty then none
  else (digits.mapM (digitValue radix)).bind fun values =>
    let value := values.foldl (fun acc d => acc * radix + d) 0
    if value ≤ limit then some value else none

def replaceChar (c : Char) (replacement text : List Char) : List Char :=
  text.flatMap fun d => if d = c then replacement else [d]

def hexPrefixed (width n : Nat) : String :=
  let digits := Nat.toDigits 16 n
  String.ofList (['0', 'x'] ++ List.replicate (width - 2 - digits.length) '0' ++ digits)

end BusExporter.Lib
