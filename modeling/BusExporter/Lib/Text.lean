import BusExporter.Lib.F64
import BusExporter.Lib.Primitives
import Mathlib.Data.List.TakeWhile
import Mathlib.Data.Nat.Digits.Defs

/-! Prefixes, separators and digits of text, and the numbers that digits stand for. -/

namespace BusExporter.Lib

def stripPrefix (pattern text : List Char) : Option (List Char) :=
  if pattern.isPrefixOf text then some (text.drop pattern.length) else none

def splitOnce (separator : Char) (text : List Char) : Option (List Char × List Char) :=
  match text.span (· != separator) with
  | (before, _ :: after) => some (before, after)
  | (_, []) => none

def parseU16 (text : List Char) : Option UInt16 := (fromStrRadix 10 65535 text).map UInt16.ofNat

theorem stripPrefix_append (pattern text : List Char) : stripPrefix pattern (pattern ++ text) = some text := by
  rw [stripPrefix, if_pos (List.isPrefixOf_iff_prefix.mpr (List.prefix_append ..)), List.drop_left]

theorem stripPrefix_singleton_none {c : Char} {text : List Char} (other : text.head? ≠ some c) :
    stripPrefix [c] text = none := by
  rw [stripPrefix, if_neg]
  intro starts
  obtain ⟨rest, rfl⟩ := List.isPrefixOf_iff_prefix.mp starts
  exact other rfl

section Separators
variable {separator : Char}

theorem span_separator {before : List Char} (free : separator ∉ before) (after : List Char) :
    (before ++ separator :: after).span (· != separator) = (before, separator :: after) := by
  have passed : ∀ c ∈ before, (c != separator) = true := fun c member =>
    bne_iff_ne.mpr fun same => free (same ▸ member)
  rw [List.span_eq_takeWhile_dropWhile, List.takeWhile_append_of_pos passed,
    List.dropWhile_append_of_pos passed, List.takeWhile_cons_of_neg (by simp),
    List.dropWhile_cons_of_neg (by simp), List.append_nil]

theorem splitOnce_append {before : List Char} (free : separator ∉ before) (after : List Char) :
    splitOnce separator (before ++ separator :: after) = some (before, after) := by
  rw [splitOnce, span_separator free]

theorem rsplitOnce_append (before : List Char) {after : List Char} (free : separator ∉ after) :
    rsplitOnce separator (before ++ separator :: after) = some (before, after) := by
  have backwards : (before ++ separator :: after).reverse = after.reverse ++ separator :: before.reverse := by
    simp
  rw [rsplitOnce, backwards, span_separator (by simpa using free)]
  simp

theorem rsplitOnce_none {text : List Char} (free : separator ∉ text) : rsplitOnce separator text = none := by
  have passed : ∀ c ∈ text.reverse, (c != separator) = true := fun c member =>
    bne_iff_ne.mpr fun same => free (same ▸ List.mem_reverse.mp member)
  rw [rsplitOnce, List.span_eq_takeWhile_dropWhile, List.dropWhile_eq_nil_iff.mpr passed]

theorem last_separator {text : List Char} (member : separator ∈ text) :
    ∃ before after, text = before ++ separator :: after ∧ separator ∉ after := by
  obtain ⟨front, back, split, free⟩ := List.eq_append_cons_of_mem (List.mem_reverse.mpr member)
  refine ⟨back.reverse, front.reverse, ?_, by simpa using free⟩
  have whole := congrArg List.reverse split
  simpa using whole

/-- Two texts with a separator between their parts are the same when it is the same one, or when the text
between the two is moved from one part to the other. -/
theorem append_separator_eq_iff {front back front' back' : List Char} :
    front ++ separator :: back = front' ++ separator :: back' ↔
      (front = front' ∧ back = back') ∨
        (∃ moved, front' = front ++ separator :: moved ∧ back = moved ++ separator :: back') ∨
          ∃ moved, front = front' ++ separator :: moved ∧ back' = moved ++ separator :: back := by
  constructor
  · intro same
    rcases List.append_eq_append_iff.mp same with ⟨moved, rfl, rest⟩ | ⟨moved, rfl, rest⟩
    · cases moved with
      | nil =>
          obtain ⟨-, rfl⟩ := List.cons.inj rest
          exact .inl ⟨by simp, rfl⟩
      | cons c moved =>
          obtain ⟨rfl, rfl⟩ := List.cons.inj rest
          exact .inr (.inl ⟨moved, rfl, rfl⟩)
    · cases moved with
      | nil =>
          obtain ⟨-, rfl⟩ := List.cons.inj rest
          exact .inl ⟨by simp, rfl⟩
      | cons c moved =>
          obtain ⟨rfl, rfl⟩ := List.cons.inj rest
          exact .inr (.inr ⟨moved, rfl, rfl⟩)
  · rintro (⟨rfl, rfl⟩ | ⟨moved, rfl, rfl⟩ | ⟨moved, rfl, rfl⟩)
    · rfl
    · simp
    · simp

end Separators

theorem dropWhile_eq_of_append {α : Type} {p : α → Bool} {front back : List α} (all : front.all p = true)
    (stops : back.head?.any p = false) : (front ++ back).dropWhile p = back := by
  rw [List.dropWhile_append_of_pos (by simpa using all)]
  cases back with
  | nil => rfl
  | cons c back => rw [List.dropWhile_cons_of_neg (by simpa using stops)]

theorem toList_dropWhile (text : String.Slice) (p : Char → Bool) :
    (text.dropWhile p).copy.toList = text.copy.toList.dropWhile p := by
  have split : (text.takeWhile p).copy.toList ++ (text.dropWhile p).copy.toList = text.copy.toList := by
    rw [← String.toList_append, String.Slice.takeWhile_append_dropWhile]
  have all : (text.takeWhile p).copy.toList.all p = true := by
    rw [← String.Slice.all_bool_eq, String.Slice.all_takeWhile]
  have stops : (text.dropWhile p).copy.toList.head?.any p = false := by
    rw [← String.Slice.startsWith_bool_eq_head?, String.Slice.startsWith_dropWhile]
  rw [← split, dropWhile_eq_of_append all stops]

theorem toList_dropEndWhile (text : String.Slice) (p : Char → Bool) :
    (text.dropEndWhile p).copy.toList = (text.copy.toList.reverse.dropWhile p).reverse := by
  have split : (text.dropEndWhile p).copy.toList ++ (text.takeEndWhile p).copy.toList = text.copy.toList := by
    rw [← String.toList_append, String.Slice.dropEndWhile_append_takeEndWhile]
  have all : (text.takeEndWhile p).copy.toList.reverse.all p = true := by
    rw [List.all_reverse, ← String.Slice.revAll_bool_eq, String.Slice.revAll_takeEndWhile]
  have stops : (text.dropEndWhile p).copy.toList.reverse.head?.any p = false := by
    rw [List.head?_reverse, ← String.Slice.endsWith_bool_eq_getLast?, String.Slice.endsWith_dropEndWhile]
  rw [← split, List.reverse_append, dropWhile_eq_of_append all stops, List.reverse_reverse]

theorem toList_trimAscii (text : String) :
    text.trimAscii.copy.toList =
      ((text.toList.dropWhile Char.isWhitespace).reverse.dropWhile Char.isWhitespace).reverse := by
  change ((text.toSlice.dropWhile Char.isWhitespace).dropEndWhile Char.isWhitespace).copy.toList = _
  rw [toList_dropEndWhile, toList_dropWhile, String.copy_toSlice]

theorem trimStartMatches_split (pattern text : List Char) :
    ∃ count, text = (List.replicate count pattern).flatten ++ trimStartMatches pattern text := by
  have tries (fuel : Nat) : ∀ text : List Char,
      ∃ count, text = (List.replicate count pattern).flatten ++ trimStartMatches.go pattern fuel text := by
    induction fuel with
    | zero => exact fun text => ⟨0, rfl⟩
    | succ fuel ih =>
        intro text
        rw [trimStartMatches.go]
        split_ifs with starts
        · obtain ⟨rest, rfl⟩ := List.isPrefixOf_iff_prefix.mp starts.2
          obtain ⟨count, split⟩ := ih rest
          refine ⟨count + 1, ?_⟩
          rw [List.drop_left, List.replicate_succ, List.flatten_cons, List.append_assoc, ← split]
        · exact ⟨0, rfl⟩
  exact tries text.length text

def unsigned : List Char → List Char
  | '+' :: rest => rest
  | text => text

theorem unsigned_of_head {text : List Char} (plain : text.head? ≠ some '+') : unsigned text = text := by
  unfold unsigned
  split
  · exact absurd rfl plain
  · rfl

theorem unsigned_cases (text : List Char) :
    text = '+' :: unsigned text ∨ text.head? ≠ some '+' ∧ unsigned text = text := by
  by_cases sign : text.head? = some '+'
  · obtain ⟨rest, rfl⟩ := List.head?_eq_some_iff.mp sign
    exact .inl rfl
  · exact .inr ⟨sign, unsigned_of_head sign⟩

theorem foldl_digits (radix : Nat) (values : List Nat) :
    values.foldl (fun acc d => acc * radix + d) 0 = Nat.ofDigits radix values.reverse := by
  induction values using List.reverseRecOn with
  | nil => rfl
  | append_singleton values last ih =>
      rw [List.foldl_append, ih, List.reverse_append, List.reverse_singleton, List.singleton_append,
        Nat.ofDigits_cons, List.foldl_cons, List.foldl_nil, Nat.mul_comm, Nat.add_comm]

theorem fromStrRadix_eq (radix limit : Nat) (text : List Char) :
    fromStrRadix radix limit text =
      if unsigned text = [] then none
      else ((unsigned text).mapM (digitValue radix)).bind fun values =>
        if Nat.ofDigits radix values.reverse ≤ limit then some (Nat.ofDigits radix values.reverse) else none := by
  have read (digits : List Char) :
      (if digits.isEmpty then none
      else (digits.mapM (digitValue radix)).bind fun values =>
        if values.foldl (fun acc d => acc * radix + d) 0 ≤ limit
          then some (values.foldl (fun acc d => acc * radix + d) 0) else none) =
      if digits = [] then none
      else (digits.mapM (digitValue radix)).bind fun values =>
        if Nat.ofDigits radix values.reverse ≤ limit then some (Nat.ofDigits radix values.reverse) else none := by
    simp only [foldl_digits, List.isEmpty_iff]
  unfold fromStrRadix
  split
  · exact read _
  · rename_i plain
    have same : unsigned text = text := unsigned_of_head fun sign => by
      obtain ⟨rest, rfl⟩ := List.head?_eq_some_iff.mp sign
      exact plain rest rfl
    rw [same]
    exact read text

theorem fromStrRadix_eq_some {radix limit n : Nat} {text : List Char} :
    fromStrRadix radix limit text = some n ↔
      ∃ values, (unsigned text).mapM (digitValue radix) = some values ∧ unsigned text ≠ [] ∧
        Nat.ofDigits radix values.reverse = n ∧ n ≤ limit := by
  rw [fromStrRadix_eq]
  constructor
  · intro read
    split_ifs at read with empty
    obtain ⟨values, digits, bounded⟩ := Option.bind_eq_some_iff.mp read
    split_ifs at bounded with small
    obtain rfl := Option.some.inj bounded
    exact ⟨values, digits, empty, rfl, small⟩
  · rintro ⟨values, digits, nonempty, rfl, small⟩
    rw [if_neg nonempty, digits, Option.bind_some, if_pos small]

theorem digitValue_lt {radix v : Nat} {c : Char} (digit : digitValue radix c = some v) : v < radix := by
  simpa using (Option.filter_eq_some_iff.mp digit).2

theorem mapM_eq_some_map {α β : Type} {f : α → Option β} {g : α → β} {xs : List α}
    (each : ∀ x ∈ xs, f x = some (g x)) : xs.mapM f = some (xs.map g) := by
  induction xs with
  | nil => rfl
  | cons x xs ih =>
      rw [List.mapM_cons, each x List.mem_cons_self, ih fun y member => each y (List.mem_cons_of_mem _ member)]
      rfl

theorem mapM_forall {α β : Type} {f : α → Option β} {P : α → β → Prop} (each : ∀ {x y}, f x = some y → P x y)
    {xs : List α} {ys : List β} (mapped : xs.mapM f = some ys) : List.Forall₂ P xs ys := by
  induction xs generalizing ys with
  | nil =>
      obtain rfl := Option.some.inj mapped
      exact .nil
  | cons x xs ih =>
      rw [List.mapM_cons] at mapped
      obtain ⟨y, first, mapped⟩ := Option.bind_eq_some_iff.mp mapped
      obtain ⟨rest, others, mapped⟩ := Option.bind_eq_some_iff.mp mapped
      obtain rfl := Option.some.inj mapped
      exact .cons (each first) (ih others)

theorem digitValue_decimal {c : Char} (digit : c.isDigit = true) :
    digitValue 10 c = some (c.toNat - '0'.toNat) := by
  obtain ⟨low, high⟩ : '0' ≤ c ∧ c ≤ '9' := by
    simpa [Char.isDigit, Char.le_def] using digit
  have small : c.toNat - '0'.toNat < 10 := by
    have bound : c.toNat ≤ '9'.toNat := high
    have nine : '9'.toNat = 57 := rfl
    have zero : '0'.toNat = 48 := rfl
    omega
  rw [digitValue, if_pos ⟨low, high⟩]
  simpa using small

theorem fromStrRadix_toDigits {n limit : Nat} (small : n ≤ limit) :
    fromStrRadix 10 limit (Nat.toDigits 10 n) = some n := by
  have plain : (Nat.toDigits 10 n).head? ≠ some '+' := fun sign =>
    F64.not_mem_toDigits rfl n (List.mem_of_head? sign)
  rw [fromStrRadix_eq_some, unsigned_of_head plain]
  refine ⟨_, mapM_eq_some_map fun c member => digitValue_decimal (F64.digit_of_toDigits member),
    Nat.toDigits_ne_nil, ?_, small⟩
  rw [← foldl_digits, List.foldl_map]
  have value : Nat.ofDigitChars 10 (Nat.toDigits 10 n) 0 = n := Nat.ofDigitChars_ten_toDigits
  rw [Nat.ofDigitChars_eq_foldl] at value
  simpa only [Nat.mul_comm 10] using value

theorem parseU16_toDigits (n : UInt16) : parseU16 (Nat.toDigits 10 n.toNat) = some n := by
  have small : n.toNat ≤ 65535 := by
    have := n.toNat_lt
    omega
  rw [parseU16, fromStrRadix_toDigits small, Option.map_some, UInt16.ofNat_toNat]

theorem digitValue_ascii {radix v : Nat} {c : Char} (digit : digitValue radix c = some v) : c.toNat < 128 := by
  have ascii {low high : Char} (between : low ≤ c ∧ c ≤ high) (small : high.toNat < 128) : c.toNat < 128 :=
    lt_of_le_of_lt (show c.toNat ≤ high.toNat from between.2) small
  simp only [digitValue] at digit
  split_ifs at digit with decimal lower upper
  · exact ascii decimal (by decide)
  · exact ascii lower (by decide)
  · exact ascii upper (by decide)
  · cases digit

theorem toLower_of_digitValue {v : Nat} {c : Char} (digit : digitValue 16 c = some v) :
    c.toLower = v.digitChar := by
  have table : ∀ n : Fin 128, (digitValue 16 (Char.ofNat n)).all
      fun v => (Char.ofNat n).toLower == v.digitChar := by decide
  have entry := table ⟨c.toNat, digitValue_ascii digit⟩
  rw [Char.ofNat_toNat, digit] at entry
  simpa using entry

theorem digitChar_inj {v w : Nat} (small : v < 16) (small' : w < 16) (same : v.digitChar = w.digitChar) :
    v = w := by
  have table : ∀ v w : Fin 16, v.val.digitChar = w.val.digitChar → v = w := by decide
  exact congrArg Fin.val (table ⟨v, small⟩ ⟨w, small'⟩ same)

theorem map_digitChar_inj {values values' : List Nat} (small : ∀ v ∈ values, v < 16)
    (small' : ∀ v ∈ values', v < 16) (same : values.map Nat.digitChar = values'.map Nat.digitChar) :
    values = values' := by
  induction values generalizing values' with
  | nil => exact (List.map_eq_nil_iff.mp same.symm).symm
  | cons v values ih =>
      cases values' with
      | nil => cases same
      | cons w values' =>
          obtain ⟨first, rest⟩ := List.cons.inj same
          obtain ⟨small, others⟩ := List.forall_mem_cons.mp small
          obtain ⟨small', others'⟩ := List.forall_mem_cons.mp small'
          rw [digitChar_inj small small' first, ih others others' rest]

theorem map_toLower_digits {text : List Char} {values : List Nat}
    (digits : text.mapM (digitValue 16) = some values) :
    text.map Char.toLower = values.map Nat.digitChar ∧ ∀ v ∈ values, v < 16 := by
  have each := mapM_forall (P := fun c v => c.toLower = v.digitChar ∧ v < 16)
    (fun digit => ⟨toLower_of_digitValue digit, digitValue_lt digit⟩) digits
  clear digits
  induction each with
  | nil => exact ⟨rfl, by simp⟩
  | cons first _ ih =>
      refine ⟨by rw [List.map_cons, List.map_cons, first.1, ih.1], ?_⟩
      exact List.forall_mem_cons.mpr ⟨first.2, ih.2⟩

theorem map_toLower_eq_iff {text text' : List Char} {values values' : List Nat}
    (digits : text.mapM (digitValue 16) = some values) (digits' : text'.mapM (digitValue 16) = some values') :
    text.map Char.toLower = text'.map Char.toLower ↔
      text.length = text'.length ∧ Nat.ofDigits 16 values.reverse = Nat.ofDigits 16 values'.reverse := by
  obtain ⟨lower, small⟩ := map_toLower_digits digits
  obtain ⟨lower', small'⟩ := map_toLower_digits digits'
  have size : text.length = values.length := by simpa using congrArg List.length lower
  have size' : text'.length = values'.length := by simpa using congrArg List.length lower'
  rw [lower, lower']
  constructor
  · intro same
    obtain rfl := map_digitChar_inj small small' same
    exact ⟨size.trans size'.symm, rfl⟩
  · rintro ⟨length, number⟩
    have reversed := Nat.ofDigits_inj_of_len_eq (by decide)
      (by rw [List.length_reverse, List.length_reverse, ← size, ← size', length])
      (fun v member => small v (List.mem_reverse.mp member))
      (fun v member => small' v (List.mem_reverse.mp member)) number
    rw [List.reverse_inj.mp reversed]

end BusExporter.Lib
