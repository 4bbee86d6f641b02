import BusExporter.Lib.Text
import BusExporter.Model.I3c
import BusExporter.Model.Validate

/-! How the PID of the config is found among those of sysfs. The two are compared as texts, so that a number
that is written with another count of digits is another PID. -/

namespace BusExporter.I3c
open Lib Config

def pidText (pid : String) : List Char := trimStartMatches ['0', 'X'] (trimStartMatches ['0', 'x'] pid.toList)

def pidNumber (pid : String) : Option Nat := fromStrRadix 16 (2 ^ 64 - 1) (pidText pid)

def hexDigits : List Char → List Char
  | '0' :: 'x' :: rest => rest
  | '0' :: 'X' :: rest => rest
  | text => text

def hexNumber (text : List Char) : Option Nat :=
  if hexDigits text = [] then none
  else ((hexDigits text).mapM (digitValue 16)).map fun values => Nat.ofDigits 16 values.reverse

def Selects (pid content : String) : Prop := normalizePid (trim content) = normalizePid pid

theorem findPid_cons {pid content text : String} {entry : SysfsEntry} (rest : List (Result SysfsEntry))
    (named : entry.pid = .ok content) (addressed : entry.dynamicAddress = .ok text) :
    (Selects pid content → findPid pid (.ok entry :: rest) = parseAddress text) ∧
      (¬Selects pid content → findPid pid (.ok entry :: rest) = findPid pid rest) := by
  rw [findPid, named, addressed]
  exact ⟨fun selected => if_pos selected, fun other => if_neg other⟩

theorem removeHexPrefixes_prefixed (count : Nat) (rest : List Char) :
    removeHexPrefixes ((List.replicate count ['0', 'x']).flatten ++ rest) = removeHexPrefixes rest := by
  induction count with
  | zero => rfl
  | succ count ih =>
      rw [List.replicate_succ, List.flatten_cons, List.append_assoc]
      exact ih

theorem removeHexPrefixes_free {text : List Char} (free : 'x' ∉ text) : removeHexPrefixes text = text := by
  fun_induction removeHexPrefixes text with
  | case1 rest ih => simp at free
  | case2 c rest other ih => rw [ih fun member => free (List.mem_cons_of_mem _ member)]
  | case3 => rfl

theorem x_not_mem_digitChars {values : List Nat} (small : ∀ v ∈ values, v < 16) :
    'x' ∉ values.map Nat.digitChar ∧ '+' ∉ values.map Nat.digitChar := by
  have table : ∀ v : Fin 16, v.val.digitChar ≠ 'x' ∧ v.val.digitChar ≠ '+' := by decide
  constructor
  · intro member
    obtain ⟨v, inValues, same⟩ := List.mem_map.mp member
    exact (table ⟨v, small v inValues⟩).1 same
  · intro member
    obtain ⟨v, inValues, same⟩ := List.mem_map.mp member
    exact (table ⟨v, small v inValues⟩).2 same

theorem toLower_toList (text : String) : text.toLower.toList = text.toList.map Char.toLower := String.toList_map

theorem toList_trim (text : String) :
    (trim text).toList =
      ((text.toList.dropWhile Char.isWhitespace).reverse.dropWhile Char.isWhitespace).reverse :=
  toList_trimAscii text

theorem normalizePid_prefixed {text : String} {digits : List Char} {count : Nat}
    (lower : text.toList.map Char.toLower = (List.replicate count ['0', 'x']).flatten ++ digits.map Char.toLower)
    (free : 'x' ∉ digits.map Char.toLower) : normalizePid text = digits.map Char.toLower := by
  rw [normalizePid, toLower_toList, lower, removeHexPrefixes_prefixed, removeHexPrefixes_free free]

theorem hexDigits_lower (text : List Char) :
    ∃ count, text.map Char.toLower =
      (List.replicate count ['0', 'x']).flatten ++ (hexDigits text).map Char.toLower := by
  unfold hexDigits
  split
  · exact ⟨1, rfl⟩
  · exact ⟨1, rfl⟩
  · exact ⟨0, rfl⟩

theorem normalizePid_number {text : String} {values : List Nat}
    (digits : (hexDigits text.toList).mapM (digitValue 16) = some values) :
    normalizePid text = (hexDigits text.toList).map Char.toLower := by
  obtain ⟨lower, small⟩ := map_toLower_digits digits
  obtain ⟨count, whole⟩ := hexDigits_lower text.toList
  apply normalizePid_prefixed whole
  rw [lower]
  exact (x_not_mem_digitChars small).1

theorem pidText_lower (pid : String) :
    ∃ count, pid.toList.map Char.toLower =
      (List.replicate count ['0', 'x']).flatten ++ (pidText pid).map Char.toLower := by
  obtain ⟨small, split⟩ := trimStartMatches_split ['0', 'x'] pid.toList
  obtain ⟨large, split'⟩ := trimStartMatches_split ['0', 'X'] (trimStartMatches ['0', 'x'] pid.toList)
  refine ⟨small + large, ?_⟩
  have lower : ['0', 'x'].map Char.toLower = ['0', 'x'] := by decide
  have lower' : ['0', 'X'].map Char.toLower = ['0', 'x'] := by decide
  rw [split, split', List.map_append, List.map_append, List.map_flatten, List.map_flatten, List.map_replicate,
    List.map_replicate, lower, lower', List.replicate_add, List.flatten_append, List.append_assoc]
  rfl

theorem normalizePid_accepted {pid : String} {values : List Nat}
    (digits : (unsigned (pidText pid)).mapM (digitValue 16) = some values) :
    normalizePid pid = (pidText pid).map Char.toLower := by
  obtain ⟨lower, small⟩ := map_toLower_digits digits
  obtain ⟨count, whole⟩ := pidText_lower pid
  have free := (x_not_mem_digitChars small).1
  rw [← lower] at free
  apply normalizePid_prefixed whole
  rcases unsigned_cases (pidText pid) with signed | ⟨-, plain⟩
  · rw [signed, List.map_cons, List.mem_cons]
    rintro (plus | digit)
    · exact absurd plus (by decide)
    · exact free digit
  · rwa [plain] at free

theorem utf8Length_digits {text : List Char} {values : List Nat}
    (digits : text.mapM (digitValue 16) = some values) : utf8Length text = text.length := by
  have ascii {c : Char} {v : Nat} (digit : digitValue 16 c = some v) : c.utf8Size = 1 := by
    rw [Char.utf8Size_eq_one_iff, UInt32.le_iff_toNat_le]
    exact Nat.le_of_lt_succ (digitValue_ascii digit)
  have each := mapM_forall ascii digits
  clear digits
  rw [utf8Length]
  induction each with
  | nil => rfl
  | cons one _ ih => rw [List.map_cons, List.sum_cons, one, ih, List.length_cons, Nat.add_comm]

theorem accepted_cases {pid : String} (accepted : validPid pid = true) :
    ∃ values, (unsigned (pidText pid)).mapM (digitValue 16) = some values ∧
      pidNumber pid = some (Nat.ofDigits 16 values.reverse) ∧ utf8Length (pidText pid) = 12 := by
  have both : (utf8Length (pidText pid) == 12 && (pidNumber pid).isSome) = true := accepted
  obtain ⟨length, number⟩ := Bool.and_eq_true_iff.mp both
  obtain ⟨n, number⟩ := Option.isSome_iff_exists.mp number
  obtain ⟨values, digits, -, rfl, -⟩ := fromStrRadix_eq_some.mp number
  exact ⟨values, digits, number, beq_iff_eq.mp length⟩

theorem hexNumber_eq_some {text : List Char} {n : Nat} (number : hexNumber text = some n) :
    ∃ values, (hexDigits text).mapM (digitValue 16) = some values ∧ Nat.ofDigits 16 values.reverse = n := by
  unfold hexNumber at number
  split_ifs at number
  exact Option.map_eq_some_iff.mp number

theorem sign_not_mem_lower {text : List Char} {values : List Nat}
    (digits : text.mapM (digitValue 16) = some values) : '+' ∉ text.map Char.toLower := by
  obtain ⟨lower, small⟩ := map_toLower_digits digits
  rw [lower]
  exact (x_not_mem_digitChars small).2

theorem agree_iff {selects fits same : Prop} (exact : selects ↔ fits ∧ same) :
    (selects ↔ same) ↔ (same → fits) := by
  rw [exact]
  tauto

/-- A PID that is accepted selects a device of sysfs just when the two are the same number, exactly if they are
different numbers, or both are written with twelve digits and no sign. -/
theorem pid_selects_iff {pid content : String} (accepted : validPid pid = true) {n : Nat}
    (number : hexNumber (trim content).toList = some n) :
    (Selects pid content ↔ pidNumber pid = some n) ↔
      (pidNumber pid = some n →
        (hexDigits (trim content).toList).length = 12 ∧ (pidText pid).head? ≠ some '+') := by
  obtain ⟨values, digits, value, length⟩ := accepted_cases accepted
  obtain ⟨values', digits', rfl⟩ := hexNumber_eq_some number
  rw [Selects, normalizePid_number digits', normalizePid_accepted digits, value, Option.some.injEq]
  apply agree_iff
  rcases unsigned_cases (pidText pid) with signed | ⟨plain, unsigned⟩
  · have sign : (pidText pid).head? = some '+' := by rw [signed]; rfl
    refine ⟨fun same => ?_, fun both => absurd sign both.1.2⟩
    have member : '+' ∈ (pidText pid).map Char.toLower := by
      rw [signed]
      exact List.mem_cons_self
    rw [← same] at member
    exact absurd member (sign_not_mem_lower digits')
  · rw [unsigned] at digits
    rw [map_toLower_eq_iff digits' digits, ← utf8Length_digits digits, length, and_iff_left plain]
    exact ⟨fun both => ⟨both.1, both.2.symm⟩, fun both => ⟨both.1, both.2.symm⟩⟩

theorem pid_selects_sensor :
    hexNumber (trim "4cb50a000123\n").toList = pidNumber "0x4CB50A000123" ∧
      Selects "0x4CB50A000123" "4cb50a000123\n" := by
  have number : hexNumber (trim "4cb50a000123\n").toList = some 0x4CB50A000123 := by
    rw [toList_trim]
    decide
  have same : pidNumber "0x4CB50A000123" = some 0x4CB50A000123 := by decide
  refine ⟨number.trans same.symm, ?_⟩
  apply ((pid_selects_iff (by decide) number).mpr ?_).mpr same
  intro _
  rw [toList_trim]
  decide

/-- The leading zero of the configured PID is not among the digits of sysfs. -/
theorem pid_not_found :
    validPid "0x0123456789AB" = true ∧ pidNumber "0x0123456789AB" = some 0x123456789AB ∧
      hexNumber (trim "123456789ab\n").toList = some 0x123456789AB ∧
      ¬Selects "0x0123456789AB" "123456789ab\n" := by
  have digits : (trim "123456789ab\n").toList = "123456789ab".toList := by
    rw [toList_trim]
    decide
  refine ⟨by decide, by decide, by rw [digits]; decide, ?_⟩
  intro same
  rw [Selects, normalizePid, normalizePid, toLower_toList, toLower_toList, digits] at same
  exact absurd same (by decide)

end BusExporter.I3c
