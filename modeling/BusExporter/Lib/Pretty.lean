import BusExporter.Lib.Exposition
import BusExporter.Lib.F64
import BusExporter.Lib.Serde

/-! A printer of serializer calls in the layout of pretty JSON, two spaces a level. The string literals of
its text are the strings of the document. -/

namespace BusExporter.Lib.Pretty
open Exposition

def quote (s : String) : Text := '"' :: (escapeValue s.toList ++ ['"'])

def newline (depth : Nat) : Text := '\n' :: List.replicate (2 * depth) ' '

abbrev Layout := List Bool

def lead : Layout → Text
  | [] => []
  | false :: outer => newline (outer.length + 1)
  | true :: outer => ',' :: newline (outer.length + 1)

def mark : Layout → Layout
  | [] => []
  | _ :: outer => true :: outer

def before (layout : Layout) (afterKey : Bool) : Text := if afterKey then [] else lead layout

def close : Layout → Text
  | [] | false :: _ => []
  | true :: outer => newline outer.length

def pretty : Layout → Bool → List Call → Text
  | _, _, [] => []
  | layout, afterKey, .beginMap :: calls =>
      before layout afterKey ++ '{' :: pretty (false :: mark layout) false calls
  | layout, afterKey, .beginSeq :: calls =>
      before layout afterKey ++ '[' :: pretty (false :: mark layout) false calls
  | layout, _, .endMap :: calls => close layout ++ '}' :: pretty layout.tail false calls
  | layout, _, .endSeq :: calls => close layout ++ ']' :: pretty layout.tail false calls
  | layout, _, .key name :: calls => lead layout ++ quote name ++ ':' :: ' ' :: pretty (mark layout) true calls
  | layout, afterKey, .bool value :: calls =>
      before layout afterKey ++ (if value then "true" else "false").toList ++ pretty (mark layout) false calls
  | layout, afterKey, .unsigned value :: calls =>
      before layout afterKey ++ Nat.toDigits 10 value ++ pretty (mark layout) false calls
  | layout, afterKey, .float value :: calls =>
      before layout afterKey ++ (F64.display value).toList ++ pretty (mark layout) false calls
  | layout, afterKey, .str value :: calls =>
      before layout afterKey ++ quote value ++ pretty (mark layout) false calls

/-- The string literals of a text; inside of one, what was read of it so far, in reverse. -/
def literals : Option Text → Text → List Text
  | _, [] => []
  | none, '"' :: text => literals (some []) text
  | none, _ :: text => literals none text
  | some read, '"' :: text => read.reverse :: literals none text
  | some read, '\\' :: 'n' :: text => literals (some ('\n' :: read)) text
  | some read, '\\' :: c :: text => literals (some (c :: read)) text
  | some read, c :: text => literals (some (c :: read)) text

theorem literals_plain {plain : Text} (free : '"' ∉ plain) (rest : Text) :
    literals none (plain ++ rest) = literals none rest := by
  induction plain with
  | nil => rfl
  | cons c plain ih =>
      obtain ⟨different, free⟩ := not_or.mp (List.mem_cons.not.mp free)
      rw [List.cons_append, literals, ih free]
      exact fun same => different same.symm

theorem literals_escaped (value read rest : Text) :
    literals (some read) (escapeValue value ++ '"' :: rest) = (read.reverse ++ value) :: literals none rest := by
  induction value generalizing read with
  | nil => simp [escapeValue, literals]
  | cons c value ih =>
      have split : escapeValue (c :: value) = escapeChar c ++ escapeValue value := rfl
      rw [split, List.append_assoc]
      have whole : read.reverse ++ c :: value = (c :: read).reverse ++ value := by simp
      rw [whole, ← ih (c :: read)]
      by_cases backslash : c = '\\'
      · subst backslash
        simp [escapeChar, literals]
      by_cases quote : c = '"'
      · subst quote
        simp [escapeChar, literals]
      by_cases newline : c = '\n'
      · subst newline
        simp [escapeChar, literals]
      · simp only [escapeChar, backslash, quote, newline, if_false, List.singleton_append]
        rw [literals]
        all_goals simp_all

theorem literals_quote (s : String) (rest : Text) :
    literals none (quote s ++ rest) = s.toList :: literals none rest := by
  have start : quote s ++ rest = '"' :: (escapeValue s.toList ++ '"' :: rest) := by simp [quote]
  rw [start, literals, literals_escaped]
  rfl

theorem quote_not_numeric {text : Text} (numeric : ∀ c ∈ text, F64.numeric c = true) : '"' ∉ text := by
  intro member
  have impossible := numeric '"' member
  revert impossible
  decide

theorem quote_not_newline (depth : Nat) : '"' ∉ newline depth := by simp [newline]

theorem quote_not_lead (layout : Layout) : '"' ∉ lead layout := by
  cases layout with
  | nil => simp [lead]
  | cons nonempty outer => cases nonempty <;> simp [lead, quote_not_newline]

theorem quote_not_before (layout : Layout) (afterKey : Bool) : '"' ∉ before layout afterKey := by
  unfold before
  split_ifs
  · exact List.not_mem_nil
  · exact quote_not_lead layout

theorem quote_not_close (layout : Layout) : '"' ∉ close layout := by
  cases layout with
  | nil => simp [close]
  | cons nonempty outer => cases nonempty <;> simp [close, quote_not_newline]

theorem literals_pretty (layout : Layout) (afterKey : Bool) (calls : List Call) :
    literals none (pretty layout afterKey calls) = (Serde.strings calls).map String.toList := by
  induction calls generalizing layout afterKey with
  | nil => cases layout <;> rfl
  | cons call calls ih =>
      cases call with
      | beginMap | beginSeq =>
          rw [pretty, literals_plain (quote_not_before layout afterKey), literals, ih]
          · rfl
          · decide
      | endMap | endSeq =>
          rw [pretty, literals_plain (quote_not_close layout), literals, ih]
          · rfl
          · decide
      | key name =>
          rw [pretty, List.append_assoc, literals_plain (quote_not_lead layout), literals_quote, literals,
            literals, ih]
          · rfl
          · decide
          · decide
      | bool value =>
          have free : '"' ∉ (if value then "true" else "false").toList := by cases value <;> decide
          rw [pretty, List.append_assoc, literals_plain (quote_not_before layout afterKey),
            literals_plain free, ih]
          rfl
      | unsigned value =>
          have free : '"' ∉ Nat.toDigits 10 value := quote_not_numeric fun c => F64.numeric_toDigits
          rw [pretty, List.append_assoc, literals_plain (quote_not_before layout afterKey),
            literals_plain free, ih]
          rfl
      | float value =>
          have free : '"' ∉ (F64.display value).toList := by
            rw [F64.display, String.toList_ofList]
            exact quote_not_numeric fun c => F64.numeric_displayChars
          rw [pretty, List.append_assoc, literals_plain (quote_not_before layout afterKey),
            literals_plain free, ih]
          rfl
      | str value =>
          rw [pretty, List.append_assoc, literals_plain (quote_not_before layout afterKey), literals_quote, ih]
          rfl

theorem strings_of_pretty {calls calls' : List Call} (same : pretty [] false calls = pretty [] false calls') :
    Serde.strings calls = Serde.strings calls' := by
  apply List.map_injective_iff.mpr fun _ _ => String.toList_inj.mp
  rw [← literals_pretty [] false, ← literals_pretty [] false, same]

end BusExporter.Lib.Pretty
