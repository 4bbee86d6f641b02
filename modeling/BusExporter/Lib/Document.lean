import BusExporter.Lib.Serde
import Mathlib.Data.List.TakeWhile

/-! Documents: the trees behind the calls on a serializer, and what a derived deserializer reads from
them. Nulls and negative numbers are left out. -/

namespace BusExporter.Lib

inductive Document
  | bool (value : Bool)
  | unsigned (value : Nat)
  | float (value : Float)
  | str (value : String)
  | seq (items : List Document)
  | map (entries : List (String × Document))

namespace Document

mutual
def calls : Document → List Call
  | .bool b => [.bool b]
  | .unsigned n => [.unsigned n]
  | .float x => [.float x]
  | .str s => [.str s]
  | .seq items => .beginSeq :: itemCalls items ++ [.endSeq]
  | .map entries => .beginMap :: entryCalls entries ++ [.endMap]

def itemCalls : List Document → List Call
  | [] => []
  | item :: items => item.calls ++ itemCalls items

def entryCalls : List (String × Document) → List Call
  | [] => []
  | (name, value) :: entries => .key name :: value.calls ++ entryCalls entries
end

theorem itemCalls_eq (items : List Document) : itemCalls items = (items.map calls).flatten := by
  induction items with
  | nil => rfl
  | cons item items ih => rw [itemCalls, ih, List.map_cons, List.flatten_cons]

theorem entryCalls_eq (entries : List (String × Document)) :
    entryCalls entries = Serde.fields (entries.map fun e => (e.1, e.2.calls)) := by
  induction entries with
  | nil => rfl
  | cons e entries ih =>
      rw [entryCalls, ih]
      rfl

theorem calls_seq (items : List Document) : (seq items).calls = Serde.seq (items.map calls) := by
  rw [calls, itemCalls_eq, Serde.seq]

theorem calls_map (entries : List (String × Document)) :
    (map entries).calls = Serde.map (entries.map fun e => (e.1, e.2.calls)) := by
  rw [calls, entryCalls_eq, Serde.map]

def Begins : List Call → Prop
  | .endMap :: _ | .endSeq :: _ | .key _ :: _ | [] => False
  | _ => True

theorem calls_begins (v : Document) (rest : List Call) : Begins (v.calls ++ rest) := by
  cases v <;> exact trivial

mutual
theorem calls_inj : ∀ (v v' : Document) (rest rest' : List Call),
    v.calls ++ rest = v'.calls ++ rest' → v = v' ∧ rest = rest'
  | .bool b, v', rest, rest', same => by
      cases v' <;> simp_all [calls]
  | .unsigned n, v', rest, rest', same => by
      cases v' <;> simp_all [calls]
  | .float x, v', rest, rest', same => by
      cases v' <;> simp_all [calls]
  | .str s, v', rest, rest', same => by
      cases v' <;> simp_all [calls]
  | .seq items, v', rest, rest', same => by
      cases v' with
      | seq items' =>
          simp only [calls, List.cons_append, List.append_assoc, List.cons.injEq, true_and, List.nil_append] at same
          obtain ⟨rfl, rfl⟩ := itemCalls_inj items items' rest rest' same
          exact ⟨rfl, rfl⟩
      | _ => simp [calls] at same
  | .map entries, v', rest, rest', same => by
      cases v' with
      | map entries' =>
          simp only [calls, List.cons_append, List.append_assoc, List.cons.injEq, true_and, List.nil_append] at same
          obtain ⟨rfl, rfl⟩ := entryCalls_inj entries entries' rest rest' same
          exact ⟨rfl, rfl⟩
      | _ => simp [calls] at same

theorem itemCalls_inj : ∀ (items items' : List Document) (rest rest' : List Call),
    itemCalls items ++ .endSeq :: rest = itemCalls items' ++ .endSeq :: rest' → items = items' ∧ rest = rest'
  | [], [], rest, rest', same => ⟨rfl, (List.cons.inj same).2⟩
  | [], item' :: items', rest, rest', same => by
      have begins := calls_begins item' (itemCalls items' ++ .endSeq :: rest')
      rw [itemCalls, itemCalls, List.append_assoc] at same
      rw [← same] at begins
      exact begins.elim
  | item :: items, [], rest, rest', same => by
      have begins := calls_begins item (itemCalls items ++ .endSeq :: rest)
      rw [itemCalls, itemCalls, List.append_assoc] at same
      rw [same] at begins
      exact begins.elim
  | item :: items, item' :: items', rest, rest', same => by
      rw [itemCalls, itemCalls, List.append_assoc, List.append_assoc] at same
      obtain ⟨rfl, later⟩ := calls_inj item item' _ _ same
      obtain ⟨rfl, rfl⟩ := itemCalls_inj items items' rest rest' later
      exact ⟨rfl, rfl⟩

theorem entryCalls_inj : ∀ (entries entries' : List (String × Document)) (rest rest' : List Call),
    entryCalls entries ++ .endMap :: rest = entryCalls entries' ++ .endMap :: rest' →
      entries = entries' ∧ rest = rest'
  | [], [], rest, rest', same => ⟨rfl, (List.cons.inj same).2⟩
  | [], (name', value') :: entries', rest, rest', same => by simp [entryCalls] at same
  | (name, value) :: entries, [], rest, rest', same => by simp [entryCalls] at same
  | (name, value) :: entries, (name', value') :: entries', rest, rest', same => by
      simp only [entryCalls, List.cons_append, List.append_assoc, List.cons.injEq, Call.key.injEq] at same
      obtain ⟨rfl, same⟩ := same
      obtain ⟨rfl, later⟩ := calls_inj value value' _ _ same
      obtain ⟨rfl, rfl⟩ := entryCalls_inj entries entries' rest rest' later
      exact ⟨rfl, rfl⟩
end

theorem calls_injective {v v' : Document} (same : v.calls = v'.calls) : v = v' := by
  have padded : v.calls ++ [] = v'.calls ++ [] := by rw [same]
  exact (calls_inj v v' [] [] padded).1

def present (fields : List (String × Option Document)) : List (String × Document) :=
  fields.filterMap fun field => field.2.map fun value => (field.1, value)

theorem present_names (fields : List (String × Option Document)) :
    ((present fields).map (·.1)).Sublist (fields.map (·.1)) := by
  induction fields with
  | nil => exact .slnil
  | cons field fields ih =>
      obtain ⟨name, value⟩ := field
      cases value with
      | none => exact ih.cons name
      | some value => exact ih.cons_cons name

theorem lookup_other {α : Type} {name first : String} (other : name ≠ first) (value : α)
    (entries : List (String × α)) : ((first, value) :: entries).lookup name = entries.lookup name := by
  rw [List.lookup_cons, beq_false_of_ne other]

theorem lookup_present {fields : List (String × Option Document)} (distinct : (fields.map (·.1)).Nodup)
    (name : String) : (present fields).lookup name = (fields.lookup name).join := by
  induction fields with
  | nil => rfl
  | cons field fields ih =>
      obtain ⟨first, value⟩ := field
      rw [List.map_cons, List.nodup_cons] at distinct
      have later := ih distinct.2
      by_cases same : name = first
      · subst same
        rw [List.lookup_cons_self]
        cases value with
        | some value => exact List.lookup_cons_self
        | none =>
            rw [Option.join_some, ← Option.not_isSome_iff_eq_none, List.lookup_isSome_iff]
            intro held
            obtain ⟨e, member, again⟩ := held
            have listed := (present_names fields).subset (List.mem_map_of_mem member)
            rw [← beq_iff_eq.mp again] at listed
            exact distinct.1 listed
      · rw [lookup_other same, ← later]
        cases value with
        | none => rfl
        | some value => exact lookup_other same value (present fields)

def fill (entries defaults : List (String × Document)) : List (String × Document) :=
  entries ++ defaults.filter fun e => (entries.lookup e.1).isNone

theorem lookup_filter (keep : String → Bool) (entries : List (String × Document)) (name : String) :
    (entries.filter fun e => keep e.1).lookup name = if keep name then entries.lookup name else none := by
  induction entries with
  | nil => cases keep name <;> rfl
  | cons e entries ih =>
      obtain ⟨first, value⟩ := e
      rw [List.filter_cons]
      by_cases same : name = first
      · subst same
        cases kept : keep name with
        | true => rw [if_pos rfl, List.lookup_cons_self, List.lookup_cons_self, if_pos rfl]
        | false =>
            rw [if_neg Bool.false_ne_true, ih, kept]
            rfl
      · rw [lookup_other same, ← ih]
        split_ifs
        · exact lookup_other same value _
        · rfl

theorem lookup_fill (entries defaults : List (String × Document)) (name : String) :
    (fill entries defaults).lookup name = (entries.lookup name).or (defaults.lookup name) := by
  rw [fill, List.lookup_append]
  cases held : entries.lookup name with
  | some value => rfl
  | none =>
      rw [lookup_filter fun name => (entries.lookup name).isNone, held]
      rfl

theorem fill_nodup {entries defaults : List (String × Document)} (distinct : (entries.map (·.1)).Nodup)
    (distinct' : (defaults.map (·.1)).Nodup) : ((fill entries defaults).map (·.1)).Nodup := by
  rw [fill, List.map_append, List.nodup_append]
  refine ⟨distinct, distinct'.sublist (List.filter_sublist.map _), ?_⟩
  intro name old name' new same
  subst same
  obtain ⟨e, member, rfl⟩ := List.mem_map.mp new
  obtain ⟨e', member', again⟩ := List.mem_map.mp old
  have absent := (List.mem_filter.mp member).2
  rw [Option.isNone_iff_eq_none, List.lookup_eq_none_iff] at absent
  exact absurd again.symm (bne_iff_ne.mp (absent e' member'))

theorem calls_present (fields : List (String × Option Document)) :
    (map (present fields)).calls = Serde.map (fields.flatMap fun field => Serde.optional field.1 calls field.2) := by
  rw [calls_map]
  congr 1
  induction fields with
  | nil => rfl
  | cons field fields ih =>
      obtain ⟨name, value⟩ := field
      rw [List.flatMap_cons, ← ih]
      cases value <;> rfl

end Document

def Call.isEnd : Call → Bool
  | .endMap | .endSeq => true
  | _ => false

namespace Serde

def endsPlain (calls : List Call) : Bool :=
  match calls.reverse.dropWhile Call.isEnd with
  | .str _ :: _ => false
  | _ => true

theorem endsPlain_end (calls : List Call) {last : Call} (ends : last.isEnd = true) :
    endsPlain (calls ++ [last]) = endsPlain calls := by
  rw [endsPlain, List.reverse_append, List.reverse_singleton, List.singleton_append, List.dropWhile_cons_of_pos ends]
  rfl

theorem endsPlain_after (front : List Call) {calls : List Call} (solid : calls.any (!·.isEnd) = true) :
    endsPlain (front ++ calls) = endsPlain calls := by
  obtain ⟨c, member, begins⟩ := List.any_eq_true.mp solid
  have stays : (calls.reverse.dropWhile Call.isEnd).isEmpty = false := by
    rw [List.isEmpty_eq_false_iff, Ne, List.dropWhile_eq_nil_iff]
    intro all
    rw [all c (List.mem_reverse.mpr member)] at begins
    cases begins
  rw [endsPlain, endsPlain, List.reverse_append, List.dropWhile_append, stays]
  cases rest : calls.reverse.dropWhile Call.isEnd with
  | nil =>
      rw [rest] at stays
      cases stays
  | cons first later => cases first <;> rfl

theorem endsPlain_map {entries : List (String × List Call)} {name : String} {value : List Call}
    (last : entries.getLast? = some (name, value)) (solid : value.any (!·.isEnd) = true) :
    endsPlain (map entries) = endsPlain value := by
  obtain ⟨front, rfl⟩ := List.getLast?_eq_some_iff.mp last
  have split : map (front ++ [(name, value)]) = (.beginMap :: fields front ++ [.key name]) ++ value ++ [.endMap] := by
    rw [map, fields_append]
    simp only [fields, List.flatMap_cons, List.flatMap_nil, List.append_nil, List.cons_append, List.append_assoc,
      List.nil_append]
  rw [split, endsPlain_end _ rfl, endsPlain_after _ solid]

theorem map_solid (entries : List (String × List Call)) : (map entries).any (!·.isEnd) = true := rfl

theorem endsPlain_seq {items : List (List Call)}
    (each : ∀ item ∈ items, item.any (!·.isEnd) = true ∧ endsPlain item = true) : endsPlain (seq items) = true := by
  rcases List.eq_nil_or_concat' items with rfl | ⟨front, last, rfl⟩
  · rfl
  · obtain ⟨solid, plain⟩ := each last (List.mem_append_right _ List.mem_cons_self)
    have split : seq (front ++ [last]) = (.beginSeq :: front.flatten) ++ last ++ [.endSeq] := by
      rw [seq, List.flatten_append, List.flatten_singleton, List.cons_append, List.cons_append, List.cons_append]
    rw [split, endsPlain_end _ rfl, endsPlain_after _ solid, plain]

end Serde

namespace Serde

def readBool : Document → Option Bool
  | .bool b => some b
  | _ => none

def readStr : Document → Option String
  | .str s => some s
  | _ => none

def readNat (bound : Nat) : Document → Option Nat
  | .unsigned n => if n < bound then some n else none
  | _ => none

def readF64 : Document → Option Float
  | .float x => some x
  | .unsigned n => some (UInt64.ofNat n).toFloat
  | _ => none

def readSeq {α : Type} (read : Document → Option α) : Document → Option (List α)
  | .seq items => items.mapM read
  | _ => none

def readVariant {α : Type} (variants : List (String × α)) : Document → Option α
  | .str s => variants.lookup s
  | _ => none

/-- The fields of a struct that denies unknown ones. A field that comes twice is refused. -/
def readStruct (known : List String) : Document → Option (String → Option Document)
  | .map entries =>
      if entries.all (fun e => known.contains e.1) && decide (entries.map (·.1)).Nodup
      then some fun name => entries.lookup name else none
  | _ => none

def readTag (tag : String) : Document → Option (String × List (String × Document))
  | .map entries =>
      match entries.filter (·.1 = tag) with
      | [(_, .str variant)] => some (variant, entries.filter (·.1 ≠ tag))
      | _ => none
  | _ => none

/-- The fields of a variant, which ignores unknown ones. -/
def readFields (known : List String) (entries : List (String × Document)) : Option (String → Option Document) :=
  if ((entries.map (·.1)).filter known.contains).Nodup then some fun name => entries.lookup name else none

def field {α : Type} (read : Document → Option α) (found : Option Document) : Option α := found.bind read

def fieldOr {α : Type} (default : α) (read : Document → Option α) : Option Document → Option α
  | none => some default
  | some value => read value

def fieldOption {α : Type} (read : Document → Option α) : Option Document → Option (Option α) :=
  fieldOr none fun value => (read value).map some

/-- The calls are those of a document from which the value is read. -/
def Reads {α : Type} (read : Document → Option α) (calls : List Call) (x : α) : Prop :=
  ∃ document : Document, document.calls = calls ∧ read document = some x

theorem Reads.read {α : Type} {read : Document → Option α} {calls : List Call} {x : α} (reads : Reads read calls x)
    {document : Document} (written : document.calls = calls) : read document = some x := by
  obtain ⟨other, same, done⟩ := reads
  rw [Document.calls_injective (written.trans same.symm)]
  exact done

section Lists
variable {α β : Type} {read : Document → Option β} {serialize : α → List Call} {result : α → β}

theorem Reads.seq {items : List α} (each : ∀ x ∈ items, Reads read (serialize x) (result x)) :
    Reads (readSeq read) (seq (items.map serialize)) (items.map result) := by
  suffices documents : ∃ documents : List Document,
      documents.map Document.calls = items.map serialize ∧ documents.mapM read = some (items.map result) by
    obtain ⟨documents, calls, done⟩ := documents
    exact ⟨.seq documents, by rw [Document.calls_seq, calls], done⟩
  induction items with
  | nil => exact ⟨[], rfl, rfl⟩
  | cons x items ih =>
      obtain ⟨document, calls, done⟩ := each x List.mem_cons_self
      obtain ⟨documents, laterCalls, laterDone⟩ := ih fun y member => each y (List.mem_cons_of_mem _ member)
      refine ⟨document :: documents, ?_, ?_⟩
      · rw [List.map_cons, List.map_cons, calls, laterCalls]
      · rw [List.mapM_cons, done, laterDone]
        rfl

theorem Reads.option {o : Option α} (each : ∀ x, o = some x → Reads read (serialize x) (result x)) :
    ∃ found : Option Document, (∀ name, optional name Document.calls found = optional name serialize o) ∧
      fieldOption read found = some (o.map result) := by
  cases o with
  | none => exact ⟨none, fun _ => rfl, rfl⟩
  | some x =>
      obtain ⟨document, calls, done⟩ := each x rfl
      refine ⟨some document, fun name => ?_, ?_⟩
      · rw [optional, optional, calls]
      · rw [fieldOption, fieldOr, done]
        rfl

end Lists

section Kept
variable {α : Type} {read : Document → Option α} {serialize : α → List Call}

theorem Reads.kept_seq (each : ∀ x, Reads read (serialize x) x) (items : List α) :
    Reads (readSeq read) (Serde.seq (items.map serialize)) items := by
  have reads : Reads (readSeq read) (Serde.seq (items.map serialize)) (items.map id) := .seq fun x _ => each x
  rw [List.map_id] at reads
  exact reads

theorem Reads.kept_option (each : ∀ x, Reads read (serialize x) x) (o : Option α) :
    ∃ found : Option Document, (∀ name, optional name Document.calls found = optional name serialize o) ∧
      fieldOption read found = some o := by
  have reads : ∃ found : Option Document, (∀ name, optional name Document.calls found = optional name serialize o) ∧
      fieldOption read found = some (o.map id) := Reads.option fun x _ => each x
  rw [Option.map_id_apply] at reads
  exact reads

end Kept

theorem readStruct_eq_some {known : List String} {document : Document} {get : String → Option Document} :
    readStruct known document = some get ↔ ∃ entries, document = .map entries ∧ (∀ e ∈ entries, e.1 ∈ known) ∧
      (entries.map (·.1)).Nodup ∧ get = fun name => entries.lookup name := by
  constructor
  · intro read
    cases document with
    | map entries =>
        rw [readStruct] at read
        split_ifs at read with accepted
        rw [Bool.and_eq_true, decide_eq_true_eq, List.all_eq_true] at accepted
        refine ⟨entries, rfl, fun e member => List.contains_iff_mem.mp (accepted.1 e member), accepted.2, ?_⟩
        exact (Option.some.inj read).symm
    | _ => cases read
  · rintro ⟨entries, rfl, all, distinct, rfl⟩
    have accepted : (entries.all fun e => known.contains e.1) = true := by
      rw [List.all_eq_true]
      intro e member
      exact List.contains_iff_mem.mpr (all e member)
    rw [readStruct, accepted, decide_eq_true distinct]
    rfl

theorem readStruct_present {fields : List (String × Option Document)} {known : List String}
    (names : fields.map (·.1) = known) (distinct : known.Nodup) :
    readStruct known (.map (Document.present fields)) = some fun name => (fields.lookup name).join := by
  subst names
  have kept := Document.present_names fields
  refine readStruct_eq_some.mpr ⟨_, rfl, ?_, distinct.sublist kept, ?_⟩
  · intro e member
    exact kept.subset (List.mem_map_of_mem member)
  · funext name
    exact (Document.lookup_present distinct name).symm

theorem readFields_present {fields : List (String × Option Document)} {known : List String}
    (names : fields.map (·.1) = known) (distinct : known.Nodup) :
    readFields known (Document.present fields) = some fun name => (fields.lookup name).join := by
  subst names
  have kept : (((Document.present fields).map (·.1)).filter (fields.map (·.1)).contains).Nodup :=
    (distinct.sublist (Document.present_names fields)).filter _
  rw [readFields, if_pos kept]
  congr 1
  funext name
  exact Document.lookup_present distinct name

theorem readTag_present {tag : String} (variant : String) {fields : List (String × Option Document)}
    (other : tag ∉ fields.map (·.1)) :
    readTag tag (.map (Document.present ((tag, some (.str variant)) :: fields))) =
      some (variant, Document.present fields) := by
  have others : ∀ e ∈ Document.present fields, e.1 ≠ tag := by
    intro e member same
    have listed := (Document.present_names fields).subset (List.mem_map_of_mem member)
    rw [same] at listed
    exact other listed
  have none_tagged : (Document.present fields).filter (·.1 = tag) = [] := by
    rw [List.filter_eq_nil_iff]
    intro e member
    rw [decide_eq_true_eq]
    exact others e member
  have rest : (Document.present fields).filter (·.1 ≠ tag) = Document.present fields := by
    rw [List.filter_eq_self]
    intro e member
    rw [decide_eq_true_eq]
    exact others e member
  change readTag tag (.map ((tag, .str variant) :: Document.present fields)) = _
  simp only [readTag, List.filter_cons, decide_true, if_true, none_tagged, ne_eq, not_true_eq_false, decide_false,
    Bool.false_eq_true, if_false]
  rw [rest]

theorem reading {α β : Type} {step : Option α} {next : α → Option β} {a : α} {result : Option β}
    (first : step = some a) (rest : next a = result) : (step >>= next) = result := by
  rw [first]
  exact rest

theorem refusing {α β : Type} {step : Option α} {next : α → Option β} (first : step = none) :
    (step >>= next) = none := by
  rw [first]
  rfl

end Serde
end BusExporter.Lib
