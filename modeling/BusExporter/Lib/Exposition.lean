import Mathlib.Algebra.GroupWithZero.Nat
import Mathlib.Data.List.Basic
import Mathlib.Tactic.SplitIfs

/-! The text format in which metrics are scraped: a printer, a reference parser, and their round
trip. Text is a list of characters. -/

namespace BusExporter.Lib.Exposition

abbrev Text := List Char

def isNameStart (c : Char) : Bool := c.isAlpha || c = '_'

def isNameChar (c : Char) : Bool := c.isAlphanum || c = '_'

def validName : Text → Bool
  | [] => false
  | c :: rest => isNameStart c && rest.all isNameChar

theorem isNameChar_of_start {c : Char} (start : isNameStart c = true) : isNameChar c = true := by
  simp only [isNameStart, isNameChar, Char.isAlphanum, Bool.or_eq_true, decide_eq_true_eq] at start ⊢
  rcases start with letter | underscore
  · exact .inl (.inl letter)
  · exact .inr underscore

theorem nameChar_of_valid {name : Text} (valid : validName name = true) :
    ∀ c ∈ name, isNameChar c = true := by
  intro c member
  cases name with
  | nil => cases member
  | cons head rest =>
      simp only [validName, Bool.and_eq_true, List.all_eq_true] at valid
      rcases List.mem_cons.mp member with rfl | later
      · exact isNameChar_of_start valid.1
      · exact valid.2 c later

theorem not_mem_of_valid {name : Text} (valid : validName name = true) {c : Char}
    (other : isNameChar c = false) : c ∉ name := by
  intro member
  rw [nameChar_of_valid valid c member] at other
  cases other

def spanName (text : Text) : Option (Text × Text) :=
  let name := text.takeWhile isNameChar
  if validName name then some (name, text.dropWhile isNameChar) else none

theorem spanName_append {name : Text} (valid : validName name = true) {c : Char}
    (other : isNameChar c = false) (rest : Text) :
    spanName (name ++ c :: rest) = some (name, c :: rest) := by
  have chars := nameChar_of_valid valid
  have taken : (name ++ c :: rest).takeWhile isNameChar = name := by
    rw [List.takeWhile_append_of_pos chars, List.takeWhile_cons_of_neg (by simp [other]),
      List.append_nil]
  have dropped : (name ++ c :: rest).dropWhile isNameChar = c :: rest := by
    rw [List.dropWhile_append_of_pos chars, List.dropWhile_cons_of_neg (by simp [other])]
  simp only [spanName, taken, dropped, valid, if_true]

def escapeChar (c : Char) : Text :=
  if c = '\\' then ['\\', '\\'] else if c = '"' then ['\\', '"']
  else if c = '\n' then ['\\', 'n'] else [c]

def escapeValue (text : Text) : Text := text.flatMap escapeChar

def unquote : Text → Option (Text × Text)
  | [] => none
  | '"' :: rest => some ([], rest)
  | '\\' :: '\\' :: rest => (unquote rest).map fun r => ('\\' :: r.1, r.2)
  | '\\' :: '"' :: rest => (unquote rest).map fun r => ('"' :: r.1, r.2)
  | '\\' :: 'n' :: rest => (unquote rest).map fun r => ('\n' :: r.1, r.2)
  | '\\' :: _ => none
  | c :: rest => (unquote rest).map fun r => (c :: r.1, r.2)

theorem unquote_escapeValue (value rest : Text) :
    unquote (escapeValue value ++ '"' :: rest) = some (value, rest) := by
  induction value with
  | nil => rfl
  | cons c value ih =>
      simp only [escapeValue, List.flatMap_cons, List.append_assoc] at ih ⊢
      by_cases backslash : c = '\\'
      · subst backslash
        simp [escapeChar, unquote, ih]
      by_cases quote : c = '"'
      · subst quote
        simp [escapeChar, unquote, ih]
      by_cases newline : c = '\n'
      · subst newline
        simp [escapeChar, unquote, ih]
      · simp [escapeChar, backslash, quote, newline, unquote, ih]

def Plain (text : Text) : Prop := ∀ c ∈ text, c ≠ '\\' ∧ c ≠ '"' ∧ c ≠ '\n'

instance (text : Text) : Decidable (Plain text) := List.decidableBAll _ text

theorem escapeValue_plain {text : Text} (plain : Plain text) : escapeValue text = text := by
  have kept : text.flatMap escapeChar = text.flatMap fun c => [c] := by
    apply List.flatMap_congr
    intro c member
    obtain ⟨backslash, quote, newline⟩ := plain c member
    rw [escapeChar, if_neg backslash, if_neg quote, if_neg newline]
  rw [escapeValue, kept, List.flatMap_singleton']

theorem length_escapeChar (c : Char) :
    (escapeChar c).length = if c = '\\' ∨ c = '"' ∨ c = '\n' then 2 else 1 := by
  unfold escapeChar
  split_ifs <;> simp_all

theorem length_escapeValue (text : Text) : text.length ≤ (escapeValue text).length := by
  induction text with
  | nil => exact Nat.le_refl _
  | cons c text ih =>
      have here := length_escapeChar c
      simp only [escapeValue, List.flatMap_cons, List.length_append, List.length_cons] at ih ⊢
      split_ifs at here <;> omega

theorem plain_of_length {text : Text} (short : (escapeValue text).length ≤ text.length) : Plain text := by
  induction text with
  | nil => simp [Plain]
  | cons c text ih =>
      have here := length_escapeChar c
      have later := length_escapeValue text
      simp only [escapeValue, List.flatMap_cons, List.length_append, List.length_cons] at ih short later
      intro d member
      split_ifs at here with special
      · omega
      · rcases List.mem_cons.mp member with rfl | inRest
        · simpa only [not_or] using special
        · exact ih (by omega) d inRest

def escapeDocChar (c : Char) : Text :=
  if c = '\\' then ['\\', '\\'] else if c = '\n' then ['\\', 'n'] else [c]

def escapeDoc (text : Text) : Text := text.flatMap escapeDocChar

def unescapeDoc : Text → Text
  | '\\' :: '\\' :: rest => '\\' :: unescapeDoc rest
  | '\\' :: 'n' :: rest => '\n' :: unescapeDoc rest
  | c :: rest => c :: unescapeDoc rest
  | [] => []

theorem unescapeDoc_escapeDoc (doc : Text) : unescapeDoc (escapeDoc doc) = doc := by
  induction doc with
  | nil => rfl
  | cons c doc ih =>
      simp only [escapeDoc, List.flatMap_cons] at ih ⊢
      by_cases backslash : c = '\\'
      · subst backslash
        simp [escapeDocChar, unescapeDoc, ih]
      by_cases newline : c = '\n'
      · subst newline
        simp [escapeDocChar, unescapeDoc, ih]
      · simp [escapeDocChar, backslash, newline, unescapeDoc, ih]

theorem newline_not_mem_escapeValue (value : Text) : '\n' ∉ escapeValue value := by
  intro member
  obtain ⟨c, -, inside⟩ := List.mem_flatMap.mp member
  unfold escapeChar at inside
  split_ifs at inside with backslash quote newline
  · simp at inside
  · simp at inside
  · simp at inside
  · exact newline (List.mem_singleton.mp inside).symm

theorem newline_not_mem_escapeDoc (doc : Text) : '\n' ∉ escapeDoc doc := by
  intro member
  obtain ⟨c, -, inside⟩ := List.mem_flatMap.mp member
  unfold escapeDocChar at inside
  split_ifs at inside with backslash newline
  · simp at inside
  · simp at inside
  · exact newline (List.mem_singleton.mp inside).symm

structure Sample where
  name : Text
  labels : List (Text × Text)
  value : Text
deriving DecidableEq

inductive Line
  | help (name doc : Text)
  | type (name kind : Text)
  | sample (s : Sample)
deriving DecidableEq

def printLabel (label : Text × Text) : Text :=
  label.1 ++ '=' :: '"' :: (escapeValue label.2 ++ ['"'])

def printLabels : List (Text × Text) → Text
  | [] => []
  | [label] => printLabel label
  | label :: rest => printLabel label ++ ',' :: printLabels rest

def Sample.print (s : Sample) : Text :=
  if s.labels.isEmpty then s.name ++ ' ' :: s.value
  else s.name ++ '{' :: (printLabels s.labels ++ '}' :: ' ' :: s.value)

def helpPrefix : Text := ['#', ' ', 'H', 'E', 'L', 'P', ' ']

def typePrefix : Text := ['#', ' ', 'T', 'Y', 'P', 'E', ' ']

def Line.print : Line → Text
  | .help name doc => helpPrefix ++ (name ++ ' ' :: escapeDoc doc)
  | .type name kind => typePrefix ++ (name ++ ' ' :: kind)
  | .sample s => s.print

def print (lines : List Line) : Text := lines.flatMap fun line => line.print ++ ['\n']

structure Family where
  name : Text
  doc : Text
  kind : Text
  samples : List Sample

def Family.lines (f : Family) : List Line :=
  .help f.name f.doc :: .type f.name f.kind :: f.samples.map .sample

def samples (lines : List Line) : List Sample :=
  lines.filterMap fun
    | .sample s => some s
    | .help _ _ | .type _ _ => none

theorem samples_families (families : List Family) :
    samples (families.flatMap Family.lines) = families.flatMap (·.samples) := by
  rw [samples, List.filterMap_flatMap]
  apply List.flatMap_congr
  intro f _
  simp [Family.lines]

def typedFrom (kinds : List (Text × Text)) : List Line → List (Option Text × Sample)
  | [] => []
  | .help _ _ :: rest => typedFrom kinds rest
  | .type name kind :: rest => typedFrom ((name, kind) :: kinds) rest
  | .sample s :: rest => (kinds.lookup s.name, s) :: typedFrom kinds rest

def typed (lines : List Line) : List (Option Text × Sample) := typedFrom [] lines

theorem typedFrom_family (kinds : List (Text × Text)) {f : Family} (named : ∀ s ∈ f.samples, s.name = f.name)
    (rest : List Line) :
    typedFrom kinds (f.lines ++ rest) =
      f.samples.map (fun s => (some f.kind, s)) ++ typedFrom ((f.name, f.kind) :: kinds) rest := by
  have samples : ∀ samples : List Sample, (∀ s ∈ samples, s.name = f.name) →
      typedFrom ((f.name, f.kind) :: kinds) (samples.map .sample ++ rest) =
        samples.map (fun s => (some f.kind, s)) ++ typedFrom ((f.name, f.kind) :: kinds) rest := by
    intro samples named
    induction samples with
    | nil => rfl
    | cons s samples ih =>
        have here : s.name = f.name := named s List.mem_cons_self
        have found : ((f.name, f.kind) :: kinds).lookup s.name = some f.kind := by
          rw [here, List.lookup_cons_self]
        simp only [List.map_cons, List.cons_append, typedFrom, found]
        rw [ih fun s member => named s (List.mem_cons_of_mem _ member)]
  exact samples f.samples named

theorem typed_families {families : List Family} (named : ∀ f ∈ families, ∀ s ∈ f.samples, s.name = f.name) :
    typed (families.flatMap Family.lines) = families.flatMap fun f => f.samples.map fun s => (some f.kind, s) := by
  unfold typed
  generalize ([] : List (Text × Text)) = kinds
  induction families generalizing kinds with
  | nil => rfl
  | cons f families ih =>
      rw [List.flatMap_cons, typedFrom_family kinds (named f List.mem_cons_self), List.flatMap_cons,
        ih fun f member => named f (List.mem_cons_of_mem _ member)]

/-- What a scraper takes for the same series: the value and the order of the labels do not count. -/
def SameSeries (a b : Sample) : Prop := a.name = b.name ∧ ∀ label, label ∈ a.labels ↔ label ∈ b.labels

theorem SameSeries.symm {a b : Sample} (same : SameSeries a b) : SameSeries b a :=
  ⟨same.1.symm, fun label => (same.2 label).symm⟩

structure DuplicateFree (all : List Sample) : Prop where
  labels : ∀ s ∈ all, (s.labels.map (·.1)).Nodup
  series : all.Pairwise fun a b => ¬SameSeries a b

theorem DuplicateFree.perm {all all' : List Sample} (free : DuplicateFree all) (same : all.Perm all') :
    DuplicateFree all' := by
  refine ⟨fun s member => free.labels s (same.mem_iff.mpr member), ?_⟩
  exact (same.pairwise_iff fun apart equal => apart equal.symm).mp free.series

def parseLabels : Nat → Text → Option (List (Text × Text) × Text)
  | 0, _ => none
  | fuel + 1, text =>
      match spanName text with
      | some (key, '=' :: '"' :: rest) =>
          match unquote rest with
          | some (value, '}' :: rest) => some ([(key, value)], rest)
          | some (value, ',' :: rest) =>
              (parseLabels fuel rest).map fun r => ((key, value) :: r.1, r.2)
          | _ => none
      | _ => none

def parseSample (line : Text) : Option Sample :=
  match spanName line with
  | some (name, ' ' :: value) => some ⟨name, [], value⟩
  | some (name, '{' :: rest) =>
      match parseLabels rest.length rest with
      | some (labels, ' ' :: value) => some ⟨name, labels, value⟩
      | _ => none
  | _ => none

def parseLine (line : Text) : Option Line :=
  if helpPrefix.isPrefixOf line then
    match spanName (line.drop helpPrefix.length) with
    | some (name, ' ' :: doc) => some (.help name (unescapeDoc doc))
    | _ => none
  else if typePrefix.isPrefixOf line then
    match spanName (line.drop typePrefix.length) with
    | some (name, ' ' :: kind) => some (.type name kind)
    | _ => none
  else (parseSample line).map .sample

def parse (text : Text) : Option (List Line) :=
  ((text.splitOn '\n').filter (!·.isEmpty)).mapM parseLine

def Line.WellFormed : Line → Prop
  | .help name _ => validName name = true
  | .type name kind => validName name = true ∧ '\n' ∉ kind
  | .sample s =>
      validName s.name = true ∧ (∀ label ∈ s.labels, validName label.1 = true) ∧ '\n' ∉ s.value

theorem parseLabels_print {labels : List (Text × Text)} (nonempty : labels ≠ [])
    (valid : ∀ label ∈ labels, validName label.1 = true) {fuel : Nat} (enough : labels.length ≤ fuel)
    (rest : Text) : parseLabels fuel (printLabels labels ++ '}' :: rest) = some (labels, rest) := by
  induction labels generalizing fuel with
  | nil => exact absurd rfl nonempty
  | cons label labels ih =>
      obtain ⟨key, value⟩ := label
      have key_valid : validName key = true := valid (key, value) List.mem_cons_self
      cases fuel with
      | zero => simp at enough
      | succ fuel =>
          have reads (after : Text) :
              spanName (printLabel (key, value) ++ after) =
                some (key, '=' :: '"' :: (escapeValue value ++ '"' :: after)) := by
            simpa [printLabel] using spanName_append key_valid (show isNameChar '=' = false by decide)
              ('"' :: (escapeValue value ++ '"' :: after))
          cases labels with
          | nil => simp only [parseLabels, printLabels, reads, unquote_escapeValue]
          | cons next labels =>
              have later := ih (by simp) (fun label member => valid label (List.mem_cons_of_mem _ member))
                (Nat.le_of_succ_le_succ enough)
              simp only [parseLabels, printLabels, List.append_assoc, List.cons_append, reads,
                unquote_escapeValue, later, Option.map_some]

theorem length_printLabels (labels : List (Text × Text)) : labels.length ≤ (printLabels labels).length := by
  induction labels with
  | nil => simp
  | cons label labels ih =>
      cases labels with
      | nil =>
          simp only [printLabels, printLabel, List.length_append, List.length_cons, List.length_nil]
          omega
      | cons next labels =>
          simp only [printLabels, List.length_append, List.length_cons] at ih ⊢
          omega

theorem parseSample_print {s : Sample} (wellFormed : (Line.sample s).WellFormed) :
    parseSample s.print = some s := by
  obtain ⟨name, labels, value⟩ := s
  obtain ⟨name_valid, labels_valid, -⟩ := wellFormed
  cases labels with
  | nil =>
      simp only [parseSample, Sample.print, List.isEmpty_nil, if_true]
      rw [spanName_append name_valid (by decide)]
      rfl
  | cons label labels =>
      have fuel : (label :: labels).length ≤
          (printLabels (label :: labels) ++ '}' :: ' ' :: value).length :=
        Nat.le_trans (length_printLabels _) (by simp)
      have inside := parseLabels_print (by simp) labels_valid fuel (' ' :: value)
      simp only [parseSample, Sample.print, List.isEmpty_cons, Bool.false_eq_true, if_false]
      rw [spanName_append name_valid (by decide)]
      simp only [inside]

theorem not_prefix_of_name {name : Text} (valid : validName name = true) (rest more : Text) :
    ('#' :: more).isPrefixOf (name ++ rest) = false := by
  cases name with
  | nil => cases valid
  | cons c name =>
      have start := nameChar_of_valid valid c List.mem_cons_self
      have different : ('#' == c) = false := by
        rw [beq_eq_false_iff_ne]
        rintro rfl
        exact absurd start (by decide)
      simp [List.isPrefixOf, different]

theorem parseLine_print {line : Line} (wellFormed : line.WellFormed) :
    parseLine line.print = some line := by
  cases line with
  | help name doc =>
      have valid : validName name = true := wellFormed
      have head : helpPrefix.isPrefixOf (helpPrefix ++ (name ++ ' ' :: escapeDoc doc)) = true := by
        simp
      simp only [parseLine, Line.print, head, if_true, List.drop_left]
      rw [spanName_append valid (by decide)]
      simp only [unescapeDoc_escapeDoc]
  | type name kind =>
      have head : typePrefix.isPrefixOf (typePrefix ++ (name ++ ' ' :: kind)) = true := by simp
      have other : helpPrefix.isPrefixOf (typePrefix ++ (name ++ ' ' :: kind)) = false := rfl
      simp only [parseLine, Line.print, head, other, if_true, Bool.false_eq_true, if_false,
        List.drop_left]
      rw [spanName_append wellFormed.1 (by decide)]
      rfl
  | sample s =>
      have noHelp : helpPrefix.isPrefixOf s.print = false := by
        unfold Sample.print
        split_ifs <;> exact not_prefix_of_name wellFormed.1 _ _
      have noType : typePrefix.isPrefixOf s.print = false := by
        unfold Sample.print
        split_ifs <;> exact not_prefix_of_name wellFormed.1 _ _
      simp only [parseLine, Line.print, noHelp, noType, Bool.false_eq_true, if_false,
        parseSample_print wellFormed, Option.map_some]

theorem newline_not_mem_print {line : Line} (wellFormed : line.WellFormed) : '\n' ∉ line.print := by
  have notName {name : Text} (valid : validName name = true) : '\n' ∉ name :=
    not_mem_of_valid valid (by decide)
  have labels_free {labels : List (Text × Text)}
      (valid : ∀ label ∈ labels, validName label.1 = true) : '\n' ∉ printLabels labels := by
    induction labels with
    | nil => simp [printLabels]
    | cons label labels ih =>
        have here : '\n' ∉ printLabel label := by
          simp [printLabel, notName (valid label List.mem_cons_self), newline_not_mem_escapeValue]
        cases labels with
        | nil => exact here
        | cons next labels =>
            have later := ih fun label member => valid label (List.mem_cons_of_mem _ member)
            simp [printLabels, here, later]
  cases line with
  | help name doc =>
      have valid : validName name = true := wellFormed
      simp [Line.print, helpPrefix, notName valid, newline_not_mem_escapeDoc]
  | type name kind => simp [Line.print, typePrefix, notName wellFormed.1, wellFormed.2]
  | sample s =>
      obtain ⟨name_valid, labels_valid, value_free⟩ := wellFormed
      simp only [Line.print, Sample.print]
      split_ifs
      · simp [notName name_valid, value_free]
      · simp [notName name_valid, labels_free labels_valid, value_free]

theorem print_ne_nil (line : Line) : line.print ≠ [] := by
  cases line with
  | help name doc => simp [Line.print, helpPrefix]
  | type name kind => simp [Line.print, typePrefix]
  | sample s =>
      simp only [Line.print, Sample.print]
      split_ifs <;> simp

theorem parse_line {line : Line} (wellFormed : line.WellFormed) : parse line.print = some [line] := by
  have kept : [line.print].filter (!·.isEmpty) = [line.print] := by
    simp [print_ne_nil line]
  rw [parse, List.splitOn_eq_singleton (newline_not_mem_print wellFormed), kept, List.mapM_cons,
    parseLine_print wellFormed]
  rfl

theorem splitOn_print {lines : List Line} (wellFormed : ∀ line ∈ lines, line.WellFormed) :
    (print lines).splitOn '\n' = lines.map Line.print ++ [[]] := by
  induction lines with
  | nil => rfl
  | cons line lines ih =>
      have free := newline_not_mem_print (wellFormed line List.mem_cons_self)
      have rest := ih fun line member => wellFormed line (List.mem_cons_of_mem _ member)
      have split : print (line :: lines) = line.print ++ '\n' :: print lines := by simp [print]
      rw [split, List.splitOn_append_cons_self_of_not_mem free, rest]
      rfl

theorem parse_print {lines : List Line} (wellFormed : ∀ line ∈ lines, line.WellFormed) :
    parse (print lines) = some lines := by
  have kept : (lines.map Line.print).filter (!·.isEmpty) = lines.map Line.print := by
    rw [List.filter_eq_self]
    intro text member
    obtain ⟨line, -, rfl⟩ := List.mem_map.mp member
    simpa using print_ne_nil line
  have parsed : (lines.map Line.print).mapM parseLine = some lines := by
    clear kept
    induction lines with
    | nil => rfl
    | cons line lines ih =>
        have rest := ih fun line member => wellFormed line (List.mem_cons_of_mem _ member)
        rw [List.map_cons, List.mapM_cons, parseLine_print (wellFormed line List.mem_cons_self), rest]
        rfl
  rw [parse, splitOn_print wellFormed, List.filter_append, kept]
  simpa using parsed

theorem unquote_sound {text value rest : Text} (read : unquote text = some (value, rest)) (line : '\n' ∉ text) :
    text = escapeValue value ++ '"' :: rest := by
  fun_induction unquote text generalizing value rest with
  | case1 => cases read
  | case2 rest =>
      cases read
      rfl
  | case3 rest ih =>
      obtain ⟨⟨value, rest⟩, inside, equal⟩ := Option.map_eq_some_iff.mp read
      cases equal
      rw [ih inside (by simpa using line)]
      rfl
  | case4 rest ih =>
      obtain ⟨⟨value, rest⟩, inside, equal⟩ := Option.map_eq_some_iff.mp read
      cases equal
      rw [ih inside (by simpa using line)]
      rfl
  | case5 rest ih =>
      obtain ⟨⟨value, rest⟩, inside, equal⟩ := Option.map_eq_some_iff.mp read
      cases equal
      rw [ih inside (by simpa using line)]
      rfl
  | case6 => cases read
  | case7 c rest quote _ _ _ backslash ih =>
      obtain ⟨⟨value, rest⟩, inside, equal⟩ := Option.map_eq_some_iff.mp read
      cases equal
      rw [List.mem_cons, not_or] at line
      rw [ih inside line.2]
      have plain : escapeChar c = [c] := by
        rw [escapeChar, if_neg backslash, if_neg quote, if_neg fun same => line.1 same.symm]
      simp [escapeValue, plain]

theorem spanName_sound {text name rest : Text} (read : spanName text = some (name, rest)) :
    text = name ++ rest := by
  unfold spanName at read
  dsimp only at read
  split_ifs at read
  cases read
  exact List.takeWhile_append_dropWhile.symm

theorem parseLabels_sound {fuel : Nat} {text rest : Text} {labels : List (Text × Text)}
    (read : parseLabels fuel text = some (labels, rest)) (line : '\n' ∉ text) :
    labels ≠ [] ∧ text = printLabels labels ++ '}' :: rest := by
  induction fuel generalizing text labels with
  | zero => cases read
  | succ fuel ih =>
      simp only [parseLabels] at read
      split at read
      case h_2 => cases read
      case h_1 key after named =>
          have front := spanName_sound named
          subst front
          have inside : '\n' ∉ after := by
            intro member
            exact line (by simp [member])
          split at read
          case h_1 value rest' closed =>
              cases read
              have back := unquote_sound closed inside
              refine ⟨by simp, ?_⟩
              simp [printLabels, printLabel, back]
          case h_2 value more closed =>
              have back := unquote_sound closed inside
              obtain ⟨⟨labels', rest'⟩, others, equal⟩ := Option.map_eq_some_iff.mp read
              cases equal
              have later : '\n' ∉ more := by
                intro member
                exact inside (by rw [back]; simp [member])
              obtain ⟨some, printed⟩ := ih others later
              refine ⟨by simp, ?_⟩
              cases labels' with
              | nil => exact absurd rfl some
              | cons label labels' => simp [printLabels, printLabel, back, printed]
          case h_3 => cases read

def Sample.head (s : Sample) : Text :=
  if s.labels.isEmpty then s.name else s.name ++ '{' :: (printLabels s.labels ++ ['}'])

theorem Sample.print_eq (s : Sample) : s.print = s.head ++ ' ' :: s.value := by
  unfold Sample.print Sample.head
  split_ifs <;> simp

theorem parseSample_sound {line : Text} {s : Sample} (read : parseSample line = some s) (free : '\n' ∉ line) :
    line = s.print := by
  unfold parseSample at read
  split at read
  case h_1 name value named =>
      cases read
      exact spanName_sound named
  case h_2 name rest named =>
      have front := spanName_sound named
      have inside : '\n' ∉ rest := by
        intro member
        exact free (by rw [front]; simp [member])
      split at read
      case h_1 labels value closed =>
          cases read
          obtain ⟨some, printed⟩ := parseLabels_sound closed inside
          cases labels with
          | nil => exact absurd rfl some
          | cons label labels => simp [Sample.print, front, printed]
      case h_2 => cases read
  case h_3 => cases read

theorem parse_append {first second : Text} {lines : List Line} (read : parse (first ++ '\n' :: second) = some lines) :
    ∃ front back, parse first = some front ∧ parse second = some back ∧ lines = front ++ back := by
  rw [parse, List.splitOn_append_cons_self, List.filter_append, List.mapM_append] at read
  obtain ⟨front, here, rest⟩ := Option.bind_eq_some_iff.mp read
  obtain ⟨back, there, equal⟩ := Option.bind_eq_some_iff.mp rest
  cases equal
  exact ⟨front, back, here, there, rfl⟩

def weight (lines : List Line) : Nat := ((samples lines).map fun s => s.head.length).sum

theorem weight_append (front back : List Line) : weight (front ++ back) = weight front + weight back := by
  rw [weight, samples, List.filterMap_append, List.map_append, List.sum_append]
  rfl

theorem parseLine_sample {text : Text} {s : Sample} (read : parseLine text = some (.sample s)) :
    parseSample text = some s := by
  unfold parseLine at read
  split_ifs at read
  · split at read <;> cases read
  · split at read <;> cases read
  · obtain ⟨s', found, equal⟩ := Option.map_eq_some_iff.mp read
    cases equal
    exact found

theorem weight_line {text : Text} {lines : List Line} (read : parse text = some lines) (free : '\n' ∉ text) :
    weight lines = 0 ∨ ∃ s : Sample, text = s.head ++ ' ' :: s.value ∧ weight lines = s.head.length := by
  rw [parse, List.splitOn_eq_singleton free] at read
  cases text with
  | nil =>
      cases read
      exact .inl rfl
  | cons c text =>
      obtain ⟨line, here, rest⟩ := Option.bind_eq_some_iff.mp read
      cases rest
      cases line with
      | help name doc => exact .inl rfl
      | type name kind => exact .inl rfl
      | sample s => exact .inr ⟨s, (parseSample_sound (parseLine_sample here) free).trans s.print_eq, rfl⟩

theorem weight_row {v : Text} (free : '\n' ∉ v) (unspaced : ' ' ∉ v) {p : Text} {lines : List Line}
    (read : parse (p ++ ' ' :: v) = some lines) : weight lines ≤ p.length := by
  induction size : p.length using Nat.strongRecOn generalizing p lines with
  | ind n ih =>
      by_cases broken : '\n' ∈ p
      · obtain ⟨first, rest, rfl, whole⟩ := List.eq_append_cons_of_mem broken
        rw [List.append_assoc, List.cons_append] at read
        obtain ⟨front, back, here, there, rfl⟩ := parse_append read
        rw [List.length_append, List.length_cons] at size
        have later := ih rest.length (by omega) there rfl
        have start : weight front ≤ first.length := by
          rcases weight_line here whole with none | ⟨s, text, one⟩
          · rw [none]
            exact Nat.zero_le _
          · rw [one, text, List.length_append]
            exact Nat.le_add_right _ _
        rw [weight_append]
        omega
      · have line : '\n' ∉ p ++ ' ' :: v := by simp [broken, free]
        rcases weight_line read line with none | ⟨s, text, one⟩
        · omega
        · rw [one, ← size]
          -- the value of the row has no blank, so the value that is read is no shorter
          rcases List.append_eq_append_iff.mp text with ⟨more, head, value⟩ | ⟨more, row, _⟩
          · cases more with
            | nil => simp [head]
            | cons c more =>
                rw [List.cons_append, List.cons.injEq] at value
                exact absurd (by rw [value.2]; simp) unspaced
          · rw [row, List.length_append]
            exact Nat.le_add_right _ _

theorem typedFrom_samples (kinds : List (Text × Text)) (lines : List Line) :
    (typedFrom kinds lines).map (·.2) = samples lines := by
  induction lines generalizing kinds with
  | nil => rfl
  | cons line lines ih =>
      cases line with
      | help name doc => exact ih kinds
      | type name kind => exact ih _
      | sample s => exact congrArg (s :: ·) (ih kinds)

end BusExporter.Lib.Exposition
