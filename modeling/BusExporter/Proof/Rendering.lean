import BusExporter.Lib.Exposition
import BusExporter.Lib.Lists
import BusExporter.Model.Prometheus

/-! The rendered text of the metric store, read back by the reference parser. -/

namespace BusExporter.Prometheus
open Lib Exposition

theorem nameChar_sanitizeChar {position : Nat} {c d : Char} (member : d ∈ sanitizeChar position c) :
    isNameChar d = true := by
  unfold sanitizeChar at member
  split_ifs at member with kept digit
  · rcases List.mem_cons.mp member with rfl | same
    · decide
    · rw [List.mem_singleton.mp same]
      exact kept
  · rw [List.mem_singleton.mp member]
    exact kept
  · rw [List.mem_singleton.mp member]
    decide

theorem nameStart_sanitizeChar (c : Char) :
    ∃ d rest, sanitizeChar 0 c = d :: rest ∧ isNameStart d = true := by
  unfold sanitizeChar
  split_ifs with kept digit
  · exact ⟨'_', [c], rfl, by decide⟩
  · refine ⟨c, [], rfl, ?_⟩
    simp only [Char.isAlphanum, Bool.or_eq_true, decide_eq_true_eq] at kept
    simp only [decide_true, Bool.true_and] at digit
    simp only [isNameStart, Bool.or_eq_true, decide_eq_true_eq]
    rcases kept with (letter | isDigit) | underscore
    · exact .inl letter
    · exact absurd isDigit digit
    · exact .inr underscore
  · exact ⟨'_', [], rfl, by decide⟩

theorem validName_sanitizeName (s : String) : validName (sanitizeName s).toList = true := by
  unfold sanitizeName
  cases chars : s.toList with
  | nil => rfl
  | cons c cs =>
      obtain ⟨d, rest, first, start⟩ := nameStart_sanitizeChar c
      simp only [List.zipIdx_cons, List.flatMap_cons, first, List.cons_append, List.isEmpty_cons,
        Bool.false_eq_true, if_false, String.toList_ofList, validName, start, Bool.true_and,
        List.all_eq_true]
      intro e member
      rcases List.mem_append.mp member with inRest | later
      · have inside : e ∈ sanitizeChar 0 c := by
          rw [first]
          exact List.mem_cons_of_mem d inRest
        exact nameChar_sanitizeChar inside
      · obtain ⟨⟨c', position⟩, -, inside⟩ := List.mem_flatMap.mp later
        exact nameChar_sanitizeChar inside

theorem validName_append {front back : Text} (valid : validName front = true)
    (chars : ∀ c ∈ back, isNameChar c = true) : validName (front ++ back) = true := by
  cases front with
  | nil => cases valid
  | cons c front =>
      simp only [validName, Bool.and_eq_true, List.all_eq_true, List.cons_append] at valid ⊢
      refine ⟨valid.1, ?_⟩
      intro d member
      rcases List.mem_append.mp member with inFront | inBack
      · exact valid.2 d inFront
      · exact chars d inBack

theorem nameChar_underscore : ∀ c ∈ "_".toList, isNameChar c = true := by
  simp [isNameChar]

theorem validName_buildMetricName (name unit : String) :
    validName (buildMetricName name unit).toList = true := by
  have base : validName ("bus_" ++ sanitizeName name).toList = true := by
    rw [String.toList_append]
    exact validName_append (by decide) (nameChar_of_valid (validName_sanitizeName name))
  unfold buildMetricName
  split_ifs
  · exact base
  · rw [String.toList_append, String.toList_append]
    apply validName_append
    · exact validName_append base nameChar_underscore
    · exact nameChar_of_valid (validName_sanitizeName unit)

theorem toList_escapeLabelValue (v : String) : (escapeLabelValue v).toList = escapeValue v.toList := by
  simp only [escapeLabelValue, escapeValue, replaceChar, String.toList_ofList, List.flatMap_assoc]
  congr 1
  funext c
  by_cases backslash : c = '\\'
  · subst backslash
    decide
  by_cases quote : c = '"'
  · subst quote
    decide
  by_cases newline : c = '\n'
  · subst newline
    decide
  · simp [escapeChar, backslash, quote, newline]

theorem toList_escapeDescription (description : String) :
    (escapeDescription description).toList = escapeDoc description.toList := by
  simp only [escapeDescription, escapeDoc, replaceChar, String.toList_ofList, List.flatMap_assoc]
  congr 1
  funext c
  by_cases backslash : c = '\\'
  · subst backslash
    decide
  by_cases newline : c = '\n'
  · subst newline
    decide
  · simp [escapeDocChar, backslash, newline]

def sampleOf (m : MetricValue) : Sample where
  name := (buildMetricName m.name m.unit).toList
  labels := m.labels.toList.map fun (k, v) => ((sanitizeName k).toList, v.toList)
  value := (F64.display m.value).toList

theorem toList_formatLabel (k v : String) :
    (formatLabel k v).toList = printLabel ((sanitizeName k).toList, v.toList) := by
  simp only [formatLabel, printLabel, String.toList_append, toList_escapeLabelValue, List.append_assoc]
  rfl

theorem intercalate_printLabels (labels : List (Text × Text)) :
    [','].intercalate (labels.map printLabel) = printLabels labels := by
  induction labels with
  | nil => rfl
  | cons label labels ih =>
      cases labels with
      | nil => simp [printLabels]
      | cons next labels =>
          have more : printLabels (label :: next :: labels) =
              printLabel label ++ ',' :: printLabels (next :: labels) := rfl
          rw [more, ← ih]
          simp [List.intercalate]

theorem toList_formatMetricLine (m : MetricValue) :
    (formatMetricLine (buildMetricName m.name m.unit) m.labels m.value).toList = (sampleOf m).print := by
  unfold formatMetricLine Sample.print sampleOf
  have empty : m.labels.isEmpty = m.labels.toList.isEmpty := Std.TreeMap.isEmpty_toList.symm
  have labels : ",".toList.intercalate ((m.labels.toList.map fun (k, v) => formatLabel k v).map
      String.toList) = printLabels (m.labels.toList.map fun (k, v) => ((sanitizeName k).toList, v.toList)) := by
    rw [← intercalate_printLabels, List.map_map, List.map_map]
    have comma : ",".toList = [','] := rfl
    rw [comma]
    apply congrArg (List.intercalate [','])
    apply List.map_congr_left
    intro (k, v) _
    exact toList_formatLabel k v
  rw [empty, List.isEmpty_map]
  split_ifs
  · simp [String.toList_append]
  · simp only [String.toList_append, String.toList_intercalate, labels, List.append_assoc]
    rfl

def fqname (m : MetricValue) : String := buildMetricName m.name m.unit

theorem grouped_append (all : List MetricValue) (m : MetricValue) :
    grouped (all ++ [m]) =
      (grouped all).insert (fqname m) ((grouped all).getD (fqname m) [] ++ [m]) := by
  rw [grouped, List.foldl_append]
  rfl

theorem getD_grouped (all : List MetricValue) (name : String) :
    (grouped all).getD name [] = all.filter fun m => fqname m = name := by
  induction all using List.reverseRecOn with
  | nil => simp [grouped]
  | append_singleton all m ih =>
      rw [grouped_append, Std.TreeMap.getD_insert, List.filter_append]
      by_cases same : fqname m = name
      · subst same
        simp [ih]
      · have different : compare (fqname m) name ≠ .eq := by simpa using same
        rw [if_neg different, ih]
        simp [same]

theorem mem_grouped (all : List MetricValue) (name : String) :
    name ∈ grouped all ↔ ∃ m ∈ all, fqname m = name := by
  induction all using List.reverseRecOn with
  | nil => simp [grouped]
  | append_singleton all m ih =>
      rw [grouped_append, Std.TreeMap.mem_insert, ih]
      simp only [List.mem_append, List.mem_singleton, Std.LawfulEqCmp.compare_eq_iff_eq]
      constructor
      · rintro (same | ⟨m', member, same⟩)
        · exact ⟨m, .inr rfl, same⟩
        · exact ⟨m', .inl member, same⟩
      · rintro ⟨m', member | rfl, same⟩
        · exact .inr ⟨m', member, same⟩
        · exact .inl same

theorem group_eq {all : List MetricValue} {group : String × List MetricValue}
    (member : group ∈ (grouped all).toList) :
    group.2 = all.filter (fun m => fqname m = group.1) ∧ group.2 ≠ [] := by
  obtain ⟨name, values⟩ := group
  have found := Std.TreeMap.mem_toList_iff_getElem?_eq_some.mp member
  have values_eq : values = all.filter fun m => fqname m = name := by
    rw [← getD_grouped, Std.TreeMap.getD_eq_getD_getElem?, found]
    rfl
  refine ⟨values_eq, ?_⟩
  have present : name ∈ grouped all := by
    rw [Std.TreeMap.mem_iff_isSome_getElem?, found]
    rfl
  obtain ⟨m, inAll, same⟩ := (mem_grouped all name).mp present
  rw [values_eq]
  exact List.ne_nil_of_mem (List.mem_filter.mpr ⟨inAll, by simpa using same⟩)

theorem nodup_groups (all : List MetricValue) : ((grouped all).toList.map (·.1)).Nodup := by
  rw [List.Nodup, List.pairwise_map]
  apply Std.TreeMap.distinct_keys_toList.imp
  intro a b distinct same
  apply distinct
  rw [same]
  exact Std.ReflCmp.compare_self

theorem flatMap_groups (all : List MetricValue) : ((grouped all).toList.flatMap (·.2)).Perm all := by
  have divided : (grouped all).toList.flatMap (·.2) =
      ((grouped all).toList.map (·.1)).flatMap fun name => all.filter fun m => fqname m = name := by
    rw [List.flatMap_map]
    apply List.flatMap_congr
    intro group member
    exact (group_eq member).1
  have whole : (all.filter fun m => fqname m ∈ (grouped all).toList.map (·.1)) = all := by
    rw [List.filter_eq_self]
    intro m member
    have present : fqname m ∈ grouped all := (mem_grouped all _).mpr ⟨m, member, rfl⟩
    rw [Std.TreeMap.mem_iff_isSome_getElem?, Option.isSome_iff_exists] at present
    obtain ⟨values, found⟩ := present
    have inList := Std.TreeMap.mem_toList_iff_getElem?_eq_some.mpr found
    exact decide_eq_true (List.mem_map.mpr ⟨_, inList, rfl⟩)
  rw [divided]
  have perm := flatMap_filter_perm fqname all (nodup_groups all)
  rw [whole] at perm
  exact perm

def familyOf (group : String × List MetricValue) : Family where
  name := group.1.toList
  doc := match group.2 with
    | [] => []
    | first :: _ => first.description.toList
  kind := match group.2 with
    | [] => []
    | first :: _ => (typeStr first.metricType).toList
  samples := group.2.map sampleOf

theorem toList_renderGroup {group : String × List MetricValue} (nonempty : group.2 ≠ [])
    (named : ∀ m ∈ group.2, fqname m = group.1) :
    (renderGroup group.1 group.2).toList = print (familyOf group).lines := by
  obtain ⟨name, values⟩ := group
  cases values with
  | nil => exact absurd rfl nonempty
  | cons first rest =>
      have samples : ((first :: rest).map fun m => formatMetricLine name m.labels m.value ++ "\n").flatMap
          String.toList = print ((first :: rest).map fun m => .sample (sampleOf m)) := by
        rw [print, List.flatMap_map, List.flatMap_map]
        apply List.flatMap_congr
        intro m member
        have same : fqname m = name := named m member
        rw [String.toList_append, ← same]
        exact congrArg (· ++ ['\n']) (toList_formatMetricLine m)
      have text : renderGroup name (first :: rest) =
          "# HELP " ++ name ++ " " ++ escapeDescription first.description ++ "\n" ++
            "# TYPE " ++ name ++ " " ++ typeStr first.metricType ++ "\n" ++
            String.join ((first :: rest).map fun m => formatMetricLine name m.labels m.value ++ "\n") := rfl
      simp only [text, String.toList_append, String.toList_join, samples, toList_escapeDescription]
      rw [familyOf, Family.lines, List.map_map]
      have help : "# HELP ".toList = helpPrefix := rfl
      have type : "# TYPE ".toList = typePrefix := rfl
      have space : " ".toList = [' '] := rfl
      have newline : "\n".toList = ['\n'] := rfl
      simp only [print, Line.print, List.flatMap_cons, List.append_assoc, List.cons_append,
        List.nil_append, help, type, space, newline]
      rfl

theorem newline_not_mem_display (x : Float) : '\n' ∉ (F64.display x).toList := by
  intro member
  rw [F64.display, String.toList_ofList] at member
  have impossible := F64.numeric_displayChars member
  revert impossible
  decide

theorem wellFormed_family {group : String × List MetricValue} (nonempty : group.2 ≠ [])
    (named : ∀ m ∈ group.2, fqname m = group.1) : ∀ line ∈ (familyOf group).lines, line.WellFormed := by
  have valid : validName group.1.toList = true := by
    obtain ⟨m, member⟩ := List.exists_mem_of_ne_nil _ nonempty
    rw [← named m member]
    exact validName_buildMetricName m.name m.unit
  intro line member
  rcases List.mem_cons.mp member with rfl | member
  · exact valid
  rcases List.mem_cons.mp member with rfl | member
  · refine ⟨valid, ?_⟩
    cases values : group.2 with
    | nil => exact absurd values nonempty
    | cons first rest => cases kind : first.metricType <;> simp [familyOf, values, kind, typeStr]
  · obtain ⟨s, inSamples, rfl⟩ := List.mem_map.mp member
    obtain ⟨m, inGroup, rfl⟩ := List.mem_map.mp inSamples
    refine ⟨validName_buildMetricName m.name m.unit, ?_, newline_not_mem_display m.value⟩
    intro label inLabels
    obtain ⟨⟨k, v⟩, -, rfl⟩ := List.mem_map.mp inLabels
    exact validName_sanitizeName k

def stored (store : MetricStore) : List MetricValue := store.entries.flatMap (·.2)

/-- What a scrape is read back as: families of distinct valid names, each with its samples, that
together are the stored metrics. -/
structure Exposes (store : MetricStore) (families : List Family) : Prop where
  distinct : (families.map (·.name)).Nodup
  names : ∀ f ∈ families, validName f.name = true
  nonempty : ∀ f ∈ families, f.samples ≠ []
  samples : ∀ f ∈ families, ∀ s ∈ f.samples, s.name = f.name
  labels : ∀ f ∈ families, ∀ s ∈ f.samples, ∀ label ∈ s.labels, validName label.1 = true
  complete : (families.flatMap (·.samples)).Perm ((stored store).map sampleOf)

theorem named_group {all : List MetricValue} {group : String × List MetricValue}
    (member : group ∈ (grouped all).toList) : ∀ m ∈ group.2, fqname m = group.1 := by
  intro m inGroup
  rw [(group_eq member).1] at inGroup
  simpa using (List.mem_filter.mp inGroup).2

def families (order : RandomState) (store : MetricStore) : List Family :=
  (grouped (store.allMetricsFlat order)).toList.map familyOf

theorem parse_families (order : RandomState) (store : MetricStore) :
    parse (renderMetrics order store).toList = some ((families order store).flatMap Family.lines) := by
  have text : (renderMetrics order store).toList = print ((families order store).flatMap Family.lines) := by
    rw [renderMetrics, families, String.toList_join, List.flatMap_map, List.flatMap_map, print,
      List.flatMap_assoc]
    apply List.flatMap_congr
    intro group member
    exact toList_renderGroup (group_eq member).2 (named_group member)
  rw [text]
  apply parse_print
  intro line member
  obtain ⟨f, inFamilies, inLines⟩ := List.mem_flatMap.mp member
  obtain ⟨group, inGroups, rfl⟩ := List.mem_map.mp inFamilies
  exact wellFormed_family (group_eq inGroups).2 (named_group inGroups) line inLines

theorem samples_perm (order : RandomState) (store : MetricStore) :
    ((families order store).flatMap (·.samples)).Perm ((stored store).map sampleOf) := by
  have flat : (families order store).flatMap (·.samples) =
      ((grouped (store.allMetricsFlat order)).toList.flatMap (·.2)).map sampleOf := by
    rw [families, List.flatMap_map, List.map_flatMap]
    rfl
  have walked : (store.allMetricsFlat order).Perm (stored store) :=
    (HashMap.iter_perm order store).flatMap_right _
  rw [flat]
  exact ((flatMap_groups _).trans walked).map sampleOf

theorem render_parses (order : RandomState) (store : MetricStore) :
    ∃ families, parse (renderMetrics order store).toList = some (families.flatMap Family.lines) ∧
      Exposes store families := by
  refine ⟨families order store, parse_families order store, ?_, ?_, ?_, ?_, ?_, samples_perm order store⟩
  · have names : (families order store).map (·.name) =
        ((grouped (store.allMetricsFlat order)).toList.map (·.1)).map String.toList := by
      rw [families, List.map_map, List.map_map]
      rfl
    rw [names]
    exact (nodup_groups _).map fun a b same => String.toList_inj.mp same
  · intro f member
    obtain ⟨group, inGroups, rfl⟩ := List.mem_map.mp member
    exact wellFormed_family (group_eq inGroups).2 (named_group inGroups) _ List.mem_cons_self
  · intro f member
    obtain ⟨group, inGroups, rfl⟩ := List.mem_map.mp member
    simpa [familyOf] using (group_eq inGroups).2
  · intro f member s inSamples
    obtain ⟨group, inGroups, rfl⟩ := List.mem_map.mp member
    obtain ⟨m, inGroup, rfl⟩ := List.mem_map.mp inSamples
    exact congrArg String.toList (named_group inGroups m inGroup)
  · intro f member s inSamples label inLabels
    obtain ⟨group, inGroups, rfl⟩ := List.mem_map.mp member
    obtain ⟨m, inGroup, rfl⟩ := List.mem_map.mp inSamples
    obtain ⟨⟨k, v⟩, -, rfl⟩ := List.mem_map.mp inLabels
    exact validName_sanitizeName k

end BusExporter.Prometheus
