import BusExporter.Model.Metrics

/-! The labels of a published series: those of its collector under its own, and its unit. -/

namespace BusExporter.MetricStore
open Lib

theorem getElem?_foldl_insert (l : List (String × String)) (base : BTreeMap String)
    (nodup : (l.map (·.1)).Nodup) (k : String) :
    (l.foldl (fun labels e => labels.insert e.1 e.2) base)[k]? =
      ((l.find? (·.1 = k)).map (·.2)).or base[k]? := by
  induction l generalizing base with
  | nil => simp
  | cons e l ih =>
      rw [List.map_cons, List.nodup_cons] at nodup
      rw [List.foldl_cons, ih _ nodup.2, Std.TreeMap.getElem?_insert]
      by_cases same : e.1 = k
      · have later : l.find? (·.1 = k) = none := by
          apply List.find?_eq_none.mpr
          intro e' member equal
          exact nodup.1 (List.mem_map.mpr ⟨e', member, by simpa [same] using equal⟩)
        simp [same, later]
      · simp [same]

theorem getElem?_merge (base own : BTreeMap String) (k : String) :
    (own.foldl (fun labels k v => labels.insert k v) base)[k]? = own[k]?.or base[k]? := by
  have nodup : (own.toList.map (·.1)).Nodup := by
    have distinct := own.distinct_keys_toList
    rw [List.Nodup, List.pairwise_map]
    exact distinct.imp fun different same => different (by simp [same])
  have found : (own.toList.find? (·.1 = k)).map (·.2) = own[k]? := by
    cases here : own.toList.find? (·.1 = k) with
    | none =>
        cases entry : own[k]? with
        | none => rfl
        | some v =>
            have absent := List.find?_eq_none.mp here (k, v)
              (Std.TreeMap.mem_toList_iff_getElem?_eq_some.mpr entry)
            simp at absent
    | some e =>
        obtain ⟨key, v⟩ := e
        have same : key = k := by simpa using List.find?_some here
        subst same
        exact (Std.TreeMap.mem_toList_iff_getElem?_eq_some.mp (List.mem_of_find?_eq_some here)).symm
  rw [Std.TreeMap.foldl_eq_foldl_toList, getElem?_foldl_insert _ _ nodup, found]

theorem getElem?_collected (labels : HashMap String String) (k : String) :
    (labels.entries.foldl (fun labels e => labels.insert e.1 e.2) (∅ : BTreeMap String))[k]? =
      labels.lookup k := by
  have pairs : labels.entries.foldl (fun labels e => labels.insert e.1 e.2) (∅ : BTreeMap String) =
      (labels.entries.map fun e => (e.1, e.2)).foldl (fun labels e => labels.insert e.1 e.2) ∅ := by
    rw [List.foldl_map]
  have nodup : ((labels.entries.map fun e => (e.1, e.2)).map (·.1)).Nodup := by
    rw [List.map_map]
    exact labels.nodupKeys
  rw [pairs, getElem?_foldl_insert _ _ nodup]
  rw [Std.TreeMap.getElem?_emptyc, Option.or_none]
  cases found : (labels.entries.map fun e => (e.1, e.2)).find? (·.1 = k) with
  | none =>
      symm
      rw [Option.map_none, AList.lookup_eq_none]
      intro present
      obtain ⟨e, member, same⟩ := List.mem_map.mp (AList.mem_keys.mpr present)
      have absent := List.find?_eq_none.mp found (e.1, e.2) (List.mem_map.mpr ⟨e, member, rfl⟩)
      simp [same] at absent
  | some pair =>
      obtain ⟨e, member, rfl⟩ := List.mem_map.mp (List.mem_of_find?_eq_some found)
      have same : e.1 = k := by simpa using List.find?_some found
      subst same
      exact (AList.mem_lookup_iff.mpr member).symm

theorem getElem?_baseLabels (name : String) (globalLabels collectorLabels : BTreeMap String) (k : String) :
    (baseLabels name globalLabels collectorLabels)[k]? =
      if k = "collector" then some name else collectorLabels[k]?.or globalLabels[k]? := by
  rw [baseLabels, Std.TreeMap.getElem?_insert, getElem?_merge]
  by_cases here : k = "collector"
  · subst here
    simp
  · rw [if_neg here, if_neg (by simpa using Ne.symm here)]

theorem baseLabels_collector (name : String) (globalLabels collectorLabels : BTreeMap String) :
    (baseLabels name globalLabels collectorLabels)["collector"]? = some name := by
  simp [baseLabels]

@[simp] theorem withLabels_unit (base : BTreeMap String) (m : MetricValue) : (withLabels base m).unit = m.unit :=
  rfl

theorem getElem?_withLabels (base : BTreeMap String) (m : MetricValue) (k : String) :
    (withLabels base m).labels[k]? =
      if k = "unit" ∧ m.unit ≠ "" then some m.unit else m.labels[k]?.or base[k]? := by
  unfold withLabels
  simp only
  split_ifs with unitless other other
  · exact absurd unitless other.2
  · exact getElem?_merge base m.labels k
  · rw [other.1, Std.TreeMap.getElem?_insert_self]
  · have different : k ≠ "unit" := fun same => other ⟨same, unitless⟩
    rw [Std.TreeMap.getElem?_insert, if_neg (by simpa using Ne.symm different)]
    exact getElem?_merge base m.labels k

theorem withLabels_other {base : BTreeMap String} {m : MetricValue} {k : String} (notUnit : k ≠ "unit") :
    (withLabels base m).labels[k]? = m.labels[k]?.or base[k]? := by
  rw [getElem?_withLabels, if_neg fun unit => notUnit unit.1]

@[simp] theorem metricsFor_publish (order : RandomState) (store : MetricStore) (name : String)
    (metrics : List MetricValue) (globalLabels collectorLabels : BTreeMap String) :
    (store.publish order name metrics globalLabels collectorLabels).metricsFor name =
      snapshot order name metrics globalLabels collectorLabels := by
  rw [publish, metricsFor, AList.lookup_insert, Option.getD_some]

theorem mem_snapshot {order : RandomState} {name : String} {metrics : List MetricValue}
    {globalLabels collectorLabels : BTreeMap String} {m : MetricValue}
    (member : m ∈ snapshot order name metrics globalLabels collectorLabels) :
    ∃ m₀ ∈ metrics, m = withLabels (baseLabels name globalLabels collectorLabels) m₀ := by
  rw [snapshot] at member
  obtain ⟨e, walked, rfl⟩ := List.mem_map.mp member
  have inserted := HashMap.mem_iter.mp walked
  rw [HashMap.lookup_foldl_insert, AList.lookup_empty, Option.or_none] at inserted
  obtain ⟨m₀, found, same⟩ := Option.map_eq_some_iff.mp inserted
  exact ⟨m₀, List.mem_reverse.mp (List.mem_of_find?_eq_some found), same.symm⟩

end BusExporter.MetricStore
