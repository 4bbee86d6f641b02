import BusExporter.Proof.Caches
import BusExporter.Proof.Labels

/-! What the store holds of a collector after a publication: the last metric of each name, with its labels
merged from four sources. -/

namespace BusExporter.MetricStore
open Lib Collector

theorem nodup_snapshot (order : RandomState) (name : String) (metrics : List MetricValue)
    (globalLabels collectorLabels : BTreeMap String) :
    ((snapshot order name metrics globalLabels collectorLabels).map (·.name)).Nodup := by
  rw [snapshot]
  generalize cached : metrics.foldl (fun (map : HashMap String MetricValue) m => map.insert m.name
    (withLabels (baseLabels name globalLabels collectorLabels) m)) ∅ = deduped
  have named : Named deduped := by
    rw [← cached]
    exact named_foldl_insert _ metrics named_empty
  have keys : ((deduped.iter order).map (·.2)).map (·.name) = (deduped.iter order).map (·.1) := by
    rw [List.map_map]
    apply List.map_congr_left
    intro e member
    exact named e.1 e.2 (HashMap.mem_iter.mp member)
  rw [keys]
  exact HashMap.iter_nodupKeys order deduped

theorem mem_snapshot_iff {order : RandomState} {name : String} {metrics : List MetricValue}
    {globalLabels collectorLabels : BTreeMap String} {m : MetricValue} :
    m ∈ snapshot order name metrics globalLabels collectorLabels ↔
      ∃ m₀, metrics.reverse.find? (·.name = m.name) = some m₀ ∧
        withLabels (baseLabels name globalLabels collectorLabels) m₀ = m := by
  rw [snapshot]
  generalize base : baseLabels name globalLabels collectorLabels = labels
  constructor
  · intro member
    obtain ⟨e, walked, rfl⟩ := List.mem_map.mp member
    have inserted := HashMap.mem_iter.mp walked
    have named : e.2.name = e.1 := named_foldl_insert labels metrics named_empty e.1 e.2 inserted
    rw [HashMap.lookup_foldl_insert, AList.lookup_empty, Option.or_none] at inserted
    rw [named]
    exact Option.map_eq_some_iff.mp inserted
  · rintro ⟨m₀, found, same⟩
    refine List.mem_map.mpr ⟨⟨m.name, m⟩, HashMap.mem_iter.mpr ?_, rfl⟩
    rw [HashMap.lookup_foldl_insert, AList.lookup_empty, Option.or_none, found, Option.map_some, same]

def mergedLabel (name : String) (globalLabels collectorLabels : BTreeMap String) (m : MetricValue)
    (k : String) : Option String :=
  if k = "unit" ∧ m.unit ≠ "" then some m.unit
  else m.labels[k]?.or (if k = "collector" then some name else collectorLabels[k]?.or globalLabels[k]?)

/-- The snapshot of a collector is the last metric of each name, apart from its labels, and these follow
one law for every key. -/
theorem publish_law (order : RandomState) (store : MetricStore) (name : String)
    (metrics : List MetricValue) (globalLabels collectorLabels : BTreeMap String) :
    let snapshot := (store.publish order name metrics globalLabels collectorLabels).metricsFor name
    (snapshot.map (·.name)).Nodup ∧
      (∀ k, k ∈ snapshot.map (·.name) ↔ k ∈ metrics.map (·.name)) ∧
      ∀ m ∈ snapshot, ∃ before m₀ after,
        metrics = before ++ m₀ :: after ∧ (∀ later ∈ after, later.name ≠ m.name) ∧
          m = { m₀ with labels := m.labels } ∧
          (∀ k : String, m.labels[k]? = mergedLabel name globalLabels collectorLabels m₀ k) ∧
          (m₀.labels["collector"]? = none → m.labels["collector"]? = some name) := by
  rw [metricsFor_publish]
  refine ⟨nodup_snapshot .., ?_, ?_⟩
  · intro k
    constructor
    · intro present
      obtain ⟨m, member, rfl⟩ := List.mem_map.mp present
      obtain ⟨m₀, found, -⟩ := mem_snapshot_iff.mp member
      have named : m₀.name = m.name := by simpa using List.find?_some found
      rw [← named]
      exact List.mem_map_of_mem (List.mem_reverse.mp (List.mem_of_find?_eq_some found))
    · intro present
      obtain ⟨m, given, rfl⟩ := List.mem_map.mp present
      have some : (metrics.reverse.find? (·.name = m.name)).isSome := by
        rw [List.find?_isSome]
        exact ⟨m, List.mem_reverse.mpr given, by simp⟩
      obtain ⟨m₀, found⟩ := Option.isSome_iff_exists.mp some
      have named : m₀.name = m.name := by simpa using List.find?_some found
      refine List.mem_map.mpr
        ⟨withLabels (baseLabels name globalLabels collectorLabels) m₀, mem_snapshot_iff.mpr ?_, named⟩
      exact ⟨m₀, by rw [← found, ← named]; rfl, rfl⟩
  · intro m member
    obtain ⟨m₀, found, rfl⟩ := mem_snapshot_iff.mp member
    obtain ⟨-, after, before, split, others⟩ := List.find?_eq_some_iff_append.mp found
    have law (k : String) : (withLabels (baseLabels name globalLabels collectorLabels) m₀).labels[k]? =
        mergedLabel name globalLabels collectorLabels m₀ k := by
      rw [getElem?_withLabels, getElem?_baseLabels]
      rfl
    refine ⟨before.reverse, m₀, after.reverse, ?_, ?_, rfl, law, ?_⟩
    · rw [← List.reverse_reverse metrics, split]
      simp
    · intro later member
      simpa using others later (List.mem_reverse.mp member)
    · intro absent
      rw [law, mergedLabel, absent]
      simp

end BusExporter.MetricStore
