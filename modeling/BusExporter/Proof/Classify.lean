import BusExporter.Model.Batch
import BusExporter.Model.Validate

/-! How the metrics of a batch are divided: each metric with an address is read in exactly one way. -/

namespace BusExporter.Modbus
open Lib Config

structure Stands (l : List (MetricConfig × Nat)) (kind : RegisterType) (item : IndexedMetric) : Prop where
  member : (item.metric, item.idx) ∈ l
  address : item.metric.address = some item.addr
  count : item.count = item.metric.dataType.registerCount
  kind : item.metric.registerType.getD .holding = kind

structure StandsAlone (l : List (MetricConfig × Nat)) (entry : Nat × MetricConfig) : Prop where
  member : (entry.2, entry.1) ∈ l
  address : entry.2.address.isSome
  kind : isBit (entry.2.registerType.getD .holding) = true

theorem Stands.later {l : List (MetricConfig × Nat)} {kind : RegisterType} {item : IndexedMetric}
    (stands : Stands l kind item) (head : MetricConfig × Nat) : Stands (head :: l) kind item :=
  { stands with member := List.mem_cons_of_mem head stands.member }

theorem StandsAlone.later {l : List (MetricConfig × Nat)} {entry : Nat × MetricConfig}
    (stands : StandsAlone l entry) (head : MetricConfig × Nat) : StandsAlone (head :: l) entry :=
  { stands with member := List.mem_cons_of_mem head stands.member }

theorem classify_stands (l : List (MetricConfig × Nat)) :
    (∀ item ∈ (classify l).holding, Stands l .holding item) ∧
      (∀ item ∈ (classify l).input, Stands l .input item) ∧
      ∀ entry ∈ (classify l).individual, StandsAlone l entry := by
  induction l with
  | nil => simp [classify]
  | cons head l ih =>
      obtain ⟨m, idx⟩ := head
      obtain ⟨holding, input, individual⟩ := ih
      have holding' := fun item member => (holding item member).later (m, idx)
      have input' := fun item member => (input item member).later (m, idx)
      have individual' := fun entry member => (individual entry member).later (m, idx)
      simp only [classify]
      cases address : m.address with
      | none => exact ⟨holding', input', individual'⟩
      | some addr =>
          cases kind : m.registerType.getD .holding with
          | holding =>
              refine ⟨?_, input', individual'⟩
              intro item member
              rcases List.mem_cons.mp member with rfl | old
              · exact ⟨List.mem_cons_self, address, rfl, kind⟩
              · exact holding' item old
          | input =>
              refine ⟨holding', ?_, individual'⟩
              intro item member
              rcases List.mem_cons.mp member with rfl | old
              · exact ⟨List.mem_cons_self, address, rfl, kind⟩
              · exact input' item old
          | coil =>
              refine ⟨holding', input', ?_⟩
              intro entry member
              rcases List.mem_cons.mp member with rfl | old
              · exact ⟨List.mem_cons_self, by simp [address], by simp [kind, isBit]⟩
              · exact individual' entry old
          | discrete =>
              refine ⟨holding', input', ?_⟩
              intro entry member
              rcases List.mem_cons.mp member with rfl | old
              · exact ⟨List.mem_cons_self, by simp [address], by simp [kind, isBit]⟩
              · exact individual' entry old

theorem mem_classify {l : List (MetricConfig × Nat)} {m : MetricConfig} {idx : Nat} {addr : UInt16}
    (member : (m, idx) ∈ l) (address : m.address = some addr) :
    (m.registerType.getD .holding = .holding →
      ⟨idx, m, addr, m.dataType.registerCount⟩ ∈ (classify l).holding) ∧
      (m.registerType.getD .holding = .input →
        ⟨idx, m, addr, m.dataType.registerCount⟩ ∈ (classify l).input) := by
  induction l with
  | nil => simp at member
  | cons head l ih =>
      rcases List.mem_cons.mp member with rfl | later
      · simp only [classify, address]
        cases m.registerType.getD .holding <;> simp
      · obtain ⟨holding, input⟩ := ih later
        obtain ⟨m', idx'⟩ := head
        simp only [classify]
        cases m'.address with
        | none => exact ⟨holding, input⟩
        | some addr' =>
            cases m'.registerType.getD .holding with
            | holding => exact ⟨fun kind => List.mem_cons_of_mem _ (holding kind), input⟩
            | input => exact ⟨holding, fun kind => List.mem_cons_of_mem _ (input kind)⟩
            | coil => exact ⟨holding, input⟩
            | discrete => exact ⟨holding, input⟩

def Classified.keys (c : Classified) : List Nat :=
  c.holding.map (·.idx) ++ (c.input.map (·.idx) ++ c.individual.map Prod.fst)

theorem classify_keys (l : List (MetricConfig × Nat)) :
    (classify l).keys.Perm ((l.filter (·.1.address.isSome)).map Prod.snd) := by
  induction l with
  | nil => exact .nil
  | cons head l ih =>
      obtain ⟨m, idx⟩ := head
      simp only [classify]
      cases address : m.address with
      | none => simpa [address, Classified.keys] using ih
      | some addr =>
          have whole : (((m, idx) :: l).filter (·.1.address.isSome)).map Prod.snd =
              idx :: (l.filter (·.1.address.isSome)).map Prod.snd := by
            rw [List.filter_cons, if_pos (by simp [address]), List.map_cons]
          rw [whole]
          cases kind : m.registerType.getD .holding with
          | holding => exact ih.cons idx
          | input => exact List.perm_middle.trans (ih.cons idx)
          | coil =>
              rw [Classified.keys, ← List.append_assoc]
              exact List.perm_middle.trans (by simpa [Classified.keys] using ih.cons idx)
          | discrete =>
              rw [Classified.keys, ← List.append_assoc]
              exact List.perm_middle.trans (by simpa [Classified.keys] using ih.cons idx)

theorem classify_results (l : List (MetricConfig × Nat)) :
    (classify l).results = l.map fun (m, _) =>
      if m.address.isSome then none else some (.error (noAddress m)) := by
  induction l with
  | nil => rfl
  | cons head l ih =>
      obtain ⟨m, idx⟩ := head
      rw [List.map_cons, ← ih]
      simp only [classify]
      cases m.address with
      | none => rfl
      | some addr => cases m.registerType.getD .holding <;> rfl

theorem length_classify_results (l : List (MetricConfig × Nat)) :
    (classify l).results.length = l.length := by
  rw [classify_results, List.length_map]

theorem classify_open {l : List (MetricConfig × Nat)} (present : ∀ entry ∈ l, entry.1.address.isSome) :
    ∀ r ∈ (classify l).results, r = none := by
  rw [classify_results]
  intro r member
  obtain ⟨entry, inList, rfl⟩ := List.mem_map.mp member
  exact if_pos (present entry inList)

theorem classify_keys_nodup (metrics : List MetricConfig) : (classify metrics.zipIdx).keys.Nodup := by
  rw [(classify_keys metrics.zipIdx).nodup_iff]
  have distinct : (metrics.zipIdx.map Prod.snd).Nodup := by
    rw [List.zipIdx_map_snd]
    exact List.nodup_range'
  exact distinct.sublist (List.filter_sublist.map Prod.snd)

theorem mem_classify_keys {metrics : List MetricConfig}
    (present : ∀ m ∈ metrics, m.address.isSome) {i : Nat} :
    i ∈ (classify metrics.zipIdx).keys ↔ i < metrics.length := by
  have all : metrics.zipIdx.filter (·.1.address.isSome) = metrics.zipIdx := by
    rw [List.filter_eq_self]
    intro entry member
    exact present entry.1 (List.fst_mem_of_mem_zipIdx member)
  rw [(classify_keys metrics.zipIdx).mem_iff, all, List.zipIdx_map_snd]
  simp [List.mem_range']

end BusExporter.Modbus
