import BusExporter.Model.StoreAccess
import BusExporter.Proof.Publication

/-! The metric store over every interleaving of publishes, removals and reads: what it holds of a collector
is what the collector's last operation left, and a reader sees of a collector one of its snapshots. -/

namespace BusExporter.StoreAccess
open Lib

variable {ι : Type} [DecidableEq ι]

theorem apply_update (op : StoreOp) (store : MetricStore) : op.apply store = op.update.apply store := by
  cases op with
  | publish order name metrics globalLabels collectorLabels => rfl
  | removeCollector name => rfl

@[simp] theorem update_key (op : StoreOp) : op.update.key = op.collectorName := by
  cases op <;> rfl

theorem content_eq (op : StoreOp) : op.update.value.getD [] = op.content := by
  cases op with
  | publish order name metrics globalLabels collectorLabels => rfl
  | removeCollector name => rfl

def Event.shared : Event ι → SharedMap.Event String (List MetricValue) ι
  | .operated op => .updated op.update
  | .started i => .started i
  | .snapshot i parts => .walked i parts

theorem step_shared {s s' : Shared ι} {a : Access ι} {events : List (Event ι)}
    (action : step s a = some (s', events)) :
    ∃ access, SharedMap.step s access = some (s', events.map Event.shared) := by
  cases a with
  | operation op =>
      cases action
      refine ⟨.update op.update, ?_⟩
      rw [SharedMap.step, ← apply_update]
      rfl
  | start i =>
      refine ⟨.start i, ?_⟩
      cases walking : s.walks i with
      | none =>
          simp only [step, SharedMap.step, walking] at action ⊢
          cases action
          rfl
      | some w => simp [step, walking] at action
  | visit i name =>
      refine ⟨.visit i name, ?_⟩
      cases walking : s.walks i with
      | none => simp [step, walking] at action
      | some w =>
          simp only [step, SharedMap.step, walking] at action ⊢
          split_ifs at action ⊢ with seen
          cases action
          rfl
  | finish i =>
      refine ⟨.finish i, ?_⟩
      cases walking : s.walks i with
      | none => simp [step, walking] at action
      | some w =>
          simp only [step, SharedMap.step, walking] at action ⊢
          split_ifs at action ⊢ with done
          cases action
          rfl

theorem run_shared {trace : List (Event ι)} {s : Shared ι} (run : machine.Run SharedMap.empty trace s) :
    SharedMap.machine.Run SharedMap.empty (trace.map Event.shared) s := by
  have follows : ∀ {s u : Shared ι} {a s' events}, s = u → machine.step s a = some (s', events) →
      (events.filterMap (some ∘ Event.shared) = [] ∧ s' = u) ∨
        ∃ access u', SharedMap.machine.step u access =
          some (u', events.filterMap (some ∘ Event.shared)) ∧ s' = u' := by
    rintro s _ a s' events rfl action
    obtain ⟨access, shared⟩ := step_shared action
    exact .inr ⟨access, s', by rw [List.filterMap_eq_map]; exact shared, rfl⟩
  obtain ⟨u, shared, rfl⟩ := run.simulated (some ∘ Event.shared) rfl follows
  rwa [List.filterMap_eq_map] at shared

omit [DecidableEq ι] in
theorem updates_shared (trace : List (Event ι)) :
    SharedMap.updates (trace.map Event.shared) = (operations trace).map StoreOp.update := by
  rw [SharedMap.updates, operations, List.filterMap_map, List.map_filterMap]
  apply List.filterMap_congr
  intro e _
  cases e <;> rfl

def lastContent (collectorName : String) (ops : List StoreOp) : List MetricValue :=
  ((ops.reverse.find? (·.collectorName = collectorName)).map (·.content)).getD []

omit [DecidableEq ι] in
theorem lastContent_eq (trace : List (Event ι)) (name : String) :
    ((((SharedMap.updates (trace.map Event.shared)).reverse.find? (·.key = name)).bind Update.value).getD []) =
      lastContent name (operations trace) := by
  rw [updates_shared, ← List.map_reverse, List.find?_map, lastContent]
  simp only [Function.comp_def, update_key]
  cases (operations trace).reverse.find? (·.collectorName = name) with
  | none => rfl
  | some op => exact content_eq op

theorem metricsFor_last {trace : List (Event ι)} {s : Shared ι}
    (run : machine.Run SharedMap.empty trace s) (name : String) :
    MetricStore.metricsFor s.map name = lastContent name (operations trace) := by
  rw [MetricStore.metricsFor, SharedMap.lookup_run (run_shared run), lastContent_eq]

theorem operations_commute {op op' : StoreOp} (different : op.collectorName ≠ op'.collectorName)
    (store : MetricStore) : (op.apply (op'.apply store)).entries.Perm (op'.apply (op.apply store)).entries := by
  simp only [apply_update]
  apply Update.apply_comm
  simpa using different

theorem allMetricsFlat_perm (order : RandomState) (store : MetricStore) :
    (store.allMetricsFlat order).Perm (store.keys.flatMap store.metricsFor) := by
  have entries : store.keys.flatMap store.metricsFor = store.entries.flatMap (·.2) := by
    rw [AList.keys, List.keys, List.flatMap_map]
    apply List.flatMap_congr
    intro e member
    rw [MetricStore.metricsFor, AList.mem_lookup_iff.mpr member]
    rfl
  rw [entries]
  exact (HashMap.iter_perm order store).flatMap_right _

theorem part_eq {parts : List (Σ _ : String, List MetricValue)} (once : (parts.map (·.1)).Nodup)
    (name : String) : part name parts = (parts.dlookup name).getD [] := by
  induction parts with
  | nil => rfl
  | cons e parts ih =>
      obtain ⟨key, values⟩ := e
      rw [List.map_cons, List.nodup_cons] at once
      by_cases same : key = name
      · subst same
        have others : parts.filter (·.1 = key) = [] := by
          apply List.filter_eq_nil_iff.mpr
          intro e' member equal
          exact once.1 (List.mem_map.mpr ⟨e', member, by simpa using equal⟩)
        simp [part, flat, others]
      · have later : part name (⟨key, values⟩ :: parts) = part name parts := by simp [part, same]
        rw [later, ih once.2, List.dlookup_cons_ne parts (⟨key, values⟩ : Σ _ : String, _) (Ne.symm same)]

theorem snapshot_published {before after : List (Event ι)} {s : Shared ι} {i : ι}
    {parts : List (Σ _ : String, List MetricValue)}
    (run : machine.Run SharedMap.empty (before ++ .snapshot i parts :: after) s) :
    (parts.map (·.1)).Nodup ∧ ∀ e ∈ parts, ∃ order metrics globalLabels collectorLabels,
      .operated (.publish order e.1 metrics globalLabels collectorLabels) ∈ before ∧
        StoreOp.content (.publish order e.1 metrics globalLabels collectorLabels) = e.2 := by
  have shared := run_shared run
  rw [List.map_append, List.map_cons] at shared
  obtain ⟨once, inserted⟩ := SharedMap.walked_inserted shared rfl
  refine ⟨once, fun e member => ?_⟩
  obtain ⟨event, inTrace, same⟩ := List.mem_map.mp (inserted e member)
  cases event with
  | started i => cases same
  | snapshot i parts => cases same
  | operated op =>
      obtain ⟨name, values⟩ := e
      cases op with
      | removeCollector name => cases same
      | publish order name metrics globalLabels collectorLabels =>
          injection same with same
          injection same with here content
          subst here
          exact ⟨order, metrics, globalLabels, collectorLabels, inTrace, content⟩

def ownedBy (collectorName : String) (m : MetricValue) : Bool := m.labels["collector"]? = some collectorName

def Plain : StoreOp → Prop
  | .publish _ _ metrics _ _ => ∀ m ∈ metrics, m.labels["collector"]? = none
  | .removeCollector _ => True

theorem content_owned {op : StoreOp} (plain : Plain op) :
    ∀ m ∈ op.content, m.labels["collector"]? = some op.collectorName := by
  cases op with
  | removeCollector name => simp [StoreOp.content]
  | publish order name metrics globalLabels collectorLabels =>
      intro m member
      obtain ⟨m₀, given, rfl⟩ := MetricStore.mem_snapshot member
      rw [MetricStore.withLabels_other (by decide), MetricStore.baseLabels_collector, plain m₀ given]
      rfl

def Stores (op : StoreOp) : Prop :=
  (op.content.map (·.name)).Nodup ∧
    match op with
    | .publish _ name metrics globalLabels collectorLabels => ∀ m, m ∈ op.content ↔
        ∃ m₀, metrics.reverse.find? (·.name = m.name) = some m₀ ∧
          MetricStore.withLabels (MetricStore.baseLabels name globalLabels collectorLabels) m₀ = m
    | .removeCollector _ => op.content = []

theorem content_stores (op : StoreOp) : Stores op := by
  cases op with
  | publish order name metrics globalLabels collectorLabels =>
      exact ⟨MetricStore.nodup_snapshot .., fun m => MetricStore.mem_snapshot_iff⟩
  | removeCollector name => exact ⟨List.nodup_nil, rfl⟩

theorem part_owned {parts : List (Σ _ : String, List MetricValue)}
    (owned : ∀ e ∈ parts, ∀ m ∈ e.2, m.labels["collector"]? = some e.1) (name : String) :
    (flat parts).filter (ownedBy name) = part name parts := by
  induction parts with
  | nil => rfl
  | cons e parts ih =>
      have rest := ih fun e' member => owned e' (List.mem_cons_of_mem e member)
      have own : e.2.filter (ownedBy name) = if e.1 = name then e.2 else [] := by
        split_ifs with same
        · apply List.filter_eq_self.mpr
          intro m member
          simp [ownedBy, owned e (by simp) m member, same]
        · apply List.filter_eq_nil_iff.mpr
          intro m member
          simp [ownedBy, owned e (by simp) m member, same]
      simp only [flat, part, List.flatMap_cons, List.filter_append, List.filter_cons] at rest ⊢
      rw [own, rest]
      split_ifs <;> simp_all

/-- At any time the store holds what the last operation on each collector left, operations on different
collectors commute, and a flat read is the union of the snapshots; whatever happens between its steps, a
reader has of a collector nothing or one snapshot that was published; and a snapshot is made from what the
publish was given. -/
theorem store_consistent {trace : List (Event ι)} {s : Shared ι}
    (run : machine.Run SharedMap.empty trace s) :
    (∀ name, MetricStore.metricsFor s.map name = lastContent name (operations trace)) ∧
    (∀ op ∈ operations trace, Stores op) ∧
    (∀ op op' : StoreOp, op.collectorName ≠ op'.collectorName →
      (op.apply (op'.apply s.map)).entries.Perm (op'.apply (op.apply s.map)).entries) ∧
    (s.map.keys.Nodup ∧
      ∀ order, (MetricStore.allMetricsFlat order s.map).Perm (s.map.keys.flatMap (MetricStore.metricsFor s.map))) ∧
    ∀ before i parts after, trace = before ++ .snapshot i parts :: after → ∀ name,
      (part name parts = [] ∨ ∃ order metrics globalLabels collectorLabels,
        .operated (.publish order name metrics globalLabels collectorLabels) ∈ before ∧
          part name parts = StoreOp.content (.publish order name metrics globalLabels collectorLabels)) ∧
      ((∀ op ∈ operations before, Plain op) → (flat parts).filter (ownedBy name) = part name parts) := by
  refine ⟨metricsFor_last run, fun op _ => content_stores op,
    fun op op' different => operations_commute different s.map,
    ⟨s.map.keys_nodup, fun order => allMetricsFlat_perm order s.map⟩, ?_⟩
  rintro before i parts after rfl name
  obtain ⟨once, published⟩ := snapshot_published run
  constructor
  · rw [part_eq once]
    cases found : parts.dlookup name with
    | none => exact .inl rfl
    | some values =>
        obtain ⟨order, metrics, globalLabels, collectorLabels, inTrace, content⟩ :=
          published ⟨name, values⟩ (List.of_mem_dlookup found)
        exact .inr ⟨order, metrics, globalLabels, collectorLabels, inTrace, content.symm⟩
  · intro plain
    apply part_owned
    intro e member
    obtain ⟨order, metrics, globalLabels, collectorLabels, inTrace, content⟩ := published e member
    rw [← content]
    exact content_owned (plain _ (List.mem_filterMap.mpr ⟨_, inTrace, rfl⟩))

def flowPublish (value : Float) : StoreOp :=
  .publish [] "pump"
    [{ name := "flow", value, metricType := .gauge, description := "", unit := "", updatedAt := 0 }] ∅ ∅

theorem store_consistent_pump :
    ∃ parts s, machine.Run (SharedMap.empty : Shared Unit)
      [.operated (flowPublish 1), .started (), .operated (flowPublish 2), .snapshot () parts] s ∧
      MetricStore.metricsFor s.map "pump" = StoreOp.content (flowPublish 2) ∧
      (part "pump" parts = [] ∨ ∃ order metrics globalLabels collectorLabels,
        .operated (.publish order "pump" metrics globalLabels collectorLabels) ∈
            ([.operated (flowPublish 1), .started (), .operated (flowPublish 2)] : List (Event Unit)) ∧
          part "pump" parts = StoreOp.content (.publish order "pump" metrics globalLabels collectorLabels)) := by
  have walk : ∃ parts s, machine.exec (SharedMap.empty : Shared Unit)
      [.operation (flowPublish 1), .start (), .operation (flowPublish 2), .visit () "pump", .finish ()] =
      some ([.operated (flowPublish 1), .started (), .operated (flowPublish 2), .snapshot () parts], s) :=
    ⟨_, _, rfl⟩
  obtain ⟨parts, s, executed⟩ := walk
  have run := Machine.exec_run executed
  have consistent := store_consistent run
  exact ⟨parts, s, run, consistent.1 "pump", (consistent.2.2.2.2 _ () parts [] rfl "pump").1⟩

end BusExporter.StoreAccess
