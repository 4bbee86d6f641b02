import BusExporter.Proof.DistinctSeries
import BusExporter.Proof.Instruments

/-! Whether the exporters give each metric its own type. Both take the type of a name from the first value that
has it. -/

namespace BusExporter

def SameTypes (key : MetricValue → String) (values : List MetricValue) : Prop :=
  ∀ m ∈ values, ∀ m' ∈ values, key m = key m' → m.metricType = m'.metricType

end BusExporter

namespace BusExporter.Prometheus
open Lib Exposition

def typedSample (m : MetricValue) : Option Text × Sample := (some (typeStr m.metricType).toList, sampleOf m)

def TypedScrape (text : String) (metrics : List MetricValue) : Prop :=
  ∃ lines, parse text.toList = some lines ∧ (typed lines).Perm (metrics.map typedSample)

theorem typeStr_injective {first second : Metrics.MetricType}
    (same : (typeStr first).toList = (typeStr second).toList) : first = second := by
  cases first <;> cases second <;> first | rfl | simp [typeStr] at same

def groupKind : List MetricValue → Text
  | [] => []
  | first :: _ => (typeStr first.metricType).toList

theorem typed_render (order : RandomState) (store : MetricStore) :
    typed ((families order store).flatMap Family.lines) =
      (grouped (store.allMetricsFlat order)).toList.flatMap fun group =>
        group.2.map fun m => (some (groupKind group.2), sampleOf m) := by
  rw [typed_families, families, List.flatMap_map]
  · apply List.flatMap_congr
    rintro ⟨name, values⟩ _
    cases values <;> simp [familyOf, groupKind]
  · intro f member s inSamples
    obtain ⟨group, inGroups, rfl⟩ := List.mem_map.mp member
    obtain ⟨m, inGroup, rfl⟩ := List.mem_map.mp inSamples
    exact congrArg String.toList (named_group inGroups m inGroup)

theorem stored_perm (order : RandomState) (store : MetricStore) :
    (store.allMetricsFlat order).Perm (stored store) :=
  (HashMap.iter_perm order store).flatMap_right _

theorem groupKind_eq {all : List MetricValue} (same : SameTypes fqname all)
    {group : String × List MetricValue} (member : group ∈ (grouped all).toList) {m : MetricValue}
    (inGroup : m ∈ group.2) : groupKind group.2 = (typeStr m.metricType).toList := by
  have named := named_group member
  have within := (group_eq member).1
  cases values : group.2 with
  | nil =>
      rw [values] at inGroup
      cases inGroup
  | cons first rest =>
      rw [values] at inGroup named within
      have inAll : ∀ m ∈ first :: rest, m ∈ all := by
        intro m inside
        rw [within] at inside
        exact (List.mem_filter.mp inside).1
      have types := same first (inAll first List.mem_cons_self) m (inAll m inGroup)
        ((named first List.mem_cons_self).trans (named m inGroup).symm)
      rw [groupKind, types]

theorem typedScrape_iff (order : RandomState) (store : MetricStore) :
    TypedScrape (renderMetrics order store) (stored store) ↔ SameTypes fqname (stored store) := by
  have parsed := parse_families order store
  have perm := stored_perm order store
  constructor
  · rintro ⟨lines, read, typed⟩ m member m' member' same
    obtain rfl := Option.some.inj (parsed.symm.trans read)
    rw [typed_render] at typed
    have place : ∀ m ∈ stored store, ∃ group ∈ (grouped (store.allMetricsFlat order)).toList,
        group.1 = fqname m ∧ groupKind group.2 = (typeStr m.metricType).toList := by
      intro m member
      obtain ⟨group, inGroups, inside⟩ := List.mem_flatMap.mp (typed.symm.subset (List.mem_map_of_mem member))
      obtain ⟨w, inGroup, equal⟩ := List.mem_map.mp inside
      obtain ⟨kind, sample⟩ := Prod.mk.inj equal
      have name : fqname w = fqname m := String.toList_inj.mp (congrArg Sample.name sample)
      exact ⟨group, inGroups, (named_group inGroups w inGroup).symm.trans name, Option.some.inj kind⟩
    obtain ⟨group, inGroups, name, kind⟩ := place m member
    obtain ⟨group', inGroups', name', kind'⟩ := place m' member'
    obtain rfl : group = group' := List.inj_on_of_nodup_map (nodup_groups _) inGroups inGroups'
      (by rw [name, name', same])
    exact typeStr_injective (kind.symm.trans kind')
  · intro same
    refine ⟨_, parsed, ?_⟩
    have flat : SameTypes fqname (store.allMetricsFlat order) :=
      fun m member m' member' => same m (perm.subset member) m' (perm.subset member')
    have each : ((grouped (store.allMetricsFlat order)).toList.flatMap fun group =>
        group.2.map fun m => (some (groupKind group.2), sampleOf m)) =
          ((grouped (store.allMetricsFlat order)).toList.flatMap (·.2)).map typedSample := by
      rw [List.map_flatMap]
      apply List.flatMap_congr
      intro group inGroups
      apply List.map_congr_left
      intro m inGroup
      rw [groupKind_eq flat inGroups inGroup, typedSample]
    rw [typed_render, each]
    exact ((flatMap_groups _).trans perm).map typedSample

end BusExporter.Prometheus

namespace BusExporter.Otlp
open Lib Config

def OwnTypes (c : Scope) : Prop :=
  ∀ i ∈ c.instruments, ∀ v ∈ c.shared, v.name = i.name → i.kind = instrumentKind v.metricType

def Along (config : OtlpExporterConfig) (initial : State) (inputs : List Input) (P : State → Prop) : Prop :=
  ∀ front, front <+: inputs → ∀ events s, (machine config).exec initial front = some (events, s) → P s

theorem instrumentKind_injective {first second : Metrics.MetricType}
    (same : instrumentKind first = instrumentKind second) : first = second := by
  cases first <;> cases second <;> first | rfl | cases same

theorem instrument_first {sort : MetricValue → Prop} {c : Scope} {phase : Phase} {history : List MetricValue}
    (registered : Registered sort c phase history) {i : Instrument} (inScope : i ∈ c.instruments)
    {v : MetricValue} (shared : v ∈ c.shared) (same : v.name = i.name) :
    ∃ m, history.find? (·.name = v.name) = some m ∧ i = instrumentOf m := by
  obtain ⟨⟨done, -, tracks⟩, known, -⟩ := registered
  rw [tracks.instruments] at inScope
  obtain ⟨m, first, rfl⟩ := List.mem_map.mp inScope
  have found := find_firsts _ _ first
  have name : m.name = v.name := same.symm
  have present : (history.find? (·.name = v.name)).isSome := by
    rw [List.find?_isSome]
    exact ⟨v, known v shared, by simp⟩
  obtain ⟨w, here⟩ := Option.isSome_iff_exists.mp present
  rw [name, List.find?_append, here, Option.some_or] at found
  exact ⟨m, by rw [here, found], rfl⟩

theorem shared_before {config : OtlpExporterConfig} {initial s : State} {inputs : List Input}
    {events : List Event} (executed : (machine config).exec initial inputs = some (events, s)) :
    ∀ v ∈ events.flatMap Event.device, ∃ front earlier rest state, front <+: inputs ∧
      (machine config).exec initial front = some (earlier, state) ∧ v ∈ state.device.shared ∧
        events = earlier ++ rest := by
  induction inputs using List.reverseRecOn generalizing events s with
  | nil =>
      cases executed
      intro v member
      cases member
  | append_singleton inputs i ih =>
      obtain ⟨first, middle, last, before, after, rfl⟩ := Machine.exec_append executed
      intro v member
      rw [List.flatMap_append, List.mem_append] at member
      rcases member with earlier | now
      · obtain ⟨front, old, rest, state, isPrefix, run, shared, split⟩ := ih before v earlier
        exact ⟨front, old, rest ++ last, state, isPrefix.trans (List.prefix_append _ _), run, shared,
          by rw [split, List.append_assoc]⟩
      · obtain ⟨step, next, none, action, finish, rfl⟩ := Machine.exec_cons after
        cases finish
        rw [List.append_nil] at now
        refine ⟨inputs ++ [i], _, [], s, List.prefix_rfl, executed, ?_, (List.append_nil _).symm⟩
        rcases (step_moves action).1.shared_values with silent | replaced
        · rw [silent] at now
          cases now
        · rwa [replaced] at now

theorem ownTypes_iff {config : OtlpExporterConfig} {internalMetrics : Option Internal.InternalMetrics}
    {inputs : List Input} {events : List Event} {s : State}
    (executed : (machine config).exec (start internalMetrics) inputs = some (events, s)) :
    Along config (start internalMetrics) inputs (fun s => OwnTypes s.device) ↔
      SameTypes (·.name) (events.flatMap Event.device) := by
  constructor
  · intro along
    have firstType : ∀ v ∈ events.flatMap Event.device, ∃ m,
        (events.flatMap Event.device).find? (·.name = v.name) = some m ∧ v.metricType = m.metricType := by
      intro v member
      obtain ⟨front, earlier, rest, state, isPrefix, run, shared, rfl⟩ := shared_before executed v member
      have registered := (invariant (Machine.exec_run run)).device
      obtain ⟨i, inScope, named⟩ := (reportsOnce registered).complete v shared
      obtain ⟨m, found, rfl⟩ := instrument_first registered inScope shared named.symm
      have own := along front isPrefix _ _ run _ inScope v shared named.symm
      refine ⟨m, ?_, (instrumentKind_injective own).symm⟩
      rw [List.flatMap_append, List.find?_append, found, Option.some_or]
    intro v member v' member' same
    obtain ⟨m, found, type⟩ := firstType v member
    obtain ⟨m', found', type'⟩ := firstType v' member'
    change v.name = v'.name at same
    rw [← same, found] at found'
    rw [type, type', Option.some.inj found']
  · intro same front isPrefix earlier state run i inScope v shared named
    obtain ⟨back, rfl⟩ := isPrefix
    obtain ⟨first, middle, rest, before, -, rfl⟩ := Machine.exec_append executed
    rw [run] at before
    cases before
    have registered := (invariant (Machine.exec_run run)).device
    obtain ⟨m, found, rfl⟩ := instrument_first registered inScope shared named
    have within := List.mem_of_find?_eq_some found
    have name : m.name = v.name := by simpa using List.find?_some found
    rw [List.flatMap_append] at same
    exact congrArg instrumentKind
      (same m (List.mem_append_left _ within) v (List.mem_append_left _ (registered.shared v shared)) name)

theorem ownTypes_internal {config : OtlpExporterConfig} {internalMetrics : Option Internal.InternalMetrics}
    {trace : List Event} {s : State} (run : (machine config).Run (start internalMetrics) trace s) :
    OwnTypes s.internal := by
  intro i inScope v shared named
  have registered := (invariant run).internal
  obtain ⟨m, found, rfl⟩ := instrument_first registered inScope shared named
  have name : m.name = v.name := named.symm
  have first : Listed m := registered.sorted m (List.mem_append_left _ (List.mem_of_find?_eq_some found))
  have own : Listed v := registered.sorted v (List.mem_append_left _ (registered.shared v shared))
  rw [Listed, name, ← own] at first
  exact congrArg instrumentKind first

/-- A scrape gives each stored metric its type exactly when no two of one exported name differ in type; a run of
the OTLP exporter does so at every point exactly when no two of one name differ in all it has shared. -/
theorem exported_types (order : RandomState) (store : MetricStore) {config : OtlpExporterConfig}
    {internalMetrics : Option Internal.InternalMetrics} {inputs : List Input} {events : List Event} {s : State}
    (executed : (machine config).exec (start internalMetrics) inputs = some (events, s)) :
    (Prometheus.TypedScrape (Prometheus.renderMetrics order store) (Prometheus.stored store) ↔
      SameTypes Prometheus.fqname (Prometheus.stored store)) ∧
    (Along config (start internalMetrics) inputs (fun s => OwnTypes s.device ∧ OwnTypes s.internal) ↔
      SameTypes (·.name) (events.flatMap Event.device)) := by
  refine ⟨Prometheus.typedScrape_iff order store, ?_⟩
  rw [← ownTypes_iff executed]
  constructor
  · intro both front isPrefix events s run
    exact (both front isPrefix events s run).1
  · intro device front isPrefix events s run
    exact ⟨device front isPrefix events s run, ownTypes_internal (Machine.exec_run run)⟩

theorem exported_types_gauges :
    ∃ events s, (machine endpoint).exec (start none) (round (twoCollectors .gauge .gauge)) = some (events, s) ∧
      Prometheus.TypedScrape (Prometheus.renderMetrics [] (twoCollectors .gauge .gauge))
        (Prometheus.stored (twoCollectors .gauge .gauge)) ∧
      Along endpoint (start none) (round (twoCollectors .gauge .gauge))
        (fun s => OwnTypes s.device ∧ OwnTypes s.internal) := by
  have shares : ((machine endpoint).exec (start none) (round (twoCollectors .gauge .gauge))).map
      (fun run => run.1.flatMap Event.device) = some [temperature .gauge, temperature .gauge] := rfl
  have alike (key : MetricValue → String) : SameTypes key [temperature .gauge, temperature .gauge] := by
    intro m member m' member' _
    simp only [List.mem_cons, List.not_mem_nil, or_false, or_self] at member member'
    rw [member, member']
  obtain ⟨⟨events, s⟩, executed, shared⟩ := Option.map_eq_some_iff.mp shares
  obtain ⟨scrape, points⟩ := exported_types [] (twoCollectors .gauge .gauge) executed
  refine ⟨events, s, executed, scrape.mpr (alike _), points.mpr ?_⟩
  rw [shared]
  exact alike _

end BusExporter.Otlp

namespace BusExporter.RunCommand
open Lib Config Collector Prometheus

def sharedMetric (name : String) (metricType : Config.MetricType) : CollectorConfig :=
  { (Script.task [{ Script.metric "temperature" with metricType }] []).collector with name }

def siteConfig : Config where
  exporters := { otlp := some Otlp.endpoint, prometheus := some { enabled := true } }
  collectors := [sharedMetric "boiler" .gauge, sharedMetric "chiller" .counter]

def siteTask (i : Fin siteConfig.collectors.length) : Collector.Task Script :=
  { Script.task [] [] with collector := siteConfig.collectors[i] }

def siteStart : System fun _ : Fin siteConfig.collectors.length => Script :=
  spawned siteTask fun _ => { reads := [([("temperature", some 21.5)], true)] }

def siteCycles : List (Input siteConfig.collectors.length) :=
  List.replicate 7 (.collector (0 : Fin 2) {}) ++ List.replicate 7 (.collector (1 : Fin 2) {})

def typesIn (values : List MetricValue) : List (String × String × Metrics.MetricType) :=
  values.map fun m => (m.name, m.unit, m.metricType)

theorem mem_typesIn {values : List MetricValue} {name unit : String} {metricType : Metrics.MetricType}
    (member : (name, unit, metricType) ∈ typesIn values) :
    ∃ m ∈ values, m.name = name ∧ m.unit = unit ∧ m.metricType = metricType := by
  obtain ⟨m, inValues, equal⟩ := List.mem_map.mp member
  obtain ⟨name, rest⟩ := Prod.mk.inj equal
  obtain ⟨unit, type⟩ := Prod.mk.inj rest
  exact ⟨m, inValues, name, unit, type⟩

theorem exported_type_differs :
    ∃ trace s, siteConfig.validate = .ok () ∧ Spawns siteConfig siteTask ∧
      (machine siteTask).Run siteStart trace s ∧
      (∀ order, ¬TypedScrape (renderMetrics order s.store.map) (stored s.store.map)) ∧
      ∃ events otlp, (Otlp.machine Otlp.endpoint).exec (Otlp.start none) (Otlp.round s.store.map) =
        some (events, otlp) ∧ ¬Otlp.OwnTypes otlp.device := by
  have cycled : ((machine siteTask).exec siteStart siteCycles).map (fun run => (typesIn (stored run.2.store.map),
      ((Otlp.machine Otlp.endpoint).exec (Otlp.start none) (Otlp.round run.2.store.map)).map fun pushed =>
        (pushed.2.device.instruments.map (fun i => (i.kind, i.name)), typesIn pushed.2.device.shared))) =
      some ([("temperature", "", .counter), ("temperature", "", .gauge)],
        some ([(.observableCounter, "temperature")],
          [("temperature", "", .counter), ("temperature", "", .gauge)])) := rfl
  obtain ⟨⟨trace, s⟩, executed, shape⟩ := Option.map_eq_some_iff.mp cycled
  obtain ⟨types, pushed⟩ := Prod.mk.inj shape
  obtain ⟨⟨events, otlp⟩, collected, shared⟩ := Option.map_eq_some_iff.mp pushed
  obtain ⟨instruments, values⟩ := Prod.mk.inj shared
  have valid : siteConfig.validate = .ok () := by decide
  refine ⟨trace, s, valid, ⟨fun i => rfl, fun i => rfl⟩, Machine.exec_run executed, ?_, events, otlp, collected, ?_⟩
  · intro order scrape
    rw [typedScrape_iff] at scrape
    have counter : ("temperature", "", .counter) ∈ typesIn (stored s.store.map) := by simp [types]
    have gauge : ("temperature", "", .gauge) ∈ typesIn (stored s.store.map) := by simp [types]
    obtain ⟨m, member, name, unit, type⟩ := mem_typesIn counter
    obtain ⟨m', member', name', unit', type'⟩ := mem_typesIn gauge
    have same := scrape m member m' member' (by rw [fqname, fqname, name, name', unit, unit'])
    rw [type, type'] at same
    cases same
  · intro own
    have gauge : ("temperature", "", .gauge) ∈ typesIn otlp.device.shared := by simp [values]
    have counter : (Otlp.InstrumentKind.observableCounter, "temperature") ∈
        otlp.device.instruments.map (fun i => (i.kind, i.name)) := by simp [instruments]
    obtain ⟨v, inShared, name, -, type⟩ := mem_typesIn gauge
    obtain ⟨i, inScope, equal⟩ := List.mem_map.mp counter
    obtain ⟨kind, named⟩ := Prod.mk.inj equal
    have matched := own i inScope v inShared (name.trans named.symm)
    rw [kind, type] at matched
    cases matched

end BusExporter.RunCommand
