import BusExporter.Lib.Lists
import BusExporter.Model.Otlp

/-! The instruments of the OTLP exporter. Both of its scopes go through the same rounds: the new names of the
values are registered one by one, and then the values replace the shared ones. -/

namespace BusExporter.Otlp
open Lib Config

inductive Phase
  | idle
  | register (values rest : List MetricValue)
  | replace (values : List MetricValue)

namespace Pc

def devicePhase : Pc → Phase
  | .register _ metrics rest => .register metrics rest
  | .replace _ metrics => .replace metrics
  | _ => .idle

def internalPhase : Pc → Phase
  | .registerInternal _ values rest => .register values rest
  | .replaceInternal _ values => .replace values
  | _ => .idle

end Pc

inductive Move (sort : MetricValue → Prop) (c : Scope) : Phase → Scope → Phase → List MetricValue → Prop
  | still (phase : Phase) : Move sort c phase c phase []
  | begins (values : List MetricValue) (sorted : ∀ v ∈ values, sort v) :
      Move sort c .idle c (.register values values) []
  | registers (values : List MetricValue) (m : MetricValue) (rest : List MetricValue) :
      Move sort c (.register values (m :: rest)) (registerNew c m) (.register values rest) []
  | registered (values : List MetricValue) : Move sort c (.register values []) c (.replace values) []
  | replaces (values : List MetricValue) :
      Move sort c (.replace values) { c with shared := values } .idle values

theorem Move.shared_values {sort : MetricValue → Prop} {c c' : Scope} {phase phase' : Phase}
    {values : List MetricValue} (move : Move sort c phase c' phase' values) : values = [] ∨ values = c'.shared := by
  cases move with
  | replaces values => exact .inr rfl
  | _ => exact .inl rfl

def Event.device : Event → List MetricValue
  | .shared metrics => metrics
  | .sharedInternal _ => []

def Event.internal : Event → List MetricValue
  | .shared _ => []
  | .sharedInternal values => values

def internalType (name : String) : Metrics.MetricType :=
  if name ∈ ["bus_exporter_collectors_total", "bus_exporter_uptime_seconds",
      "bus_exporter_poll_duration_seconds"] then .gauge
  else .counter

def Listed (v : MetricValue) : Prop := v.metricType = internalType v.name

theorem listed_toMetricValues {im : Internal.InternalMetrics} {order : RandomState} {now : Internal.Instant}
    {clock : SystemTime} : ∀ v ∈ im.toMetricValues order now clock, Listed v := by
  have collector : ∀ c s, ∀ v ∈ Internal.InternalMetrics.collectorValues clock c s, Listed v := by
    intro c s v member
    simp only [Internal.InternalMetrics.collectorValues, List.map_cons, List.map_nil, List.cons_append,
      List.nil_append, List.mem_cons, List.not_mem_nil, or_false] at member
    rcases member with rfl | rfl | rfl | rfl | rfl | rfl <;> rfl
  intro v member
  simp only [Internal.InternalMetrics.toMetricValues, List.mem_append, List.mem_cons, List.not_mem_nil,
    or_false, List.mem_flatMap] at member
  rcases member with ((rfl | rfl) | ⟨e, -, inside⟩) | rfl | rfl | rfl
  · rfl
  · rfl
  · exact collector e.1 e.2 v inside
  all_goals rfl

theorem taskStep_moves {config : OtlpExporterConfig} {env : Env} {s s' : State} {events : List Event}
    (action : taskStep config env s = some (s', events)) :
    Move (fun _ => True) s.device s.pc.devicePhase s'.device s'.pc.devicePhase (events.flatMap Event.device) ∧
      Move Listed s.internal s.pc.internalPhase s'.internal s'.pc.internalPhase (events.flatMap Event.internal) := by
  unfold taskStep at action
  cases place : s.pc with
  | start =>
      simp only [place] at action
      split at action
      · cases action
        exact ⟨.still _, .still _⟩
      · cases action
        split_ifs <;> exact ⟨.still _, .still _⟩
  | waiting =>
      simp only [place] at action
      split at action <;> cases action <;> exact ⟨.still _, .still _⟩
  | snapshot flush =>
      simp only [place] at action
      split_ifs at action
      · cases action
        exact ⟨.begins _ fun _ _ => trivial, .still _⟩
      · cases action
        exact ⟨.still _, .still _⟩
      · cases action
        exact ⟨.begins _ fun _ _ => trivial, .still _⟩
  | register flush metrics rest =>
      cases rest with
      | nil =>
          simp only [place] at action
          cases action
          exact ⟨.registered _, .still _⟩
      | cons m rest =>
          simp only [place] at action
          cases action
          exact ⟨.registers _ _ _, .still _⟩
  | replace flush metrics =>
      simp only [place] at action
      cases action
      refine ⟨?_, .still _⟩
      rw [List.flatMap_singleton]
      exact .replaces _
  | internal flush =>
      simp only [place] at action
      split at action
      · cases action
        split_ifs <;> exact ⟨.still _, .still _⟩
      · cases action
        exact ⟨.still _, .begins _ listed_toMetricValues⟩
  | registerInternal flush values rest =>
      cases rest with
      | nil =>
          simp only [place] at action
          cases action
          exact ⟨.still _, .registered _⟩
      | cons m rest =>
          simp only [place] at action
          cases action
          exact ⟨.still _, .registers _ _ _⟩
  | replaceInternal flush values =>
      simp only [place] at action
      cases action
      rw [List.flatMap_singleton, List.flatMap_singleton]
      split_ifs <;> exact ⟨.still _, .replaces _⟩
  | shutdown =>
      simp only [place] at action
      cases action
      exact ⟨.still _, .still _⟩
  | stopped => simp [place] at action

theorem step_moves {config : OtlpExporterConfig} {i : Input} {s s' : State} {events : List Event}
    (action : step config s i = some (s', events)) :
    Move (fun _ => True) s.device s.pc.devicePhase s'.device s'.pc.devicePhase (events.flatMap Event.device) ∧
      Move Listed s.internal s.pc.internalPhase s'.internal s'.pc.internalPhase (events.flatMap Event.internal) := by
  cases i with
  | task env => exact taskStep_moves action
  | observe im =>
      simp only [step] at action
      split at action
      · cases action
      · cases action
        exact ⟨.still _, .still _⟩

def instrumentOf (m : MetricValue) : Instrument :=
  ⟨instrumentKind m.metricType, m.name, m.description, m.unit⟩

structure Tracks (c : Scope) (seen : List MetricValue) : Prop where
  instruments : c.instruments = (firsts (·.name) seen).map instrumentOf
  registered : ∀ name, name ∈ c.registered ↔ name ∈ seen.map (·.name)

theorem tracks_registerNew {c : Scope} {seen : List MetricValue} (tracks : Tracks c seen) (m : MetricValue) :
    Tracks (registerNew c m) (seen ++ [m]) := by
  have known : m.name ∈ (firsts (·.name) seen).map (·.name) ↔ m.name ∈ c.registered := by
    rw [keys_firsts, tracks.registered]
  unfold registerNew
  split_ifs with old
  · refine ⟨?_, ?_⟩
    · rw [firsts_concat, if_pos (known.mpr old), tracks.instruments]
    · intro name
      rw [tracks.registered, List.map_append, List.mem_append, List.map_singleton, List.mem_singleton]
      constructor
      · exact .inl
      · rintro (earlier | rfl)
        · exact earlier
        · exact (tracks.registered m.name).mp old
  · refine ⟨?_, ?_⟩
    · rw [firsts_concat, if_neg (known.not.mpr old), List.map_append, ← tracks.instruments]
      rfl
    · intro name
      simp only [registerObservable, Finset.mem_insert, tracks.registered, List.map_append, List.mem_append,
        List.map_singleton, List.mem_singleton]
      exact or_comm

theorem shared_registerNew (c : Scope) (m : MetricValue) : (registerNew c m).shared = c.shared := by
  unfold registerNew
  split_ifs <;> rfl

def Phase.passed : Phase → List MetricValue → Prop
  | .idle, done => done = []
  | .register values rest, done => values = done ++ rest
  | .replace values, done => done = values

def Phase.values : Phase → List MetricValue
  | .idle => []
  | .register values _ | .replace values => values

structure Registered (sort : MetricValue → Prop) (c : Scope) (phase : Phase) (history : List MetricValue) :
    Prop where
  tracks : ∃ done, phase.passed done ∧ Tracks c (history ++ done)
  shared : ∀ v ∈ c.shared, v ∈ history
  sorted : ∀ v ∈ history ++ phase.values, sort v

theorem registered_move {sort : MetricValue → Prop} {c c' : Scope} {phase phase' : Phase}
    {history values : List MetricValue} (before : Registered sort c phase history)
    (move : Move sort c phase c' phase' values) : Registered sort c' phase' (history ++ values) := by
  obtain ⟨⟨done, passed, tracks⟩, shared, sorted⟩ := before
  cases move with
  | still phase =>
      rw [List.append_nil]
      exact ⟨⟨done, passed, tracks⟩, shared, sorted⟩
  | begins values all =>
      rw [List.append_nil]
      obtain rfl : done = [] := passed
      refine ⟨⟨[], rfl, tracks⟩, shared, ?_⟩
      intro v member
      rcases List.mem_append.mp member with old | new
      · exact sorted v (List.mem_append_left _ old)
      · exact all v new
  | registers values m rest =>
      rw [List.append_nil]
      obtain rfl : values = done ++ m :: rest := passed
      refine ⟨⟨done ++ [m], by simp [Phase.passed], ?_⟩, ?_, sorted⟩
      · rw [← List.append_assoc]
        exact tracks_registerNew tracks m
      · rw [shared_registerNew]
        exact shared
  | registered values =>
      rw [List.append_nil]
      obtain rfl : values = done := by simpa [Phase.passed] using passed
      exact ⟨⟨values, rfl, tracks⟩, shared, sorted⟩
  | replaces values =>
      obtain rfl : done = values := passed
      refine ⟨⟨[], rfl, ?_⟩, ?_, ?_⟩
      · rw [List.append_nil]
        exact ⟨tracks.instruments, tracks.registered⟩
      · intro v member
        exact List.mem_append_right _ member
      · intro v member
        rw [Phase.values, List.append_nil] at member
        exact sorted v member

def start (internalMetrics : Option Internal.InternalMetrics) : State := { internalMetrics }

structure Invariant (trace : List Event) (s : State) : Prop where
  device : Registered (fun _ => True) s.device s.pc.devicePhase (trace.flatMap Event.device)
  internal : Registered Listed s.internal s.pc.internalPhase (trace.flatMap Event.internal)

theorem registered_start (sort : MetricValue → Prop) : Registered sort {} .idle [] := by
  refine ⟨⟨[], rfl, rfl, ?_⟩, ?_, ?_⟩
  · intro name
    exact iff_of_false (Finset.notMem_empty name) List.not_mem_nil
  · intro v member
    cases member
  · intro v member
    cases member

theorem invariant {config : OtlpExporterConfig} {internalMetrics : Option Internal.InternalMetrics}
    {trace : List Event} {s : State} (run : (machine config).Run (start internalMetrics) trace s) :
    Invariant trace s := by
  refine run.invariant (P := Invariant) ⟨registered_start _, registered_start _⟩ ?_
  intro trace s i s' events _ before action
  obtain ⟨device, internal⟩ := step_moves action
  refine ⟨?_, ?_⟩
  · rw [List.flatMap_append]
    exact registered_move before.device device
  · rw [List.flatMap_append]
    exact registered_move before.internal internal

def observed (v : MetricValue) : String × Float × List (String × String) := (v.name, v.value, v.labels.toList)

def Observation.content (o : Observation) : String × Float × List (String × String) :=
  (o.instrument.name, o.value, o.attrs)

/-- No name has two instruments, every shared name has one, and a collection reports every shared value
once, with its labels. -/
structure ReportsOnce (c : Scope) : Prop where
  unique : (c.instruments.map (·.name)).Nodup
  complete : ∀ v ∈ c.shared, ∃ i ∈ c.instruments, i.name = v.name
  once : (c.collect.map Observation.content).Perm (c.shared.map observed)

theorem names_instruments {c : Scope} {seen : List MetricValue} (tracks : Tracks c seen) :
    c.instruments.map (·.name) = (firsts (·.name) seen).map (·.name) := by
  rw [tracks.instruments, List.map_map]
  rfl

theorem content_callback (i : Instrument) (values : List MetricValue) :
    (i.callback values).map Observation.content = (values.filter (·.name = i.name)).map observed := by
  rw [Instrument.callback, List.map_map]
  apply List.map_congr_left
  intro v member
  have same : v.name = i.name := by simpa using (List.mem_filter.mp member).2
  simp [Observation.content, observed, same]

theorem reportsOnce {sort : MetricValue → Prop} {c : Scope} {phase : Phase} {history : List MetricValue}
    (registered : Registered sort c phase history) : ReportsOnce c := by
  obtain ⟨⟨done, -, tracks⟩, shared, -⟩ := registered
  have names := names_instruments tracks
  have unique : (c.instruments.map (·.name)).Nodup := by
    rw [names]
    exact nodup_firsts _ _
  have known : ∀ v ∈ c.shared, v.name ∈ c.instruments.map (·.name) := by
    intro v member
    rw [names, keys_firsts]
    exact List.mem_map_of_mem (List.mem_append_left _ (shared v member))
  refine ⟨unique, fun v member => List.mem_map.mp (known v member), ?_⟩
  have divided : c.collect.map Observation.content =
      ((c.instruments.map (·.name)).flatMap fun name => c.shared.filter (·.name = name)).map observed := by
    rw [Scope.collect, List.map_flatMap, List.flatMap_map, List.map_flatMap]
    apply List.flatMap_congr
    intro i _
    exact content_callback i c.shared
  have whole : c.shared.filter (fun v => v.name ∈ c.instruments.map (·.name)) = c.shared :=
    List.filter_eq_self.mpr fun v member => decide_eq_true (known v member)
  rw [divided]
  have perm := flatMap_filter_perm (·.name) c.shared unique
  rw [whole] at perm
  exact perm.map observed

/-- At every point of every run, the flush included, a collection finds both scopes in order: what it
reports is the shared values, each once. -/
theorem collected_once {config : OtlpExporterConfig} {internalMetrics : Option Internal.InternalMetrics}
    {trace : List Event} {s : State} (run : (machine config).Run (start internalMetrics) trace s) :
    ReportsOnce s.device ∧ ReportsOnce s.internal := by
  have holds := invariant run
  exact ⟨reportsOnce holds.device, reportsOnce holds.internal⟩

def endpoint : OtlpExporterConfig := { enabled := true, endpoint := some "http://localhost:4318" }

def temperature (metricType : Metrics.MetricType) : MetricValue :=
  { name := "temperature", value := 21.5, metricType, description := "", unit := "", updatedAt := 0 }

def twoCollectors (first second : Metrics.MetricType) : MetricStore :=
  (AList.insert "chiller" [temperature second] (AList.insert "boiler" [temperature first] ∅))

def round (store : MetricStore) : List Input := List.replicate 8 (.task { store })

theorem collected_once_shared :
    ∃ trace s, (machine endpoint).Run (start none) trace s ∧ s.device.shared.length = 2 ∧
      (s.device.instruments.map (·.name)) = ["temperature"] ∧ ReportsOnce s.device := by
  have rounds : ((machine endpoint).exec (start none) (round (twoCollectors .gauge .gauge))).map
      (fun run => (run.2.device.shared.length, run.2.device.instruments.map (·.name))) =
        some (2, ["temperature"]) := rfl
  obtain ⟨⟨trace, s⟩, executed, shape⟩ := Option.map_eq_some_iff.mp rounds
  obtain ⟨shared, names⟩ := Prod.mk.inj shape
  have run := Machine.exec_run executed
  exact ⟨trace, s, run, shared, names, (collected_once run).1⟩

end BusExporter.Otlp
