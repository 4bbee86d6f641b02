import BusExporter.Proof.DistinctSeries
import BusExporter.Proof.PublishSteps

/-! The topics of the published series. A slash in a collector or metric name is not told from the one
between them. -/

namespace BusExporter.Mqtt
open Lib Config

def Overlap (collector metric collector' metric' : String) : Prop :=
  ∃ moved, collector' = collector ++ "/" ++ moved ∧ metric = moved ++ "/" ++ metric'

theorem buildTopic_toList (topicPrefix collector metric : String) :
    (buildTopic topicPrefix collector metric).toList =
      topicPrefix.toList ++ '/' :: (collector.toList ++ '/' :: metric.toList) := by
  simp [buildTopic, toString]

theorem slash_toList {s t u : String} : u = s ++ "/" ++ t ↔ u.toList = s.toList ++ '/' :: t.toList := by
  rw [← String.toList_inj]
  simp

theorem overlap_iff {collector metric collector' metric' : String} :
    Overlap collector metric collector' metric' ↔
      ∃ moved, collector'.toList = collector.toList ++ '/' :: moved ∧
        metric.toList = moved ++ '/' :: metric'.toList := by
  unfold Overlap
  simp only [slash_toList]
  constructor
  · rintro ⟨moved, front, back⟩
    exact ⟨moved.toList, front, back⟩
  · rintro ⟨moved, front, back⟩
    exact ⟨String.ofList moved, by rwa [String.toList_ofList], by rwa [String.toList_ofList]⟩

theorem Overlap.slash {collector metric collector' metric' : String}
    (overlap : Overlap collector metric collector' metric') : '/' ∈ collector'.toList := by
  obtain ⟨moved, front, -⟩ := overlap_iff.mp overlap
  rw [front]
  exact List.mem_append_right _ List.mem_cons_self

theorem buildTopic_eq_iff {topicPrefix collector metric collector' metric' : String} :
    buildTopic topicPrefix collector metric = buildTopic topicPrefix collector' metric' ↔
      (collector = collector' ∧ metric = metric') ∨
        Overlap collector metric collector' metric' ∨ Overlap collector' metric' collector metric := by
  rw [← String.toList_inj, buildTopic_toList, buildTopic_toList, List.append_cancel_left_eq, List.cons.injEq,
    append_separator_eq_iff, overlap_iff, overlap_iff, String.toList_inj, String.toList_inj]
  simp only [true_and]

theorem buildTopic_ne_status (config : MqttExporterConfig) (collector metric : String) :
    buildTopic config.topicPrefix collector metric ≠ statusTopic config := by
  intro same
  have text := congrArg String.toList same
  have status : (statusTopic config).toList = config.topicPrefix.toList ++ '/' :: "status".toList := by
    simp [statusTopic, toString]
  rw [buildTopic_toList, status, List.append_cancel_left_eq, List.cons.injEq] at text
  have slash : '/' ∈ "status".toList := by
    rw [← text.2]
    exact List.mem_append_right _ List.mem_cons_self
  exact absurd slash (by decide)

def StoredBy (config : Config) (c : CollectorConfig) (m : MetricValue) : Prop :=
  ∃ (σ : Fin config.collectors.length → Type) (t : ∀ i, Collector.Task (σ i)) (worlds : ∀ i, σ i)
    (trace : List (RunCommand.Event σ)) (s : RunCommand.System σ),
    RunCommand.Spawns config t ∧ (RunCommand.machine t).Run (RunCommand.spawned t worlds) trace s ∧
      m ∈ MetricStore.metricsFor s.store.map c.name

def Walks (config : Config) (_ : State) : Input → Prop
  | .main env => ∀ m ∈ env.store.allMetricsFlat env.stored, ∃ c ∈ config.collectors, StoredBy config c m
  | _ => True

theorem collector_label {config : Config} {c : CollectorConfig} {m : MetricValue} (stored : StoredBy config c m) :
    m.labels["collector"]? = some c.name := by
  obtain ⟨σ, t, worlds, trace, s, spawns, run, member⟩ := stored
  rw [MetricStore.metricsFor] at member
  cases found : s.store.map.lookup c.name with
  | none =>
      rw [found] at member
      cases member
  | some snapshot =>
      obtain ⟨c', -, named, labelled⟩ := (RunCommand.labels_run spawns run).serves c.name snapshot found
      rw [found] at member
      rw [labelled.collector member, named]

variable {config : Config} {mqtt : MqttExporterConfig}

theorem storedBy_flat {σ : Fin config.collectors.length → Type} {t : ∀ i, Collector.Task (σ i)}
    {worlds : ∀ i, σ i} {trace : List (RunCommand.Event σ)} {s : RunCommand.System σ}
    (spawns : RunCommand.Spawns config t) (run : (RunCommand.machine t).Run (RunCommand.spawned t worlds) trace s)
    {order : RandomState} {m : MetricValue} (member : m ∈ MetricStore.allMetricsFlat order s.store.map) :
    ∃ c ∈ config.collectors, StoredBy config c m := by
  obtain ⟨e, walked, inside⟩ := List.mem_flatMap.mp member
  have found := HashMap.mem_iter.mp walked
  obtain ⟨c, inConfig, named, -⟩ := (RunCommand.labels_run spawns run).serves e.1 e.2 found
  refine ⟨c, inConfig, σ, t, worlds, trace, s, spawns, run, ?_⟩
  rw [MetricStore.metricsFor, named, found]
  exact inside

theorem topic_stored {c : CollectorConfig} {m : MetricValue} (stored : StoredBy config c m) :
    (metricMessage mqtt m).topic = buildTopic mqtt.topicPrefix c.name m.name := by
  rw [metricMessage, collector_label stored]
  rfl

def State.due (s : State) : List MetricValue :=
  match s.pc with
  | .publishing _ rest => rest
  | _ => []

theorem published_step {P : MetricValue → Prop} {s s' : State} {input : Input} {events : List Event}
    (due : ∀ m ∈ s.due, P m)
    (walks : ∀ env, input = .main env → ∀ m ∈ env.store.allMetricsFlat env.stored, P m)
    (step : Step mqtt s input s' events) :
    (∀ m ∈ s'.due, P m) ∧
      ∀ m message accepted, .published m message accepted ∈ events → P m ∧ message = metricMessage mqtt m := by
  cases step
  case snapshot env options place => exact ⟨walks env rfl, by simp⟩
  case published env options m rest accepted connection place sent =>
      have both : ∀ m' ∈ m :: rest, P m' := by simpa only [State.due, place] using due
      refine ⟨fun m' member => both m' (List.mem_cons_of_mem _ member), ?_⟩
      intro m' message accepted' member
      cases List.mem_singleton.mp member
      exact ⟨both m List.mem_cons_self, rfl⟩
  case kept | eventLoopStopped | eventLoopEnded | cancelled => exact ⟨due, by simp⟩
  case polled taken notification connection running reported =>
      refine ⟨due, ?_⟩
      rcases pollStep_events reported with rfl | rfl | rfl <;> simp
  all_goals exact ⟨by simp [State.due], by simp⟩

theorem published_run {trace : List Event} {s : State} (run : (machine mqtt).RunWhere (Walks config) {} trace s) :
    (∀ m ∈ s.due, ∃ c ∈ config.collectors, StoredBy config c m) ∧
      ∀ m message accepted, .published m message accepted ∈ trace →
        (∃ c ∈ config.collectors, StoredBy config c m) ∧ message = metricMessage mqtt m := by
  induction run with
  | start => exact ⟨by simp [State.due], by simp⟩
  | next previous walks action ih =>
      obtain ⟨due, now⟩ := published_step ih.1 (by rintro env rfl; exact walks) (step_cases action)
      refine ⟨due, ?_⟩
      intro m message accepted member
      rcases List.mem_append.mp member with earlier | here
      · exact ih.2 m message accepted earlier
      · exact now m message accepted here

/-- Two series of a validated config are published to topics of their own exactly when their names do not
overlap, and none to the status topic. -/
theorem topics_distinct_iff (valid : config.validate = .ok ()) {trace : List Event} {s : State}
    (run : (machine mqtt).RunWhere (Walks config) {} trace s) {m m' : MetricValue} {message message' : Message}
    {accepted accepted' : Bool} (published : .published m message accepted ∈ trace)
    (published' : .published m' message' accepted' ∈ trace) :
    message.topic ≠ statusTopic mqtt ∧
      ∀ c ∈ config.collectors, ∀ c' ∈ config.collectors, StoredBy config c m → StoredBy config c' m' →
        (c ≠ c' ∨ m.name ≠ m'.name) →
          (message.topic ≠ message'.topic ↔
            ¬Overlap c.name m.name c'.name m'.name ∧ ¬Overlap c'.name m'.name c.name m.name) := by
  have runs := (published_run run).2
  obtain ⟨⟨owner, -, owned⟩, rfl⟩ := runs m message accepted published
  obtain ⟨-, rfl⟩ := runs m' message' accepted' published'
  refine ⟨?_, ?_⟩
  · rw [topic_stored owned]
    exact buildTopic_ne_status mqtt owner.name m.name
  · intro c member c' member' stored stored' different
    have apart : ¬(c.name = c'.name ∧ m.name = m'.name) := by
      rintro ⟨collector, name⟩
      rcases different with other | other
      · exact other (List.inj_on_of_nodup_map (validate_names valid) member member' collector)
      · exact other name
    rw [topic_stored stored, topic_stored stored', Ne, buildTopic_eq_iff, or_iff_right apart, not_or]

def siteCollector (series : String × String) : CollectorConfig :=
  { (Collector.Script.task [Collector.Script.metric series.2] []).collector with name := series.1 }

def siteConfig (first second : String × String) : Config where
  exporters := { mqtt := some { enabled := true, endpoint := some "mqtt://broker" } }
  collectors := [siteCollector first, siteCollector second]

section Site
variable (first second : String × String)

def siteTask (i : Fin (siteConfig first second).collectors.length) : Collector.Task Collector.Script :=
  { Collector.Script.task [] [] with collector := (siteConfig first second).collectors[i] }

def siteStart : RunCommand.System fun _ : Fin (siteConfig first second).collectors.length => Collector.Script :=
  RunCommand.spawned (siteTask first second) fun i =>
    { reads := [((siteConfig first second).collectors[i].metrics.map fun m => (m.name, some 1), true)] }

def siteCycles : List (RunCommand.Input (siteConfig first second).collectors.length) :=
  List.replicate 8 (.collector ⟨0, Nat.two_pos⟩ {}) ++ List.replicate 8 (.collector ⟨1, Nat.one_lt_two⟩ {})

def siteStore : MetricStore :=
  match (RunCommand.machine (siteTask first second)).exec (siteStart first second) (siteCycles first second) with
  | some (_, s) => s.store.map
  | none => ∅

theorem site_spawns : RunCommand.Spawns (siteConfig first second) (siteTask first second) :=
  ⟨fun _ => rfl, fun _ => rfl⟩

theorem siteStore_walks {order : RandomState} {m : MetricValue}
    (member : m ∈ (siteStore first second).allMetricsFlat order) :
    ∃ c ∈ (siteConfig first second).collectors, StoredBy (siteConfig first second) c m := by
  unfold siteStore at member
  split at member
  · rename_i executed
    exact storedBy_flat (site_spawns first second) (Machine.exec_run executed) member
  · obtain ⟨e, walked, -⟩ := List.mem_flatMap.mp member
    cases HashMap.mem_iter.mp walked

def siteInputs : List Input :=
  List.replicate 3 (.main {}) ++ .main { store := siteStore first second } :: List.replicate 2 (.main {})

def Event.shown : Event → Option (String × String × String)
  | .published m message _ => some (m.labels["collector"]?.getD "", m.name, message.topic)
  | _ => none

theorem site_published {shown : List (String × String × String)}
    (published : ((machine { endpoint := some "mqtt://broker" }).exec {} (siteInputs first second)).map
      (fun run => run.1.filterMap Event.shown) = some shown) :
    ∃ trace s, (machine { endpoint := some "mqtt://broker" }).RunWhere (Walks (siteConfig first second)) {} trace s ∧
      ∀ collector metric topic, (collector, metric, topic) ∈ shown → ∃ m message accepted,
        .published m message accepted ∈ trace ∧ m.name = metric ∧ message.topic = topic ∧
          ∃ c ∈ (siteConfig first second).collectors, c.name = collector ∧ StoredBy (siteConfig first second) c m := by
  obtain ⟨⟨trace, s⟩, executed, events⟩ := Option.map_eq_some_iff.mp published
  have walks : ∀ i ∈ siteInputs first second, ∀ s, Walks (siteConfig first second) s i := by
    intro i member s
    rcases List.mem_append.mp member with before | during
    · rw [List.eq_of_mem_replicate before]
      rintro m ⟨⟩
    · rcases List.mem_cons.mp during with rfl | after
      · exact fun m walked => siteStore_walks first second walked
      · rw [List.eq_of_mem_replicate after]
        rintro m ⟨⟩
  have run := Machine.RunWhere.start.append_exec executed walks
  refine ⟨trace, s, run, ?_⟩
  rintro collector metric topic member
  rw [← events] at member
  obtain ⟨e, inTrace, same⟩ := List.mem_filterMap.mp member
  cases e with
  | published m message accepted =>
      obtain ⟨⟨c, inConfig, stored⟩, -⟩ := (published_run run).2 m message accepted inTrace
      simp only [Event.shown, collector_label stored, Option.getD_some, Option.some.injEq, Prod.mk.injEq] at same
      exact ⟨m, message, accepted, inTrace, same.2.1, same.2.2, c, inConfig, same.1, stored⟩
  | _ => cases same

end Site

theorem topics_distinct_boiler :
    ∃ trace s m m' message message' accepted accepted',
      (machine { endpoint := some "mqtt://broker" }).RunWhere (Walks (siteConfig ("boiler", "level") ("tank", "level")))
        {} trace s ∧
      .published m message accepted ∈ trace ∧ .published m' message' accepted' ∈ trace ∧
      message.topic = "modbus/metrics/boiler/level" ∧ message.topic ≠ message'.topic := by
  have published : ((machine { endpoint := some "mqtt://broker" }).exec {}
      (siteInputs ("boiler", "level") ("tank", "level"))).map (fun run => run.1.filterMap Event.shown) =
        some [("tank", "level", "modbus/metrics/tank/level"), ("boiler", "level", "modbus/metrics/boiler/level")] := rfl
  obtain ⟨trace, s, run, each⟩ := site_published _ _ published
  obtain ⟨m', message', accepted', member', name', -, c', inConfig', collector', stored'⟩ :=
    each "tank" "level" "modbus/metrics/tank/level" (by simp)
  obtain ⟨m, message, accepted, member, name, topic, c, inConfig, collector, stored⟩ :=
    each "boiler" "level" "modbus/metrics/boiler/level" (by simp)
  refine ⟨trace, s, m, m', message, message', accepted, accepted', run, member, member', topic, ?_⟩
  have valid : (siteConfig ("boiler", "level") ("tank", "level")).validate = .ok () := by decide
  have different : c ≠ c' := by
    rintro rfl
    rw [collector] at collector'
    exact absurd collector' (by decide)
  apply ((topics_distinct_iff valid run member member').2 c inConfig c' inConfig' stored stored' (.inl different)).mpr
  rw [name, name', collector, collector']
  exact ⟨fun overlap => absurd overlap.slash (by decide), fun overlap => absurd overlap.slash (by decide)⟩

/-- The metric `b/c` of the collector `a` has the topic of the metric `c` of the collector `a/b`. -/
theorem topics_collide :
    ∃ c ∈ (siteConfig ("a/b", "c") ("a", "b/c")).collectors, ∃ c' ∈ (siteConfig ("a/b", "c") ("a", "b/c")).collectors,
      ∃ trace s m m' message message' accepted accepted',
        (siteConfig ("a/b", "c") ("a", "b/c")).validate = .ok () ∧
        (machine { endpoint := some "mqtt://broker" }).RunWhere (Walks (siteConfig ("a/b", "c") ("a", "b/c"))) {}
          trace s ∧
        .published m message accepted ∈ trace ∧ .published m' message' accepted' ∈ trace ∧
        StoredBy (siteConfig ("a/b", "c") ("a", "b/c")) c m ∧ StoredBy (siteConfig ("a/b", "c") ("a", "b/c")) c' m' ∧
        c.name ≠ c'.name ∧ m.name ≠ m'.name ∧ message.topic = message'.topic := by
  have published : ((machine { endpoint := some "mqtt://broker" }).exec {} (siteInputs ("a/b", "c") ("a", "b/c"))).map
      (fun run => run.1.filterMap Event.shown) =
        some [("a", "b/c", "modbus/metrics/a/b/c"), ("a/b", "c", "modbus/metrics/a/b/c")] := rfl
  obtain ⟨trace, s, run, each⟩ := site_published _ _ published
  obtain ⟨m', message', accepted', member', name', topic', c', inConfig', collector', stored'⟩ :=
    each "a" "b/c" "modbus/metrics/a/b/c" (by simp)
  obtain ⟨m, message, accepted, member, name, topic, c, inConfig, collector, stored⟩ :=
    each "a/b" "c" "modbus/metrics/a/b/c" (by simp)
  refine ⟨c, inConfig, c', inConfig', trace, s, m, m', message, message', accepted, accepted', by decide, run,
    member, member', stored, stored', ?_, ?_, by rw [topic, topic']⟩
  · rw [collector, collector']
    decide
  · rw [name, name']
    decide

end BusExporter.Mqtt
