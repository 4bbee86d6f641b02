import BusExporter.Proof.DaemonSteps
import BusExporter.Proof.RunSteps
import BusExporter.Proof.Validated

/-! The daemon is made of its tasks: what a run of it shows of a collector, of an exporter or of the store is a
run of that part alone, with the others as its surroundings. -/

namespace BusExporter.Collector
open Lib Config

variable {σ : Type} (t : Task σ)

structure Grows (stats stats' : CollectorStats) : Prop where
  pollsTotal : stats.pollsTotal ≤ stats'.pollsTotal
  pollsSuccess : stats.pollsSuccess ≤ stats'.pollsSuccess
  pollsError : stats.pollsError ≤ stats'.pollsError
  readRequests : stats.readRequests ≤ stats'.readRequests
  readErrors : stats.readErrors ≤ stats'.readErrors

theorem Grows.refl (stats : CollectorStats) : Grows stats stats := by
  constructor <;> exact Nat.le_refl _

theorem Grows.trans {a b c : CollectorStats} (first : Grows a b) (second : Grows b c) : Grows a c where
  pollsTotal := first.pollsTotal.trans second.pollsTotal
  pollsSuccess := first.pollsSuccess.trans second.pollsSuccess
  pollsError := first.pollsError.trans second.pollsError
  readRequests := first.readRequests.trans second.readRequests
  readErrors := first.readErrors.trans second.readErrors

inductive Shares (s s' : State σ) (events : List (Event σ)) : Prop
  | nothing (store : s'.store = s.store) (internal : s'.internal = s.internal)
      (quiet : ∀ e ∈ events, e.isPublish = false)
  | counts (f : CollectorStats → CollectorStats) (grows : ∀ stats, Grows stats (f stats))
      (store : s'.store = s.store)
      (internal : s'.internal = s.internal.map (·.updateCollector t.collector.name f))
      (quiet : ∀ e ∈ events, e.isPublish = false)
  | publishes (snapshot : List MetricValue) (store : s'.store = s.store.insert t.collector.name snapshot)
      (internal : s'.internal = s.internal) (event : events = [.publish snapshot])

theorem grows_outcome (env : Env) (success : Bool) (stats : CollectorStats) :
    Grows stats
      { stats with
        lastPollDurationSecs := F64.asSecsF64 env.elapsed
        pollsSuccess := stats.pollsSuccess + success.toNat
        pollsError := stats.pollsError + (!success).toNat } :=
  ⟨Nat.le_refl _, Nat.le_add_right _ _, Nat.le_add_right _ _, Nat.le_refl _, Nat.le_refl _⟩

theorem shares_step {s s' : State σ} {events : List (Event σ)} (step : TaskStep t s s' events) :
    Shares t s s' events := by
  cases step
  case cycle place =>
      refine .counts _ (fun stats => ?_) rfl rfl (by simp [Event.isPublish])
      exact ⟨Nat.le_succ _, Nat.le_refl _, Nat.le_refl _, Nat.le_refl _, Nat.le_refl _⟩
  case readDone env read world place done =>
      refine .counts _ (fun stats => ?_) rfl rfl (by simp [Event.isPublish])
      exact ⟨Nat.le_refl _, Nat.le_refl _, Nat.le_refl _, Nat.le_add_right _ _, Nat.le_refl _⟩
  case errorCounted | connectionLost =>
      refine .counts _ (fun stats => ?_) rfl rfl (by simp)
      exact ⟨Nat.le_refl _, Nat.le_refl _, Nat.le_refl _, Nat.le_refl _, Nat.le_succ _⟩
  case skipped env place => exact .counts _ (grows_outcome env false) rfl rfl (by simp [Event.isPublish])
  case prePollAborted env place => exact .counts _ (grows_outcome env false) rfl rfl (by simp [Event.isPublish])
  case aborted env read place => exact .counts _ (grows_outcome env false) rfl rfl (by simp [Event.isPublish])
  case completed env read place => exact .counts _ (grows_outcome env _) rfl rfl (by simp [Event.isPublish])
  case published env read place =>
      refine .publishes _ rfl rfl ?_
      simp only [publishStep, MetricStore.publish, MetricStore.metricsFor, AList.lookup_insert, Option.getD_some]
  all_goals exact .nothing rfl rfl (by simp [State.stop, Event.isPublish])

theorem updateCollector_eq (name : String) (f : CollectorStats → CollectorStats) (im : InternalMetrics) :
    im.updateCollector name f = im.insert name (f (im.statsOf name)) := by
  unfold InternalMetrics.updateCollector InternalMetrics.statsOf HashMap.modify HashMap.orInsert
  by_cases present : name ∈ im
  · obtain ⟨stats, found⟩ := Option.isSome_iff_exists.mp (AList.lookup_isSome.mpr present)
    simp only [if_pos present, found, Option.getD_some]
  · have absent := AList.lookup_eq_none.mpr present
    simp only [if_neg present, AList.lookup_insert, AList.insert_insert, absent, Option.getD_none]

end BusExporter.Collector

namespace BusExporter.Otlp
open Lib Config

def counted (im : Internal.InternalMetrics) : Internal.InternalMetrics :=
  { im with otlpExportsTotal := im.otlpExportsTotal + 1 }

theorem taskStep_counts {config : OtlpExporterConfig} {env : Env} {s s' : State} {events : List Event}
    (action : taskStep config env s = some (s', events)) :
    s'.internalMetrics = s.internalMetrics ∨ s'.internalMetrics = s.internalMetrics.map counted := by
  unfold taskStep at action
  cases place : s.pc with
  | snapshot flush =>
      simp only [place] at action
      split_ifs at action
      · cases action
        exact .inl rfl
      · cases action
        exact .inl rfl
      · cases action
        exact .inr rfl
  | start | waiting | internal flush =>
      simp only [place] at action
      split at action <;> cases action <;> exact .inl rfl
  | register flush metrics rest =>
      cases rest <;> simp only [place] at action <;> cases action <;> exact .inl rfl
  | registerInternal flush values rest =>
      cases rest <;> simp only [place] at action <;> cases action <;> exact .inl rfl
  | replace flush metrics | replaceInternal flush values | shutdown =>
      simp only [place] at action
      cases action
      exact .inl rfl
  | stopped => simp [place] at action

end BusExporter.Otlp

namespace BusExporter.Daemon
open Lib Config

variable {n : Nat} {σ : Fin n → Type}

structure Spawns (config : Config) (t : ∀ i, Collector.Task (σ i)) : Prop where
  collectors : (List.ofFn fun i => (t i).collector).Sublist config.collectors
  globalLabels : ∀ i, (t i).globalLabels =
    config.globalLabels.entries.foldl (fun labels e => labels.insert e.1 e.2) ∅

theorem Spawns.distinct {config : Config} {t : ∀ i, Collector.Task (σ i)} (spawns : Spawns config t)
    (valid : config.validate = .ok ()) : Function.Injective fun i => (t i).collector.name := by
  have names := (spawns.collectors.map (·.name)).nodup (validate_names valid)
  rw [List.map_ofFn] at names
  exact List.nodup_ofFn.mp names

def ofCollector (i : Fin n) : Event σ → Option (Collector.Event (σ i))
  | .collector j e => if same : j = i then some (same ▸ e) else none
  | _ => none

def ofOtlp : Event σ → Option Otlp.Event
  | .otlp e => some e
  | _ => none

def ofMqtt : Event σ → Option Mqtt.Event
  | .mqtt e => some e
  | _ => none

def ofStore (t : ∀ i, Collector.Task (σ i)) : Event σ → Option (SharedMap.Event String (List MetricValue) Walker)
  | .collector i (.publish snapshot) => some (.updated (.insert (t i).collector.name snapshot))
  | .walkStarted walker => some (.started walker)
  | .walked walker parts => some (.walked walker parts)
  | _ => none

theorem ofCollector_self (i : Fin n) (own : List (Collector.Event (σ i))) :
    (own.map (Event.collector i)).filterMap (ofCollector i) = own := by
  have shown : ofCollector i ∘ Event.collector (σ := σ) i = some := by
    funext e
    simp [ofCollector]
  rw [List.filterMap_map, shown, List.filterMap_some]

theorem ofCollector_other {i j : Fin n} (other : j ≠ i) (own : List (Collector.Event (σ j))) :
    (own.map (Event.collector j)).filterMap (ofCollector i) = [] := by
  simp [List.filterMap_map, ofCollector, other]

theorem ofOtlp_own (own : List Otlp.Event) : (own.map (Event.otlp (σ := σ))).filterMap ofOtlp = own := by
  rw [List.filterMap_map]
  exact List.filterMap_some

theorem ofMqtt_own (own : List Mqtt.Event) : (own.map (Event.mqtt (σ := σ))).filterMap ofMqtt = own := by
  rw [List.filterMap_map]
  exact List.filterMap_some

theorem ofStore_quiet (t : ∀ i, Collector.Task (σ i)) {j : Fin n} {own : List (Collector.Event (σ j))}
    (quiet : ∀ e ∈ own, e.isPublish = false) : (own.map (Event.collector j)).filterMap (ofStore t) = [] := by
  rw [List.filterMap_map, List.filterMap_eq_nil_iff]
  intro e member
  cases e with
  | publish snapshot => cases quiet _ member
  | _ => rfl

section Steps
variable {config : Config} {t : ∀ i, Collector.Task (σ i)} {s s' : System σ} {input : Input n}
  {events : List (Event σ)}

theorem view_moved {i : Fin n} {env : Collector.Env} {next : Collector.State (σ i)}
    {own : List (Collector.Event (σ i))}
    (action : Collector.taskStep (t i) env (s.view i) = some (next, own)) : (s.moved i next).view i = next := by
  have counting : next.internal = some (next.internal.getD s.internal.collectorStats) := by
    cases Collector.shares_step (t i) (Collector.taskStep_cases (t i) action) with
    | nothing store internal quiet => rw [internal]; rfl
    | counts f grows store internal quiet => rw [internal]; rfl
    | publishes snapshot store internal event => rw [internal]; rfl
  simp only [System.view, System.moved, Function.update_self]
  rw [← counting]

theorem collector_follows (distinct : Function.Injective fun i => (t i).collector.name)
    (step : Step config t s input s' events) (i : Fin n) :
    (events.filterMap (ofCollector i) = [] ∧ s'.view i = s.view i) ∨
      ∃ own, Collector.step (t i) (s.view i) own = some (s'.view i, events.filterMap (ofCollector i)) := by
  cases step
  case signalled timedOut place => exact .inr ⟨.sendShutdown, rfl⟩
  case awaited timedOut place ended => exact .inr ⟨.dropSender, rfl⟩
  case collector j env next own action =>
      by_cases same : j = i
      · subst same
        refine .inr ⟨.task env, ?_⟩
        rw [ofCollector_self, view_moved action]
        exact action
      · have other : (t j).collector.name ≠ (t i).collector.name := fun equal => same (distinct equal)
        have kept : (s.moved j next).view i =
            { s.view i with store := next.store, internal := some (next.internal.getD s.internal.collectorStats) } := by
          simp only [System.view, System.moved, Function.update_of_ne (Ne.symm same)]
        rw [ofCollector_other same, kept]
        cases Collector.shares_step (t j) (Collector.taskStep_cases (t j) action) with
        | nothing store internal quiet =>
            left
            rw [store, internal]
            exact ⟨rfl, rfl⟩
        | counts f grows store internal quiet =>
            refine .inr ⟨.statsOther (t j).collector.name
              (f (s.internal.collectorStats.statsOf (t j).collector.name)), ?_⟩
            rw [Collector.step, if_neg other, store, internal]
            simp only [System.view, Option.map_some, Option.getD_some, Collector.updateCollector_eq]
        | publishes snapshot store internal event =>
            refine .inr ⟨.publishOther (t j).collector.name snapshot, ?_⟩
            rw [Collector.step, if_neg other, store, internal]
            simp only [System.view, Option.getD_some]
  case otlp otlp env own next shown given present elsewhere requested action =>
      refine .inl ⟨by simp [ofCollector], ?_⟩
      rcases Otlp.taskStep_counts action with same | more
      · simp [System.view, System.exported, same]
      · simp [System.view, System.exported, more, Otlp.counted]
  case otlpWalked otlp env own next shown flush w given present place walking done action =>
      refine .inl ⟨by simp [ofCollector], ?_⟩
      rcases Otlp.taskStep_counts action with same | more
      · simp [System.view, System.exported, System.walkless, SharedMap.setWalk, same]
      · simp [System.view, System.exported, System.walkless, SharedMap.setWalk, more, Otlp.counted]
  case mqtt | mqttWalked => exact .inl ⟨by simp [ofCollector], rfl⟩
  all_goals exact .inl ⟨rfl, rfl⟩

theorem store_follows (step : Step config t s input s' events) :
    (events.filterMap (ofStore t) = [] ∧ s'.store = s.store) ∨
      ∃ access, SharedMap.step s.store access = some (s'.store, events.filterMap (ofStore t)) := by
  cases step
  case collector i env next own action =>
      cases Collector.shares_step (t i) (Collector.taskStep_cases (t i) action) with
      | nothing store internal quiet =>
          refine .inl ⟨ofStore_quiet t quiet, ?_⟩
          simp only [System.moved, store]
          rfl
      | counts f grows store internal quiet =>
          refine .inl ⟨ofStore_quiet t quiet, ?_⟩
          simp only [System.moved, store]
          rfl
      | publishes snapshot store internal event =>
          refine .inr ⟨.update (.insert (t i).collector.name snapshot), ?_⟩
          subst event
          simp only [SharedMap.step, System.moved, store, Walk.after, Option.map_id']
          rfl
  case walkStarted walker idle asked =>
      refine .inr ⟨.start walker, ?_⟩
      simp [SharedMap.step, idle, ofStore]
  case visited walker collectorName w walking fresh =>
      refine .inr ⟨.visit walker collectorName, ?_⟩
      simp [SharedMap.step, walking, fresh]
  case scraped id stats now w place walking done =>
      refine .inr ⟨.finish (.scrape id), ?_⟩
      simp [SharedMap.step, walking, done, ofStore, System.walkless]
  case otlp => exact .inl ⟨by simp [List.filterMap_map, ofStore], rfl⟩
  case otlpWalked otlp env own next shown flush w given present place walking done action =>
      refine .inr ⟨.finish .otlp, ?_⟩
      simp [SharedMap.step, walking, done, ofStore, System.walkless, System.exported, List.filterMap_map]
  case mqtt => exact .inl ⟨by simp [List.filterMap_map, ofStore], rfl⟩
  case mqttWalked mqtt env own next shown options w given present place woken walking done action =>
      refine .inr ⟨.finish .mqtt, ?_⟩
      simp [SharedMap.step, walking, done, ofStore, System.walkless, List.filterMap_map]
  all_goals exact .inl ⟨rfl, rfl⟩

def Sees (s : System σ) (own : Otlp.State) : Prop :=
  ∃ state, s.otlp = some state ∧ own = { state with internalMetrics := some s.internal }

theorem otlp_follows {otlp : OtlpExporterConfig} (given : config.exporters.otlp = some otlp) {own : Otlp.State}
    (sees : Sees s own) (step : Step config t s input s' events) :
    ∃ i own', Otlp.step otlp own i = some (own', events.filterMap ofOtlp) ∧ Sees s' own' := by
  obtain ⟨state, present, rfl⟩ := sees
  have observes (silent : events.filterMap ofOtlp = []) (kept : s'.otlp = s.otlp) :
      ∃ i own', Otlp.step otlp { state with internalMetrics := some s.internal } i =
        some (own', events.filterMap ofOtlp) ∧ Sees s' own' := by
    refine ⟨.observe s'.internal, { state with internalMetrics := some s'.internal }, ?_, state, ?_, rfl⟩
    · rw [silent]
      rfl
    · rw [kept, present]
  have counting {next : Otlp.State} (counts : next.internalMetrics = some s.internal ∨
        next.internalMetrics = (some s.internal).map Otlp.counted) :
      next.internalMetrics = some (next.internalMetrics.getD s.internal) := by
    rcases counts with same | more
    · rw [same, Option.getD_some]
    · rw [more, Option.map_some, Option.getD_some]
  cases step
  case otlp otlp' env own next shown given' present' elsewhere requested action =>
      cases given.symm.trans given'
      cases present.symm.trans present'
      refine ⟨.task env, next, ?_, next, rfl, ?_⟩
      · rw [ofOtlp_own]
        exact action
      · simp only [System.exported]
        rw [← counting (Otlp.taskStep_counts action)]
  case otlpWalked otlp' env own next shown flush w given' present' place walking done action =>
      cases given.symm.trans given'
      cases present.symm.trans present'
      refine ⟨.task { env with store := w.collected.toAList, stored := [] }, next, ?_, next, rfl, ?_⟩
      · rw [List.filterMap_cons_none rfl, ofOtlp_own]
        exact action
      · simp only [System.exported, System.walkless]
        rw [← counting (Otlp.taskStep_counts action)]
  case collector i env next own action => exact observes (by simp [ofOtlp, List.filterMap_map]) rfl
  case mqtt | mqttWalked => exact observes (by simp [ofOtlp]) rfl
  all_goals exact observes rfl rfl

theorem mqtt_follows {mqtt : MqttExporterConfig} (given : config.exporters.mqtt = some mqtt) {own : Mqtt.State}
    (present : s.mqtt = some own) (step : Step config t s input s' events) :
    (events.filterMap ofMqtt = [] ∧ s'.mqtt = some own) ∨
      ∃ i own', Mqtt.step mqtt own i = some (own', events.filterMap ofMqtt) ∧ s'.mqtt = some own' := by
  cases step
  case cancelled timedOut place =>
      refine .inr ⟨.cancel, { own with cancelled := true }, rfl, ?_⟩
      simp [present]
  case mqtt mqtt' input own' next shown given' present' elsewhere alone free action =>
      cases given.symm.trans given'
      cases present.symm.trans present'
      refine .inr ⟨input, next, ?_, rfl⟩
      rw [ofMqtt_own]
      exact action
  case mqttWalked mqtt' env own' next shown options w given' present' place woken walking done action =>
      cases given.symm.trans given'
      cases present.symm.trans present'
      refine .inr ⟨.main { env with store := w.collected.toAList, stored := [] }, next, ?_, rfl⟩
      rw [List.filterMap_cons_none rfl, ofMqtt_own]
      exact action
  case collector i env next own' action => exact .inl ⟨by simp [ofMqtt, List.filterMap_map], present⟩
  case otlp | otlpWalked => exact .inl ⟨by simp [ofMqtt], present⟩
  all_goals exact .inl ⟨rfl, present⟩

end Steps

section Runs
variable {config : Config} {t : ∀ i, Collector.Task (σ i)} {worlds : ∀ i, σ i} {startTime : Internal.Instant}
  {trace : List (Event σ)} {s : System σ}

theorem collector_run (distinct : Function.Injective fun i => (t i).collector.name)
    (run : (machine config t).Run (spawned config t worlds startTime) trace s) (i : Fin n) :
    (Collector.machine (t i)).Run (Collector.start (t i) (worlds i) true) (trace.filterMap (ofCollector i))
      (s.view i) := by
  obtain ⟨own, alone, rfl⟩ := run.simulated (N := Collector.machine (t i)) (ofCollector i)
    (R := fun s own => own = s.view i) rfl (by
      rintro s own input s' events rfl action
      rcases collector_follows distinct (step_cases action) i with ⟨silent, kept⟩ | ⟨j, follows⟩
      · exact .inl ⟨silent, kept.symm⟩
      · exact .inr ⟨j, s'.view i, follows, rfl⟩)
  exact alone

theorem store_run (run : (machine config t).Run (spawned config t worlds startTime) trace s) :
    SharedMap.machine.Run SharedMap.empty (trace.filterMap (ofStore t)) s.store := by
  obtain ⟨store, alone, rfl⟩ := run.simulated (N := SharedMap.machine) (ofStore t)
    (R := fun s store => store = s.store) rfl (by
      rintro s store input s' events rfl action
      rcases store_follows (step_cases action) with ⟨silent, kept⟩ | ⟨access, follows⟩
      · exact .inl ⟨silent, kept.symm⟩
      · exact .inr ⟨access, s'.store, follows, rfl⟩)
  exact alone

theorem otlp_run {otlp : OtlpExporterConfig} (given : config.exporters.otlp = some otlp)
    (enabled : otlp.enabled = true)
    (run : (machine config t).Run (spawned config t worlds startTime) trace s) :
    ∃ own, Sees s own ∧ (Otlp.machine otlp).Run { internalMetrics := some (internalMetrics config startTime) }
      (trace.filterMap ofOtlp) own := by
  have begins : Sees (spawned config t worlds startTime)
      { internalMetrics := some (internalMetrics config startTime) } :=
    ⟨{ internalMetrics := some (internalMetrics config startTime) },
      by simp [spawned, given, Option.filter, enabled], rfl⟩
  obtain ⟨own, alone, sees⟩ := run.simulated (N := Otlp.machine otlp) ofOtlp (R := Sees) begins (by
    intro s own input s' events sees action
    obtain ⟨i, own', follows, sees'⟩ := otlp_follows given sees (step_cases action)
    exact .inr ⟨i, own', follows, sees'⟩)
  exact ⟨own, sees, alone⟩

theorem mqtt_run {mqtt : MqttExporterConfig} (given : config.exporters.mqtt = some mqtt)
    (enabled : mqtt.enabled = true)
    (run : (machine config t).Run (spawned config t worlds startTime) trace s) :
    ∃ own, s.mqtt = some own ∧ (Mqtt.machine mqtt).Run {} (trace.filterMap ofMqtt) own := by
  have begins : (spawned config t worlds startTime).mqtt = some {} := by
    simp [spawned, given, Option.filter, enabled]
  obtain ⟨own, alone, present⟩ := run.simulated (N := Mqtt.machine mqtt) ofMqtt
    (R := fun s own => s.mqtt = some own) begins (by
      intro s own input s' events present action
      rcases mqtt_follows given present (step_cases action) with ⟨silent, kept⟩ | ⟨i, own', follows, present'⟩
      · exact .inl ⟨silent, kept⟩
      · exact .inr ⟨i, own', follows, present'⟩)
  exact ⟨own, present, alone⟩

/-- Every part of a validated daemon behaves as it does alone, whatever the others do. -/
theorem daemon_parts (valid : config.validate = .ok ()) (spawns : Spawns config t)
    (run : (machine config t).Run (spawned config t worlds startTime) trace s) :
    (∀ i, (Collector.machine (t i)).Run (Collector.start (t i) (worlds i) true)
      (trace.filterMap (ofCollector i)) (s.view i)) ∧
    SharedMap.machine.Run SharedMap.empty (trace.filterMap (ofStore t)) s.store ∧
    (∀ otlp, config.exporters.otlp = some otlp → otlp.enabled = true →
      ∃ own, Sees s own ∧ (Otlp.machine otlp).Run { internalMetrics := some (internalMetrics config startTime) }
        (trace.filterMap ofOtlp) own) ∧
    ∀ mqtt, config.exporters.mqtt = some mqtt → mqtt.enabled = true →
      ∃ own, s.mqtt = some own ∧ (Mqtt.machine mqtt).Run {} (trace.filterMap ofMqtt) own :=
  ⟨collector_run (spawns.distinct valid) run, store_run run, fun _ given enabled => otlp_run given enabled run,
    fun _ given enabled => mqtt_run given enabled run⟩

end Runs

open Collector (Script)

def plantConfig : Config where
  exporters := {
    prometheus := some { enabled := true }
    otlp := some { enabled := true, endpoint := some "http://collector:4317" }
    mqtt := some { enabled := true, endpoint := some "mqtt://broker" } }
  collectors := [(Script.task [Script.metric "level"] []).collector]

def plantTask (_ : Fin 1) : Collector.Task Script := Script.task [Script.metric "level"] []

def plantStart : System fun _ : Fin 1 => Script :=
  spawned plantConfig plantTask (fun _ => { reads := [([("level", some 1)], true)] }) 0

theorem plant_valid : plantConfig.validate = .ok () := by decide

theorem plant_spawns : Spawns plantConfig plantTask := ⟨.refl _, fun _ => rfl⟩

def plantCycle : List (Input 1) := List.replicate 7 (.collector ⟨0, Nat.one_pos⟩ {})

def plantScrape (id : Nat) : List (Input 1) :=
  [.accept, .scrape id [] 0, .scrape id [] 0, .visit (.scrape id) "boiler", .scrape id [] 0, .scrape id [] 0]

def plantDay : List (Input 1) :=
  plantCycle ++ [.bind true] ++ plantScrape 0 ++
    [.otlp {}, .otlp {}, .otlp {}, .visit .otlp "boiler", .otlp {}, .otlp {}, .otlp {}, .otlp {}]

theorem daemon_parts_plant :
    ∃ (trace : List (Event fun _ : Fin 1 => Script)) (s : System fun _ : Fin 1 => Script) (own : Otlp.State),
      (Collector.machine (plantTask ⟨0, Nat.one_pos⟩)).Run
        (Collector.start (plantTask ⟨0, Nat.one_pos⟩) { reads := [([("level", some 1)], true)] } true)
        (trace.filterMap (ofCollector ⟨0, Nat.one_pos⟩)) (s.view ⟨0, Nat.one_pos⟩) ∧
      SharedMap.machine.Run SharedMap.empty (trace.filterMap (ofStore plantTask)) s.store ∧
      (Otlp.machine { enabled := true, endpoint := some "http://collector:4317" }).Run
        { internalMetrics := some (internalMetrics plantConfig 0) } (trace.filterMap ofOtlp) own ∧
      (∃ snapshot, .publish snapshot ∈ trace.filterMap (ofCollector ⟨0, Nat.one_pos⟩)) ∧
      ∃ metrics, .shared metrics ∈ trace.filterMap ofOtlp := by
  have executed : ∃ first snapshot between metrics last s, ((machine plantConfig plantTask).exec plantStart plantDay) =
      some (first ++ .collector ⟨0, Nat.one_pos⟩ (.publish snapshot) ::
        (between ++ .otlp (.shared metrics) :: last), s) :=
    ⟨[_, _, _, _, _], _, [_, _, _, _, _, _], _, _, _, rfl⟩
  obtain ⟨first, snapshot, between, metrics, last, s, executed⟩ := executed
  have run := Machine.exec_run executed
  obtain ⟨collectors, store, otlp, -⟩ := daemon_parts plant_valid plant_spawns run
  obtain ⟨own, -, alone⟩ := otlp _ rfl rfl
  refine ⟨_, s, own, collectors ⟨0, Nat.one_pos⟩, store, alone, ⟨snapshot, ?_⟩, metrics, ?_⟩
  · exact List.mem_filterMap.mpr ⟨.collector ⟨0, Nat.one_pos⟩ (.publish snapshot), by simp, by simp [ofCollector]⟩
  · exact List.mem_filterMap.mpr ⟨.otlp (.shared metrics), by simp, rfl⟩

end BusExporter.Daemon
