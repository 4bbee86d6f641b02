import BusExporter.Proof.Caches
import BusExporter.Proof.CollectorSteps
import BusExporter.Proof.Resolved

/-! What a collector publishes over a run: of each configured metric its latest successful read, unless
an error counter takes the name. -/

namespace BusExporter.Collector
open Lib Config

variable {σ : Type}

def success : Option (Result (Float × Float)) → Option Float
  | some (.ok (_, scaled)) => some scaled
  | _ => none

def measurement (name : String) : Event σ → Option Float
  | .completed read => success (read.metrics.lookup name)
  | _ => none

def latest (name : String) (trace : List (Event σ)) : Option Float :=
  (trace.filterMap (measurement name)).getLast?

theorem latest_plain (name : String) (trace : List (Event σ)) {events : List (Event σ)}
    (plain : ∀ e ∈ events, e.isCompleted = false) : latest name (trace ++ events) = latest name trace := by
  have none : events.filterMap (measurement name) = [] := by
    apply List.filterMap_eq_nil_iff.mpr
    intro e member
    have other := plain e member
    cases e <;> simp_all [Event.isCompleted, measurement]
  rw [latest, List.filterMap_append, none, List.append_nil, latest]

theorem latest_completed (name : String) (trace : List (Event σ)) (result : Bool) (read : ReadResults) :
    latest name (trace ++ [.outcome result, .completed read]) =
      (success (read.metrics.lookup name)).or (latest name trace) := by
  rw [latest, List.filterMap_append, List.getLast?_append, latest]
  cases found : success (read.metrics.lookup name) <;> simp [measurement, found]

def configuredSeries (m : MetricConfig) (scaled : Float) : Series :=
  { name := m.name
    value := scaled
    metricType := mapMetricType m.metricType
    description := m.description
    unit := m.unit }

variable (t : Task σ)

/-- After each publish, a configured metric has one series, of its latest read, or none if there was
no such read. -/
def Faithful (trace : List (Event σ)) : Prop :=
  ∀ before snapshot after, trace = before ++ .publish snapshot :: after → ∀ m ∈ t.collector.metrics,
    (snapshot.filter (·.name = m.name)).map seriesOf =
      ((latest m.name before).map (configuredSeries m)).toList

def CountersApart (trace : List (Event σ)) : Prop :=
  ∀ read name e, .completed read ∈ trace → read.metrics.lookup name = some (.error e) →
    Configured t name → ∀ m ∈ t.collector.metrics, m.name ≠ name ++ "_errors"

def FailedBefore (trace : List (Event σ)) (name : String) : Prop :=
  Configured t name ∧ ∃ read e, .completed read ∈ trace ∧ read.metrics.lookup name = some (.error e)

def FailedNow (s : State σ) (name : String) : Prop :=
  Configured t name ∧ t.reader.isConnected s.world = true ∧
    ∃ read rest e, s.pc = .results read rest ∧ read.metrics.lookup name = some (.error e)

def EntriesSoFar (s : State σ) : Prop :=
  ∀ read rest, s.pc = .results read rest → ∃ done, (done ++ rest).Perm read.metrics.entries

def CountsSoFar (trace : List (Event σ)) (s : State σ) : Prop :=
  EntriesSoFar s ∧ ∀ name ∈ s.errorCounts, FailedBefore t trace name ∨ FailedNow t s name

variable {t}

theorem FailedBefore.append {trace : List (Event σ)} {name : String}
    (failed : FailedBefore t trace name) (events : List (Event σ)) :
    FailedBefore t (trace ++ events) name := by
  obtain ⟨configured, read, e, member, found⟩ := failed
  exact ⟨configured, read, e, List.mem_append_left _ member, found⟩

theorem entry_lookup {done rest : List ReadEntry} {read : ReadResults}
    {name : String} {outcome : Result (Float × Float)}
    (all : (done ++ ⟨name, outcome⟩ :: rest).Perm read.metrics.entries) :
    read.metrics.lookup name = some outcome :=
  AList.mem_lookup_iff.mpr (all.subset (by simp))

theorem entries_step {s s' : State σ} {events : List (Event σ)} (soFar : EntriesSoFar s)
    (step : TaskStep t s s' events) : EntriesSoFar s' := by
  intro read rest place'
  cases step
  case readDone env read' world place done =>
      cases place'
      exact ⟨[], HashMap.iter_perm _ _⟩
  case ignored read' entry rest' place _ =>
      cases place'
      obtain ⟨done, all⟩ := soFar _ _ place
      exact ⟨done ++ [entry], by simpa using all⟩
  case stored env read' name raw scaled cfg rest' place _ =>
      cases place'
      obtain ⟨done, all⟩ := soFar _ _ place
      exact ⟨done ++ [⟨name, .ok (raw, scaled)⟩], by simpa using all⟩
  case errorCounted read' name e cfg rest' place _ _ =>
      cases place'
      obtain ⟨done, all⟩ := soFar _ _ place
      exact ⟨done ++ [⟨name, .error e⟩], by simpa using all⟩
  case connected | reconnected =>
      simp only [State.afterConnect] at place'
      split_ifs at place'
  case proceed | prePollFailed =>
      simp only at place'
      split_ifs at place'
  all_goals cases place'

theorem counts_step {trace events : List (Event σ)} {s s' : State σ} (soFar : CountsSoFar t trace s)
    (step : TaskStep t s s' events) : CountsSoFar t (trace ++ events) s' := by
  refine ⟨entries_step soFar.1 step, ?_⟩
  have before : ∀ name ∈ s.errorCounts, (∀ read rest, s.pc ≠ .results read rest) →
      FailedBefore t (trace ++ events) name := by
    intro name counted elsewhere
    rcases soFar.2 name counted with before | ⟨_, _, read, rest, _, place, _⟩
    · exact before.append events
    · exact absurd place (elsewhere read rest)
  -- the connection does not change between two entries of one read
  have during : ∀ name ∈ s.errorCounts, ∀ read entry rest, s.pc = .results read (entry :: rest) →
      s'.pc = .results read rest → s'.world = s.world →
        FailedBefore t (trace ++ events) name ∨ FailedNow t s' name := by
    intro name counted read entry rest place place' world
    rcases soFar.2 name counted with before | ⟨configured, connected, read', rest', e, here, found⟩
    · exact .inl (before.append events)
    · obtain ⟨rfl, -⟩ := Pc.results.inj (here.symm.trans place)
      exact .inr ⟨configured, by rwa [world], read', rest, e, place', found⟩
  intro name counted
  cases step
  case ignored read entry rest place unknown => exact during name counted read entry rest place rfl rfl
  case stored env read name' raw scaled cfg rest place known =>
      exact during name counted read _ rest place rfl rfl
  case errorCounted read name' e cfg rest place known connected =>
      by_cases same : name = name'
      · subst same
        obtain ⟨done, all⟩ := soFar.1 _ _ place
        exact .inr ⟨configured_of_known known, connected, read, rest, e, rfl, entry_lookup all⟩
      · have old : name ∈ s.errorCounts := by
          rw [← AList.lookup_isSome, HashMap.lookup_modify, if_neg same, HashMap.lookup_orInsert,
            if_neg same, AList.lookup_isSome] at counted
          exact counted
        exact during name old read _ rest place rfl rfl
  case connectionLost read name' e cfg rest place known lost =>
      rcases soFar.2 name counted with before | ⟨_, connected, _⟩
      · exact .inl (before.append _)
      -- no failure of this read was counted before: the connection was lost then too
      · rw [lost] at connected
        cases connected
  case completed env read place =>
      rcases soFar.2 name counted with before | ⟨configured, _, read', rest, e, here, found⟩
      · exact .inl (before.append _)
      · obtain ⟨rfl, -⟩ := Pc.results.inj (here.symm.trans place)
        exact .inl ⟨configured, read', e, by simp, found⟩
  case connectSlept place | initialised place _ | nextCycle place =>
      refine .inl (before name counted fun read rest here => ?_)
      rcases place with place | place <;> rw [place] at here <;> cases here
  all_goals
    refine .inl (before name counted fun read rest here => ?_)
    simp_all

theorem named_step {s s' : State σ} {events : List (Event σ)}
    (named : Named s.prevCache ∧ Named s.localCache) (step : TaskStep t s s' events) :
    Named s'.prevCache ∧ Named s'.localCache := by
  cases step
  case cycle place => exact ⟨named.1, named_empty⟩
  case stored env read name raw scaled cfg rest place known =>
      have key : (measured cfg scaled env.now).name = name := known_name known
      exact ⟨named.1, key ▸ named.2.insert (measured cfg scaled env.now)⟩
  case published env read place => exact ⟨named_mergeCaches named.1 named.2, named.2⟩
  all_goals exact named

variable (t)

def Holds (expected : String → Option Float) (cache : HashMap String MetricValue) : Prop :=
  ∀ m ∈ t.collector.metrics,
    (cache.lookup m.name).map seriesOf = (expected m.name).map (configuredSeries m)

def CachesSoFar (trace : List (Event σ)) (s : State σ) : Prop :=
  match s.pc with
  | .shutdownCheck | .prePoll | .read =>
      Holds t (latest · trace) s.prevCache ∧ s.localCache = ∅
  | .results read rest =>
      Holds t (latest · trace) s.prevCache ∧ ∃ done, (done ++ rest).Perm read.metrics.entries ∧
        Holds t (fun name => success (done.dlookup name)) s.localCache
  | .publish read =>
      ∃ earlier result, trace = earlier ++ [.outcome result, .completed read] ∧
        Holds t (latest · earlier) s.prevCache ∧
        Holds t (fun name => success (read.metrics.lookup name)) s.localCache
  | _ => Holds t (latest · trace) s.prevCache

variable {t}

theorem CachesSoFar.previous {trace : List (Event σ)} {s : State σ} (soFar : CachesSoFar t trace s)
    (elsewhere : ∀ read, s.pc ≠ .publish read) : Holds t (latest · trace) s.prevCache := by
  unfold CachesSoFar at soFar
  split at soFar
  · exact soFar.1
  · exact soFar.1
  · exact soFar.1
  · exact soFar.1
  · exact absurd ‹_› (elsewhere _)
  · exact soFar

theorem fresh_key {done rest : List ReadEntry} {read : ReadResults} {entry : ReadEntry}
    (all : (done ++ entry :: rest).Perm read.metrics.entries) : done.dlookup entry.1 = none := by
  have nodup : (done ++ entry :: rest).NodupKeys := (List.perm_nodupKeys all).mpr read.metrics.nodupKeys
  rw [List.NodupKeys, List.keys_append, List.keys_cons] at nodup
  rw [List.dlookup_eq_none]
  intro member
  exact (List.nodup_append.mp nodup).2.2 _ member _ (by simp) rfl

theorem dlookup_concat {done rest : List ReadEntry} {read : ReadResults} {entry : ReadEntry}
    (all : (done ++ entry :: rest).Perm read.metrics.entries) (name : String) :
    (done ++ [entry]).dlookup name =
      if name = entry.1 then some entry.2 else done.dlookup name := by
  rw [List.dlookup_append]
  split_ifs with same
  · subst same
    rw [fresh_key all, Option.none_or]
    obtain ⟨key, outcome⟩ := entry
    simp
  · rw [List.dlookup_cons_ne [] entry same]
    simp

theorem holds_other {done rest : List ReadEntry} {read : ReadResults} {entry : ReadEntry}
    {cache : HashMap String MetricValue} (all : (done ++ entry :: rest).Perm read.metrics.entries)
    (soFar : Holds t (fun name => success (done.dlookup name)) cache)
    (unread : Configured t entry.1 → success (some entry.2) = none) :
    Holds t (fun name => success ((done ++ [entry]).dlookup name)) cache := by
  intro m member
  simp only [soFar m member, dlookup_concat all]
  split_ifs with same
  · rw [same, fresh_key all, unread ⟨m, member, same⟩]
    rfl
  · rfl

theorem only_of_name (distinct : DistinctNames t.collector.metrics) {m cfg : MetricConfig}
    (member : m ∈ t.collector.metrics)
    (known : t.collector.metrics.find? (·.name = m.name) = some cfg) : cfg = m :=
  List.inj_on_of_nodup_map distinct (List.mem_of_find?_eq_some known) member (known_name known)

theorem holds_stored {done rest : List ReadEntry} {read : ReadResults} {name : String}
    {raw scaled : Float} {cfg : MetricConfig} {cache : HashMap String MetricValue}
    (distinct : DistinctNames t.collector.metrics)
    (all : (done ++ ⟨name, .ok (raw, scaled)⟩ :: rest).Perm read.metrics.entries)
    (soFar : Holds t (fun name => success (done.dlookup name)) cache)
    (known : t.collector.metrics.find? (·.name = name) = some cfg) (now : SystemTime) :
    Holds t (fun key => success (List.dlookup key (done ++ [(⟨name, .ok (raw, scaled)⟩ : ReadEntry)])))
      (cache.insert name (measured cfg scaled now)) := by
  intro m member
  simp only [dlookup_concat all]
  split_ifs with same
  · subst same
    rw [AList.lookup_insert, only_of_name distinct member known]
    rfl
  · rw [AList.lookup_insert_ne same]
    exact soFar m member

theorem caches_step {trace events : List (Event σ)} {s s' : State σ}
    (distinct : DistinctNames t.collector.metrics) (apart : CountersApart t (trace ++ events))
    (counts : CountsSoFar t trace s) (soFar : CachesSoFar t trace s) (step : TaskStep t s s' events) :
    CachesSoFar t (trace ++ events) s' := by
  have previous : (∀ read, s.pc ≠ .publish read) → (∀ e ∈ events, e.isCompleted = false) →
      Holds t (latest · (trace ++ events)) s.prevCache := by
    intro elsewhere plain
    simp only [latest_plain _ _ plain]
    exact soFar.previous elsewhere
  cases step
  case connected place _ | reconnected place _ =>
      have holds := previous (by simp [place]) (by simp [Event.isCompleted])
      simp only [State.afterConnect, CachesSoFar]
      split_ifs <;> exact holds
  case cycle place =>
      exact ⟨previous (by simp [place]) (by simp [Event.isCompleted]), rfl⟩
  case proceed place running =>
      have holds := previous (by simp [place]) (by simp)
      simp only [CachesSoFar, place] at soFar ⊢
      split_ifs <;> exact ⟨holds, soFar.2⟩
  case prePolled place ok =>
      have holds := previous (by simp [place]) (by simp [Event.isCompleted])
      simp only [CachesSoFar, place] at soFar
      exact ⟨holds, soFar.2⟩
  case prePollFailed place failed =>
      have holds := previous (by simp [place]) (by simp [Event.isCompleted])
      simp only [CachesSoFar]
      split_ifs <;> exact holds
  case readDone env read world place done =>
      have holds := previous (by simp [place]) (by simp [Event.isCompleted])
      simp only [CachesSoFar, place] at soFar
      refine ⟨holds, [], HashMap.iter_perm _ _, ?_⟩
      intro m member
      rw [State.count, soFar.2]
      rfl
  case ignored read entry rest place unknown =>
      have holds := previous (by simp [place]) (by simp)
      simp only [CachesSoFar, place] at soFar
      obtain ⟨_, done, all, values⟩ := soFar
      refine ⟨holds, done ++ [entry], by simpa using all, holds_other all values ?_⟩
      intro configured
      exact absurd configured (not_configured_of_unknown unknown)
  case stored env read name raw scaled cfg rest place known =>
      have holds := previous (by simp [place]) (by simp)
      simp only [CachesSoFar, place] at soFar
      obtain ⟨_, done, all, values⟩ := soFar
      exact ⟨holds, done ++ [⟨name, .ok (raw, scaled)⟩], by simpa using all,
        holds_stored distinct all values known env.now⟩
  case errorCounted read name e cfg rest place known connected =>
      have holds := previous (by simp [place]) (by simp)
      simp only [CachesSoFar, place] at soFar
      obtain ⟨_, done, all, values⟩ := soFar
      exact ⟨holds, done ++ [⟨name, .error e⟩], by simpa using all, holds_other all values fun _ => rfl⟩
  case completed env read place =>
      simp only [CachesSoFar, place] at soFar
      obtain ⟨holds, done, all, values⟩ := soFar
      rw [List.append_nil] at all
      refine ⟨trace, !s.pollHadError, rfl, holds, ?_⟩
      have whole : ∀ name, done.dlookup name = read.metrics.lookup name := fun name =>
        List.perm_dlookup name ((List.perm_nodupKeys all).mpr read.metrics.nodupKeys) all
      show Holds t _ s.localCache
      simpa only [whole] using values
  case published env read place =>
      simp only [CachesSoFar, place] at soFar
      obtain ⟨earlier, result, rfl, holds, values⟩ := soFar
      intro m member
      -- the error counters leave the configured series alone
      have others : ∀ name ∈ s.errorCounts, m.name ≠ name ++ "_errors" := by
        intro name counted
        rcases counts.2 name counted with ⟨configured, read, e, completed, failed⟩ | now
        · exact apart read name e (List.mem_append_left _ completed) failed configured m member
        · obtain ⟨_, _, read, rest, _, here, _⟩ := now
          rw [place] at here
          cases here
      have plain : ∀ e ∈ (publishStep t env s).2, e.isCompleted = false := by
        simp [publishStep, Event.isCompleted]
      simp only [latest_plain _ _ plain, latest_completed]
      refine (series_mergeCaches others).trans ?_
      rw [holds m member, values m member]
      exact Option.map_or.symm
  case connectSlept place | initialised place _ | nextCycle place =>
      refine previous ?_ (by simp [Event.isCompleted])
      rcases place with place | place <;> simp [place]
  all_goals
    refine previous (by simp [*]) ?_
    simp [Event.isCompleted, State.stop]

structure Sound (t : Task σ) (trace : List (Event σ)) (s : State σ) : Prop where
  named : Named s.prevCache ∧ Named s.localCache
  counts : CountsSoFar t trace s
  caches : CountersApart t trace → CachesSoFar t trace s

theorem CountersApart.before {trace events : List (Event σ)} (apart : CountersApart t (trace ++ events)) :
    CountersApart t trace :=
  fun read name e completed => apart read name e (List.mem_append_left events completed)

theorem sound (distinct : DistinctNames t.collector.metrics) (world : σ) (internalMetrics : Bool)
    {trace : List (Event σ)} {s : State σ}
    (run : (machine t).Run (start t world internalMetrics) trace s) : Sound t trace s := by
  refine own_invariant (P := Sound t) ?_ ?_ ?_ run
  · refine ⟨⟨named_empty, named_empty⟩, ⟨?_, ?_⟩, ?_⟩
    · intro read rest place
      cases place
    · intro name counted
      cases counted
    · intro _ m _
      rfl
  · intro trace s s' events before step
    refine ⟨named_step before.named step, counts_step before.counts step, ?_⟩
    intro apart
    exact caches_step distinct apart before.counts (before.caches apart.before) step
  · intro trace s _ _ _ _ before
    exact ⟨before.named, before.counts, before.caches⟩

theorem publish_cases {s s' : State σ} {events first last : List (Event σ)}
    {snapshot : List MetricValue} (step : TaskStep t s s' events)
    (split : events = first ++ .publish snapshot :: last) :
    first = [] ∧ (∃ read, s.pc = .publish read) ∧
      ∃ env, s' = (publishStep t env s).1 ∧ events = (publishStep t env s).2 := by
  obtain rfl := leading_step step split rfl
  cases step <;> simp [State.stop, publishStep] at split
  case published env read place => exact ⟨rfl, ⟨read, place⟩, env, rfl, rfl⟩

variable (t)

theorem snapshots_faithful {files : Files} {path : String} {config : Config}
    (loaded : Config.load files path = .ok config) (member : t.collector ∈ config.collectors)
    (world : σ) (internalMetrics : Bool) {trace : List (Event σ)} {s : State σ}
    (run : (machine t).Run (start t world internalMetrics) trace s) (apart : CountersApart t trace) :
    Faithful t trace := by
  intro before snapshot after split m configured
  subst split
  obtain ⟨earlier, state, state', first, rest, previous, step, split⟩ := run_emitted run
  have distinct := load_distinct loaded member
  have here := sound distinct world internalMetrics previous
  obtain ⟨rfl, -, env, rfl, events⟩ := publish_cases step rfl
  obtain rfl : before = earlier := by rw [split, List.append_nil]
  obtain ⟨published, rfl⟩ := List.cons.inj events
  have snap := Event.publish.inj published
  have upto : CountersApart t (before ++ ([] ++ [.publish snapshot])) := by
    have all : CountersApart t ((before ++ ([] ++ [.publish snapshot])) ++ after) := by simpa using apart
    exact all.before
  have caches : Holds t (latest · (before ++ ([] ++ [.publish snapshot])))
      (publishStep t env state).1.prevCache :=
    caches_step distinct upto here.counts (here.caches upto.before) step
  have plain : ∀ e ∈ [] ++ [(.publish snapshot : Event σ)], e.isCompleted = false := by
    simp [Event.isCompleted]
  have latest_before := latest_plain m.name before plain
  rw [snap, publish_series (named_mergeCaches here.named.1 here.named.2), ← latest_before]
  exact congrArg Option.toList (caches m configured)

def boilerConfig (metrics : List MetricConfig) : Config :=
  { exporters := { prometheus := some { enabled := true } }
    collectors := [(Script.task metrics []).collector] }

def boilerFiles (metrics : List MetricConfig) : Files where
  readToString _ := .ok ""
  parseConfig _ := .ok (boilerConfig metrics)
  parseMetricsFile _ := .error ⟨"no metrics file", []⟩

def thermometer : List MetricConfig := [Script.metric "temperature"]

theorem snapshots_faithful_thermometer :
    ∃ trace s, (machine (Script.task thermometer [])).Run
        (start (Script.task thermometer []) { reads := [([("temperature", some 21.5)], true)] } true)
        trace s ∧
      trace.length = 6 ∧ Faithful (Script.task thermometer []) trace := by
  have publishes : ((machine (Script.task thermometer [])).exec
      (start (Script.task thermometer []) { reads := [([("temperature", some 21.5)], true)] } true)
      (List.replicate 7 (.task {}))).map (·.1.length) = some 6 := rfl
  obtain ⟨⟨trace, s⟩, executed, six⟩ := Option.map_eq_some_iff.mp publishes
  have run := Machine.exec_run executed
  have loaded : Config.load (boilerFiles thermometer) "config.yaml" = .ok (boilerConfig thermometer) := rfl
  refine ⟨trace, s, run, six, snapshots_faithful _ loaded (List.mem_singleton_self _) _ _ run ?_⟩
  intro read name e _ _ configured m' member'
  obtain ⟨m, member, rfl⟩ := configured
  rw [List.mem_singleton.mp member, List.mem_singleton.mp member']
  decide

def clash : List MetricConfig := [Script.metric "temperature", Script.metric "temperature_errors"]

def clashScript : Script :=
  { reads := [([("temperature", none), ("temperature_errors", some 5.0)], true)] }

def publishedValues (name : String) : Event Script → List Float
  | .publish snapshot => (snapshot.filter (·.name = name)).map (·.value)
  | _ => []

theorem error_counter_overwrites :
    (Config.load (boilerFiles clash) "config.yaml" = .ok (boilerConfig clash) ∧
      (Script.task clash []).collector ∈ (boilerConfig clash).collectors) ∧
    ¬∀ trace s, (machine (Script.task clash [])).Run
      (start (Script.task clash []) clashScript true) trace s → Faithful (Script.task clash []) trace := by
  refine ⟨⟨rfl, List.mem_singleton_self _⟩, ?_⟩
  intro claimed
  have publishes : ((machine (Script.task clash [])).exec
      (start (Script.task clash []) clashScript true) (List.replicate 8 (.task {}))).map
      (fun run => (latest "temperature_errors" (run.1.take 5), run.1.drop 5 |>.map
        (publishedValues "temperature_errors"))) = some (some 5.0, [[1.0]]) := rfl
  obtain ⟨⟨trace, s⟩, executed, shape⟩ := Option.map_eq_some_iff.mp publishes
  obtain ⟨measuredLast, last⟩ := Prod.mk.inj shape
  obtain ⟨e, rest, values⟩ := List.map_eq_singleton_iff.mp last
  cases e with
  | publish snapshot =>
      have split : trace = trace.take 5 ++ .publish snapshot :: [] := by
        rw [← rest, List.take_append_drop]
      have series := claimed trace s (Machine.exec_run executed) _ snapshot [] split
        (Script.metric "temperature_errors") (by simp [Script.task, clash])
      have value := congrArg (List.map Series.value) series
      rw [List.map_map, show (Script.metric "temperature_errors").name = "temperature_errors" from rfl,
        measuredLast] at value
      have different : ([1.0] : List Float) = [5.0] := values.symm.trans value
      exact absurd different (by decide)
  | _ => simp [publishedValues] at values

end BusExporter.Collector
