import BusExporter.Proof.ErrorSeries
import BusExporter.Proof.Publication
import BusExporter.Proof.ScrapedPages
import BusExporter.Proof.Turns

/-! Where the values come from that leave the process: each was read from a device under the name of a configured
metric, or counts the failures of one, and was published by its collector before an exporter found it. -/

namespace BusExporter.Collector
open Lib Config

variable {σ : Type} (t : Task σ)

def HasRead (trace : List (Event σ)) (read : ReadResults) : Prop :=
  ∃ before after cancelled, .read before read after ∈ trace ∧ t.reader.read cancelled before = .ok (read, after)

def WasRead (trace : List (Event σ)) (name : String) (value : Float) : Prop :=
  ∃ read raw, HasRead t trace read ∧ read.metrics.lookup name = some (.ok (raw, value))

def Measured (trace : List (Event σ)) (v : MetricValue) : Prop :=
  ∃ m ∈ t.collector.metrics, seriesOf v = configuredSeries m v.value ∧ WasRead t trace m.name v.value

def FailuresCounted (trace : List (Event σ)) (v : MetricValue) : Prop :=
  ∃ m ∈ t.collector.metrics, v.name = m.name ++ "_errors" ∧ 0 < failureCount t m.name trace ∧
    v.value = F64.ofU64 (failureCount t m.name trace)

def label (v : MetricValue) (k : String) : Option String :=
  if k = "unit" ∧ v.unit ≠ "" then some v.unit
  else if k = "collector" then some t.collector.name
  else (t.collector.labels.lookup k).or t.globalLabels[k]?

structure Origin (trace : List (Event σ)) (v : MetricValue) : Prop where
  value : Measured t trace v ∨ FailuresCounted t trace v
  labels : ∀ k : String, v.labels[k]? = label t v k

structure Sourced (trace : List (Event σ)) (s : State σ) : Prop where
  reading : ∀ read rest, s.pc = .results read rest → HasRead t trace read
  fresh : ∀ k v, s.localCache.lookup k = some v → Measured t trace v
  kept : ∀ k v, s.prevCache.lookup k = some v → Measured t trace v ∨ ∃ name ∈ s.errorCounts, k = name ++ "_errors"
  counted : ∀ name count, s.errorCounts.lookup name = some count → Configured t name ∧ 0 < count
  plain : (∀ k v, s.prevCache.lookup k = some v → v.labels = ∅) ∧
    ∀ k v, s.localCache.lookup k = some v → v.labels = ∅

variable {t} {trace events : List (Event σ)} {s s' : State σ}

theorem HasRead.append {read : ReadResults} (has : HasRead t trace read) (events : List (Event σ)) :
    HasRead t (trace ++ events) read := by
  obtain ⟨before, after, cancelled, member, result⟩ := has
  exact ⟨before, after, cancelled, List.mem_append_left _ member, result⟩

theorem Measured.append {v : MetricValue} (measured : Measured t trace v) (events : List (Event σ)) :
    Measured t (trace ++ events) v := by
  obtain ⟨m, member, series, read, raw, has, found⟩ := measured
  exact ⟨m, member, series, read, raw, has.append events, found⟩

theorem Measured.stamped {v : MetricValue} (measured : Measured t trace v) (now : SystemTime) :
    Measured t trace { v with updatedAt := now } := measured

theorem lookup_counted (counts : HashMap String Nat) (key name : String) :
    ((counts.orInsert key 0).modify key (· + 1)).lookup name =
      if name = key then some ((counts.lookup key).getD 0 + 1) else counts.lookup name := by
  rw [HashMap.lookup_modify]
  by_cases same : name = key
  · subst same
    simp [HashMap.lookup_orInsert]
  · rw [if_neg same, if_neg same, HashMap.lookup_orInsert, if_neg same]

theorem Sourced.kept_step (sourced : Sourced t trace s) (events : List (Event σ))
    (elsewhere : ∀ read rest, s'.pc ≠ .results read rest) (fresh : s'.localCache = s.localCache)
    (kept : s'.prevCache = s.prevCache) (counted : s'.errorCounts = s.errorCounts) :
    Sourced t (trace ++ events) s' where
  reading read rest place := absurd place (elsewhere read rest)
  fresh := by
    rw [fresh]
    exact fun k v found => (sourced.fresh k v found).append events
  kept := by
    rw [kept, counted]
    exact fun k v found => (sourced.kept k v found).imp_left (·.append events)
  counted := by
    rw [counted]
    exact sourced.counted
  plain := by
    rw [kept, fresh]
    exact sourced.plain

theorem merged_origin {env : Env} (sourced : Sourced t trace s) (counts : CountsExact t trace s)
    (elsewhere : ∀ read rest, s.pc ≠ .results read rest) {k : String} {v : MetricValue}
    (named : v.name = k)
    (found : (mergeCaches env s.prevCache s.localCache s.errorCounts).lookup k = some v) :
    (Measured t trace v ∧ ∀ name ∈ s.errorCounts, k ≠ name ++ "_errors") ∨
      FailuresCounted t trace v ∧ ∃ name ∈ s.errorCounts, k = name ++ "_errors" := by
  by_cases counter : ∃ name ∈ s.errorCounts, k = name ++ "_errors"
  · obtain ⟨name, failing, rfl⟩ := counter
    right
    refine ⟨?_, name, failing, rfl⟩
    obtain ⟨count, stored⟩ := Option.isSome_iff_exists.mp (AList.lookup_isSome.mpr failing)
    obtain ⟨⟨m, member, rfl⟩, positive⟩ := sourced.counted name count stored
    have exactly := counts.counts m.name ⟨m, member, rfl⟩
    rw [tallied, pending_elsewhere elsewhere, stored, Option.getD_some, Nat.add_zero] at exactly
    rw [mergeCaches, lookup_addErrorCounts_errors, stored] at found
    have value := congrArg (·.map (·.value)) found
    simp only [Option.map_some, Option.some.injEq] at value
    exact ⟨m, member, named, exactly ▸ positive, by rw [← exactly, ← value]⟩
  · left
    have apart : ∀ name ∈ s.errorCounts, k ≠ name ++ "_errors" := fun name failing same =>
      counter ⟨name, failing, same⟩
    refine ⟨?_, apart⟩
    rw [mergeCaches, lookup_addErrorCounts apart, lookup_carryForward] at found
    cases here : s.localCache.lookup k with
    | some w =>
        rw [here] at found
        cases found
        exact sourced.fresh k v here
    | none =>
        rw [here, Option.none_or] at found
        obtain ⟨w, there, rfl⟩ := Option.map_eq_some_iff.mp found
        rcases sourced.kept k w there with measured | counted
        · exact measured.stamped env.now
        · exact absurd counted counter

theorem sourced_step (accounts : Accounts t trace s) (sourced : Sourced t trace s) (step : TaskStep t s s' events) :
    Sourced t (trace ++ events) s' := by
  cases step
  case cycle place =>
      refine ⟨fun _ _ => by simp, ?_, ?_, sourced.counted, sourced.plain.1, ?_⟩
      · intro k v found
        simp at found
      · exact fun k v found => (sourced.kept k v found).imp_left (·.append _)
      · intro k v found
        simp at found
  case readDone env read world place done =>
      refine ⟨?_, fun k v found => (sourced.fresh k v found).append _,
        fun k v found => (sourced.kept k v found).imp_left (·.append _), sourced.counted, sourced.plain⟩
      intro read' rest place'
      cases place'
      exact ⟨s.world, world, _, by simp, done⟩
  case ignored read entry rest place unknown =>
      rw [List.append_nil]
      refine ⟨?_, sourced.fresh, sourced.kept, sourced.counted, sourced.plain⟩
      intro read' rest' place'
      cases place'
      exact sourced.reading _ _ place
  case stored env read name raw scaled cfg rest place known =>
      rw [List.append_nil]
      have inserted {k : String} {v : MetricValue}
          (found : (s.localCache.insert name (measured cfg scaled env.now)).lookup k = some v) :
          measured cfg scaled env.now = v ∨ s.localCache.lookup k = some v := by
        rcases HashMap.lookup_insert_cases found with ⟨-, same⟩ | ⟨-, before⟩
        · exact .inl same
        · exact .inr before
      refine ⟨?_, ?_, sourced.kept, sourced.counted, sourced.plain.1, ?_⟩
      · intro read' rest' place'
        cases place'
        exact sourced.reading _ _ place
      · intro k v found
        rcases inserted found with rfl | before
        · obtain ⟨done, all⟩ := accounts.counts.entries _ _ place
          have answered := entry_lookup all
          rw [← known_name known] at answered
          exact ⟨cfg, List.mem_of_find?_eq_some known, rfl, read, raw, sourced.reading _ _ place, answered⟩
        · exact sourced.fresh k v before
      · intro k v found
        rcases inserted found with rfl | before
        · rfl
        · exact sourced.plain.2 k v before
  case errorCounted read name e cfg rest place known connected =>
      rw [List.append_nil]
      refine ⟨?_, sourced.fresh, ?_, ?_, sourced.plain⟩
      · intro read' rest' place'
        cases place'
        exact sourced.reading _ _ place
      · intro k v found
        refine (sourced.kept k v found).imp_right ?_
        rintro ⟨other, failing, rfl⟩
        refine ⟨other, ?_, rfl⟩
        rw [← AList.lookup_isSome] at failing ⊢
        rw [lookup_counted]
        split_ifs
        · rfl
        · exact failing
      · intro other count stored
        rw [lookup_counted] at stored
        split_ifs at stored with same
        · cases stored
          subst same
          exact ⟨configured_of_known known, Nat.succ_pos _⟩
        · exact sourced.counted other count stored
  case published env read place =>
      have elsewhere : ∀ read rest, s.pc ≠ .results read rest := by simp [place]
      have named : Named (mergeCaches env s.prevCache s.localCache s.errorCounts) :=
        named_mergeCaches accounts.named.1 accounts.named.2
      refine ⟨by simp [publishStep], fun k v found => (sourced.fresh k v found).append _, ?_, sourced.counted, ?_,
        sourced.plain.2⟩
      · intro k v found
        rcases merged_origin sourced accounts.counts elsewhere (named k v found) found with ⟨measured, -⟩ | ⟨-, counter⟩
        · exact .inl (measured.append _)
        · exact .inr counter
      · have stamped : ∀ (k : String) (v : MetricValue) (value : Float) (now : SystemTime), v.labels = ∅ →
            ({ v with value, updatedAt := now } : MetricValue).labels = ∅ := fun _ _ _ _ plain => plain
        have counter : ∀ (name : String) (count : Nat) (now : SystemTime), (errorCounter now name count).labels = ∅ :=
          fun _ _ _ => rfl
        exact mergeCaches_all stamped counter sourced.plain.1 sourced.plain.2
  case connected | reconnected =>
      refine sourced.kept_step _ ?_ rfl rfl rfl
      simp only [State.afterConnect]
      split_ifs <;> simp
  case proceed | prePollFailed =>
      refine sourced.kept_step _ ?_ rfl rfl rfl
      simp only
      split_ifs <;> simp
  all_goals exact sourced.kept_step _ (by simp [State.stop]) rfl rfl rfl

theorem sourced_run {world : σ} {internalMetrics : Bool}
    (run : (machine t).Run (start t world internalMetrics) trace s) : Sourced t trace s := by
  refine run.invariant (P := Sourced t) ?_ ?_
  · refine ⟨?_, by simp [start], by simp [start], by simp [start], by simp [start]⟩
    intro read rest place
    cases place
  · intro trace s input s' events previous before action
    rcases step_cases t action with own | ⟨rfl, others⟩
    · exact sourced_step (accounts previous) before own
    · obtain ⟨shutdown, senderDropped, store, internal, rfl⟩ := others.frame
      rw [List.append_nil]
      exact ⟨before.reading, before.fresh, before.kept, before.counted, before.plain⟩

theorem published_origin {world : σ} {internalMetrics : Bool} {before after : List (Event σ)}
    {snapshot : List MetricValue}
    (run : (machine t).Run (start t world internalMetrics) (before ++ .publish snapshot :: after) s) :
    ∀ v ∈ snapshot, Origin t before v := by
  obtain ⟨trace, state, state', first, rest, previous, step, split⟩ := run_emitted run
  have counts := accounts previous
  have sources := sourced_run previous
  obtain ⟨rfl, ⟨read, place⟩, env, rfl, events⟩ := publish_cases step rfl
  obtain rfl : before = trace := by rw [split, List.append_nil]
  obtain ⟨published, rfl⟩ := List.cons.inj events
  intro v member
  rw [Event.publish.inj published] at member
  obtain ⟨v₀, inside, rfl⟩ := MetricStore.mem_snapshot (MetricStore.metricsFor_publish .. ▸ member)
  obtain ⟨e, walked, rfl⟩ := List.mem_map.mp inside
  have cached := HashMap.mem_iter.mp walked
  have elsewhere : ∀ read rest, state.pc ≠ .results read rest := by simp [place]
  have named : e.2.name = e.1 := named_mergeCaches counts.named.1 counts.named.2 e.1 e.2 cached
  constructor
  · rcases merged_origin sources counts.counts elsewhere named cached with ⟨measured, -⟩ | ⟨counted, -⟩
    · exact .inl measured
    · exact .inr counted
  · have plain : e.2.labels = ∅ := (sourced_step counts sources step).plain.1 e.1 e.2 cached
    intro k
    rw [MetricStore.getElem?_withLabels, plain, MetricStore.getElem?_baseLabels, MetricStore.getElem?_collected,
      Std.TreeMap.getElem?_emptyc, Option.none_or]
    rfl

end BusExporter.Collector

namespace BusExporter.Daemon
open Lib Config

variable {n : Nat} {σ : Fin n → Type} {config : Config} {t : ∀ i, Collector.Task (σ i)} {worlds : ∀ i, σ i}
  {startTime : Internal.Instant} {trace : List (Event σ)} {s s' : System σ} {input : Input n}
  {events : List (Event σ)}

def walkOf (walker : Walker) : Event σ → Option (List (Σ _ : String, List MetricValue))
  | .walked other parts => if other = walker then some parts else none
  | _ => none

def lastWalk (walker : Walker) (trace : List (Event σ)) : Option (List (Σ _ : String, List MetricValue)) :=
  (trace.filterMap (walkOf walker)).getLast?

def Among (parts : List (Σ _ : String, List MetricValue)) (v : MetricValue) : Prop := ∃ e ∈ parts, v ∈ e.2

inductive Holds (s : System σ) : Walker → MetricValue → Prop
  | scrape {id : Nat} {store : MetricStore} {v : MetricValue} (place : s.handlers.lookup id = some (.walked store))
      (found : Among store.entries v) : Holds s (.scrape id) v
  | otlp {own : Otlp.State} {metrics : List MetricValue} {v : MetricValue} (present : s.otlp = some own)
      (held : own.pc.held = some metrics) (member : v ∈ metrics) : Holds s .otlp v
  | mqtt {own : Mqtt.State} {v : MetricValue} (present : s.mqtt = some own) (held : v ∈ own.pc.held) : Holds s .mqtt v

/-- The values that an event takes out of the process. -/
inductive Carries : Event σ → Walker → MetricValue → Prop
  | page {id : Nat} {page : Page} {v : MetricValue} (shown : Among page.store.entries v) :
      Carries (.response id page) (.scrape id) v
  | round {metrics : List MetricValue} {v : MetricValue} (member : v ∈ metrics) :
      Carries (.otlp (.shared metrics)) .otlp v
  | message {v : MetricValue} {message : Mqtt.Message} {accepted : Bool} :
      Carries (.mqtt (.published v message accepted)) .mqtt v

theorem lastWalk_append (walker : Walker) (trace : List (Event σ)) {events : List (Event σ)}
    (quiet : events.filterMap (walkOf walker) = []) : lastWalk walker (trace ++ events) = lastWalk walker trace := by
  rw [lastWalk, List.filterMap_append, quiet, List.append_nil, lastWalk]

theorem lastWalk_walked (walker : Walker) (trace : List (Event σ)) {events : List (Event σ)}
    {parts : List (Σ _ : String, List MetricValue)} (walks : events.filterMap (walkOf walker) = [parts]) :
    lastWalk walker (trace ++ events) = some parts := by
  rw [lastWalk, List.filterMap_append, walks, List.getLast?_concat]

theorem among_toAList {parts : List (Σ _ : String, List MetricValue)} {v : MetricValue}
    (found : Among parts.toAList.entries v) : Among parts v := by
  obtain ⟨e, member, inside⟩ := found
  have held : parts.toAList.lookup e.1 = some e.2 := AList.mem_lookup_iff.mpr member
  rw [AList.lookup_to_alist] at held
  exact ⟨e, List.of_mem_dlookup held, inside⟩

theorem among_flat {parts : List (Σ _ : String, List MetricValue)} {order : RandomState} {v : MetricValue}
    (found : v ∈ MetricStore.allMetricsFlat order parts.toAList) : Among parts v := by
  obtain ⟨e, member, inside⟩ := List.mem_flatMap.mp found
  exact among_toAList ⟨e, (HashMap.iter_perm order parts.toAList).subset member, inside⟩

theorem holds_origin (step : Step config t s input s' events) {walker : Walker} {v : MetricValue}
    (holds : Holds s' walker v) :
    (events.filterMap (walkOf walker) = [] ∧ Holds s walker v) ∨
      ∃ parts, events.filterMap (walkOf walker) = [parts] ∧ Among parts v := by
  have quiet (silent : events.filterMap (walkOf walker) = []) (handlers : s'.handlers = s.handlers)
      (otlp : s'.otlp = s.otlp) (mqtt : s'.mqtt = s.mqtt) :
      events.filterMap (walkOf walker) = [] ∧ Holds s walker v := by
    refine ⟨silent, ?_⟩
    cases holds with
    | scrape place found => exact .scrape (handlers ▸ place) found
    | otlp present held member => exact .otlp (otlp ▸ present) held member
    | mqtt present held => exact .mqtt (mqtt ▸ present) held
  have entering {id : Nat} {handler : Handler} (handlers : s'.handlers = s.handlers.insert id handler)
      (unwalked : ∀ store, handler ≠ .walked store) (otlp : s'.otlp = s.otlp) (mqtt : s'.mqtt = s.mqtt) :
      Holds s walker v := by
    cases holds with
    | scrape place found =>
        rw [handlers] at place
        rcases HashMap.lookup_insert_cases place with ⟨-, same⟩ | ⟨-, before⟩
        · exact absurd same (unwalked _)
        · exact .scrape before found
    | otlp present held member => exact .otlp (otlp ▸ present) held member
    | mqtt present held => exact .mqtt (mqtt ▸ present) held
  cases step
  case cancelled place =>
      refine .inl ⟨rfl, ?_⟩
      cases holds with
      | scrape place found => exact .scrape place found
      | otlp present held member => exact .otlp present held member
      | mqtt present held =>
          obtain ⟨own, before, rfl⟩ := Option.map_eq_some_iff.mp present
          exact .mqtt before held
  case accepted place => exact .inl ⟨rfl, entering rfl (by simp) rfl rfl⟩
  case counted id stats now place => exact .inl ⟨rfl, entering rfl (by simp) rfl rfl⟩
  case scraped id stats now w place walking done =>
      cases holds with
      | scrape holding found =>
          rcases HashMap.lookup_insert_cases holding with ⟨rfl, same⟩ | ⟨other, before⟩
          · cases same
            exact .inr ⟨w.collected, by simp [walkOf], among_toAList found⟩
          · exact .inl ⟨by simp [walkOf, Ne.symm other], .scrape before found⟩
      | otlp present held member => exact .inl ⟨by simp [walkOf], .otlp present held member⟩
      | mqtt present held => exact .inl ⟨by simp [walkOf], .mqtt present held⟩
  case responded id stats now store place =>
      refine .inl ⟨rfl, ?_⟩
      cases holds with
      | scrape place found => exact .scrape (HashMap.lookup_erase_cases place).2 found
      | otlp present held member => exact .otlp present held member
      | mqtt present held => exact .mqtt present held
  case collector i env next own action => exact .inl (quiet (by simp [List.filterMap_map, walkOf]) rfl rfl rfl)
  case otlp otlp env own next shown given present elsewhere requested action =>
      refine .inl ⟨by simp [List.filterMap_map, walkOf], ?_⟩
      cases holds with
      | scrape place found => exact .scrape place found
      | otlp present' held member =>
          cases present'
          cases Otlp.turn_of_taskStep action with
          | begins place => exact absurd place (elsewhere _)
          | shares _ shared =>
              rw [shared] at held
              cases held
          | keeps _ kept => exact .otlp present (kept ▸ held) member
      | mqtt present held => exact .mqtt present held
  case otlpWalked otlp env own next shown flush w given present place walking done action =>
      have walks (other : Walker) : (Event.walked .otlp w.collected :: shown.map (Event.otlp (σ := σ))).filterMap
          (walkOf other) = if .otlp = other then [w.collected] else [] := by
        split_ifs with same <;> simp [List.filterMap_map, walkOf, same]
      rw [walks]
      cases holds with
      | scrape place found => exact .inl ⟨by simp, .scrape place found⟩
      | otlp present' held member =>
          cases present'
          cases Otlp.turn_of_taskStep action with
          | begins _ _ found =>
              rcases found with ⟨none, -⟩ | found
              · rw [none] at held
                cases held
              · cases found.symm.trans held
                exact .inr ⟨w.collected, by simp, among_flat member⟩
          | shares _ shared =>
              rw [shared] at held
              cases held
          | keeps elsewhere => exact absurd place (elsewhere flush)
      | mqtt present held => exact .inl ⟨by simp, .mqtt present held⟩
  case mqtt mqtt input own next shown given present elsewhere alone free action =>
      refine .inl ⟨by simp [List.filterMap_map, walkOf], ?_⟩
      cases holds with
      | scrape place found => exact .scrape place found
      | otlp present held member => exact .otlp present held member
      | mqtt present' held =>
          cases present'
          cases Mqtt.turn_of_step action with
          | begins main place woken => exact absurd woken (elsewhere _ _ main place)
          | sends place place' =>
              rw [place'] at held
              exact .mqtt present (by rw [place]; exact List.mem_cons_of_mem _ held)
          | finishes _ idle => exact absurd held (idle.held ▸ List.not_mem_nil)
          | watches same => exact .mqtt present (same ▸ held)
          | apart _ idle => exact absurd held (idle.held ▸ List.not_mem_nil)
  case mqttWalked mqtt env own next shown options w given present place woken walking done action =>
      have walks (other : Walker) : (Event.walked .mqtt w.collected :: shown.map (Event.mqtt (σ := σ))).filterMap
          (walkOf other) = if .mqtt = other then [w.collected] else [] := by
        split_ifs with same <;> simp [List.filterMap_map, walkOf, same]
      rw [walks]
      cases holds with
      | scrape place found => exact .inl ⟨by simp, .scrape place found⟩
      | otlp present held member => exact .inl ⟨by simp, .otlp present held member⟩
      | mqtt present' held =>
          cases present'
          have taken := Mqtt.snapshot_taken place action woken
          rw [taken.1] at held
          exact .inr ⟨w.collected, by simp, among_flat held⟩
  all_goals exact .inl (quiet rfl rfl rfl rfl)

theorem held_run (run : (machine config t).Run (spawned config t worlds startTime) trace s) :
    ∀ walker v, Holds s walker v → ∃ parts, lastWalk walker trace = some parts ∧ Among parts v := by
  refine run.invariant (P := fun trace s => ∀ walker v, Holds s walker v →
    ∃ parts, lastWalk walker trace = some parts ∧ Among parts v) ?_ ?_
  · intro walker v holds
    cases holds with
    | scrape place found => cases place
    | otlp present held =>
        simp only [spawned] at present
        obtain ⟨exporter, -, rfl⟩ := Option.map_eq_some_iff.mp present
        cases held
    | mqtt present held =>
        simp only [spawned] at present
        obtain ⟨exporter, -, rfl⟩ := Option.map_eq_some_iff.mp present
        cases held
  · intro trace s input s' events previous before action walker v holds
    rcases holds_origin (step_cases action) holds with ⟨quiet, held⟩ | ⟨parts, walks, found⟩
    · rw [lastWalk_append walker trace quiet]
      exact before walker v held
    · exact ⟨parts, lastWalk_walked walker trace walks, found⟩

theorem shared_cases {first last : List (Event σ)} {metrics : List MetricValue}
    (step : Step config t s input s' (first ++ .otlp (.shared metrics) :: last)) :
    first = [] ∧ ∃ own, s.otlp = some own ∧ own.pc.held = some metrics := by
  generalize whole : first ++ .otlp (.shared metrics) :: last = events at step
  have member : .otlp (.shared metrics) ∈ events := by simp [← whole]
  cases step
  case otlp otlp env own next sent given present elsewhere requested action =>
      obtain ⟨_, sending, same⟩ := List.mem_map.mp member
      cases same
      cases Otlp.turn_of_taskStep action with
      | begins place => exact absurd place (elsewhere _)
      | shares held _ shared =>
          subst shared
          cases List.mem_singleton.mp sending
          refine ⟨?_, own, present, held⟩
          cases first with
          | nil => rfl
          | cons head rest => simp at whole
      | keeps _ _ unshared => exact absurd sending (unshared _)
  case otlpWalked otlp env own next sent flush w given present place walking done action =>
      cases Otlp.turn_of_taskStep action with
      | begins _ silent => simp [silent] at member
      | shares held =>
          simp only [place] at held
          cases held
      | keeps elsewhere => exact absurd place (elsewhere flush)
  all_goals simp at member

theorem sent_cases {first last : List (Event σ)} {v : MetricValue} {message : Mqtt.Message} {accepted : Bool}
    (step : Step config t s input s' (first ++ .mqtt (.published v message accepted) :: last)) :
    first = [] ∧ ∃ own, s.mqtt = some own ∧ v ∈ own.pc.held := by
  generalize whole : first ++ .mqtt (.published v message accepted) :: last = events at step
  have member : .mqtt (.published v message accepted) ∈ events := by simp [← whole]
  cases step
  case mqtt mqtt input own next sent given present elsewhere alone free action =>
      obtain ⟨_, sending, same⟩ := List.mem_map.mp member
      cases same
      cases Mqtt.turn_of_step action with
      | begins main place woken => exact absurd woken (elsewhere _ _ main place)
      | sends place _ publication =>
          subst publication
          cases List.mem_singleton.mp sending
          refine ⟨?_, own, present, by rw [place]; exact List.mem_cons_self⟩
          cases first with
          | nil => rfl
          | cons head rest => simp at whole
      | finishes _ _ silent => simp [silent] at sending
      | watches _ reported => rcases reported _ sending with same | same <;> cases same
      | apart _ _ unsent => exact absurd sending (unsent _ _ _)
  case mqttWalked mqtt env own next sent options w given present place woken walking done action =>
      obtain ⟨-, rfl⟩ := Mqtt.snapshot_taken place action woken
      simp at member
  all_goals simp at member

theorem carried_held {first last : List (Event σ)} {e : Event σ} {walker : Walker} {v : MetricValue}
    (step : Step config t s input s' (first ++ e :: last)) (carries : Carries e walker v) :
    first = [] ∧ Holds s walker v := by
  cases carries with
  | page shown =>
      obtain ⟨place, -, rfl, -⟩ := responded_cases step
      exact ⟨rfl, .scrape place shown⟩
  | round inside =>
      obtain ⟨rfl, own, present, held⟩ := shared_cases step
      exact ⟨rfl, .otlp present held inside⟩
  | message =>
      obtain ⟨rfl, own, present, held⟩ := sent_cases step
      exact ⟨rfl, .mqtt present held⟩

theorem walkOf_walked {walker : Walker} {e : Event σ} {parts : List (Σ _ : String, List MetricValue)}
    (walks : walkOf walker e = some parts) : e = .walked walker parts := by
  cases e with
  | walked other found =>
      simp only [walkOf] at walks
      split_ifs at walks with same
      cases walks
      rw [same]
  | _ => cases walks

theorem published_event {i : Fin n} {e : Event σ} {snapshot : List MetricValue}
    (shown : published i e = some snapshot) :
    e = .collector i (.publish snapshot) := by
  cases e with
  | collector j own =>
      cases own with
      | publish found =>
          simp only [published] at shown
          split_ifs at shown with same
          cases shown
          subst same
          rfl
      | _ => cases shown
  | _ => cases shown

theorem latest_moment {i : Fin n} {snapshot : List MetricValue} (last : latest i trace = some snapshot) :
    ∃ past future, trace = past ++ .collector i (.publish snapshot) :: future := by
  obtain ⟨past, e, future, rfl, shown, -⟩ := Lib.filterMap_getLast last
  exact ⟨past, future, by rw [published_event shown]⟩

/-- A value of the store that leaves the process (the exporter's own metrics are none) was found on the last walk of
the store by the scrape or the exporter that sends it, in what its collector had published last at one moment of that
walk; and the collector had by then read the value from its device, or counted it. -/
theorem carried_origin (valid : config.validate = .ok ()) (spawns : Spawns config t) {before after : List (Event σ)}
    {e : Event σ} {walker : Walker} {v : MetricValue}
    (run : (machine config t).Run (spawned config t worlds startTime) (before ++ e :: after) s)
    (carries : Carries e walker v) :
    ∃ earlier during parts later,
      before = earlier ++ .walkStarted walker :: (during ++ .walked walker parts :: later) ∧
      later.filterMap (walkOf walker) = [] ∧
      ∃ i sofar rest snapshot, during = sofar ++ rest ∧ latest i (earlier ++ sofar) = some snapshot ∧ v ∈ snapshot ∧
        ∃ past future, earlier ++ sofar = past ++ .collector i (.publish snapshot) :: future ∧
          Collector.Origin (t i) (past.filterMap (ofCollector i)) v := by
  have distinct := spawns.distinct valid
  obtain ⟨trace, state, input, state', first, last, previous, action, rfl⟩ := run.emitted rfl
  obtain ⟨rfl, holds⟩ := carried_held (step_cases action) carries
  obtain ⟨parts, walks, ⟨name, snapshot⟩, entry, inside⟩ := held_run previous walker v holds
  obtain ⟨walk, e', later, rfl, shown, silent⟩ := Lib.filterMap_getLast walks
  obtain rfl := walkOf_walked shown
  obtain ⟨earlier, during, rfl, moments⟩ := walked_latest distinct previous
  refine ⟨earlier, during, parts, later, by simp, silent, ?_⟩
  have whole := store_run previous
  have seen : ofStore t (.walked walker parts) = some (.walked walker parts) := rfl
  rw [List.filterMap_append, List.filterMap_cons_some seen] at whole
  obtain ⟨nodup, inserted⟩ := SharedMap.walked_inserted whole rfl
  obtain ⟨e₀, -, update⟩ := List.mem_filterMap.mp (inserted ⟨name, snapshot⟩ entry)
  obtain ⟨i, rfl, -⟩ := ofStore_inserted update
  obtain ⟨sofar, rest, rfl, got⟩ := moments i
  have held : parts.dlookup (t i).collector.name = some snapshot := List.mem_dlookup nodup entry
  rw [got] at held
  obtain ⟨past, future, split⟩ := latest_moment held
  refine ⟨i, sofar, rest, snapshot, rfl, held, inside, past, future, split, ?_⟩
  have alone := collector_run distinct previous i
  have own : ofCollector i (.collector i (.publish snapshot)) = some (.publish snapshot : Collector.Event (σ i)) := by
    simp [ofCollector]
  have unseen : ofCollector i (.walkStarted walker : Event σ) = none := rfl
  have regrouped : (earlier ++ .walkStarted walker :: (sofar ++ rest) ++ .walked walker parts :: later).filterMap
      (ofCollector i) = (earlier ++ sofar).filterMap (ofCollector i) ++
        (rest ++ .walked walker parts :: later).filterMap (ofCollector i) := by
    simp only [List.filterMap_append, List.filterMap_cons_none unseen, List.append_assoc]
  rw [regrouped, split, List.filterMap_append, List.filterMap_cons_some own, List.append_assoc,
    List.cons_append] at alone
  exact Collector.published_origin alone v inside

theorem carried_origin_plant :
    ∃ (past future : List (Event fun _ : Fin 1 => Collector.Script)) (snapshot rest : List MetricValue)
        (v : MetricValue),
      Carries (.otlp (.shared (v :: rest)) : Event fun _ : Fin 1 => Collector.Script) .otlp v ∧ v ∈ snapshot ∧
        latest ⟨0, Nat.one_pos⟩ (past ++ .collector ⟨0, Nat.one_pos⟩ (.publish snapshot) :: future) = some snapshot ∧
        Collector.Origin (plantTask ⟨0, Nat.one_pos⟩) (past.filterMap (ofCollector ⟨0, Nat.one_pos⟩)) v := by
  have executed : ∃ e₁ e₂ e₃ e₄ e₅ e₆ e₇ e₈ e₉ e₁₀ e₁₁ e₁₂ v rest last s,
      (machine plantConfig plantTask).exec plantStart plantDay =
        some ([e₁, e₂, e₃, e₄, e₅, e₆, e₇, e₈, e₉, e₁₀, e₁₁, e₁₂] ++ .otlp (.shared (v :: rest)) :: last, s) :=
    ⟨_, _, _, _, _, _, _, _, _, _, _, _, _, _, _, _, rfl⟩
  obtain ⟨e₁, e₂, e₃, e₄, e₅, e₆, e₇, e₈, e₉, e₁₀, e₁₁, e₁₂, v, rest, last, s, executed⟩ := executed
  have carries : Carries (.otlp (.shared (v :: rest)) : Event fun _ : Fin 1 => Collector.Script) .otlp v :=
    .round List.mem_cons_self
  obtain ⟨earlier, during, parts, later, -, -, i, sofar, unwalked, snapshot, -, held, inside, past, future, split,
    origin⟩ := carried_origin plant_valid plant_spawns (Machine.exec_run executed) carries
  obtain rfl : i = ⟨0, Nat.one_pos⟩ := Subsingleton.elim _ _
  rw [split] at held
  exact ⟨past, future, snapshot, rest, v, carries, inside, held, origin⟩

end BusExporter.Daemon
