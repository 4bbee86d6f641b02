import BusExporter.Proof.ErrorSeries
import BusExporter.Proof.PollCounts

/-! The order in which a poll cycle walks its hash maps has no effect. A run of the cycle is followed through
views of the state, in which maps are functions and times are left out. -/

namespace BusExporter.Collector
open Lib Config

variable {σ : Type} (t : Task σ)

def Pc.ends : Pc → Bool
  | .endWait | .skipWait | .reconnect | .returned _ | .panicked _ => true
  | _ => false

inductive PollCycle : State σ → State σ → Prop
  | ended {s : State σ} (ends : s.pc.ends = true) : PollCycle s s
  | step {env : Env} {s next s' : State σ} {events : List (Event σ)} (within : s.pc.ends = false)
      (action : taskStep t env s = some (next, events)) (rest : PollCycle next s') : PollCycle s s'

def pollCycle : List Env → State σ → Option (State σ)
  | [], s => if s.pc.ends then some s else none
  | env :: envs, s => if s.pc.ends then none else (taskStep t env s).bind fun next => pollCycle envs next.1

variable {t} in
theorem pollCycle_run {envs : List Env} {s s' : State σ} (run : pollCycle t envs s = some s') :
    PollCycle t s s' := by
  induction envs generalizing s with
  | nil =>
      simp only [pollCycle] at run
      split_ifs at run with ends
      cases run
      exact .ended ends
  | cons env envs ih =>
      simp only [pollCycle] at run
      split_ifs at run with ends
      obtain ⟨⟨next, events⟩, action, rest⟩ := Option.bind_eq_some_iff.mp run
      exact .step (by simpa using ends) action (ih rest)

def untimed (v : MetricValue) : MetricValue := { v with updatedAt := 0 }

def timeless (stats : CollectorStats) : CollectorStats := { stats with lastPollDurationSecs := 0 }

def counters (s : State σ) : Option (String → CollectorStats) :=
  s.internal.map fun im name => timeless (im.statsOf name)

structure View (σ : Type) where
  frame : State σ
  prevCache : String → Option MetricValue
  localCache : String → Option MetricValue
  errorCounts : String → Option Nat
  counters : Option (String → CollectorStats)

def view (s : State σ) : View σ where
  frame := { s with pc := .cycleStart, prevCache := ∅, errorCounts := ∅, localCache := ∅, internal := none }
  prevCache k := (s.prevCache.lookup k).map untimed
  localCache k := (s.localCache.lookup k).map untimed
  errorCounts name := s.errorCounts.lookup name
  counters := counters s

namespace View
variable (v : View σ)

def recount (f : CollectorStats → CollectorStats) : View σ :=
  { v with counters := v.counters.map fun c => Function.update c t.collector.name (f (c t.collector.name)) }

def failed : View σ := { v with frame := { v.frame with pollHadError := true } }

def measured (cfg : MetricConfig) (name : String) (scaled : Float) : View σ :=
  { v with localCache := Function.update v.localCache name (some (Collector.measured cfg scaled 0)) }

def errorCounted (name : String) : View σ :=
  { v with errorCounts := Function.update v.errorCounts name (some ((v.errorCounts name).getD 0 + 1)) }

def moreErrors (stats : CollectorStats) : CollectorStats := { stats with readErrors := stats.readErrors + 1 }

def settle (entry : ReadEntry) : View σ :=
  match t.collector.metrics.find? (·.name = entry.1) with
  | none => v
  | some cfg =>
      match entry.2 with
      | .ok (_, scaled) => v.measured cfg entry.1 scaled
      | .error _ => ((v.recount t moreErrors).failed).errorCounted entry.1

def unmeasured : View σ := { v with localCache := fun _ => none }

theorem recount_unmeasured (f : CollectorStats → CollectorStats) :
    (v.recount t f).unmeasured = v.unmeasured.recount t f := rfl

end View

variable {t}

theorem counters_count (s : State σ) {f g : CollectorStats → CollectorStats}
    (blind : ∀ stats, timeless (f stats) = g (timeless stats)) :
    view (s.count t f) = (view s).recount t g := by
  cases enabled : s.internal with
  | none => simp [view, counters, View.recount, State.count, enabled]
  | some im =>
      have frame : (view (s.count t f)).frame = (view s).frame := rfl
      simp only [view, counters, View.recount, State.count, enabled, Option.map_some]
      congr 2
      funext name
      by_cases same : name = t.collector.name
      · subst same
        rw [Function.update_self, stats_updateCollector, blind]
      · rw [Function.update_of_ne same, InternalMetrics.statsOf, InternalMetrics.updateCollector,
          HashMap.lookup_modify, if_neg same, HashMap.lookup_orInsert, if_neg same]
        rfl

theorem view_measured (s : State σ) (cfg : MetricConfig) (name : String) (scaled : Float)
    (now : SystemTime) :
    view { s with localCache := s.localCache.insert name (measured cfg scaled now) } =
      (view s).measured cfg name scaled := by
  simp only [view, View.measured]
  congr 1
  funext k
  by_cases same : k = name
  · subst same
    rw [Function.update_self, AList.lookup_insert]
    rfl
  · rw [Function.update_of_ne same, AList.lookup_insert_ne same]

theorem view_errorCounted (s : State σ) (name : String) :
    view { s with errorCounts := (s.errorCounts.orInsert name 0).modify name (· + 1) } =
      (view s).errorCounted name := by
  simp only [view, View.errorCounted]
  congr 1
  funext k
  rw [HashMap.lookup_modify]
  by_cases same : k = name
  · subst same
    rw [Function.update_self, if_pos rfl, HashMap.lookup_orInsert, if_pos rfl]
    rfl
  · rw [Function.update_of_ne same, if_neg same, HashMap.lookup_orInsert, if_neg same]

theorem view_entry {s : State σ} {entry : ReadEntry} (env : Env) (read : ReadResults) (rest : List ReadEntry)
    (stays : t.reader.isConnected s.world = true ∨ ¬FailedEntry t [entry]) :
    view (resultStep t env s read entry rest) = (view s).settle t entry ∧
      (resultStep t env s read entry rest).pc = .results read rest := by
  obtain ⟨name, outcome⟩ := entry
  unfold resultStep View.settle
  cases known : t.collector.metrics.find? (·.name = name) with
  | none => exact ⟨rfl, rfl⟩
  | some cfg =>
      cases outcome with
      | ok value => exact ⟨view_measured s cfg name value.2 env.now, rfl⟩
      | error e =>
          have connected : t.reader.isConnected s.world = true := by
            refine stays.resolve_right ?_
            rw [not_not]
            exact ⟨name, e, List.mem_singleton_self _, configured_of_known known⟩
          simp only [State.count, connected, if_true, and_true]
          have counted := counters_count (t := t) s (f := View.moreErrors) (g := View.moreErrors) fun _ => rfl
          rw [← counted]
          exact view_errorCounted { s.count t View.moreErrors with pollHadError := true } name

theorem settle_comm (v : View σ) {a b : ReadEntry} (apart : a.1 ≠ b.1) :
    (v.settle t a).settle t b = (v.settle t b).settle t a := by
  obtain ⟨first, outcome⟩ := a
  obtain ⟨second, outcome'⟩ := b
  simp only at apart
  simp only [View.settle]
  cases t.collector.metrics.find? (·.name = first) <;> cases t.collector.metrics.find? (·.name = second) <;>
    cases outcome <;> cases outcome' <;>
      simp [View.measured, View.errorCounted, View.recount, View.failed, Function.update_comm apart,
        Function.update_of_ne apart, Function.update_of_ne apart.symm, Function.comp_def, View.moreErrors]

theorem settle_perm {rest rest' : List ReadEntry} (same : rest.Perm rest') (nodup : rest.NodupKeys)
    (v : View σ) : rest.foldl (View.settle t) v = rest'.foldl (View.settle t) v := by
  refine same.foldl_eq' ?_ v
  intro a first b second w
  by_cases apart : a.1 = b.1
  · rw [List.NodupKeys.eq_of_fst_eq nodup first second apart]
  · exact settle_comm w apart

theorem settle_unmeasured (v : View σ) {entry : ReadEntry} (fine : ¬FailedEntry t [entry]) :
    (v.settle t entry).unmeasured = v.unmeasured := by
  obtain ⟨name, outcome⟩ := entry
  unfold View.settle
  cases known : t.collector.metrics.find? (·.name = name) with
  | none => rfl
  | some cfg =>
      cases outcome with
      | ok value => rfl
      | error e => exact absurd ⟨name, e, List.mem_singleton_self _, configured_of_known known⟩ fine

theorem PollCycle.next {s s' : State σ} (cycle : PollCycle t s s') (within : s.pc.ends = false) :
    ∃ env next events, taskStep t env s = some (next, events) ∧ PollCycle t next s' := by
  cases cycle with
  | ended ends => exact absurd (within.symm.trans ends) (by simp)
  | step _ action rest => exact ⟨_, _, _, action, rest⟩

theorem PollCycle.over {s s' : State σ} (cycle : PollCycle t s s') (ends : s.pc.ends = true) : s' = s := by
  cases cycle with
  | ended _ => rfl
  | step within _ _ => exact absurd (ends.symm.trans within) (by simp)

theorem PollCycle.entry {s s' : State σ} (cycle : PollCycle t s s') {read : ReadResults}
    {entry : ReadEntry} {rest : List ReadEntry} (place : s.pc = .results read (entry :: rest)) :
    ∃ env, PollCycle t (resultStep t env s read entry rest) s' := by
  obtain ⟨env, next, events, action, later⟩ := cycle.next (by rw [place]; rfl)
  simp only [taskStep, place] at action
  cases action
  exact ⟨env, later⟩

def NamedCaches (s : State σ) : Prop := Named s.prevCache ∧ Named s.localCache

theorem world_entry (env : Env) (s : State σ) (read : ReadResults) (entry : ReadEntry) (rest : List ReadEntry) :
    (resultStep t env s read entry rest).world = s.world := by
  unfold resultStep
  cases t.collector.metrics.find? (·.name = entry.1) with
  | none => rfl
  | some cfg =>
      cases entry.2 with
      | ok value => rfl
      | error e =>
          cases connection : t.reader.isConnected s.world <;> simp [State.count, connection]

theorem view_lost {s : State σ} {name : String} (env : Env) (read : ReadResults) (rest : List ReadEntry) (e : Error)
    (configured : Configured t name) (lost : t.reader.isConnected s.world = false) :
    (resultStep t env s read ⟨name, .error e⟩ rest).pc = .abort read ∧
      view (resultStep t env s read ⟨name, .error e⟩ rest) = ((view s).recount t View.moreErrors).failed := by
  unfold resultStep
  cases known : t.collector.metrics.find? (·.name = name) with
  | none => exact absurd configured (not_configured_of_unknown known)
  | some cfg =>
      simp only [State.count, lost, Bool.false_eq_true, if_false, true_and]
      rw [← counters_count s (f := View.moreErrors) fun _ => rfl]
      rfl

theorem failedEntry_cons {entry : ReadEntry} {rest : List ReadEntry} :
    FailedEntry t (entry :: rest) ↔ FailedEntry t [entry] ∨ FailedEntry t rest := by
  simp only [FailedEntry, List.mem_cons, List.not_mem_nil, or_false, or_and_right, exists_or]

theorem PollCycle.settled {s s' : State σ} (cycle : PollCycle t s s') {read : ReadResults}
    {rest : List ReadEntry} (place : s.pc = .results read rest)
    (stays : t.reader.isConnected s.world = true ∨ ¬FailedEntry t rest) :
    ∃ e, e.pc = .results read [] ∧ view e = rest.foldl (View.settle t) (view s) ∧
      (NamedCaches s → NamedCaches e) ∧ PollCycle t e s' := by
  induction rest generalizing s with
  | nil => exact ⟨s, place, rfl, id, cycle⟩
  | cons entry rest ih =>
      obtain ⟨env, later⟩ := cycle.entry place
      rw [failedEntry_cons, not_or] at stays
      obtain ⟨viewed, place'⟩ := view_entry env read rest (stays.imp_right And.left)
      obtain ⟨e, ended, views, named, finish⟩ := ih later place' (by
        rw [world_entry]
        exact stays.imp_right And.right)
      refine ⟨e, ended, by rw [views, viewed, List.foldl_cons], ?_, finish⟩
      intro before
      exact named (named_step before (resultStep_cases t place))

theorem PollCycle.lost {s s' : State σ} (cycle : PollCycle t s s') {read : ReadResults}
    {rest : List ReadEntry} (place : s.pc = .results read rest)
    (lost : t.reader.isConnected s.world = false) (fails : FailedEntry t rest) :
    ∃ e, e.pc = .abort read ∧ (view e).unmeasured = ((view s).unmeasured.recount t View.moreErrors).failed ∧
      PollCycle t e s' := by
  induction rest generalizing s with
  | nil =>
      obtain ⟨name, e, member, configured⟩ := fails
      cases member
  | cons entry rest ih =>
      obtain ⟨env, later⟩ := cycle.entry place
      by_cases here : FailedEntry t [entry]
      · obtain ⟨name, e, member, configured⟩ := here
        obtain rfl := List.mem_singleton.mp member
        obtain ⟨aborted, viewed⟩ := view_lost env read rest e configured lost
        exact ⟨_, aborted, congrArg View.unmeasured viewed, later⟩
      · obtain ⟨viewed, place'⟩ := view_entry env read rest (.inr here)
        obtain ⟨e, ended, views, finish⟩ := ih later place' (by rw [world_entry, lost])
          ((failedEntry_cons.mp fails).resolve_left here)
        refine ⟨e, ended, ?_, finish⟩
        rw [views, viewed, settle_unmeasured _ here]

theorem mergeCaches_untimed (env env' : Env) {prevCache prevCache' : HashMap String MetricValue}
    {localCache localCache' : HashMap String MetricValue} {errorCounts errorCounts' : HashMap String Nat}
    (previous : ∀ k, (prevCache.lookup k).map untimed = (prevCache'.lookup k).map untimed)
    (fresh : ∀ k, (localCache.lookup k).map untimed = (localCache'.lookup k).map untimed)
    (counts : ∀ name, errorCounts.lookup name = errorCounts'.lookup name) (k : String) :
    ((mergeCaches env prevCache localCache errorCounts).lookup k).map untimed =
      ((mergeCaches env' prevCache' localCache' errorCounts').lookup k).map untimed := by
  have carried (env : Env) (prevCache localCache : HashMap String MetricValue) :
      ((carryForward env.now env.orders.prevCache prevCache localCache).lookup k).map untimed =
        ((localCache.lookup k).map untimed).or ((prevCache.lookup k).map untimed) := by
    rw [lookup_carryForward]
    cases localCache.lookup k with
    | some v => rfl
    | none =>
        rw [Option.none_or, Option.map_none, Option.none_or, Option.map_map]
        rfl
  have same : ((carryForward env.now env.orders.prevCache prevCache localCache).lookup k).map untimed =
      ((carryForward env'.now env'.orders.prevCache prevCache' localCache').lookup k).map untimed := by
    rw [carried, carried, previous, fresh]
  unfold mergeCaches
  by_cases counter : ∃ name, k = name ++ "_errors"
  · obtain ⟨name, rfl⟩ := counter
    rw [lookup_addErrorCounts_errors, lookup_addErrorCounts_errors, counts]
    cases errorCounts'.lookup name with
    | none => exact same
    | some count =>
        revert same
        generalize AList.lookup _ (carryForward env.now _ _ _) = mine
        generalize AList.lookup _ (carryForward env'.now _ _ _) = other
        intro same
        cases mine <;> cases other <;> simp_all [untimed, errorCounter]
  · have apart : ∀ counts : HashMap String Nat, ∀ name ∈ counts, k ≠ name ++ "_errors" :=
      fun _ name _ same => counter ⟨name, same⟩
    rw [lookup_addErrorCounts (apart _), lookup_addErrorCounts (apart _)]
    exact same

theorem published_untimed {cache cache' : HashMap String MetricValue} (named : Named cache) (named' : Named cache')
    (same : ∀ k, (cache.lookup k).map untimed = (cache'.lookup k).map untimed) (env env' : Env)
    (store store' : MetricStore) (collectorName : String) (globalLabels collectorLabels : BTreeMap String) :
    (((store.publish env.orders.stored collectorName ((cache.iter env.orders.values).map (·.2)) globalLabels
      collectorLabels).metricsFor collectorName).map untimed).Perm
    (((store'.publish env'.orders.stored collectorName ((cache'.iter env'.orders.values).map (·.2)) globalLabels
      collectorLabels).metricsFor collectorName).map untimed) := by
  simp only [MetricStore.publish, MetricStore.metricsFor, MetricStore.snapshot, AList.lookup_insert,
    Option.getD_some, List.map_map]
  refine HashMap.values_perm ?_ env.orders.stored env'.orders.stored
  intro k
  rw [lookup_labelled named, lookup_labelled named', Option.map_map, Option.map_map]
  have labelled := congrArg (Option.map (MetricStore.withLabels
    (MetricStore.baseLabels collectorName globalLabels collectorLabels))) (same k)
  rw [Option.map_map, Option.map_map] at labelled
  exact labelled

variable (t)

/-- The task is led to the same decision, with the same caches but for times and the same counters but
for the duration of the poll. -/
structure SameEffect (s₁ s₂ : State σ) : Prop where
  decision : s₁.pc = s₂.pc
  prevCache : ∀ k, (s₁.prevCache.lookup k).map untimed = (s₂.prevCache.lookup k).map untimed
  errorCounts : ∀ name, s₁.errorCounts.lookup name = s₂.errorCounts.lookup name
  counters : counters s₁ = counters s₂
  world : s₁.world = s₂.world
  backoff : s₁.backoff = s₂.backoff
  prePollFailures : s₁.prePollFailures = s₂.prePollFailures
  others : ∀ name, name ≠ t.collector.name → s₁.store.lookup name = s₂.store.lookup name

def SamePublished (s₁ s₂ : State σ) : Prop :=
  ((s₁.store.metricsFor t.collector.name).map untimed).Perm ((s₂.store.metricsFor t.collector.name).map untimed)

variable {t}

theorem sameEffect_of_view {s₁ s₂ : State σ} (decision : s₁.pc = s₂.pc)
    (views : (view s₁).unmeasured = (view s₂).unmeasured) : SameEffect t s₁ s₂ ∧ SamePublished t s₁ s₂ := by
  have frame := congrArg View.frame views
  have store : s₁.store = s₂.store := (congrArg State.store frame :)
  refine ⟨⟨decision, ?_, ?_, ?_, ?_, ?_, ?_, ?_⟩, ?_⟩
  · exact congrFun (congrArg View.prevCache views)
  · exact congrFun (congrArg View.errorCounts views)
  · exact congrArg View.counters views
  · exact (congrArg State.world frame :)
  · exact (congrArg State.backoff frame :)
  · exact (congrArg State.prePollFailures frame :)
  · intro name _
    rw [store]
  · rw [SamePublished, store]

theorem publish_same {s₁ s₂ : State σ} (views : view s₁ = view s₂) (env₁ env₂ : Env) :
    SameEffect t (publishStep t env₁ s₁).1 (publishStep t env₂ s₂).1 ∧
      (NamedCaches s₁ → NamedCaches s₂ → SamePublished t (publishStep t env₁ s₁).1 (publishStep t env₂ s₂).1) := by
  have frame := congrArg View.frame views
  have store : s₁.store = s₂.store := (congrArg State.store frame :)
  have merged := mergeCaches_untimed env₁ env₂
    (congrFun (congrArg View.prevCache views)) (congrFun (congrArg View.localCache views))
    (congrFun (congrArg View.errorCounts views))
  refine ⟨⟨rfl, merged, ?_, ?_, ?_, ?_, ?_, ?_⟩, ?_⟩
  · exact congrFun (congrArg View.errorCounts views)
  · exact congrArg View.counters views
  · exact (congrArg State.world frame :)
  · exact (congrArg State.backoff frame :)
  · exact (congrArg State.prePollFailures frame :)
  · intro name other
    simp only [publishStep, MetricStore.publish, AList.lookup_insert_ne other, store]
  · intro named named'
    exact published_untimed (named_mergeCaches named.1 named.2) (named_mergeCaches named'.1 named'.2) merged
      env₁ env₂ _ _ _ _ _

theorem view_outcome (s : State σ) (env : Env) (success : Bool) :
    view (s.countOutcome t env success) = (view s).recount t fun stats =>
      { stats with
        pollsSuccess := stats.pollsSuccess + success.toNat
        pollsError := stats.pollsError + (!success).toNat } :=
  counters_count s fun _ => rfl

theorem PollCycle.completes {s s' : State σ} (cycle : PollCycle t s s') {read : ReadResults}
    (place : s.pc = .results read []) :
    ∃ env env', s' = (publishStep t env' { s.countOutcome t env (!s.pollHadError) with
      backoff := initialBackoff, pc := .publish read }).1 := by
  obtain ⟨env, next, events, action, later⟩ := cycle.next (by rw [place]; rfl)
  simp only [taskStep, place] at action
  cases action
  obtain ⟨env', next, events, action, later⟩ := later.next rfl
  simp only [taskStep] at action
  cases action
  exact ⟨env, env', later.over rfl⟩

theorem PollCycle.aborts {s s' : State σ} (cycle : PollCycle t s s') {read : ReadResults}
    (place : s.pc = .abort read) : ∃ env, s' = { s.countOutcome t env false with pc := .reconnect } := by
  obtain ⟨env, next, events, action, later⟩ := cycle.next (by rw [place]; rfl)
  simp only [taskStep, place] at action
  cases action
  exact ⟨env, later.over rfl⟩

theorem outcome_unmeasured {s₁ s₂ : State σ} (views : (view s₁).unmeasured = (view s₂).unmeasured)
    (env₁ env₂ : Env) (success : Bool) (pc : Pc) :
    (view { s₁.countOutcome t env₁ success with pc }).unmeasured =
      (view { s₂.countOutcome t env₂ success with pc }).unmeasured := by
  have first : view { s₁.countOutcome t env₁ success with pc } = view (s₁.countOutcome t env₁ success) := rfl
  have second : view { s₂.countOutcome t env₂ success with pc } = view (s₂.countOutcome t env₂ success) := rfl
  rw [first, second, view_outcome, view_outcome, View.recount_unmeasured, View.recount_unmeasured, views]

theorem same_results {s₁ s₂ e₁ e₂ : State σ} {read : ReadResults} {rest₁ rest₂ : List ReadEntry}
    (first : PollCycle t s₁ e₁) (second : PollCycle t s₂ e₂) (place₁ : s₁.pc = .results read rest₁)
    (place₂ : s₂.pc = .results read rest₂) (perm : rest₁.Perm rest₂) (nodup : rest₁.NodupKeys)
    (views : view s₁ = view s₂) :
    SameEffect t e₁ e₂ ∧ (NamedCaches s₁ → NamedCaches s₂ → SamePublished t e₁ e₂) := by
  have world : s₁.world = s₂.world := congrArg (fun v => v.frame.world) views
  have failed : FailedEntry t rest₁ ↔ FailedEntry t rest₂ := by
    simp only [FailedEntry, perm.mem_iff]
  by_cases stays : t.reader.isConnected s₁.world = true ∨ ¬FailedEntry t rest₁
  · obtain ⟨m₁, done₁, view₁, named₁, finish₁⟩ := first.settled place₁ stays
    obtain ⟨m₂, done₂, view₂, named₂, finish₂⟩ := second.settled place₂ (by rwa [← world, ← failed])
    have settled : view m₁ = view m₂ := by rw [view₁, view₂, views, settle_perm perm nodup]
    obtain ⟨env₁, last₁, rfl⟩ := finish₁.completes done₁
    obtain ⟨env₂, last₂, rfl⟩ := finish₂.completes done₂
    have errors : m₁.pollHadError = m₂.pollHadError := congrArg (fun v => v.frame.pollHadError) settled
    have counted : view (m₁.countOutcome t env₁ (!m₁.pollHadError)) =
        view (m₂.countOutcome t env₂ (!m₂.pollHadError)) := by
      rw [view_outcome, view_outcome, settled, errors]
    have reset : view { m₁.countOutcome t env₁ (!m₁.pollHadError) with
          backoff := initialBackoff, pc := .publish read } =
        view { m₂.countOutcome t env₂ (!m₂.pollHadError) with
          backoff := initialBackoff, pc := .publish read } :=
      congrArg (fun v : View σ => { v with frame := { v.frame with backoff := initialBackoff } }) counted
    obtain ⟨effect, published⟩ := publish_same reset last₁ last₂
    exact ⟨effect, fun before before' => published (named₁ before) (named₂ before')⟩
  · obtain ⟨connection, fails⟩ := not_or.mp stays
    rw [not_not] at fails
    rw [Bool.not_eq_true] at connection
    obtain ⟨m₁, lost₁, view₁, finish₁⟩ := first.lost place₁ connection fails
    obtain ⟨m₂, lost₂, view₂, finish₂⟩ := second.lost place₂ (world ▸ connection) (failed.mp fails)
    have aborted : (view m₁).unmeasured = (view m₂).unmeasured := by rw [view₁, view₂, views]
    obtain ⟨env₁, rfl⟩ := finish₁.aborts lost₁
    obtain ⟨env₂, rfl⟩ := finish₂.aborts lost₂
    obtain ⟨effect, published⟩ := sameEffect_of_view (t := t) (by rfl)
      (outcome_unmeasured aborted env₁ env₂ false .reconnect)
    exact ⟨effect, fun _ _ => published⟩

theorem PollCycle.together {s e₁ e₂ : State σ} (first : PollCycle t s e₁) (second : PollCycle t s e₂)
    (within : s.pc.ends = false) (blind : ∀ env, taskStep t env s = taskStep t {} s) :
    ∃ next events, taskStep t {} s = some (next, events) ∧ PollCycle t next e₁ ∧ PollCycle t next e₂ := by
  obtain ⟨env₁, next₁, events₁, action₁, later₁⟩ := first.next within
  obtain ⟨env₂, next₂, events₂, action₂, later₂⟩ := second.next within
  rw [blind] at action₁ action₂
  rw [action₁] at action₂
  cases action₂
  exact ⟨next₁, events₁, action₁, later₁, later₂⟩

theorem same_ended {s e₁ e₂ : State σ} (first : PollCycle t s e₁) (second : PollCycle t s e₂)
    (ends : s.pc.ends = true) : SameEffect t e₁ e₂ ∧ SamePublished t e₁ e₂ := by
  rw [first.over ends, second.over ends]
  exact sameEffect_of_view rfl rfl

theorem same_skip {s e₁ e₂ : State σ} (first : PollCycle t s e₁) (second : PollCycle t s e₂)
    (place : s.pc = .skip ∨ s.pc = .prePollAbort) : SameEffect t e₁ e₂ ∧ SamePublished t e₁ e₂ := by
  have within : s.pc.ends = false := by
    rcases place with place | place <;> rw [place] <;> rfl
  obtain ⟨env₁, next₁, events₁, action₁, later₁⟩ := first.next within
  obtain ⟨env₂, next₂, events₂, action₂, later₂⟩ := second.next within
  rcases place with place | place
  all_goals
    simp only [taskStep, place] at action₁ action₂
    cases action₁
    cases action₂
    rw [later₁.over rfl, later₂.over rfl]
    exact sameEffect_of_view (by rfl) (outcome_unmeasured rfl env₁ env₂ false _)

theorem same_read {s e₁ e₂ : State σ} (first : PollCycle t s e₁) (second : PollCycle t s e₂)
    (place : s.pc = .read) :
    SameEffect t e₁ e₂ ∧ (NamedCaches s → SamePublished t e₁ e₂) := by
  have within : s.pc.ends = false := by rw [place]; rfl
  cases outcome : t.reader.read (fun _ => s.cancelled) s.world with
  | error cause =>
      obtain ⟨next, events, action, later₁, later₂⟩ := first.together second within
        fun env => by simp only [taskStep, place, outcome]
      simp only [taskStep, place, outcome] at action
      cases action
      obtain ⟨effect, published⟩ := same_ended later₁ later₂ rfl
      exact ⟨effect, fun _ => published⟩
  | ok done =>
      obtain ⟨read, world⟩ := done
      obtain ⟨env₁, next₁, events₁, action₁, later₁⟩ := first.next within
      obtain ⟨env₂, next₂, events₂, action₂, later₂⟩ := second.next within
      simp only [taskStep, place, outcome] at action₁ action₂
      cases action₁
      cases action₂
      have perm := (HashMap.iter_perm env₁.orders.results read.metrics).trans
        (HashMap.iter_perm env₂.orders.results read.metrics).symm
      obtain ⟨effect, published⟩ := same_results later₁ later₂ rfl rfl perm
        (HashMap.iter_nodupKeys env₁.orders.results read.metrics) (by rfl)
      exact ⟨effect, fun named => published named named⟩

theorem same_prePoll {s e₁ e₂ : State σ} (first : PollCycle t s e₁) (second : PollCycle t s e₂)
    (place : s.pc = .prePoll) : SameEffect t e₁ e₂ ∧ (NamedCaches s → SamePublished t e₁ e₂) := by
  obtain ⟨next, events, action, later₁, later₂⟩ := first.together second (by rw [place]; rfl)
    fun env => by simp only [taskStep, place]
  cases outcome : executeWrites t t.collector.prePoll s.world with
  | mk result world =>
      cases result with
      | ok _ =>
          simp only [taskStep, place, outcome] at action
          cases action
          obtain ⟨effect, published⟩ := same_read later₁ later₂ rfl
          exact ⟨effect, published⟩
      | error e =>
          simp only [taskStep, place, outcome] at action
          cases action
          have skips : (if 3 ≤ s.prePollFailures + 1 then Pc.prePollAbort else .skip) = .skip ∨
              (if 3 ≤ s.prePollFailures + 1 then Pc.prePollAbort else .skip) = .prePollAbort := by
            split_ifs
            · exact .inr rfl
            · exact .inl rfl
          obtain ⟨effect, published⟩ := same_skip later₁ later₂ skips
          exact ⟨effect, fun _ => published⟩

theorem same_shutdownCheck {s e₁ e₂ : State σ} (first : PollCycle t s e₁) (second : PollCycle t s e₂)
    (place : s.pc = .shutdownCheck) : SameEffect t e₁ e₂ ∧ (NamedCaches s → SamePublished t e₁ e₂) := by
  obtain ⟨next, events, action, later₁, later₂⟩ := first.together second (by rw [place]; rfl)
    fun env => by simp only [taskStep, place]
  simp only [taskStep, place] at action
  split_ifs at action with requested writes
  · cases action
    obtain ⟨effect, published⟩ := same_ended later₁ later₂ rfl
    exact ⟨effect, fun _ => published⟩
  · cases action
    obtain ⟨effect, published⟩ := same_prePoll later₁ later₂ rfl
    exact ⟨effect, published⟩
  · cases action
    obtain ⟨effect, published⟩ := same_read later₁ later₂ rfl
    exact ⟨effect, published⟩

variable (t)

/-- Two runs of a poll cycle from one state have the same effect, whatever the walks of the maps. They
publish the same where the cache is kept by the names of its values, as it is in every run of a task. -/
theorem order_independent {s e₁ e₂ : State σ} (place : s.pc = .cycleStart) (first : PollCycle t s e₁)
    (second : PollCycle t s e₂) :
    SameEffect t e₁ e₂ ∧ (Named s.prevCache → SamePublished t e₁ e₂) ∧
      ∀ world internalMetrics trace, (machine t).Run (start t world internalMetrics) trace s →
        Named s.prevCache := by
  obtain ⟨next, events, action, later₁, later₂⟩ := first.together second (by rw [place]; rfl)
    fun env => by simp only [taskStep, place]
  simp only [taskStep, place] at action
  cases action
  obtain ⟨effect, published⟩ := same_shutdownCheck later₁ later₂ rfl
  exact ⟨effect, fun named => published ⟨named, named_empty⟩, fun _ _ _ run => (accounts run).named.1⟩

def hygrometer : Task Script := Script.task [Script.metric "temperature", Script.metric "humidity"] []

def polled : State Script where
  pc := .cycleStart
  world := { connected := true, reads := [([("temperature", none), ("humidity", some 40)], true)] }
  internal := some ∅

theorem order_independent_hygrometer :
    ∃ e₁ e₂, pollCycle hygrometer (List.replicate 7 {}) polled = some e₁ ∧
      pollCycle hygrometer (List.replicate 7 { now := 5, orders := { results := [1], values := [1] } }) polled =
        some e₂ ∧
      e₁.pc = .endWait ∧ SameEffect hygrometer e₁ e₂ ∧ SamePublished hygrometer e₁ e₂ := by
  have first : (pollCycle hygrometer (List.replicate 7 {}) polled).map State.pc = some .endWait := rfl
  have second : (pollCycle hygrometer (List.replicate 7 { now := 5, orders := { results := [1], values := [1] } })
      polled).map State.pc = some .endWait := rfl
  obtain ⟨e₁, run₁, ended⟩ := Option.map_eq_some_iff.mp first
  obtain ⟨e₂, run₂, _⟩ := Option.map_eq_some_iff.mp second
  obtain ⟨effect, published, _⟩ := order_independent hygrometer rfl (pollCycle_run run₁) (pollCycle_run run₂)
  exact ⟨e₁, e₂, run₁, run₂, ended, effect, published named_empty⟩

end BusExporter.Collector
