import BusExporter.Proof.Snapshots

/-! The error counters that a collector publishes: each is the number of failures of its metric on a live
connection, and no series is dropped once it has been published. -/

namespace BusExporter.Collector
open Lib Config

variable {σ : Type} (t : Task σ)

def isError : Option (Result (Float × Float)) → Bool
  | some (.error _) => true
  | _ => false

def failsConnected (name : String) : Event σ → Bool
  | .read _ read after => t.reader.isConnected after && isError (read.metrics.lookup name)
  | _ => false

def failureCount (name : String) (trace : List (Event σ)) : Nat := trace.countP (failsConnected t name)

def pending (s : State σ) (name : String) : Nat :=
  match s.pc with
  | .results _ rest => if t.reader.isConnected s.world && isError (rest.dlookup name) then 1 else 0
  | _ => 0

def tallied (s : State σ) (name : String) : Nat := (s.errorCounts.lookup name).getD 0 + pending t s name

structure CountsExact (trace : List (Event σ)) (s : State σ) : Prop where
  entries : EntriesSoFar s
  counts : ∀ name, Configured t name → tallied t s name = failureCount t name trace

variable {t}

theorem failureCount_append (name : String) (trace events : List (Event σ)) :
    failureCount t name (trace ++ events) = failureCount t name trace + failureCount t name events :=
  List.countP_append

theorem failureCount_quiet (name : String) {events : List (Event σ)} (quiet : ∀ e ∈ events, e.isRead = false) :
    failureCount t name events = 0 := by
  rw [failureCount, List.countP_eq_zero]
  intro e member
  have other := quiet e member
  cases e <;> simp_all [Event.isRead, failsConnected]

theorem pending_elsewhere {s : State σ} (elsewhere : ∀ read rest, s.pc ≠ .results read rest)
    (name : String) : pending t s name = 0 := by
  unfold pending
  split
  · exact absurd ‹_› (elsewhere _ _)
  · rfl

theorem fresh_rest {s : State σ} (soFar : EntriesSoFar s) {read : ReadResults} {entry : ReadEntry}
    {rest : List ReadEntry} (place : s.pc = .results read (entry :: rest)) :
    rest.dlookup entry.1 = none := by
  obtain ⟨done, all⟩ := soFar _ _ place
  have nodup : (done ++ entry :: rest).NodupKeys := (List.perm_nodupKeys all).mpr read.metrics.nodupKeys
  rw [List.NodupKeys, List.keys_append, List.keys_cons] at nodup
  exact List.dlookup_eq_none.mpr (List.nodup_cons.mp (List.nodup_append.mp nodup).2.1).1

theorem dlookup_entry (entry : ReadEntry) (rest : List ReadEntry) (name : String) :
    (entry :: rest).dlookup name = if name = entry.1 then some entry.2 else rest.dlookup name := by
  obtain ⟨key, outcome⟩ := entry
  split_ifs with same
  · subst same
    rw [List.dlookup_cons_eq]
  · exact List.dlookup_cons_ne _ _ same

theorem entry_tallied {s s' : State σ} (soFar : EntriesSoFar s) {read : ReadResults}
    {entry : ReadEntry} {rest : List ReadEntry} (place : s.pc = .results read (entry :: rest))
    (place' : s'.pc = .results read rest) (world : s'.world = s.world) {name : String}
    (other : name ≠ entry.1 → s'.errorCounts.lookup name = s.errorCounts.lookup name)
    (here : name = entry.1 → (s'.errorCounts.lookup name).getD 0 = (s.errorCounts.lookup name).getD 0 +
      if t.reader.isConnected s.world && isError (some entry.2) then 1 else 0) :
    tallied t s' name = tallied t s name := by
  simp only [tallied, pending, place, place', world, dlookup_entry]
  by_cases same : name = entry.1
  · rw [here same, if_pos same, same, fresh_rest soFar place]
    simp [isError]
  · rw [other same, if_neg same]

theorem exact_step {trace events : List (Event σ)} {s s' : State σ} (soFar : CountsExact t trace s)
    (step : TaskStep t s s' events) : CountsExact t (trace ++ events) s' := by
  refine ⟨entries_step soFar.entries step, ?_⟩
  intro name configured
  rw [failureCount_append, ← soFar.counts name configured]
  have elsewhere (before : ∀ read rest, s.pc ≠ .results read rest)
      (after : ∀ read rest, s'.pc ≠ .results read rest) (same : s'.errorCounts = s.errorCounts)
      (quiet : ∀ e ∈ events, e.isRead = false) :
      tallied t s' name = tallied t s name + failureCount t name events := by
    rw [tallied, tallied, same, pending_elsewhere before, pending_elsewhere after, failureCount_quiet name quiet]
  have silent : failureCount t name ([] : List (Event σ)) = 0 := rfl
  cases step
  case readDone env read world place done =>
      have before : pending t s name = 0 := pending_elsewhere (by simp [place]) name
      rw [tallied, tallied, before]
      simp only [pending, HashMap.dlookup_iter, failureCount, List.countP_singleton, failsConnected]
      rfl
  case ignored read entry rest place unknown =>
      rw [silent, Nat.add_zero]
      refine entry_tallied soFar.entries place (by rfl) (by rfl) (fun _ => rfl) ?_
      rintro rfl
      exact absurd configured (not_configured_of_unknown unknown)
  case stored env read key raw scaled cfg rest place known =>
      rw [silent, Nat.add_zero]
      exact entry_tallied soFar.entries place (by rfl) (by rfl) (fun _ => rfl) fun _ => by simp [isError]
  case errorCounted read key e cfg rest place known connected =>
      rw [silent, Nat.add_zero]
      refine entry_tallied soFar.entries place (by rfl) (by rfl) ?_ ?_
      · intro other
        simp only at other ⊢
        rw [HashMap.lookup_modify, if_neg other, HashMap.lookup_orInsert, if_neg other]
      · rintro rfl
        simp only [HashMap.lookup_modify, HashMap.lookup_orInsert, if_true, connected, isError]
        rfl
  case connectionLost read key e cfg rest place known lost =>
      rw [silent]
      simp [tallied, pending, place, lost, State.count]
  case completed env read place =>
      simp [tallied, pending, place, isError, failureCount, failsConnected, State.countOutcome, State.count]
  case connected place ok | reconnected place ok =>
      refine elsewhere (by simp [place]) ?_ rfl (by simp [Event.isRead])
      simp only [State.afterConnect]
      split_ifs <;> simp
  case proceed place running =>
      refine elsewhere (by simp [place]) ?_ rfl (by simp)
      simp only
      split_ifs <;> simp
  case prePollFailed e world place failed =>
      refine elsewhere (by simp [place]) ?_ rfl (by simp [Event.isRead])
      simp only
      split_ifs <;> simp
  case connectSlept place | initialised place _ | nextCycle place =>
      refine elsewhere ?_ (by simp) rfl (by simp [Event.isRead])
      rcases place with place | place <;> simp [place]
  all_goals
    refine elsewhere (by simp [*]) ?_ rfl ?_
    · simp [State.stop, publishStep]
    · simp [State.stop, publishStep, Event.isRead]

theorem mergeCaches_keeps {env : Env} {prevCache localCache : HashMap String MetricValue}
    {errorCounts : HashMap String Nat} {k : String} (present : (prevCache.lookup k).isSome) :
    ((mergeCaches env prevCache localCache errorCounts).lookup k).isSome := by
  have carried :
      ((carryForward env.now env.orders.prevCache prevCache localCache).lookup k).isSome := by
    rw [lookup_carryForward]
    cases localCache.lookup k <;> simp [present]
  rw [mergeCaches]
  by_cases counter : ∃ name, k = name ++ "_errors"
  · obtain ⟨name, rfl⟩ := counter
    rw [lookup_addErrorCounts_errors]
    cases errorCounts.lookup name with
    | none => exact carried
    | some count => rfl
  · rw [lookup_addErrorCounts fun name _ same => counter ⟨name, same⟩]
    exact carried

def Retained (trace : List (Event σ)) (s : State σ) : Prop :=
  ∀ snapshot, .publish snapshot ∈ trace → ∀ v ∈ snapshot, (s.prevCache.lookup v.name).isSome

theorem published_names {env : Env} {s : State σ} (named : Named s.prevCache ∧ Named s.localCache)
    (k : String) :
    (∃ v ∈ (publishStep t env s).1.store.metricsFor t.collector.name, v.name = k) ↔
      (((publishStep t env s).1.prevCache).lookup k).isSome := by
  have merged : Named (mergeCaches env s.prevCache s.localCache s.errorCounts) :=
    named_mergeCaches named.1 named.2
  have series := publish_series merged env.orders.stored env.orders.values s.store t.collector.name t.globalLabels
    (t.collector.labels.entries.foldl (fun labels e => labels.insert e.1 e.2) ∅) k
  change _ ↔ ((mergeCaches env s.prevCache s.localCache s.errorCounts).lookup k).isSome
  have count := congrArg List.length series
  rw [List.length_map] at count
  constructor
  · rintro ⟨v, member, named⟩
    have inside : v ∈ ((publishStep t env s).1.store.metricsFor t.collector.name).filter (·.name = k) :=
      List.mem_filter.mpr ⟨member, decide_eq_true named⟩
    have positive := List.length_pos_of_mem inside
    cases found : (mergeCaches env s.prevCache s.localCache s.errorCounts).lookup k with
    | none =>
        rw [found] at count
        exact absurd count positive.ne'
    | some w => rfl
  · intro present
    obtain ⟨w, found⟩ := Option.isSome_iff_exists.mp present
    rw [found] at count
    obtain ⟨v, inside⟩ := List.exists_mem_of_length_pos (by rw [count]; exact Nat.one_pos)
    obtain ⟨member, named⟩ := List.mem_filter.mp inside
    exact ⟨v, member, of_decide_eq_true named⟩

theorem retained_step {trace events : List (Event σ)} {s s' : State σ}
    (named : Named s.prevCache ∧ Named s.localCache) (before : Retained trace s)
    (step : TaskStep t s s' events) : Retained (trace ++ events) s' := by
  intro snapshot member v inside
  cases step
  case published env read place =>
      rcases List.mem_append.mp member with old | new
      · exact mergeCaches_keeps (before snapshot old v inside)
      · have snap := Event.publish.inj (List.mem_singleton.mp new)
        rw [snap] at inside
        exact (published_names named v.name).mp ⟨v, inside, rfl⟩
  all_goals
    rcases List.mem_append.mp member with old | new
    · exact before snapshot old v inside
    · simp [State.stop] at new

structure Accounts (t : Task σ) (trace : List (Event σ)) (s : State σ) : Prop where
  named : Named s.prevCache ∧ Named s.localCache
  counts : CountsExact t trace s
  retained : Retained trace s

theorem accounts {world : σ} {internalMetrics : Bool} {trace : List (Event σ)} {s : State σ}
    (run : (machine t).Run (start t world internalMetrics) trace s) : Accounts t trace s := by
  refine own_invariant (P := Accounts t) ?_ ?_ ?_ run
  · refine ⟨⟨named_empty, named_empty⟩, ⟨?_, ?_⟩, ?_⟩
    · intro read rest place
      cases place
    · intro name _
      rfl
    · intro snapshot member
      cases member
  · intro trace s s' events before step
    exact ⟨named_step before.named step, exact_step before.counts step,
      retained_step before.named before.retained step⟩
  · intro trace s _ _ _ _ before
    exact ⟨before.named, ⟨before.counts.entries, before.counts.counts⟩, before.retained⟩

theorem errorCount_bounded {trace : List (Event σ)} {s : State σ} (holds : Accounts t trace s) {name : String}
    (configured : Configured t name) : (s.errorCounts.lookup name).getD 0 ≤ trace.length := calc
  (s.errorCounts.lookup name).getD 0 ≤ tallied t s name := Nat.le_add_right _ _
  _ = failureCount t name trace := holds.counts.counts name configured
  _ ≤ trace.length := List.countP_le_length

theorem published_count {env : Env} {s : State σ} {read : ReadResults} {trace : List (Event σ)}
    (holds : Accounts t trace s) (place : s.pc = .publish read) {name : String}
    (configured : Configured t name) (failed : 0 < failureCount t name trace) :
    (((publishStep t env s).1.store.metricsFor t.collector.name).filter
      (·.name = name ++ "_errors")).map (·.value) = [F64.ofU64 (failureCount t name trace)] := by
  have merged : Named (mergeCaches env s.prevCache s.localCache s.errorCounts) :=
    named_mergeCaches holds.named.1 holds.named.2
  have count := holds.counts.counts name configured
  rw [tallied, pending_elsewhere (by simp [place])] at count
  have stored : s.errorCounts.lookup name = some (failureCount t name trace) := by
    cases found : s.errorCounts.lookup name with
    | none =>
        rw [found] at count
        exact absurd count.symm failed.ne'
    | some n =>
        rw [found] at count
        exact congrArg some count
  have series := publish_series merged env.orders.stored env.orders.values s.store t.collector.name
    t.globalLabels (t.collector.labels.entries.foldl (fun labels e => labels.insert e.1 e.2) ∅)
    (name ++ "_errors")
  have values := congrArg (List.map Series.value) series
  rw [List.map_map] at values
  refine values.trans ?_
  rw [mergeCaches, lookup_addErrorCounts_errors, stored]
  rfl

variable (t)

/-- After each publish, a metric that failed on a live connection has its error counter, whose value is
the number of its failures so far; and every name published before is published again. -/
theorem error_series {world : σ} {internalMetrics : Bool} {before after : List (Event σ)}
    {snapshot : List MetricValue} {s : State σ}
    (run : (machine t).Run (start t world internalMetrics) (before ++ .publish snapshot :: after) s) :
    (∀ m ∈ t.collector.metrics, 0 < failureCount t m.name before →
      (snapshot.filter (·.name = m.name ++ "_errors")).map (·.value) =
        [F64.ofU64 (failureCount t m.name before)]) ∧
      ∀ earlier old between, before = earlier ++ .publish old :: between →
        (∀ m ∈ t.collector.metrics, failureCount t m.name earlier ≤ failureCount t m.name before) ∧
          ∀ v ∈ old, ∃ v' ∈ snapshot, v'.name = v.name := by
  obtain ⟨trace, state, state', first, rest, previous, step, split⟩ := run_emitted run
  have holds := accounts previous
  obtain ⟨rfl, ⟨read, place⟩, env, rfl, events⟩ := publish_cases step rfl
  obtain rfl : before = trace := by rw [split, List.append_nil]
  obtain ⟨published, rfl⟩ := List.cons.inj events
  have snap := Event.publish.inj published
  constructor
  · intro m configured failed
    rw [snap]
    exact published_count holds place ⟨m, configured, rfl⟩ failed
  · rintro earlier old between rfl
    constructor
    · intro m _
      rw [failureCount_append]
      exact Nat.le_add_right _ _
    · intro v inside
      have kept : ((publishStep t env state).1.prevCache.lookup v.name).isSome :=
        mergeCaches_keeps (holds.retained old (by simp) v inside)
      rw [snap]
      exact (published_names holds.named v.name).mpr kept

def weather : List MetricConfig := [Script.metric "temperature", Script.metric "humidity"]

def weatherReads : Script where
  reads := [([("temperature", none), ("humidity", some 40)], true), ([("temperature", none), ("humidity", none)], true)]

/-- The temperature fails twice, and the humidity once, after it was published. -/
theorem error_series_thermometer :
    ∃ before snapshot s,
      (machine (Script.task weather [])).Run (start (Script.task weather []) weatherReads true)
        (before ++ .publish snapshot :: []) s ∧
      (snapshot.filter (·.name = "temperature_errors")).map (·.value) = [F64.ofU64 2] ∧
      (snapshot.filter (·.name = "humidity_errors")).map (·.value) = [F64.ofU64 1] ∧
      ∃ v ∈ snapshot, v.name = "humidity" := by
  have executed : ∃ e₁ e₂ e₃ e₄ e₅ old e₇ e₈ e₉ e₁₀ snapshot s,
      (machine (Script.task weather [])).exec (start (Script.task weather []) weatherReads true)
        (List.replicate 16 (.task {})) =
          some ([e₁, e₂, e₃, e₄, e₅, .publish old, e₇, e₈, e₉, e₁₀] ++ .publish snapshot :: [], s) ∧
        old.map (·.name) = ["humidity", "temperature_errors"] ∧
        failureCount (Script.task weather []) "temperature"
          [e₁, e₂, e₃, e₄, e₅, .publish old, e₇, e₈, e₉, e₁₀] = 2 ∧
        failureCount (Script.task weather []) "humidity"
          [e₁, e₂, e₃, e₄, e₅, .publish old, e₇, e₈, e₉, e₁₀] = 1 :=
    ⟨_, _, _, _, _, _, _, _, _, _, _, _, rfl, rfl, rfl, rfl⟩
  obtain ⟨e₁, e₂, e₃, e₄, e₅, old, e₇, e₈, e₉, e₁₀, snapshot, s, executed, names, twice, once⟩ := executed
  have run := Machine.exec_run executed
  obtain ⟨counters, kept⟩ := error_series _ run
  have temperature := counters (Script.metric "temperature") (by simp [Script.task, weather])
  have humidity := counters (Script.metric "humidity") (by simp [Script.task, weather])
  rw [show (Script.metric "temperature").name = "temperature" from rfl, twice] at temperature
  rw [show (Script.metric "humidity").name = "humidity" from rfl, once] at humidity
  refine ⟨_, snapshot, s, run, temperature Nat.two_pos, humidity Nat.one_pos, ?_⟩
  obtain ⟨v, inside, named⟩ : ∃ v ∈ old, v.name = "humidity" := by
    rw [← List.mem_map (f := MetricValue.name), names]
    exact List.mem_cons_self
  obtain ⟨v', published, same⟩ := (kept [e₁, e₂, e₃, e₄, e₅] old [e₇, e₈, e₉, e₁₀] rfl).2 v inside
  exact ⟨v', published, same.trans named⟩

end BusExporter.Collector
