import BusExporter.Proof.CollectorSteps

/-! The poll counters of a collector agree with the cycles it ran. -/

namespace BusExporter.Collector
open Lib Config

variable {σ : Type} (t : Task σ)

def Event.isCycle : Event σ → Bool
  | .cycle => true
  | _ => false

def Event.isOutcome (success : Bool) : Event σ → Bool
  | .outcome result => result == success
  | _ => false

def Pc.owed : Pc → Nat
  | .shutdownCheck | .prePoll | .skip | .prePollAbort | .read | .results _ _ | .abort _
  | .panicked _ | .returned .shutdownCheck => 1
  | _ => 0

def State.stats (s : State σ) : Option CollectorStats :=
  s.internal.map (·.statsOf t.collector.name)

theorem stats_updateCollector (name : String) (f : CollectorStats → CollectorStats)
    (im : InternalMetrics) : (im.updateCollector name f).statsOf name = f (im.statsOf name) := by
  simp [InternalMetrics.updateCollector, InternalMetrics.statsOf, HashMap.lookup_modify,
    HashMap.lookup_orInsert]

@[simp] theorem stats_count (s : State σ) (f : CollectorStats → CollectorStats) :
    (s.count t f).stats t = (s.stats t).map f := by
  cases enabled : s.internal with
  | none => simp [State.stats, State.count, enabled]
  | some im => simp [State.stats, State.count, enabled, stats_updateCollector]

theorem Interferes.stats_eq {s s' : State σ} (others : Interferes t s s') :
    s'.stats t = s.stats t := by
  have same := congrArg (Option.map fun stats => stats.getD {}) others.stats
  rw [Option.map_map, Option.map_map] at same
  exact same

theorem owed_afterConnect (s : State σ) {writes : Pc} (settled : writes.owed = 0) :
    (s.afterConnect t writes).pc.owed = 0 := by
  simp only [State.afterConnect]
  split_ifs
  · exact settled
  · rfl

theorem balance_step {s s' : State σ} {events : List (Event σ)} (step : TaskStep t s s' events) :
    events.countP Event.isCycle + s.pc.owed =
      events.countP (Event.isOutcome true) + events.countP (Event.isOutcome false) + s'.pc.owed := by
  cases step
  case connected place ok | reconnected place ok =>
      rw [place, owed_afterConnect t _ rfl]
      simp [Pc.owed, Event.isCycle, Event.isOutcome]
  case connectSlept place | initialised place _ | nextCycle place =>
      rcases place with place | place <;> simp [place, Pc.owed, Event.isCycle, Event.isOutcome]
  case endStopped path place ends changed =>
      rcases ends with rfl | rfl <;>
        simp [place, State.stop, Pc.owed, Event.isCycle, Event.isOutcome]
  case proceed place running =>
      simp only [place]
      split_ifs <;> simp [Pc.owed]
  case prePollFailed place failed =>
      simp only [place]
      split_ifs <;> simp [Pc.owed, Event.isCycle, Event.isOutcome]
  case completed env read place =>
      cases failed : s.pollHadError <;>
        simp [place, Pc.owed, Event.isCycle, Event.isOutcome]
  all_goals
    simp [*, State.stop, publishStep, Pc.owed, Event.isCycle, Event.isOutcome]

theorem counted_step {s s' : State σ} {events : List (Event σ)} (step : TaskStep t s s' events)
    {stats : CollectorStats} (before : s.stats t = some stats) :
    ∃ stats', s'.stats t = some stats' ∧
      stats'.pollsTotal = stats.pollsTotal + events.countP Event.isCycle ∧
      stats'.pollsSuccess = stats.pollsSuccess + events.countP (Event.isOutcome true) ∧
      stats'.pollsError = stats.pollsError + events.countP (Event.isOutcome false) := by
  cases step
  case cycle place =>
      refine ⟨_, (stats_count t s _).trans (congrArg _ before), ?_⟩
      simp [Event.isCycle, Event.isOutcome]
  case skipped env place | prePollAborted env place | aborted env place =>
      refine ⟨_, (stats_count t s _).trans (congrArg _ before), ?_⟩
      simp [Event.isCycle, Event.isOutcome]
  case completed env read place =>
      refine ⟨_, (stats_count t s _).trans (congrArg _ before), ?_⟩
      cases s.pollHadError <;> simp [Event.isCycle, Event.isOutcome]
  case readDone | errorCounted | connectionLost =>
      refine ⟨_, (stats_count t s _).trans (congrArg _ before), ?_⟩
      simp [Event.isCycle, Event.isOutcome]
  all_goals
    refine ⟨stats, before, ?_⟩
    simp [State.stop, publishStep, Event.isCycle, Event.isOutcome]

def AllRead (read : ReadResults) : Prop :=
  ∀ name outcome, read.metrics.lookup name = some outcome → Configured t name →
    ∃ value, outcome = .ok value

def Faultless (cycle : List (Event σ)) : Prop :=
  (∀ e ∈ cycle, e.isFailedPrePoll = false) ∧
    ∀ before read after, Event.read before read after ∈ cycle → AllRead t read

def FailedEntry (entries : List ReadEntry) : Prop :=
  ∃ name e, ⟨name, .error e⟩ ∈ entries ∧ Configured t name

def CycleSoFar (cycle : List (Event σ)) (s : State σ) : Prop :=
  match s.pc with
  | .shutdownCheck | .prePoll => cycle = [] ∧ s.pollHadError = false
  | .read => (∀ e ∈ cycle, e.isPrePolled = true) ∧ s.pollHadError = false
  | .skip | .prePollAbort => ∃ e ∈ cycle, e.isFailedPrePoll = true
  | .results read rest =>
      (∃ first before after, cycle = first ++ [.read before read after] ∧ ∀ e ∈ first, e.isPrePolled = true) ∧
        ∃ done, (done ++ rest).Perm read.metrics.entries ∧
          (s.pollHadError = true ↔ FailedEntry t done)
  | .abort read => (∃ before after, .read before read after ∈ cycle) ∧ ¬AllRead t read
  | _ => True

variable {t}

theorem failedEntry_concat {entries : List ReadEntry}
    {entry : ReadEntry} :
    FailedEntry t (entries ++ [entry]) ↔
      FailedEntry t entries ∨ (Configured t entry.1 ∧ ∃ e, entry.2 = .error e) := by
  constructor
  · intro failed
    obtain ⟨name, e, member, configured⟩ := failed
    rcases List.mem_append.mp member with earlier | last
    · exact .inl ⟨name, e, earlier, configured⟩
    · obtain rfl := List.mem_singleton.mp last
      exact .inr ⟨configured, e, rfl⟩
  · rintro (⟨name, e, member, configured⟩ | ⟨configured, e, failed⟩)
    · exact ⟨name, e, List.mem_append_left _ member, configured⟩
    · obtain ⟨name, outcome⟩ := entry
      exact ⟨name, e, by simp [← failed], configured⟩

theorem allRead_iff {read : ReadResults} {entries : List ReadEntry}
    (all : entries.Perm read.metrics.entries) : AllRead t read ↔ ¬FailedEntry t entries := by
  constructor
  · intro every failed
    obtain ⟨name, e, member, configured⟩ := failed
    obtain ⟨value, ok⟩ := every name _ (AList.mem_lookup_iff.mpr (all.subset member)) configured
    cases ok
  · intro none name outcome found configured
    cases outcome with
    | ok value => exact ⟨value, rfl⟩
    | error e =>
        exact absurd ⟨name, e, all.symm.subset (AList.mem_lookup_iff.mp found), configured⟩ none

theorem cycleSoFar_step {trace events : List (Event σ)} {s s' : State σ}
    (soFar : CycleSoFar t (since Event.isCycle trace) s) (step : TaskStep t s s' events) :
    CycleSoFar t (since Event.isCycle (trace ++ events)) s' := by
  cases step
  case connected place ok | reconnected place ok =>
      simp only [CycleSoFar, State.afterConnect]
      split_ifs <;> trivial
  case cycle place => simp [CycleSoFar, Event.isCycle]
  case proceed place running =>
      simp only [CycleSoFar, place] at soFar
      simp only [List.append_nil]
      split_ifs
      · exact soFar
      · exact ⟨by simp [soFar.1], soFar.2⟩
  case prePolled place ok =>
      simp only [CycleSoFar, place] at soFar
      rw [since_append _ _ _ (by simp [Event.isCycle]), soFar.1]
      exact ⟨by simp [Event.isPrePolled], soFar.2⟩
  case prePollFailed place failed =>
      rw [since_append _ _ _ (by simp [Event.isCycle])]
      simp only [CycleSoFar]
      split_ifs <;> simp [Event.isFailedPrePoll]
  case readDone env read world place done =>
      simp only [CycleSoFar, place] at soFar
      rw [since_append _ _ _ (by simp [Event.isCycle])]
      refine ⟨⟨_, _, _, rfl, soFar.1⟩, [], HashMap.iter_perm _ _, ?_⟩
      simp [State.count, soFar.2, FailedEntry]
  case ignored read entry rest place unknown =>
      simp only [CycleSoFar, place] at soFar
      obtain ⟨cycle, done, all, failed⟩ := soFar
      rw [List.append_nil]
      refine ⟨cycle, done ++ [entry], by simpa using all, ?_⟩
      rw [failedEntry_concat]
      simpa [not_configured_of_unknown unknown] using failed
  case stored env read name raw scaled cfg rest place known =>
      simp only [CycleSoFar, place] at soFar
      obtain ⟨cycle, done, all, failed⟩ := soFar
      rw [List.append_nil]
      refine ⟨cycle, done ++ [⟨name, .ok (raw, scaled)⟩], by simpa using all, ?_⟩
      rw [failedEntry_concat]
      simpa using failed
  case errorCounted read name e cfg rest place known connected =>
      simp only [CycleSoFar, place] at soFar
      obtain ⟨cycle, done, all, failed⟩ := soFar
      rw [List.append_nil]
      refine ⟨cycle, done ++ [⟨name, .error e⟩], by simpa using all, ?_⟩
      rw [failedEntry_concat]
      simp [configured_of_known known]
  -- the loop breaks off, but at a result of a configured metric that failed
  case connectionLost read name e cfg rest place known lost =>
      simp only [CycleSoFar, place] at soFar
      obtain ⟨⟨first, before, after, cycle, _⟩, done, all, _⟩ := soFar
      rw [List.append_nil]
      refine ⟨⟨before, after, by simp [cycle]⟩, ?_⟩
      rw [allRead_iff all, not_not]
      exact ⟨name, e, by simp, configured_of_known known⟩
  case endStopped path place ends changed => trivial
  all_goals trivial

theorem CycleSoFar.faulty {cycle : List (Event σ)} {s : State σ} (soFar : CycleSoFar t cycle s)
    (place : s.pc = .skip ∨ s.pc = .prePollAbort ∨ ∃ read, s.pc = .abort read) :
    ¬Faultless t cycle := by
  intro faultless
  have polled (failed : ∃ e ∈ cycle, e.isFailedPrePoll = true) : False := by
    obtain ⟨e, member, fails⟩ := failed
    exact Bool.false_ne_true ((faultless.1 e member).symm.trans fails)
  rcases place with place | place | ⟨read, place⟩
  · simp only [CycleSoFar, place] at soFar
    exact polled soFar
  · simp only [CycleSoFar, place] at soFar
    exact polled soFar
  · simp only [CycleSoFar, place] at soFar
    obtain ⟨⟨before, after, member⟩, failed⟩ := soFar
    exact failed (faultless.2 _ _ _ member)

theorem CycleSoFar.complete {cycle : List (Event σ)} {s : State σ} {read : ReadResults}
    (soFar : CycleSoFar t cycle s) (place : s.pc = .results read []) :
    Faultless t cycle ↔ s.pollHadError = false := by
  simp only [CycleSoFar, place] at soFar
  obtain ⟨⟨polls, before, after, rfl, polled⟩, done, all, failed⟩ := soFar
  rw [List.append_nil] at all
  have results : AllRead t read ↔ s.pollHadError = false := by
    rw [allRead_iff all, ← failed]
    simp
  rw [← results]
  constructor
  · intro faultless
    exact faultless.2 before read after (by simp)
  · intro every
    constructor
    · intro e member
      rcases List.mem_append.mp member with early | last
      · have done := polled e early
        cases e <;> simp_all [Event.isPrePolled, Event.isFailedPrePoll]
      · rw [List.mem_singleton.mp last]
        rfl
    · intro before' read' after' member
      rcases List.mem_append.mp member with early | last
      · cases polled _ early
      · simp only [List.mem_singleton, Event.read.injEq] at last
        obtain ⟨-, rfl, -⟩ := last
        exact every

theorem outcome_cases {s s' : State σ} {events first last : List (Event σ)} {success : Bool}
    (step : TaskStep t s s' events) (split : events = first ++ .outcome success :: last) :
    first = [] ∧
      ((success = false ∧ (s.pc = .skip ∨ s.pc = .prePollAbort ∨ ∃ read, s.pc = .abort read)) ∨
        ∃ read, s.pc = .results read [] ∧ success = !s.pollHadError) := by
  obtain rfl := leading_step step split rfl
  cases step <;> simp [State.stop, publishStep] at split <;> simp [*]

variable (t)

theorem Pc.owed_le (pc : Pc) : pc.owed ≤ 1 := by
  unfold Pc.owed
  split <;> decide

theorem balanced (world : σ) {internalMetrics : Bool} {trace : List (Event σ)} {s : State σ}
    (run : (machine t).Run (start t world internalMetrics) trace s) :
    trace.countP Event.isCycle = trace.countP (Event.isOutcome true) +
      trace.countP (Event.isOutcome false) + s.pc.owed := by
  refine own_invariant (P := fun trace s => trace.countP Event.isCycle =
    trace.countP (Event.isOutcome true) + trace.countP (Event.isOutcome false) + s.pc.owed)
    (by simp [start, Pc.owed]) ?_ (fun _ _ _ _ balance => balance) run
  intro trace s s' events balance step
  have change := balance_step t step
  simp only [List.countP_append]
  omega

theorem counted (world : σ) {trace : List (Event σ)} {s : State σ}
    (run : (machine t).Run (start t world true) trace s) :
    ∃ stats, s.stats t = some stats ∧
      stats.pollsTotal = trace.countP Event.isCycle ∧
      stats.pollsSuccess = trace.countP (Event.isOutcome true) ∧
      stats.pollsError = trace.countP (Event.isOutcome false) := by
  refine run_invariant (P := fun trace s => ∃ stats, s.stats t = some stats ∧
      stats.pollsTotal = trace.countP Event.isCycle ∧
      stats.pollsSuccess = trace.countP (Event.isOutcome true) ∧
      stats.pollsError = trace.countP (Event.isOutcome false))
    ⟨{}, rfl, rfl, rfl, rfl⟩ ?_ ?_ run
  · intro trace s s' events before step
    obtain ⟨stats, here, total, successes, errors⟩ := before
    obtain ⟨stats', later, change⟩ := counted_step t step here
    refine ⟨stats', later, ?_⟩
    simp only [List.countP_append, ← total, ← successes, ← errors]
    exact change
  · intro trace s s' before others
    obtain ⟨stats, here, counts⟩ := before
    refine ⟨stats, ?_, counts⟩
    rw [← here, others.stats_eq]

theorem outcome_faultless (world : σ) {internalMetrics success : Bool} {before after : List (Event σ)}
    {s : State σ}
    (run : (machine t).Run (start t world internalMetrics) (before ++ .outcome success :: after) s) :
    success = true ↔ Faultless t (since Event.isCycle before) := by
  obtain ⟨earlier, state, state', first, last, previous, step, split⟩ := run_emitted run
  have soFar : CycleSoFar t (since Event.isCycle earlier) state := by
    refine own_invariant (P := fun trace s => CycleSoFar t (since Event.isCycle trace) s)
      ?_ cycleSoFar_step (fun _ _ _ _ holds => holds) previous
    trivial
  obtain ⟨rfl, cases⟩ := outcome_cases step rfl
  rw [split, List.append_nil]
  rcases cases with ⟨rfl, place⟩ | ⟨read, place, rfl⟩
  · simpa using soFar.faulty place
  · rw [soFar.complete place]
    simp

/-- No counter of polls gets past the events of the run, so none wraps before there are 2^64 of them. -/
theorem polls_bounded (world : σ) {trace : List (Event σ)} {s : State σ}
    (run : (machine t).Run (start t world true) trace s) :
    ∃ stats, s.stats t = some stats ∧ stats.pollsTotal ≤ trace.length ∧ stats.pollsSuccess ≤ trace.length ∧
      stats.pollsError ≤ trace.length := by
  obtain ⟨stats, here, total, successes, errors⟩ := counted t world run
  refine ⟨stats, here, ?_, ?_, ?_⟩
  · exact total.trans_le List.countP_le_length
  · exact successes.trans_le List.countP_le_length
  · exact errors.trans_le List.countP_le_length

/-- The counters say how many cycles began and how many came to which outcome. A cycle is owed its
outcome until it is counted, and only a task that returned at the shutdown check owes one at its end. -/
theorem polls_counted (world : σ) {trace : List (Event σ)} {s : State σ}
    (run : (machine t).Run (start t world true) trace s) :
    (∃ stats, s.stats t = some stats ∧
      stats.pollsTotal = trace.countP Event.isCycle ∧
      stats.pollsSuccess = trace.countP (Event.isOutcome true) ∧
      stats.pollsError = trace.countP (Event.isOutcome false) ∧
      (s.pc = .cycleStart → stats.pollsTotal = stats.pollsSuccess + stats.pollsError) ∧
      (stats.pollsTotal = stats.pollsSuccess + stats.pollsError ∨
        stats.pollsTotal = stats.pollsSuccess + stats.pollsError + 1) ∧
      ∀ path, s.pc = .returned path →
        (stats.pollsTotal = stats.pollsSuccess + stats.pollsError + 1 ↔ path = .shutdownCheck)) ∧
    ∀ before success after, trace = before ++ .outcome success :: after →
      (success = true ↔ Faultless t (since Event.isCycle before)) := by
  constructor
  · obtain ⟨stats, here, total, successes, errors⟩ := counted t world run
    have balance := balanced t world run
    refine ⟨stats, here, total, successes, errors, ?_, ?_, ?_⟩
    · intro head
      rw [head] at balance
      simpa [total, successes, errors, Pc.owed] using balance
    · have owed : s.pc.owed ≤ 1 := s.pc.owed_le
      omega
    · intro path returned
      rw [returned] at balance
      rw [total, successes, errors, balance]
      cases path <;> simp [Pc.owed]
  · intro before success after split
    subst split
    exact outcome_faultless t world run

theorem polls_counted_sample :
    ∃ trace s, (machine (Script.task [Script.metric "temperature"] [])).Run
        (start (Script.task [Script.metric "temperature"] [])
          { reads := [([("temperature", none)], true)] } true) trace s ∧
      ∃ stats, s.stats (Script.task [Script.metric "temperature"] []) = some stats ∧
        stats.pollsTotal = stats.pollsSuccess + stats.pollsError + 1 := by
  have returns : ((machine (Script.task [Script.metric "temperature"] [])).exec
      (start (Script.task [Script.metric "temperature"] [])
        { reads := [([("temperature", none)], true)] } true)
      (List.replicate 9 (.task {}) ++ [.sendShutdown, .task {}])).map (·.2.pc) =
      some (.returned .shutdownCheck) := rfl
  obtain ⟨⟨trace, s⟩, executed, returned⟩ := Option.map_eq_some_iff.mp returns
  obtain ⟨⟨stats, here, _, _, _, _, _, owed⟩, _⟩ :=
    polls_counted _ _ (Machine.exec_run executed)
  exact ⟨trace, s, Machine.exec_run executed, stats, here, (owed _ returned).mpr rfl⟩

end BusExporter.Collector
