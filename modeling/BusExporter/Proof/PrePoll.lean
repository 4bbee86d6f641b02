import BusExporter.Proof.PollCounts

/-! Failures of the writes before a poll: what a cycle that fails so does, and when such failures bring
the collector to reconnect. -/

namespace BusExporter.Collector
open Lib Config

variable {σ : Type} {t : Task σ}

def Event.settles : Event σ → Bool
  | .prePoll _ _ ok _ | .connect ok => ok
  | _ => false

def failures (trace : List (Event σ)) : Nat :=
  (since Event.settles trace).countP Event.isFailedPrePoll

theorem failures_append {trace events : List (Event σ)} (quiet : ∀ e ∈ events, e.settles = false) :
    failures (trace ++ events) = failures trace + events.countP Event.isFailedPrePoll := by
  rw [failures, since_append _ _ _ quiet, List.countP_append, failures]

theorem failures_quiet {trace events : List (Event σ)}
    (quiet : ∀ e ∈ events, e.settles = false ∧ e.isFailedPrePoll = false) :
    failures (trace ++ events) = failures trace := by
  rw [failures_append fun e member => (quiet e member).1, List.countP_eq_zero.mpr, Nat.add_zero]
  intro e member
  simp [(quiet e member).2]

theorem failures_settled {trace : List (Event σ)} {e : Event σ} (settled : e.settles = true) :
    failures (trace ++ [e]) = 0 := by
  rw [failures, since_append_singleton, if_pos settled]
  rfl

def Pc.limit : Pc → Nat
  | .prePollAbort | .reconnect | .reconnectWait | .reconnectConnect | .returned .reconnectWait => 3
  | _ => 2

def Pc.connecting : Pc → Bool
  | .connect | .connectWait | .initWrites | .initWritesWait => true
  | _ => false

structure Counted (trace : List (Event σ)) (s : State σ) : Prop where
  count : s.prePollFailures = failures trace
  limit : failures trace ≤ s.pc.limit
  fresh : s.pc.connecting = true → s.prePollFailures = 0

theorem Counted.quiet {trace events : List (Event σ)} {s s' : State σ} (counted : Counted trace s)
    (silent : ∀ e ∈ events, e.settles = false ∧ e.isFailedPrePoll = false)
    (same : s'.prePollFailures = s.prePollFailures) (limits : s.pc.limit ≤ s'.pc.limit)
    (connects : s'.pc.connecting = true → s.pc.connecting = true) : Counted (trace ++ events) s' := by
  have unchanged : failures (trace ++ events) = failures trace := failures_quiet silent
  constructor
  · rw [unchanged, same, counted.count]
  · rw [unchanged]
    exact counted.limit.trans limits
  · intro connecting
    rw [same, counted.fresh (connects connecting)]

theorem prePoll_step {trace events : List (Event σ)} {s s' : State σ} (counted : Counted trace s)
    (step : TaskStep t s s' events) : Counted (trace ++ events) s' := by
  cases step
  case connected world place ok =>
      have zero := counted.fresh (by rw [place]; rfl)
      exact ⟨by rw [failures_settled rfl]; exact zero, by rw [failures_settled rfl]; exact Nat.zero_le _,
        fun _ => zero⟩
  case reconnected world place ok =>
      exact ⟨(failures_settled rfl).symm, by rw [failures_settled rfl]; exact Nat.zero_le _, fun _ => rfl⟩
  case prePolled world place ok =>
      exact ⟨(failures_settled rfl).symm, by rw [failures_settled rfl]; exact Nat.zero_le _, fun _ => rfl⟩
  case prePollFailed e world place failed =>
      have next : failures (trace ++ [.prePoll s.world t.collector.prePoll false world]) = failures trace + 1 :=
        failures_append (by simp [Event.settles])
      have below := counted.limit
      rw [place] at below
      constructor
      · rw [next, ← counted.count]
      · rw [next]
        simp only
        split_ifs with third
        · exact Nat.add_le_add_right below 1
        · rw [counted.count] at third
          exact Nat.not_lt.mp third
      · simp only
        split_ifs <;> exact fun impossible => (by cases impossible)
  case connectSlept place =>
      refine counted.quiet (by simp [Event.settles, Event.isFailedPrePoll]) rfl ?_ fun _ => ?_ <;>
        rcases place with place | place <;> simp [place, Pc.limit, Pc.connecting]
  case initialised place _ | nextCycle place =>
      refine counted.quiet (by simp [Event.settles, Event.isFailedPrePoll]) rfl ?_ fun impossible =>
        (by cases impossible)
      rcases place with place | place <;> simp [place, Pc.limit]
  case endStopped path place ends changed =>
      refine counted.quiet (by simp [State.stop, Event.settles, Event.isFailedPrePoll]) rfl ?_ fun impossible =>
        (by cases impossible)
      rcases ends with rfl | rfl <;> simp [place, Pc.limit, State.stop]
  case proceed place running =>
      refine counted.quiet (by simp) rfl ?_ ?_
      · simp only [place]
        split_ifs <;> exact le_rfl
      · simp only
        split_ifs <;> exact fun impossible => (by cases impossible)
  all_goals
    refine counted.quiet (by simp [State.stop, publishStep, Event.settles, Event.isFailedPrePoll]) rfl ?_ ?_
    · simp [*, Pc.limit, State.stop, publishStep]
    · simp [*, Pc.connecting, State.stop, publishStep]

def Unfailed (cycle : List (Event σ)) (s : State σ) : Prop :=
  match s.pc with
  | .shutdownCheck | .prePoll => cycle = []
  | .read | .results _ _ | .publish _ => ∀ e ∈ cycle, e.isFailedPrePoll = false
  | _ => True

theorem unfailed_step {trace events : List (Event σ)} {s s' : State σ}
    (unfailed : Unfailed (since Event.isCycle trace) s) (step : TaskStep t s s' events) :
    Unfailed (since Event.isCycle (trace ++ events)) s' := by
  cases step
  case connected | reconnected =>
      simp only [Unfailed, State.afterConnect]
      split_ifs <;> trivial
  case cycle => simp [Unfailed, Event.isCycle]
  case proceed place running =>
      simp only [Unfailed, place] at unfailed
      simp only [Unfailed, List.append_nil, unfailed]
      split_ifs <;> simp
  case prePolled place ok =>
      simp only [Unfailed, place] at unfailed
      simp [Unfailed, Event.isCycle, Event.isFailedPrePoll, unfailed]
  case prePollFailed =>
      simp only [Unfailed]
      split_ifs <;> trivial
  case readDone place done | completed place =>
      simp only [Unfailed, place] at unfailed
      rw [since_append _ _ _ (by simp [Event.isCycle])]
      exact List.forall_mem_append.mpr ⟨unfailed, by simp [Event.isFailedPrePoll]⟩
  case ignored place _ | stored place _ | errorCounted place _ _ =>
      simp only [Unfailed, place] at unfailed
      simpa [Unfailed] using unfailed
  all_goals trivial

theorem unfailed {initial : State σ} (place : initial.pc = .connect) {trace : List (Event σ)} {s : State σ}
    (run : (machine t).Run initial trace s) : Unfailed (since Event.isCycle trace) s := by
  refine own_invariant (P := fun trace s => Unfailed (since Event.isCycle trace) s) ?_ unfailed_step
    (fun _ _ _ _ holds => holds) run
  simp only [Unfailed, place]

theorem prePoll_first {initial : State σ} (place : initial.pc = .connect) {before after : List (Event σ)}
    {first last : σ} {steps : List WriteStep} {ok : Bool} {s : State σ}
    (run : (machine t).Run initial (before ++ .prePoll first steps ok last :: after) s) :
    since Event.isCycle before = [] := by
  obtain ⟨earlier, state, state', first, last, previous, step, rfl⟩ := run_emitted run
  obtain rfl := leading_step step rfl rfl
  have soFar := unfailed place previous
  rw [List.nil_append] at step
  rw [List.append_nil]
  cases step
  all_goals simp_all [Unfailed]

theorem result_unfailed {initial : State σ} (place : initial.pc = .connect)
    {before after : List (Event σ)} {e : Event σ} (result : e.isRead = true ∨ e.isPublish = true)
    {s : State σ} (run : (machine t).Run initial (before ++ e :: after) s) :
    ∀ e ∈ since Event.isCycle before, e.isFailedPrePoll = false := by
  obtain ⟨earlier, state, state', first, last, previous, step, rfl⟩ := run_emitted run
  have leads : e.leads = true := by
    cases e <;> simp_all [Event.isRead, Event.isPublish, Event.leads]
  obtain rfl := leading_step step rfl leads
  have soFar := unfailed place previous
  rw [List.append_nil]
  generalize split : [] ++ e :: last = events at step
  cases step <;> simp [State.stop, publishStep] at split <;> try (obtain ⟨rfl, -⟩ := split)
  all_goals simp_all [Unfailed, Event.isRead, Event.isPublish]

theorem failed_cycle_quiet {initial : State σ} (place : initial.pc = .connect)
    {before cycle rest : List (Event σ)} {s : State σ}
    (run : (machine t).Run initial (before ++ .cycle :: (cycle ++ rest)) s)
    (whole : ∀ e ∈ cycle, e.isCycle = false) {begun ended : σ} {steps : List WriteStep}
    (failed : .prePoll begun steps false ended ∈ cycle) :
    ∀ e ∈ cycle, e.isRead = false ∧ e.isPublish = false := by
  have since_part {part later : List (Event σ)} (split : cycle = part ++ later) :
      since Event.isCycle (before ++ .cycle :: part) = part := by
    rw [since_after_marker _ _ _ rfl, since_eq_self]
    intro e member
    exact whole e (by simp [split, member])
  obtain ⟨first, tail, split⟩ := List.append_of_mem failed
  have begins : first = [] := by
    have from_ : (machine t).Run initial
        ((before ++ .cycle :: first) ++ .prePoll begun steps false ended :: (tail ++ rest)) s := by
      simpa [split] using run
    rw [← since_part split]
    exact prePoll_first place from_
  subst begins
  rw [List.nil_append] at split
  have quiet {e : Event σ} (member : e ∈ cycle) : ¬(e.isRead = true ∨ e.isPublish = true) := by
    intro result
    have later : e ∈ tail := by
      rw [split] at member
      rcases List.mem_cons.mp member with rfl | later
      · simp [Event.isRead, Event.isPublish] at result
      · exact later
    obtain ⟨front, back, rfl⟩ := List.append_of_mem later
    have from_ : (machine t).Run initial
        ((before ++ .cycle :: (.prePoll begun steps false ended :: front)) ++ e :: (back ++ rest)) s := by
      simpa [split] using run
    have unfailed := result_unfailed place result from_
    rw [since_part (by rw [split, List.cons_append])] at unfailed
    simp [Event.isFailedPrePoll] at unfailed
  intro e member
  have := quiet member
  simpa using this

def Skips (after : List (Event σ)) : Prop :=
  after <+: [.outcome false, .disconnect, .returned .skipWait] ∨
    ∃ more, after = .outcome false :: .cycle :: more

def Recovers (after : List (Event σ)) : Prop :=
  after <+: [.outcome false, .disconnect] ∨
    ∃ backoff more, after = .outcome false :: .disconnect :: .backoffWait backoff :: more ∧
      ((∀ e ∈ more, e.isCycle = false) ∨
        ∃ front back, more = front ++ .connect true :: back ∧ ∀ e ∈ front, e.isCycle = false)

def SkipSoFar (after : List (Event σ)) (s : State σ) : Prop :=
  (after = [] ∧ s.pc = .skip) ∨
    (after = [.outcome false] ∧ (s.pc = .skipWait ∨ s.pc = .cycleStart)) ∨
    (after = [.outcome false, .disconnect, .returned .skipWait] ∧ s.pc = .returned .skipWait) ∨
    ∃ more, after = .outcome false :: .cycle :: more

theorem skip_step {after events : List (Event σ)} {s s' : State σ} (soFar : SkipSoFar after s)
    (step : TaskStep t s s' events) : SkipSoFar (after ++ events) s' := by
  rcases soFar with ⟨rfl, place⟩ | ⟨rfl, place | place⟩ | ⟨rfl, place⟩ | ⟨more, rfl⟩
  · cases step <;> simp_all [SkipSoFar]
  · cases step <;> simp_all [SkipSoFar, State.stop]
  · cases step <;> simp_all [SkipSoFar]
  · cases step <;> simp_all
  · exact .inr (.inr (.inr ⟨more ++ events, rfl⟩))

def RecoverSoFar (after : List (Event σ)) (s : State σ) : Prop :=
  (after = [] ∧ s.pc = .prePollAbort) ∨ (after = [.outcome false] ∧ s.pc = .reconnect) ∨
    (after = [.outcome false, .disconnect] ∧ s.pc = .reconnectWait) ∨
    ∃ backoff more, after = .outcome false :: .disconnect :: .backoffWait backoff :: more ∧
      ((s.pc.limit = 3 ∧ s.pc ≠ .prePollAbort ∧ ∀ e ∈ more, e.isCycle = false) ∨
        ∃ front back, more = front ++ .connect true :: back ∧ ∀ e ∈ front, e.isCycle = false)

theorem recover_step {after events : List (Event σ)} {s s' : State σ} (soFar : RecoverSoFar after s)
    (step : TaskStep t s s' events) : RecoverSoFar (after ++ events) s' := by
  rcases soFar with ⟨rfl, place⟩ | ⟨rfl, place⟩ | ⟨rfl, place⟩ | ⟨backoff, more, rfl, waiting | connected⟩
  · cases step <;> simp_all [RecoverSoFar]
  · cases step <;> simp_all [RecoverSoFar]
  · cases step <;> simp_all [RecoverSoFar, State.stop, Pc.limit, Event.isCycle]
  · obtain ⟨limit, started, quiet⟩ := waiting
    refine .inr (.inr (.inr ⟨backoff, more ++ events, rfl, ?_⟩))
    have keeps (small : ∀ e ∈ events, e.isCycle = false) : ∀ e ∈ more ++ events, e.isCycle = false :=
      List.forall_mem_append.mpr ⟨quiet, small⟩
    cases step
    case disconnected => exact .inl ⟨rfl, by simp, keeps (by simp [Event.isCycle])⟩
    case reconnectSlept => exact .inl ⟨rfl, by simp, keeps (by simp [Event.isCycle])⟩
    case reconnectStopped => exact .inl ⟨rfl, by simp [State.stop], keeps (by simp [State.stop, Event.isCycle])⟩
    case reconnectFailed => exact .inl ⟨rfl, by simp, keeps (by simp [Event.isCycle])⟩
    case reconnected => exact .inr ⟨more, [], rfl, quiet⟩
    case prePollAborted place => exact absurd place started
    case connectSlept place | initialised place _ | nextCycle place =>
      rcases place with place | place <;> simp [place, Pc.limit] at limit
    all_goals simp_all [Pc.limit]
  · obtain ⟨front, back, rfl, quiet⟩ := connected
    exact .inr (.inr (.inr ⟨backoff, _, rfl, .inr ⟨front, back ++ events, by simp, quiet⟩⟩))

theorem prePollFailed_cases {s s' : State σ} {events first last : List (Event σ)}
    {begun ended : σ} {steps : List WriteStep} (step : TaskStep t s s' events)
    (split : events = first ++ .prePoll begun steps false ended :: last) :
    first = [] ∧ last = [] ∧ s.pc = .prePoll ∧
      (steps = t.collector.prePoll ∧ ∃ e, executeWrites t steps begun = (.error e, ended)) ∧
      s'.pc = if 3 ≤ s.prePollFailures + 1 then .prePollAbort else .skip := by
  obtain rfl := leading_step step split rfl
  cases step <;> simp [State.stop, publishStep] at split
  case prePollFailed e world place failed =>
      obtain ⟨⟨rfl, rfl, rfl⟩, rfl⟩ := split
      exact ⟨rfl, rfl, place, ⟨rfl, e, failed⟩, rfl⟩

variable (t)

theorem prePolls_counted (world : σ) {internalMetrics : Bool} {trace : List (Event σ)} {s : State σ}
    (run : (machine t).Run (start t world internalMetrics) trace s) : Counted trace s := by
  refine own_invariant (P := Counted) ⟨rfl, Nat.zero_le _, fun _ => rfl⟩ prePoll_step ?_ run
  intro trace s _ _ _ _ counted
  exact ⟨counted.count, counted.limit, counted.fresh⟩

theorem failure_handled (world : σ) {internalMetrics : Bool} {before after : List (Event σ)} {s : State σ}
    {begun ended : σ} {steps : List WriteStep}
    (run : (machine t).Run (start t world internalMetrics) (before ++ .prePoll begun steps false ended :: after) s) :
    (steps = t.collector.prePoll ∧ ∃ e, executeWrites t steps begun = (.error e, ended)) ∧
      failures before < 3 ∧ if failures before = 2 then Recovers after else Skips after := by
  obtain ⟨earlier, state, state', first, last, rest, previous, step, rfl, rfl, resumed⟩ := run_resumed run
  obtain ⟨rfl, rfl, place, written, next⟩ := prePollFailed_cases step rfl
  have counted := prePolls_counted t world previous
  have below := counted.limit
  rw [place] at below
  rw [counted.count] at next
  rw [List.append_nil, List.nil_append]
  refine ⟨written, Nat.lt_succ_of_le below, ?_⟩
  split_ifs with third
  · rw [if_pos (by omega)] at next
    have soFar : RecoverSoFar rest s :=
      own_invariant (P := RecoverSoFar) (.inl ⟨rfl, next⟩) recover_step (fun _ _ _ _ holds => holds) resumed
    rcases soFar with ⟨rfl, -⟩ | ⟨rfl, -⟩ | ⟨rfl, -⟩ | ⟨backoff, more, rfl, waiting | connected⟩
    · exact .inl (by simp)
    · exact .inl (by simp)
    · exact .inl (by simp)
    · exact .inr ⟨backoff, more, rfl, .inl waiting.2.2⟩
    · exact .inr ⟨backoff, more, rfl, .inr connected⟩
  · have early : ¬3 ≤ failures earlier + 1 := fun late => third (le_antisymm below (by omega))
    rw [if_neg early] at next
    have soFar : SkipSoFar rest s :=
      own_invariant (P := SkipSoFar) (.inl ⟨rfl, next⟩) skip_step (fun _ _ _ _ holds => holds) resumed
    rcases soFar with ⟨rfl, -⟩ | ⟨rfl, -⟩ | ⟨rfl, -⟩ | more
    · exact .inl (by simp)
    · exact .inl (by simp)
    · exact .inl (by simp)
    · exact .inr more

/-- A cycle whose pre-poll fails reads and publishes nothing; every cycle begins with less than three
failures of the configured writes since the last success or connect; and the third is the one that is
followed by a reconnect, with no cycle before it connects. -/
theorem pre_poll_handled (world : σ) {internalMetrics : Bool} {trace : List (Event σ)} {s : State σ}
    (run : (machine t).Run (start t world internalMetrics) trace s) :
    (∀ before cycle rest begun steps ended, trace = before ++ .cycle :: (cycle ++ rest) →
      (∀ e ∈ cycle, e.isCycle = false) → .prePoll begun steps false ended ∈ cycle →
        ∀ e ∈ cycle, e.isRead = false ∧ e.isPublish = false) ∧
      s.prePollFailures = failures trace ∧ (s.pc = .cycleStart → failures trace < 3) ∧
      ∀ before begun steps ended after, trace = before ++ .prePoll begun steps false ended :: after →
        (steps = t.collector.prePoll ∧ ∃ e, executeWrites t steps begun = (.error e, ended)) ∧
          failures before < 3 ∧ if failures before = 2 then Recovers after else Skips after := by
  have counted := prePolls_counted t world run
  refine ⟨?_, counted.count, ?_, ?_⟩
  · rintro before cycle rest begun steps ended rfl whole failed
    exact failed_cycle_quiet rfl run whole failed
  · intro head
    have below := counted.limit
    rw [head] at below
    exact Nat.lt_succ_of_le below
  · rintro before begun steps ended after rfl
    exact failure_handled t world run

def pumpTask : Task Script where
  collector := { name := "pump", protocol := .i2c "/dev/i2c-1" 64, prePoll := [Script.enable]
                 metrics := [Script.metric "pressure"] }
  reader := Script.reader
  writer := some Script.writer
  globalLabels := ∅

theorem pre_poll_handled_pump :
    ∃ before begun ended after s, (machine pumpTask).Run (start pumpTask { writes := [false, false, false] } true)
        (before ++ .prePoll begun [Script.enable] false ended :: after) s ∧
      ended.written = [Script.enable, Script.enable, Script.enable] ∧ s.pc = .cycleStart ∧ failures before = 2 ∧
      Recovers after := by
  have polls : ∃ first second begun ended s, (machine pumpTask).exec
      (start pumpTask { writes := [false, false, false] } true) (List.replicate 18 (.task {})) =
        some ([.connect true, .cycle, first, .outcome false, .cycle, second, .outcome false, .cycle] ++
          .prePoll begun [Script.enable] false ended :: [.outcome false, .disconnect, .backoffWait initialBackoff,
          .connect true], s) ∧ s.pc = .cycleStart ∧ ended.written = [Script.enable, Script.enable, Script.enable] ∧
      failures [.connect true, .cycle, first, .outcome false, .cycle, second, .outcome false, .cycle] = 2 :=
    ⟨_, _, _, _, _, rfl, rfl, rfl, rfl⟩
  obtain ⟨first, second, begun, ended, s, executed, head, written, third⟩ := polls
  have run := Machine.exec_run executed
  have handled := ((pre_poll_handled pumpTask _ run).2.2.2 _ _ _ _ _ rfl).2.2
  rw [if_pos third] at handled
  exact ⟨_, begun, ended, _, s, run, written, head, third, handled⟩

end BusExporter.Collector
