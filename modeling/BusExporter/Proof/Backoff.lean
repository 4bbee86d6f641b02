import BusExporter.Proof.CollectorSteps

/-! The waits between connection attempts. A connect that succeeds resets the backoff before a poll
cycle has completed, so that the waits follow the documented sequence just where no such connect is in
vain. -/

namespace BusExporter.Collector
open Lib Config

variable {σ : Type}

def Event.isWait : Event σ → Bool
  | .backoffWait _ => true
  | _ => false

def waits (stretch : List (Event σ)) : Nat := stretch.countP Event.isWait

def delay (earlier : Nat) : Duration := min (2 ^ earlier * initialBackoff) maxBackoff

theorem delay_eq (earlier : Nat) : delay earlier = min (2 ^ earlier * 1000000000) (60000000000 : Nat) := rfl

theorem delay_zero : delay 0 = initialBackoff := by
  simp [delay, initialBackoff, maxBackoff, Duration.fromSecs]

theorem delay_succ (earlier : Nat) : min (delay earlier * 2) maxBackoff = delay (earlier + 1) := by
  rw [delay_eq, delay_eq, pow_succ]
  show min (min (2 ^ earlier * 1000000000) 60000000000 * 2) 60000000000 =
    min (2 ^ earlier * 2 * 1000000000) (60000000000 : Nat)
  omega

theorem delay_first {earlier : Nat} (same : delay 0 = delay earlier) : earlier = 0 := by
  rw [delay_eq, delay_eq] at same
  have exact : (min (2 ^ 0 * 1000000000) 60000000000 : Nat) = min (2 ^ earlier * 1000000000) 60000000000 :=
    same
  by_contra later
  have double : 2 ≤ 2 ^ earlier := Nat.le_self_pow later 2
  omega

def Documented (trace : List (Event σ)) : Prop :=
  ∀ before d after, trace = before ++ .backoffWait d :: after →
    d = delay (waits (since Event.isCompleted before))

def Reconnected (stretch : List (Event σ)) : Prop :=
  ∃ first d between last, stretch = first ++ .backoffWait d :: (between ++ .connect true :: last)

def BackoffSoFar (trace : List (Event σ)) (s : State σ) : Prop :=
  (∃ path, s.pc = .returned path) ∨
    s.backoff = delay (waits (since Event.isConnected (since Event.isCompleted trace)))

variable {t : Task σ}

theorem waits_append (trace events : List (Event σ))
    (plain : ∀ e ∈ events, e.isCompleted = false ∧ e.isConnected = false) :
    waits (since Event.isConnected (since Event.isCompleted (trace ++ events))) =
      waits (since Event.isConnected (since Event.isCompleted trace)) + waits events := by
  rw [since_append _ _ _ fun e member => (plain e member).1,
    since_append _ _ _ fun e member => (plain e member).2, waits, List.countP_append]
  rfl

theorem backoff_step {trace events : List (Event σ)} {s s' : State σ} (soFar : BackoffSoFar trace s)
    (step : TaskStep t s s' events) : BackoffSoFar (trace ++ events) s' := by
  rcases soFar with ⟨path, returned⟩ | soFar
  · cases step <;> simp_all
  · cases step
    -- a connect resets the backoff before its init writes and before any poll
    case connected place ok | reconnected place ok =>
        refine .inr ?_
        rw [since_append _ _ _ (by simp [Event.isCompleted])]
        simp [Event.isConnected, waits, State.afterConnect, delay_zero]
    case completed env read place =>
        refine .inr ?_
        rw [List.append_cons, since_append_singleton, if_pos (by rfl)]
        exact delay_zero.symm
    case connectSlept place | reconnectSlept place =>
        refine .inr ?_
        rw [waits_append _ _ (by simp [Event.isCompleted, Event.isConnected]), State.doubled]
        simp only [soFar, delay_succ]
        rfl
    case connectStopped | initStopped | shutdownSeen | skipStopped | endStopped | reconnectStopped =>
        exact .inl ⟨_, rfl⟩
    all_goals
      refine .inr ?_
      rw [waits_append _ _ (by simp [Event.isCompleted, Event.isConnected, publishStep])]
      exact soFar

theorem wait_cases {s s' : State σ} {events first last : List (Event σ)} {d : Duration}
    (step : TaskStep t s s' events) (split : events = first ++ .backoffWait d :: last) :
    first = [] ∧ d = s.backoff ∧ ∀ path, s.pc ≠ .returned path := by
  obtain rfl := leading_step step split rfl
  cases step <;> simp [State.stop, publishStep] at split <;> simp [*]
  case connectSlept place => rcases place with place | place <;> simp [place]

variable (t) (world : σ) (internalMetrics : Bool)

theorem wait_exact {before after : List (Event σ)} {d : Duration} {s : State σ}
    (run : (machine t).Run (start t world internalMetrics) (before ++ .backoffWait d :: after) s) :
    d = delay (waits (since Event.isConnected (since Event.isCompleted before))) := by
  obtain ⟨trace, state, state', first, rest, previous, step, split⟩ := run_emitted run
  have soFar : BackoffSoFar trace state :=
    own_invariant (P := BackoffSoFar) (.inr delay_zero.symm) backoff_step (fun _ _ _ _ holds => holds)
      previous
  obtain ⟨rfl, rfl, running⟩ := wait_cases step rfl
  rw [split, List.append_nil]
  rcases soFar with ⟨path, returned⟩ | exact
  · exact absurd returned (running path)
  · exact exact

theorem connected_cases {e : Event σ} (connected : e.isConnected = true) : e = .connect true := by
  cases e <;> simp_all [Event.isConnected]

theorem wait_cases_of {e : Event σ} (isWait : e.isWait = true) : ∃ d, e = .backoffWait d := by
  cases e <;> simp_all [Event.isWait]

theorem waits_pos {stretch : List (Event σ)} (waited : waits stretch ≠ 0) :
    ∃ first d last, stretch = first ++ .backoffWait d :: last := by
  obtain ⟨e, member, isWait⟩ := List.countP_pos_iff.mp (Nat.pos_of_ne_zero waited)
  obtain ⟨d, rfl⟩ := wait_cases_of isWait
  obtain ⟨first, last, split⟩ := List.append_of_mem member
  exact ⟨first, d, last, split⟩

theorem waits_since_connected {stretch : List (Event σ)} (straight : ¬Reconnected stretch) :
    waits (since Event.isConnected stretch) = waits stretch := by
  rcases since_cases Event.isConnected stretch with none | ⟨before, e, connected, split⟩
  · rw [since_eq_self _ none]
  · obtain rfl := connected_cases connected
    have unwaited : waits before = 0 := by
      by_contra waited
      obtain ⟨first, d, between, rfl⟩ := waits_pos waited
      apply straight
      exact ⟨first, d, between, since Event.isConnected stretch, by simpa using split⟩
    have counted := congrArg waits split
    rw [waits, waits, List.countP_append, List.countP_cons] at counted
    rw [waits] at unwaited
    rw [waits, waits, counted, unwaited]
    simp [Event.isWait]

theorem first_wait (stretch : List (Event σ)) (d : Duration) :
    ∃ first d' last, stretch ++ [.backoffWait d] = first ++ .backoffWait d' :: last ∧
      waits first = 0 := by
  induction stretch with
  | nil => exact ⟨[], d, [], rfl, rfl⟩
  | cons e stretch ih =>
      cases wait : e.isWait with
      | true =>
          obtain ⟨d', rfl⟩ := wait_cases_of wait
          exact ⟨[], d', stretch ++ [.backoffWait d], rfl, rfl⟩
      | false =>
          obtain ⟨first, d', last, split, none⟩ := ih
          refine ⟨e :: first, d', last, by rw [List.cons_append, split, List.cons_append], ?_⟩
          rw [waits, List.countP_cons, wait]
          exact none

theorem not_documented {before after : List (Event σ)} {d : Duration} {s : State σ}
    (run : (machine t).Run (start t world internalMetrics) (before ++ .backoffWait d :: after) s)
    (again : Reconnected (since Event.isCompleted before)) :
    ¬Documented (before ++ .backoffWait d :: after) := by
  intro documented
  obtain ⟨first, d', between, last, stretch⟩ := again
  obtain ⟨early, split⟩ := since_suffix Event.isCompleted before
  -- the backoff was reset by the connect, and no wait has doubled it since
  obtain ⟨quiet, short, rest, next, unwaited⟩ := first_wait last d
  let upto := first ++ .backoffWait d' :: (between ++ .connect true :: quiet)
  have whole : early ++ (upto ++ .backoffWait short :: rest) = before ++ [.backoffWait d] := by
    rw [← split, stretch]
    simp only [upto, List.append_assoc, List.cons_append, next]
  have trace : before ++ .backoffWait d :: after =
      (early ++ upto) ++ .backoffWait short :: (rest ++ after) := by
    have extended := congrArg (· ++ after) whole
    simpa only [List.append_assoc, List.cons_append, List.nil_append] using extended.symm
  have since_upto : since Event.isCompleted (early ++ upto) = upto := by
    apply since_of_prefix _ (.backoffWait short :: rest)
    rw [whole, since_append_singleton, if_neg (by simp [Event.isCompleted]), stretch]
    simp only [upto, List.append_assoc, List.cons_append, next]
  have since_quiet : waits (since Event.isConnected upto) = 0 := by
    have after_connect : upto = (first ++ .backoffWait d' :: between) ++ .connect true :: quiet := by
      simp [upto]
    rw [after_connect, since_after_marker _ _ _ rfl]
    exact Nat.le_zero.mp (unwaited ▸ (since_suffix _ quiet).sublist.countP_le)
  have actual := wait_exact t world internalMetrics (trace ▸ run)
  have promised := documented _ _ _ trace
  rw [since_upto] at actual promised
  rw [since_quiet, promised] at actual
  have none := delay_first actual.symm
  simp [upto, waits, Event.isWait] at none

theorem documented_iff {trace : List (Event σ)} {s : State σ}
    (run : (machine t).Run (start t world internalMetrics) trace s) :
    Documented trace ↔ ∀ before d after, trace = before ++ .backoffWait d :: after →
      ¬Reconnected (since Event.isCompleted before) := by
  constructor
  · intro documented before d after split again
    subst split
    exact not_documented t world internalMetrics run again documented
  · intro straight before d after split
    subst split
    rw [wait_exact t world internalMetrics run,
      waits_since_connected (straight before d after rfl)]

def rejectedTrace : List (Event Script) :=
  [.connect true,
    .initWrites { connected := true, writes := [false, false] } [Script.enable] false
      { connected := true, writes := [false], written := [Script.enable] },
    .disconnect, .backoffWait 1000000000, .connect true,
    .initWrites { connected := true, writes := [false], written := [Script.enable] } [Script.enable] false
      { connected := true, written := [Script.enable, Script.enable] },
    .disconnect, .backoffWait 1000000000]

theorem rejected_run : ∃ s, (machine (Script.task [] [Script.enable])).Run
    (start (Script.task [] [Script.enable]) { writes := [false, false] } false) rejectedTrace s := by
  have executes : ((machine (Script.task [] [Script.enable])).exec
      (start (Script.task [] [Script.enable]) { writes := [false, false] } false)
      (List.replicate 6 (.task {}))).map (·.1) = some rejectedTrace := rfl
  obtain ⟨⟨trace, s⟩, executed, rfl⟩ := Option.map_eq_some_iff.mp executes
  exact ⟨s, Machine.exec_run executed⟩

theorem documented_iff_rejected :
    Documented rejectedTrace ↔ ∀ before d after, rejectedTrace = before ++ .backoffWait d :: after →
      ¬Reconnected (since Event.isCompleted before) := by
  obtain ⟨s, run⟩ := rejected_run
  exact documented_iff _ _ _ run

theorem backoff_restarts :
    ¬∀ trace s, (machine (Script.task [] [Script.enable])).Run
      (start (Script.task [] [Script.enable]) { writes := [false, false] } false) trace s →
        Documented trace := by
  intro claimed
  obtain ⟨s, run⟩ := rejected_run
  have second := claimed rejectedTrace s run (rejectedTrace.take 7) 1000000000 [] rfl
  have earlier : waits (since Event.isCompleted (rejectedTrace.take 7)) = 1 := by decide
  rw [earlier] at second
  simp [delay, initialBackoff, maxBackoff, Duration.fromSecs] at second

end BusExporter.Collector
