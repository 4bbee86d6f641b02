import BusExporter.Model.Factory
import BusExporter.Proof.CollectorSteps

/-! How a collector stops: it returns where it sees the shutdown and nowhere else, with its token
cancelled and its reader disconnected, and does nothing more. -/

namespace BusExporter.Collector
open Lib Config

variable {σ : Type} (t : Task σ)

def Observes (env : Env) (s : State σ) : Prop :=
  match s.pc with
  | .connectWait | .initWritesWait | .reconnectWait => env.wake = .shutdown
  | .shutdownCheck => s.shutdown = true
  | .skipWait => env.elapsed < t.collector.pollingInterval ∧ env.wake = .shutdown
  | .endWait =>
      if env.elapsed < t.collector.pollingInterval then env.wake = .shutdown else s.shutdown = true
  | _ => False

def Disconnected (s : State σ) : Prop := ∃ w, s.world = (t.reader.disconnect w).2

def Returned (s : State σ) : Prop := ∃ path, s.pc = .returned path

def Clean (s : State σ) : Prop := s.cancelled = true ∧ Disconnected t s

def LeavesClean (s : State σ) : Prop :=
  (s.pc = .initWritesWait → Disconnected t s) ∧ (Returned s → Clean t s)

variable {t}

theorem leavesClean_elsewhere {s : State σ} (waits : s.pc ≠ .initWritesWait)
    (runs : ∀ path, s.pc ≠ .returned path) : LeavesClean t s :=
  ⟨fun place => absurd place waits, fun ⟨path, place⟩ => absurd place (runs path)⟩

theorem leavesClean_stop (s : State σ) (path : ReturnPath) : LeavesClean t (s.stop t path).1 :=
  ⟨nofun, fun _ => ⟨rfl, s.world, rfl⟩⟩

theorem leavesClean_step {s s' : State σ} {events : List (Event σ)} (before : LeavesClean t s)
    (step : TaskStep t s s' events) : LeavesClean t s' := by
  cases step
  case connectStopped | shutdownSeen | skipStopped | endStopped | reconnectStopped =>
      exact leavesClean_stop s _
  case initFailed e world place failed =>
      exact ⟨fun _ => ⟨world, rfl⟩, nofun⟩
  case initStopped place changed =>
      obtain ⟨w, left⟩ := before.1 place
      exact ⟨nofun, fun _ => ⟨rfl, w, left⟩⟩
  case connected place ok | reconnected place ok =>
      apply leavesClean_elsewhere
      all_goals
        simp only [State.afterConnect]
        split_ifs <;> simp
  case proceed place running =>
      apply leavesClean_elsewhere
      all_goals
        simp only
        split_ifs <;> simp
  case prePollFailed e world place failed =>
      apply leavesClean_elsewhere
      all_goals
        simp only
        split_ifs <;> simp
  all_goals
    apply leavesClean_elsewhere
    all_goals simp [publishStep]

theorem leavesClean {world : σ} {internalMetrics : Bool} {trace : List (Event σ)} {s : State σ}
    (run : (machine t).Run (start t world internalMetrics) trace s) : LeavesClean t s := by
  refine own_invariant (P := fun _ s => LeavesClean t s) ?_ leavesClean_step
    (fun _ _ _ _ clean => clean) run
  exact leavesClean_elsewhere (by simp [start]) (by simp [start])

def Pc.watches : Pc → Bool
  | .connectWait | .initWritesWait | .shutdownCheck | .skipWait | .endWait | .reconnectWait => true
  | _ => false

theorem returned_step {s s' : State σ} {events : List (Event σ)} (step : TaskStep t s s' events)
    (returned : Returned s') : s.pc.watches = true := by
  obtain ⟨path, left⟩ := returned
  cases step
  case connectStopped place _ | initStopped place _ | shutdownSeen place _ | skipStopped place _
      | reconnectStopped place _ => rw [place]; rfl
  case endStopped path place ends changed => rw [place]; rfl
  case connected place ok | reconnected place ok =>
      simp only [State.afterConnect] at left
      split_ifs at left
  case proceed place running =>
      simp only at left
      split_ifs at left
  case prePollFailed e world place failed =>
      simp only at left
      split_ifs at left
  all_goals cases left

theorem observes_iff {env : Env} {s s' : State σ} {events : List (Event σ)}
    (action : taskStep t env s = some (s', events)) : Observes t env s ↔ Returned s' := by
  have watched := returned_step (taskStep_cases t action)
  unfold Observes
  unfold taskStep at action
  cases place : s.pc with
  | connectWait | initWritesWait | reconnectWait =>
      simp only [place] at action
      cases wake : env.wake with
      | slept =>
          simp only [wake] at action
          cases action
          exact ⟨nofun, nofun⟩
      | shutdown =>
          simp only [wake] at action
          split_ifs at action
          cases action
          exact ⟨fun _ => ⟨_, rfl⟩, fun _ => rfl⟩
  | shutdownCheck =>
      simp only [place] at action
      split_ifs at action with requested writes
      · cases action
        exact ⟨fun _ => ⟨_, rfl⟩, fun _ => requested⟩
      · cases action
        exact ⟨fun seen => absurd seen requested, nofun⟩
      · cases action
        exact ⟨fun seen => absurd seen requested, nofun⟩
  | skipWait =>
      simp only [place] at action
      split_ifs at action with woken changed
      · cases action
        exact ⟨fun _ => ⟨_, rfl⟩, fun _ => woken⟩
      · cases action
        exact ⟨fun seen => absurd seen woken, nofun⟩
  | endWait =>
      simp only [place] at action
      by_cases early : env.elapsed < t.collector.pollingInterval
      · simp only [if_pos early] at action ⊢
        cases wake : env.wake with
        | slept =>
            simp only [wake] at action
            cases action
            exact ⟨nofun, nofun⟩
        | shutdown =>
            simp only [wake] at action
            split_ifs at action
            cases action
            exact ⟨fun _ => ⟨_, rfl⟩, fun _ => rfl⟩
      · simp only [if_neg early] at action ⊢
        split_ifs at action with requested
        · cases action
          exact ⟨fun _ => ⟨_, rfl⟩, fun _ => requested⟩
        · cases action
          exact ⟨fun seen => absurd seen requested, nofun⟩
  | _ =>
      refine ⟨False.elim, fun returned => ?_⟩
      have here := watched returned
      rw [place] at here
      cases here

theorem returning_events {s s' : State σ} {events : List (Event σ)} {path : ReturnPath}
    (step : TaskStep t s s' events) (place : s'.pc = .returned path) :
    ∀ e ∈ events, e.isRead = false ∧ e.isPublish = false := by
  cases step
  case readDone | published => cases place
  all_goals simp [State.stop, Event.isRead, Event.isPublish]

theorem returned_quiet {s s' : State σ} {later : List (Event σ)} (returned : Returned s)
    (run : (machine t).Run s later s') :
    later = [] ∧ Returned s' ∧ s'.cancelled = s.cancelled ∧ s'.world = s.world := by
  refine run_invariant (P := fun later s' => later = [] ∧ Returned s' ∧ s'.cancelled = s.cancelled ∧
    s'.world = s.world) ⟨rfl, returned, rfl, rfl⟩ ?_ ?_ run
  · rintro later u u' events ⟨-, ⟨path, place⟩, -⟩ step
    cases step <;> simp_all
  · rintro later u u' ⟨quiet, ⟨path, place⟩, cancelled, world⟩ others
    obtain ⟨shutdown, senderDropped, store, internal, rfl⟩ := others.frame
    exact ⟨quiet, ⟨path, place⟩, cancelled, world⟩

variable (t)

/-- Whatever happened before: a collector that has returned has cancelled its token and disconnected its
reader last, it returns by the step that sees the shutdown, and from that step on it neither reads nor
publishes. Each shipped reader is not connected after a disconnect. -/
theorem stops_clean {world : σ} {internalMetrics : Bool} {trace : List (Event σ)} {s : State σ}
    (run : (machine t).Run (start t world internalMetrics) trace s) :
    (Returned s → Clean t s) ∧
      (∀ env s' events, taskStep t env s = some (s', events) →
        (Observes t env s ↔ Returned s') ∧
          (Observes t env s → ∀ later final, (machine t).Run s' later final →
            Returned final ∧ Clean t final ∧
              ∀ e ∈ events ++ later, e.isRead = false ∧ e.isPublish = false)) ∧
      ∀ {κ ω : Type} (platform : Platform κ ω) (w : BusReader κ ω × ω),
        (BusReader.metricReader platform).isConnected ((BusReader.metricReader platform).disconnect w).2 =
          false := by
  refine ⟨(leavesClean run).2, ?_, ?_⟩
  · intro env s' events action
    refine ⟨observes_iff action, ?_⟩
    intro seen later final rest
    have returned := (observes_iff action).mp seen
    have clean := (leavesClean_step (leavesClean run) (taskStep_cases t action)).2 returned
    obtain ⟨rfl, still, cancelled, left⟩ := returned_quiet returned rest
    refine ⟨still, ⟨cancelled.trans clean.1, by rw [Disconnected, left]; exact clean.2⟩, ?_⟩
    obtain ⟨path, place⟩ := returned
    intro e member
    rw [List.append_nil] at member
    exact returning_events (taskStep_cases t action) place e member
  · intro κ ω platform w
    obtain ⟨reader, bus⟩ := w
    cases reader <;> rfl

/-- A collector whose init writes fail is shut down while it waits. -/
theorem stops_clean_uninitialised :
    ∃ trace s, (machine (Script.task [] [Script.enable])).Run
        (start (Script.task [] [Script.enable]) { writes := [false] } false) trace s ∧
      s.pc = .returned .initWritesWait ∧ Clean (Script.task [] [Script.enable]) s := by
  have returns : ((machine (Script.task [] [Script.enable])).exec
      (start (Script.task [] [Script.enable]) { writes := [false] } false)
      [.task {}, .task {}, .sendShutdown, .task { wake := .shutdown }]).map (·.2.pc) =
      some (.returned .initWritesWait) := rfl
  obtain ⟨⟨trace, s⟩, executed, place⟩ := Option.map_eq_some_iff.mp returns
  have run := Machine.exec_run executed
  exact ⟨trace, s, run, place, (stops_clean _ run).1 ⟨_, place⟩⟩

end BusExporter.Collector
