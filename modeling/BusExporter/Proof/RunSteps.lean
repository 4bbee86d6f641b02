import BusExporter.Model.RunCommand
import BusExporter.Proof.CollectorSteps

/-! What one step of `run_command` and its tasks can do. -/

namespace BusExporter.Collector
open Lib Config

variable {σ : Type} {t : Task σ}

theorem store_step {s s' : State σ} {events : List (Event σ)} (step : TaskStep t s s' events) :
    (s'.store = s.store ∧ ∀ e ∈ events, e.isPublish = false) ∨
      ∃ env, s' = (publishStep t env s).1 ∧ events = (publishStep t env s).2 := by
  cases step
  case published env read place => exact .inr ⟨env, rfl, rfl⟩
  all_goals exact .inl ⟨rfl, by simp [State.stop, Event.isPublish]⟩

end BusExporter.Collector

namespace BusExporter.RunCommand
open Lib Config Collector

variable {n : Nat} {σ : Fin n → Type} (t : ∀ i, Collector.Task (σ i))

structure MainMoves (s s' : System σ) (events : List (Event σ)) : Prop where
  frame : s'.store = s.store ∧ s'.exporter = s.exporter ∧ s'.sharedMetrics = s.sharedMetrics
  collectors : ∀ i, ∃ shutdown, s'.collectors i = { s.collectors i with shutdown } ∧
    ((s.collectors i).shutdown = true → shutdown = true)
  events : ∀ e ∈ events, e = .exportersCancelled ∨ e = .flagSent ∨ e = .collectorsJoined ∨ e = .complete

inductive Step (s : System σ) : Input n → System σ → List (Event σ) → Prop
  | main {s' : System σ} {events : List (Event σ)} (moves : MainMoves s s' events) : Step s .main s' events
  | collector (i : Fin n) {env : Env} {next : Collector.State (σ i)} {own : List (Collector.Event (σ i))}
      (action : TaskStep (t i) (view s i) next own) :
      Step s (.collector i env)
        { s with
          collectors := Function.update s.collectors i next
          store := { s.store with map := next.store }
          internal := next.internal } (own.map (.collector i))
  | ticked (idle : s.exporter = .waiting) :
      Step s .tick
        { s with store := s.store.setWalk () (some (.start s.store.map)), exporter := .collecting } []
  | flushing (idle : s.exporter = .waiting) :
      Step s .flush
        { s with store := s.store.setWalk () (some (.start s.store.map)), exporter := .flushing } []
  | visited {w : Walk String (List MetricValue)} {name : String} (walking : s.store.walks () = some w)
      (fresh : name ∉ w.visited) :
      Step s (.visit name) { s with store := s.store.setWalk () (some (w.visit s.store.map name)) } []
  | collected {w : Walk String (List MetricValue)} (place : s.exporter = .collecting) :
      Step s .finish
        { s with
          store := s.store.setWalk () none, exporter := .waiting
          sharedMetrics := StoreAccess.flat w.collected } []
  | flushed {w : Walk String (List MetricValue)} (place : s.exporter = .flushing)
      (walking : s.store.walks () = some w) (done : w.due = []) :
      Step s .finish
        { s with
          store := s.store.setWalk () none, exporter := .flushed
          sharedMetrics := StoreAccess.flat w.collected } [.finalSnapshot w.collected]
  | stopped (place : s.exporter = .flushed) :
      Step s .shutdownProvider { s with exporter := .stopped } [.exported s.sharedMetrics]

theorem mainStep_cases {s s' : System σ} {events : List (Event σ)}
    (action : mainStep s = some (s', events)) : MainMoves s s' events := by
  unfold mainStep at action
  cases place : s.main with
  | serving =>
      simp only [place] at action
      cases action
      exact ⟨⟨rfl, rfl, rfl⟩, fun i => ⟨_, rfl, id⟩, by simp⟩
  | cancelled =>
      simp only [place] at action
      cases action
      exact ⟨⟨rfl, rfl, rfl⟩, fun i => ⟨true, rfl, fun _ => rfl⟩, by simp⟩
  | signalled =>
      simp only [place] at action
      split_ifs at action
      cases action
      exact ⟨⟨rfl, rfl, rfl⟩, fun i => ⟨_, rfl, id⟩, by simp⟩
  | joined =>
      simp only [place] at action
      split_ifs at action
      cases action
      exact ⟨⟨rfl, rfl, rfl⟩, fun i => ⟨_, rfl, id⟩, by simp⟩
  | done => simp [place] at action

theorem walk_starts {store store' : StoreAccess.Shared Unit} {events : List (StoreAccess.Event Unit)}
    (begun : StoreAccess.step store (.start ()) = some (store', events)) :
    store' = store.setWalk () (some (.start store.map)) := by
  cases walking : store.walks () with
  | none =>
      simp only [StoreAccess.step, walking] at begun
      cases begun
      rfl
  | some w => simp [StoreAccess.step, walking] at begun

theorem exporterStep_cases {s s' : System σ} {input : Input n} {events : List (Event σ)}
    (action : exporterStep s input = some (s', events)) : Step t s input s' events := by
  cases input with
  | main => cases action
  | collector i env => cases action
  | tick =>
      simp only [exporterStep] at action
      split_ifs at action with idle
      obtain ⟨⟨store, begins⟩, begun, same⟩ := Option.map_eq_some_iff.mp action
      obtain rfl := walk_starts begun
      cases same
      exact .ticked idle
  | flush =>
      simp only [exporterStep] at action
      split_ifs at action with idle
      obtain ⟨⟨store, begins⟩, begun, same⟩ := Option.map_eq_some_iff.mp action
      obtain rfl := walk_starts begun
      cases same
      exact .flushing idle.1
  | visit name =>
      cases walking : s.store.walks () with
      | none => simp [exporterStep, StoreAccess.step, walking] at action
      | some w =>
          simp only [exporterStep, StoreAccess.step, walking] at action
          split_ifs at action with seen
          · cases action
          · cases action
            exact .visited walking seen
  | finish =>
      cases walking : s.store.walks () with
      | none => simp [exporterStep, StoreAccess.step, walking] at action
      | some w =>
          by_cases done : w.due = []
          · cases place : s.exporter with
            | collecting =>
                simp only [exporterStep, StoreAccess.step, walking, place, if_pos done] at action
                cases action
                exact .collected place
            | flushing =>
                simp only [exporterStep, StoreAccess.step, walking, place, if_pos done] at action
                cases action
                exact .flushed place walking done
            | waiting | flushed | stopped => simp [exporterStep, place] at action
          · simp [exporterStep, StoreAccess.step, walking, done] at action
  | shutdownProvider =>
      simp only [exporterStep] at action
      split_ifs at action with place
      cases action
      exact .stopped place

theorem step_cases {s s' : System σ} {input : Input n} {events : List (Event σ)}
    (action : step t s input = some (s', events)) : Step t s input s' events := by
  cases input with
  | main => exact .main (mainStep_cases action)
  | collector i env =>
      obtain ⟨⟨next, own⟩, moved, same⟩ := Option.map_eq_some_iff.mp action
      cases same
      exact .collector i (taskStep_cases (t i) moved)
  | tick | flush | visit name | finish | shutdownProvider =>
      simp only [step] at action
      exact exporterStep_cases t action

end BusExporter.RunCommand
