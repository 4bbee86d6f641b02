import BusExporter.Proof.PollCounts
import BusExporter.Proof.PublishSteps
import BusExporter.Proof.ScrapedPages

/-! How the daemon ends: the order in which the main task lets go of the others, and what is left to happen once
it has waited for them. -/

namespace BusExporter.Mqtt
open Lib Config

def Idle (s : State) : Prop :=
  match s.pc with
  | .start | .connecting _ | .waiting _ | .returned => s.connection.eventLoop = .ended
  | _ => True

theorem idle_step {config : MqttExporterConfig} {s s' : State} {input : Input} {events : List Event}
    (idle : Idle s) (step : Step config s input s' events) : Idle s' := by
  cases step with
  | unconfigured place | configured place | slept place | waitStopped place =>
      rw [Idle, place] at idle
      exact idle
  | joinStopped place gone | joined place gone running | left place gone => exact gone
  | cancelled => exact idle
  | kept place up =>
      rw [Idle, place]
      trivial
  | polled running reported =>
      unfold Idle at idle ⊢
      split at idle
      all_goals first
        | exact absurd (running.symm.trans idle) (by decide)
        | trivial
  | eventLoopStopped | eventLoopEnded =>
      unfold Idle
      split <;> trivial
  | _ => trivial

end BusExporter.Mqtt

namespace BusExporter.Collector
open Lib Config

variable {σ : Type} (t : Task σ)

/-! What a collector that has been sent the flag may still do. -/

def Pc.readsLeft : Pc → Nat
  | .prePoll | .read => 1
  | _ => 0

def Pc.publishesLeft : Pc → Nat
  | .prePoll | .read | .results _ _ | .publish _ => 1
  | _ => 0

def Pc.cyclesLeft : Pc → Nat
  | .shutdownCheck | .returned _ | .panicked _ => 0
  | _ => 1

structure Spends (pc pc' : Pc) (events : List (Event σ)) : Prop where
  reads : events.countP Event.isRead + pc'.readsLeft ≤ pc.readsLeft
  publishes : events.countP Event.isPublish + pc'.publishesLeft ≤ pc.publishesLeft
  cycles : events.countP Event.isCycle + pc'.cyclesLeft ≤ pc.cyclesLeft

theorem Spends.trans {a b c : Pc} {first last : List (Event σ)} (before : Spends a b first)
    (after : Spends b c last) : Spends a c (first ++ last) := by
  constructor
  · rw [List.countP_append, Nat.add_assoc]
    exact (Nat.add_le_add_left after.reads _).trans before.reads
  · rw [List.countP_append, Nat.add_assoc]
    exact (Nat.add_le_add_left after.publishes _).trans before.publishes
  · rw [List.countP_append, Nat.add_assoc]
    exact (Nat.add_le_add_left after.cycles _).trans before.cycles

theorem flagged_spends {s s' : State σ} {events : List (Event σ)} (sent : s.shutdown = true)
    (step : TaskStep t s s' events) : Spends s.pc s'.pc events := by
  -- each of the counts is a numeral once the place is known
  have counts {a b : Nat} (small : Nat.ble a b = true) : a ≤ b := Nat.le_of_ble_eq_true small
  cases step with
  | proceed place running =>
      rw [sent] at running
      cases running
  | connectSlept place | initialised place ok | nextCycle place =>
      rcases place with place | place <;> rw [place] <;> exact ⟨counts rfl, counts rfl, counts rfl⟩
  | endStopped path place ends changed =>
      rw [place]
      exact ⟨counts rfl, counts rfl, counts rfl⟩
  | connected place ok | reconnected place ok =>
      rw [place, State.afterConnect]
      dsimp only
      split_ifs <;> exact ⟨counts rfl, counts rfl, counts rfl⟩
  | prePollFailed place failed =>
      rw [place]
      dsimp only
      split_ifs <;> exact ⟨counts rfl, counts rfl, counts rfl⟩
  | connectFailed place | connectStopped place | initFailed place | initStopped place | cycle place
  | shutdownSeen place | prePolled place | skipped env place | skipStopped place | prePollAborted env place
  | readPanicked place | readDone env place | ignored place | stored env place | errorCounted place
  | connectionLost place | completed env place | aborted env place | published env place | disconnected place
  | reconnectSlept place | reconnectStopped place | reconnectFailed place | reinitFailed place =>
      rw [place]
      exact ⟨counts rfl, counts rfl, counts rfl⟩

end BusExporter.Collector

namespace BusExporter.Daemon
open Lib Config

variable {n : Nat} {σ : Fin n → Type} {config : Config} {t : ∀ i, Collector.Task (σ i)} {worlds : ∀ i, σ i}
  {startTime : Internal.Instant} {trace : List (Event σ)} {s s' : System σ} {input : Input n}
  {events : List (Event σ)}

def Main.place : Main → Nat
  | .serving => 0
  | .cancelled => 1
  | .signalled => 2
  | .collectorsAwaited => 3
  | .prometheusJoined => 4
  | .otlpJoined => 5
  | .done => 6

theorem Main.place_injective : Function.Injective Main.place := by
  intro a b same
  cases a <;> cases b <;> simp [Main.place] at same <;> rfl

def Milestone (s : System σ) : Main → Prop
  | .cancelled => ∀ own ∈ s.mqtt, own.cancelled = true
  | .signalled => ∀ i, (s.collectors i).shutdown = true
  | .prometheusJoined => ∀ server ∈ s.prometheus, server = .stopped
  | .otlpJoined => ∀ own ∈ s.otlp, own.pc = .stopped
  | .done => ∀ own ∈ s.mqtt, own.pc = .returned
  | .serving | .collectorsAwaited => True

structure Ordered (s : System σ) : Prop where
  reached : ∀ main : Main, main.place ≤ s.main.place → Milestone s main
  handlers : (∀ server ∈ s.prometheus, server = .binding ∨ server = .stopped) → s.handlers.entries = []
  idle : ∀ own ∈ s.mqtt, Mqtt.Idle own

theorem finished_otlp {own : Otlp.State} (finished : otlpFinished own = true) : own.pc = .stopped := by
  unfold otlpFinished at finished
  split at finished
  · assumption
  · cases finished

theorem finished_mqtt {own : Mqtt.State} (finished : mqttFinished own = true) : own.pc = .returned := by
  unfold mqttFinished at finished
  split at finished
  · assumption
  · cases finished

theorem flag_kept {i : Fin n} {env : Collector.Env} {next : Collector.State (σ i)}
    {own : List (Collector.Event (σ i))}
    (action : Collector.taskStep (t i) env (s.view i) = some (next, own)) :
    next.shutdown = (s.collectors i).shutdown := by
  cases Collector.taskStep_cases (t i) action <;> rfl

theorem Ordered.own_mqtt (ordered : Ordered s) {own next : Mqtt.State} (present : s.mqtt = some own)
    {mqtt : MqttExporterConfig} {input : Mqtt.Input} {shown : List Mqtt.Event} (alone : input ≠ .cancel)
    (action : Mqtt.step mqtt own input = some (next, shown)) :
    next.cancelled = own.cancelled ∧ own.pc ≠ .returned ∧ Mqtt.Idle next := by
  have idle := ordered.idle own present
  have step := Mqtt.step_cases action
  refine ⟨?_, ?_, Mqtt.idle_step idle step⟩
  · cases step
    case cancelled => exact absurd rfl alone
    all_goals rfl
  · intro returned
    rw [Mqtt.Idle, returned] at idle
    cases step
    case polled running reported => exact absurd (running.symm.trans idle) (by decide)
    case eventLoopStopped running requested => exact absurd (running.symm.trans idle) (by decide)
    case eventLoopEnded failed => exact absurd (failed.symm.trans idle) (by decide)
    case cancelled => exact absurd rfl alone
    all_goals simp_all

theorem Ordered.serving (ordered : Ordered s) {id : Nat} {handler : Handler}
    (present : s.handlers.lookup id = some handler) :
    ¬∀ server ∈ s.prometheus, server = .binding ∨ server = .stopped := by
  intro idle
  have none : s.handlers.entries.dlookup id = some handler := present
  rw [ordered.handlers idle] at none
  cases none

theorem Ordered.joined (ordered : Ordered s) {main : Main} (next : main.place = s.main.place + 1)
    (here : Milestone s main) : Ordered { s with main } where
  reached := by
    intro main' reached
    rcases Nat.lt_or_eq_of_le reached with past | same
    · exact ordered.reached main' (Nat.le_of_lt_succ (lt_of_lt_of_eq past next))
    · exact Main.place_injective same ▸ here
  handlers := ordered.handlers
  idle := ordered.idle

theorem Ordered.flags (ordered : Ordered s) (collectors : ∀ i, Collector.State (σ i))
    (kept : ∀ i, (s.collectors i).shutdown = true → (collectors i).shutdown = true) :
    Ordered { s with collectors } where
  reached := by
    intro main reached
    cases main
    case signalled => exact fun i => kept i (ordered.reached .signalled reached i)
    all_goals exact ordered.reached _ reached
  handlers := ordered.handlers
  idle := ordered.idle

theorem Ordered.server (ordered : Ordered s) {earlier : Server} (present : s.prometheus = some earlier)
    (running : earlier ≠ .stopped) (later : Server) (handlers : HashMap Nat Handler)
    (idle : later = .binding ∨ later = .stopped → handlers.entries = []) :
    Ordered { s with prometheus := some later, handlers } where
  reached := by
    intro main reached
    cases main
    case prometheusJoined => exact absurd (ordered.reached .prometheusJoined reached earlier present) running
    all_goals exact ordered.reached _ reached
  handlers := fun quiet => idle (quiet later rfl)
  idle := ordered.idle

theorem Ordered.handler (ordered : Ordered s) {id : Nat} {handler : Handler}
    (present : s.handlers.lookup id = some handler) (handlers : HashMap Nat Handler) :
    Ordered { s with handlers } :=
  ⟨ordered.reached, fun idle => absurd idle (ordered.serving present), ordered.idle⟩

theorem Ordered.exporter (ordered : Ordered s) {own : Otlp.State} (present : s.otlp = some own)
    (running : own.pc ≠ .stopped) (next : Otlp.State) : Ordered { s with otlp := some next } where
  reached := by
    intro main reached
    cases main
    case otlpJoined => exact absurd (ordered.reached .otlpJoined reached own present) running
    all_goals exact ordered.reached _ reached
  handlers := ordered.handlers
  idle := ordered.idle

theorem Ordered.publisher (ordered : Ordered s) {own : Mqtt.State} (present : s.mqtt = some own)
    (next : Mqtt.State) (cancelled : own.cancelled = true → next.cancelled = true) (running : own.pc ≠ .returned)
    (idle : Mqtt.Idle next) : Ordered { s with mqtt := some next } where
  reached := by
    intro main reached
    cases main
    case cancelled =>
        intro other same
        cases same
        exact cancelled (ordered.reached .cancelled reached own present)
    case done => exact absurd (ordered.reached .done reached own present) running
    all_goals exact ordered.reached _ reached
  handlers := ordered.handlers
  idle := by
    intro other same
    cases same
    exact idle

theorem Ordered.silenced (ordered : Ordered s) :
    Ordered { s with mqtt := s.mqtt.map fun mqtt => { mqtt with cancelled := true } } where
  reached := by
    intro main reached
    cases main
    case cancelled =>
        intro _ present
        obtain ⟨own, -, rfl⟩ := Option.map_eq_some_iff.mp present
        rfl
    case done =>
        intro _ present
        obtain ⟨own, earlier, rfl⟩ := Option.map_eq_some_iff.mp present
        exact ordered.reached .done reached own earlier
    all_goals exact ordered.reached _ reached
  handlers := ordered.handlers
  idle := by
    intro _ present
    obtain ⟨own, earlier, rfl⟩ := Option.map_eq_some_iff.mp present
    exact ordered.idle own earlier

theorem Ordered.aside (ordered : Ordered s) (main : s'.main = s.main)
    (flags : ∀ i, (s'.collectors i).shutdown = (s.collectors i).shutdown) (prometheus : s'.prometheus = s.prometheus)
    (handlers : s'.handlers = s.handlers) (otlp : s'.otlp = s.otlp) (mqtt : s'.mqtt = s.mqtt) : Ordered s' where
  reached := by
    intro main' reached
    rw [main] at reached
    have milestone := ordered.reached main' reached
    cases main' <;> simp only [Milestone, flags, prometheus, otlp, mqtt] at milestone ⊢ <;> exact milestone
  handlers := by
    rw [prometheus, handlers]
    exact ordered.handlers
  idle := by
    rw [mqtt]
    exact ordered.idle

theorem running_otlp {otlp : OtlpExporterConfig} {env : Otlp.Env} {own next : Otlp.State} {shown : List Otlp.Event}
    {im : Option Internal.InternalMetrics}
    (action : Otlp.taskStep otlp env { own with internalMetrics := im } = some (next, shown)) : own.pc ≠ .stopped := by
  intro stopped
  simp [Otlp.taskStep, stopped] at action

theorem ordered_step (ordered : Ordered s) (step : Step config t s input s' events) : Ordered s' := by
  cases step with
  | cancelled place =>
      apply ordered.silenced.joined (by simp [place, Main.place])
      intro _ present
      obtain ⟨own, -, rfl⟩ := Option.map_eq_some_iff.mp present
      rfl
  | signalled place =>
      have flagged := ordered.flags (fun i => { s.collectors i with shutdown := true }) fun _ _ => rfl
      exact flagged.joined (by simp [place, Main.place]) fun _ => rfl
  | awaited place ended =>
      have flagged := ordered.flags (fun i => { s.collectors i with senderDropped := true }) fun _ sent => sent
      exact flagged.joined (by simp [place, Main.place]) trivial
  | prometheusJoined place stopped =>
      apply ordered.joined (by simp [place, Main.place])
      intro server present
      simpa [Option.mem_def.mp present] using stopped
  | otlpJoined place stopped =>
      apply ordered.joined (by simp [place, Main.place])
      intro own present
      exact finished_otlp (by simpa [Option.mem_def.mp present] using stopped)
  | mqttJoined place stopped =>
      apply ordered.joined (by simp [place, Main.place])
      intro own present
      exact finished_mqtt (by simpa [Option.mem_def.mp present] using stopped)
  | @collector i env next own action =>
      have flags (j : Fin n) : ((s.moved i next).collectors j).shutdown = (s.collectors j).shutdown := by
        by_cases same : j = i
        · subst same
          rw [System.moved_self, flag_kept action]
        · rw [System.moved_other s same]
      exact ordered.aside rfl flags rfl rfl rfl rfl
  | bound place => exact ordered.server place (by decide) .listening _ (by simp)
  | unbound place =>
      refine ordered.server place (by decide) .stopped _ fun _ => ordered.handlers fun server present => ?_
      exact .inl (Option.some.inj (present.symm.trans place))
  | accepted place =>
      have kept := ordered.server place (by decide) .listening (s.handlers.insert s.accepted .entered) (by simp)
      exact kept.aside rfl (fun _ => rfl) place rfl rfl rfl
  | drained place requested => exact ordered.server place (by decide) .draining _ (by simp)
  | closed place idle => exact ordered.server place (by decide) .stopped _ fun _ => idle
  | @counted id stats now place =>
      exact (ordered.handler place (s.handlers.insert id .counted)).aside rfl (fun _ => rfl) rfl rfl rfl rfl
  | @scraped id stats now w place walking done =>
      exact (ordered.handler place (s.handlers.insert id (.walked w.collected.toAList))).aside rfl (fun _ => rfl) rfl
        rfl rfl rfl
  | responded place => exact ordered.handler place _
  | @otlp config' env own next shown given present elsewhere requested action =>
      exact (ordered.exporter present (running_otlp action) next).aside rfl (fun _ => rfl) rfl rfl rfl rfl
  | @otlpWalked config' env own next shown flush w given present place walking done action =>
      exact (ordered.exporter present (running_otlp action) next).aside rfl (fun _ => rfl) rfl rfl rfl rfl
  | mqtt given present elsewhere alone free action =>
      obtain ⟨cancelled, running, idle⟩ := ordered.own_mqtt present alone action
      exact ordered.publisher present _ (fun requested => cancelled.trans requested) running idle
  | @mqttWalked config' env own next shown options w given present place woken walking done action =>
      obtain ⟨cancelled, running, idle⟩ := ordered.own_mqtt present Mqtt.Input.noConfusion action
      have moved := ordered.publisher present next (fun requested => cancelled.trans requested) running idle
      exact moved.aside rfl (fun _ => rfl) rfl rfl rfl rfl
  | walkStarted | visited => exact ordered.aside rfl (fun _ => rfl) rfl rfl rfl rfl

theorem ordered_spawned (config : Config) (t : ∀ i, Collector.Task (σ i)) (worlds : ∀ i, σ i)
    (startTime : Internal.Instant) : Ordered (spawned config t worlds startTime) where
  reached := by
    intro main reached
    cases main <;> simp [spawned, Main.place] at reached
    trivial
  handlers := fun _ => rfl
  idle := by
    intro own present
    obtain ⟨_, -, rfl⟩ := Option.map_eq_some_iff.mp present
    rfl

def isMain : Event σ → Bool
  | .exportersCancelled | .flagSent | .collectorsAwaited _ | .complete => true
  | _ => false

def announced (timedOut : Bool) : Main → List (Event σ)
  | .serving => []
  | .cancelled => [.exportersCancelled]
  | .signalled => [.exportersCancelled, .flagSent]
  | .collectorsAwaited | .prometheusJoined | .otlpJoined =>
      [.exportersCancelled, .flagSent, .collectorsAwaited timedOut]
  | .done => [.exportersCancelled, .flagSent, .collectorsAwaited timedOut, .complete]

def AllReturned (s : System σ) : Prop := ∀ i, returned (s.collectors i).pc = true

theorem allReturned_moved (all : AllReturned s) {i : Fin n} {env : Collector.Env} {next : Collector.State (σ i)}
    {own : List (Collector.Event (σ i))}
    (action : Collector.taskStep (t i) env (s.view i) = some (next, own)) : False := by
  have stays := all i
  cases place : (s.collectors i).pc with
  | returned path => simp [Collector.taskStep, System.view, place] at action
  | panicked cause => simp [Collector.taskStep, System.view, place] at action
  | _ => simp [returned, place] at stays

def Announced (trace : List (Event σ)) (s : System σ) : Prop :=
  ∃ timedOut, trace.filter isMain = announced timedOut s.main ∧
    (3 ≤ s.main.place → timedOut = false → AllReturned s)

theorem announced_step (before : Announced trace s) (step : Step config t s input s' events) :
    Announced (trace ++ events) s' := by
  obtain ⟨timedOut, trail, all⟩ := before
  unfold Announced
  rw [List.filter_append, trail]
  cases step with
  | cancelled place => exact ⟨timedOut, by rw [place]; rfl, by simp [Main.place]⟩
  | signalled place => exact ⟨timedOut, by rw [place]; rfl, by simp [Main.place]⟩
  | @awaited timedOut' place ended =>
      refine ⟨timedOut', by rw [place]; rfl, fun _ intime => ?_⟩
      exact ended.resolve_left (by simp [intime])
  | prometheusJoined place stopped => exact ⟨timedOut, by rw [place]; rfl, fun _ => all (by simp [place, Main.place])⟩
  | otlpJoined place stopped => exact ⟨timedOut, by rw [place]; rfl, fun _ => all (by simp [place, Main.place])⟩
  | mqttJoined place stopped => exact ⟨timedOut, by rw [place]; rfl, fun _ => all (by simp [place, Main.place])⟩
  | collector action =>
      refine ⟨timedOut, ?_, fun past intime => (allReturned_moved (all past intime) action).elim⟩
      simp [List.filter_eq_nil_iff, isMain, System.moved]
  | otlp | otlpWalked | mqtt | mqttWalked =>
      exact ⟨timedOut, by simp [List.filter_eq_nil_iff, isMain, System.exported, System.walkless], all⟩
  | _ => exact ⟨timedOut, List.append_nil _, all⟩

theorem ended_step (ordered : Ordered s) (place : s.main = .done) (step : Step config t s input s' events) :
    s'.main = .done ∧ (∀ e ∈ events, ∃ i own, e = .collector i own) ∧
      (AllReturned s → events = [] ∧ AllReturned s') := by
  have past (main : Main) : Milestone s main := ordered.reached main (by rw [place]; cases main <;> simp [Main.place])
  have closed : ∀ server ∈ s.prometheus, server = .binding ∨ server = .stopped :=
    fun server present => .inr (past .prometheusJoined server present)
  cases step with
  | cancelled here | signalled here | awaited here | prometheusJoined here | otlpJoined here | mqttJoined here =>
      rw [place] at here
      cases here
  | collector action =>
      refine ⟨place, ?_, fun all => (allReturned_moved all action).elim⟩
      intro e member
      obtain ⟨own, -, rfl⟩ := List.mem_map.mp member
      exact ⟨_, own, rfl⟩
  | bound here | unbound here | accepted here | drained here | closed here =>
      cases past .prometheusJoined _ here
  | counted here | scraped here | responded here => exact absurd closed (ordered.serving here)
  | @walkStarted input walker idle asked =>
      cases walker with
      | scrape id => exact absurd closed (ordered.serving asked)
      | otlp =>
          obtain ⟨own, present, flush, here⟩ := asked
          rw [past .otlpJoined own present] at here
          cases here
      | mqtt =>
          obtain ⟨own, present, options, here⟩ := asked
          rw [past .done own present] at here
          cases here
  | visited => exact ⟨place, by simp, fun all => ⟨rfl, all⟩⟩
  | otlp given present elsewhere requested action | otlpWalked given present here walking done action =>
      exact absurd (past .otlpJoined _ present) (running_otlp action)
  | mqtt given present elsewhere alone free action =>
      exact absurd (past .done _ present) (ordered.own_mqtt present alone action).2.1
  | mqttWalked given present here woken walking done action =>
      exact absurd (past .done _ present) (ordered.own_mqtt present Mqtt.Input.noConfusion action).2.1

theorem ended_run (ordered : Ordered s) (place : s.main = .done) (run : (machine config t).Run s trace s') :
    (∀ e ∈ trace, ∃ i own, e = .collector i own) ∧ (AllReturned s → trace = []) := by
  have ended : Ordered s' ∧ s'.main = .done ∧ (∀ e ∈ trace, ∃ i own, e = .collector i own) ∧
      (AllReturned s → trace = [] ∧ AllReturned s') := by
    refine run.invariant (P := fun trace s' => Ordered s' ∧ s'.main = .done ∧
      (∀ e ∈ trace, ∃ i own, e = .collector i own) ∧ (AllReturned s → trace = [] ∧ AllReturned s'))
      ⟨ordered, place, by simp, fun all => ⟨rfl, all⟩⟩ ?_
    intro trace s₁ input s₂ events _ ⟨ordered₁, place₁, owned, empty⟩ action
    obtain ⟨place₂, owned', empty'⟩ := ended_step ordered₁ place₁ (step_cases action)
    refine ⟨ordered_step ordered₁ (step_cases action), place₂, List.forall_mem_append.mpr ⟨owned, owned'⟩, ?_⟩
    intro all
    obtain ⟨rfl, all₁⟩ := empty all
    obtain ⟨rfl, all₂⟩ := empty' all₁
    exact ⟨rfl, all₂⟩
  exact ⟨ended.2.2.1, fun all => (ended.2.2.2 all).1⟩

theorem ordered_run (run : (machine config t).Run (spawned config t worlds startTime) trace s) : Ordered s :=
  run.invariant (P := fun _ s => Ordered s) (ordered_spawned config t worlds startTime) fun _ ordered action =>
    ordered_step ordered (step_cases action)

theorem announced_run (run : (machine config t).Run (spawned config t worlds startTime) trace s) :
    Announced trace s := by
  have begins : Announced [] (spawned config t worlds startTime) := ⟨false, rfl, by simp [spawned, Main.place]⟩
  exact run.invariant begins fun _ before action => announced_step before (step_cases action)

theorem complete_cases {first last : List (Event σ)}
    (step : Step config t s input s' (first ++ .complete :: last)) :
    s.main = .otlpJoined ∧ s' = { s with main := .done } ∧ first = [] ∧ last = [] := by
  generalize whole : first ++ .complete :: last = events at step
  have member : .complete ∈ events := by simp [← whole]
  cases step with
  | mqttJoined place stopped =>
      obtain ⟨rfl, rfl⟩ : first = [] ∧ last = [] := by simpa [List.append_eq_singleton_iff] using whole
      exact ⟨place, rfl, rfl, rfl⟩
  | _ => simp at member

/-- The shutdown takes its steps in order and answers every scrape that was accepted, and after it nothing but the
collectors that were given up goes on. -/
theorem shutdown_last {before after : List (Event σ)}
    (run : (machine config t).Run (spawned config t worlds startTime) (before ++ .complete :: after) s) :
    ∃ timedOut, before.filter isMain = [.exportersCancelled, .flagSent, .collectorsAwaited timedOut] ∧
      before.countP isResponse = before.countP isAccepted ∧
      (∀ e ∈ after, ∃ i own, e = .collector i own) ∧ (timedOut = false → after = []) := by
  obtain ⟨_, state, input, _, first, last, rest, previous, action, rfl, rfl, resumed⟩ := run.resumed rfl
  obtain ⟨place, rfl, rfl, rfl⟩ := complete_cases (step_cases action)
  obtain ⟨timedOut, trail, all⟩ := announced_run previous
  rw [place] at trail all
  have ordered := ordered_run previous
  obtain ⟨owned, quiet⟩ := ended_run (ordered_step ordered (step_cases action)) rfl resumed
  have stopped := ordered.reached .prometheusJoined (by simp [place, Main.place])
  have idle := ordered.handlers fun server present => .inr (stopped server present)
  have tallies := tallies_run previous
  have answered := tallies.answered
  rw [idle, List.length_nil, Nat.add_zero, ← tallies.accepted] at answered
  rw [List.append_nil]
  exact ⟨timedOut, trail, answered, owned, fun intime => quiet (all (by decide) intime)⟩

theorem flags_kept (flagged : ∀ i, (s.collectors i).shutdown = true) (step : Step config t s input s' events) :
    ∀ i, (s'.collectors i).shutdown = true := by
  cases step with
  | signalled => exact fun _ => rfl
  | @collector i env next own action =>
      intro j
      by_cases same : j = i
      · subst same
        rw [System.moved_self, flag_kept action, flagged]
      · rw [System.moved_other s same, flagged]
  | _ => exact flagged

theorem spends_step (flagged : ∀ i, (s.collectors i).shutdown = true) (step : Step config t s input s' events)
    (i : Fin n) :
    Collector.Spends (s.collectors i).pc (s'.collectors i).pc (events.filterMap (ofCollector i)) := by
  have nothing (pc : Collector.Pc) : Collector.Spends pc pc ([] : List (Collector.Event (σ i))) :=
    ⟨by simp, by simp, by simp⟩
  cases step with
  | @collector j env next own action =>
      by_cases same : i = j
      · subst same
        rw [ofCollector_self, System.moved_self]
        exact Collector.flagged_spends (t i) (s := s.view i) (flagged i) (Collector.taskStep_cases (t i) action)
      · rw [ofCollector_other (Ne.symm same), System.moved_other s same]
        exact nothing _
  | otlp | otlpWalked | mqtt | mqttWalked =>
      rw [List.filterMap_eq_nil_iff.mpr (by simp [ofCollector])]
      exact nothing _
  | _ => exact nothing _

/-- After the flag has been sent, a collector begins one more cycle at most, and reads and publishes once more at
most. -/
theorem flag_limits {before after : List (Event σ)}
    (run : (machine config t).Run (spawned config t worlds startTime) (before ++ .flagSent :: after) s) (i : Fin n) :
    (after.filterMap (ofCollector i)).countP Collector.Event.isRead ≤ 1 ∧
      (after.filterMap (ofCollector i)).countP Collector.Event.isPublish ≤ 1 ∧
      (after.filterMap (ofCollector i)).countP Collector.Event.isCycle ≤ 1 := by
  obtain ⟨_, state, input, state', first, last, rest, -, action, rfl, rfl, resumed⟩ := run.resumed rfl
  have sent : (∀ j, (state'.collectors j).shutdown = true) ∧ last = [] := by
    generalize whole : first ++ .flagSent :: last = events at action
    have member : .flagSent ∈ events := by simp [← whole]
    cases step_cases action with
    | signalled place => exact ⟨fun _ => rfl, by cases first <;> simp at whole ⊢; exact whole⟩
    | _ => simp at member
  obtain ⟨flagged, rfl⟩ := sent
  have spent : (∀ j, (s.collectors j).shutdown = true) ∧
      Collector.Spends (state'.collectors i).pc (s.collectors i).pc (rest.filterMap (ofCollector i)) := by
    refine resumed.invariant (P := fun rest s => (∀ j, (s.collectors j).shutdown = true) ∧
      Collector.Spends (state'.collectors i).pc (s.collectors i).pc (rest.filterMap (ofCollector i)))
      ⟨flagged, by simp, by simp, by simp⟩ ?_
    intro trace s₁ input s₂ events _ ⟨flagged₁, spent⟩ action
    rw [List.filterMap_append]
    exact ⟨flags_kept flagged₁ (step_cases action), spent.trans (spends_step flagged₁ (step_cases action) i)⟩
  have reads : (state'.collectors i).pc.readsLeft ≤ 1 := by
    unfold Collector.Pc.readsLeft
    split <;> simp
  have publishes : (state'.collectors i).pc.publishesLeft ≤ 1 := by
    unfold Collector.Pc.publishesLeft
    split <;> simp
  have cycles : (state'.collectors i).pc.cyclesLeft ≤ 1 := by
    unfold Collector.Pc.cyclesLeft
    split <;> simp
  rw [List.nil_append]
  exact ⟨(Nat.le_of_add_right_le spent.2.reads).trans reads, (Nat.le_of_add_right_le spent.2.publishes).trans publishes,
    (Nat.le_of_add_right_le spent.2.cycles).trans cycles⟩

theorem flag_limits_plant :
    ∃ (before after : List (Event fun _ : Fin 1 => Collector.Script)) (s : System fun _ : Fin 1 => Collector.Script),
      (machine plantConfig plantTask).Run plantStart (before ++ .flagSent :: after) s ∧
        .collector ⟨0, Nat.one_pos⟩ .cycle ∈ after ∧
        (after.filterMap (ofCollector ⟨0, Nat.one_pos⟩)).countP Collector.Event.isCycle ≤ 1 := by
  have executed : ∃ e₁ e₂ e₃ e₄ e₅ e₆ e₇ e₈ s,
      (machine plantConfig plantTask).exec plantStart
          (plantCycle ++ [.main false, .main false] ++ List.replicate 3 (.collector ⟨0, Nat.one_pos⟩ {})) =
        some ([e₁, e₂, e₃, e₄, e₅, e₆, .exportersCancelled] ++ .flagSent ::
          [.collector ⟨0, Nat.one_pos⟩ .cycle, e₇, e₈], s) :=
    ⟨_, _, _, _, _, _, _, _, _, rfl⟩
  obtain ⟨e₁, e₂, e₃, e₄, e₅, e₆, e₇, e₈, s, executed⟩ := executed
  have run := Machine.exec_run executed
  exact ⟨_, _, s, run, List.mem_cons_self, (flag_limits run ⟨0, Nat.one_pos⟩).2.2⟩

def plantShutdown : List (Input 1) :=
  [.main false, .main false, .collector ⟨0, Nat.one_pos⟩ { wake := .shutdown }, .main false, .drain, .close,
    .main false, .otlp { providerBuilt := false }, .main false, .mqtt (.main {}), .mqtt (.main {}),
    .mqtt .eventLoopCancelled, .mqtt (.main {}), .mqtt (.main {}), .main false]

theorem shutdown_last_plant :
    ∃ (before : List (Event fun _ : Fin 1 => Collector.Script)) (s : System fun _ : Fin 1 => Collector.Script)
      (timedOut : Bool),
      (machine plantConfig plantTask).Run plantStart (before ++ [.complete]) s ∧
        before.filter isMain = [.exportersCancelled, .flagSent, .collectorsAwaited timedOut] ∧
        before.countP isResponse = before.countP isAccepted ∧ .accepted 0 ∈ before := by
  have executed : ∃ e₁ e₂ e₃ e₄ e₅ e₆ e₇ e₈ e₉ e₁₀ e₁₁ e₁₂ e₁₃ e₁₄ e₁₅ e₁₆ e₁₇ s,
      (machine plantConfig plantTask).exec plantStart
          (plantCycle ++ [.bind true] ++ plantScrape 0 ++ plantShutdown) =
        some ([e₁, e₂, e₃, e₄, e₅, e₆, .accepted 0, e₇, e₈, e₉, e₁₀, e₁₁, e₁₂, e₁₃, e₁₄, e₁₅, e₁₆, e₁₇] ++
          .complete :: [], s) :=
    ⟨_, _, _, _, _, _, _, _, _, _, _, _, _, _, _, _, _, _, rfl⟩
  obtain ⟨e₁, e₂, e₃, e₄, e₅, e₆, e₇, e₈, e₉, e₁₀, e₁₁, e₁₂, e₁₃, e₁₄, e₁₅, e₁₆, e₁₇, s, executed⟩ := executed
  have run := Machine.exec_run executed
  obtain ⟨timedOut, trail, answered, -, -⟩ := shutdown_last run
  exact ⟨_, s, timedOut, run, trail, answered, by simp⟩

end BusExporter.Daemon
