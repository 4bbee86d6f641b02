import BusExporter.Model.Collector

/-! What one step of a collector task can do. -/

namespace BusExporter.Collector
open Lib Config

variable {σ : Type} (t : Task σ)

def Configured (name : String) : Prop := ∃ m ∈ t.collector.metrics, m.name = name

def Event.isCompleted : Event σ → Bool
  | .completed _ => true
  | _ => false

def Event.isConnected : Event σ → Bool
  | .connect ok => ok
  | _ => false

def Event.isPrePolled : Event σ → Bool
  | .prePoll _ _ ok _ => ok
  | _ => false

def Event.isFailedPrePoll : Event σ → Bool
  | .prePoll _ _ ok _ => !ok
  | _ => false

def Event.isRead : Event σ → Bool
  | .read .. => true
  | _ => false

def Event.isPublish : Event σ → Bool
  | .publish _ => true
  | _ => false

inductive TaskStep (s : State σ) : State σ → List (Event σ) → Prop
  | connected {world : σ} (place : s.pc = .connect)
      (ok : t.reader.connect s.world = (.ok (), world)) :
      TaskStep s (({ s with world }).afterConnect t .initWrites) [.connect true]
  | connectFailed {e : Error} {world : σ} (place : s.pc = .connect)
      (failed : t.reader.connect s.world = (.error e, world)) :
      TaskStep s { s with world, pc := .connectWait } [.connect false]
  | connectSlept (place : s.pc = .connectWait ∨ s.pc = .initWritesWait) :
      TaskStep s { s.doubled with pc := .connect } [.backoffWait s.backoff]
  | connectStopped (place : s.pc = .connectWait) (changed : s.changed = true) :
      TaskStep s (s.stop t .connectWait).1 (.backoffWait s.backoff :: (s.stop t .connectWait).2)
  | initialised {world : σ} (place : s.pc = .initWrites ∨ s.pc = .reconnectInitWrites)
      (ok : executeWrites t t.collector.initWrites s.world = (.ok (), world)) :
      TaskStep s { s with world, pc := .cycleStart } [.initWrites s.world t.collector.initWrites true world]
  | initFailed {e : Error} {world : σ} (place : s.pc = .initWrites)
      (failed : executeWrites t t.collector.initWrites s.world = (.error e, world)) :
      TaskStep s { s with world := (t.reader.disconnect world).2, pc := .initWritesWait }
        [.initWrites s.world t.collector.initWrites false world, .disconnect]
  | initStopped (place : s.pc = .initWritesWait) (changed : s.changed = true) :
      TaskStep s { s with cancelled := true, pc := .returned .initWritesWait }
        [.backoffWait s.backoff, .returned .initWritesWait]
  | cycle (place : s.pc = .cycleStart) :
      TaskStep s
        { s.count t fun stats => { stats with pollsTotal := stats.pollsTotal + 1 } with
          localCache := ∅, pollHadError := false, pc := .shutdownCheck } [.cycle]
  | shutdownSeen (place : s.pc = .shutdownCheck) (requested : s.shutdown = true) :
      TaskStep s (s.stop t .shutdownCheck).1 (s.stop t .shutdownCheck).2
  | proceed (place : s.pc = .shutdownCheck) (running : s.shutdown = false) :
      TaskStep s { s with pc := if needsWrites t t.collector.prePoll then .prePoll else .read } []
  | prePolled {world : σ} (place : s.pc = .prePoll)
      (ok : executeWrites t t.collector.prePoll s.world = (.ok (), world)) :
      TaskStep s { s with world, prePollFailures := 0, pc := .read }
        [.prePoll s.world t.collector.prePoll true world]
  | prePollFailed {e : Error} {world : σ} (place : s.pc = .prePoll)
      (failed : executeWrites t t.collector.prePoll s.world = (.error e, world)) :
      TaskStep s
        { s with world, prePollFailures := s.prePollFailures + 1
                 pc := if 3 ≤ s.prePollFailures + 1 then .prePollAbort else .skip }
        [.prePoll s.world t.collector.prePoll false world]
  | skipped (env : Env) (place : s.pc = .skip) :
      TaskStep s { s.countOutcome t env false with pc := .skipWait } [.outcome false]
  | skipStopped (place : s.pc = .skipWait) (changed : s.changed = true) :
      TaskStep s (s.stop t .skipWait).1 (s.stop t .skipWait).2
  | prePollAborted (env : Env) (place : s.pc = .prePollAbort) :
      TaskStep s { s.countOutcome t env false with pc := .reconnect } [.outcome false]
  | readPanicked {cause : Panic} (place : s.pc = .read)
      (failed : t.reader.read (fun _ => s.cancelled) s.world = .error cause) :
      TaskStep s { s with pc := .panicked cause } []
  | readDone (env : Env) {read : ReadResults} {world : σ} (place : s.pc = .read)
      (done : t.reader.read (fun _ => s.cancelled) s.world = .ok (read, world)) :
      TaskStep s
        { s.count t fun stats => { stats with readRequests := stats.readRequests + read.ioCount } with
          world, pc := .results read (read.metrics.iter env.orders.results) }
        [.read s.world read world]
  | ignored {read : ReadResults} {entry : ReadEntry}
      {rest : List ReadEntry} (place : s.pc = .results read (entry :: rest))
      (unknown : t.collector.metrics.find? (·.name = entry.1) = none) :
      TaskStep s { s with pc := .results read rest } []
  | stored (env : Env) {read : ReadResults} {name : String} {raw scaled : Float} {cfg : MetricConfig}
      {rest : List ReadEntry}
      (place : s.pc = .results read (⟨name, .ok (raw, scaled)⟩ :: rest))
      (known : t.collector.metrics.find? (·.name = name) = some cfg) :
      TaskStep s
        { s with localCache := s.localCache.insert name (measured cfg scaled env.now)
                 pc := .results read rest } []
  | errorCounted {read : ReadResults} {name : String} {e : Error} {cfg : MetricConfig}
      {rest : List ReadEntry}
      (place : s.pc = .results read (⟨name, .error e⟩ :: rest))
      (known : t.collector.metrics.find? (·.name = name) = some cfg)
      (connected : t.reader.isConnected s.world = true) :
      TaskStep s
        { s.count t fun stats => { stats with readErrors := stats.readErrors + 1 } with
          pollHadError := true
          errorCounts := (s.errorCounts.orInsert name 0).modify name (· + 1)
          pc := .results read rest } []
  | connectionLost {read : ReadResults} {name : String} {e : Error} {cfg : MetricConfig}
      {rest : List ReadEntry}
      (place : s.pc = .results read (⟨name, .error e⟩ :: rest))
      (known : t.collector.metrics.find? (·.name = name) = some cfg)
      (lost : t.reader.isConnected s.world = false) :
      TaskStep s
        { s.count t fun stats => { stats with readErrors := stats.readErrors + 1 } with
          pollHadError := true, pc := .abort read } []
  | completed (env : Env) {read : ReadResults} (place : s.pc = .results read []) :
      TaskStep s
        { s.countOutcome t env (!s.pollHadError) with backoff := initialBackoff, pc := .publish read }
        [.outcome (!s.pollHadError), .completed read]
  | aborted (env : Env) {read : ReadResults} (place : s.pc = .abort read) :
      TaskStep s { s.countOutcome t env false with pc := .reconnect } [.outcome false, .aborted read]
  | published (env : Env) {read : ReadResults} (place : s.pc = .publish read) :
      TaskStep s (publishStep t env s).1 (publishStep t env s).2
  | nextCycle (place : s.pc = .endWait ∨ s.pc = .skipWait) : TaskStep s { s with pc := .cycleStart } []
  | endStopped (path : ReturnPath) (place : s.pc = .endWait) (ends : path = .endWait ∨ path = .endCheck)
      (changed : s.changed = true) : TaskStep s (s.stop t path).1 (s.stop t path).2
  | disconnected (place : s.pc = .reconnect) :
      TaskStep s { s with world := (t.reader.disconnect s.world).2, pc := .reconnectWait } [.disconnect]
  | reconnectSlept (place : s.pc = .reconnectWait) :
      TaskStep s { s.doubled with pc := .reconnectConnect } [.backoffWait s.backoff]
  | reconnectStopped (place : s.pc = .reconnectWait) (changed : s.changed = true) :
      TaskStep s (s.stop t .reconnectWait).1 (.backoffWait s.backoff :: (s.stop t .reconnectWait).2)
  | reconnected {world : σ} (place : s.pc = .reconnectConnect)
      (ok : t.reader.connect s.world = (.ok (), world)) :
      TaskStep s (({ s with world, prePollFailures := 0 }).afterConnect t .reconnectInitWrites)
        [.connect true]
  | reconnectFailed {e : Error} {world : σ} (place : s.pc = .reconnectConnect)
      (failed : t.reader.connect s.world = (.error e, world)) :
      TaskStep s { s with world, pc := .reconnect } [.connect false]
  | reinitFailed {e : Error} {world : σ} (place : s.pc = .reconnectInitWrites)
      (failed : executeWrites t t.collector.initWrites s.world = (.error e, world)) :
      TaskStep s { s with world, pc := .reconnect } [.initWrites s.world t.collector.initWrites false world]

theorem resultStep_cases {env : Env} {s : State σ} {read : ReadResults}
    {entry : ReadEntry} {rest : List ReadEntry}
    (place : s.pc = .results read (entry :: rest)) :
    TaskStep t s (resultStep t env s read entry rest) [] := by
  obtain ⟨name, outcome⟩ := entry
  unfold resultStep
  cases known : t.collector.metrics.find? (·.name = name) with
  | none => exact .ignored place known
  | some cfg =>
      cases outcome with
      | ok value => exact .stored env place known
      | error e =>
          cases connection : t.reader.isConnected s.world with
          | true =>
              simp only [State.count, connection, if_true]
              exact .errorCounted place known connection
          | false =>
              simp only [State.count, connection, Bool.false_eq_true, if_false]
              exact .connectionLost place known connection

theorem taskStep_cases {env : Env} {s s' : State σ} {events : List (Event σ)}
    (action : taskStep t env s = some (s', events)) : TaskStep t s s' events := by
  unfold taskStep at action
  cases place : s.pc with
  | connect =>
      simp only [place] at action
      split at action
      · rename_i world ok
        cases action
        exact .connected place ok
      · rename_i e world failed
        cases action
        exact .connectFailed place failed
  | connectWait =>
      simp only [place] at action
      split at action
      · cases action
        exact .connectSlept (.inl place)
      · split_ifs at action with changed
        cases action
        exact .connectStopped place changed
  | initWrites =>
      simp only [place] at action
      split at action
      · rename_i world ok
        cases action
        exact .initialised (.inl place) ok
      · rename_i e world failed
        cases action
        exact .initFailed place failed
  | initWritesWait =>
      simp only [place] at action
      split at action
      · cases action
        exact .connectSlept (.inr place)
      · split_ifs at action with changed
        cases action
        exact .initStopped place changed
  | cycleStart =>
      simp only [place] at action
      cases action
      exact .cycle place
  | shutdownCheck =>
      simp only [place] at action
      split_ifs at action with requested writes
      · cases action
        exact .shutdownSeen place requested
      · cases action
        have step := TaskStep.proceed (t := t) place (by simpa using requested)
        rwa [if_pos writes] at step
      · cases action
        have step := TaskStep.proceed (t := t) place (by simpa using requested)
        rwa [if_neg writes] at step
  | prePoll =>
      simp only [place] at action
      split at action
      · rename_i world ok
        cases action
        exact .prePolled place ok
      · rename_i e world failed
        cases action
        exact .prePollFailed place failed
  | skip =>
      simp only [place] at action
      cases action
      exact .skipped env place
  | skipWait =>
      simp only [place] at action
      split_ifs at action with wake changed
      · cases action
        exact .skipStopped place changed
      · cases action
        exact .nextCycle (.inr place)
  | prePollAbort =>
      simp only [place] at action
      cases action
      exact .prePollAborted env place
  | read =>
      simp only [place] at action
      split at action
      · rename_i cause failed
        cases action
        exact .readPanicked place failed
      · rename_i read world done
        cases action
        exact .readDone env place done
  | results read rest =>
      cases rest with
      | nil =>
          simp only [place] at action
          cases action
          exact .completed env place
      | cons entry rest =>
          simp only [place] at action
          cases action
          exact resultStep_cases t place
  | abort read =>
      simp only [place] at action
      cases action
      exact .aborted env place
  | publish read =>
      simp only [place] at action
      cases action
      exact .published env place
  | endWait =>
      simp only [place] at action
      by_cases early : env.elapsed < t.collector.pollingInterval
      · rw [if_pos early] at action
        split at action
        · cases action
          exact .nextCycle (.inl place)
        · split_ifs at action with changed
          cases action
          exact .endStopped .endWait place (.inl rfl) changed
      · rw [if_neg early] at action
        split_ifs at action with requested
        · cases action
          exact .endStopped .endCheck place (.inr rfl) (by simp [State.changed, requested])
        · cases action
          exact .nextCycle (.inl place)
  | reconnect =>
      simp only [place] at action
      cases action
      exact .disconnected place
  | reconnectWait =>
      simp only [place] at action
      split at action
      · cases action
        exact .reconnectSlept place
      · split_ifs at action with changed
        cases action
        exact .reconnectStopped place changed
  | reconnectConnect =>
      simp only [place] at action
      split at action
      · rename_i world ok
        cases action
        exact .reconnected place ok
      · rename_i e world failed
        cases action
        exact .reconnectFailed place failed
  | reconnectInitWrites =>
      simp only [place] at action
      split at action
      · rename_i world ok
        cases action
        exact .initialised (.inr place) ok
      · rename_i e world failed
        cases action
        exact .reinitFailed place failed
  | returned path => simp [place] at action
  | panicked cause => simp [place] at action

/-- What the rest of the program can do to a task: set its shutdown channel, and write to the shared
maps under other names. -/
structure Interferes (s s' : State σ) : Prop where
  frame : ∃ shutdown senderDropped store internal,
    s' = { s with shutdown, senderDropped, store, internal }
  store : s'.store.lookup t.collector.name = s.store.lookup t.collector.name
  stats : s'.internal.map (·.lookup t.collector.name) = s.internal.map (·.lookup t.collector.name)

theorem outside_cases {i : Input} {s s' : State σ} {events : List (Event σ)}
    (outside : ∀ env, i ≠ .task env) (action : step t s i = some (s', events)) :
    events = [] ∧ Interferes t s s' := by
  cases i with
  | task env => exact absurd rfl (outside env)
  | sendShutdown =>
      cases action
      exact ⟨rfl, ⟨_, _, _, _, rfl⟩, rfl, rfl⟩
  | dropSender =>
      cases action
      exact ⟨rfl, ⟨_, _, _, _, rfl⟩, rfl, rfl⟩
  | publishOther name metrics =>
      simp only [step] at action
      split_ifs at action with own
      cases action
      exact ⟨rfl, ⟨_, _, _, _, rfl⟩, AList.lookup_insert_ne (Ne.symm own), rfl⟩
  | statsOther name stats =>
      simp only [step] at action
      split_ifs at action with own
      cases action
      refine ⟨rfl, ⟨_, _, _, _, rfl⟩, rfl, ?_⟩
      cases s.internal with
      | none => rfl
      | some im => simp [AList.lookup_insert_ne (Ne.symm own)]

theorem step_cases {i : Input} {s s' : State σ} {events : List (Event σ)}
    (action : step t s i = some (s', events)) :
    TaskStep t s s' events ∨ (events = [] ∧ Interferes t s s') := by
  by_cases outside : ∀ env, i ≠ .task env
  · exact .inr (outside_cases t outside action)
  · obtain ⟨env, own⟩ := not_forall_not.mp outside
    rw [own] at action
    exact .inl (taskStep_cases t action)

variable {t}

theorem known_name {name : String} {cfg : MetricConfig}
    (known : t.collector.metrics.find? (·.name = name) = some cfg) : cfg.name = name := by
  simpa using List.find?_some known

theorem configured_of_known {name : String} {cfg : MetricConfig}
    (known : t.collector.metrics.find? (·.name = name) = some cfg) : Configured t name :=
  ⟨cfg, List.mem_of_find?_eq_some known, known_name known⟩

theorem not_configured_of_unknown {name : String}
    (unknown : t.collector.metrics.find? (·.name = name) = none) : ¬Configured t name := by
  intro configured
  obtain ⟨m, member, rfl⟩ := configured
  simpa using List.find?_eq_none.mp unknown m member

variable {initial : State σ}

theorem run_invariant {P : List (Event σ) → State σ → Prop} (begins : P [] initial)
    (steps : ∀ {trace s s' events}, P trace s → TaskStep t s s' events → P (trace ++ events) s')
    (interference : ∀ {trace s s'}, P trace s → Interferes t s s' → P trace s')
    {trace : List (Event σ)} {s : State σ} (run : (machine t).Run initial trace s) : P trace s := by
  refine run.invariant (P := P) begins ?_
  intro trace s i s' events _ holds action
  rcases step_cases t action with own | ⟨rfl, others⟩
  · exact steps holds own
  · rw [List.append_nil]
    exact interference holds others

/-- The rule for what depends on the task alone: its channel and the shared maps do not matter. -/
theorem own_invariant {P : List (Event σ) → State σ → Prop} (begins : P [] initial)
    (steps : ∀ {trace s s' events}, P trace s → TaskStep t s s' events → P (trace ++ events) s')
    (frame : ∀ {trace s} shutdown senderDropped store internal,
      P trace s → P trace { s with shutdown, senderDropped, store, internal })
    {trace : List (Event σ)} {s : State σ} (run : (machine t).Run initial trace s) : P trace s := by
  refine run_invariant (P := P) begins steps ?_ run
  intro trace s s' holds others
  obtain ⟨shutdown, senderDropped, store, internal, rfl⟩ := others.frame
  exact frame shutdown senderDropped store internal holds

theorem run_resumed {before after : List (Event σ)} {e : Event σ} {s : State σ}
    (run : (machine t).Run initial (before ++ e :: after) s) :
    ∃ earlier state state' first last rest, (machine t).Run initial earlier state ∧
      TaskStep t state state' (first ++ e :: last) ∧ before = earlier ++ first ∧
        after = last ++ rest ∧ (machine t).Run state' rest s := by
  obtain ⟨earlier, state, i, state', first, last, rest, previous, action, front, back, resumed⟩ :=
    run.resumed rfl
  rcases step_cases t action with own | ⟨none, _⟩
  · exact ⟨earlier, state, state', first, last, rest, previous, own, front, back, resumed⟩
  · simp at none

theorem run_emitted {before after : List (Event σ)} {e : Event σ} {s : State σ}
    (run : (machine t).Run initial (before ++ e :: after) s) :
    ∃ earlier state state' first last, (machine t).Run initial earlier state ∧
      TaskStep t state state' (first ++ e :: last) ∧ before = earlier ++ first := by
  obtain ⟨earlier, state, state', first, last, -, previous, step, front, -, -⟩ := run_resumed run
  exact ⟨earlier, state, state', first, last, previous, step, front⟩

def Event.leads : Event σ → Bool
  | .disconnect | .aborted _ | .completed _ | .returned _ => false
  | _ => true

theorem tail_follows {s s' : State σ} {events : List (Event σ)} (step : TaskStep t s s' events) :
    ∀ e ∈ events.tail, e.leads = false := by
  cases step <;> simp [State.stop, publishStep, Event.leads]

theorem leading_step {s s' : State σ} {events first last : List (Event σ)} {e : Event σ}
    (step : TaskStep t s s' events) (split : events = first ++ e :: last) (leads : e.leads = true) :
    first = [] := by
  cases first with
  | nil => rfl
  | cons head rest =>
      have follows := tail_follows step e (by simp [split])
      rw [leads] at follows
      cases follows

structure Preserves (t : Task σ) (holds : σ → Prop) : Prop where
  connect : ∀ w, holds w → holds (t.reader.connect w).2
  disconnect : ∀ w, holds w → holds (t.reader.disconnect w).2
  read : ∀ cancelled w read w', holds w → t.reader.read cancelled w = .ok (read, w') → holds w'
  writes : ∀ steps w, holds w → holds (executeWrites t steps w).2

theorem world_step {holds : σ → Prop} (preserves : Preserves t holds) {s s' : State σ}
    {events : List (Event σ)} (before : holds s.world) (step : TaskStep t s s' events) :
    holds s'.world := by
  cases step
  case connected place ok | reconnected place ok =>
      have after := preserves.connect _ before
      rwa [ok] at after
  case connectFailed place failed | reconnectFailed place failed =>
      have after := preserves.connect _ before
      rwa [failed] at after
  case initialised place ok =>
      have after := preserves.writes t.collector.initWrites _ before
      rwa [ok] at after
  case prePolled place ok =>
      have after := preserves.writes t.collector.prePoll _ before
      rwa [ok] at after
  case initFailed place failed =>
      have after := preserves.writes t.collector.initWrites _ before
      rw [failed] at after
      exact preserves.disconnect _ after
  case reinitFailed place failed =>
      have after := preserves.writes t.collector.initWrites _ before
      rwa [failed] at after
  case prePollFailed place failed =>
      have after := preserves.writes t.collector.prePoll _ before
      rwa [failed] at after
  case readDone env read world place done => exact preserves.read _ _ _ _ before done
  case connectStopped | shutdownSeen | skipStopped | endStopped | disconnected | reconnectStopped =>
      exact preserves.disconnect _ before
  all_goals exact before

structure Script where
  connected : Bool := false
  connects : List Bool := []
  writes : List Bool := []
  reads : List (List (String × Option Float) × Bool) := []
  written : List WriteStep := []

namespace Script

def answer (ok : Bool) : Result Unit := if ok then .ok () else .error ⟨"no answer", []⟩

def reader : MetricReader Script where
  setMetrics _ s := s
  connect s :=
    let ok := s.connects.headD true
    (answer ok, { s with connected := ok, connects := s.connects.tail })
  disconnect s := (.ok (), { s with connected := false })
  isConnected s := s.connected
  read _ s :=
    let (entries, connected) := s.reads.headD ([], true)
    let metrics := entries.foldl (fun (map : HashMap String (Result (Float × Float))) e =>
      map.insert e.1 (match e.2 with
        | some value => .ok (value, value)
        | none => .error ⟨"no answer", []⟩)) ∅
    .ok ({ metrics, ioCount := entries.length }, { s with connected, reads := s.reads.tail })

def writer : MetricWriter Script where
  executeWrites steps s :=
    (answer (s.writes.headD true), { s with writes := s.writes.tail, written := s.written ++ steps })

def metric (name : String) : MetricConfig :=
  { name, metricType := .gauge, address := some 0, dataType := .u16 }

def task (metrics : List MetricConfig) (initWrites : List WriteStep) : Task Script where
  collector := { name := "boiler", protocol := .i2c "/dev/i2c-1" 64, initWrites, metrics }
  reader := reader
  writer := some writer
  globalLabels := ∅

def enable : WriteStep := { address := some 1, value := some (.single 128) }

end Script
end BusExporter.Collector
