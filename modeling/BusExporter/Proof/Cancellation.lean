import BusExporter.Model.MetricLoop
import BusExporter.Proof.CollectorSteps

/-! What a shutdown that is sent while a collector reads does to its metric loop: nothing, since the task
cancels its token only where it leaves. -/

namespace BusExporter.Collector
open Lib Config

variable {σ : Type} (t : LoopTask σ)

def LoopEvent.own : LoopEvent σ → Option (Event σ)
  | .task e => some e
  | .flagSent | .metricRead _ => none

def LoopEvent.isMetricRead : LoopEvent σ → Bool
  | .metricRead _ => true
  | .task _ | .flagSent => false

inductive LoopStep (s : LoopState σ) : LoopState σ → List (LoopEvent σ) → Prop
  | own {env : Env} {task : State σ} {events : List (Event σ)} (idle : s.reading = none)
      (action : taskStep t.task env s.task = some (task, events)) (elsewhere : s.task.pc ≠ .read) :
      LoopStep s { task } (events.map .task)
  | opened (idle : s.reading = none) (place : s.task.pc = .read) :
      LoopStep s { s with reading := some ⟨∅, t.reader.metrics s.task.world, s.task.world⟩ } []
  | finished (env : Env) {p : Progress σ} (here : s.reading = some p)
      (ends : p.rest = [] ∨ s.task.cancelled = true) :
      LoopStep s (finishRead t env s.task p.results p.world).1 (finishRead t env s.task p.results p.world).2
  | panicked {p : Progress σ} {metric : MetricConfig} {rest : List MetricConfig} {cause : Panic}
      (here : s.reading = some p) (left : p.rest = metric :: rest) (running : s.task.cancelled = false)
      (failed : t.reader.readMetric metric p.world = .error cause) :
      LoopStep s { task := { s.task with pc := .panicked cause } } [.metricRead metric]
  | advanced {p : Progress σ} {metric : MetricConfig} {rest : List MetricConfig}
      {result : Result (Float × Float)} {world : σ} (here : s.reading = some p)
      (left : p.rest = metric :: rest) (running : s.task.cancelled = false)
      (done : t.reader.readMetric metric p.world = .ok (result, world)) :
      LoopStep s { s with reading := some ⟨p.results.insert metric.name result, rest, world⟩ }
        [.metricRead metric]
  | outside {i : Input} {task : State σ} {events : List (LoopEvent σ)}
      (action : step t.task s.task i = some (task, [])) (others : Interferes t.task s.task task)
      (quiet : events = [] ∨ events = [.flagSent]) : LoopStep s { s with task } events

theorem loopTaskStep_cases {env : Env} {s s' : LoopState σ} {events : List (LoopEvent σ)}
    (action : loopTaskStep t env s = some (s', events)) : LoopStep t s s' events := by
  unfold loopTaskStep at action
  cases reading : s.reading with
  | none =>
      simp only [reading] at action
      split at action
      · rename_i place
        cases action
        exact .opened reading place
      · rename_i elsewhere
        obtain ⟨⟨task, taskEvents⟩, done, same⟩ := Option.map_eq_some_iff.mp action
        cases same
        exact .own reading done elsewhere
  | some p =>
      obtain ⟨results, rest, world⟩ := p
      cases rest with
      | nil =>
          simp only [reading] at action
          cases action
          exact .finished env reading (.inl rfl)
      | cons metric rest =>
          simp only [reading] at action
          split_ifs at action with cancelled
          · cases action
            exact .finished env reading (.inr cancelled)
          · have running : s.task.cancelled = false := by simpa using cancelled
            split at action
            · rename_i cause failed
              cases action
              exact .panicked reading rfl running failed
            · rename_i result world' done
              cases action
              exact .advanced reading rfl running done

theorem loopStep_cases {i : Input} {s s' : LoopState σ} {events : List (LoopEvent σ)}
    (action : loopStep t s i = some (s', events)) : LoopStep t s s' events := by
  have outside : ∀ {task : State σ} {taskEvents : List (Event σ)}, (∀ env, i ≠ .task env) →
      step t.task s.task i = some (task, taskEvents) →
        LoopStep t s { s with task } (taskEvents.map .task) := by
    intro task taskEvents other done
    obtain ⟨rfl, others⟩ := outside_cases t.task other done
    exact .outside done others (.inl rfl)
  cases i with
  | task env => exact loopTaskStep_cases t action
  | sendShutdown =>
      cases action
      have sent : step t.task s.task .sendShutdown = some ({ s.task with shutdown := true }, []) := rfl
      exact .outside sent (outside_cases t.task (by simp) sent).2 (.inr rfl)
  | dropSender | publishOther name metrics | statsOther name stats =>
      simp only [loopStep] at action
      obtain ⟨⟨task, taskEvents⟩, done, same⟩ := Option.map_eq_some_iff.mp action
      cases same
      exact outside (by simp) done

def Reads (s : LoopState σ) (whole : State σ) : Prop :=
  s.task = whole ∧ ∀ p, s.reading = some p → whole.pc = .read ∧
    readLoop (fun _ => whole.cancelled) t.reader.readMetric (t.reader.metrics whole.world) ∅ whole.world =
      readLoop (fun _ => whole.cancelled) t.reader.readMetric p.rest p.results p.world

theorem own_events (events : List (Event σ)) : (events.map .task).filterMap LoopEvent.own = events := by
  rw [List.filterMap_map]
  exact List.filterMap_some

theorem read_whole (s : State σ) : t.task.reader.read (fun _ => s.cancelled) s.world =
    readEach (fun _ => s.cancelled) t.reader.readMetric (t.reader.metrics s.world) s.world :=
  t.reader.loops _ _

variable {t}

theorem finishRead_whole {s : LoopState σ} (reads : Reads t s s.task) (env : Env) {p : Progress σ}
    (here : s.reading = some p) (ends : p.rest = [] ∨ s.task.cancelled = true) :
    taskStep t.task env s.task = some ((finishRead t env s.task p.results p.world).1.task,
      (finishRead t env s.task p.results p.world).2.filterMap LoopEvent.own) := by
  obtain ⟨place, rest⟩ := reads.2 p here
  have last : readLoop (fun _ => s.task.cancelled) t.reader.readMetric p.rest p.results p.world =
      .ok (p.results, p.world) := by
    rcases ends with empty | cancelled
    · rw [empty, readLoop]
    · cases left : p.rest with
      | nil => rw [readLoop]
      | cons metric others => rw [readLoop, if_pos cancelled]
  have whole := read_whole t s.task
  rw [readEach, rest, last] at whole
  unfold taskStep
  simp only [place]
  rw [whole]
  rfl

theorem loopStep_simulated {s s' : LoopState σ} {whole : State σ} {events : List (LoopEvent σ)}
    (reads : Reads t s whole) (step : LoopStep t s s' events) :
    (events.filterMap LoopEvent.own = [] ∧ Reads t s' whole) ∨
      ∃ i whole', (machine t.task).step whole i = some (whole', events.filterMap LoopEvent.own) ∧
        Reads t s' whole' := by
  obtain ⟨rfl, inside⟩ := reads
  cases step with
  | @own env task taskEvents idle action elsewhere =>
      refine .inr ⟨.task env, task, ?_, rfl, nofun⟩
      rw [own_events]
      exact action
  | opened idle place =>
      refine .inl ⟨rfl, rfl, fun p here => ?_⟩
      cases here
      exact ⟨place, rfl⟩
  | finished env here ends =>
      exact .inr ⟨.task env, _, finishRead_whole ⟨rfl, inside⟩ env here ends, rfl, by simp [finishRead]⟩
  | @panicked p metric rest cause here left running failed =>
      obtain ⟨place, loop⟩ := inside p here
      refine .inr ⟨.task {}, _, ?_, rfl, nofun⟩
      have whole := read_whole t s.task
      rw [readEach, loop, left, readLoop, running, if_neg Bool.false_ne_true, failed] at whole
      simp only [machine, Collector.step, taskStep, place, running, whole]
      rfl
  | @advanced p metric rest result world here left running done =>
      refine .inl ⟨rfl, rfl, fun p' here' => ?_⟩
      cases here'
      obtain ⟨place, loop⟩ := inside p here
      refine ⟨place, ?_⟩
      rw [loop, left, readLoop, running, if_neg Bool.false_ne_true, done]
      rfl
  | @outside i task events action others quiet =>
      obtain ⟨shutdown, senderDropped, store, internal, rfl⟩ := others.frame
      refine .inr ⟨i, _, ?_, rfl, inside⟩
      rcases quiet with rfl | rfl <;> exact action

theorem run_whole {world : σ} {internalMetrics : Bool} {trace : List (LoopEvent σ)} {s : LoopState σ}
    (run : (loopMachine t).Run (loopStart t world internalMetrics) trace s) :
    (machine t.task).Run (start t.task world internalMetrics) (trace.filterMap LoopEvent.own) s.task ∧
      Reads t s s.task := by
  have begins : Reads t (loopStart t world internalMetrics) (start t.task world internalMetrics) :=
    ⟨rfl, by simp [loopStart]⟩
  obtain ⟨whole, taskRun, rfl, inside⟩ := run.simulated LoopEvent.own begins
    fun related action => loopStep_simulated related (loopStep_cases t action)
  exact ⟨taskRun, rfl, inside⟩

theorem cancelled_returned (t : Task σ) {initial : State σ} (begins : initial.cancelled = false)
    {trace : List (Event σ)} {s : State σ} (run : (machine t).Run initial trace s)
    (cancelled : s.cancelled = true) : ∃ path, s.pc = .returned path := by
  have leaves : s.cancelled = true → ∃ path, s.pc = .returned path := by
    refine own_invariant (P := fun _ s => s.cancelled = true → ∃ path, s.pc = .returned path)
      (by simp [begins]) ?_ (fun _ _ _ _ held => held) run
    intro trace s s' events held step cancelled
    cases step
    case connectStopped | initStopped | shutdownSeen | skipStopped | endStopped | reconnectStopped =>
      exact ⟨_, rfl⟩
    all_goals
      obtain ⟨path, left⟩ := held cancelled
      simp_all
  exact leaves cancelled

theorem uncancelled {world : σ} {internalMetrics : Bool} {trace : List (LoopEvent σ)} {s : LoopState σ}
    (run : (loopMachine t).Run (loopStart t world internalMetrics) trace s)
    (inside : s.task.pc = .prePoll ∨ s.task.pc = .read) : s.task.cancelled = false := by
  by_contra cancelled
  obtain ⟨path, left⟩ := cancelled_returned t.task rfl (run_whole run).1 (by simpa using cancelled)
  rcases inside with place | place
  all_goals
    rw [place] at left
    cases left

variable (t) in
/-- The task has passed the shutdown check of a cycle and still has a metric of it to read: in the middle
of the loop, or before it, with a pre-poll that will succeed. -/
def Committed (s : LoopState σ) : Prop :=
  match s.reading, s.task.pc with
  | some p, _ => p.rest ≠ []
  | none, .read => t.reader.metrics s.task.world ≠ []
  | none, .prePoll => ∃ world, executeWrites t.task t.collector.prePoll s.task.world = (.ok (), world) ∧
      t.reader.metrics world ≠ []
  | none, _ => False

theorem shutdown_kept {t : Task σ} {i : Input} {s s' : State σ} {events : List (Event σ)}
    (action : step t s i = some (s', events)) (sent : s.shutdown = true) : s'.shutdown = true := by
  cases i with
  | task env =>
      have own := taskStep_cases t action
      cases own <;> exact sent
  | sendShutdown =>
      cases action
      rfl
  | dropSender =>
      cases action
      exact sent
  | publishOther name metrics | statsOther name stats =>
      simp only [step] at action
      split_ifs at action
      cases action
      exact sent

theorem committed_task {task : State σ} (committed : Committed t { task }) :
    (task.pc = .read ∧ t.reader.metrics task.world ≠ []) ∨
      task.pc = .prePoll ∧ ∃ world, executeWrites t.task t.collector.prePoll task.world = (.ok (), world) ∧
        t.reader.metrics world ≠ [] := by
  unfold Committed at committed
  cases place : task.pc with
  | read => exact .inl ⟨rfl, by simpa only [place] using committed⟩
  | prePoll => exact .inr ⟨rfl, by simpa only [place] using committed⟩
  | _ => simp only [place] at committed

theorem reads_after_prePoll {t : Task σ} {s s' : State σ} {events : List (Event σ)}
    (step : TaskStep t s s' events) (sent : s.shutdown = true) :
    s'.pc ≠ .prePoll ∧ (s'.pc = .read → s.pc = .prePoll ∧
      executeWrites t t.collector.prePoll s.world = (.ok (), s'.world)) := by
  cases step
  case proceed place running =>
      rw [sent] at running
      cases running
  case prePolled world place ok => exact ⟨by simp, fun _ => ⟨place, ok⟩⟩
  case connected world place ok | reconnected world place ok =>
      simp only [State.afterConnect]
      split_ifs <;> simp
  case prePollFailed e world place failed =>
      simp only
      split_ifs <;> simp
  all_goals simp [State.stop, publishStep, State.countOutcome, State.count]

def Stopped (t : LoopTask σ) (s : LoopState σ) : Prop := s.task.shutdown = true ∧ ¬Committed t s

theorem stopped_step {s s' : LoopState σ} {events : List (LoopEvent σ)} (stopped : Stopped t s)
    (step : LoopStep t s s' events) : Stopped t s' ∧ ∀ e ∈ events, e.isMetricRead = false := by
  obtain ⟨sent, free⟩ := stopped
  cases step with
  | @own env task taskEvents idle action elsewhere =>
      refine ⟨⟨shutdown_kept (i := .task env) action sent, fun committed => ?_⟩, ?_⟩
      · have arrives := reads_after_prePoll (taskStep_cases t.task action) sent
        rcases committed_task committed with ⟨place, left⟩ | ⟨place, -⟩
        · obtain ⟨before, ok⟩ := arrives.2 place
          apply free
          simp only [Committed, idle, before]
          exact ⟨_, ok, left⟩
        · exact arrives.1 place
      · intro e member
        obtain ⟨taskEvent, -, rfl⟩ := List.mem_map.mp member
        rfl
  | opened idle place =>
      simp only [Committed, idle, place] at free
      exact ⟨⟨sent, free⟩, by simp⟩
  | @finished env p here ends =>
      refine ⟨⟨sent, fun committed => ?_⟩, by simp [finishRead, LoopEvent.isMetricRead]⟩
      rcases committed_task committed with ⟨place, -⟩ | ⟨place, -⟩ <;> cases place
  | @panicked p metric rest cause here left running failed =>
      simp only [Committed, here, left] at free
      exact absurd (List.cons_ne_nil _ _) free
  | @advanced p metric rest result world here left running done =>
      simp only [Committed, here, left] at free
      exact absurd (List.cons_ne_nil _ _) free
  | @outside i task outsideEvents action others quiet =>
      have still := shutdown_kept action sent
      obtain ⟨shutdown, senderDropped, store, internal, rfl⟩ := others.frame
      refine ⟨⟨still, free⟩, ?_⟩
      rcases quiet with rfl | rfl <;> simp [LoopEvent.isMetricRead]

theorem stopped_run {s : LoopState σ} (stopped : Stopped t s) {later : List (LoopEvent σ)}
    {s' : LoopState σ} (run : (loopMachine t).Run s later s') :
    Stopped t s' ∧ ∀ e ∈ later, e.isMetricRead = false := by
  refine run.invariant (P := fun later s' => Stopped t s' ∧ ∀ e ∈ later, e.isMetricRead = false)
    ⟨stopped, by simp⟩ ?_
  intro trace s i s' events _ so action
  obtain ⟨next, quiet⟩ := stopped_step so.1 (loopStep_cases t action)
  exact ⟨next, List.forall_mem_append.mpr ⟨so.2, quiet⟩⟩

theorem next_metric_read {s : LoopState σ} {p : Progress σ} (here : s.reading = some p) (left : p.rest ≠ [])
    (running : s.task.cancelled = false) :
    ∃ s' metric, (loopMachine t).step s (.task {}) = some (s', [.metricRead metric]) := by
  obtain ⟨metric, rest, split⟩ := List.exists_cons_of_ne_nil left
  obtain ⟨results, _, world⟩ := p
  cases split
  simp only [loopMachine, loopStep, loopTaskStep, here, running, Bool.false_eq_true, if_false]
  cases t.reader.readMetric metric world with
  | error cause => exact ⟨_, metric, rfl⟩
  | ok read => exact ⟨_, metric, rfl⟩

theorem opened_reads {s : LoopState σ} (idle : s.reading = none) (place : s.task.pc = .read)
    (left : t.reader.metrics s.task.world ≠ []) (running : s.task.cancelled = false) :
    ∃ later s', (loopMachine t).Run s later s' ∧ ∃ e ∈ later, e.isMetricRead = true := by
  have opens : (loopMachine t).step s (.task {}) =
      some ({ s with reading := some ⟨∅, t.reader.metrics s.task.world, s.task.world⟩ }, []) := by
    simp only [loopMachine, loopStep, loopTaskStep, idle, place]
  obtain ⟨s', metric, reads⟩ := next_metric_read
    (s := { s with reading := some ⟨∅, t.reader.metrics s.task.world, s.task.world⟩ }) rfl left running
  exact ⟨_, s', (Machine.Run.start.next opens).next reads, .metricRead metric, by simp, rfl⟩

theorem prePolled_reads {s : LoopState σ} (idle : s.reading = none) (place : s.task.pc = .prePoll) {world : σ}
    (ok : executeWrites t.task t.collector.prePoll s.task.world = (.ok (), world))
    (left : t.reader.metrics world ≠ []) (running : s.task.cancelled = false) :
    ∃ later s', (loopMachine t).Run s later s' ∧ ∃ e ∈ later, e.isMetricRead = true := by
  have written : executeWrites t.task t.task.collector.prePoll s.task.world = (.ok (), world) := ok
  have action : taskStep t.task {} s.task =
      some ({ s.task with world, prePollFailures := 0, pc := .read },
        [.prePoll s.task.world t.collector.prePoll true world]) := by
    simp only [taskStep, place, written]
    rfl
  have polls : (loopMachine t).step s (.task {}) =
      some ({ task := { s.task with world, prePollFailures := 0, pc := .read } },
        [.task (.prePoll s.task.world t.collector.prePoll true world)]) := by
    simp only [loopMachine, loopStep, loopTaskStep, idle, place, lifted, action]
    rfl
  obtain ⟨later, s', reads, e, member, isRead⟩ := opened_reads (t := t)
    (s := { task := { s.task with world, prePollFailures := 0, pc := .read } }) rfl rfl left running
  exact ⟨_, s', (Machine.Run.start.next polls).trans reads, e, by simp [member], isRead⟩

theorem committed_reads {world : σ} {internalMetrics : Bool} {trace : List (LoopEvent σ)} {s : LoopState σ}
    (run : (loopMachine t).Run (loopStart t world internalMetrics) trace s) (committed : Committed t s) :
    ∃ later s', (loopMachine t).Run (flagged s) later s' ∧ ∃ e ∈ later, e.isMetricRead = true := by
  cases reading : s.reading with
  | some p =>
      have running := uncancelled run (.inr ((run_whole run).2.2 p reading).1)
      simp only [Committed, reading] at committed
      obtain ⟨s', metric, reads⟩ := next_metric_read (t := t) (s := flagged s) reading committed running
      exact ⟨_, s', Machine.Run.start.next reads, .metricRead metric, by simp, rfl⟩
  | none =>
      have alone : Committed t { task := s.task } := by
        simpa only [Committed, reading] using committed
      rcases committed_task alone with ⟨place, left⟩ | ⟨place, world', ok, left⟩
      · have running := uncancelled run (.inr place)
        exact opened_reads (s := flagged s) reading place left running
      · have running := uncancelled run (.inl place)
        exact prePolled_reads (s := flagged s) reading place ok left running

/-- No metric read starts after the flag just when the flag is not sent between a shutdown check that
passed and the start of the last metric read of its cycle. -/
theorem reads_stop_iff (t : LoopTask σ) {world : σ} {internalMetrics : Bool} {trace : List (LoopEvent σ)}
    {s : LoopState σ} (run : (loopMachine t).Run (loopStart t world internalMetrics) trace s) :
    (∀ later s', (loopMachine t).Run (flagged s) later s' → ∀ e ∈ later, e.isMetricRead = false) ↔
      ¬Committed t s := by
  constructor
  · intro stops committed
    obtain ⟨later, s', late, e, member, reads⟩ := committed_reads run committed
    rw [stops later s' late e member] at reads
    cases reads
  · intro free later s' late
    have stopped : Stopped t (flagged s) := ⟨rfl, free⟩
    exact (stopped_run stopped late).2

def boardDevice : I2c.I2cDevice Unit where
  writeRead _ readLen w := (.ok (List.replicate readLen 0), w)
  write _ w := (.ok (), w)

def boardTask : LoopTask (I2c.I2cMetricReader Unit × Unit) where
  collector :=
    { name := "board", protocol := .i2c "/dev/i2c-1" 64
      metrics := [Script.metric "voltage", Script.metric "current"] }
  reader := i2cReader Decoder.decodeBytes
  writer := none
  globalLabels := ∅

def boardStart : LoopState (I2c.I2cMetricReader Unit × Unit) :=
  loopStart boardTask ({ device := boardDevice, busPath := "/dev/i2c-1", address := 64 }, ()) true

theorem reads_stop_iff_board :
    ∃ trace s, (loopMachine boardTask).Run boardStart trace s ∧ s.task.pc = .shutdownCheck ∧
      ∀ later s', (loopMachine boardTask).Run (flagged s) later s' → ∀ e ∈ later, e.isMetricRead = false := by
  have polls : ((loopMachine boardTask).exec boardStart [.task {}, .task {}]).map
      (fun run => (run.2.reading.isNone, run.2.task.pc)) = some (true, .shutdownCheck) := rfl
  obtain ⟨⟨trace, s⟩, executed, shape⟩ := Option.map_eq_some_iff.mp polls
  obtain ⟨none, place⟩ := Prod.mk.inj shape
  have idle := Option.isNone_iff_eq_none.mp none
  have run := Machine.exec_run executed
  refine ⟨trace, s, run, place, (reads_stop_iff boardTask run).mpr ?_⟩
  dsimp only at idle place
  simp only [Committed, idle, place, not_false_eq_true]

/-- A flag that is sent after the first metric of a cycle does not keep the second from being read. -/
theorem metric_read_after_flag :
    ∃ trace s later s', (loopMachine boardTask).Run boardStart trace s ∧
      (loopMachine boardTask).Run (flagged s) later s' ∧ ∃ e ∈ later, e.isMetricRead = true := by
  have polls : ((loopMachine boardTask).exec boardStart (List.replicate 5 (.task {}))).map
      (fun run => run.2.reading.map (·.rest.map (·.name))) = some (some ["current"]) := rfl
  obtain ⟨⟨trace, s⟩, executed, shape⟩ := Option.map_eq_some_iff.mp polls
  obtain ⟨p, reading, left⟩ := Option.map_eq_some_iff.mp shape
  have run := Machine.exec_run executed
  have committed : Committed boardTask s := by
    dsimp only at reading
    simp only [Committed, reading]
    intro empty
    rw [empty] at left
    cases left
  obtain ⟨later, s', late, found⟩ := committed_reads run committed
  exact ⟨trace, s, later, s', run, late, found⟩

end BusExporter.Collector
