import BusExporter.Proof.FailedReads
import BusExporter.Proof.PollCounts
import BusExporter.Proof.Reconnection

/-! The error counter of a collector stays below its request counter as long as no read has more failed
results than requests. -/

namespace BusExporter.Collector
open Lib Config

variable {σ : Type} {t : Task σ}

def Pc.pending : Pc → Nat
  | .results _ rest => rest.countP (failed ·.2)
  | _ => 0

def Paid (s : State σ) : Prop :=
  ∃ stats, s.stats t = some stats ∧ stats.readErrors + s.pc.pending ≤ stats.readRequests

theorem pending_afterConnect (s : State σ) {writes : Pc} (none : writes.pending = 0) :
    (s.afterConnect t writes).pc.pending = 0 := by
  simp only [State.afterConnect]
  split_ifs
  · exact none
  · rfl

theorem paid_step {s s' : State σ} {events : List (Event σ)}
    (balanced : ∀ read w, t.reader.read (fun _ => s.cancelled) s.world = .ok (read, w) →
      read.metrics.entries.countP (failed ·.2) ≤ read.ioCount)
    (paid : Paid (t := t) s) (step : TaskStep t s s' events) : Paid (t := t) s' := by
  obtain ⟨stats, here, paid⟩ := paid
  cases step
  case readDone env read world place done =>
      refine ⟨_, (stats_count t s _).trans (congrArg _ here), ?_⟩
      have few := balanced read world done
      rw [← (HashMap.iter_perm env.orders.results read.metrics).countP_eq] at few
      exact Nat.add_le_add ((Nat.le_add_right _ _).trans paid) few
  case ignored read entry rest place unknown =>
      refine ⟨stats, here, ?_⟩
      rw [place] at paid
      simp only [Pc.pending, List.countP_cons] at paid ⊢
      omega
  case stored env read name raw scaled cfg rest place known =>
      refine ⟨stats, here, ?_⟩
      rw [place] at paid
      simp only [Pc.pending, List.countP_cons] at paid ⊢
      omega
  case errorCounted read name e cfg rest place known connected =>
      refine ⟨_, (stats_count t s _).trans (congrArg _ here), ?_⟩
      rw [place] at paid
      simp only [Pc.pending, List.countP_cons, failed, if_true] at paid ⊢
      omega
  -- the loop breaks off: what it had still to count is not counted
  case connectionLost read name e cfg rest place known lost =>
      refine ⟨_, (stats_count t s _).trans (congrArg _ here), ?_⟩
      rw [place] at paid
      simp only [Pc.pending, List.countP_cons, failed, if_true] at paid ⊢
      omega
  case cycle | skipped | prePollAborted | aborted | completed =>
      refine ⟨_, (stats_count t s _).trans (congrArg _ here), ?_⟩
      exact (Nat.le_add_right _ _).trans paid
  case connected place ok | reconnected place ok =>
      refine ⟨stats, here, ?_⟩
      rw [pending_afterConnect _ rfl]
      exact (Nat.le_add_right _ _).trans paid
  case proceed place running =>
      refine ⟨stats, here, ?_⟩
      simp only
      split_ifs <;> exact (Nat.le_add_right _ _).trans paid
  case prePollFailed place failed =>
      refine ⟨stats, here, ?_⟩
      simp only
      split_ifs <;> exact (Nat.le_add_right _ _).trans paid
  all_goals
    refine ⟨stats, here, ?_⟩
    exact (Nat.le_add_right _ _).trans paid

theorem paid {holds : σ → Prop} (preserves : Preserves t holds)
    (balanced : ∀ cancelled w read w', holds w → t.reader.read cancelled w = .ok (read, w') →
      read.metrics.entries.countP (failed ·.2) ≤ read.ioCount)
    {world : σ} (begins : holds (t.reader.setMetrics t.collector.metrics world))
    {trace : List (Event σ)} {s : State σ}
    (run : (machine t).Run (start t world true) trace s) : Paid (t := t) s := by
  have both : holds s.world ∧ Paid (t := t) s := by
    refine run_invariant (P := fun _ s => holds s.world ∧ Paid (t := t) s)
      ⟨begins, {}, rfl, le_rfl⟩ ?_ ?_ run
    · rintro trace s s' events ⟨held, paid⟩ step
      exact ⟨world_step preserves held step, paid_step (fun read w => balanced _ _ read w held) paid step⟩
    · rintro trace s s' ⟨held, stats, here, paid⟩ others
      have same := others.stats_eq
      obtain ⟨shutdown, senderDropped, store, internal, rfl⟩ := others.frame
      exact ⟨held, stats, same.trans here, paid⟩
  exact both.2

end BusExporter.Collector

namespace BusExporter.Modbus
open Lib Config Collector

variable {κ ω : Type} {lib : TokioModbus κ ω} {collector : CollectorConfig}
  {globalLabels : BTreeMap String}

theorem request_metrics (label : String) (addr count : UInt16) (check : Result Unit) (request : Request)
    {s : ModbusMetricReader κ × ω} {metrics : List MetricConfig} (same : s.1.metrics = metrics) :
    (ModbusMetricReader.request lib label addr count check request s).2.1.metrics = metrics := by
  unfold ModbusMetricReader.request
  cases check with
  | error e => exact same
  | ok checked => cases context : s.1.context <;> exact same

theorem modbusReader_metrics (lib : TokioModbus κ ω) (metrics : List MetricConfig) :
    Keeps (fun s => s.1.metrics = metrics) (ModbusMetricReader.modbusReader lib) where
  holding addr count _ := request_metrics _ addr count _ _
  input addr count _ := request_metrics _ addr count _ _
  coils addr count _ := request_metrics _ addr count _ _
  discreteInputs addr count _ := request_metrics _ addr count _ _

theorem keeps_metrics (metrics : List MetricConfig) :
    Preserves (modbusTask lib collector globalLabels) fun s => s.1.metrics = metrics where
  connect s same := by
    simp only [modbusTask, ModbusMetricReader.metricReader, ModbusMetricReader.connect]
    split <;> exact same
  disconnect s same := same
  read cancelled s read s' same done := by
    have kept := batchReadWith_keeps Decoder.decode (modbusReader_metrics lib metrics) s.1.metrics same
    cases done
    exact kept
  writes steps s same := same

/-- A collector never counts more failed results than requests, where the metrics that end with the last
register behind an earlier start of their range do not outnumber the ranges. -/
theorem errors_within_requests (answers : AnswersExactly lib) (modbus : collector.protocol.isModbus = true)
    (valid : ∀ m ∈ collector.metrics, validateMetric collector m = .ok ())
    (few : (plan collector.metrics).lost ≤ (plan collector.metrics).ranges.length)
    (transport : Transport) (slaveId : UInt8) (w : ω)
    {trace : List (Event (ModbusMetricReader κ × ω))} {s : State (ModbusMetricReader κ × ω)}
    (run : (machine (modbusTask lib collector globalLabels)).Run
      (start (modbusTask lib collector globalLabels) ({ transport, slaveId }, w) true) trace s) :
    ∃ stats, s.stats (modbusTask lib collector globalLabels) = some stats ∧
      stats.readErrors ≤ stats.readRequests := by
  have balanced : ∀ cancelled (w : ModbusMetricReader κ × ω) read w', w.1.metrics = collector.metrics →
      (ModbusMetricReader.metricReader lib).read cancelled w = .ok (read, w') →
        read.metrics.entries.countP (failed ·.2) ≤ read.ioCount := by
    intro cancelled w read w' same done
    apply read_failures_le answers _ _ done
    · rw [same]
      exact fun m member => modbus_metric (valid m member) modbus
    · rwa [same]
  obtain ⟨stats, here, paid⟩ := paid (keeps_metrics collector.metrics) balanced rfl run
  exact ⟨stats, here, (Nat.le_add_right _ _).trans paid⟩

def answering : TokioModbus Unit Unit where
  lookupHost _ w := (.ok ["10.0.0.9:502"], w)
  connectSlave _ _ w := (.ok (), w)
  attachSlave _ _ w := (.ok (), w)
  call request ctx w := match request with
    | .holdingRegisters _ count => (.data (List.replicate count.toNat 0), ctx, w)
    | .inputRegisters _ count => (.data (List.replicate count.toNat 0), ctx, w)
    | .coils _ count => (.data (List.replicate count.toNat false), ctx, w)
    | .discreteInputs _ count => (.data (List.replicate count.toNat false), ctx, w)

theorem answering_exact : AnswersExactly answering := by
  constructor
  · intro addr count ctx w regs ctx' w' _ called
    cases called
    simp
  · intro addr count ctx w regs ctx' w' _ called
    cases called
    simp

def gatewayTask (metrics : List MetricConfig) : Collector.Task (ModbusMetricReader Unit × Unit) :=
  modbusTask answering (gateway metrics) ∅

def gatewayStart (metrics : List MetricConfig) : State (ModbusMetricReader Unit × Unit) :=
  start (gatewayTask metrics) ({ transport := .tcp "127.0.0.1:502", slaveId := 1 }, ()) true

def stuttering : TokioModbus Unit Nat where
  lookupHost _ w := (.ok ["10.0.0.9:502"], w)
  connectSlave _ _ w := (.ok (), w)
  attachSlave _ _ w := (.ok (), w)
  call request ctx w :=
    if w ∈ [0, 3, 4] then (.exception "server device is busy", ctx, w + 1)
    else match request with
      | .holdingRegisters addr count | .inputRegisters addr count =>
          (.data (List.replicate count.toNat (addr + 7)), ctx, w + 1)
      | .coils _ count | .discreteInputs _ count => (.data (List.replicate count.toNat true), ctx, w + 1)

theorem stuttering_exact : AnswersExactly stuttering := by
  constructor
  · intro addr count ctx w regs ctx' w' _ called
    simp only [stuttering] at called
    split_ifs at called
    · cases called
    · cases called
      simp
  · intro addr count ctx w regs ctx' w' _ called
    simp only [stuttering] at called
    split_ifs at called
    · cases called
    · cases called
      simp

def tank : CollectorConfig := gateway [registerMetric "flow" 0, registerMetric "level" 1]

def tankTask : Collector.Task (ModbusMetricReader Unit × Nat) := modbusTask stuttering tank ∅

def tankStart : State (ModbusMetricReader Unit × Nat) :=
  start tankTask ({ transport := .tcp "127.0.0.1:502", slaveId := 1 }, 0) true

/-- The ranged read fails in both cycles, and in the second so does one of the single reads. -/
theorem errors_within_requests_gateway :
    ∃ trace s, (machine tankTask).Run tankStart trace s ∧ s.pc = .cycleStart ∧
      ∃ stats, s.stats tankTask = some stats ∧ stats.readErrors = 1 ∧ stats.readRequests = 6 ∧
        stats.readErrors ≤ stats.readRequests := by
  have polls : ((machine tankTask).exec tankStart (List.replicate 17 (.task {}))).map (fun run =>
      (run.2.pc, (run.2.stats tankTask).map fun stats => (stats.readErrors, stats.readRequests))) =
      some (.cycleStart, some (1, 6)) := rfl
  obtain ⟨⟨trace, s⟩, executed, shape⟩ := Option.map_eq_some_iff.mp polls
  obtain ⟨head, counts⟩ := Prod.mk.inj shape
  obtain ⟨stats, here, both⟩ := Option.map_eq_some_iff.mp counts
  obtain ⟨errors, requests⟩ := Prod.mk.inj both
  obtain ⟨stats', here', within⟩ := errors_within_requests stuttering_exact rfl (by decide) (by decide)
    (.tcp "127.0.0.1:502") 1 0 (Machine.exec_run executed)
  obtain rfl := Option.some.inj (here.symm.trans here')
  exact ⟨trace, s, Machine.exec_run executed, head, stats, here, errors, requests, within⟩

def topMetrics : List MetricConfig :=
  [registerMetric "flow" 65534, registerMetric "level" 65535, registerMetric "pressure" 65535]

/-- One request reads from the last register but one, and both metrics in the last register fail. -/
theorem errors_exceed_requests : AnswersExactly answering ∧
    (gateway topMetrics).protocol.isModbus = true ∧
    (∀ m ∈ topMetrics, validateMetric (gateway topMetrics) m = .ok ()) ∧
    ∃ trace s, (machine (gatewayTask topMetrics)).Run (gatewayStart topMetrics) trace s ∧
      s.pc = .cycleStart ∧ ∃ stats, s.stats (gatewayTask topMetrics) = some stats ∧
        ¬stats.readErrors ≤ stats.readRequests := by
  refine ⟨answering_exact, rfl, by decide, ?_⟩
  have polls : ((machine (gatewayTask topMetrics)).exec (gatewayStart topMetrics)
      (List.replicate 10 (.task {}))).map (fun run => (run.2.pc, (run.2.stats (gatewayTask topMetrics)).map
        fun stats => (stats.readErrors, stats.readRequests))) =
      some (.cycleStart, some (2, 1)) := rfl
  obtain ⟨⟨trace, s⟩, executed, shape⟩ := Option.map_eq_some_iff.mp polls
  obtain ⟨head, counts⟩ := Prod.mk.inj shape
  obtain ⟨stats, here, both⟩ := Option.map_eq_some_iff.mp counts
  obtain ⟨errors, requests⟩ := Prod.mk.inj both
  refine ⟨trace, s, Machine.exec_run executed, head, stats, here, ?_⟩
  rw [errors, requests]
  decide

end BusExporter.Modbus
