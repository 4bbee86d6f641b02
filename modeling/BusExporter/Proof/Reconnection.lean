import BusExporter.Model.Factory
import BusExporter.Proof.CollectorSteps
import BusExporter.Proof.Recording

/-! A collector over a Modbus reader never reconnects once it polls, whatever its context reports: the
reader counts as connected as long as it has a context, and no error takes that away. -/

namespace BusExporter.Modbus
open Lib Config Collector

variable {κ ω : Type}

def modbusTask (lib : TokioModbus κ ω) (collector : CollectorConfig) (globalLabels : BTreeMap String) :
    Collector.Task (ModbusMetricReader κ × ω) where
  collector
  reader := ModbusMetricReader.metricReader lib
  writer := none
  globalLabels

theorem modbus_created (platform : Platform κ ω) {collector : CollectorConfig}
    (modbus : collector.protocol.isModbus = true) (w : ω) :
    (∃ transport, create platform collector w =
      .ok (.ok (.modbus { transport, slaveId := collector.slaveId.getD 1 }), w)) ∧
    createWriter platform collector w = .ok (.ok none, w) := by
  unfold create createWriter
  cases protocol : collector.protocol with
  | modbusTcp endpoint => exact ⟨⟨_, rfl⟩, by split_ifs <;> rfl⟩
  | modbusRtu device bps dataBits stopBits parity => exact ⟨⟨_, rfl⟩, by split_ifs <;> rfl⟩
  | i2c | spi | i3c =>
      simp [protocol, Protocol.isModbus, Protocol.isI2c, Protocol.isSpi, Protocol.isI3c] at modbus

def HasContext (s : ModbusMetricReader κ × ω) : Prop := s.1.context.isSome = true

theorem request_keeps (lib : TokioModbus κ ω) (label : String) (addr count : UInt16)
    (check : Result Unit) (request : Request) {s : ModbusMetricReader κ × ω} (has : HasContext s) :
    HasContext (ModbusMetricReader.request lib label addr count check request s).2 := by
  unfold ModbusMetricReader.request
  cases check with
  | error e => exact has
  | ok checked =>
      cases context : s.1.context with
      | none => exact has
      | some ctx => rfl

theorem modbusReader_keeps (lib : TokioModbus κ ω) :
    Keeps HasContext (ModbusMetricReader.modbusReader lib) where
  holding addr count _ := request_keeps lib _ addr count _ _
  input addr count _ := request_keeps lib _ addr count _ _
  coils addr count _ := request_keeps lib _ addr count _ _
  discreteInputs addr count _ := request_keeps lib _ addr count _ _

theorem read_keeps (lib : TokioModbus κ ω) {cancelled : ModbusMetricReader κ × ω → Bool}
    {s s' : ModbusMetricReader κ × ω} {read : ReadResults} (has : HasContext s)
    (done : (ModbusMetricReader.metricReader lib).read cancelled s = .ok (read, s')) : HasContext s' := by
  have kept := batchReadWith_keeps Decoder.decode (modbusReader_keeps lib) s.1.metrics has
  cases done
  exact kept

theorem connect_has (lib : TokioModbus κ ω) {s s' : ModbusMetricReader κ × ω}
    (ok : (ModbusMetricReader.metricReader lib).connect s = (.ok (), s')) : HasContext s' := by
  simp only [ModbusMetricReader.metricReader, ModbusMetricReader.connect] at ok
  split at ok
  · cases ok
    rfl
  · cases ok

def ReadsLast {σ : Type} (trace : List (Event σ)) : Prop :=
  ∃ connecting polling, trace = connecting ++ polling ∧ (∀ e ∈ connecting, e.isRead = false) ∧
    ∀ e ∈ polling, ∀ ok, e ≠ .connect ok

theorem ReadsLast.append {σ : Type} {trace events : List (Event σ)} (last : ReadsLast trace)
    (quiet : ∀ e ∈ events, ∀ ok, e ≠ .connect ok) : ReadsLast (trace ++ events) := by
  obtain ⟨connecting, polling, rfl, unread, steady⟩ := last
  exact ⟨connecting, polling ++ events, by simp, unread, List.forall_mem_append.mpr ⟨steady, quiet⟩⟩

theorem ReadsLast.after_read {σ : Type} {before after : List (Event σ)} {first last : σ}
    {read : ReadResults} (ordered : ReadsLast (before ++ .read first read last :: after)) (ok : Bool) :
    .connect ok ∉ after := by
  obtain ⟨connecting, polling, split, unread, steady⟩ := ordered
  intro member
  rcases List.append_eq_append_iff.mp split.symm with ⟨front, rfl, rest⟩ | ⟨front, rfl, rest⟩
  · exact steady (.connect ok) (by rw [rest]; simp [member]) ok rfl
  · cases front with
    | nil => exact steady (.connect ok) (by rw [← List.nil_append polling, ← rest]; simp [member]) ok rfl
    | cons e front =>
        obtain ⟨rfl, -⟩ := List.cons.inj rest
        have read := unread (.read first read last) (by simp)
        cases read

def polls : Pc → Bool
  | .cycleStart | .shutdownCheck | .read | .results _ _ | .publish _ | .endWait => true
  | _ => false

def ends : Pc → Bool
  | .returned _ | .panicked _ => true
  | _ => false

variable {lib : TokioModbus κ ω} {collector : CollectorConfig} {globalLabels : BTreeMap String}

theorem no_step_after_end {σ : Type} {t : Collector.Task σ} {s s' : State σ} {events : List (Event σ)}
    (ended : ends s.pc = true) : ¬TaskStep t s s' events := by
  intro step
  cases step
  case connectSlept place | initialised place _ | nextCycle place =>
      rcases place with place | place <;> rw [place] at ended <;> cases ended
  all_goals simp_all [ends]

theorem connecting_step {s s' : State (ModbusMetricReader κ × ω)}
    {events : List (Event (ModbusMetricReader κ × ω))} (place : s.pc = .connect ∨ s.pc = .connectWait)
    (step : TaskStep (modbusTask lib collector globalLabels) s s' events) :
    (∀ e ∈ events, e.isRead = false) ∧
      ((s'.pc = .connect ∨ s'.pc = .connectWait) ∨ ends s'.pc = true ∨
        polls s'.pc = true ∧ HasContext s'.world) := by
  cases step
  case connected world here ok =>
      exact ⟨by simp [Event.isRead], .inr (.inr ⟨rfl, connect_has lib ok⟩)⟩
  case connectFailed => exact ⟨by simp [Event.isRead], .inl (.inr rfl)⟩
  case connectSlept => exact ⟨by simp [Event.isRead], .inl (.inl rfl)⟩
  case connectStopped => exact ⟨by simp [State.stop, Event.isRead], .inr (.inl rfl)⟩
  case initialised here _ | nextCycle here =>
      rcases place with place | place <;> simp [place] at here
  all_goals rcases place with place | place <;> simp_all

theorem polling_step {s s' : State (ModbusMetricReader κ × ω)}
    {events : List (Event (ModbusMetricReader κ × ω))} (place : polls s.pc = true)
    (has : HasContext s.world) (step : TaskStep (modbusTask lib collector globalLabels) s s' events) :
    (∀ e ∈ events, ∀ ok, e ≠ .connect ok) ∧
      (ends s'.pc = true ∨ polls s'.pc = true ∧ HasContext s'.world) := by
  cases step
  case readDone env read world here done =>
      exact ⟨by simp, .inr ⟨rfl, read_keeps lib has done⟩⟩
  -- the reader counts as connected as long as it has a context
  case connectionLost here known lost =>
      rw [show (modbusTask lib collector globalLabels).reader.isConnected s.world = true from has] at lost
      cases lost
  case cycle | ignored | stored | errorCounted | completed | published | nextCycle =>
      exact ⟨by simp [publishStep], .inr ⟨rfl, has⟩⟩
  case proceed => exact ⟨by simp, .inr ⟨rfl, has⟩⟩
  case shutdownSeen | skipStopped | readPanicked | endStopped =>
      exact ⟨by simp [State.stop], .inl rfl⟩
  case connectSlept here | initialised here _ =>
      rcases here with here | here <;> rw [here] at place <;> cases place
  all_goals simp_all [polls]

def Stays (trace : List (Event (ModbusMetricReader κ × ω)))
    (s : State (ModbusMetricReader κ × ω)) : Prop :=
  ((s.pc = .connect ∨ s.pc = .connectWait) ∧ ∀ e ∈ trace, e.isRead = false) ∨
    ((ends s.pc = true ∨ polls s.pc = true ∧ HasContext s.world) ∧ ReadsLast trace)

theorem stays_step {trace events : List (Event (ModbusMetricReader κ × ω))}
    {s s' : State (ModbusMetricReader κ × ω)} (soFar : Stays trace s)
    (step : TaskStep (modbusTask lib collector globalLabels) s s' events) :
    Stays (trace ++ events) s' := by
  rcases soFar with ⟨place, unread⟩ | ⟨ended | ⟨place, has⟩, ordered⟩
  · obtain ⟨quiet, next⟩ := connecting_step place step
    have all : ∀ e ∈ trace ++ events, e.isRead = false := List.forall_mem_append.mpr ⟨unread, quiet⟩
    rcases next with again | further
    · exact .inl ⟨again, all⟩
    · exact .inr ⟨further, trace ++ events, [], by simp, all, by simp⟩
  · exact absurd step (no_step_after_end ended)
  · obtain ⟨quiet, next⟩ := polling_step place has step
    exact .inr ⟨next, ordered.append quiet⟩

variable (lib)

/-- After a read whose requests all broke down, and before the next, the collector disconnects and
connects; and no read starts on a context on which a request broke down. -/
def Reconnects (trace : List (Event (ModbusMetricReader κ × ω))) : Prop :=
  ∀ before first read last between first' read' last' after,
    trace = before ++ .read first read last :: (between ++ .read first' read' last' :: after) →
      (transportErrors lib first ≠ [] → (∀ broken ∈ transportErrors lib first, broken = true) →
        ∃ a b c, between = a ++ .disconnect :: (b ++ .connect true :: c)) ∧
      (true ∈ transportErrors lib first → .connect true ∈ between)

theorem readsLast (transport : Transport) (slaveId : UInt8) (w : ω) (internalMetrics : Bool)
    {trace : List (Event (ModbusMetricReader κ × ω))} {s : State (ModbusMetricReader κ × ω)}
    (run : (machine (modbusTask lib collector globalLabels)).Run
      (start (modbusTask lib collector globalLabels) ({ transport, slaveId }, w) internalMetrics) trace s) :
    ReadsLast trace := by
  have stays : Stays trace s :=
    own_invariant (P := Stays) (.inl ⟨.inl rfl, by simp⟩) stays_step (fun _ _ _ _ holds => holds) run
  rcases stays with ⟨_, unread⟩ | ⟨_, ordered⟩
  · exact ⟨trace, [], by simp, unread, by simp⟩
  · exact ordered

theorem reconnects_iff (transport : Transport) (slaveId : UInt8) (w : ω) (internalMetrics : Bool)
    {trace : List (Event (ModbusMetricReader κ × ω))} {s : State (ModbusMetricReader κ × ω)}
    (run : (machine (modbusTask lib collector globalLabels)).Run
      (start (modbusTask lib collector globalLabels) ({ transport, slaveId }, w) internalMetrics) trace s) :
    Reconnects lib trace ↔ ∀ before first read last after,
      trace = before ++ .read first read last :: after → (∃ e ∈ after, e.isRead = true) →
        true ∉ transportErrors lib first := by
  have ordered := readsLast lib transport slaveId w internalMetrics run
  constructor
  · intro reconnects before first read last after split another broken
    subst split
    obtain ⟨e, member, again⟩ := another
    obtain ⟨between, rest, rfl⟩ := List.append_of_mem member
    cases e with
    | read first' read' last' =>
        have connects := (reconnects before first read last between first' read' last' rest rfl).2 broken
        exact ordered.after_read true (by simp [connects])
    | _ => cases again
  · intro whole before first read last between first' read' last' after split
    subst split
    have unbroken := whole before first read last _ rfl ⟨.read first' read' last', by simp, rfl⟩
    refine ⟨?_, fun broken => absurd broken unbroken⟩
    intro some all
    obtain ⟨broken, member⟩ := List.exists_mem_of_ne_nil _ some
    exact absurd (all broken member ▸ member) unbroken

structure KeepsFailing (failed : κ → Prop) : Prop where
  reported : ∀ request ctx w text ctx' w',
    lib.call request ctx w = (.transportError text, ctx', w') → failed ctx'
  sticky : ∀ request ctx w, failed ctx →
    ∃ text ctx' w', lib.call request ctx w = (.transportError text, ctx', w')

def closing : TokioModbus Bool Unit where
  lookupHost _ w := (.ok ["10.0.0.7:502"], w)
  connectSlave _ _ w := (.ok false, w)
  attachSlave _ _ w := (.ok false, w)
  call _ _ w := (.transportError "broken pipe", true, w)

def plc : CollectorConfig :=
  { name := "plc", protocol := .modbusTcp "plc:502", metrics := [Script.metric "power"] }

def plcTask : Collector.Task (ModbusMetricReader Bool × Unit) := modbusTask closing plc ∅

def plcReader (context : Bool) : ModbusMetricReader Bool :=
  { transport := .tcp "plc:502", slaveId := 1, context := some context, metrics := plc.metrics }

def plcRead (context : Bool) : Event (ModbusMetricReader Bool × Unit) :=
  let (batch, s) := batchReadCoalesced (ModbusMetricReader.modbusReader closing) plc.metrics
    (plcReader context, ())
  .read (plcReader context, ()) ⟨ModbusMetricReader.collectResults batch.results, batch.readCount⟩ s

theorem plc_run : ∃ between s, (machine plcTask).Run
    (start plcTask ({ transport := .tcp "plc:502", slaveId := 1 }, ()) true)
    ([.connect true, .cycle] ++ plcRead false :: (between ++ plcRead true :: [])) s ∧
      between.any Event.isConnected = false := by
  have reads : ((machine plcTask).exec
      (start plcTask ({ transport := .tcp "plc:502", slaveId := 1 }, ()) true)
      (List.replicate 11 (.task {}))).map
      (fun run => (run.1.take 3, ((run.1.drop 3).take 4).any Event.isConnected, run.1.drop 7)) =
      some ([.connect true, .cycle, plcRead false], false, [plcRead true]) := rfl
  obtain ⟨⟨trace, s⟩, executed, shape⟩ := Option.map_eq_some_iff.mp reads
  obtain ⟨first, rest⟩ := Prod.mk.inj shape
  obtain ⟨quiet, last⟩ := Prod.mk.inj rest
  have split : trace = [.connect true, .cycle] ++ plcRead false ::
      ((trace.drop 3).take 4 ++ plcRead true :: []) := by
    calc trace = trace.take 3 ++ ((trace.drop 3).take 4 ++ (trace.drop 3).drop 4) := by
          rw [List.take_append_drop, List.take_append_drop]
      _ = [.connect true, .cycle, plcRead false] ++ ((trace.drop 3).take 4 ++ [plcRead true]) := by
          rw [List.drop_drop, show trace.drop (3 + 4) = _ from last, show trace.take 3 = _ from first]
  refine ⟨(trace.drop 3).take 4, s, ?_, quiet⟩
  rw [← split]
  exact Machine.exec_run executed

theorem reconnects_iff_plc : ∃ trace s, (machine plcTask).Run
    (start plcTask ({ transport := .tcp "plc:502", slaveId := 1 }, ()) true) trace s ∧
      (Reconnects closing trace ↔ ∀ before first read last after,
        trace = before ++ .read first read last :: after → (∃ e ∈ after, e.isRead = true) →
          true ∉ transportErrors closing first) := by
  obtain ⟨between, s, run, _⟩ := plc_run
  exact ⟨_, s, run, reconnects_iff closing (.tcp "plc:502") 1 () true run⟩

theorem broken_transport_kept : KeepsFailing closing (· = true) ∧
    ¬∀ trace s, (machine plcTask).Run
      (start plcTask ({ transport := .tcp "plc:502", slaveId := 1 }, ()) true) trace s →
        Reconnects closing trace := by
  constructor
  · constructor
    · intro request ctx w text ctx' w' reply
      cases reply
      rfl
    · intro request ctx w failed
      exact ⟨_, _, _, rfl⟩
  · intro claimed
    obtain ⟨between, s, run, quiet⟩ := plc_run
    have reconnects := (claimed _ s run _ _ _ _ between _ _ _ [] rfl).2
    have broken : true ∈ transportErrors closing (plcReader false, ()) := by decide
    have again := List.any_eq_false.mp quiet _ (reconnects broken)
    exact again rfl

end BusExporter.Modbus
