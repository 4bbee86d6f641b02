import BusExporter.Model.Modbus

/-! Reads with a record of their requests. A batch read passes through any forgetting of state that its
four read functions pass through, so that a record kept beside the library changes no read. -/

namespace BusExporter.Modbus
open Lib Config

section Forgetting
variable {ρ ρ' : Type}

structure Forgets (forget : ρ' → ρ) (reader' : ModbusReader ρ') (reader : ModbusReader ρ) : Prop where
  holding : ∀ addr count w, (reader'.readHoldingRegisters addr count w).map id forget =
    reader.readHoldingRegisters addr count (forget w)
  input : ∀ addr count w, (reader'.readInputRegisters addr count w).map id forget =
    reader.readInputRegisters addr count (forget w)
  coils : ∀ addr count w, (reader'.readCoils addr count w).map id forget =
    reader.readCoils addr count (forget w)
  discreteInputs : ∀ addr count w, (reader'.readDiscreteInputs addr count w).map id forget =
    reader.readDiscreteInputs addr count (forget w)

def BatchState.forget (forget : ρ' → ρ) (st : BatchState ρ') : BatchState ρ :=
  ⟨st.results, st.readCount, forget st.world⟩

variable {forget : ρ' → ρ} {reader' : ModbusReader ρ'} {reader : ModbusReader ρ}
  (decode : Decoder.RegisterDecoder)

theorem readSingle_forget (forgets : Forgets forget reader' reader) (metric : MetricConfig) (w : ρ') :
    (readSingle decode reader' metric w).map id forget =
      readSingle decode reader metric (forget w) := by
  unfold readSingle
  cases metric.address with
  | none => rfl
  | some addr =>
      cases metric.registerType.getD .holding with
      | holding =>
          simp only [← forgets.holding]
          rfl
      | input =>
          simp only [← forgets.input]
          rfl
      | coil =>
          simp only [← forgets.coils]
          rfl
      | discrete =>
          simp only [← forgets.discreteInputs]
          rfl

theorem readIndividually_forget (forgets : Forgets forget reader' reader) (st : BatchState ρ')
    (idx : Nat) (metric : MetricConfig) :
    readIndividually decode reader (st.forget forget) idx metric =
      (readIndividually decode reader' st idx metric).forget forget := by
  unfold readIndividually
  have single := readSingle_forget decode forgets metric st.world
  simp only [BatchState.forget] at single ⊢
  rw [← single]
  rfl

theorem foldl_forget {α : Type} {f' : BatchState ρ' → α → BatchState ρ'}
    {f : BatchState ρ → α → BatchState ρ}
    (same : ∀ st a, f (st.forget forget) a = (f' st a).forget forget) (l : List α)
    (st : BatchState ρ') : l.foldl f (st.forget forget) = (l.foldl f' st).forget forget :=
  List.foldl_hom (BatchState.forget forget) same

theorem readRange_forget (forgets : Forgets forget reader' reader)
    {readRegisters' : UInt16 → UInt16 → ρ' → Result (List UInt16) × ρ'}
    {readRegisters : UInt16 → UInt16 → ρ → Result (List UInt16) × ρ}
    (same : ∀ addr count w,
      (readRegisters' addr count w).map id forget = readRegisters addr count (forget w))
    (st : BatchState ρ') (range : MergedRange) :
    readRange decode reader readRegisters (st.forget forget) range =
      (readRange decode reader' readRegisters' st range).forget forget := by
  unfold readRange
  simp only [BatchState.forget]
  rw [← same]
  cases answered : readRegisters' range.start range.count st.world with
  | mk reply w =>
      simp only [Prod.map]
      cases reply with
      | ok regs => exact foldl_forget (fun _ _ => rfl) _ ⟨st.results, st.readCount + 1, w⟩
      | error e =>
          exact foldl_forget (fun st (member : IndexedMetric) =>
            readIndividually_forget decode forgets st member.idx member.metric) _
            ⟨st.results, st.readCount + 1, w⟩

theorem batchReads_forget (forgets : Forgets forget reader' reader) (c : Classified) (w : ρ') :
    batchReads decode reader c (forget w) = (batchReads decode reader' c w).forget forget := by
  have start : (⟨c.results, 0, forget w⟩ : BatchState ρ) =
      BatchState.forget forget ⟨c.results, 0, w⟩ := rfl
  simp only [batchReads, start]
  rw [foldl_forget fun st range => readRange_forget decode forgets forgets.holding st range,
    foldl_forget fun st range => readRange_forget decode forgets forgets.input st range,
    foldl_forget fun st (m : Nat × MetricConfig) => readIndividually_forget decode forgets st m.1 m.2]

theorem batchReadWith_forget (forgets : Forgets forget reader' reader) (metrics : List MetricConfig)
    (w : ρ') :
    (batchReadWith decode reader' metrics w).map id forget =
      batchReadWith decode reader metrics (forget w) := by
  unfold batchReadWith
  rw [batchReads_forget decode forgets]
  rfl

structure Keeps (holds : ρ → Prop) (reader : ModbusReader ρ) : Prop where
  holding : ∀ addr count w, holds w → holds (reader.readHoldingRegisters addr count w).2
  input : ∀ addr count w, holds w → holds (reader.readInputRegisters addr count w).2
  coils : ∀ addr count w, holds w → holds (reader.readCoils addr count w).2
  discreteInputs : ∀ addr count w, holds w → holds (reader.readDiscreteInputs addr count w).2

def Keeps.restricted {holds : ρ → Prop} (keeps : Keeps holds reader) : ModbusReader { w // holds w } where
  readHoldingRegisters addr count w :=
    ((reader.readHoldingRegisters addr count w).1, ⟨_, keeps.holding addr count w w.2⟩)
  readInputRegisters addr count w :=
    ((reader.readInputRegisters addr count w).1, ⟨_, keeps.input addr count w w.2⟩)
  readCoils addr count w := ((reader.readCoils addr count w).1, ⟨_, keeps.coils addr count w w.2⟩)
  readDiscreteInputs addr count w :=
    ((reader.readDiscreteInputs addr count w).1, ⟨_, keeps.discreteInputs addr count w w.2⟩)

theorem batchReadWith_keeps {holds : ρ → Prop} (keeps : Keeps holds reader)
    (metrics : List MetricConfig) {w : ρ} (before : holds w) :
    holds (batchReadWith decode reader metrics w).2 := by
  have forgets : Forgets Subtype.val keeps.restricted reader :=
    ⟨fun _ _ _ => rfl, fun _ _ _ => rfl, fun _ _ _ => rfl, fun _ _ _ => rfl⟩
  -- the read on the states that satisfy the predicate ends in one of them
  rw [← batchReadWith_forget decode forgets metrics ⟨w, before⟩]
  exact (batchReadWith decode keeps.restricted metrics ⟨w, before⟩).2.2

end Forgetting

variable {κ ω : Type}

def Reply.isTransportError {α : Type} : Reply α → Bool
  | .transportError _ => true
  | _ => false

def recording (lib : TokioModbus κ ω) : TokioModbus κ (ω × List Bool) where
  lookupHost endpoint s := (lib.lookupHost endpoint s.1).map id (·, s.2)
  connectSlave address slave s := (lib.connectSlave address slave s.1).map id (·, s.2)
  attachSlave builder slave s := (lib.attachSlave builder slave s.1).map id (·, s.2)
  call request ctx s :=
    let (reply, ctx, w) := lib.call request ctx s.1
    (reply, ctx, w, s.2 ++ [reply.isTransportError])

def forgetRecord (s : ModbusMetricReader κ × ω × List Bool) : ModbusMetricReader κ × ω := (s.1, s.2.1)

theorem request_forget (lib : TokioModbus κ ω) (label : String) (addr count : UInt16)
    (check : Result Unit) (request : Request) (s : ModbusMetricReader κ × ω × List Bool) :
    (ModbusMetricReader.request (recording lib) label addr count check request s).map id forgetRecord =
      ModbusMetricReader.request lib label addr count check request (forgetRecord s) := by
  obtain ⟨reader, w, record⟩ := s
  unfold ModbusMetricReader.request
  cases check with
  | error e => rfl
  | ok checked =>
      cases context : reader.context with
      | none => simp [forgetRecord, context]
      | some ctx => simp [forgetRecord, context, recording]

theorem recording_forgets (lib : TokioModbus κ ω) :
    Forgets forgetRecord (ModbusMetricReader.modbusReader (recording lib))
      (ModbusMetricReader.modbusReader lib) where
  holding addr count := request_forget lib _ addr count _ _
  input addr count := request_forget lib _ addr count _ _
  coils addr count := request_forget lib _ addr count _ _
  discreteInputs addr count := request_forget lib _ addr count _ _

def recordedRead (lib : TokioModbus κ ω) (s : ModbusMetricReader κ × ω) :
    BatchReadResult × ModbusMetricReader κ × ω × List Bool :=
  batchReadCoalesced (ModbusMetricReader.modbusReader (recording lib)) s.1.metrics (s.1, s.2, [])

def transportErrors (lib : TokioModbus κ ω) (s : ModbusMetricReader κ × ω) : List Bool :=
  (recordedRead lib s).2.2.2

theorem recordedRead_forget (lib : TokioModbus κ ω) (s : ModbusMetricReader κ × ω) :
    (recordedRead lib s).map id forgetRecord =
      batchReadCoalesced (ModbusMetricReader.modbusReader lib) s.1.metrics s :=
  batchReadWith_forget Decoder.decode (recording_forgets lib) s.1.metrics (s.1, s.2, [])

end BusExporter.Modbus
