import BusExporter.Proof.BatchResults
import BusExporter.Proof.ByteOrders
import BusExporter.Proof.OpenedDevices
import BusExporter.Proof.Provenance
import BusExporter.Proof.RequestCounts
import BusExporter.Proof.Resolved
import Mathlib.Logic.Relation

/-! Where the values of a Modbus collector come from: each was decoded from the metric's own registers or bit in
one reply of its device, to a legal request over the connection that the collector opened. -/

namespace BusExporter.Collector

theorem read_world {σ : Type} {t : Task σ} {s s' : State σ} {events : List (Event σ)} {first last : σ}
    {read : ReadResults} (step : TaskStep t s s' events) (member : .read first read last ∈ events) :
    first = s.world := by
  cases step <;> simp [State.stop, publishStep] at member
  exact member.1

end BusExporter.Collector

namespace BusExporter.Modbus
open Lib Config

/-- The value is decoded from the part of the reply that stands for the metric's own address. -/
structure DecodesAt (m : MetricConfig) (value : Float × Float) (start : UInt16) (regs : List UInt16) (addr : UInt16) :
    Prop where
  address : m.address = some addr
  after : start.toNat ≤ addr.toNat
  inside : addr.toNat - start.toNat + m.dataType.registerCount.toNat ≤ regs.length
  decoded : Decoder.decode ((regs.drop (addr.toNat - start.toNat)).take m.dataType.registerCount.toNat)
    (Decoder.mapDataType m.dataType) (Decoder.mapByteOrder m.byteOrder) m.scale m.offset = .ok value

inductive Decodes (m : MetricConfig) (value : Float × Float) : (q : Request) → q.Response → Prop
  | holding {start count addr : UInt16} {regs : List UInt16} (kind : m.registerType.getD .holding = .holding)
      (own : DecodesAt m value start regs addr) : Decodes m value (.holdingRegisters start count) regs
  | input {start count addr : UInt16} {regs : List UInt16} (kind : m.registerType.getD .holding = .input)
      (own : DecodesAt m value start regs addr) : Decodes m value (.inputRegisters start count) regs
  | coil {addr : UInt16} {bit : Bool} {bits : List Bool} (kind : m.registerType.getD .holding = .coil)
      (address : m.address = some addr)
      (scaled : value = Decoder.scaled (if bit then 1.0 else 0.0) m.scale m.offset) :
      Decodes m value (.coils addr 1) (bit :: bits)
  | discrete {addr : UInt16} {bit : Bool} {bits : List Bool} (kind : m.registerType.getD .holding = .discrete)
      (address : m.address = some addr)
      (scaled : value = Decoder.scaled (if bit then 1.0 else 0.0) m.scale m.offset) :
      Decodes m value (.discreteInputs addr 1) (bit :: bits)

section Values
variable {m : MetricConfig} {value : Float × Float} {start addr : UInt16} {regs : List UInt16}

theorem decodeMetric_at (done : decodeMetric Decoder.decode m regs start = .ok value) :
    ∃ addr, DecodesAt m value start regs addr := by
  unfold decodeMetric at done
  cases address : m.address with
  | none =>
      rw [address] at done
      cases done
  | some addr =>
      simp only [address] at done
      split_ifs at done with early short
      have after : start.toNat ≤ addr.toNat := Nat.not_lt.mp (fun less => early (UInt16.lt_iff_toNat_lt.mpr less))
      refine ⟨addr, address, after, Nat.not_lt.mp short, ?_⟩
      rw [Nat.add_sub_cancel_left] at done
      cases decoded : Decoder.decode ((regs.drop (addr.toNat - start.toNat)).take m.dataType.registerCount.toNat)
          (Decoder.mapDataType m.dataType) (Decoder.mapByteOrder m.byteOrder) m.scale m.offset with
      | error e =>
          rw [decoded] at done
          cases done
      | ok found =>
          rw [decoded] at done
          cases done
          rfl

theorem decodeRegisters_at {reply : Result (List UInt16)} (address : m.address = some addr)
    (done : decodeRegisters Decoder.decode m reply = .ok value) :
    ∃ regs, reply = .ok regs ∧ DecodesAt m value addr regs addr := by
  cases reply with
  | error e => cases done
  | ok regs =>
      refine ⟨regs, rfl, ?_⟩
      cases decoded : Decoder.decode regs (Decoder.mapDataType m.dataType) (Decoder.mapByteOrder m.byteOrder) m.scale
          m.offset with
      | error e =>
          simp only [decodeRegisters, bind, Except.bind, decoded] at done
          cases done
      | ok found =>
          simp only [decodeRegisters, bind, Except.bind, decoded] at done
          cases done
          have enough : Decoder.registersNeeded (Decoder.mapDataType m.dataType) ≤ regs.length := by
            by_contra short
            rw [Decoder.decode, if_pos (Nat.lt_of_not_le short)] at decoded
            cases decoded
          have same := Decoder.decode_take (Decoder.mapDataType m.dataType) (Decoder.mapByteOrder m.byteOrder) m.scale
            m.offset enough
          rw [Decoder.registersNeeded_mapDataType] at same enough
          refine ⟨address, le_refl _, by rwa [Nat.sub_self, Nat.zero_add], ?_⟩
          rw [Nat.sub_self, List.drop_zero, ← same, decoded]

theorem decodeBits_first {empty : String} {reply : Result (List Bool)} (done : decodeBits m empty reply = .ok value) :
    ∃ bit bits, reply = .ok (bit :: bits) ∧
      value = Decoder.scaled (if bit then 1.0 else 0.0) m.scale m.offset := by
  cases reply with
  | error e => cases done
  | ok bits =>
      cases bits with
      | nil => cases done
      | cons bit bits =>
          cases done
          exact ⟨bit, bits, rfl, rfl⟩

end Values

def ModbusReader.call {ρ : Type} (reader : ModbusReader ρ) : (q : Request) → ρ → Result q.Response × ρ
  | .holdingRegisters addr count => reader.readHoldingRegisters addr count
  | .inputRegisters addr count => reader.readInputRegisters addr count
  | .coils addr count => reader.readCoils addr count
  | .discreteInputs addr count => reader.readDiscreteInputs addr count

def Request.count : Request → UInt16
  | .holdingRegisters _ count | .inputRegisters _ count | .coils _ count | .discreteInputs _ count => count

def Asked (metrics : List MetricConfig) (q : Request) : Prop :=
  q ∈ (plan metrics).requests ∨ ∃ m ∈ metrics, singleRequest m = some q

section Batches
variable {ρ : Type} (reader : ModbusReader ρ) (metrics : List MetricConfig)

def Calls : ρ → ρ → Prop := Relation.ReflTransGen fun w w' => ∃ q, Asked metrics q ∧ (reader.call q w).2 = w'

inductive Given (first last : ρ) (m : MetricConfig) (value : Float × Float) : Prop
  | reply {q : Request} {w w' : ρ} {data : q.Response} (before : Calls reader metrics first w) (asked : Asked metrics q)
      (answered : reader.call q w = (.ok data, w')) (after : Calls reader metrics w' last)
      (decodes : Decodes m value q data)

structure Gathered (first : ρ) (st : BatchState ρ) : Prop where
  reached : Calls reader metrics first st.world
  given : ∀ (i : Nat) m value, metrics[i]? = some m → st.results[i]? = some (some (.ok value)) →
    Given reader metrics first st.world m value

variable {reader metrics} {first : ρ} {st : BatchState ρ}

theorem Calls.asked {w w' : ρ} (calls : Calls reader metrics w w') {q : Request} (asked : Asked metrics q) :
    Calls reader metrics w (reader.call q w').2 :=
  calls.tail ⟨q, asked, rfl⟩

theorem Given.later {last last' : ρ} {m : MetricConfig} {value : Float × Float}
    (given : Given reader metrics first last m value) (calls : Calls reader metrics last last') :
    Given reader metrics first last' m value := by
  obtain ⟨before, asked, answered, after, decodes⟩ := given
  exact ⟨before, asked, answered, after.trans calls, decodes⟩

theorem Gathered.called (gathered : Gathered reader metrics first st) {w : ρ} (calls : Calls reader metrics st.world w)
    (readCount : Nat) : Gathered reader metrics first { st with readCount, world := w } where
  reached := gathered.reached.trans calls
  given i m value found stored := (gathered.given i m value found stored).later calls

theorem Gathered.put (gathered : Gathered reader metrics first st) {idx : Nat} {m : MetricConfig}
    (place : metrics[idx]? = some m) {outcome : Outcome}
    (given : ∀ value, outcome = .ok value → Given reader metrics first st.world m value) :
    Gathered reader metrics first (st.put idx outcome) where
  reached := gathered.reached
  given i m' value found stored := by
    by_cases same : idx = i
    · subst same
      have inside := (List.getElem?_eq_some_iff.mp stored).1
      rw [BatchState.put, List.length_set] at inside
      rw [BatchState.put, List.getElem?_set_self inside, Option.some.injEq, Option.some.injEq] at stored
      rw [place, Option.some.injEq] at found
      exact found ▸ given value stored
    · rw [BatchState.put, List.getElem?_set_ne same] at stored
      exact gathered.given i m' value found stored

variable (reader) in
theorem readSingle_call (m : MetricConfig) (w : ρ) :
    (m.address = none ∧ readSingle Decoder.decode reader m w = (.error (noAddress m), w)) ∨
      ∃ q, singleRequest m = some q ∧ (readSingle Decoder.decode reader m w).2 = (reader.call q w).2 ∧
        ∀ value, (readSingle Decoder.decode reader m w).1 = .ok value →
          ∃ data, (reader.call q w).1 = .ok data ∧ Decodes m value q data := by
  unfold readSingle singleRequest
  cases address : m.address with
  | none => exact .inl ⟨rfl, rfl⟩
  | some addr =>
      right
      rw [Option.map_some]
      refine ⟨_, rfl, ?_⟩
      cases kind : m.registerType.getD .holding with
      | holding =>
          refine ⟨rfl, ?_⟩
          intro value done
          obtain ⟨regs, answered, own⟩ := decodeRegisters_at address done
          exact ⟨regs, answered, .holding kind own⟩
      | input =>
          refine ⟨rfl, ?_⟩
          intro value done
          obtain ⟨regs, answered, own⟩ := decodeRegisters_at address done
          exact ⟨regs, answered, .input kind own⟩
      | coil =>
          refine ⟨rfl, ?_⟩
          intro value done
          obtain ⟨bit, bits, answered, scaled⟩ := decodeBits_first done
          exact ⟨bit :: bits, answered, .coil kind address scaled⟩
      | discrete =>
          refine ⟨rfl, ?_⟩
          intro value done
          obtain ⟨bit, bits, answered, scaled⟩ := decodeBits_first done
          exact ⟨bit :: bits, answered, .discrete kind address scaled⟩

theorem gathered_individually (gathered : Gathered reader metrics first st) {idx : Nat} {m : MetricConfig}
    (place : metrics[idx]? = some m) :
    Gathered reader metrics first (readIndividually Decoder.decode reader st idx m) := by
  rcases readSingle_call reader m st.world with ⟨-, silent⟩ | ⟨q, request, reached, given⟩
  · rw [readIndividually, silent]
    exact (gathered.called .refl _).put place (fun value done => by cases done)
  · have asked : Asked metrics q := .inr ⟨m, List.mem_of_getElem? place, request⟩
    unfold readIndividually
    refine (gathered.called (reached ▸ Calls.asked .refl asked) _).put place ?_
    intro value done
    obtain ⟨data, answered, decodes⟩ := given value done
    exact ⟨gathered.reached, asked, Prod.ext answered reached.symm, .refl, decodes⟩

theorem gathered_fold {α : Type} {f : BatchState ρ → α → BatchState ρ} {l : List α}
    (step : ∀ a ∈ l, ∀ st, Gathered reader metrics first st → Gathered reader metrics first (f st a))
    (gathered : Gathered reader metrics first st) : Gathered reader metrics first (l.foldl f st) :=
  List.foldlRecOn l f gathered fun st before a member => step a member st before

theorem gathered_range {readRegisters : UInt16 → UInt16 → ρ → Result (List UInt16) × ρ} {range : MergedRange}
    (place : ∀ m ∈ range.members, metrics[m.idx]? = some m.metric)
    (called : ∀ w, Calls reader metrics w (readRegisters range.start range.count w).2)
    (given : ∀ m ∈ range.members, ∀ {w regs w' value}, readRegisters range.start range.count w = (.ok regs, w') →
      decodeMetric Decoder.decode m.metric regs range.start = .ok value → Given reader metrics w w' m.metric value)
    (gathered : Gathered reader metrics first st) :
    Gathered reader metrics first (readRange Decoder.decode reader readRegisters st range) := by
  have reached := called st.world
  unfold readRange
  cases answered : readRegisters range.start range.count st.world with
  | mk reply w =>
      rw [answered] at reached
      have asked := gathered.called reached (st.readCount + 1)
      cases reply with
      | ok regs =>
          have start : (⟨st.results, st.readCount + 1, w⟩ : BatchState ρ).world = w ∧
              Gathered reader metrics first ⟨st.results, st.readCount + 1, w⟩ := ⟨rfl, asked⟩
          refine (List.foldlRecOn (motive := fun st => st.world = w ∧ Gathered reader metrics first st)
            range.members _ start ?_).2
          intro st' before m member
          obtain ⟨here, before⟩ := before
          refine ⟨here, before.put (place m member) ?_⟩
          intro value done
          rw [here]
          obtain ⟨earlier, isAsked, reply, after, decodes⟩ := given m member answered done
          exact ⟨gathered.reached.trans earlier, isAsked, reply, after, decodes⟩
      | error e =>
          refine gathered_fold ?_ asked
          intro m member st before
          exact gathered_individually before (place m member)

theorem gathered_ranges {readRegisters : UInt16 → UInt16 → ρ → Result (List UInt16) × ρ} {kind : RegisterType}
    {items : List IndexedMetric} (stands : ∀ item ∈ items, Stands metrics.zipIdx kind item)
    (called : ∀ r ∈ coalesce (sortByAddr items), ∀ w, Calls reader metrics w (readRegisters r.start r.count w).2)
    (given : ∀ r ∈ coalesce (sortByAddr items), ∀ {m : MetricConfig}, m.registerType.getD .holding = kind →
      ∀ {w regs w' value}, readRegisters r.start r.count w = (.ok regs, w') →
        decodeMetric Decoder.decode m regs r.start = .ok value → Given reader metrics w w' m value)
    (gathered : Gathered reader metrics first st) :
    Gathered reader metrics first
      ((coalesce (sortByAddr items)).foldl (readRange Decoder.decode reader readRegisters) st) := by
  refine gathered_fold ?_ gathered
  intro r planned st before
  refine gathered_range ?_ (called r planned) ?_ before
  · intro m member
    exact List.mem_zipIdx_iff_getElem?.mp (stands m (mem_of_planned planned member)).member
  · intro m member w regs w' value answered done
    exact given r planned (stands m (mem_of_planned planned member)).kind answered done

variable (reader metrics)

theorem batchReads_gathered (w : ρ) :
    Gathered reader metrics w (batchReads Decoder.decode reader (classify metrics.zipIdx) w) := by
  obtain ⟨holding, input, individual⟩ := classify_stands metrics.zipIdx
  have begins : Gathered reader metrics w ⟨(classify metrics.zipIdx).results, 0, w⟩ := by
    refine ⟨.refl, ?_⟩
    intro i m value found stored
    rw [classify_results_get found, Option.some.injEq] at stored
    split_ifs at stored
    cases stored
  have heldAsked : ∀ r ∈ (plan metrics).holding, Asked metrics (.holdingRegisters r.start r.count) :=
    fun r planned => .inl (List.mem_append_left _ (List.mem_map_of_mem planned))
  have inputAsked : ∀ r ∈ (plan metrics).input, Asked metrics (.inputRegisters r.start r.count) := by
    intro r planned
    exact .inl (List.mem_append_right _ (List.mem_map.mpr ⟨r, planned, rfl⟩))
  refine gathered_fold ?_ (gathered_ranges input ?_ ?_ (gathered_ranges holding ?_ ?_ begins))
  · intro entry member st before
    exact gathered_individually before (List.mem_zipIdx_iff_getElem?.mp (individual entry member).member)
  · exact fun r planned w => Calls.asked .refl (inputAsked r planned)
  · intro r planned m kind w regs w' value answered done
    obtain ⟨addr, own⟩ := decodeMetric_at done
    exact ⟨.refl, inputAsked r planned, answered, .refl, .input kind own⟩
  · exact fun r planned w => Calls.asked .refl (heldAsked r planned)
  · intro r planned m kind w regs w' value answered done
    obtain ⟨addr, own⟩ := decodeMetric_at done
    exact ⟨.refl, heldAsked r planned, answered, .refl, .holding kind own⟩

variable {reader metrics}

theorem batchRead_given {w w' : ρ} {batch : BatchReadResult}
    (done : batchReadCoalesced reader metrics w = (batch, w')) {m : MetricConfig} {value : Float × Float}
    (member : (m, .ok value) ∈ batch.results) : m ∈ metrics ∧ Given reader metrics w w' m value := by
  have gathered := batchReads_gathered reader metrics w
  cases done
  obtain ⟨⟨m', slot⟩, inZip, same⟩ := List.mem_map.mp member
  obtain ⟨i, inside, entry⟩ := List.getElem_of_mem inZip
  rw [List.length_zip] at inside
  rw [List.getElem_zip] at entry
  obtain ⟨rfl, rfl⟩ := Prod.mk.inj entry
  obtain ⟨rfl, got⟩ := Prod.mk.inj same
  have stored : (batchReads Decoder.decode reader (classify metrics.zipIdx) w).results[i]? =
      some (some (.ok value)) := by
    rw [List.getElem?_eq_getElem (by omega)]
    cases slot : (batchReads Decoder.decode reader (classify metrics.zipIdx) w).results[i] with
    | none =>
        rw [slot] at got
        cases got
    | some outcome =>
        rw [slot, Option.getD_some] at got
        rw [got]
  exact ⟨List.getElem_mem _, gathered.given i _ value (List.getElem?_eq_getElem (by omega)) stored⟩

end Batches

theorem asked_legal {metrics : List MetricConfig} (valid : ∀ m ∈ metrics, ModbusMetric m) {q : Request}
    (asked : Asked metrics q) (counted : q.count ≠ 0) : q.Legal := by
  obtain ⟨holding, input, -⟩ := classify_stands metrics.zipIdx
  have ranged {r : MergedRange} (spans : r.Spans) (some : r.count ≠ 0) :
      1 ≤ r.count.toNat ∧ r.count.toNat ≤ 125 ∧ r.start.toNat + r.count.toNat ≤ 65536 := by
    obtain ⟨order, width⟩ := spans.count_toNat
    have positive : r.count.toNat ≠ 0 := fun zero => some (UInt16.toNat_inj.mp zero)
    have fits := spans.fits
    have small := r.stop.toNat_lt
    omega
  rcases asked with inPlan | ⟨m, member, request⟩
  · rcases List.mem_append.mp inPlan with inHolding | inInput
    · obtain ⟨r, planned, rfl⟩ := List.mem_map.mp inHolding
      exact ranged (planned_spans holding r planned) counted
    · obtain ⟨r, planned, rfl⟩ := List.mem_map.mp inInput
      exact ranged (planned_spans input r planned) counted
  · exact singleRequest_legal (valid m member) request

section Connections
variable {κ ω : Type} (lib : TokioModbus κ ω) (c : CollectorConfig)

/-- A connection opened to the device that the collector names, for its slave. -/
inductive Opened : ω → κ → ω → Prop
  | tcp {endpoint address : String} {others : List String} {ctx : κ} {w w' w'' : ω}
      (protocol : c.protocol = .modbusTcp endpoint)
      (resolved : lib.lookupHost endpoint w = (.ok (address :: others), w'))
      (connected : lib.connectSlave address (c.slaveId.getD 1) w' = (.ok ctx, w'')) : Opened w ctx w''
  | rtu {device : String} {bps : UInt32} {dataBits stopBits : UInt8} {parity : Parity} {ctx : κ} {w w' : ω}
      (protocol : c.protocol = .modbusRtu device bps dataBits stopBits parity)
      (attached : lib.attachSlave (serialPort device bps dataBits stopBits parity) (c.slaveId.getD 1) w =
        (.ok ctx, w')) : Opened w ctx w'

def Exchanges : κ × ω → κ × ω → Prop :=
  Relation.ReflTransGen fun s s' => ∃ q : Request, q.Legal ∧ (lib.call q s.1 s.2).2 = s'

def Transport.of : Protocol → Option Transport
  | .modbusTcp endpoint => some (.tcp endpoint)
  | .modbusRtu device bps dataBits stopBits parity => some (.rtu (serialPort device bps dataBits stopBits parity))
  | _ => none

structure Attached (s : ModbusMetricReader κ × ω) : Prop where
  transport : Transport.of c.protocol = some s.1.transport
  slaveId : s.1.slaveId = c.slaveId.getD 1
  metrics : s.1.metrics = c.metrics
  session : ∀ ctx, s.1.context = some ctx →
    ∃ w ctx₀ w₀, Opened lib c w ctx₀ w₀ ∧ Exchanges lib (ctx₀, w₀) (ctx, s.2)

variable {lib c}

theorem request_cases (label : String) (addr count : UInt16) {check : Result Unit} (q : Request)
    (checked : check = .ok () → q.count ≠ 0) (s : ModbusMetricReader κ × ω) :
    ((ModbusMetricReader.request lib label addr count check q s).2 = s ∧
      ∀ data, (ModbusMetricReader.request lib label addr count check q s).1 ≠ .ok data) ∨
    ∃ ctx, s.1.context = some ctx ∧ q.count ≠ 0 ∧
      (ModbusMetricReader.request lib label addr count check q s).2 =
        ({ s.1 with context := some (lib.call q ctx s.2).2.1 }, (lib.call q ctx s.2).2.2) ∧
      ∀ data, (ModbusMetricReader.request lib label addr count check q s).1 = .ok data →
        (lib.call q ctx s.2).1 = .data data := by
  unfold ModbusMetricReader.request
  cases check with
  | error e => exact .inl ⟨rfl, by simp⟩
  | ok passed =>
      cases context : s.1.context with
      | none => exact .inl ⟨rfl, by simp⟩
      | some ctx =>
          refine .inr ⟨ctx, rfl, checked rfl, rfl, ?_⟩
          intro data answered
          simp only at answered
          cases reply : (lib.call q ctx s.2).1 <;> rw [reply] at answered <;> cases answered
          rfl

theorem counted_registers {count : UInt16} (ok : validateRegisterCount count = .ok ()) : count ≠ 0 := by
  rintro rfl
  cases ok

theorem counted_bits {count : UInt16} (ok : validateCoilCount count = .ok ()) : count ≠ 0 := by
  rintro rfl
  cases ok

variable (lib) in
theorem call_cases (q : Request) (s : ModbusMetricReader κ × ω) :
    (((ModbusMetricReader.modbusReader lib).call q s).2 = s ∧
      ∀ data, ((ModbusMetricReader.modbusReader lib).call q s).1 ≠ .ok data) ∨
    ∃ ctx, s.1.context = some ctx ∧ q.count ≠ 0 ∧
      ((ModbusMetricReader.modbusReader lib).call q s).2 =
        ({ s.1 with context := some (lib.call q ctx s.2).2.1 }, (lib.call q ctx s.2).2.2) ∧
      ∀ data, ((ModbusMetricReader.modbusReader lib).call q s).1 = .ok data → (lib.call q ctx s.2).1 = .data data := by
  cases q with
  | holdingRegisters addr count => exact request_cases _ addr count _ counted_registers s
  | inputRegisters addr count => exact request_cases _ addr count _ counted_registers s
  | coils addr count => exact request_cases _ addr count _ counted_bits s
  | discreteInputs addr count => exact request_cases _ addr count _ counted_bits s

theorem calls_exchanges {metrics : List MetricConfig} (valid : ∀ m ∈ metrics, ModbusMetric m)
    {s s' : ModbusMetricReader κ × ω} (calls : Calls (ModbusMetricReader.modbusReader lib) metrics s s') :
    (s.1.context = none ∧ s' = s) ∨ ∃ ctx ctx', s.1.context = some ctx ∧
      s'.1 = { s.1 with context := some ctx' } ∧ Exchanges lib (ctx, s.2) (ctx', s'.2) := by
  induction calls with
  | refl =>
      cases context : s.1.context with
      | none => exact .inl ⟨rfl, rfl⟩
      | some ctx => exact .inr ⟨ctx, ctx, rfl, by rw [← context], .refl⟩
  | @tail s₁ s₂ _ call before =>
      obtain ⟨q, asked, rfl⟩ := call
      rcases call_cases lib q s₁ with ⟨refused, -⟩ | ⟨ctx₁, context, counted, made, -⟩
      · rw [refused]
        exact before
      · rcases before with ⟨closed, rfl⟩ | ⟨ctx, ctx', opened, same, exchanges⟩
        · rw [closed] at context
          cases context
        · rw [same] at context
          cases context
          rw [made]
          refine .inr ⟨ctx, _, opened, by rw [same], exchanges.tail ⟨q, asked_legal valid asked counted, rfl⟩⟩

variable {globalLabels : BTreeMap String}

theorem mapError_ok {α : Type} {r : Result α} {f : Error → Error} {a : α} (mapped : r.mapError f = .ok a) :
    r = .ok a := by
  cases r with
  | error e => cases mapped
  | ok b => exact mapped

theorem of_tcp {p : Protocol} {endpoint : String} (transport : Transport.of p = some (.tcp endpoint)) :
    p = .modbusTcp endpoint := by
  cases p <;> simp_all [Transport.of]

theorem of_rtu {p : Protocol} {builder : SerialPortBuilder} (transport : Transport.of p = some (.rtu builder)) :
    ∃ device bps dataBits stopBits parity, p = .modbusRtu device bps dataBits stopBits parity ∧
      serialPort device bps dataBits stopBits parity = builder := by
  cases p with
  | modbusRtu device bps dataBits stopBits parity =>
      cases transport
      exact ⟨device, bps, dataBits, stopBits, parity, rfl, rfl⟩
  | _ => cases transport

theorem connectTcp_ok {endpoint : String} {slaveId : UInt8} {w w' : ω} {ctx : κ}
    (made : ModbusMetricReader.connectTcp lib endpoint slaveId w = (.ok ctx, w')) :
    ∃ address others w₁, lib.lookupHost endpoint w = (.ok (address :: others), w₁) ∧
      lib.connectSlave address slaveId w₁ = (.ok ctx, w') := by
  unfold ModbusMetricReader.connectTcp at made
  split at made
  · cases made
  · cases made
  · rename_i address others w₁ resolved
    obtain ⟨mapped, rfl⟩ := Prod.mk.inj made
    refine ⟨address, others, w₁, resolved, Prod.ext ?_ rfl⟩
    exact mapError_ok mapped

theorem connectRtu_ok {builder : SerialPortBuilder} {slaveId : UInt8} {w w' : ω} {ctx : κ}
    (made : ModbusMetricReader.connectRtu lib builder slaveId w = (.ok ctx, w')) :
    lib.attachSlave builder slaveId w = (.ok ctx, w') := by
  obtain ⟨mapped, rfl⟩ := Prod.mk.inj made
  exact Prod.ext (mapError_ok mapped) rfl

theorem connect_attached {s : ModbusMetricReader κ × ω} (attached : Attached lib c s) :
    Attached lib c (ModbusMetricReader.connect lib s).2 := by
  obtain ⟨transport, slaveId, metrics, -⟩ := attached
  have closed (w : ω) : Attached lib c ({ s.1 with context := none }, w) :=
    ⟨transport, slaveId, metrics, fun ctx context => by cases context⟩
  have opened {w w' : ω} {ctx : κ} (opened : Opened lib c w ctx w') :
      Attached lib c ({ s.1 with context := some ctx }, w') := by
    refine ⟨transport, slaveId, metrics, ?_⟩
    intro ctx' context
    cases context
    exact ⟨w, ctx, w', opened, .refl⟩
  unfold ModbusMetricReader.connect
  cases place : s.1.transport with
  | tcp endpoint =>
      have protocol := of_tcp (transport.trans (congrArg some place))
      cases made : ModbusMetricReader.connectTcp lib endpoint s.1.slaveId s.2 with
      | mk ctx w =>
          simp only [made]
          cases ctx with
          | error e => exact closed w
          | ok ctx =>
              rw [slaveId] at made
              obtain ⟨address, others, w', resolved, connected⟩ := connectTcp_ok made
              exact opened (.tcp protocol resolved connected)
  | rtu builder =>
      obtain ⟨device, bps, dataBits, stopBits, parity, protocol, rfl⟩ := of_rtu (transport.trans (congrArg some place))
      cases made : ModbusMetricReader.connectRtu lib (serialPort device bps dataBits stopBits parity) s.1.slaveId
        s.2 with
      | mk ctx w =>
          simp only [made]
          cases ctx with
          | error e => exact closed w
          | ok ctx =>
              rw [slaveId] at made
              exact opened (.rtu protocol (connectRtu_ok made))

theorem Attached.exchanged (valid : ∀ m ∈ c.metrics, ModbusMetric m) {s s' : ModbusMetricReader κ × ω}
    (attached : Attached lib c s) (calls : Calls (ModbusMetricReader.modbusReader lib) s.1.metrics s s') :
    Attached lib c s' := by
  rcases calls_exchanges (by rwa [attached.metrics]) calls with ⟨-, rfl⟩ | ⟨ctx, ctx', context, same, exchanges⟩
  · exact attached
  · obtain ⟨w, ctx₀, w₀, opened, before⟩ := attached.session ctx context
    refine ⟨?_, ?_, ?_, ?_⟩
    · rw [same]
      exact attached.transport
    · rw [same]
      exact attached.slaveId
    · rw [same]
      exact attached.metrics
    · rw [same]
      intro ctx₁ found
      cases found
      exact ⟨w, ctx₀, w₀, opened, before.trans exchanges⟩

theorem keeps_attached (valid : ∀ m ∈ c.metrics, ModbusMetric m) :
    Collector.Preserves (modbusTask lib c globalLabels) (Attached lib c) where
  connect s attached := connect_attached attached
  disconnect s attached :=
    ⟨attached.transport, attached.slaveId, attached.metrics, fun ctx context => by cases context⟩
  read cancelled s read s' attached done := by
    have reached := (batchReads_gathered (ModbusMetricReader.modbusReader lib) s.1.metrics s).reached
    cases done
    exact attached.exchanged valid reached
  writes steps s attached := attached

theorem created_attached {platform : Platform κ ω} (modbus : c.protocol.isModbus = true) {w w' : ω}
    {reader : ModbusMetricReader κ} (created : create platform c w = .ok (.ok (.modbus reader), w')) :
    Attached lib c ({ reader with metrics := c.metrics }, w') := by
  unfold create at created
  cases protocol : c.protocol with
  | modbusTcp endpoint =>
      rw [protocol] at created
      cases created
      exact ⟨by rw [protocol]; rfl, rfl, rfl, fun ctx context => by cases context⟩
  | modbusRtu device bps dataBits stopBits parity =>
      rw [protocol] at created
      cases created
      exact ⟨by rw [protocol]; rfl, rfl, rfl, fun ctx context => by cases context⟩
  | i2c | spi | i3c =>
      simp [protocol, Protocol.isModbus, Protocol.isI2c, Protocol.isSpi, Protocol.isI3c] at modbus

variable (lib c) in
/-- A reply over a connection that the collector opened, which a read of the run received and decoded. -/
inductive Delivered (trace : List (Collector.Event (ModbusMetricReader κ × ω))) (m : MetricConfig)
    (value : Float × Float) : Prop
  | reply {first last : ModbusMetricReader κ × ω} {read : ReadResults} {w : ω} {ctx₀ ctx ctx' : κ} {w₀ w₁ w₂ : ω}
      {firstCtx lastCtx : κ} {q : Request} {data : q.Response} (seen : .read first read last ∈ trace)
      (begins : first.1.context = some firstCtx) (ends : last.1.context = some lastCtx)
      (opened : Opened lib c w ctx₀ w₀) (before : Exchanges lib (ctx₀, w₀) (firstCtx, first.2))
      (during : Exchanges lib (firstCtx, first.2) (ctx, w₁)) (legal : q.Legal)
      (answered : lib.call q ctx w₁ = (.data data, ctx', w₂)) (after : Exchanges lib (ctx', w₂) (lastCtx, last.2))
      (decodes : Decodes m value q data) : Delivered trace m value

theorem lookup_collectResults {results : List (MetricConfig × Outcome)} {name : String} {outcome : Outcome}
    (found : (ModbusMetricReader.collectResults results).lookup name = some outcome) :
    ∃ m, (m, outcome) ∈ results ∧ m.name = name := by
  have folded (results : List (MetricConfig × Outcome)) (map : HashMap String Outcome)
      (found : (results.foldl (fun map r => map.insert r.1.name r.2) map).lookup name = some outcome) :
      (∃ m, (m, outcome) ∈ results ∧ m.name = name) ∨ map.lookup name = some outcome := by
    induction results generalizing map with
    | nil => exact .inr found
    | cons r results ih =>
        rw [List.foldl_cons] at found
        rcases ih _ found with ⟨m, member, named⟩ | earlier
        · exact .inl ⟨m, List.mem_cons_of_mem r member, named⟩
        · rcases HashMap.lookup_insert_cases earlier with ⟨named, same⟩ | ⟨-, before⟩
          · cases same
            exact .inl ⟨r.1, List.mem_cons_self, named.symm⟩
          · exact .inr before
  rcases folded results ∅ found with given | nothing
  · exact given
  · simp at nothing

theorem reads_attached (valid : ∀ m ∈ c.metrics, ModbusMetric m) {world : ModbusMetricReader κ × ω}
    {internalMetrics : Bool} (attached : Attached lib c (Collector.start (modbusTask lib c globalLabels) world
      internalMetrics).world) {trace : List (Collector.Event (ModbusMetricReader κ × ω))}
    {s : Collector.State (ModbusMetricReader κ × ω)}
    (run : (Collector.machine (modbusTask lib c globalLabels)).Run
      (Collector.start (modbusTask lib c globalLabels) world internalMetrics) trace s) :
    Attached lib c s.world ∧ ∀ first read last, .read first read last ∈ trace → Attached lib c first := by
  refine run.invariant (P := fun trace s => Attached lib c s.world ∧
    ∀ first read last, .read first read last ∈ trace → Attached lib c first) ⟨attached, by simp⟩ ?_
  intro trace s input s' events _ before action
  rcases Collector.step_cases _ action with step | ⟨rfl, others⟩
  · refine ⟨Collector.world_step (keeps_attached valid) before.1 step, ?_⟩
    intro first read last member
    rcases List.mem_append.mp member with old | new
    · exact before.2 first read last old
    · rw [Collector.read_world step new]
      exact before.1
  · obtain ⟨shutdown, senderDropped, store, internal, rfl⟩ := others.frame
    rw [List.append_nil]
    exact before

theorem read_delivered (valid : ∀ m ∈ c.metrics, ModbusMetric m) (distinct : DistinctNames c.metrics)
    {trace : List (Collector.Event (ModbusMetricReader κ × ω))} {first last : ModbusMetricReader κ × ω}
    {read : ReadResults} {cancelled : ModbusMetricReader κ × ω → Bool} (attached : Attached lib c first)
    (seen : .read first read last ∈ trace)
    (done : (ModbusMetricReader.metricReader lib).read cancelled first = .ok (read, last)) {m : MetricConfig}
    (member : m ∈ c.metrics) {value : Float × Float} (found : read.metrics.lookup m.name = some (.ok value)) :
    Delivered lib c trace m value := by
  cases batched : batchReadCoalesced (ModbusMetricReader.modbusReader lib) first.1.metrics first with
  | mk batch after =>
      have result : (ModbusMetricReader.metricReader lib).read cancelled first =
          .ok (⟨ModbusMetricReader.collectResults batch.results, batch.readCount⟩, after) := by
        simp only [ModbusMetricReader.metricReader, batched]
      rw [result] at done
      cases done
      rw [attached.metrics] at batched
      obtain ⟨m', inBatch, named⟩ := lookup_collectResults found
      obtain ⟨member', earlier, asked, answered, later, decodes⟩ := batchRead_given batched inBatch
      rename_i q s₁ s₂ data
      obtain rfl : m' = m := List.inj_on_of_nodup_map distinct member' member named
      rcases call_cases lib q s₁ with ⟨-, refused⟩ | ⟨ctx, context, counted, made, replied⟩
      · exact absurd (congrArg Prod.fst answered) (refused data)
      · have reply := replied data (congrArg Prod.fst answered)
        obtain rfl : _ = s₂ := made.symm.trans (congrArg Prod.snd answered)
        rcases calls_exchanges valid earlier with ⟨closed, rfl⟩ | ⟨firstCtx, ctx', opening, same, during⟩
        · rw [closed] at context
          cases context
        · rw [same] at context
          cases context
          rcases calls_exchanges valid later with ⟨closed, -⟩ | ⟨nextCtx, lastCtx, next, final, rest⟩
          · cases closed
          · cases next
            obtain ⟨w, ctx₀, w₀, opened, before⟩ := attached.session firstCtx opening
            exact ⟨seen, opening, by rw [final], opened, before, during, asked_legal valid asked counted,
              Prod.ext reply rfl, rest, decodes⟩

/-- Whatever a Modbus collector publishes under the name of a metric, other than a count of failures, was decoded
from the metric's own registers or bit in one reply to a legal request, over a connection opened to the device and
the slave that its config names. -/
theorem published_delivered {platform : Platform κ ω} (modbus : c.protocol.isModbus = true)
    (valid : ∀ m ∈ c.metrics, validateMetric c m = .ok ()) (distinct : DistinctNames c.metrics) {w w' : ω}
    {reader : ModbusMetricReader κ} (created : create platform c w = .ok (.ok (.modbus reader), w'))
    {internalMetrics : Bool} {before after : List (Collector.Event (ModbusMetricReader κ × ω))}
    {snapshot : List MetricValue} {s : Collector.State (ModbusMetricReader κ × ω)}
    (run : (Collector.machine (modbusTask platform.modbus c globalLabels)).Run
      (Collector.start (modbusTask platform.modbus c globalLabels) (reader, w') internalMetrics)
      (before ++ .publish snapshot :: after) s) :
    ∀ v ∈ snapshot, Collector.FailuresCounted (modbusTask platform.modbus c globalLabels) before v ∨
      ∃ m ∈ c.metrics, Collector.seriesOf v = Collector.configuredSeries m v.value ∧
        ∃ raw, Delivered platform.modbus c before m (raw, v.value) := by
  have checked : ∀ m ∈ c.metrics, ModbusMetric m := fun m member => modbus_metric (valid m member) modbus
  have attached := (reads_attached checked (created_attached modbus created) run).2
  intro v member
  rcases (Collector.published_origin run v member).value with measured | counted
  · right
    obtain ⟨m, inConfig, series, read, raw, ⟨first, last, cancelled, seen, done⟩, found⟩ := measured
    have reached := attached first read last (List.mem_append_left _ seen)
    exact ⟨m, inConfig, series, raw, read_delivered checked distinct reached seen done inConfig found⟩
  · exact .inl counted

end Connections

/-- Both ranged reads fail. The second time so does the single read of the flow, whose value is carried forward. -/
theorem published_delivered_gateway :
    ∃ (before : List (Collector.Event (ModbusMetricReader Unit × Nat))) (last : ReadResults)
        (level flow errors : MetricValue) (s : _),
      (∃ first after, .read first last after ∈ before) ∧ (last.metrics.lookup "flow").map (·.isOk) = some false ∧
      (Collector.machine tankTask).Run tankStart (before ++ [.publish [level, flow, errors]]) s ∧
      flow.name = "flow" ∧ ∃ m ∈ tank.metrics, ∃ raw, Delivered stuttering tank before m (raw, flow.value) := by
  have executed : ∃ e₁ e₂ e₃ e₄ e₅ e₆ e₇ first last after e₉ e₁₀ level flow errors s,
      (Collector.machine tankTask).exec tankStart (List.replicate 16 (.task {})) =
          some ([e₁, e₂, e₃, e₄, e₅, e₆, e₇, .read first last after, e₉, e₁₀] ++
            .publish [level, flow, errors] :: [], s) ∧
        (last.metrics.lookup "flow").map (·.isOk) = some false ∧ flow.name = "flow" :=
    ⟨_, _, _, _, _, _, _, _, _, _, _, _, _, _, _, _, rfl, rfl, rfl⟩
  obtain ⟨e₁, e₂, e₃, e₄, e₅, e₆, e₇, first, last, after, e₉, e₁₀, level, flow, errors, s, executed, failed, named⟩ :=
    executed
  refine ⟨_, last, level, flow, errors, s, ⟨first, after, by simp⟩, failed, Machine.exec_run executed, named, ?_⟩
  have created : create ⟨stuttering, idleHost⟩ tank 0 =
      .ok (.ok (.modbus { transport := .tcp "127.0.0.1:502", slaveId := 1 }), 0) := rfl
  rcases published_delivered rfl (by decide) (by simp [DistinctNames, tank, gateway, registerMetric]) created
      (Machine.exec_run executed) flow (by simp) with ⟨m, member, counted, -⟩ | ⟨m, member, -, delivered⟩
  · rw [named] at counted
    have metrics : m = registerMetric "flow" 0 ∨ m = registerMetric "level" 1 := by
      simpa [modbusTask, tank, gateway] using member
    rcases metrics with rfl | rfl <;> exact absurd counted (by decide)
  · exact ⟨m, member, delivered⟩

end BusExporter.Modbus
