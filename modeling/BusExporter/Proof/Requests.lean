import BusExporter.Proof.Classify
import BusExporter.Proof.Coalesce
import BusExporter.Proof.Recording
import BusExporter.Proof.Validated

/-! The requests of a batch read: one for each range, and one for each metric that is read alone. They
are legal, and cover what they are made for, as long as no metric ends with the last register. -/

namespace BusExporter.Modbus
open Lib Config

variable {ρ : Type}

def logged (reader : ModbusReader ρ) : ModbusReader (ρ × List Request) where
  readHoldingRegisters addr count s :=
    (reader.readHoldingRegisters addr count s.1).map id (·, s.2 ++ [.holdingRegisters addr count])
  readInputRegisters addr count s :=
    (reader.readInputRegisters addr count s.1).map id (·, s.2 ++ [.inputRegisters addr count])
  readCoils addr count s :=
    (reader.readCoils addr count s.1).map id (·, s.2 ++ [.coils addr count])
  readDiscreteInputs addr count s :=
    (reader.readDiscreteInputs addr count s.1).map id (·, s.2 ++ [.discreteInputs addr count])

theorem logged_forgets (reader : ModbusReader ρ) : Forgets Prod.fst (logged reader) reader :=
  ⟨fun _ _ _ => rfl, fun _ _ _ => rfl, fun _ _ _ => rfl, fun _ _ _ => rfl⟩

def issued (reader : ModbusReader ρ) (metrics : List MetricConfig) (w : ρ) : List Request :=
  (batchReadCoalesced (logged reader) metrics (w, [])).2.2

def singleRequest (metric : MetricConfig) : Option Request :=
  metric.address.map fun addr =>
    match metric.registerType.getD .holding with
    | .holding => .holdingRegisters addr metric.dataType.registerCount
    | .input => .inputRegisters addr metric.dataType.registerCount
    | .coil => .coils addr 1
    | .discrete => .discreteInputs addr 1

variable (decode : Decoder.RegisterDecoder) (reader : ModbusReader ρ)

theorem readSingle_log (metric : MetricConfig) (s : ρ × List Request) :
    (readSingle decode (logged reader) metric s).2.2 = s.2 ++ (singleRequest metric).toList := by
  unfold readSingle singleRequest
  cases metric.address with
  | none => simp
  | some addr => cases metric.registerType.getD .holding <;> rfl

theorem readAlone_log {α : Type} (place : α → Nat × MetricConfig) (l : List α)
    (st : BatchState (ρ × List Request)) :
    (l.foldl (fun st a => readIndividually decode (logged reader) st (place a).1 (place a).2)
        st).world.2 =
      st.world.2 ++ l.filterMap fun a => singleRequest (place a).2 := by
  induction l generalizing st with
  | nil => simp
  | cons a l ih =>
      have first : (readIndividually decode (logged reader) st (place a).1 (place a).2).world.2 =
          st.world.2 ++ (singleRequest (place a).2).toList :=
        readSingle_log decode reader (place a).2 st.world
      rw [List.foldl_cons, ih, first, List.append_assoc, List.filterMap_cons]
      cases singleRequest (place a).2 <;> rfl

section Range
variable (readRegisters : UInt16 → UInt16 → ρ × List Request → Result (List UInt16) × (ρ × List Request))
  (ask : UInt16 → UInt16 → Request)

theorem readRange_log (asks : ∀ addr count s, (readRegisters addr count s).2.2 = s.2 ++ [ask addr count])
    (st : BatchState (ρ × List Request)) (range : MergedRange) :
    ∃ again : List IndexedMetric, again ⊆ range.members ∧
      (readRange decode (logged reader) readRegisters st range).world.2 =
        st.world.2 ++ ask range.start range.count ::
          again.filterMap fun m => singleRequest m.metric := by
  have first := asks range.start range.count st.world
  unfold readRange
  cases answered : readRegisters range.start range.count st.world with
  | mk reply s =>
      rw [answered] at first
      cases reply with
      | ok regs =>
          have decoding (members : List IndexedMetric) (st : BatchState (ρ × List Request)) :
              (members.foldl (fun st member => st.put member.idx
                (decodeMetric decode member.metric regs range.start)) st).world = st.world := by
            induction members generalizing st with
            | nil => rfl
            | cons m members ih => exact ih _
          refine ⟨[], by simp, ?_⟩
          simp only [decoding]
          exact first
      | error e =>
          have again := readAlone_log decode reader
            (fun m : IndexedMetric => (m.idx, m.metric)) range.members
            ⟨st.results, st.readCount + 1, s⟩
          refine ⟨range.members, fun _ member => member, ?_⟩
          simp only at again ⊢
          rw [again, first, List.append_assoc]
          rfl

theorem readRanges_log
    (asks : ∀ addr count s, (readRegisters addr count s).2.2 = s.2 ++ [ask addr count])
    (ranges : List MergedRange) (st : BatchState (ρ × List Request)) :
    ∃ requests, (ranges.foldl (readRange decode (logged reader) readRegisters) st).world.2 =
        st.world.2 ++ requests ∧
      (∀ range ∈ ranges, ask range.start range.count ∈ requests) ∧
      ∀ q ∈ requests, (∃ range ∈ ranges, q = ask range.start range.count) ∨
        ∃ range ∈ ranges, ∃ m ∈ range.members, singleRequest m.metric = some q := by
  induction ranges generalizing st with
  | nil => exact ⟨[], by simp⟩
  | cons range ranges ih =>
      obtain ⟨again, members, first⟩ := readRange_log decode reader readRegisters ask asks st range
      obtain ⟨requests, later, asked, known⟩ :=
        ih (readRange decode (logged reader) readRegisters st range)
      refine ⟨ask range.start range.count :: (again.filterMap fun m => singleRequest m.metric) ++ requests,
        ?_, ?_, ?_⟩
      · rw [List.foldl_cons, later, first, List.append_assoc]
      · intro r member
        rcases List.mem_cons.mp member with rfl | inRest
        · simp
        · exact List.mem_append_right _ (asked r inRest)
      · intro q member
        rcases List.mem_append.mp member with here | inRest
        · rcases List.mem_cons.mp here with rfl | fallback
          · exact .inl ⟨range, by simp, rfl⟩
          · obtain ⟨m, inAgain, request⟩ := List.mem_filterMap.mp fallback
            exact .inr ⟨range, by simp, m, members inAgain, request⟩
        · rcases known q inRest with ⟨r, inRanges, same⟩ | ⟨r, inRanges, m, inRange, request⟩
          · exact .inl ⟨r, by simp [inRanges], same⟩
          · exact .inr ⟨r, by simp [inRanges], m, inRange, request⟩

end Range

structure Plan where
  holding : List MergedRange
  input : List MergedRange

def plan (metrics : List MetricConfig) : Plan where
  holding := coalesce (sortByAddr (classify metrics.zipIdx).holding)
  input := coalesce (sortByAddr (classify metrics.zipIdx).input)

def Plan.requests (p : Plan) : List Request :=
  p.holding.map (fun r => .holdingRegisters r.start r.count) ++
    p.input.map fun r => .inputRegisters r.start r.count

variable {metrics : List MetricConfig} (w : ρ)

theorem mem_metrics {idx : Nat} {m : MetricConfig} (member : (m, idx) ∈ metrics.zipIdx) : m ∈ metrics :=
  List.fst_mem_of_mem_zipIdx member

theorem planned_metric {kind : RegisterType} {items : List IndexedMetric}
    (stands : ∀ item ∈ items, Stands metrics.zipIdx kind item) {range : MergedRange}
    (planned : range ∈ coalesce (sortByAddr items)) {m : IndexedMetric} (member : m ∈ range.members) :
    m.metric ∈ metrics :=
  mem_metrics (stands m (mem_of_planned planned member)).member

theorem issued_known : (∀ q ∈ (plan metrics).requests, q ∈ issued reader metrics w) ∧
    ∀ q ∈ issued reader metrics w,
      q ∈ (plan metrics).requests ∨ ∃ m ∈ metrics, singleRequest m = some q := by
  obtain ⟨holding, input, individual⟩ := classify_stands metrics.zipIdx
  let c := classify metrics.zipIdx
  let begins : BatchState (ρ × List Request) := ⟨c.results, 0, (w, [])⟩
  let middle := (plan metrics).holding.foldl
    (readRange Decoder.decode (logged reader) (logged reader).readHoldingRegisters) begins
  let ends := (plan metrics).input.foldl
    (readRange Decoder.decode (logged reader) (logged reader).readInputRegisters) middle
  obtain ⟨first, firstLog, firstAsked, firstKnown⟩ := readRanges_log Decoder.decode reader
    (logged reader).readHoldingRegisters .holdingRegisters (fun _ _ _ => rfl) (plan metrics).holding begins
  obtain ⟨second, secondLog, secondAsked, secondKnown⟩ := readRanges_log Decoder.decode reader
    (logged reader).readInputRegisters .inputRegisters (fun _ _ _ => rfl) (plan metrics).input middle
  have third := readAlone_log Decoder.decode reader id c.individual ends
  have whole : issued reader metrics w =
      first ++ second ++ c.individual.filterMap fun m => singleRequest m.2 := by
    calc issued reader metrics w = ends.world.2 ++ _ := third
      _ = _ := by rw [secondLog, firstLog]; rfl
  rw [whole]
  constructor
  · intro q member
    rcases List.mem_append.mp member with inHolding | inInput
    · obtain ⟨r, planned, rfl⟩ := List.mem_map.mp inHolding
      simp [firstAsked r planned]
    · obtain ⟨r, planned, rfl⟩ := List.mem_map.mp inInput
      simp [secondAsked r planned]
  · intro q member
    rcases List.mem_append.mp member with inRanges | alone
    · rcases List.mem_append.mp inRanges with inHolding | inInput
      · rcases firstKnown q inHolding with ⟨r, planned, rfl⟩ | ⟨r, planned, m, inRange, request⟩
        · exact .inl (List.mem_append_left _ (List.mem_map_of_mem planned))
        · exact .inr ⟨m.metric, planned_metric holding planned inRange, request⟩
      · rcases secondKnown q inInput with ⟨r, planned, rfl⟩ | ⟨r, planned, m, inRange, request⟩
        · exact .inl (List.mem_append_right _ (List.mem_map_of_mem planned))
        · exact .inr ⟨m.metric, planned_metric input planned inRange, request⟩
    · obtain ⟨m, inIndividual, request⟩ := List.mem_filterMap.mp alone
      exact .inr ⟨m.2, mem_metrics (individual m inIndividual).member, request⟩

/-- What the protocol admits: 125 registers or 2000 bits at most, within the address space. -/
def Request.Legal : Request → Prop
  | .holdingRegisters addr count | .inputRegisters addr count =>
      1 ≤ count.toNat ∧ count.toNat ≤ 125 ∧ addr.toNat + count.toNat ≤ 65536
  | .coils addr count | .discreteInputs addr count =>
      1 ≤ count.toNat ∧ count.toNat ≤ 2000 ∧ addr.toNat + count.toNat ≤ 65536

/-- The request for a range does not end before it starts, and spans the registers of each member. -/
structure MergedRange.Covers (r : MergedRange) : Prop where
  order : r.start.toNat ≤ r.stop.toNat
  members : ∀ m ∈ r.members, ∃ addr, m.metric.address = some addr ∧ r.start.toNat ≤ addr.toNat ∧
    addr.toNat + m.metric.dataType.registerCount.toNat ≤ r.start.toNat + r.count.toNat

def LegalBatch (reader : ModbusReader ρ) (metrics : List MetricConfig) (w : ρ) : Prop :=
  (∀ q ∈ issued reader metrics w, q.Legal) ∧
    (∀ r ∈ (plan metrics).holding, r.Covers) ∧ ∀ r ∈ (plan metrics).input, r.Covers

def ReachesTop (m : MetricConfig) : Prop :=
  isBit (m.registerType.getD .holding) = false ∧
    ∃ addr, m.address = some addr ∧ addr.toNat + m.dataType.registerCount.toNat = 65536

section Items
variable {kind : RegisterType} {items : List IndexedMetric}

theorem planned_spans (stands : ∀ item ∈ items, Stands metrics.zipIdx kind item) :
    ∀ r ∈ coalesce (sortByAddr items), r.Spans := by
  apply coalesce_spans (sortByAddr_sorted items)
  intro m member
  rw [(stands m ((sortByAddr_perm items).mem_iff.mp member)).count]
  exact (registerCount_bounds m.metric.dataType).2

theorem planned_covers (stands : ∀ item ∈ items, Stands metrics.zipIdx kind item)
    (bits : isBit kind = false) (below : ∀ m ∈ metrics, ¬ReachesTop m)
    (valid : ∀ m ∈ metrics, ModbusMetric m) {r : MergedRange} (planned : r ∈ coalesce (sortByAddr items)) :
    r.Covers ∧ 1 ≤ r.count.toNat ∧ r.count.toNat ≤ 125 ∧ r.start.toNat + r.count.toNat ≤ 65536 := by
  have spans := planned_spans stands r planned
  obtain ⟨order, width⟩ := spans.count_toNat
  have inside {m : IndexedMetric} (member : m ∈ r.members) :
      m.metric.address = some m.addr ∧ r.start.toNat ≤ m.addr.toNat ∧
        m.addr.toNat + m.metric.dataType.registerCount.toNat ≤ r.stop.toNat := by
    have standing := stands m (mem_of_planned planned member)
    have inMetrics := planned_metric stands planned member
    have reached := spans.before m member
    obtain ⟨addr, address, fits⟩ := (valid m.metric inMetrics).address
    obtain rfl : m.addr = addr := Option.some.inj (standing.address.symm.trans address)
    have notTop : m.addr.toNat + m.metric.dataType.registerCount.toNat ≠ 65536 :=
      fun top => below m.metric inMetrics ⟨by rw [standing.kind, bits], m.addr, address, top⟩
    rw [IndexedMetric.top, standing.count] at reached
    exact ⟨address, spans.after m member, by omega⟩
  obtain ⟨first, member, begins⟩ := spans.starts
  have positive := (registerCount_bounds first.metric.dataType).1
  have opener := inside member
  have fitting := spans.fits
  have small := r.stop.toNat_lt
  refine ⟨⟨order, ?_⟩, by omega, by omega, by omega⟩
  intro m inRange
  obtain ⟨address, after, before⟩ := inside inRange
  exact ⟨m.addr, address, after, by omega⟩

theorem MergedRange.Covers.below {r : MergedRange} (covers : r.Covers) {m : IndexedMetric}
    (member : m ∈ r.members) : ¬ReachesTop m.metric := by
  rintro ⟨-, addr, address, top⟩
  obtain ⟨addr', address', -, before⟩ := covers.members m member
  rw [address, Option.some.injEq] at address'
  have width : r.count.toNat = r.stop.toNat - r.start.toNat :=
    UInt16.toNat_sub_of_le _ _ (UInt16.le_iff_toNat_le.mpr covers.order)
  have small := r.stop.toNat_lt
  have := covers.order
  rw [← address'] at before
  omega

theorem mem_planned {item : IndexedMetric} (member : item ∈ items) :
    ∃ r ∈ coalesce (sortByAddr items), item ∈ r.members := by
  rw [← (sortByAddr_perm items).mem_iff, ← coalesce_members (sortByAddr items)] at member
  exact List.mem_flatMap.mp member

end Items

theorem singleRequest_legal {m : MetricConfig} (valid : ModbusMetric m) {q : Request}
    (request : singleRequest m = some q) : q.Legal := by
  obtain ⟨addr, address, fits⟩ := valid.address
  have bounds := registerCount_bounds m.dataType
  have small := addr.toNat_lt
  rw [singleRequest, address, Option.map_some, Option.some.injEq] at request
  cases kind : m.registerType.getD .holding <;> simp only [kind] at request <;> subst request
  case holding | input => exact ⟨bounds.1, bounds.2, fits⟩
  case coil | discrete => exact ⟨by decide, by decide, small⟩

/-- For every device behaviour, the requests of a batch are legal and cover what they are made for,
exactly when no register metric ends with the last register. -/
theorem legal_iff (c : CollectorConfig) (modbus : c.protocol.isModbus = true)
    {metrics : List MetricConfig} (valid : ∀ m ∈ metrics, validateMetric c m = .ok ())
    (reader : ModbusReader ρ) (w : ρ) :
    LegalBatch reader metrics w ↔ ∀ m ∈ metrics, ¬ReachesTop m := by
  have checked : ∀ m ∈ metrics, ModbusMetric m := fun m member => modbus_metric (valid m member) modbus
  obtain ⟨holding, input, -⟩ := classify_stands metrics.zipIdx
  constructor
  · rintro ⟨-, holdingCovers, inputCovers⟩ m member ⟨registers, addr, address, top⟩
    obtain ⟨idx, found⟩ := List.mem_iff_getElem?.mp member
    obtain ⟨inHolding, inInput⟩ := mem_classify (List.mk_mem_zipIdx_iff_getElem?.mpr found) address
    cases kind : m.registerType.getD .holding with
    | holding =>
        obtain ⟨r, planned, inRange⟩ := mem_planned (inHolding kind)
        exact (holdingCovers r planned).below inRange ⟨registers, addr, address, top⟩
    | input =>
        obtain ⟨r, planned, inRange⟩ := mem_planned (inInput kind)
        exact (inputCovers r planned).below inRange ⟨registers, addr, address, top⟩
    | coil | discrete => simp [kind, isBit] at registers
  · intro below
    refine ⟨?_, ?_, ?_⟩
    · intro q member
      rcases (issued_known reader w).2 q member with range | ⟨m, inMetrics, request⟩
      · rcases List.mem_append.mp range with inHolding | inInput
        · obtain ⟨r, planned, rfl⟩ := List.mem_map.mp inHolding
          exact (planned_covers holding rfl below checked planned).2
        · obtain ⟨r, planned, rfl⟩ := List.mem_map.mp inInput
          exact (planned_covers input rfl below checked planned).2
      · exact singleRequest_legal (checked m inMetrics) request
    · intro r planned
      exact (planned_covers holding rfl below checked planned).1
    · intro r planned
      exact (planned_covers input rfl below checked planned).1

def registerMetric (name : String) (addr : UInt16) : MetricConfig :=
  { name, metricType := .gauge, registerType := some .holding, address := some addr, dataType := .u16 }

def gateway (metrics : List MetricConfig) : CollectorConfig :=
  { name := "gateway", protocol := .modbusTcp "127.0.0.1:502", slaveId := some 1, metrics }

def silent : ModbusReader Unit where
  readHoldingRegisters _ _ w := (.error ⟨"no answer", []⟩, w)
  readInputRegisters _ _ w := (.error ⟨"no answer", []⟩, w)
  readCoils _ _ w := (.error ⟨"no answer", []⟩, w)
  readDiscreteInputs _ _ w := (.error ⟨"no answer", []⟩, w)

def gatewayMetrics : List MetricConfig :=
  [registerMetric "flow" 0, registerMetric "level" 1, registerMetric "pressure" 300,
    { registerMetric "energy" 65533 with dataType := .u32 },
    { registerMetric "relay" 65535 with registerType := some .coil, dataType := .bool }]

theorem legal_iff_gateway :
    (issued silent gatewayMetrics ()).length = 8 ∧ LegalBatch silent gatewayMetrics () := by
  refine ⟨by decide, (legal_iff (gateway []) rfl (by decide) silent ()).mpr ?_⟩
  have short : ∀ m ∈ gatewayMetrics, isBit (m.registerType.getD .holding) = true ∨
      ∀ addr, m.address = some addr → addr.toNat + m.dataType.registerCount.toNat ≠ 65536 := by
    simp [gatewayMetrics, registerMetric, isBit]
    decide
  rintro m member ⟨register, addr, address, top⟩
  rcases short m member with bit | below
  · rw [register] at bit
    cases bit
  · exact below addr address top

/-- The last register, alone in its range, is asked for with a count of zero. -/
theorem last_register_unread :
    ¬∀ (c : CollectorConfig) (metrics : List MetricConfig) (reader : ModbusReader Unit),
      c.protocol.isModbus = true → (∀ m ∈ metrics, validateMetric c m = .ok ()) →
        LegalBatch reader metrics () := by
  intro all
  have legal := all (gateway []) [registerMetric "flow" 65535] silent rfl (by decide)
  have asked : Request.holdingRegisters 65535 0 ∈ issued silent [registerMetric "flow" 65535] () := by
    decide
  have positive := (legal.1 _ asked).1
  revert positive
  decide

end BusExporter.Modbus
