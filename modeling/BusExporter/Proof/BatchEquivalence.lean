import BusExporter.Lib.Lists
import BusExporter.Proof.Classify
import BusExporter.Proof.Coalesce
import BusExporter.Proof.SteadyDevice
import BusExporter.Proof.Validated

/-! Batch reads against individual reads, on a device that does not change. -/

namespace BusExporter.Modbus
open Lib Config

def SameOutcome (batch single : Outcome) : Prop :=
  (∃ value, batch = .ok value ∧ single = .ok value) ∨ (∃ e e', batch = .error e ∧ single = .error e')

theorem sameOutcome_refl (outcome : Outcome) : SameOutcome outcome outcome := by
  cases outcome with
  | ok value => exact .inl ⟨value, rfl, rfl⟩
  | error e => exact .inr ⟨e, e, rfl, rfl⟩

section Writes
variable (reader : ModbusReader Unit)

def single (metric : MetricConfig) : Outcome := (readSingle Decoder.decode reader metric ()).1

def rangeOutcome (readRegisters : UInt16 → UInt16 → Unit → Result (List UInt16) × Unit)
    (range : MergedRange) (member : IndexedMetric) : Outcome :=
  match (readRegisters range.start range.count ()).1 with
  | .ok regs => decodeMetric Decoder.decode member.metric regs range.start
  | .error _ => single reader member.metric

structure Write where
  idx : Nat
  metric : MetricConfig
  outcome : Outcome

def rangeWrites (readRegisters : UInt16 → UInt16 → Unit → Result (List UInt16) × Unit)
    (items : List IndexedMetric) : List Write :=
  (coalesce (sortByAddr items)).flatMap fun range =>
    range.members.map fun m => ⟨m.idx, m.metric, rangeOutcome reader readRegisters range m⟩

def individualWrites (individual : List (Nat × MetricConfig)) : List Write :=
  individual.map fun m => ⟨m.1, m.2, single reader m.2⟩

def batchWrites (c : Classified) : List Write :=
  rangeWrites reader reader.readHoldingRegisters c.holding ++
    (rangeWrites reader reader.readInputRegisters c.input ++ individualWrites reader c.individual)

def Write.entry (w : Write) : Nat × Option Outcome := (w.idx, some w.outcome)

theorem readRange_results (readRegisters : UInt16 → UInt16 → Unit → Result (List UInt16) × Unit)
    (st : BatchState Unit) (range : MergedRange) :
    (readRange Decoder.decode reader readRegisters st range).results =
      assign (range.members.map fun m =>
        (m.idx, some (rangeOutcome reader readRegisters range m))) st.results := by
  have decoded (regs : List UInt16) (members : List IndexedMetric) (st : BatchState Unit) :
      (members.foldl (fun st member =>
        st.put member.idx (decodeMetric Decoder.decode member.metric regs range.start)) st).results =
        assign (members.map fun m =>
          (m.idx, some (decodeMetric Decoder.decode m.metric regs range.start))) st.results := by
    induction members generalizing st with
    | nil => rfl
    | cons m members ih => exact ih _
  have single_reads (members : List IndexedMetric) (st : BatchState Unit) :
      (members.foldl (fun st member =>
        readIndividually Decoder.decode reader st member.idx member.metric) st).results =
        assign (members.map fun m => (m.idx, some (single reader m.metric))) st.results := by
    induction members generalizing st with
    | nil => rfl
    | cons m members ih => exact ih _
  obtain ⟨results, readCount, ⟨⟩⟩ := st
  unfold readRange rangeOutcome
  rcases readRegisters range.start range.count () with ⟨regs | e, w⟩
  · exact single_reads range.members _
  · exact decoded _ range.members _

theorem readRanges_results (readRegisters : UInt16 → UInt16 → Unit → Result (List UInt16) × Unit)
    (items : List IndexedMetric) (st : BatchState Unit) :
    ((coalesce (sortByAddr items)).foldl (readRange Decoder.decode reader readRegisters) st).results =
      assign ((rangeWrites reader readRegisters items).map Write.entry) st.results := by
  unfold rangeWrites
  induction coalesce (sortByAddr items) generalizing st with
  | nil => rfl
  | cons range ranges ih =>
      rw [List.foldl_cons, ih, readRange_results, List.flatMap_cons, List.map_append, assign_append,
        List.map_map]
      rfl

theorem readIndividuals_results (individual : List (Nat × MetricConfig)) (st : BatchState Unit) :
    (individual.foldl (fun st m => readIndividually Decoder.decode reader st m.1 m.2) st).results =
      assign ((individualWrites reader individual).map Write.entry) st.results := by
  induction individual generalizing st with
  | nil => rfl
  | cons m individual ih => exact ih _

theorem batchReads_results (c : Classified) :
    (batchReads Decoder.decode reader c ()).results =
      assign ((batchWrites reader c).map Write.entry) c.results := by
  unfold batchReads batchWrites
  rw [readIndividuals_results, readRanges_results, readRanges_results, List.map_append,
    List.map_append, assign_append, assign_append]

theorem rangeWrites_keys (readRegisters : UInt16 → UInt16 → Unit → Result (List UInt16) × Unit)
    (items : List IndexedMetric) :
    ((rangeWrites reader readRegisters items).map (·.idx)).Perm (items.map (·.idx)) := by
  have flat : (rangeWrites reader readRegisters items).map (·.idx) =
      ((coalesce (sortByAddr items)).flatMap (·.members)).map (·.idx) := by
    simp only [rangeWrites, List.map_flatMap, List.map_map]
    rfl
  rw [flat, coalesce_members]
  exact (sortByAddr_perm items).map _

theorem batchWrites_keys (c : Classified) :
    ((batchWrites reader c).map (·.idx)).Perm c.keys := by
  simp only [batchWrites, Classified.keys, List.map_append]
  apply (rangeWrites_keys reader _ c.holding).append
  apply (rangeWrites_keys reader _ c.input).append
  rw [individualWrites, List.map_map]
  exact .refl _

theorem batchWrites_metric {metrics : List MetricConfig} {w : Write}
    (member : w ∈ batchWrites reader (classify metrics.zipIdx)) : metrics[w.idx]? = some w.metric := by
  obtain ⟨holding, input, individual⟩ := classify_stands metrics.zipIdx
  have ofItem {kind : RegisterType} {items : List IndexedMetric}
      {readRegisters : UInt16 → UInt16 → Unit → Result (List UInt16) × Unit}
      (stands : ∀ item ∈ items, Stands metrics.zipIdx kind item)
      (inWrites : w ∈ rangeWrites reader readRegisters items) : metrics[w.idx]? = some w.metric := by
    obtain ⟨range, inRanges, written⟩ := List.mem_flatMap.mp inWrites
    obtain ⟨m, inRange, rfl⟩ := List.mem_map.mp written
    exact List.mem_zipIdx_iff_getElem?.mp (stands m (mem_of_planned inRanges inRange)).member
  rcases List.mem_append.mp member with inHolding | later
  · exact ofItem holding inHolding
  · rcases List.mem_append.mp later with inInput | inIndividual
    · exact ofItem input inInput
    · obtain ⟨m, inList, rfl⟩ := List.mem_map.mp inIndividual
      exact List.mem_zipIdx_iff_getElem?.mp (individual m inList).member

def Agrees (metrics : List MetricConfig) : Prop :=
  List.Forall₂ (fun m r => r.1 = m ∧ SameOutcome r.2 (single reader m)) metrics
    (batchReadCoalesced reader metrics ()).1.results

theorem agrees_iff_writes {metrics : List MetricConfig}
    (present : ∀ m ∈ metrics, m.address.isSome) :
    Agrees reader metrics ↔
      ∀ w ∈ batchWrites reader (classify metrics.zipIdx),
        SameOutcome w.outcome (single reader w.metric) := by
  have nodup : ((batchWrites reader (classify metrics.zipIdx)).map (·.idx)).Nodup :=
    (batchWrites_keys reader _).nodup_iff.mpr (classify_keys_nodup metrics)
  have keys {i : Nat} : i ∈ (batchWrites reader (classify metrics.zipIdx)).map (·.idx) ↔
      i < metrics.length :=
    (batchWrites_keys reader _).mem_iff.trans (mem_classify_keys present)
  have entries : ((batchWrites reader (classify metrics.zipIdx)).map Write.entry).map Prod.fst =
      (batchWrites reader (classify metrics.zipIdx)).map (·.idx) := by
    rw [List.map_map]
    rfl
  have width : (classify metrics.zipIdx).results.length = metrics.length := by
    rw [length_classify_results, List.length_zipIdx]
  let st := batchReads Decoder.decode reader (classify metrics.zipIdx) ()
  have results : st.results = _ := batchReads_results reader (classify metrics.zipIdx)
  have stored (w : Write) (member : w ∈ batchWrites reader (classify metrics.zipIdx)) :
      st.results[w.idx]? = some (some w.outcome) := by
    rw [results]
    have inside : w.idx < metrics.length := keys.mp (List.mem_map_of_mem member)
    have entry : w.entry ∈ (batchWrites reader (classify metrics.zipIdx)).map Write.entry :=
      List.mem_map_of_mem member
    exact assign_written (by rw [entries]; exact nodup) entry (by rw [width]; exact inside)
  have long : st.results.length = metrics.length := by
    rw [results, length_assign, width]
  have outcomes : (batchReadCoalesced reader metrics ()).1.results =
      (metrics.zip st.results).map fun entry => (entry.1, entry.2.getD (.error (notProcessed entry.1))) := rfl
  rw [Agrees, outcomes, List.forall₂_iff_get]
  constructor
  · rintro ⟨-, same⟩ w member
    have inside : w.idx < metrics.length := keys.mp (List.mem_map_of_mem member)
    have here := (same w.idx inside (by simp [long, inside])).2
    obtain ⟨_, metric⟩ := List.getElem?_eq_some_iff.mp (batchWrites_metric reader member)
    obtain ⟨_, outcome⟩ := List.getElem?_eq_some_iff.mp (stored w member)
    simpa [metric, outcome] using here
  · intro same
    refine ⟨by simp [long], ?_⟩
    intro i inside _
    obtain ⟨w, member, rfl⟩ := List.mem_map.mp (keys.mpr inside)
    obtain ⟨_, metric⟩ := List.getElem?_eq_some_iff.mp (batchWrites_metric reader member)
    obtain ⟨_, outcome⟩ := List.getElem?_eq_some_iff.mp (stored w member)
    simpa [metric, outcome] using same w member

end Writes

theorem decodeMetric_inside {metric : MetricConfig} {addr start : UInt16} {regs : List UInt16}
    (address : metric.address = some addr) (low : start.toNat ≤ addr.toNat)
    (high : addr.toNat + metric.dataType.registerCount.toNat ≤ start.toNat + regs.length) :
    decodeMetric Decoder.decode metric regs start =
      decodeRegisters Decoder.decode metric
        (.ok ((regs.drop (addr.toNat - start.toNat)).take metric.dataType.registerCount.toNat)) := by
  have notBefore : ¬ addr < start := by
    rw [UInt16.lt_iff_toNat_lt]
    omega
  have inBuffer : ¬ regs.length < addr.toNat - start.toNat + metric.dataType.registerCount.toNat := by
    omega
  simp only [decodeMetric, address, notBefore, inBuffer, if_false, Nat.add_sub_cancel_left]
  rfl

theorem decodeMetric_outside {metric : MetricConfig} {addr start : UInt16} {regs : List UInt16}
    (address : metric.address = some addr) (low : start.toNat ≤ addr.toNat)
    (high : start.toNat + regs.length < addr.toNat + metric.dataType.registerCount.toNat) :
    ∃ e, decodeMetric Decoder.decode metric regs start = .error e := by
  have notBefore : ¬ addr < start := by
    rw [UInt16.lt_iff_toNat_lt]
    omega
  have outOfBuffer : regs.length < addr.toNat - start.toNat + metric.dataType.registerCount.toNat := by
    omega
  simp only [decodeMetric, address, notBefore, outOfBuffer, if_false, if_true]
  exact ⟨_, rfl⟩

theorem decodeRegisters_ok (metric : MetricConfig) {regs : List UInt16}
    (enough : metric.dataType.registerCount.toNat ≤ regs.length) :
    ∃ value, decodeRegisters Decoder.decode metric (.ok regs) = .ok value := by
  have needed : Decoder.registersNeeded (Decoder.mapDataType metric.dataType) ≤ regs.length := by
    simpa using enough
  obtain ⟨value, found⟩ := Decoder.decode_ok needed (Decoder.mapByteOrder metric.byteOrder)
    metric.scale metric.offset
  exact ⟨value, by simp [decodeRegisters, found, Decoder.decoded, bind, Except.bind, Except.mapError]⟩

namespace MergedRange

def AnswersToTop (table : UInt16 → Option UInt16) (range : MergedRange) : Prop :=
  range.start.toNat < 65535 ∧ Readable table range.start.toNat (65536 - range.start.toNat)

end MergedRange

section Member
variable {d : Device} {table : UInt16 → Option UInt16} {range : MergedRange} {m : IndexedMetric}
  (spans : range.Spans) (member : m ∈ range.members) (address : m.metric.address = some m.addr)
  (count : m.count = m.metric.dataType.registerCount) (fits : m.top ≤ 65536)
  (alone : single d.reader m.metric = decodeRegisters Decoder.decode m.metric
    (d.answer validateRegisterCount table m.addr m.count))
include spans member address count fits alone

theorem sameOutcome_decodeMetric {regs : List UInt16}
    (read : d.answer validateRegisterCount table range.start range.count = .ok regs) :
    SameOutcome (decodeMetric Decoder.decode m.metric regs range.start) (single d.reader m.metric) ↔
      ¬ (m.top = 65536 ∧ range.AnswersToTop table) := by
  obtain ⟨positive, -, values⟩ := d.answer_registers.mp read
  obtain ⟨order, width⟩ := spans.count_toNat
  have low := spans.after m member
  have before := spans.before m member
  have long := length_span values
  have bounds := registerCount_bounds m.metric.dataType
  have size : m.top = m.addr.toNat + m.metric.dataType.registerCount.toNat := by
    rw [IndexedMetric.top, count]
  have stopSmall := range.stop.toNat_lt
  rw [width] at long positive values
  rw [count] at alone
  -- the saturated end of the range is short of the member, or it is exact
  rcases Nat.lt_or_ge range.stop.toNat m.top with short | reached
  · have last : range.stop.toNat = 65535 := by omega
    have top : m.top = 65536 := by omega
    have high : range.start.toNat + regs.length <
        m.addr.toNat + m.metric.dataType.registerCount.toNat := by omega
    obtain ⟨e, failed⟩ := decodeMetric_outside address low high
    rw [failed]
    constructor
    · rintro (⟨value, impossible, -⟩ | ⟨-, e', -, refused⟩) ⟨-, -, readable⟩
      · cases impossible
      · obtain ⟨slice, inside⟩ := span_readable.mpr (show Readable table m.addr.toNat
            m.metric.dataType.registerCount.toNat from
          fun n first final => readable n (by omega) (by omega))
        rw [alone, d.answer_registers.mpr ⟨bounds.1, bounds.2, inside⟩] at refused
        obtain ⟨value, good⟩ := decodeRegisters_ok m.metric (length_span inside).ge
        rw [good] at refused
        cases refused
    · intro notTop
      have unreadable : ¬ Readable table m.addr.toNat m.metric.dataType.registerCount.toNat := by
        intro inside
        apply notTop
        refine ⟨top, by omega, ?_⟩
        intro n first final
        rcases Nat.lt_or_ge n 65535 with inRange | atTop
        · exact span_readable.mp ⟨regs, values⟩ n first (by omega)
        · exact inside n (by omega) (by omega)
      cases answer : d.answer validateRegisterCount table m.addr m.metric.dataType.registerCount with
      | ok slice => exact absurd (span_readable.mp ⟨slice, (d.answer_registers.mp answer).2.2⟩) unreadable
      | error e' => exact .inr ⟨e, e', rfl, by rw [alone, answer]; rfl⟩
  · have below : m.top ≠ 65536 := by omega
    have slice := span_slice values low (show m.addr.toNat + m.metric.dataType.registerCount.toNat ≤ _ by omega)
    rw [decodeMetric_inside address low (by omega), alone,
      d.answer_registers.mpr ⟨bounds.1, bounds.2, slice⟩]
    exact iff_of_true (sameOutcome_refl _) fun reach => below reach.1

theorem sameOutcome_rangeOutcome
    {readRegisters : UInt16 → UInt16 → Unit → Result (List UInt16) × Unit}
    (answers : ∀ addr count, (readRegisters addr count ()).1 =
      d.answer validateRegisterCount table addr count) :
    SameOutcome (rangeOutcome d.reader readRegisters range m) (single d.reader m.metric) ↔
      ¬ (m.top = 65536 ∧ range.AnswersToTop table) := by
  unfold rangeOutcome
  rw [answers]
  cases read : d.answer validateRegisterCount table range.start range.count with
  | ok regs => exact sameOutcome_decodeMetric spans member address count fits alone read
  | error e =>
      -- the fallback is the individual read, and a range that answers up to the top had not failed
      apply iff_of_true (sameOutcome_refl _)
      rintro ⟨top, below, readable⟩
      obtain ⟨order, width⟩ := spans.count_toNat
      have before := spans.before m member
      have fitting := spans.fits
      have stopSmall := range.stop.toNat_lt
      obtain ⟨regs, values⟩ := span_readable.mpr (show Readable table range.start.toNat
          range.count.toNat from fun n first final => readable n first (by omega))
      have good := d.answer_registers.mpr ⟨by omega, by omega, values⟩
      rw [read] at good
      cases good

end Member

/-- A range planned for the items has a member that ends with the last register, starts below that
register, and answers to it. -/
def TopRangeAnswers (table : UInt16 → Option UInt16) (items : List IndexedMetric) : Prop :=
  ∃ range ∈ coalesce (sortByAddr items),
    (∃ m ∈ range.members, m.top = 65536) ∧ range.AnswersToTop table

theorem single_holding {l : List (MetricConfig × Nat)} {item : IndexedMetric} (d : Device)
    (stands : Stands l .holding item) :
    single d.reader item.metric = decodeRegisters Decoder.decode item.metric
      (d.answer validateRegisterCount d.holding item.addr item.count) := by
  rw [single, readSingle, stands.address, stands.count]
  simp only [stands.kind]
  rfl

theorem single_input {l : List (MetricConfig × Nat)} {item : IndexedMetric} (d : Device)
    (stands : Stands l .input item) :
    single d.reader item.metric = decodeRegisters Decoder.decode item.metric
      (d.answer validateRegisterCount d.input item.addr item.count) := by
  rw [single, readSingle, stands.address, stands.count]
  simp only [stands.kind]
  rfl

theorem rangeWrites_agree {d : Device} {table : UInt16 → Option UInt16} {kind : RegisterType}
    {l : List (MetricConfig × Nat)} {items : List IndexedMetric}
    (readRegisters : UInt16 → UInt16 → Unit → Result (List UInt16) × Unit)
    (stands : ∀ item ∈ items, Stands l kind item)
    (valid : ∀ entry ∈ l, ModbusMetric entry.1)
    (answers : ∀ addr count, (readRegisters addr count ()).1 =
      d.answer validateRegisterCount table addr count)
    (alone : ∀ item ∈ items, single d.reader item.metric = decodeRegisters Decoder.decode item.metric
      (d.answer validateRegisterCount table item.addr item.count)) :
    (∀ w ∈ rangeWrites d.reader readRegisters items,
      SameOutcome w.outcome (single d.reader w.metric)) ↔ ¬ TopRangeAnswers table items := by
  have small : ∀ m ∈ sortByAddr items, m.count.toNat ≤ 125 := by
    intro m member
    rw [(stands m ((sortByAddr_perm items).mem_iff.mp member)).count]
    exact (registerCount_bounds m.metric.dataType).2
  have spans := coalesce_spans (sortByAddr_sorted items) small
  have same {range : MergedRange} (planned : range ∈ coalesce (sortByAddr items))
      {m : IndexedMetric} (member : m ∈ range.members) :
      SameOutcome (rangeOutcome d.reader readRegisters range m) (single d.reader m.metric) ↔
        ¬ (m.top = 65536 ∧ range.AnswersToTop table) := by
    have item := mem_of_planned planned member
    have standing := stands m item
    obtain ⟨addr, address, top⟩ := (valid _ standing.member).address
    rw [standing.address, Option.some.injEq] at address
    have fits : m.top ≤ 65536 := by
      rw [IndexedMetric.top, standing.count, address]
      exact top
    exact sameOutcome_rangeOutcome (spans range planned) member standing.address standing.count fits
      (alone m item) answers
  constructor
  · rintro agree ⟨range, planned, ⟨m, member, top⟩, reach⟩
    have written : (⟨m.idx, m.metric, rangeOutcome d.reader readRegisters range m⟩ : Write) ∈
        rangeWrites d.reader readRegisters items :=
      List.mem_flatMap.mpr ⟨range, planned, List.mem_map_of_mem member⟩
    exact (same planned member).mp (agree _ written) ⟨top, reach⟩
  · intro none w written
    obtain ⟨range, planned, inRange⟩ := List.mem_flatMap.mp written
    obtain ⟨m, member, rfl⟩ := List.mem_map.mp inRange
    apply (same planned member).mpr
    rintro ⟨top, reach⟩
    exact none ⟨range, planned, ⟨m, member, top⟩, reach⟩

/-- A batch gives every metric what it is given alone, exactly when no range of either kind that
ends with the last register answers to that register. -/
theorem batch_agrees_iff (c : CollectorConfig) (modbus : c.protocol.isModbus = true)
    {metrics : List MetricConfig} (valid : ∀ m ∈ metrics, validateMetric c m = .ok ()) (d : Device) :
    Agrees d.reader metrics ↔
      ¬ TopRangeAnswers d.holding (classify metrics.zipIdx).holding ∧
        ¬ TopRangeAnswers d.input (classify metrics.zipIdx).input := by
  have checked : ∀ m ∈ metrics, ModbusMetric m := fun m member => modbus_metric (valid m member) modbus
  have entries : ∀ entry ∈ metrics.zipIdx, ModbusMetric entry.1 := fun entry member =>
    checked entry.1 (List.fst_mem_of_mem_zipIdx member)
  have present : ∀ m ∈ metrics, m.address.isSome := by
    intro m member
    obtain ⟨addr, found, -⟩ := (checked m member).address
    simp [found]
  obtain ⟨holding, input, -⟩ := classify_stands metrics.zipIdx
  have individual : ∀ w ∈ individualWrites d.reader (classify metrics.zipIdx).individual,
      SameOutcome w.outcome (single d.reader w.metric) := by
    intro w written
    obtain ⟨m, -, rfl⟩ := List.mem_map.mp written
    exact sameOutcome_refl _
  rw [agrees_iff_writes d.reader present,
    ← rangeWrites_agree d.reader.readHoldingRegisters holding entries
      (fun _ _ => rfl) fun item member => single_holding d (holding item member),
    ← rangeWrites_agree d.reader.readInputRegisters input entries
      (fun _ _ => rfl) fun item member => single_input d (input item member)]
  simp only [batchWrites, List.forall_mem_append]
  exact ⟨fun all => ⟨all.1, all.2.1⟩, fun both => ⟨both.1, both.2, individual⟩⟩

def topMetric : MetricConfig :=
  { name := "energy", metricType := .gauge, registerType := some .holding, address := some 65534,
    dataType := .u32 }

def meter : CollectorConfig :=
  { name := "meter", protocol := .modbusTcp "127.0.0.1:502", slaveId := some 1, metrics := [topMetric] }

def zeroDevice : Device where
  holding _ := some 0
  input _ := some 0
  coils _ := some false
  discretes _ := some false
  refuses addr count := ⟨s!"refused {addr} {count}", []⟩

def meterMetrics : List MetricConfig :=
  [{ topMetric with address := some 0 }, { topMetric with name := "power", address := some 2, dataType := .u16 },
    { topMetric with name := "peak", address := some 40, dataType := .f32 },
    { topMetric with name := "voltage", registerType := some .input, address := some 65532 },
    { topMetric with name := "relay", registerType := some .coil, address := some 65535, dataType := .bool }]

def gappedDevice : Device :=
  { zeroDevice with holding := fun addr => if 41 ≤ addr ∧ addr < 50 then none else some addr }

theorem batch_agrees_iff_meter : Agrees gappedDevice.reader meterMetrics := by
  have below {table : UInt16 → Option UInt16} {items : List IndexedMetric}
      (short : ∀ range ∈ coalesce (sortByAddr items), ∀ m ∈ range.members, m.top ≠ 65536) :
      ¬TopRangeAnswers table items := by
    rintro ⟨range, planned, ⟨m, member, top⟩, -⟩
    exact short range planned m member top
  exact (batch_agrees_iff meter rfl (by decide) gappedDevice).mpr ⟨below (by decide), below (by decide)⟩

theorem batch_top_register_differs :
    ¬ ∀ (c : CollectorConfig) (metrics : List MetricConfig) (d : Device),
      c.protocol.isModbus = true → (∀ m ∈ metrics, validateMetric c m = .ok ()) →
        Agrees d.reader metrics := by
  intro all
  have agree := all meter [topMetric] zeroDevice rfl (by decide)
  have batch : (batchReadCoalesced zeroDevice.reader [topMetric] ()).1.results =
      [(topMetric, .error
        ⟨"metric 'energy' register range [0..2) out of bounds (buffer len 1)", []⟩)] := by
    decide
  have alone : single zeroDevice.reader topMetric = .ok (0.0, 0.0) := by decide
  rw [Agrees, batch] at agree
  rcases (List.forall₂_cons.mp agree).1.2 with ⟨value, impossible, -⟩ | ⟨e, e', -, impossible⟩
  · cases impossible
  · rw [alone] at impossible
    cases impossible

end BusExporter.Modbus
