import BusExporter.Proof.BatchEquivalence
import BusExporter.Proof.Requests

/-! How many results of a batch fail, against how many requests it made. A range that is answered pays
for one failure; a range that is refused pays for all its members, as each is asked for again. -/

namespace BusExporter

def failed {α : Type} : Result α → Bool
  | .ok _ => false
  | .error _ => true

namespace Modbus
open Lib Config

variable {ρ : Type}

structure Charged (st st' : BatchState ρ) (writes : List (Nat × Outcome)) (spare lost : Nat) : Prop where
  results : st'.results = assign (writes.map fun w => (w.1, some w.2)) st.results
  count : writes.countP (failed ·.2) + spare + st.readCount ≤ lost + st'.readCount

theorem Charged.append {st st' st'' : BatchState ρ} {writes writes' : List (Nat × Outcome)}
    {spare lost spare' lost' : Nat} (first : Charged st st' writes spare lost)
    (second : Charged st' st'' writes' spare' lost') :
    Charged st st'' (writes ++ writes') (spare + spare') (lost + lost') where
  results := by rw [List.map_append, assign_append, ← first.results, second.results]
  count := by
    have := first.count
    have := second.count
    rw [List.countP_append]
    omega

theorem charged_refl (st : BatchState ρ) : Charged st st [] 0 0 where
  results := rfl
  count := by simp

section Reads
variable (reader : ModbusReader ρ)

theorem readAlone_charged {α : Type} (place : α → Nat × MetricConfig) (l : List α) (st : BatchState ρ) :
    ∃ writes, writes.map Prod.fst = l.map (fun a => (place a).1) ∧
      Charged st (l.foldl (fun st a =>
        readIndividually Decoder.decode reader st (place a).1 (place a).2) st) writes 0 0 := by
  induction l generalizing st with
  | nil => exact ⟨[], rfl, charged_refl st⟩
  | cons a l ih =>
      obtain ⟨writes, keys, rest⟩ := ih (readIndividually Decoder.decode reader st (place a).1 (place a).2)
      have first : Charged st (readIndividually Decoder.decode reader st (place a).1 (place a).2)
          [((place a).1, (readSingle Decoder.decode reader (place a).2 st.world).1)] 0 0 := by
        refine ⟨rfl, ?_⟩
        change _ ≤ 0 + (st.readCount + 1)
        rw [List.countP_singleton]
        split_ifs <;> omega
      exact ⟨_ :: writes, by rw [List.map_cons, List.map_cons, keys], first.append rest⟩

def Exact (readRegisters : UInt16 → UInt16 → ρ → Result (List UInt16) × ρ) : Prop :=
  ∀ addr count w regs w', addr.toNat + count.toNat ≤ 65536 →
    readRegisters addr count w = (.ok regs, w') → 0 < count.toNat ∧ regs.length = count.toNat

def MergedRange.lost (r : MergedRange) : Nat :=
  if r.count = 0 then 0 else r.members.countP fun m => m.top = 65536

structure Fits (m : IndexedMetric) : Prop where
  address : m.metric.address = some m.addr
  count : m.count = m.metric.dataType.registerCount
  within : m.top ≤ 65536

theorem decodeMetric_reached {r : MergedRange} (spans : r.Spans) {m : IndexedMetric} (fits : Fits m)
    (member : m ∈ r.members) (below : m.top ≠ 65536) {regs : List UInt16}
    (full : regs.length = r.count.toNat) :
    failed (decodeMetric Decoder.decode m.metric regs r.start) = false := by
  obtain ⟨order, width⟩ := spans.count_toNat
  have low := spans.after m member
  have reached := spans.before m member
  have within := fits.within
  have size : m.top = m.addr.toNat + m.metric.dataType.registerCount.toNat := by
    rw [IndexedMetric.top, fits.count]
  have long : m.metric.dataType.registerCount.toNat ≤
      ((regs.drop (m.addr.toNat - r.start.toNat)).take
        m.metric.dataType.registerCount.toNat).length := by
    rw [List.length_take, List.length_drop]
    omega
  obtain ⟨value, decoded⟩ := decodeRegisters_ok m.metric long
  rw [decodeMetric_inside fits.address low (by omega), decoded]
  rfl

theorem readRange_charged {readRegisters : UInt16 → UInt16 → ρ → Result (List UInt16) × ρ}
    (full : Exact readRegisters) {r : MergedRange} (spans : r.Spans) (fits : ∀ m ∈ r.members, Fits m)
    (st : BatchState ρ) :
    ∃ writes, writes.map Prod.fst = r.members.map (·.idx) ∧
      Charged st (readRange Decoder.decode reader readRegisters st r) writes 1 r.lost := by
  obtain ⟨order, width⟩ := spans.count_toNat
  have small := r.stop.toNat_lt
  unfold readRange
  cases answered : readRegisters r.start r.count st.world with
  | mk reply w =>
      let asked : BatchState ρ := { st with readCount := st.readCount + 1, world := w }
      cases reply with
      | ok regs =>
          obtain ⟨positive, long⟩ := full r.start r.count st.world regs w (by omega) answered
          let writes := r.members.map fun m =>
            (m.idx, decodeMetric Decoder.decode m.metric regs r.start)
          have decoding (members : List IndexedMetric) (st : BatchState ρ) :
              members.foldl (fun st m => st.put m.idx (decodeMetric Decoder.decode m.metric regs r.start))
                  st =
                { st with results := assign (members.map fun m =>
                    (m.idx, some (decodeMetric Decoder.decode m.metric regs r.start))) st.results } := by
            induction members generalizing st with
            | nil => rfl
            | cons m members ih =>
                rw [List.foldl_cons, ih]
                rfl
          refine ⟨writes, by simp [writes], ?_, ?_⟩
          · simp only [decoding, writes, List.map_map]
            rfl
          · have failures : writes.countP (failed ·.2) ≤ r.lost := by
              have asks : r.count ≠ 0 := fun none => by simp [none] at positive
              rw [MergedRange.lost, if_neg asks, List.countP_map]
              apply List.countP_mono_left
              intro m member lost
              by_contra notTop
              have reached := decodeMetric_reached spans (fits m member) member (by simpa using notTop) long
              simp [reached] at lost
            simp only [decoding]
            omega
      | error e =>
          -- every member is paid for by the request it is asked for with again
          obtain ⟨writes, keys, charged⟩ := readAlone_charged reader
            (fun m : IndexedMetric => (m.idx, m.metric)) r.members asked
          refine ⟨writes, keys, charged.results, ?_⟩
          have count := charged.count
          simp only [asked] at count ⊢
          omega

theorem readRanges_charged {readRegisters : UInt16 → UInt16 → ρ → Result (List UInt16) × ρ}
    (full : Exact readRegisters) {ranges : List MergedRange} (spans : ∀ r ∈ ranges, r.Spans)
    (fits : ∀ r ∈ ranges, ∀ m ∈ r.members, Fits m) (st : BatchState ρ) :
    ∃ writes, writes.map Prod.fst = (ranges.flatMap (·.members)).map (·.idx) ∧
      Charged st (ranges.foldl (readRange Decoder.decode reader readRegisters) st) writes ranges.length
        (ranges.map (·.lost)).sum := by
  induction ranges generalizing st with
  | nil => exact ⟨[], rfl, charged_refl st⟩
  | cons r ranges ih =>
      obtain ⟨first, firstKeys, here⟩ :=
        readRange_charged reader full (spans r (by simp)) (fits r (by simp)) st
      obtain ⟨rest, restKeys, later⟩ := ih (fun r member => spans r (by simp [member]))
        (fun r member => fits r (by simp [member])) (readRange Decoder.decode reader readRegisters st r)
      refine ⟨first ++ rest, ?_, ?_⟩
      · rw [List.map_append, firstKeys, restKeys, List.flatMap_cons, List.map_append]
      · rw [List.length_cons, Nat.add_comm, List.map_cons, List.sum_cons]
        exact here.append later

end Reads

def Plan.ranges (p : Plan) : List MergedRange := p.holding ++ p.input

/-- How many metrics are lost in a poll whose ranges are all answered in full. -/
def Plan.lost (p : Plan) : Nat := (p.ranges.map (·.lost)).sum

section Batch
variable {metrics : List MetricConfig} (valid : ∀ m ∈ metrics, ModbusMetric m)
include valid

theorem stands_fits {kind : RegisterType} {items : List IndexedMetric}
    (stands : ∀ item ∈ items, Stands metrics.zipIdx kind item) {r : MergedRange}
    (planned : r ∈ coalesce (sortByAddr items)) : ∀ m ∈ r.members, Fits m := by
  intro m member
  have standing := stands m (mem_of_planned planned member)
  obtain ⟨addr, address, within⟩ := (valid m.metric (planned_metric stands planned member)).address
  obtain rfl : m.addr = addr := Option.some.inj (standing.address.symm.trans address)
  exact ⟨address, standing.count, by rw [IndexedMetric.top, standing.count]; exact within⟩

theorem addresses_present : ∀ m ∈ metrics, m.address.isSome := by
  intro m member
  obtain ⟨addr, address, -⟩ := (valid m member).address
  simp [address]

variable (reader : ModbusReader ρ) (holding : Exact reader.readHoldingRegisters)
  (input : Exact reader.readInputRegisters)
include holding input

theorem batchReads_charged (w : ρ) :
    ∃ writes, (writes.map Prod.fst).Perm (classify metrics.zipIdx).keys ∧
      Charged ⟨(classify metrics.zipIdx).results, 0, w⟩
        (batchReads Decoder.decode reader (classify metrics.zipIdx) w) writes
        (plan metrics).ranges.length (plan metrics).lost := by
  obtain ⟨inHolding, inInput, -⟩ := classify_stands metrics.zipIdx
  obtain ⟨first, firstKeys, one⟩ := readRanges_charged reader holding
    (planned_spans inHolding) (fun r => stands_fits valid inHolding)
    ⟨(classify metrics.zipIdx).results, 0, w⟩
  obtain ⟨second, secondKeys, two⟩ := readRanges_charged reader input
    (planned_spans inInput) (fun r => stands_fits valid inInput) _
  obtain ⟨third, thirdKeys, three⟩ := readAlone_charged reader id (classify metrics.zipIdx).individual _
  refine ⟨first ++ (second ++ third), ?_, ?_⟩
  · rw [List.map_append, List.map_append, firstKeys, secondKeys, thirdKeys, coalesce_members,
      coalesce_members]
    exact ((sortByAddr_perm _).map _).append (((sortByAddr_perm _).map _).append (.refl _))
  · have whole := one.append (two.append three)
    rw [Plan.lost, Plan.ranges, List.length_append, List.map_append, List.sum_append]
    exact whole

theorem batch_failures_le (few : (plan metrics).lost ≤ (plan metrics).ranges.length) (w : ρ) :
    (batchReadCoalesced reader metrics w).1.results.countP (failed ·.2) ≤
      (batchReadCoalesced reader metrics w).1.readCount := by
  obtain ⟨writes, keys, charged⟩ := batchReads_charged valid reader holding input w
  let st := batchReads Decoder.decode reader (classify metrics.zipIdx) w
  let lost : Option Outcome → Bool := fun r => r.any failed
  have results : st.results = _ := charged.results
  have width : (classify metrics.zipIdx).results.length = metrics.length := by
    rw [length_classify_results, List.length_zipIdx]
  have settled : ∀ r ∈ st.results, r.isSome := by
    intro r member
    obtain ⟨i, inside, rfl⟩ := List.getElem_of_mem member
    have position : i < metrics.length := by
      rwa [results, length_assign, width] at inside
    have written : i ∈ writes.map Prod.fst :=
      keys.mem_iff.mpr ((mem_classify_keys (addresses_present valid)).mpr position)
    obtain ⟨write, inWrites, rfl⟩ := List.mem_map.mp written
    have entries : ((writes.map fun w => (w.1, some w.2)).map Prod.fst).Nodup := by
      rw [List.map_map]
      exact keys.nodup_iff.mpr (classify_keys_nodup metrics)
    have inOpen : write.1 < (classify metrics.zipIdx).results.length := by rwa [width]
    have stored := assign_written entries (List.mem_map_of_mem inWrites) inOpen
    rw [← results] at stored
    obtain ⟨_, value⟩ := List.getElem?_eq_some_iff.mp stored
    rw [value]
    rfl
  have long : st.results.length ≤ metrics.length := by rw [results, length_assign, width]
  have outcomes : (batchReadCoalesced reader metrics w).1.results.countP (failed ·.2) =
      st.results.countP lost := by
    change ((metrics.zip st.results).map fun entry => (entry.1, entry.2.getD (.error (notProcessed entry.1)))).countP
      (failed ·.2) = _
    conv_rhs => rw [← List.map_snd_zip long]
    rw [List.countP_map, List.countP_map]
    apply List.countP_congr
    intro entry member
    obtain ⟨m, r⟩ := entry
    obtain ⟨outcome, rfl⟩ := Option.isSome_iff_exists.mp (settled r (List.of_mem_zip member).2)
    rfl
  have unwritten : (classify metrics.zipIdx).results.countP lost = 0 := by
    rw [List.countP_eq_zero]
    intro r member
    rw [classify_open (fun e inList =>
      addresses_present valid e.1 (List.fst_mem_of_mem_zipIdx inList)) r member]
    simp [lost]
  have failures := countP_assign_le lost (writes.map fun w => (w.1, some w.2))
    (classify metrics.zipIdx).results
  rw [List.countP_map, ← results, unwritten] at failures
  have count := charged.count
  change _ ≤ _ + st.readCount at count
  change _ ≤ st.readCount
  rw [outcomes]
  change _ ≤ 0 + writes.countP (failed ·.2) at failures
  simp only at count
  omega

end Batch

variable {κ ω : Type}

/-- Devices that answer a legal request with the registers asked for, or with an error. -/
structure AnswersExactly (lib : TokioModbus κ ω) : Prop where
  holding : ∀ addr count ctx w regs ctx' w', (Request.holdingRegisters addr count).Legal →
    lib.call (.holdingRegisters addr count) ctx w = (.data regs, ctx', w') → regs.length = count.toNat
  input : ∀ addr count ctx w regs ctx' w', (Request.inputRegisters addr count).Legal →
    lib.call (.inputRegisters addr count) ctx w = (.data regs, ctx', w') → regs.length = count.toNat

theorem validateRegisterCount_ok {count : UInt16} (ok : validateRegisterCount count = .ok ()) :
    1 ≤ count.toNat ∧ count.toNat ≤ 125 := by
  unfold validateRegisterCount at ok
  split_ifs at ok with outside
  simp only [Bool.or_eq_true, beq_iff_eq, decide_eq_true_eq, not_or, UInt16.not_lt] at outside
  obtain ⟨some, most⟩ := outside
  have positive : count.toNat ≠ 0 := fun zero => some (UInt16.toNat_inj.mp zero)
  have limit := UInt16.le_iff_toNat_le.mp most
  exact ⟨by omega, limit⟩

theorem request_answered {lib : TokioModbus κ ω} {label : String} {addr count : UInt16}
    {check : Result Unit} {request : Request} {s s' : ModbusMetricReader κ × ω}
    {value : request.Response}
    (read : ModbusMetricReader.request lib label addr count check request s = (.ok value, s')) :
    check = .ok () ∧ ∃ ctx w ctx' w', lib.call request ctx w = (.data value, ctx', w') := by
  unfold ModbusMetricReader.request at read
  cases check with
  | error e => cases read
  | ok checked =>
      cases context : s.1.context with
      | none => simp [context] at read
      | some ctx =>
          refine ⟨rfl, ctx, s.2, ?_⟩
          simp only [context, Prod.mk.injEq] at read
          have answered : ModbusMetricReader.answer label _ (lib.call request ctx s.2).1 = .ok value :=
            read.1
          cases called : lib.call request ctx s.2 with
          | mk reply rest =>
              rw [called] at answered
              cases reply with
              | data found =>
                  cases answered
                  exact ⟨rest.1, rest.2, rfl⟩
              | _ => cases answered

theorem exact_holding {lib : TokioModbus κ ω} (answers : AnswersExactly lib) :
    Exact (ModbusMetricReader.modbusReader lib).readHoldingRegisters := by
  intro addr count s regs s' space read
  obtain ⟨checked, ctx, w, ctx', w', called⟩ := request_answered read
  obtain ⟨positive, most⟩ := validateRegisterCount_ok checked
  exact ⟨positive, answers.holding addr count ctx w regs ctx' w' ⟨positive, most, space⟩ called⟩

theorem exact_input {lib : TokioModbus κ ω} (answers : AnswersExactly lib) :
    Exact (ModbusMetricReader.modbusReader lib).readInputRegisters := by
  intro addr count s regs s' space read
  obtain ⟨checked, ctx, w, ctx', w', called⟩ := request_answered read
  obtain ⟨positive, most⟩ := validateRegisterCount_ok checked
  exact ⟨positive, answers.input addr count ctx w regs ctx' w' ⟨positive, most, space⟩ called⟩

theorem read_failures_le {lib : TokioModbus κ ω} (answers : AnswersExactly lib)
    {s s' : ModbusMetricReader κ × ω} (valid : ∀ m ∈ s.1.metrics, ModbusMetric m)
    (few : (plan s.1.metrics).lost ≤ (plan s.1.metrics).ranges.length)
    {cancelled : ModbusMetricReader κ × ω → Bool} {read : ReadResults}
    (done : (ModbusMetricReader.metricReader lib).read cancelled s = .ok (read, s')) :
    read.metrics.entries.countP (failed ·.2) ≤ read.ioCount := by
  cases done
  have collected := HashMap.countP_foldl_insert_le failed (fun r : MetricConfig × Outcome => r.1.name)
    (·.2) (batchReadCoalesced (ModbusMetricReader.modbusReader lib) s.1.metrics s).1.results ∅
  have failures := batch_failures_le valid (ModbusMetricReader.modbusReader lib)
    (exact_holding answers) (exact_input answers) few s
  simp only [AList.empty_entries, List.countP_nil, Nat.zero_add] at collected
  exact collected.trans failures

end Modbus
end BusExporter
