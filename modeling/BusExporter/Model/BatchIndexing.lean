import BusExporter.Model.Batch

/-! `reader/modbus/batch.rs` with its slices and indices as they are written there: outside the list
they panic. -/

namespace BusExporter.Modbus.Indexing
open Lib Config

section Lists
variable {α : Type}

def slice (l : List α) (start stop : Nat) : Except Panic (List α) :=
  if start ≤ stop ∧ stop ≤ l.length then .ok ((l.drop start).take (stop - start))
  else .error .sliceOutOfRange

def get (l : List α) (i : Nat) : Except Panic α :=
  match l[i]? with
  | some a => .ok a
  | none => .error .sliceOutOfRange

def set (l : List α) (i : Nat) (a : α) : Except Panic (List α) :=
  if i < l.length then .ok (l.set i a) else .error .sliceOutOfRange

end Lists

def decodeMetric (decode : Decoder.RegisterDecoder) (metric : MetricConfig) (regs : List UInt16)
    (rangeStart : UInt16) : Except Panic Outcome :=
  match metric.address with
  | none => .ok (.error (noAddress metric))
  | some addr =>
      if addr < rangeStart then
        .ok (.error ⟨s!"metric '{metric.name}' address {addr} is before range start {rangeStart}", []⟩)
      else
        let offsetInBuf := addr.toNat - rangeStart.toNat
        let stop := offsetInBuf + metric.dataType.registerCount.toNat
        if regs.length < stop then
          .ok (.error ⟨s!"metric '{metric.name}' register range [{offsetInBuf}..{stop}) out of bounds (buffer len {regs.length})", []⟩)
        else do
          let slice ← slice regs offsetInBuf stop
          .ok (Decoder.decoded (decode slice (Decoder.mapDataType metric.dataType)
            (Decoder.mapByteOrder metric.byteOrder) metric.scale metric.offset))

section
variable {ρ : Type} (decode : Decoder.RegisterDecoder) (reader : ModbusReader ρ)

def put (st : BatchState ρ) (idx : Nat) (outcome : Outcome) : Except Panic (BatchState ρ) := do
  let results ← set st.results idx (some outcome)
  .ok { st with results }

def readIndividually (st : BatchState ρ) (idx : Nat) (metric : MetricConfig) :
    Except Panic (BatchState ρ) :=
  let (outcome, w) := readSingle decode reader metric st.world
  put { st with readCount := st.readCount + 1, world := w } idx outcome

def readRange (readRegisters : UInt16 → UInt16 → ρ → Result (List UInt16) × ρ)
    (st : BatchState ρ) (range : MergedRange) : Except Panic (BatchState ρ) :=
  let (reply, w) := readRegisters range.start range.count st.world
  let st := { st with readCount := st.readCount + 1, world := w }
  match reply with
  | .ok regs =>
      range.members.foldlM (fun st member => do
        let outcome ← decodeMetric decode member.metric regs range.start
        put st member.idx outcome) st
  | .error _ =>
      range.members.foldlM (fun st member =>
        readIndividually decode reader st member.idx member.metric) st

def classifyNext (c : Classified) (entry : MetricConfig × Nat) : Except Panic Classified :=
  let (m, idx) := entry
  match m.address with
  | none => do
      let results ← set c.results idx (some (.error (noAddress m)))
      .ok { c with results }
  | some addr =>
      let item : IndexedMetric := ⟨idx, m, addr, m.dataType.registerCount⟩
      match m.registerType.getD .holding with
      | .holding => .ok { c with holding := c.holding ++ [item] }
      | .input => .ok { c with input := c.input ++ [item] }
      | .coil | .discrete => .ok { c with individual := c.individual ++ [(idx, m)] }

def classify (metrics : List MetricConfig) : Except Panic Classified :=
  metrics.zipIdx.foldlM classifyNext ⟨[], [], [], List.replicate metrics.length none⟩

def batchReads (c : Classified) (w : ρ) : Except Panic (BatchState ρ) := do
  let st : BatchState ρ := ⟨c.results, 0, w⟩
  let st ← (coalesce (sortByAddr c.holding)).foldlM
    (readRange decode reader reader.readHoldingRegisters) st
  let st ← (coalesce (sortByAddr c.input)).foldlM
    (readRange decode reader reader.readInputRegisters) st
  c.individual.foldlM (fun st m => readIndividually decode reader st m.1 m.2) st

def batchReadWith (metrics : List MetricConfig) (w : ρ) : Except Panic (BatchReadResult × ρ) := do
  let c ← classify metrics
  let st ← batchReads decode reader c w
  let results ← metrics.zipIdx.mapM fun (m, idx) => do
    let r ← get st.results idx
    .ok (m, r.getD (.error (notProcessed m)))
  .ok (⟨results, st.readCount⟩, st.world)

def batchReadCoalesced : List MetricConfig → ρ → Except Panic (BatchReadResult × ρ) :=
  batchReadWith Decoder.decode reader

end

end BusExporter.Modbus.Indexing
