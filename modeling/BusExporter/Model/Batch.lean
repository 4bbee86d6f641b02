import BusExporter.Model.Decoder
import BusExporter.Model.Reader
import Mathlib.Data.List.Sort

/-! Batch reads with register coalescing (`reader/modbus/batch.rs`). The decoder is a parameter of
the readers here, as `decoder::decode` is the one function they call on registers. -/

namespace BusExporter.Modbus
open Lib Config

def maxRegistersPerRead : UInt16 := 125

def maxCoilsPerRead : UInt16 := 2000

def maxCoalesceGap : UInt16 := 10

def validateRegisterCount (count : UInt16) : Result Unit :=
  if count == 0 || maxRegistersPerRead < count then
    .error ⟨s!"register count {count} out of range (1..={maxRegistersPerRead})", []⟩
  else .ok ()

def validateCoilCount (count : UInt16) : Result Unit :=
  if count == 0 || maxCoilsPerRead < count then
    .error ⟨s!"coil/discrete count {count} out of range (1..={maxCoilsPerRead})", []⟩
  else .ok ()

structure ModbusReader (ρ : Type) where
  readHoldingRegisters : UInt16 → UInt16 → ρ → Result (List UInt16) × ρ
  readInputRegisters : UInt16 → UInt16 → ρ → Result (List UInt16) × ρ
  readCoils : UInt16 → UInt16 → ρ → Result (List Bool) × ρ
  readDiscreteInputs : UInt16 → UInt16 → ρ → Result (List Bool) × ρ

structure IndexedMetric where
  idx : Nat
  metric : MetricConfig
  addr : UInt16
  count : UInt16

/-- A merged range; `stop` is exclusive. -/
structure MergedRange where
  start : UInt16
  stop : UInt16
  members : List IndexedMetric

namespace MergedRange

def count (r : MergedRange) : UInt16 := r.stop - r.start

def single (item : IndexedMetric) : MergedRange :=
  ⟨item.addr, satAdd item.addr item.count, [item]⟩

def mergeable (last : MergedRange) (item : IndexedMetric) : Bool :=
  let itemEnd := satAdd item.addr item.count
  satSub item.addr last.stop ≤ maxCoalesceGap && satSub itemEnd last.start ≤ maxRegistersPerRead

def extend (last : MergedRange) (item : IndexedMetric) : MergedRange :=
  ⟨last.start, max last.stop (satAdd item.addr item.count), last.members ++ [item]⟩

end MergedRange

def coalesceFrom (last : MergedRange) : List IndexedMetric → List MergedRange
  | [] => [last]
  | item :: rest =>
      if last.mergeable item then coalesceFrom (last.extend item) rest
      else last :: coalesceFrom (.single item) rest

def coalesce : List IndexedMetric → List MergedRange
  | [] => []
  | item :: rest => coalesceFrom (.single item) rest

def sortByAddr (items : List IndexedMetric) : List IndexedMetric :=
  items.insertionSort fun a b => a.addr ≤ b.addr

abbrev Outcome := Result (Float × Float)

def noAddress (metric : MetricConfig) : Error := ⟨s!"metric '{metric.name}' has no address", []⟩

section
variable {ρ : Type} (decode : Decoder.RegisterDecoder)

def decodeMetric (metric : MetricConfig) (regs : List UInt16) (rangeStart : UInt16) : Outcome :=
  match metric.address with
  | none => .error (noAddress metric)
  | some addr =>
      if addr < rangeStart then
        .error ⟨s!"metric '{metric.name}' address {addr} is before range start {rangeStart}", []⟩
      else
        let offsetInBuf := addr.toNat - rangeStart.toNat
        let stop := offsetInBuf + metric.dataType.registerCount.toNat
        if regs.length < stop then
          .error ⟨s!"metric '{metric.name}' register range [{offsetInBuf}..{stop}) out of bounds (buffer len {regs.length})", []⟩
        else
          Decoder.decoded (decode ((regs.drop offsetInBuf).take (stop - offsetInBuf))
            (Decoder.mapDataType metric.dataType) (Decoder.mapByteOrder metric.byteOrder)
            metric.scale metric.offset)

def decodeRegisters (metric : MetricConfig) (reply : Result (List UInt16)) : Outcome := do
  let regs ← reply
  Decoder.decoded (decode regs (Decoder.mapDataType metric.dataType)
    (Decoder.mapByteOrder metric.byteOrder) metric.scale metric.offset)

def decodeBits (metric : MetricConfig) (empty : String) (reply : Result (List Bool)) : Outcome := do
  let bits ← reply
  match bits with
  | [] => .error ⟨empty, []⟩
  | val :: _ => .ok (Decoder.scaled (if val then 1.0 else 0.0) metric.scale metric.offset)

variable (reader : ModbusReader ρ)

def readSingle (metric : MetricConfig) (w : ρ) : Outcome × ρ :=
  match metric.address with
  | none => (.error (noAddress metric), w)
  | some addr =>
      let count := metric.dataType.registerCount
      match metric.registerType.getD .holding with
      | .holding =>
          let (regs, w) := reader.readHoldingRegisters addr count w
          (decodeRegisters decode metric regs, w)
      | .input =>
          let (regs, w) := reader.readInputRegisters addr count w
          (decodeRegisters decode metric regs, w)
      | .coil =>
          let (bits, w) := reader.readCoils addr 1 w
          (decodeBits metric "empty coil response" bits, w)
      | .discrete =>
          let (bits, w) := reader.readDiscreteInputs addr 1 w
          (decodeBits metric "empty discrete input response" bits, w)

structure BatchState (ρ : Type) where
  results : List (Option Outcome)
  readCount : Nat
  world : ρ

def BatchState.put (st : BatchState ρ) (idx : Nat) (outcome : Outcome) : BatchState ρ :=
  { st with results := st.results.set idx (some outcome) }

def readIndividually (st : BatchState ρ) (idx : Nat) (metric : MetricConfig) : BatchState ρ :=
  let (outcome, w) := readSingle decode reader metric st.world
  { st with readCount := st.readCount + 1, world := w }.put idx outcome

def readRange (readRegisters : UInt16 → UInt16 → ρ → Result (List UInt16) × ρ)
    (st : BatchState ρ) (range : MergedRange) : BatchState ρ :=
  let (reply, w) := readRegisters range.start range.count st.world
  let st := { st with readCount := st.readCount + 1, world := w }
  match reply with
  | .ok regs =>
      range.members.foldl (fun st member =>
        st.put member.idx (decodeMetric decode member.metric regs range.start)) st
  | .error _ =>
      range.members.foldl (fun st member =>
        readIndividually decode reader st member.idx member.metric) st

structure Classified where
  holding : List IndexedMetric
  input : List IndexedMetric
  individual : List (Nat × MetricConfig)
  results : List (Option Outcome)

def classify : List (MetricConfig × Nat) → Classified
  | [] => ⟨[], [], [], []⟩
  | (m, idx) :: rest =>
      let c := classify rest
      match m.address with
      | none => { c with results := some (.error (noAddress m)) :: c.results }
      | some addr =>
          let c := { c with results := none :: c.results }
          let item : IndexedMetric := ⟨idx, m, addr, m.dataType.registerCount⟩
          match m.registerType.getD .holding with
          | .holding => { c with holding := item :: c.holding }
          | .input => { c with input := item :: c.input }
          | .coil | .discrete => { c with individual := (idx, m) :: c.individual }

structure BatchReadResult where
  results : List (MetricConfig × Outcome)
  readCount : Nat

def notProcessed (metric : MetricConfig) : Error := ⟨s!"metric '{metric.name}' not processed", []⟩

def batchReads (c : Classified) (w : ρ) : BatchState ρ :=
  let st : BatchState ρ := ⟨c.results, 0, w⟩
  let st := (coalesce (sortByAddr c.holding)).foldl
    (readRange decode reader reader.readHoldingRegisters) st
  let st := (coalesce (sortByAddr c.input)).foldl
    (readRange decode reader reader.readInputRegisters) st
  c.individual.foldl (fun st m => readIndividually decode reader st m.1 m.2) st

def batchReadWith (metrics : List MetricConfig) (w : ρ) : BatchReadResult × ρ :=
  let st := batchReads decode reader (classify metrics.zipIdx) w
  let results := (metrics.zip st.results).map fun (m, r) => (m, r.getD (.error (notProcessed m)))
  (⟨results, st.readCount⟩, st.world)

def batchReadCoalesced : List MetricConfig → ρ → BatchReadResult × ρ :=
  batchReadWith Decoder.decode reader

end

end BusExporter.Modbus
