import BusExporter.Model.Factory
import BusExporter.Proof.Classify
import BusExporter.Proof.Coalesce
import BusExporter.Proof.Validated

/-! What validation buys the readers: the factories do not panic, addresses are present and fit, and
no read depends on the branches of the decoder that have no meaning for its bus. -/

namespace BusExporter
open Lib Config

section Factories
variable {κ ω : Type} (platform : Platform κ ω)

theorem create_ok {c : CollectorConfig}
    (modes : ∀ bus pid address deviceClass instance_,
      c.protocol = .i3c bus pid address deviceClass instance_ →
        ∃ mode, addressMode pid address deviceClass instance_ = .ok mode) (w : ω) :
    ∃ r, create platform c w = .ok r := by
  unfold create
  cases protocol : c.protocol with
  | i3c bus pid address deviceClass instance_ =>
      obtain ⟨mode, found⟩ := modes bus pid address deviceClass instance_ protocol
      simp only [found]
      exact ⟨_, rfl⟩
  | _ => exact ⟨_, rfl⟩

theorem createWriter_ok {c : CollectorConfig}
    (modes : ∀ bus pid address deviceClass instance_,
      c.protocol = .i3c bus pid address deviceClass instance_ →
        ∃ mode, addressMode pid address deviceClass instance_ = .ok mode) (w : ω) :
    ∃ r, createWriter platform c w = .ok r := by
  unfold createWriter
  split_ifs
  · exact ⟨_, rfl⟩
  · cases protocol : c.protocol with
    | i3c bus pid address deviceClass instance_ =>
        obtain ⟨mode, found⟩ := modes bus pid address deviceClass instance_ protocol
        simp only [found]
        exact ⟨_, rfl⟩
    | _ => exact ⟨_, rfl⟩

end Factories

structure FactoriesSafe (c : CollectorConfig) : Prop where
  unwraps : ∀ bus pid address deviceClass instance_,
    c.protocol = .i3c bus pid address deviceClass instance_ → pid = none → address = none →
      deviceClass.isSome ∧ instance_.isSome
  create : ∀ {κ ω : Type} (platform : Platform κ ω) (w : ω), ∃ r, create platform c w = .ok r
  createWriter : ∀ {κ ω : Type} (platform : Platform κ ω) (w : ω),
    ∃ r, createWriter platform c w = .ok r

theorem i3c_modes {c : CollectorConfig} (valid : validateProtocol c = .ok ())
    {bus : String} {pid : Option String} {address : Option UInt8} {deviceClass : Option String}
    {instance_ : Option UInt8} (protocol : c.protocol = .i3c bus pid address deviceClass instance_)
    (noPid : pid = none) (noAddress : address = none) :
    deviceClass.isSome ∧ instance_.isSome := by
  simp only [validateProtocol, protocol, andThen_ok, bailIf_ok] at valid
  obtain ⟨-, -, one, together, -⟩ := valid
  subst noPid noAddress
  cases deviceClass <;> cases instance_ <;> simp at one together ⊢

theorem factories_safe {c : CollectorConfig} (valid : validateProtocol c = .ok ()) :
    FactoriesSafe c := by
  have modes : ∀ bus pid address deviceClass instance_,
      c.protocol = .i3c bus pid address deviceClass instance_ →
        ∃ mode, addressMode pid address deviceClass instance_ = .ok mode := by
    intro bus pid address deviceClass instance_ protocol
    cases pid with
    | some pid => exact ⟨_, rfl⟩
    | none =>
        cases address with
        | some addr => exact ⟨_, rfl⟩
        | none =>
            obtain ⟨hasClass, hasInstance⟩ := i3c_modes valid protocol rfl rfl
            obtain ⟨class_, rfl⟩ := Option.isSome_iff_exists.mp hasClass
            obtain ⟨n, rfl⟩ := Option.isSome_iff_exists.mp hasInstance
            exact ⟨_, rfl⟩
  constructor
  · intro bus pid address deviceClass instance_ protocol
    exact i3c_modes valid protocol
  · intro κ ω platform w
    exact create_ok platform modes w
  · intro κ ω platform w
    exact createWriter_ok platform modes w

def AddressFits (m : MetricConfig) : Prop :=
  ∃ addr, m.address = some addr ∧ addr.toUInt8.toNat = addr.toNat

theorem address_fits {m : MetricConfig} (valid : RegisterMetric m) : AddressFits m := by
  obtain ⟨addr, found, small⟩ := valid.address
  refine ⟨addr, found, ?_⟩
  rw [UInt16.toNat_toUInt8]
  omega

namespace Modbus

def AgreeOnWords (decode decode' : Decoder.RegisterDecoder) : Prop :=
  ∀ registers dataType byteOrder scale offset, dataType ≠ .bool → dataType ≠ .u8 →
    decode' registers dataType byteOrder scale offset = decode registers dataType byteOrder scale offset

theorem notBool_of_word {m : MetricConfig} (valid : ModbusMetric m)
    (word : isBit (m.registerType.getD .holding) = false) : m.dataType ≠ .bool := by
  intro bool
  rw [valid.bits.mpr bool] at word
  cases word

section Decoders
variable {decode decode' : Decoder.RegisterDecoder} (agree : AgreeOnWords decode decode')
include agree

theorem agree_mapped {dataType : DataType} (notBool : dataType ≠ .bool) (wide : dataType ≠ .u8)
    (registers : List UInt16) (byteOrder : Decoder.ByteOrder) (scale offset : Float) :
    decode' registers (Decoder.mapDataType dataType) byteOrder scale offset =
      decode registers (Decoder.mapDataType dataType) byteOrder scale offset := by
  apply agree
  · cases dataType <;> simp [Decoder.mapDataType] at notBool ⊢
  · cases dataType <;> simp [Decoder.mapDataType] at wide ⊢

theorem decodeMetric_agree {m : MetricConfig} (notBool : m.dataType ≠ .bool)
    (wide : m.dataType ≠ .u8) (regs : List UInt16) (rangeStart : UInt16) :
    decodeMetric decode' m regs rangeStart = decodeMetric decode m regs rangeStart := by
  simp only [decodeMetric, agree_mapped agree notBool wide]

variable {ρ : Type} (reader : ModbusReader ρ)

theorem readSingle_agree {m : MetricConfig} (valid : ModbusMetric m) (w : ρ) :
    readSingle decode' reader m w = readSingle decode reader m w := by
  have words (reply : Result (List UInt16)) (word : isBit (m.registerType.getD .holding) = false) :
      decodeRegisters decode' m reply = decodeRegisters decode m reply := by
    simp only [decodeRegisters, agree_mapped agree (notBool_of_word valid word) valid.wide]
  unfold readSingle
  cases m.address with
  | none => rfl
  | some addr =>
      cases kind : m.registerType.getD .holding with
      | holding => simp only [words _ (show isBit _ = false by rw [kind]; rfl)]
      | input => simp only [words _ (show isBit _ = false by rw [kind]; rfl)]
      | coil => rfl
      | discrete => rfl

theorem readIndividually_agree {m : MetricConfig} (valid : ModbusMetric m) (st : BatchState ρ)
    (idx : Nat) : readIndividually decode' reader st idx m = readIndividually decode reader st idx m := by
  simp only [readIndividually, readSingle_agree agree reader valid]

theorem readRange_agree {range : MergedRange}
    (valid : ∀ m ∈ range.members, ModbusMetric m.metric ∧ m.metric.dataType ≠ .bool)
    (readRegisters : UInt16 → UInt16 → ρ → Result (List UInt16) × ρ) (st : BatchState ρ) :
    readRange decode' reader readRegisters st range = readRange decode reader readRegisters st range := by
  unfold readRange
  rcases readRegisters range.start range.count st.world with ⟨e | regs, w⟩
  · apply List.foldl_ext
    intro st m member
    exact readIndividually_agree agree reader (valid m member).1 st m.idx
  · apply List.foldl_ext
    intro st m member
    rw [decodeMetric_agree agree (valid m member).2 (valid m member).1.wide]

theorem readRanges_agree {l : List (MetricConfig × Nat)} {kind : RegisterType}
    {items : List IndexedMetric} (stands : ∀ item ∈ items, Stands l kind item)
    (word : isBit kind = false) (valid : ∀ entry ∈ l, ModbusMetric entry.1)
    (readRegisters : UInt16 → UInt16 → ρ → Result (List UInt16) × ρ) (st : BatchState ρ) :
    (coalesce (sortByAddr items)).foldl (readRange decode' reader readRegisters) st =
      (coalesce (sortByAddr items)).foldl (readRange decode reader readRegisters) st := by
  apply List.foldl_ext
  intro st range planned
  apply readRange_agree agree reader
  intro m member
  have item := mem_of_planned planned member
  have checked := valid _ (stands m item).member
  exact ⟨checked, notBool_of_word checked (by rw [(stands m item).kind]; exact word)⟩

theorem batchReadWith_agree {metrics : List MetricConfig} (valid : ∀ m ∈ metrics, ModbusMetric m)
    (w : ρ) : batchReadWith decode' reader metrics w = batchReadWith decode reader metrics w := by
  obtain ⟨holding, input, individual⟩ := classify_stands metrics.zipIdx
  have entries : ∀ entry ∈ metrics.zipIdx, ModbusMetric entry.1 := fun entry member =>
    valid entry.1 (List.fst_mem_of_mem_zipIdx member)
  have reads : batchReads decode' reader (classify metrics.zipIdx) w =
      batchReads decode reader (classify metrics.zipIdx) w := by
    unfold batchReads
    simp only [readRanges_agree agree reader holding rfl entries,
      readRanges_agree agree reader input rfl entries]
    apply List.foldl_ext
    intro st entry member
    exact readIndividually_agree agree reader (entries _ (individual entry member).member) st entry.1
  simp only [batchReadWith, reads]

end Decoders

def ReadAsBit (m : MetricConfig) : Prop :=
  ∃ addr, m.address = some addr ∧
    ((∀ {ρ : Type} (decode : Decoder.RegisterDecoder) (reader : ModbusReader ρ) (w : ρ),
        readSingle decode reader m w =
          (reader.readCoils addr 1 w).map (decodeBits m "empty coil response") id) ∨
      ∀ {ρ : Type} (decode : Decoder.RegisterDecoder) (reader : ModbusReader ρ) (w : ρ),
        readSingle decode reader m w =
          (reader.readDiscreteInputs addr 1 w).map (decodeBits m "empty discrete input response") id)

theorem read_as_bit {m : MetricConfig} (valid : ModbusMetric m) (bool : m.dataType = .bool) :
    ReadAsBit m := by
  obtain ⟨addr, found, -⟩ := valid.address
  have bit := valid.bits.mpr bool
  refine ⟨addr, found, ?_⟩
  cases kind : m.registerType.getD .holding with
  | holding => simp [kind, isBit] at bit
  | input => simp [kind, isBit] at bit
  | coil =>
      left
      intro ρ decode reader w
      simp only [readSingle, found, kind]
      rfl
  | discrete =>
      right
      intro ρ decode reader w
      simp only [readSingle, found, kind]
      rfl

structure BatchSafe (metrics : List MetricConfig) : Prop where
  addresses : ∀ m ∈ metrics, m.address.isSome
  classified : (classify metrics.zipIdx).results = metrics.map fun _ => none
  words : ∀ {ρ : Type} (decode : Decoder.RegisterDecoder) (reader : ModbusReader ρ) (w : ρ),
    AgreeOnWords Decoder.decode decode →
      batchReadWith decode reader metrics w = batchReadCoalesced reader metrics w
  bits : ∀ m ∈ metrics, m.dataType = .bool → ReadAsBit m
  apart : ∀ item ∈ (classify metrics.zipIdx).holding ++ (classify metrics.zipIdx).input,
    item.metric.dataType ≠ .bool

theorem batch_safe {metrics : List MetricConfig} (valid : ∀ m ∈ metrics, ModbusMetric m) :
    BatchSafe metrics := by
  obtain ⟨holding, input, -⟩ := classify_stands metrics.zipIdx
  have entries : ∀ entry ∈ metrics.zipIdx, ModbusMetric entry.1 := fun entry member =>
    valid entry.1 (List.fst_mem_of_mem_zipIdx member)
  have present : ∀ m ∈ metrics, m.address.isSome := by
    intro m member
    obtain ⟨addr, found, -⟩ := (valid m member).address
    simp [found]
  have notBool {kind : RegisterType} (word : isBit kind = false) {item : IndexedMetric}
      (stands : Stands metrics.zipIdx kind item) : item.metric.dataType ≠ .bool :=
    notBool_of_word (entries _ stands.member) (by rw [stands.kind]; exact word)
  constructor
  · exact present
  · have each : ∀ m ∈ metrics.zipIdx, m.1.address.isSome := fun entry member =>
      present entry.1 (List.fst_mem_of_mem_zipIdx member)
    have width : (classify metrics.zipIdx).results.length = metrics.length := by
      rw [length_classify_results, List.length_zipIdx]
    rw [List.map_const', ← width]
    exact List.eq_replicate_of_mem (classify_open each)
  · intro ρ decode reader w agree
    exact batchReadWith_agree agree reader valid w
  · intro m member bool
    exact read_as_bit (valid m member) bool
  · intro item member
    rcases List.mem_append.mp member with inHolding | inInput
    · exact notBool rfl (holding item inHolding)
    · exact notBool rfl (input item inInput)

end Modbus

def AgreeOnPlain (decodeBytes decodeBytes' : Decoder.ByteDecoder) : Prop :=
  ∀ bytes dataType byteOrder scale offset, byteOrder ≠ .midBigEndian → byteOrder ≠ .midLittleEndian →
    decodeBytes' bytes dataType byteOrder scale offset =
      decodeBytes bytes dataType byteOrder scale offset

theorem bytesValue_agree {decodeBytes decodeBytes' : Decoder.ByteDecoder}
    (agree : AgreeOnPlain decodeBytes decodeBytes') {m : MetricConfig}
    (plain : isMidEndian m.byteOrder = false) :
    Decoder.bytesValue decodeBytes' m = Decoder.bytesValue decodeBytes m := by
  funext bytes
  unfold Decoder.bytesValue
  rw [agree]
  · cases order : m.byteOrder <;> simp [order, isMidEndian, Decoder.mapByteOrder] at plain ⊢
  · cases order : m.byteOrder <;> simp [order, isMidEndian, Decoder.mapByteOrder] at plain ⊢

theorem readLoop_congr {σ : Type} {cancelled : σ → Bool}
    {readMetric readMetric' : MetricConfig → σ → Except Panic (Result (Float × Float) × σ)}
    {metrics : List MetricConfig} (same : ∀ m ∈ metrics, readMetric' m = readMetric m)
    (results : HashMap String (Result (Float × Float))) (s : σ) :
    readLoop cancelled readMetric' metrics results s = readLoop cancelled readMetric metrics results s := by
  induction metrics generalizing results s with
  | nil => rfl
  | cons m metrics ih =>
      have rest := ih fun m member => same m (List.mem_cons_of_mem _ member)
      simp only [readLoop, same m List.mem_cons_self, rest]

structure PlainReads (metrics : List MetricConfig) (decodeBytes' : Decoder.ByteDecoder) : Prop where
  i2c : ∀ {ω : Type} (client : I2c.I2cMetricReader ω) (cancelled : _ → Bool) (w : ω),
    (I2c.metricReader decodeBytes').read cancelled ({ client with metrics }, w) =
      (I2c.metricReader Decoder.decodeBytes).read cancelled ({ client with metrics }, w)
  spi : ∀ {ω : Type} (client : Spi.SpiMetricReader ω) (cancelled : _ → Bool) (w : ω),
    (Spi.metricReader decodeBytes').read cancelled ({ client with metrics }, w) =
      (Spi.metricReader Decoder.decodeBytes).read cancelled ({ client with metrics }, w)
  i3c : ∀ {ω : Type} (host : Host ω) (handle : I3c.I3cMetricReaderHandle ω) (cancelled : _ → Bool)
      (w : ω),
    (I3c.I3cMetricReaderHandle.metricReader decodeBytes' host).read cancelled ({ handle with metrics }, w) =
      (I3c.I3cMetricReaderHandle.metricReader Decoder.decodeBytes host).read cancelled
        ({ handle with metrics }, w)

theorem plain_reads {metrics : List MetricConfig}
    (plain : ∀ m ∈ metrics, isMidEndian m.byteOrder = false) {decodeBytes' : Decoder.ByteDecoder}
    (agree : AgreeOnPlain Decoder.decodeBytes decodeBytes') : PlainReads metrics decodeBytes' := by
  constructor
  · intro ω client cancelled w
    simp only [I2c.metricReader, readEach]
    rw [readLoop_congr]
    intro m member
    funext s
    simp only [I2c.readI2cMetric, bytesValue_agree agree (plain m member)]
  · intro ω client cancelled w
    simp only [Spi.metricReader, readEach]
    rw [readLoop_congr]
    intro m member
    funext s
    simp only [Spi.readSpiMetric, bytesValue_agree agree (plain m member)]
  · intro ω host handle cancelled w
    simp only [I3c.I3cMetricReaderHandle.metricReader, readEach]
    rw [readLoop_congr]
    intro m member
    funext s
    simp only [I3c.I3cMetricReaderHandle.readMetric, I3c.readI3cMetric, bytesValue_agree agree (plain m member)]

theorem plain_orders {c : CollectorConfig} (notModbus : c.protocol.isModbus = false)
    (valid : ∀ m ∈ c.metrics, validateMetric c m = .ok ()) :
    ∀ m ∈ c.metrics, isMidEndian m.byteOrder = false := by
  intro m member
  cases spi : c.protocol.isSpi with
  | true => exact (spi_metric (valid m member) spi).plain
  | false =>
      have register : c.protocol.isI2c = true ∨ c.protocol.isI3c = true := by
        simp only [Protocol.isModbus, spi, Bool.not_false, Bool.and_true, Bool.and_eq_false_iff,
          Bool.not_eq_false'] at notModbus
        exact notModbus
      exact (register_metric (valid m member) register).plain

structure ReadsSafe (c : CollectorConfig) : Prop where
  factories : FactoriesSafe c
  registers : c.protocol.isI2c = true ∨ c.protocol.isI3c = true → ∀ m ∈ c.metrics, AddressFits m
  modbus : c.protocol.isModbus = true → Modbus.BatchSafe c.metrics
  orders : c.protocol.isModbus = false → ∀ decodeBytes',
    AgreeOnPlain Decoder.decodeBytes decodeBytes' → PlainReads c.metrics decodeBytes'

theorem validated_reads_safe {config : Config} (valid : config.validate = .ok ())
    {c : CollectorConfig} (member : c ∈ config.collectors) : ReadsSafe c := by
  obtain ⟨protocol, -, -, -, metrics⟩ := validateCollector_ok.mp (validate_collector valid member)
  constructor
  · exact factories_safe protocol
  · intro register m metric
    exact address_fits (register_metric (metrics m metric) register)
  · intro modbus
    exact Modbus.batch_safe fun m metric => modbus_metric (metrics m metric) modbus
  · intro notModbus decodeBytes' agree
    exact plain_reads (plain_orders notModbus metrics) agree

def deviceCollector : CollectorConfig :=
  { name := "imu"
    protocol := .i3c "/dev/i3c-0" none none (some "0x44") (some 0)
    metrics := [{ name := "temp", metricType := .gauge, address := some 0x20, dataType := .i16 }] }

theorem validated_reads_safe_device : ReadsSafe deviceCollector :=
  validated_reads_safe
    (show Config.validate { exporters := { prometheus := some { enabled := true } }
                            collectors := [deviceCollector] } = .ok () by decide)
    (List.mem_singleton_self deviceCollector)

end BusExporter
