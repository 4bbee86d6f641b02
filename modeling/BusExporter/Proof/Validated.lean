import BusExporter.Model.Validate
import Mathlib.Data.List.Nodup

/-! What `Config::validate` establishes, read off the checks once: for the collectors, and for the
metrics of each protocol. -/

namespace BusExporter.Config
open Lib

theorem validateCollectors_ok {cnames : List String} {collectors : List CollectorConfig}
    (valid : validateCollectors cnames collectors = .ok ()) :
    (∀ c ∈ collectors, validateCollector c = .ok ()) ∧ (collectors.map (·.name)).Nodup ∧
      ∀ c ∈ collectors, c.name ∉ cnames := by
  induction collectors generalizing cnames with
  | nil => simp
  | cons c rest ih =>
      simp only [validateCollectors, andThen_ok, bailIf_ok] at valid
      obtain ⟨unseen, this, others⟩ := valid
      have fresh : c.name ∉ cnames := by simpa using unseen
      obtain ⟨checked, distinct, apart⟩ := ih others
      have different : ∀ d ∈ rest, d.name ∉ c.name :: cnames := apart
      refine ⟨?_, ?_, ?_⟩
      · intro d member
        rcases List.mem_cons.mp member with rfl | later
        · exact this
        · exact checked d later
      · rw [List.map_cons, List.nodup_cons]
        refine ⟨?_, distinct⟩
        intro again
        obtain ⟨d, member, same⟩ := List.mem_map.mp again
        exact different d member (by simp [same])
      · intro d member
        rcases List.mem_cons.mp member with rfl | later
        · exact fresh
        · intro seen
          exact different d later (by simp [seen])

theorem validate_collector {config : Config} (valid : config.validate = .ok ())
    {c : CollectorConfig} (member : c ∈ config.collectors) : validateCollector c = .ok () := by
  simp only [Config.validate, andThen_ok] at valid
  exact (validateCollectors_ok valid.2.2).1 c member

theorem validate_names {config : Config} (valid : config.validate = .ok ()) :
    (config.collectors.map (·.name)).Nodup := by
  simp only [Config.validate, andThen_ok] at valid
  exact (validateCollectors_ok valid.2.2).2.1

theorem validateCollector_ok {c : CollectorConfig} :
    validateCollector c = .ok () ↔
      validateProtocol c = .ok () ∧ 1 ≤ Duration.asMillis c.pollingInterval ∧ c.metrics ≠ [] ∧
        validateWrites c = .ok () ∧ ∀ m ∈ c.metrics, validateMetric c m = .ok () := by
  simp only [validateCollector, andThen_ok, bailIf_ok, forEach_ok, decide_eq_false_iff_not, not_lt,
    List.isEmpty_eq_false_iff]

theorem validate_metric {config : Config} (valid : config.validate = .ok ()) {c : CollectorConfig}
    (member : c ∈ config.collectors) {m : MetricConfig} (metric : m ∈ c.metrics) :
    validateMetric c m = .ok () :=
  (validateCollector_ok.mp (validate_collector valid member)).2.2.2.2 m metric

structure ModbusMetric (m : MetricConfig) : Prop where
  address : ∃ addr, m.address = some addr ∧ addr.toNat + m.dataType.registerCount.toNat ≤ 65536
  registerType : m.registerType.isSome
  bits : isBit (m.registerType.getD .holding) = true ↔ m.dataType = .bool
  wide : m.dataType ≠ .u8

structure RegisterMetric (m : MetricConfig) : Prop where
  address : ∃ addr, m.address = some addr ∧ addr.toNat ≤ 0xFF
  plain : isMidEndian m.byteOrder = false

def MetricConfig.respLen (m : MetricConfig) : UInt16 :=
  m.responseLength.getD (asU16 m.command.length)

structure SpiMetric (m : MetricConfig) : Prop where
  command : m.command ≠ []
  plain : isMidEndian m.byteOrder = false
  window : m.responseOffset + asU16 m.dataType.byteSize ≤ m.respLen

theorem metric_address {c : CollectorConfig} {m : MetricConfig}
    (valid : validateMetric c m = .ok ()) (notSpi : c.protocol.isSpi = false) :
    ∃ addr, m.address = some addr := by
  simp only [validateMetric, notSpi, andThen_ok, bailIf_ok, Bool.not_false, Bool.true_and] at valid
  cases h : m.address with
  | none => simp [h] at valid
  | some addr => exact ⟨addr, rfl⟩

theorem modbus_metric {c : CollectorConfig} {m : MetricConfig}
    (valid : validateMetric c m = .ok ()) (modbus : c.protocol.isModbus = true) :
    ModbusMetric m := by
  have notSpi : c.protocol.isSpi = false := by
    cases h : c.protocol <;> simp [h, Protocol.isModbus, Protocol.isSpi, Protocol.isI2c,
      Protocol.isI3c] at modbus ⊢
  obtain ⟨addr, found⟩ := metric_address valid notSpi
  simp only [validateMetric, modbus, notSpi, andThen_ok, onlyIf_ok, bailIf_ok, forall_const,
    validateModbusMetric, Bool.not_false, Bool.true_and, decide_eq_false_iff_not, not_lt] at valid
  obtain ⟨-, ⟨bitsBool, boolBits, -, typed, wide⟩, -, -, -, -, -, span⟩ := valid
  refine ⟨⟨addr, found, by simpa [found] using span⟩, ?_, ?_, by simpa using wide⟩
  · cases h : m.registerType with
    | none => simp [h] at typed
    | some type => rfl
  · constructor
    · intro bit
      simpa [bit] using bitsBool
    · intro bool
      simpa [bool] using boolBits

theorem register_metric {c : CollectorConfig} {m : MetricConfig}
    (valid : validateMetric c m = .ok ())
    (register : c.protocol.isI2c = true ∨ c.protocol.isI3c = true) : RegisterMetric m := by
  have notSpi : c.protocol.isSpi = false := by
    cases h : c.protocol <;> simp [h, Protocol.isSpi, Protocol.isI2c, Protocol.isI3c] at register ⊢
  obtain ⟨addr, found⟩ := metric_address valid notSpi
  simp only [validateMetric, notSpi, andThen_ok, onlyIf_ok, bailIf_ok, validateI2cMetric,
    validateI3cMetric, validateRegisterMetric, Bool.not_false, Bool.true_and] at valid
  obtain ⟨-, -, i2c, -, i3c, -⟩ := valid
  obtain ⟨small, plain⟩ := register.elim i2c i3c
  refine ⟨⟨addr, found, ?_⟩, plain⟩
  simp only [found, Option.any_some, decide_eq_false_iff_not, UInt16.not_lt] at small
  exact UInt16.le_iff_toNat_le.mp small

theorem spi_metric {c : CollectorConfig} {m : MetricConfig}
    (valid : validateMetric c m = .ok ()) (spi : c.protocol.isSpi = true) : SpiMetric m := by
  simp only [validateMetric, spi, andThen_ok, onlyIf_ok, bailIf_ok, validateSpiMetric,
    forall_const] at valid
  obtain ⟨-, -, -, ⟨command, plain, window⟩, -⟩ := valid
  simp only [decide_eq_false_iff_not, UInt16.not_lt] at window
  exact ⟨by simpa using command, plain, window⟩

end BusExporter.Config
