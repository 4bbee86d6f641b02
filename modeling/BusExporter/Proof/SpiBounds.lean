import BusExporter.Model.Spi
import BusExporter.Proof.Validated

/-! The response bounds of SPI metrics: the check in `Config::validate` against the slice that the
reader takes. -/

namespace BusExporter.Spi
open Lib Config

variable {ω : Type}

theorem length_txBuf (metric : MetricConfig) :
    (txBuf metric).length = max metric.command.length (responseLength metric).toNat := by
  simp only [txBuf, List.length_append, List.length_replicate]
  omega

theorem readSpiMetric_ok {client : SpiMetricReader ω} (fullDuplex : client.device.FullDuplex)
    (decodeBytes : Decoder.ByteDecoder) {metric : MetricConfig}
    (inside : metric.responseOffset.toNat + metric.dataType.byteSize ≤
      max metric.command.length (responseLength metric).toNat) (w : ω) :
    ∃ result w', readSpiMetric decodeBytes metric (client, w) = .ok (result, client, w') := by
  simp only [readSpiMetric, withContext]
  rcases transfer : client.device.transfer (txBuf metric) w with ⟨e | rx, w'⟩
  · exact ⟨_, _, rfl⟩
  · have long := fullDuplex (txBuf metric) w rx (by rw [transfer])
    rw [length_txBuf] at long
    have fits : ¬ rx.length < metric.responseOffset.toNat +
        Decoder.byteCount (Decoder.mapDataType metric.dataType) := by
      rw [Decoder.byteCount_mapDataType]
      omega
    simp only [Except.mapError, fits, if_false]
    exact ⟨_, _, rfl⟩

def loopback : SpiDevice Unit where
  transfer tx w := (.ok tx, w)

def loopbackReader : SpiMetricReader Unit := { device := loopback, devicePath := "/dev/spidev0.0" }

theorem loopback_fullDuplex : loopback.FullDuplex := by
  rintro tx w rx ⟨⟩
  rfl

theorem readSpiMetric_panics (decodeBytes : Decoder.ByteDecoder) {metric : MetricConfig}
    (outside : max metric.command.length (responseLength metric).toNat <
      metric.responseOffset.toNat + metric.dataType.byteSize) :
    readSpiMetric decodeBytes metric (loopbackReader, ()) = .error .sliceOutOfRange := by
  have short : (txBuf metric).length < metric.responseOffset.toNat +
      Decoder.byteCount (Decoder.mapDataType metric.dataType) := by
    rw [length_txBuf, Decoder.byteCount_mapDataType]
    exact outside
  simp only [readSpiMetric, withContext, loopbackReader, loopback, Except.mapError, short, if_true]

/-- The arithmetic of the check is exact, and no full-duplex device makes the read panic. -/
structure BoundsHold (metric : MetricConfig) : Prop where
  commandLength : (asU16 metric.command.length).toNat = metric.command.length
  dataBytes : (asU16 metric.dataType.byteSize).toNat = metric.dataType.byteSize
  sum : (metric.responseOffset + asU16 metric.dataType.byteSize).toNat =
    metric.responseOffset.toNat + metric.dataType.byteSize
  reads : ∀ {ω : Type} (client : SpiMetricReader ω), client.device.FullDuplex →
    ∀ w, ∃ r, readSpiMetric Decoder.decodeBytes metric (client, w) = .ok r

theorem byteSize_small (dataType : DataType) : (asU16 dataType.byteSize).toNat = dataType.byteSize := by
  cases dataType <;> rfl

theorem sum_toNat (metric : MetricConfig) :
    (metric.responseOffset + asU16 metric.dataType.byteSize).toNat =
      (metric.responseOffset.toNat + metric.dataType.byteSize) % 65536 := by
  rw [UInt16.toNat_add, byteSize_small]

theorem bounds_hold {metric : MetricConfig} (valid : SpiMetric metric)
    (noOverflow : metric.responseOffset.toNat + metric.dataType.byteSize ≤ 65535)
    (noTruncation : metric.command.length ≤ 65535) : BoundsHold metric := by
  have sum : (metric.responseOffset + asU16 metric.dataType.byteSize).toNat =
      metric.responseOffset.toNat + metric.dataType.byteSize := by
    rw [sum_toNat]
    omega
  have window := UInt16.le_iff_toNat_le.mp valid.window
  constructor
  · exact asU16_exact noTruncation
  · exact byteSize_small metric.dataType
  · exact sum
  · intro ω client fullDuplex w
    rw [sum] at window
    obtain ⟨result, w', read⟩ := readSpiMetric_ok fullDuplex Decoder.decodeBytes
      (window.trans (le_max_right _ _)) w
    exact ⟨_, read⟩

theorem spi_bounds_iff {config : Config} (valid : config.validate = .ok ()) {c : CollectorConfig}
    (member : c ∈ config.collectors) (spi : c.protocol.isSpi = true) {m : MetricConfig}
    (metric : m ∈ c.metrics) :
    BoundsHold m ↔
      m.responseOffset.toNat + m.dataType.byteSize ≤ 65535 ∧ m.command.length ≤ 65535 := by
  have checked := spi_metric (validate_metric valid member metric) spi
  constructor
  · intro bounds
    have sumSmall := (m.responseOffset + asU16 m.dataType.byteSize).toNat_lt
    have commandSmall := (asU16 m.command.length).toNat_lt
    rw [bounds.sum] at sumSmall
    rw [bounds.commandLength] at commandSmall
    omega
  · rintro ⟨noOverflow, noTruncation⟩
    exact bounds_hold checked noOverflow noTruncation

def sensorMetric : MetricConfig :=
  { name := "pressure", metricType := .gauge, dataType := .u16, command := [0x80, 0, 0],
    responseOffset := 1 }

def sensorCollector (metric : MetricConfig) : CollectorConfig :=
  { name := "sensor", protocol := .spi "/dev/spidev0.0" 1000000 0 8, metrics := [metric] }

def sensorConfig (metric : MetricConfig) : Config :=
  { exporters := { prometheus := some { enabled := true } }, collectors := [sensorCollector metric] }

theorem spi_bounds_iff_sensor :
    BoundsHold sensorMetric ↔
      sensorMetric.responseOffset.toNat + sensorMetric.dataType.byteSize ≤ 65535 ∧
        sensorMetric.command.length ≤ 65535 :=
  spi_bounds_iff (show (sensorConfig sensorMetric).validate = .ok () by decide)
    (List.mem_singleton_self (sensorCollector sensorMetric)) rfl (List.mem_singleton_self _)

theorem spi_bounds_wrap :
    ¬ ∀ (config : Config) (c : CollectorConfig) (m : MetricConfig), config.validate = .ok () →
      c ∈ config.collectors → c.protocol.isSpi = true → m ∈ c.metrics → BoundsHold m := by
  intro all
  have bounds := all (sensorConfig { sensorMetric with responseOffset := 65535 })
    (sensorCollector { sensorMetric with responseOffset := 65535 })
    { sensorMetric with responseOffset := 65535 } (by decide) (List.mem_singleton_self _) rfl
    (List.mem_singleton_self _)
  obtain ⟨r, good⟩ := bounds.reads loopbackReader loopback_fullDuplex ()
  rw [readSpiMetric_panics Decoder.decodeBytes (by decide)] at good
  cases good

end BusExporter.Spi
