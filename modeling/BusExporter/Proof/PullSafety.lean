import BusExporter.Model.Commands
import BusExporter.Model.Load
import BusExporter.Proof.SpiBounds

/-! Panics on the pull path, where the configuration is not validated. -/

namespace BusExporter
open Lib Config

section Loop
variable {σ : Type} {cancelled : σ → Bool} {metrics : List MetricConfig} (P : σ → Prop)
  {readMetric : MetricConfig → σ → Except Panic (Result (Float × Float) × σ)}

theorem readLoop_ok (fine : ∀ m ∈ metrics, ∀ s, P s → ∃ r s', readMetric m s = .ok (r, s') ∧ P s')
    (results : HashMap String (Result (Float × Float))) {s : σ} (start : P s) :
    ∃ r, readLoop cancelled readMetric metrics results s = .ok r := by
  induction metrics generalizing results s with
  | nil => exact ⟨_, rfl⟩
  | cons m metrics ih =>
      rw [readLoop]
      split_ifs
      · exact ⟨_, rfl⟩
      · obtain ⟨r, s', read, kept⟩ := fine m List.mem_cons_self s start
        simp only [read]
        exact ih (fun m' member => fine m' (List.mem_cons_of_mem _ member)) _ kept

theorem readLoop_panics (running : ∀ s, cancelled s = false)
    (keeps : ∀ m s r s', P s → readMetric m s = .ok (r, s') → P s') {bad : MetricConfig}
    (member : bad ∈ metrics) (panics : ∀ s, P s → ∃ p, readMetric bad s = .error p)
    (results : HashMap String (Result (Float × Float))) {s : σ} (start : P s) :
    ∃ p, readLoop cancelled readMetric metrics results s = .error p := by
  induction metrics generalizing results s with
  | nil => cases member
  | cons m metrics ih =>
      rw [readLoop, if_neg (by simp [running])]
      cases read : readMetric m s with
      | error p => exact ⟨p, rfl⟩
      | ok next =>
          obtain ⟨r, s'⟩ := next
          rcases List.mem_cons.mp member with rfl | later
          · obtain ⟨p, failed⟩ := panics s start
            rw [failed] at read
            cases read
          · exact ih later _ (keeps m s r s' start read)

theorem readEach_ok (fine : ∀ m ∈ metrics, ∀ s, P s → ∃ r s', readMetric m s = .ok (r, s') ∧ P s')
    {s : σ} (start : P s) : ∃ r, readEach cancelled readMetric metrics s = .ok r := by
  obtain ⟨r, done⟩ := readLoop_ok P fine ∅ start
  exact ⟨_, by rw [readEach, done]; rfl⟩

theorem readEach_panics (running : ∀ s, cancelled s = false)
    (keeps : ∀ m s r s', P s → readMetric m s = .ok (r, s') → P s') {bad : MetricConfig}
    (member : bad ∈ metrics) (panics : ∀ s, P s → ∃ p, readMetric bad s = .error p) {s : σ}
    (start : P s) : ∃ p, readEach cancelled readMetric metrics s = .error p := by
  obtain ⟨p, failed⟩ := readLoop_panics P running keeps member panics ∅ start
  exact ⟨p, by rw [readEach, failed]; rfl⟩

end Loop

def MetricPullSafe (protocol : Protocol) (m : MetricConfig) : Prop :=
  match protocol with
  | .modbusTcp _ | .modbusRtu .. => True
  | .i2c .. | .i3c .. => m.address.isSome
  | .spi .. => m.responseOffset.toNat + m.dataType.byteSize ≤
      max m.command.length (Spi.responseLength m).toNat

def Openable : Protocol → Prop
  | .spi _ _ mode _ => mode.toNat ≤ 3
  | _ => True

def ModeGiven : Protocol → Prop
  | .i3c _ pid address deviceClass instance_ =>
      pid.isSome ∨ address.isSome ∨ (deviceClass.isSome ∧ instance_.isSome)
  | _ => True

def PullSafe (c : CollectorConfig) : Prop :=
  ModeGiven c.protocol ∧ (Openable c.protocol → ∀ m ∈ c.metrics, MetricPullSafe c.protocol m)

theorem addressMode_ok {pid : Option String} {address : Option UInt8} {deviceClass : Option String}
    {instance_ : Option UInt8} :
    (∃ mode, addressMode pid address deviceClass instance_ = .ok mode) ↔
      pid.isSome ∨ address.isSome ∨ (deviceClass.isSome ∧ instance_.isSome) := by
  cases pid <;> cases address <;> cases deviceClass <;> cases instance_ <;> simp [addressMode]

section Readers
variable {κ ω : Type} (platform : Platform κ ω) (cancelled : ω → Bool) (metrics : List MetricConfig)

def finish {ρ : Type} (results : Except Panic (ReadResults × (ρ × ω))) :
    Except Panic (Except String ReadResults × ω) :=
  results.map fun r => (.ok r.1, r.2.2)

theorem finish_eq {ρ : Type} (wrap : ρ → BusReader κ ω)
    (drops : ∀ s, ((BusReader.metricReader platform).disconnect (BusReader.inject wrap s)).2.2 = s.2)
    (results : Except Panic (ReadResults × (ρ × ω))) :
    ((results.map (·.map id (BusReader.inject wrap))).bind fun r =>
      .ok (.ok r.1, ((BusReader.metricReader platform).disconnect r.2).2.2)) = finish results := by
  cases results with
  | error p => rfl
  | ok r => exact congrArg (fun w => Except.ok (Except.ok r.1, w)) (drops r.2)

theorem readWith_modbus (reader : Modbus.ModbusMetricReader κ) (w : ω) :
    ∃ r, (metricReaderFactoryImpl platform).readWith cancelled metrics (.modbus reader) w = .ok r := by
  simp only [MetricReaderFactory.readWith, metricReaderFactoryImpl, BusReader.metricReader, BusReader.inject]
  rcases (BusReader.modbusReader platform).connect
    ((BusReader.modbusReader platform).setMetrics metrics (reader, w)) with ⟨e | ⟨⟩, s⟩
  · exact ⟨_, rfl⟩
  · exact ⟨_, rfl⟩

theorem readWith_i2c (reader : I2c.I2cMetricReader ω) (w : ω) :
    (metricReaderFactoryImpl platform).readWith cancelled metrics (.i2c reader) w =
      finish (readEach (fun s => cancelled s.2) (I2c.readI2cMetric Decoder.decodeBytes) metrics
        ({ reader with metrics, connected := true }, w)) :=
  finish_eq platform .i2c (fun _ => rfl) _

theorem readWith_spi (reader : Spi.SpiMetricReader ω) (w : ω) :
    (metricReaderFactoryImpl platform).readWith cancelled metrics (.spi reader) w =
      finish (readEach (fun s => cancelled s.2) (Spi.readSpiMetric Decoder.decodeBytes) metrics
        ({ reader with metrics, connected := true }, w)) :=
  finish_eq platform .spi (fun _ => rfl) _

theorem readWith_i3c (handle : I3c.I3cMetricReaderHandle ω) (w : ω) :
    (metricReaderFactoryImpl platform).readWith cancelled metrics (.i3c handle) w =
      finish (readEach (fun s => cancelled s.2)
        (I3c.I3cMetricReaderHandle.readMetric Decoder.decodeBytes platform.host) metrics
        (I3c.I3cMetricReaderHandle.setConnected true { handle with metrics }, w)) :=
  finish_eq platform .i3c (fun _ => rfl) _

theorem finish_ok {ρ : Type} {results : Except Panic (ReadResults × (ρ × ω))}
    (fine : ∃ r, results = .ok r) : ∃ r, finish results = .ok r := by
  obtain ⟨r, rfl⟩ := fine
  exact ⟨_, rfl⟩

theorem finish_panics {ρ : Type} {results : Except Panic (ReadResults × (ρ × ω))}
    (failed : ∃ p, results = .error p) : ∃ p, finish results = .error p := by
  obtain ⟨p, rfl⟩ := failed
  exact ⟨p, rfl⟩

end Readers

section Safe
variable {κ ω : Type} (platform : Platform κ ω) (cancelled : ω → Bool)

theorem readI2cMetric_ok {m : MetricConfig} (present : m.address.isSome)
    (s : I2c.I2cMetricReader ω × ω) : ∃ r s', I2c.readI2cMetric Decoder.decodeBytes m s = .ok (r, s') := by
  obtain ⟨addr, found⟩ := Option.isSome_iff_exists.mp present
  simp only [I2c.readI2cMetric, found]
  exact ⟨_, _, rfl⟩

theorem readI3cMetric_ok {host : Host ω} {m : MetricConfig} (present : m.address.isSome)
    (s : I3c.I3cMetricReaderHandle ω × ω) :
    ∃ r s', I3c.I3cMetricReaderHandle.readMetric Decoder.decodeBytes host m s = .ok (r, s') := by
  obtain ⟨addr, found⟩ := Option.isSome_iff_exists.mp present
  simp only [I3c.I3cMetricReaderHandle.readMetric, I3c.readI3cMetric, found]
  exact ⟨_, _, rfl⟩

theorem linuxSpi_fullDuplex (host : Host ω) (devicePath : String) :
    (Spi.LinuxSpiDevice.opened host devicePath).FullDuplex := by
  intro tx w rx received
  simp only [Spi.LinuxSpiDevice.opened, withContext] at received
  cases answer : (host.transferSpi devicePath tx w).1 with
  | error e => simp [answer, Except.mapError, Except.map] at received
  | ok buffer =>
      simp only [answer, Except.mapError, Except.map, Except.ok.injEq] at received
      rw [← received, List.length_ofFn]

theorem open_spi {host : Host ω} {devicePath : String} {speedHz : UInt32} {mode bitsPerWord : UInt8}
    {w w' : ω} {device : Spi.SpiDevice ω}
    (done : Spi.LinuxSpiDevice.open_ host devicePath speedHz mode bitsPerWord w = (.ok device, w')) :
    mode.toNat ≤ 3 ∧ device.FullDuplex := by
  unfold Spi.LinuxSpiDevice.open_ at done
  split at done
  · cases done
  · split_ifs at done with bad
    · cases done
    · split at done
      · cases done
      · cases done
        rw [UInt8.lt_iff_toNat_lt] at bad
        exact ⟨Nat.not_lt.mp bad, linuxSpi_fullDuplex host devicePath⟩

theorem readCollector_ok {c : CollectorConfig} (safe : PullSafe c) (w : ω) :
    ∃ r, (metricReaderFactoryImpl platform).readCollector cancelled c w = .ok r := by
  obtain ⟨given, fine⟩ := safe
  simp only [MetricReaderFactory.readCollector, metricReaderFactoryImpl, create]
  cases protocol : c.protocol with
  | modbusTcp endpoint => exact readWith_modbus platform cancelled c.metrics _ w
  | modbusRtu device bps dataBits stopBits parity =>
      exact readWith_modbus platform cancelled c.metrics _ w
  | i2c bus address =>
      rw [protocol] at fine
      have present : ∀ m ∈ c.metrics, m.address.isSome := fine trivial
      rcases opened : I2c.LinuxI2cDevice.open_ platform.host bus address w with ⟨e | device, w'⟩
      · simp only [withContext, opened]
        exact ⟨_, rfl⟩
      · simp only [withContext, opened]
        change ∃ r, (metricReaderFactoryImpl platform).readWith cancelled c.metrics (.i2c _) w' = .ok r
        rw [readWith_i2c]
        apply finish_ok
        apply readEach_ok (fun _ => True) _ trivial
        intro m member s _
        obtain ⟨r, s', read⟩ := readI2cMetric_ok (present m member) s
        exact ⟨r, s', read, trivial⟩
  | spi devicePath speedHz mode bitsPerWord =>
      rw [protocol] at fine
      rcases opened : Spi.LinuxSpiDevice.open_ platform.host devicePath speedHz mode bitsPerWord w with
        ⟨e | device, w'⟩
      · simp only [withContext, opened]
        exact ⟨_, rfl⟩
      · obtain ⟨mode_ok, fullDuplex⟩ := open_spi opened
        simp only [withContext, opened]
        change ∃ r, (metricReaderFactoryImpl platform).readWith cancelled c.metrics (.spi _) w' = .ok r
        rw [readWith_spi]
        apply finish_ok
        apply readEach_ok (fun s => s.1.device = device) _ rfl
        intro m member s same
        have inside := fine mode_ok m member
        have duplex : s.1.device.FullDuplex := by
          rw [same]
          exact fullDuplex
        obtain ⟨r, w', read⟩ := Spi.readSpiMetric_ok duplex Decoder.decodeBytes inside s.2
        exact ⟨r, (s.1, w'), read, same⟩
  | i3c bus pid address deviceClass instance_ =>
      rw [protocol] at fine given
      have present : ∀ m ∈ c.metrics, m.address.isSome := fine trivial
      obtain ⟨addressing, found⟩ := addressMode_ok.mpr given
      simp only [found]
      rcases opened : I3c.LinuxI3cDevice.open_ platform.host bus w with ⟨e | device, w'⟩
      · simp only [withContext]
        exact ⟨_, rfl⟩
      · simp only [withContext]
        change ∃ r, (metricReaderFactoryImpl platform).readWith cancelled c.metrics (.i3c _) w' = .ok r
        rw [readWith_i3c]
        apply finish_ok
        apply readEach_ok (fun _ => True) _ trivial
        intro m member s _
        obtain ⟨r, s', read⟩ := readI3cMetric_ok (present m member) s
        exact ⟨r, s', read, trivial⟩

end Safe

def zeroPlatform : Platform Unit Unit where
  modbus :=
    { lookupHost := fun _ w => (.ok [], w)
      connectSlave := fun _ _ w => (.ok (), w)
      attachSlave := fun _ _ w => (.ok (), w)
      call := fun _ _ w => (.timedOut, (), w) }
  host :=
    { openI2c := fun _ w => (.ok (), w)
      ioctlI2cSlave := fun _ _ w => (true, w)
      writeI2c := fun _ _ _ w => (.ok (), w)
      readI2c := fun _ _ _ w => (.ok fun _ => 0, w)
      openSpi := fun _ w => (.ok (), w)
      configureSpi := fun _ _ _ _ w => (.ok (), w)
      transferSpi := fun _ _ w => (.ok fun _ => 0, w)
      openI3c := fun _ w => (.ok (), w)
      transferI3c := fun _ _ _ w => (.ok fun _ => 0, w)
      readI3cSysfs := fun w => (.ok [], w)
      sleep := fun _ w => w }

def neverCancelled : Unit → Bool := fun _ => false

theorem absent_address {metrics : List MetricConfig} (notSafe : ¬ ∀ m ∈ metrics, m.address.isSome) :
    ∃ m ∈ metrics, m.address = none := by
  by_contra none
  apply notSafe
  intro m member
  cases address : m.address with
  | none => exact absurd ⟨m, member, address⟩ none
  | some addr => rfl

theorem readI2cMetric_panics {ω : Type} {m : MetricConfig} (absent : m.address = none)
    (s : I2c.I2cMetricReader ω × ω) : ∃ p, I2c.readI2cMetric Decoder.decodeBytes m s = .error p := by
  simp only [I2c.readI2cMetric, absent]
  exact ⟨_, rfl⟩

theorem readI3cMetric_panics {ω : Type} {host : Host ω} {m : MetricConfig} (absent : m.address = none)
    (s : I3c.I3cMetricReaderHandle ω × ω) :
    ∃ p, I3c.I3cMetricReaderHandle.readMetric Decoder.decodeBytes host m s = .error p := by
  simp only [I3c.I3cMetricReaderHandle.readMetric, I3c.readI3cMetric, absent]
  exact ⟨_, rfl⟩

theorem readSpiMetric_keeps {ω : Type} {m : MetricConfig} {s s' : Spi.SpiMetricReader ω × ω}
    {r : Result (Float × Float)} (read : Spi.readSpiMetric Decoder.decodeBytes m s = .ok (r, s')) :
    s'.1 = s.1 := by
  simp only [Spi.readSpiMetric] at read
  split at read
  · cases read
    rfl
  · split_ifs at read
    cases read
    rfl

theorem zeroSpi_panics {m : MetricConfig} {s : Spi.SpiMetricReader Unit × Unit}
    (device : s.1.device = Spi.LinuxSpiDevice.opened zeroPlatform.host s.1.devicePath)
    (outside : max m.command.length (Spi.responseLength m).toNat <
      m.responseOffset.toNat + m.dataType.byteSize) :
    ∃ p, Spi.readSpiMetric Decoder.decodeBytes m s = .error p := by
  have short : (Spi.txBuf m).length < m.responseOffset.toNat +
      Decoder.byteCount (Decoder.mapDataType m.dataType) := by
    rw [Spi.length_txBuf, Decoder.byteCount_mapDataType]
    exact outside
  refine ⟨.sliceOutOfRange, ?_⟩
  simp only [Spi.readSpiMetric, device, Spi.LinuxSpiDevice.opened, zeroPlatform, withContext,
    Except.mapError, Except.map, List.length_ofFn, short, if_true]

theorem readCollector_panics {c : CollectorConfig} (notSafe : ¬ PullSafe c) :
    ∃ p, (metricReaderFactoryImpl zeroPlatform).readCollector neverCancelled c () = .error p := by
  unfold PullSafe at notSafe
  simp only [MetricReaderFactory.readCollector, metricReaderFactoryImpl, create]
  cases protocol : c.protocol with
  | modbusTcp endpoint => simp [protocol, ModeGiven, MetricPullSafe] at notSafe
  | modbusRtu device bps dataBits stopBits parity =>
      simp [protocol, ModeGiven, MetricPullSafe] at notSafe
  | i2c bus address =>
      rw [protocol] at notSafe
      obtain ⟨m, member, absent⟩ := absent_address fun present => notSafe ⟨trivial, fun _ => present⟩
      change ∃ p, (metricReaderFactoryImpl zeroPlatform).readWith neverCancelled c.metrics (.i2c _) () = .error p
      rw [readWith_i2c]
      apply finish_panics
      exact readEach_panics (fun _ => True) (fun _ => rfl) (fun _ _ _ _ _ _ => trivial) member
        (fun s _ => readI2cMetric_panics absent s) trivial
  | spi devicePath speedHz mode bitsPerWord =>
      rw [protocol] at notSafe
      have bad : mode.toNat ≤ 3 ∧ ∃ m ∈ c.metrics, max m.command.length (Spi.responseLength m).toNat <
          m.responseOffset.toNat + m.dataType.byteSize := by
        by_contra none
        apply notSafe
        refine ⟨trivial, ?_⟩
        intro openable m member
        by_contra outside
        exact none ⟨openable, m, member, Nat.lt_of_not_le outside⟩
      obtain ⟨openable, m, member, outside⟩ := bad
      have accepted : ¬ 3 < mode := by
        rw [UInt8.lt_iff_toNat_lt]
        exact Nat.not_lt.mpr openable
      have opened : Spi.LinuxSpiDevice.open_ zeroPlatform.host devicePath speedHz mode bitsPerWord () =
          (.ok (Spi.LinuxSpiDevice.opened zeroPlatform.host devicePath), ()) := by
        simp only [Spi.LinuxSpiDevice.open_, zeroPlatform, withContext, Except.mapError, accepted,
          if_false]
      simp only [withContext, opened]
      change ∃ p, (metricReaderFactoryImpl zeroPlatform).readWith neverCancelled c.metrics (.spi _) () = .error p
      rw [readWith_spi]
      apply finish_panics
      apply readEach_panics (fun s => s.1.device =
        Spi.LinuxSpiDevice.opened zeroPlatform.host s.1.devicePath) (fun _ => rfl) _ member
        (fun s device => zeroSpi_panics device outside) rfl
      intro m' s r s' device read
      rw [readSpiMetric_keeps read]
      exact device
  | i3c bus pid address deviceClass instance_ =>
      rw [protocol] at notSafe
      cases found : addressMode pid address deviceClass instance_ with
      | error p =>
          simp only [found]
          exact ⟨p, rfl⟩
      | ok mode =>
          simp only [found]
          have given := addressMode_ok.mp ⟨mode, found⟩
          obtain ⟨m, member, absent⟩ := absent_address fun present => notSafe ⟨given, fun _ => present⟩
          change ∃ p, (metricReaderFactoryImpl zeroPlatform).readWith neverCancelled c.metrics (.i3c _) () = .error p
          rw [readWith_i3c]
          apply finish_panics
          exact readEach_panics (fun _ => True) (fun _ => rfl) (fun _ _ _ _ _ _ => trivial) member
            (fun s _ => readI3cMetric_panics absent s) trivial

def EntryReports (reading : Except String ReadResults) (m : MetricConfig) (entry : MetricEntry) : Prop :=
  entry.name = m.name ∧
    (entry.error = none ↔
      ∃ results value, reading = .ok results ∧ results.metrics.lookup m.name = some (.ok value))

section Pull
variable {κ ω : Type} (platform : Platform κ ω) (cancelled : ω → Bool)

def CollectorReports (c : CollectorConfig) (entry : CollectorEntry) : Prop :=
  entry.name = c.name ∧ ∃ w reading w',
    (metricReaderFactoryImpl platform).readCollector cancelled c w = .ok (reading, w') ∧
    List.Forall₂ (EntryReports reading) c.metrics entry.metrics

def metricEntry (reading : Except String ReadResults) (metric : MetricConfig) : MetricEntry :=
  match reading with
  | .error text => ⟨metric.name, none, none, some text⟩
  | .ok results =>
      match results.metrics.lookup metric.name with
      | some (.ok (rawValue, scaledValue)) =>
          ⟨metric.name, jsonNumber scaledValue, jsonNumber rawValue, none⟩
      | some (.error e) => ⟨metric.name, none, none, some e.message⟩
      | none => ⟨metric.name, none, none, some "metric not in results"⟩

theorem metricEntry_reports (reading : Except String ReadResults) (m : MetricConfig) :
    EntryReports reading m (metricEntry reading m) := by
  unfold EntryReports metricEntry
  cases reading with
  | error text => simp
  | ok results =>
      cases found : results.metrics.lookup m.name with
      | none => simp [found]
      | some result =>
          cases result with
          | error e => simp [found]
          | ok value =>
              obtain ⟨rawValue, scaledValue⟩ := value
              simp [found]

def Report.counting (report : Report) (entries : List MetricEntry) : Report :=
  { report with
    totalMetrics := report.totalMetrics + entries.length
    successful := report.successful + entries.countP (·.error.isNone)
    failed := report.failed + entries.countP (·.error.isSome) }

theorem addMetric_eq (reading : Except String ReadResults) (report : Report) (entries : List MetricEntry)
    (m : MetricConfig) :
    addMetric reading (report, entries) m =
      (report.counting [metricEntry reading m], entries ++ [metricEntry reading m]) := by
  unfold addMetric metricEntry
  cases reading with
  | error text => rfl
  | ok results =>
      cases found : results.metrics.lookup m.name with
      | none => simp only [found]; rfl
      | some result => cases result <;> simp only [found] <;> rfl

theorem counting_append (report : Report) (entries later : List MetricEntry) :
    (report.counting entries).counting later = report.counting (entries ++ later) := by
  simp [Report.counting, Nat.add_assoc]

theorem add_eq (report : Report) (c : CollectorConfig) (reading : Except String ReadResults) :
    report.add c reading =
      { report.counting (c.metrics.map (metricEntry reading)) with
        collectors := report.collectors ++
          [⟨c.name, c.protocol.toString, c.metrics.map (metricEntry reading)⟩] } := by
  have folded (metrics : List MetricConfig) (report : Report) (entries : List MetricEntry) :
      metrics.foldl (addMetric reading) (report, entries) =
        (report.counting (metrics.map (metricEntry reading)), entries ++ metrics.map (metricEntry reading)) := by
    induction metrics generalizing report entries with
    | nil => simp [Report.counting]
    | cons m metrics ih =>
        rw [List.foldl_cons, addMetric_eq, ih, counting_append, List.append_assoc]
        rfl
  rw [Report.add, folded]
  rfl

theorem collectFrom_ok {collectors : List CollectorConfig} (safe : ∀ c ∈ collectors, PullSafe c)
    (report : Report) (w : ω) :
    ∃ entries total w', (metricReaderFactoryImpl platform).collectFrom cancelled report collectors w = .ok (total, w') ∧
      total.collectors = report.collectors ++ entries ∧
      List.Forall₂ (CollectorReports platform cancelled) collectors entries := by
  induction collectors generalizing report w with
  | nil => exact ⟨[], report, w, rfl, by simp, .nil⟩
  | cons c collectors ih =>
      obtain ⟨⟨reading, w₁⟩, read⟩ := readCollector_ok platform cancelled (safe c List.mem_cons_self) w
      obtain ⟨later, total, w', collected, appended, reports⟩ :=
        ih (fun d member => safe d (List.mem_cons_of_mem _ member)) (report.add c reading) w₁
      refine ⟨⟨c.name, c.protocol.toString, c.metrics.map (metricEntry reading)⟩ :: later, total, w', ?_, ?_,
        .cons ?_ reports⟩
      · rw [MetricReaderFactory.collectFrom, read]
        exact collected
      · rw [appended, add_eq, List.append_assoc, List.singleton_append]
      · refine ⟨rfl, w, reading, w₁, read, ?_⟩
        rw [List.forall₂_map_right_iff]
        exact List.forall₂_same.mpr fun m _ => metricEntry_reports reading m

end Pull

theorem collectFrom_panics {collectors : List CollectorConfig} {c : CollectorConfig}
    (member : c ∈ collectors) (notSafe : ¬ PullSafe c) (report : Report) :
    ∃ p, (metricReaderFactoryImpl zeroPlatform).collectFrom neverCancelled report collectors () = .error p := by
  induction collectors generalizing report with
  | nil => cases member
  | cons d collectors ih =>
      rw [MetricReaderFactory.collectFrom]
      cases read : (metricReaderFactoryImpl zeroPlatform).readCollector neverCancelled d () with
      | error p => exact ⟨p, rfl⟩
      | ok next =>
          rcases List.mem_cons.mp member with rfl | later
          · obtain ⟨p, failed⟩ := readCollector_panics notSafe
            rw [failed] at read
            cases read
          · exact ih later _

/-- On every platform the pull ends without a panic and reports every metric. -/
def PullReports (collectors : List CollectorConfig) : Prop :=
  ∀ (κ ω : Type) (platform : Platform κ ω) (cancelled : ω → Bool) (w : ω),
    ∃ report w', collectOnce platform cancelled collectors w = .ok (report, w') ∧
      List.Forall₂ (CollectorReports platform cancelled) collectors report.collectors

theorem pull_reports_iff (collectors : List CollectorConfig) :
    PullReports collectors ↔ ∀ c ∈ collectors, PullSafe c := by
  constructor
  · intro reports c member
    by_contra notSafe
    obtain ⟨p, failed⟩ := collectFrom_panics member notSafe {}
    obtain ⟨report, w', collected, -⟩ := reports Unit Unit zeroPlatform neverCancelled ()
    rw [collectOnce, MetricReaderFactory.collectOnce, failed] at collected
    cases collected
  · intro safe κ ω platform cancelled w
    obtain ⟨entries, report, w', collected, appended, reports⟩ :=
      collectFrom_ok platform cancelled safe {} w
    refine ⟨report, w', collected, ?_⟩
    rw [appended, List.nil_append]
    exact reports

def addresslessFiles : Files where
  readToString _ := .ok "collectors: [...]"
  parseConfig _ := .ok
    { exporters := {}
      collectors := [{ name := "sensor", protocol := .i2c "/dev/i2c-1" 0x48
                       metrics := [{ name := "temp", metricType := .gauge, dataType := .u16 }] }] }
  parseMetricsFile _ := .error ⟨"no metrics file", []⟩

theorem pull_panics_without_address :
    ¬ ∀ (files : Files) (path : String) (config : Config) (compile : String → Result (String → Bool))
      (collectorFilter metricFilter : Option String) (selected : List CollectorConfig),
      Config.loadForPull files path = .ok config →
      filterCollectors compile config.collectors collectorFilter metricFilter = .ok selected →
        PullReports selected := by
  intro all
  have reports := all addresslessFiles "config.yaml" _ (fun _ => .ok fun _ => true) none none _ rfl rfl
  obtain ⟨report, w', collected, -⟩ := reports Unit Unit zeroPlatform neverCancelled ()
  have failed : ∃ p, collectOnce zeroPlatform neverCancelled
      [{ name := "sensor", protocol := .i2c "/dev/i2c-1" 0x48
         metrics := [{ name := "temp", metricType := .gauge, dataType := .u16 }] }] () = .error p :=
    ⟨.unwrapNone, rfl⟩
  obtain ⟨p, failed⟩ := failed
  cases failed.symm.trans collected

end BusExporter
