import BusExporter.Model.LinuxI3c
import BusExporter.Model.Validate
import BusExporter.Proof.HostRecord
import BusExporter.Proof.OpenedDevices
import BusExporter.Proof.Readdressing

/-! What an I3C client hands to the kernel: the requests name the bus and the bytes, and no device. -/

namespace BusExporter.I3c
open Lib Config

variable {κ ω : Type}

def Kernel.recorded (ioctl : Kernel ω) : Kernel (ω × List Ioctl) :=
  fun request readLen => noting (fun _ => some request) (ioctl request readLen)

def submitting (host : Host ω) (ioctl : Kernel ω) : Host (ω × List Ioctl) :=
  onKernel (host.recorded {}) ioctl.recorded

theorem opened_submitting (host : Host ω) (ioctl : Kernel ω) (busPath : String) :
    LinuxI3cDevice.opened (submitting host ioctl) busPath =
      { writeRead := LinuxI3cDevice.writeRead ioctl.recorded { busPath, fd := some busPath } } := rfl

theorem LinuxI3cDevice.writeRead_recorded (ioctl : Kernel ω) (busPath fd : String) (address : UInt8)
    (writeBuf : List UInt8) (readLen : Nat) (w : ω × List Ioctl) :
    (LinuxI3cDevice.writeRead ioctl.recorded { busPath, fd := some fd } address writeBuf readLen w).2.2 =
      w.2 ++ [privXfer fd writeBuf readLen] := rfl

abbrev Submitter (ω : Type) := I3cMetricReader (ω × List Ioctl) × (ω × List Ioctl)

def submitted (s s' : Submitter ω) : List Ioctl := s'.2.2.drop s.2.2.length

def Differ (requests requests' : List Ioctl) : Prop := ∀ r ∈ requests, ∀ r' ∈ requests', r ≠ r'

/-- The clients that a collector can come to have, for its reads and for its writes. -/
inductive ClientOf (platform : Platform κ ω) (c : CollectorConfig) : I3cMetricReader ω → Prop
  | reader {w w' : ω} {handle : I3cMetricReaderHandle ω}
      (made : create platform c w = .ok (.ok (.i3c handle), w')) : ClientOf platform c handle.client
  | writer {w w' : ω} {client : I3cMetricReader ω}
      (made : createWriter platform c w = .ok (.ok (some (.i3c client)), w')) : ClientOf platform c client
  | connected {client : I3cMetricReader ω} (earlier : ClientOf platform c client) (connected : Bool) :
      ClientOf platform c { client with connected }
  | read {client : I3cMetricReader ω} (earlier : ClientOf platform c client) (register : UInt8) (byteCount : Nat)
      (w : ω) :
      ClientOf platform c (I3cMetricReader.readRegisterSync platform.host register byteCount (client, w)).2.1
  | wrote {client : I3cMetricReader ω} (earlier : ClientOf platform c client) (buf : List UInt8) (w : ω) :
      ClientOf platform c (I3cMetricReader.writeBytes platform.host buf (client, w)).2.1

def OnBus (host : Host ω) (c : I3cMetricReader ω) : Prop := c.device = LinuxI3cDevice.opened host c.busPath

def SameBus (c c' : I3cMetricReader ω) : Prop := c'.device = c.device ∧ c'.busPath = c.busPath

theorem SameBus.trans {c c' c'' : I3cMetricReader ω} (first : SameBus c c') (second : SameBus c' c'') :
    SameBus c c'' := ⟨second.1.trans first.1, second.2.trans first.2⟩

theorem SameBus.onBus {host : Host ω} {c c' : I3cMetricReader ω} (same : SameBus c c') (onBus : OnBus host c) :
    OnBus host c' := by
  rw [OnBus, same.1, same.2]
  exact onBus

theorem sameBus_invalidate (c : I3cMetricReader ω) : SameBus c c.invalidateAddress := by
  unfold I3cMetricReader.invalidateAddress
  split_ifs
  · exact ⟨rfl, rfl⟩
  · exact ⟨rfl, rfl⟩

structure Submits (s : Submitter ω) (request : Ioctl) (times : Nat) (s' : Submitter ω) : Prop where
  sameBus : SameBus s.1 s'.1
  record : s'.2.2 = s.2.2 ++ List.replicate times request

theorem Submits.trans {s s' s'' : Submitter ω} {request : Ioctl} {n m : Nat} (first : Submits s request n s')
    (second : Submits s' request m s'') : Submits s request (n + m) s'' := by
  refine ⟨first.sameBus.trans second.sameBus, ?_⟩
  rw [second.record, first.record, List.append_assoc, List.replicate_append_replicate]

theorem Submits.submitted {s s' : Submitter ω} {request : Ioctl} {n : Nat} (submits : Submits s request n s') :
    submitted s s' = List.replicate n request := by
  rw [I3c.submitted, submits.record, List.drop_left]

theorem resolveAddress_submits (host : Host ω) (ioctl : Kernel ω) (s : Submitter ω) (request : Ioctl) :
    Submits s request 0 (I3cMetricReader.resolveAddress (submitting host ioctl) s).2 := by
  have quiet : s.2.2 = s.2.2 ++ List.replicate 0 request := (List.append_nil s.2.2).symm
  cases cached : s.1.resolvedAddress with
  | some addr =>
      rw [resolveAddress_cached _ cached]
      exact ⟨⟨rfl, rfl⟩, quiet⟩
  | none =>
      rcases resolveAddress_uncached (submitting host ioctl) cached with ⟨e, e', -, resolved⟩ | ⟨addr, -, resolved⟩
      · rw [resolved]
        exact ⟨⟨rfl, rfl⟩, quiet⟩
      · rw [resolved]
        exact ⟨⟨rfl, rfl⟩, quiet⟩

variable {host : Host ω} {ioctl : Kernel ω}

theorem writeRead_submits {s s' : Submitter ω} (onBus : OnBus (submitting host ioctl) s.1) {writeBuf : List UInt8}
    {readLen n : Nat} (before : Submits s (privXfer s.1.busPath writeBuf readLen) n s') (addr : UInt8) :
    Submits s (privXfer s.1.busPath writeBuf readLen) (n + 1)
      (s'.1, (s'.1.device.writeRead addr writeBuf readLen s'.2).2) := by
  refine before.trans ⟨⟨rfl, rfl⟩, ?_⟩
  rw [before.sameBus.onBus onBus, opened_submitting, before.sameBus.2]
  exact LinuxI3cDevice.writeRead_recorded ioctl s.1.busPath s.1.busPath addr writeBuf readLen s'.2

theorem retryRead_submits (register : UInt8) (byteCount : Nat) (waits : List Duration) (e : Error)
    {s s' : Submitter ω} (onBus : OnBus (submitting host ioctl) s.1) {n : Nat}
    (before : Submits s (privXfer s.1.busPath [register] byteCount) n s') :
    ∃ m, Submits s (privXfer s.1.busPath [register] byteCount) (n + m)
      (I3cMetricReader.retryRead (submitting host ioctl) register byteCount waits e s').2 := by
  induction waits generalizing s' e n with
  | nil => exact ⟨0, before⟩
  | cons wait waits ih =>
      obtain ⟨r, c, w, resolved, turn⟩ :=
        retryRead_cases (submitting host ioctl) register byteCount wait waits e s'
      have forgotten : Submits s' (privXfer s.1.busPath [register] byteCount) 0
          (s'.1.invalidateAddress, (submitting host ioctl).sleep wait s'.2) :=
        ⟨sameBus_invalidate s'.1, (List.append_nil s'.2.2).symm⟩
      have quiet := before.trans (forgotten.trans (resolveAddress_submits host ioctl _ _))
      rw [resolved] at quiet
      rcases turn with ⟨e, -, same⟩ | ⟨addr, data, w', -, sent, other⟩
      · rw [same]
        exact ih e quiet
      · have tried := writeRead_submits onBus quiet addr
        simp only [sent] at tried
        rcases other with ⟨bytes, -, same⟩ | ⟨e, -, same⟩
        · rw [same]
          exact ⟨1, tried⟩
        · rw [same]
          obtain ⟨m, later⟩ := ih e tried
          exact ⟨1 + m, by rwa [← Nat.add_assoc]⟩

theorem readRegisterSync_submits (register : UInt8) (byteCount : Nat) {s : Submitter ω}
    (onBus : OnBus (submitting host ioctl) s.1) :
    ∃ n, Submits s (privXfer s.1.busPath [register] byteCount) n
        (I3cMetricReader.readRegisterSync (submitting host ioctl) register byteCount s).2 ∧
      ∀ addr, (I3cMetricReader.resolveAddress (submitting host ioctl) s).1 = .ok addr → 0 < n := by
  obtain ⟨r, c, w, resolved, outcome⟩ := readRegisterSync_cases (submitting host ioctl) register byteCount s
  have quiet := resolveAddress_submits host ioctl s (privXfer s.1.busPath [register] byteCount)
  rw [resolved] at quiet ⊢
  rcases outcome with ⟨e, rfl, same⟩ | ⟨addr, data, w', rfl, sent, other⟩
  · rw [same]
    exact ⟨0, quiet, fun addr wrong => (by cases wrong)⟩
  · have tried := writeRead_submits onBus quiet addr
    simp only [sent] at tried
    rcases other with ⟨bytes, -, same⟩ | ⟨e, -, ⟨-, same⟩ | ⟨-, same⟩⟩
    · rw [same]
      exact ⟨1, tried, fun _ _ => Nat.one_pos⟩
    · rw [same]
      exact ⟨1, tried, fun _ _ => Nat.one_pos⟩
    · rw [same]
      obtain ⟨m, later⟩ := retryRead_submits register byteCount I3cMetricReader.backoffs e onBus tried
      exact ⟨_, later, fun _ _ => Nat.add_pos_left Nat.one_pos m⟩

theorem writeBytes_submits (buf : List UInt8) {s : Submitter ω} (onBus : OnBus (submitting host ioctl) s.1) :
    ∃ n, Submits s (privXfer s.1.busPath buf 0) n (I3cMetricReader.writeBytes (submitting host ioctl) buf s).2 ∧
      ∀ addr, (I3cMetricReader.resolveAddress (submitting host ioctl) s).1 = .ok addr → 0 < n := by
  unfold I3cMetricReader.writeBytes
  have resolved := resolveAddress_submits host ioctl s (privXfer s.1.busPath buf 0)
  generalize I3cMetricReader.resolveAddress (submitting host ioctl) s = result at resolved ⊢
  obtain ⟨r, c, w⟩ := result
  cases r with
  | error e => exact ⟨0, resolved, fun addr wrong => (by cases wrong)⟩
  | ok addr => exact ⟨1, writeRead_submits onBus resolved addr, fun _ _ => Nat.one_pos⟩

def submittingPlatform (modbus : Modbus.TokioModbus κ (ω × List Ioctl)) (host : Host ω) (ioctl : Kernel ω) :
    Platform κ (ω × List Ioctl) where
  modbus
  host := submitting host ioctl

theorem clientOf_onBus {modbus : Modbus.TokioModbus κ (ω × List Ioctl)} {c : CollectorConfig}
    {client : I3cMetricReader (ω × List Ioctl)}
    (clients : ClientOf (submittingPlatform modbus host ioctl) c client) :
    OnBus (submitting host ioctl) client := by
  induction clients with
  | reader made =>
      obtain ⟨bus, pid, address, deviceClass, instance_, -, mode, -, given⟩ := create_i3c made
      rw [given]
      rfl
  | writer made =>
      obtain ⟨bus, pid, address, deviceClass, instance_, -, device, path, -⟩ := createWriter_onBus made
      rw [OnBus, device, path]
      rfl
  | connected earlier connected ih => exact ih
  | read earlier register byteCount w ih =>
      obtain ⟨n, submits, -⟩ := readRegisterSync_submits register byteCount (s := (_, w)) ih
      exact submits.sameBus.onBus ih
  | wrote earlier buf w ih =>
      obtain ⟨n, submits, -⟩ := writeBytes_submits buf (s := (_, w)) ih
      exact submits.sameBus.onBus ih

theorem not_differ {r : Ioctl} {n m : Nat} (some : 0 < n) (some' : 0 < m) :
    ¬Differ (List.replicate n r) (List.replicate m r) := by
  intro differ
  have here : r ∈ List.replicate n r := List.mem_replicate.mpr ⟨some.ne', rfl⟩
  have there : r ∈ List.replicate m r := List.mem_replicate.mpr ⟨some'.ne', rfl⟩
  exact differ r here r there rfl

/-- Whatever devices two collectors of a bus resolve to, reads of one register and writes of the same bytes
submit the same request for both. -/
theorem requests_never_differ (modbus : Modbus.TokioModbus κ (ω × List Ioctl)) (host : Host ω) (ioctl : Kernel ω)
    {c c' : CollectorConfig} {s s' : Submitter ω}
    (client : ClientOf (submittingPlatform modbus host ioctl) c s.1)
    (client' : ClientOf (submittingPlatform modbus host ioctl) c' s'.1) (shared : s'.1.busPath = s.1.busPath)
    {addr addr' : UInt8}
    (resolved : (I3cMetricReader.resolveAddress (submitting host ioctl) s).1 = .ok addr)
    (resolved' : (I3cMetricReader.resolveAddress (submitting host ioctl) s').1 = .ok addr') :
    addr ≠ addr' →
      (∀ register byteCount, ¬Differ
        (submitted s (I3cMetricReader.readRegisterSync (submitting host ioctl) register byteCount s).2)
        (submitted s' (I3cMetricReader.readRegisterSync (submitting host ioctl) register byteCount s').2)) ∧
      ∀ buf, ¬Differ
        (submitted s (I3cMetricReader.writeBytes (submitting host ioctl) buf s).2)
        (submitted s' (I3cMetricReader.writeBytes (submitting host ioctl) buf s').2) := by
  rintro -
  have onBus := clientOf_onBus client
  have onBus' := clientOf_onBus client'
  constructor
  · intro register byteCount
    obtain ⟨n, submits, some⟩ := readRegisterSync_submits register byteCount onBus
    obtain ⟨m, submits', some'⟩ := readRegisterSync_submits register byteCount onBus'
    rw [submits.submitted, submits'.submitted, shared]
    exact not_differ (some addr resolved) (some' addr' resolved')
  · intro buf
    obtain ⟨n, submits, some⟩ := writeBytes_submits buf onBus
    obtain ⟨m, submits', some'⟩ := writeBytes_submits buf onBus'
    rw [submits.submitted, submits'.submitted, shared]
    exact not_differ (some addr resolved) (some' addr' resolved')

def sensorAt (name : String) (addr : UInt8) : CollectorConfig :=
  { name, protocol := .i3c "/dev/i3c-0" none (some addr) none none
    metrics := [{ name := "temperature", metricType := .gauge, dataType := .u16, address := some 0 }] }

def twoSensors : Config where
  exporters := { prometheus := some { enabled := true } }
  collectors := [sensorAt "inlet" 0x08, sensorAt "outlet" 0x09]

def readsZero : Kernel Unit := fun _ _ w => (.ok fun _ => 0, w)

def boardPlatform : Platform Unit (Unit × List Ioctl) := submittingPlatform idleModbus idleHost readsZero

def sensorClient (addr : UInt8) : I3cMetricReader (Unit × List Ioctl) :=
  .new (LinuxI3cDevice.opened boardPlatform.host "/dev/i3c-0") "/dev/i3c-0" (.static addr)

def sensorStart (addr : UInt8) : Submitter Unit := (sensorClient addr, (), [])

theorem sensor_client (name : String) (addr : UInt8) :
    ClientOf boardPlatform (sensorAt name addr) (sensorStart addr).1 := by
  have made : create boardPlatform (sensorAt name addr) ((), []) =
      .ok (.ok (.i3c { client := sensorClient addr }), ((), [])) := rfl
  exact .reader made

theorem requests_never_differ_sensors :
    ¬Differ
      (submitted (sensorStart 0x08)
        (I3cMetricReader.readRegisterSync boardPlatform.host 0x05 2 (sensorStart 0x08)).2)
      (submitted (sensorStart 0x09)
        (I3cMetricReader.readRegisterSync boardPlatform.host 0x05 2 (sensorStart 0x09)).2) := by
  have never := requests_never_differ idleModbus idleHost readsZero (sensor_client "inlet" 0x08)
    (sensor_client "outlet" 0x09) rfl rfl rfl
  exact (never (by decide)).1 0x05 2

/-- The register of one sensor is read with the request that reads it from the other. -/
theorem requests_shared :
    ¬∀ (ω : Type) (modbus : Modbus.TokioModbus Unit (ω × List Ioctl)) (host : Host ω) (ioctl : Kernel ω)
      (config : Config) (c c' : CollectorConfig) (s s' : Submitter ω) (addr addr' : UInt8),
      config.validate = .ok () → c ∈ config.collectors → c' ∈ config.collectors →
      ClientOf (submittingPlatform modbus host ioctl) c s.1 →
      ClientOf (submittingPlatform modbus host ioctl) c' s'.1 → s'.1.busPath = s.1.busPath →
      (I3cMetricReader.resolveAddress (submitting host ioctl) s).1 = .ok addr →
      (I3cMetricReader.resolveAddress (submitting host ioctl) s').1 = .ok addr' → addr ≠ addr' →
      ∀ register byteCount, Differ
        (submitted s (I3cMetricReader.readRegisterSync (submitting host ioctl) register byteCount s).2)
        (submitted s' (I3cMetricReader.readRegisterSync (submitting host ioctl) register byteCount s').2) := by
  intro all
  have differ := all Unit idleModbus idleHost readsZero twoSensors (sensorAt "inlet" 0x08) (sensorAt "outlet" 0x09)
    (sensorStart 0x08) (sensorStart 0x09) 0x08 0x09 (by decide) (by simp [twoSensors])
    (by simp [twoSensors]) (sensor_client "inlet" 0x08) (sensor_client "outlet" 0x09) rfl rfl rfl (by decide)
    0x05 2
  have inlet : submitted (sensorStart 0x08)
      (I3cMetricReader.readRegisterSync boardPlatform.host 0x05 2 (sensorStart 0x08)).2 =
      [privXfer "/dev/i3c-0" [0x05] 2] := rfl
  have outlet : submitted (sensorStart 0x09)
      (I3cMetricReader.readRegisterSync boardPlatform.host 0x05 2 (sensorStart 0x09)).2 =
      [privXfer "/dev/i3c-0" [0x05] 2] := rfl
  change Differ (submitted _ (I3cMetricReader.readRegisterSync boardPlatform.host 0x05 2 _).2)
    (submitted _ (I3cMetricReader.readRegisterSync boardPlatform.host 0x05 2 _).2) at differ
  rw [inlet, outlet] at differ
  exact differ _ (List.mem_singleton_self _) _ (List.mem_singleton_self _) rfl

end BusExporter.I3c
