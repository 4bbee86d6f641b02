import BusExporter.Model.BusLocks
import BusExporter.Proof.OpenedDevices

/-! Transactions on a bus at the same time: under the locks they come out as if one had been made after the other,
each as the readers and writers make it when alone, and none is ever stuck. -/

namespace BusExporter.Buses
open Lib Config

variable {ω : Type} (host : Host ω)

/-- What a closure comes to on a bus that nothing else uses, in the terms of the readers and writers. -/
def Transaction.alone (t : Transaction) (b : Bus ω) : Answer × Bus ω :=
  match t.call with
  | .readI2c busPath address register numBytes =>
      (b.onDevices (withContext (readI2cContext busPath address register numBytes) ∘
        (I2c.LinuxI2cDevice.opened host busPath address).writeRead [register] numBytes)).map .bytes id
  | .writeI2c busPath address idx buf =>
      (b.onDevices (withContext s!"I2C write step {idx} on {busPath}" ∘
        (I2c.LinuxI2cDevice.opened host busPath address).write buf)).map .written id
  | .readSpi devicePath txBuf =>
      (b.onDevices (withContext s!"SPI transfer on {devicePath}" ∘
        (Spi.LinuxSpiDevice.opened host devicePath).transfer txBuf)).map .bytes id
  | .writeSpi devicePath idx command =>
      (b.onDevices (withContext s!"SPI write step {idx} on {devicePath}" ∘
        (Spi.LinuxSpiDevice.opened host devicePath).transfer command)).map (fun rx => .written (rx.map fun _ => ())) id
  | .readI3c _ register numBytes =>
      (b.onClient t.owner (I3c.I3cMetricReader.readRegisterSync host register numBytes)).map .bytes id
  | .writeI3c _ idx buf =>
      (b.onClient t.owner (withContext s!"I3C write step {idx}" ∘ I3c.I3cMetricReader.writeBytes host buf)).map
        .written id

theorem run_writeRead (busPath : String) (address : UInt8) (writeBuf : List UInt8) (readLen : Nat) (b : Bus ω) :
    (writeRead host busPath address writeBuf readLen).run b =
      b.onDevices ((I2c.LinuxI2cDevice.opened host busPath address).writeRead writeBuf readLen) := by
  simp only [writeRead, Work.run_bind, Work.run_op, Bus.onDevices, I2c.LinuxI2cDevice.opened, Function.comp_apply]
  cases written : withContext "I2C write register address" (host.writeI2c busPath address writeBuf b.devices) with
  | mk outcome w => cases outcome <;> rfl

theorem run_retryRead (owner : Nat) (register : UInt8) (byteCount : Nat) (waits : List Duration) (e : Error)
    (b : Bus ω) :
    (retryRead host owner register byteCount waits e).run b =
      b.onClient owner (I3c.I3cMetricReader.retryRead host register byteCount waits e) := by
  induction waits generalizing e b with
  | nil => rfl
  | cons backoff rest ih =>
      simp only [retryRead, resolveAddress, transfer, Work.run_bind, Work.run_op, Bus.onClient, Bus.onDevices,
        I3c.I3cMetricReader.retryRead, Function.update_self, Function.update_idem]
      rcases resolved : I3c.I3cMetricReader.resolveAddress host
        ((b.clients owner).invalidateAddress, host.sleep backoff b.devices) with ⟨outcome, c, w⟩
      cases outcome with
      | error e' => simp only [ih, Bus.onClient, Function.update_self, Function.update_idem]
      | ok addr =>
          simp only [Work.run_bind, Work.run_op, Bus.onClient, Function.update_self, Function.update_idem]
          cases sent : c.device.writeRead addr [register] byteCount w with
          | mk data w' =>
              cases data with
              | error e' => simp only [ih, Bus.onClient, Function.update_self, Function.update_idem]
              | ok data => rfl

theorem run_readRegisterSync (owner : Nat) (register : UInt8) (byteCount : Nat) (b : Bus ω) :
    (readRegisterSync host owner register byteCount).run b =
      b.onClient owner (I3c.I3cMetricReader.readRegisterSync host register byteCount) := by
  simp only [readRegisterSync, resolveAddress, transfer, Work.run_bind, Work.run_op, Bus.onClient,
    I3c.I3cMetricReader.readRegisterSync]
  rcases resolved : I3c.I3cMetricReader.resolveAddress host (b.clients owner, b.devices) with ⟨outcome, c, w⟩
  cases outcome with
  | error e => rfl
  | ok addr =>
      simp only [Work.run_bind, Work.run_op, Bus.onClient, Function.update_self, Function.update_idem]
      cases sent : c.device.writeRead addr [register] byteCount w with
      | mk data w' =>
          cases data with
          | ok data => rfl
          | error e =>
              cases kind : I3c.classifyError e with
              | other =>
                  simp only [kind]
                  rfl
              | transferError =>
                  simp only [run_retryRead, Bus.onClient, Function.update_self, Function.update_idem, kind]

theorem run_writeBytes (owner : Nat) (buf : List UInt8) (b : Bus ω) :
    (writeBytes host owner buf).run b = b.onClient owner (I3c.I3cMetricReader.writeBytes host buf) := by
  simp only [writeBytes, resolveAddress, transfer, Work.run_bind, Work.run_op, Bus.onClient,
    I3c.I3cMetricReader.writeBytes]
  rcases resolved : I3c.I3cMetricReader.resolveAddress host (b.clients owner, b.devices) with ⟨outcome, c, w⟩
  cases outcome with
  | error e => rfl
  | ok addr =>
      simp only [Work.run_bind, Work.run_op, Bus.onClient, Function.update_self, Function.update_idem, withContext]
      rfl

theorem run_work (t : Transaction) (b : Bus ω) : (t.work host).run b = t.alone host b := by
  cases call : t.call with
  | readI2c busPath address register numBytes =>
      simp only [Transaction.work, Transaction.alone, call, Work.run_bind, run_writeRead]
      rfl
  | writeI2c busPath address idx buf =>
      simp only [Transaction.work, Transaction.alone, call, Work.run_bind]
      rfl
  | readSpi devicePath txBuf =>
      simp only [Transaction.work, Transaction.alone, call, Work.run_bind]
      rfl
  | writeSpi devicePath idx command =>
      simp only [Transaction.work, Transaction.alone, call, Work.run_bind]
      rfl
  | readI3c busPath register numBytes =>
      simp only [Transaction.work, Transaction.alone, call, Work.run_bind, run_readRegisterSync]
      rfl
  | writeI3c busPath idx buf =>
      simp only [Transaction.work, Transaction.alone, call, Work.run_bind, run_writeBytes]
      rfl

/-! The readers, which are alone on their bus in their own model, make the same of their metrics. -/

section Readers
variable {host} {decodeBytes : Decoder.ByteDecoder} {metric : MetricConfig} {b b' : Bus ω} {owner : Nat}
  {bytes : Result (List UInt8)}

theorem readI2cMetric_alone {client : I2c.I2cMetricReader ω} {addr : UInt16} (address : metric.address = some addr)
    (device : client.device = I2c.LinuxI2cDevice.opened host client.busPath client.address)
    (alone : Transaction.alone host ⟨owner, .readI2c client.busPath client.address addr.toUInt8
      (Decoder.byteCount (Decoder.mapDataType metric.dataType))⟩ b = (.bytes bytes, b')) :
    I2c.readI2cMetric decodeBytes metric (client, b.devices) =
      .ok (bytes.bind (Decoder.bytesValue decodeBytes metric), client, b'.devices) := by
  simp only [I2c.readI2cMetric, address, device]
  cases alone
  rfl

theorem readSpiMetric_alone {client : Spi.SpiMetricReader ω}
    (device : client.device = Spi.LinuxSpiDevice.opened host client.devicePath)
    (alone : Transaction.alone host ⟨owner, .readSpi client.devicePath (Spi.txBuf metric)⟩ b = (.bytes bytes, b')) :
    Spi.readSpiMetric decodeBytes metric (client, b.devices) =
      match bytes with
      | .error e => .ok (.error e, client, b'.devices)
      | .ok bytes =>
          if bytes.length < metric.responseOffset.toNat + Decoder.byteCount (Decoder.mapDataType metric.dataType) then
            .error .sliceOutOfRange
          else .ok (Decoder.bytesValue decodeBytes metric ((bytes.drop metric.responseOffset.toNat).take
            (Decoder.byteCount (Decoder.mapDataType metric.dataType))), client, b'.devices) := by
  rcases sent : withContext s!"SPI transfer on {client.devicePath}"
    ((Spi.LinuxSpiDevice.opened host client.devicePath).transfer (Spi.txBuf metric) b.devices) with ⟨outcome, w⟩
  simp only [Transaction.alone, Bus.onDevices, Function.comp_apply, sent] at alone
  simp only [Spi.readSpiMetric, device, sent]
  cases alone
  cases bytes <;> rfl

theorem readI3cMetric_alone {busPath : String} {addr : UInt16} (address : metric.address = some addr)
    (alone : Transaction.alone host ⟨owner, .readI3c busPath addr.toUInt8
      (Decoder.byteCount (Decoder.mapDataType metric.dataType))⟩ b = (.bytes bytes, b')) :
    I3c.readI3cMetric decodeBytes host metric (b.clients owner, b.devices) =
      .ok (bytes.bind (Decoder.bytesValue decodeBytes metric), b'.clients owner, b'.devices) := by
  simp only [I3c.readI3cMetric, address]
  cases alone
  simp only [id, Function.update_self]

end Readers

/-! So do the writers of their steps: the waits stand between the closures. -/

def Bus.sleep (delay : Option Duration) (b : Bus ω) : Bus ω :=
  { b with devices := (delay.map host.sleep).getD id b.devices }

def i2cWrite (busPath : String) (address : UInt8) (idx : Nat) (step : WriteStep) : Option Call :=
  (I2c.registerWrite step).map (.writeI2c busPath address idx)

def spiWrite (devicePath : String) (idx : Nat) (step : WriteStep) : Option Call :=
  step.command.map (.writeSpi devicePath idx)

def i3cWrite (busPath : String) (idx : Nat) (step : WriteStep) : Option Call :=
  (I2c.registerWrite step).map (.writeI3c busPath idx)

def writeSteps (owner : Nat) (write : Nat → WriteStep → Option Call) (steps : List WriteStep) (b : Bus ω) :
    Result Unit × Bus ω :=
  runSteps (fun idx step b =>
    match (write idx step).map fun call => Transaction.alone host ⟨owner, call⟩ b with
    | some (.written (.error e), b) => (.error e, b)
    | some (_, b) => (.ok (), b.sleep host step.delay)
    | none => (.ok (), b.sleep host step.delay)) steps.zipIdx b

theorem runSteps_map {σ τ : Type} (view : σ → τ) {execute : Nat → WriteStep → τ → Result Unit × τ}
    {execute' : Nat → WriteStep → σ → Result Unit × σ}
    (same : ∀ idx step s, execute idx step (view s) = (execute' idx step s).map id view)
    (steps : List (WriteStep × Nat)) (s : σ) :
    runSteps execute steps (view s) = (runSteps execute' steps s).map id view := by
  induction steps generalizing s with
  | nil => rfl
  | cons head rest ih =>
      simp only [runSteps, same]
      rcases execute' head.2 head.1 s with ⟨outcome, s'⟩
      cases outcome with
      | error e => rfl
      | ok done => exact ih s'

section Writers
variable (owner : Nat) (steps : List WriteStep) (b : Bus ω)

theorem executeI2cWrites_alone {writer : I2c.I2cMetricWriter ω} {address : UInt8}
    (device : writer.device = I2c.LinuxI2cDevice.opened host writer.busPath address) :
    I2c.executeWrites host writer steps b.devices =
      (writeSteps host owner (i2cWrite writer.busPath address) steps b).map id Bus.devices := by
  apply runSteps_map Bus.devices
  intro idx step b
  cases register : I2c.registerWrite step with
  | none => simp [i2cWrite, register, writeThenSleep, Bus.sleep]
  | some buf =>
      rcases written : (I2c.LinuxI2cDevice.opened host writer.busPath address).write buf b.devices with ⟨outcome, w⟩
      cases outcome <;>
        simp [i2cWrite, register, writeThenSleep, withContext, Bus.sleep, Transaction.alone, Bus.onDevices, device,
          written, Except.mapError]

theorem executeSpiWrites_alone {writer : Spi.SpiMetricWriter ω}
    (device : writer.device = Spi.LinuxSpiDevice.opened host writer.devicePath) :
    Spi.executeWrites host writer steps b.devices =
      (writeSteps host owner (spiWrite writer.devicePath) steps b).map id Bus.devices := by
  apply runSteps_map Bus.devices
  intro idx step b
  cases command : step.command with
  | none => simp [spiWrite, command, writeThenSleep, Bus.sleep]
  | some command' =>
      rcases sent : (Spi.LinuxSpiDevice.opened host writer.devicePath).transfer command' b.devices with ⟨outcome, w⟩
      cases outcome <;>
        simp [spiWrite, command, writeThenSleep, withContext, Bus.sleep, Transaction.alone, Bus.onDevices, device,
          sent, Except.mapError, Except.map]

theorem executeI3cWrites_alone (busPath : String) :
    I3c.executeWrites host steps (b.clients owner, b.devices) =
      (writeSteps host owner (i3cWrite busPath) steps b).map id fun b => (b.clients owner, b.devices) := by
  apply runSteps_map fun b : Bus ω => (b.clients owner, b.devices)
  intro idx step b
  cases register : I2c.registerWrite step with
  | none => simp [i3cWrite, register, Bus.sleep]
  | some buf =>
      rcases written : I3c.I3cMetricReader.writeBytes host buf (b.clients owner, b.devices) with ⟨outcome, c, w⟩
      cases outcome <;>
        simp [i3cWrite, register, withContext, Bus.sleep, Transaction.alone, Bus.onClient, written, Except.mapError]

end Writers

def lockedOn (bus : BusLock) : Event → Option (Nat × Transaction)
  | .locked i t => if t.call.bus = bus then some (i, t) else none
  | _ => none

def returnedOn (bus : BusLock) : Event → Option (Nat × Answer)
  | .returned i t answer => if t.call.bus = bus then some (i, answer) else none
  | _ => none

def inTurn : List (Nat × Transaction) → Bus ω → List (Nat × Answer) × Bus ω
  | [], b => ([], b)
  | (i, t) :: rest, b =>
      let (answer, b) := t.alone host b
      let (answers, b) := inTurn rest b
      ((i, answer) :: answers, b)

theorem serial_inTurn (started : List (Nat × Transaction)) (b : Bus ω) :
    Critical.serial (transactions host) started b = inTurn host started b := by
  induction started generalizing b with
  | nil => rfl
  | cons head rest ih =>
      simp only [Critical.serial, inTurn, ih]
      rw [show (transactions host).work head.2 = head.2.work host from rfl, run_work]

theorem locked_eq (bus : BusLock) : Critical.lockedOn (transactions host) bus = lockedOn bus := by
  funext e
  cases e <;> rfl

theorem returned_eq (bus : BusLock) : Critical.returnedOn (transactions host) bus = returnedOn bus := by
  funext e
  cases e <;> rfl

variable {host}

/-- Of all transactions that are under way on all buses at any one time, those on each bus have answered as if they
had been made one after the other, each alone, in the order in which they took the lock; and each took it between
its start and its end. -/
theorem transactions_serial {buses : BusLock → Bus ω} {trace : List Event} {s : State ω}
    (run : (machine host).Run { world := buses } trace s) (bus : BusLock) :
    trace.filterMap (returnedOn bus) <+: (inTurn host (trace.filterMap (lockedOn bus)) (buses bus)).1 ∧
      (s.holder bus = none → s.world bus = (inTurn host (trace.filterMap (lockedOn bus)) (buses bus)).2) ∧
      ∀ i t answer, .returned i t answer ∈ trace →
        trace.filter (·.id = i) = [.spawned i t, .locked i t, .returned i t answer] := by
  have answers := Critical.answers_serial run bus
  rw [serial_inTurn, locked_eq, returned_eq] at answers
  exact ⟨answers.1, answers.2, fun i t answer returned => Critical.events_of_job run returned⟩

def pointerHost : Host UInt8 :=
  { idleHost with
    writeI2c := fun _ _ buf _ => (.ok (), buf.headD 0)
    readI2c := fun _ _ _ w => (.ok fun _ => w, w) }

def registerRead (owner : Nat) (register : UInt8) : Transaction := ⟨owner, .readI2c "/dev/i2c-1" 0x48 register 1⟩

def idleBus : Bus UInt8 := ⟨0, fun _ => .new ⟨fun _ _ _ w => (.ok [], w)⟩ "/dev/i3c-0" (.static 8)⟩

/-- The second read starts while the first is under way, and finds its own register. -/
theorem transactions_serial_registers :
    ∃ a a' s, (machine pointerHost).Run { world := fun _ => idleBus }
        [.spawned 0 (registerRead 0 1), .locked 0 (registerRead 0 1), .spawned 1 (registerRead 1 2),
          .returned 0 (registerRead 0 1) a, .locked 1 (registerRead 1 2), .returned 1 (registerRead 1 2) a'] s ∧
      [(0, a), (1, a')] <+: [(0, .bytes (.ok [1])), (1, .bytes (.ok [2]))] := by
  have executed : ∃ a a' s, (machine pointerHost).exec { world := fun _ => idleBus }
      [.spawn 0 (registerRead 0 1), .step 0, .step 0, .step 0, .spawn 1 (registerRead 1 2), .step 0, .step 0, .step 0,
        .step 1, .step 1, .step 1, .step 1, .step 1, .step 1] =
      some ([.spawned 0 (registerRead 0 1), .locked 0 (registerRead 0 1), .spawned 1 (registerRead 1 2),
        .returned 0 (registerRead 0 1) a, .locked 1 (registerRead 1 2), .returned 1 (registerRead 1 2) a'], s) :=
    ⟨_, _, _, rfl⟩
  obtain ⟨a, a', s, executed⟩ := executed
  exact ⟨a, a', s, Machine.exec_run executed, (transactions_serial (Machine.exec_run executed) (.i2c "/dev/i2c-1")).1⟩

/-- A transaction never waits for its device once it has its bus, and can return from every state that is reached. -/
theorem transactions_return {buses : BusLock → Bus ω} {trace : List Event} {s : State ω}
    (run : (machine host).Run { world := buses } trace s) {i : Nat} {t : Transaction}
    {phase : Critical.Phase (Bus ω) Answer} (place : s.jobs i = some (t, phase)) :
    (phase = .entered → s.owner t.device = none) ∧
      ∃ later s', (machine host).Run s later s' ∧ s'.jobs i = some (t, .returned) := by
  refine ⟨?_, Critical.can_return run place⟩
  rintro rfl
  exact (Critical.guarded_run run).unowned place

theorem transactions_return_registers :
    ∃ s, (machine pointerHost).Run { world := fun _ => idleBus }
        [.spawned 0 (registerRead 0 1), .locked 0 (registerRead 0 1), .spawned 1 (registerRead 1 2)] s ∧
      ∃ later s', (machine pointerHost).Run s later s' ∧ s'.jobs 1 = some (registerRead 1 2, .returned) := by
  have executed : ∃ s, (machine pointerHost).exec { world := fun _ => idleBus }
      [.spawn 0 (registerRead 0 1), .step 0, .step 0, .step 0, .spawn 1 (registerRead 1 2)] =
      some ([.spawned 0 (registerRead 0 1), .locked 0 (registerRead 0 1), .spawned 1 (registerRead 1 2)], s) ∧
        s.jobs 1 = some (registerRead 1 2, .waiting) := ⟨_, rfl, rfl⟩
  obtain ⟨s, executed, place⟩ := executed
  exact ⟨s, Machine.exec_run executed, (transactions_return (Machine.exec_run executed) place).2⟩

end BusExporter.Buses
