import BusExporter.Model.Factory
import BusExporter.Proof.HostRecord
import BusExporter.Proof.OpenedDevices
import BusExporter.Proof.Readdressing
import BusExporter.Proof.Validated

/-! The writes that the steps of a collector come to on its bus. -/

namespace BusExporter.Writes
open Lib Config

inductive Action
  | write (bytes : List UInt8)
  | delay (d : Duration)

def writeOf (isSpi : Bool) (step : WriteStep) : Option (List UInt8) :=
  if isSpi then step.command else I2c.registerWrite step

def actionsOf (write : Option (List UInt8)) (delay : Option Duration) : List Action :=
  (write.map Action.write).toList ++ (delay.map Action.delay).toList

def actions (isSpi : Bool) (step : WriteStep) : List Action := actionsOf (writeOf isSpi step) step.delay

/-- A step comes to something, and each field that is set is part of it. -/
structure Used (isSpi : Bool) (step : WriteStep) : Prop where
  acts : actions isSpi step ≠ []
  address : ∀ a, step.address = some a →
    ∃ v, step.value = some v ∧ .write (a :: v.asBytes) ∈ actions isSpi step
  value : ∀ v, step.value = some v →
    ∃ a, step.address = some a ∧ .write (a :: v.asBytes) ∈ actions isSpi step
  command : ∀ bytes, step.command = some bytes → .write bytes ∈ actions isSpi step
  delay : ∀ d, step.delay = some d → .delay d ∈ actions isSpi step

theorem used_of_valid {isSpi : Bool} {label : String} {step : WriteStep}
    (valid : validateStep isSpi label step = .ok ()) : Used isSpi step := by
  cases isSpi with
  | true =>
      simp only [validateStep, validateSpiStep, andThen_ok, bailIf_ok, if_true] at valid
      obtain ⟨⟨registerless, some, -⟩, -⟩ := valid
      obtain ⟨address, value⟩ : step.address = none ∧ step.value = none := by simpa using registerless
      refine ⟨?_, ?_, ?_, ?_, ?_⟩
      · cases command : step.command <;> cases delay : step.delay <;>
          simp_all [actions, actionsOf, writeOf]
      · simp [address]
      · simp [value]
      · intro bytes command
        simp [actions, actionsOf, writeOf, command]
      · intro d delay
        simp [actions, actionsOf, delay]
  | false =>
      simp only [validateStep, validateRegisterStep, andThen_ok, bailIf_ok, Bool.false_eq_true, if_false] at valid
      obtain ⟨⟨command, both, some, -⟩, -⟩ := valid
      have command : step.command = none := by simpa using command
      refine ⟨?_, ?_, ?_, ?_, ?_⟩
      · cases address : step.address <;> cases value : step.value <;> cases delay : step.delay <;>
          simp_all [actions, actionsOf, writeOf, I2c.registerWrite]
      · intro a address
        cases value : step.value with
        | none => simp [address, value] at both
        | some v => exact ⟨v, rfl, by simp [actions, actionsOf, writeOf, I2c.registerWrite, address, value]⟩
      · intro v value
        cases address : step.address with
        | none => simp [address, value] at both
        | some a => exact ⟨a, rfl, by simp [actions, actionsOf, writeOf, I2c.registerWrite, address, value]⟩
      · simp [command]
      · intro d delay
        simp [actions, actionsOf, delay]

/-- Where a write goes: to a device on its I2C bus, to an SPI device, or to an I3C bus, whose transfer takes no
address. -/
inductive Destination
  | i2c (busPath : String) (address : UInt8)
  | spi (devicePath : String)
  | i3c (busPath : String)
deriving DecidableEq

inductive HostEvent
  | put (dest : Destination) (bytes : List UInt8) (ok : Bool)
  | enumerated (reply : Result (List (Result SysfsEntry)))
  | slept (d : Duration)

def HostEvent.Fails (mode : Option I3c.AddressMode) : HostEvent → Prop
  | .put _ _ ok => ok = false
  | .enumerated reply => ∀ m addr, mode = some m → (reply.bind m.find) ≠ .ok addr
  | .slept _ => False

/-- The writes go to the destination one after the other, each delay after its write, up to a write that fails.
Before an I3C write the address may be looked up. -/
inductive Performs (dest : Destination) (mode : Option I3c.AddressMode) : List Action → List HostEvent → Bool → Prop
  | done : Performs dest mode [] [] true
  | slept {d : Duration} {rest : List Action} {events : List HostEvent} {ok : Bool}
      (others : Performs dest mode rest events ok) : Performs dest mode (.delay d :: rest) (.slept d :: events) ok
  | wrote {bytes : List UInt8} {rest : List Action} {events : List HostEvent} {ok : Bool}
      (others : Performs dest mode rest events ok) :
      Performs dest mode (.write bytes :: rest) (.put dest bytes true :: events) ok
  | failed {bytes : List UInt8} {rest : List Action} :
      Performs dest mode (.write bytes :: rest) [.put dest bytes false] false
  | found {m : I3c.AddressMode} {reply : Result (List (Result SysfsEntry))} {addr : UInt8} {bytes : List UInt8}
      {rest : List Action} {events : List HostEvent} {ok : Bool} (given : mode = some m)
      (listed : reply.bind m.find = .ok addr) (others : Performs dest mode (.write bytes :: rest) events ok) :
      Performs dest mode (.write bytes :: rest) (.enumerated reply :: events) ok
  | unresolved {m : I3c.AddressMode} {reply : Result (List (Result SysfsEntry))} {e : Error} {bytes : List UInt8}
      {rest : List Action} (given : mode = some m) (missing : reply.bind m.find = .error e) :
      Performs dest mode (.write bytes :: rest) [.enumerated reply] false

section Performs
variable {dest : Destination} {mode : Option I3c.AddressMode}

theorem Performs.append {first second : List Action} {events events' : List HostEvent} {ok ok' : Bool}
    (performed : Performs dest mode first events ok) (all : ok = true) (next : Performs dest mode second events' ok') :
    Performs dest mode (first ++ second) (events ++ events') ok' := by
  induction performed with
  | done => exact next
  | slept others ih => exact .slept (ih all)
  | wrote others ih => exact .wrote (ih all)
  | found given listed others ih => exact .found given listed (ih all)
  | failed | unresolved => cases all

theorem Performs.stops {first : List Action} {events : List HostEvent} {ok : Bool}
    (performed : Performs dest mode first events ok) (short : ok = false) (second : List Action) :
    Performs dest mode (first ++ second) events false := by
  induction performed with
  | done => cases short
  | slept others ih => exact .slept (ih short)
  | wrote others ih => exact .wrote (ih short)
  | found given listed others ih => exact .found given listed (ih short)
  | failed => exact .failed
  | unresolved given missing => exact .unresolved given missing

theorem Performs.ok_iff {steps : List Action} {events : List HostEvent} {ok : Bool}
    (performed : Performs dest mode steps events ok) : ok = true ↔ ∀ e ∈ events, ¬e.Fails mode := by
  induction performed with
  | done => simp
  | slept others ih => simpa [HostEvent.Fails] using ih
  | wrote others ih => simpa [HostEvent.Fails] using ih
  | failed => simp [HostEvent.Fails]
  | @found m reply addr bytes rest events ok given listed others ih =>
      rw [ih, List.forall_mem_cons]
      exact ⟨fun rest => ⟨fun fails => fails m addr given listed, rest⟩, fun both => both.2⟩
  | @unresolved m reply e bytes rest given missing =>
      refine ⟨fun wrong => (by cases wrong), fun none => absurd ?_ (none _ (List.mem_singleton_self _))⟩
      intro m' addr given' listed
      obtain rfl := Option.some.inj (given.symm.trans given')
      rw [missing] at listed
      cases listed

end Performs

section Record
variable {ω : Type}

def recorded (host : Host ω) : Host (ω × List HostEvent) :=
  host.recorded
    { wroteI2c := fun busPath address bytes ok => some (.put (.i2c busPath address) bytes ok)
      transferredSpi := fun devicePath bytes ok => some (.put (.spi devicePath) bytes ok)
      transferredI3c := fun busPath bytes _ ok => some (.put (.i3c busPath) bytes ok)
      enumerated := fun reply => some (.enumerated reply)
      slept := fun d => some (.slept d) }

def Adds {σ : Type} (log : σ → List HostEvent) (dest : Destination) (mode : Option I3c.AddressMode)
    (steps : List Action) (s : σ)
    (result : Result Unit × σ) : Prop :=
  ∃ events, log result.2 = log s ++ events ∧ Performs dest mode steps events result.1.isOk

theorem performs_put {mode : Option I3c.AddressMode} {α : Type} (dest : Destination) (bytes : List UInt8) (r : Result α)
    {f : Result α → Result Unit} (same : ∀ r, (f r).isOk = r.isOk) :
    Performs dest mode [.write bytes] [.put dest bytes r.isOk] (f r).isOk := by
  rw [same]
  cases r with
  | error e => exact .failed
  | ok a => exact .wrote .done

theorem slept_delay (host : Host ω) (delay : Option Duration) (s : ω × List HostEvent) :
    ((delay.map (recorded host).sleep).getD id s).2 = s.2 ++ (delay.map HostEvent.slept).toList := by
  cases delay with
  | none => simp
  | some d => rfl

theorem performs_delay {dest : Destination} {mode : Option I3c.AddressMode} (delay : Option Duration) :
    Performs dest mode (delay.map Action.delay).toList (delay.map HostEvent.slept).toList true := by
  cases delay with
  | none => exact .done
  | some d => exact .slept .done

theorem adds_delayed {σ : Type} {log : σ → List HostEvent} {dest : Destination} {mode : Option I3c.AddressMode}
    {bytes : List UInt8}
    {s : σ} {result : Result Unit × σ} (written : Adds log dest mode [.write bytes] s result) (delay : Option Duration)
    {later : Result Unit × σ}
    (fails : ∀ e, result.1 = .error e → later = (.error e, result.2))
    (sleeps : result.1 = .ok () → later.1 = .ok () ∧
      log later.2 = log result.2 ++ (delay.map HostEvent.slept).toList) :
    Adds log dest mode (actionsOf (some bytes) delay) s later := by
  obtain ⟨events, grown, performed⟩ := written
  cases outcome : result.1 with
  | error e =>
      rw [fails e outcome]
      rw [outcome] at performed
      exact ⟨events, grown, performed.stops rfl _⟩
  | ok done =>
      obtain ⟨ok, slept⟩ := sleeps outcome
      rw [outcome] at performed
      refine ⟨events ++ (delay.map HostEvent.slept).toList, ?_, ?_⟩
      · rw [slept, grown, List.append_assoc]
      · rw [ok]
        exact performed.append rfl (performs_delay delay)

theorem adds_writeThenSleep (host : Host ω) {dest : Destination} {mode : Option I3c.AddressMode}
    {write : List UInt8 → ω × List HostEvent → Result Unit × (ω × List HostEvent)}
    (each : ∀ bytes s, Adds Prod.snd dest mode [.write bytes] s (write bytes s))
    (buf : Option (List UInt8)) (delay : Option Duration) (s : ω × List HostEvent) :
    Adds Prod.snd dest mode (actionsOf buf delay) s (writeThenSleep (recorded host) (buf.map write) delay s) := by
  cases buf with
  | none =>
      refine ⟨(delay.map HostEvent.slept).toList, slept_delay host delay s, ?_⟩
      exact performs_delay delay
  | some bytes =>
      rw [Option.map_some, writeThenSleep]
      have written := each bytes s
      generalize write bytes s = result at written ⊢
      obtain ⟨r, s'⟩ := result
      refine adds_delayed written delay ?_ ?_
      · rintro e ⟨⟩
        rfl
      · rintro ⟨⟩
        exact ⟨rfl, slept_delay host delay s'⟩

theorem runSteps_performs {σ : Type} {execute : Nat → WriteStep → σ → Result Unit × σ} {log : σ → List HostEvent}
    {dest : Destination} {mode : Option I3c.AddressMode} {isSpi : Bool} (Holds : σ → Prop)
    (each : ∀ idx step s, Holds s →
      Holds (execute idx step s).2 ∧ Adds log dest mode (actions isSpi step) s (execute idx step s))
    (steps : List (WriteStep × Nat)) {s : σ} (holds : Holds s) :
    Holds (runSteps execute steps s).2 ∧
      Adds log dest mode (steps.flatMap fun step => actions isSpi step.1) s (runSteps execute steps s) := by
  induction steps generalizing s with
  | nil => exact ⟨holds, [], by simp [runSteps], .done⟩
  | cons step steps ih =>
      obtain ⟨step, idx⟩ := step
      obtain ⟨kept, events, grown, performed⟩ := each idx step s holds
      rw [runSteps]
      generalize execute idx step s = result at kept grown performed ⊢
      rcases result with ⟨e | ⟨⟩, s'⟩
      · exact ⟨kept, events, grown, performed.stops rfl _⟩
      · obtain ⟨kept', events', grown', performed'⟩ := ih kept
        refine ⟨kept', events ++ events', ?_, performed.append rfl performed'⟩
        rw [grown', grown, List.append_assoc]

end Record

section Writers
variable {ω : Type} (host : Host ω)

theorem flatMap_zipIdx (isSpi : Bool) (steps : List WriteStep) :
    (steps.zipIdx.flatMap fun step => actions isSpi step.1) = steps.flatMap (actions isSpi) := by
  have firsts : steps.zipIdx.map Prod.fst = steps := List.zipIdx_map_fst 0 steps
  conv_rhs => rw [← firsts, List.flatMap_map]

theorem isOk_mapError {ε ε' α : Type} (f : ε → ε') (r : Except ε α) : (r.mapError f).isOk = r.isOk := by
  cases r <;> rfl

theorem isOk_map {ε α β : Type} (f : α → β) (r : Except ε α) : (r.map f).isOk = r.isOk := by
  cases r <;> rfl

theorem i2c_performs (mode : Option I3c.AddressMode) {busPath : String} {address : UInt8}
    (writer : I2c.I2cMetricWriter (ω × List HostEvent))
    (device : writer.device = I2c.LinuxI2cDevice.opened (recorded host) busPath address) (steps : List WriteStep)
    (s : ω × List HostEvent) :
    Adds Prod.snd (.i2c busPath address) mode (steps.flatMap (actions false)) s
      (I2c.executeWrites (recorded host) writer steps s) := by
  rw [← flatMap_zipIdx]
  refine (runSteps_performs (fun _ => True) (fun idx step s _ => ⟨trivial, ?_⟩) steps.zipIdx trivial).2
  apply adds_writeThenSleep
  intro bytes s
  rw [device]
  refine ⟨[.put (.i2c busPath address) bytes (host.writeI2c busPath address bytes s.1).1.isOk], rfl, ?_⟩
  apply performs_put _ (f := fun r => (r.mapError _).mapError _)
  intro r
  rw [isOk_mapError, isOk_mapError]

theorem spi_performs (mode : Option I3c.AddressMode) {devicePath : String}
    (writer : Spi.SpiMetricWriter (ω × List HostEvent))
    (device : writer.device = Spi.LinuxSpiDevice.opened (recorded host) devicePath) (steps : List WriteStep)
    (s : ω × List HostEvent) :
    Adds Prod.snd (.spi devicePath) mode (steps.flatMap (actions true)) s
      (Spi.executeWrites (recorded host) writer steps s) := by
  rw [← flatMap_zipIdx]
  refine (runSteps_performs (fun _ => True) (fun idx step s _ => ⟨trivial, ?_⟩) steps.zipIdx trivial).2
  apply adds_writeThenSleep
  intro bytes s
  rw [device]
  refine ⟨[.put (.spi devicePath) bytes (host.transferSpi devicePath bytes s.1).1.isOk], rfl, ?_⟩
  apply performs_put _ (f := fun r => (((r.mapError _).map List.ofFn).mapError _).map fun _ => ())
  intro r
  rw [isOk_map, isOk_mapError, isOk_map, isOk_mapError]

abbrev Client (ω : Type) := I3c.I3cMetricReader (ω × List HostEvent) × (ω × List HostEvent)

def Stays (host : Host ω) (busPath : String) (m : I3c.AddressMode) (s : Client ω) : Prop :=
  s.1.device = I3c.LinuxI3cDevice.opened (recorded host) busPath ∧ s.1.busPath = busPath ∧ s.1.addressMode = m

theorem i3c_send {busPath : String} (mode : Option I3c.AddressMode) {c : I3c.I3cMetricReader (ω × List HostEvent)}
    (device : c.device = I3c.LinuxI3cDevice.opened (recorded host) busPath) (addr : UInt8) (bytes : List UInt8)
    (w : ω × List HostEvent) :
    Adds (·.2.2) (.i3c busPath) mode [.write bytes] (c, w)
      ((withContext "I3C write_bytes" (c.device.writeRead addr bytes 0 w)).1.map fun _ => (), c,
        (withContext "I3C write_bytes" (c.device.writeRead addr bytes 0 w)).2) := by
  rw [device]
  refine ⟨[.put (.i3c busPath) bytes (host.transferI3c busPath bytes 0 w.1).1.isOk], rfl, ?_⟩
  apply performs_put _ (f := fun r => (((r.mapError _).map List.ofFn).mapError _).map fun _ => ())
  intro r
  rw [isOk_map, isOk_mapError, isOk_map, isOk_mapError]

theorem i3c_write {busPath : String} {m : I3c.AddressMode} {s : Client ω} (stays : Stays host busPath m s)
    (bytes : List UInt8) :
    Stays host busPath m (I3c.I3cMetricReader.writeBytes (recorded host) bytes s).2 ∧
      Adds (·.2.2) (.i3c busPath) (some m) [.write bytes] s
        (I3c.I3cMetricReader.writeBytes (recorded host) bytes s) := by
  obtain ⟨device, bus, mode⟩ := stays
  unfold I3c.I3cMetricReader.writeBytes
  cases cached : s.1.resolvedAddress with
  | some addr =>
      rw [I3c.resolveAddress_cached _ cached]
      exact ⟨⟨device, bus, mode⟩, i3c_send host (some m) device addr bytes s.2⟩
  | none =>
      have resolved := I3c.resolveAddress_uncached (recorded host) cached
      rw [mode] at resolved
      rcases resolved with ⟨e, e', missing, unresolved⟩ | ⟨addr, listed, found⟩
      · rw [unresolved]
        exact ⟨⟨device, bus, mode⟩, [.enumerated (host.readI3cSysfs s.2.1).1], rfl, .unresolved rfl missing⟩
      · rw [found]
        obtain ⟨events, grown, performed⟩ := i3c_send host (some m)
          (c := { s.1 with resolvedAddress := some addr }) device addr bytes ((recorded host).readI3cSysfs s.2).2
        refine ⟨⟨device, bus, mode⟩, .enumerated (host.readI3cSysfs s.2.1).1 :: events, ?_,
          .found rfl listed performed⟩
        exact grown.trans (List.append_assoc s.2.2 [.enumerated (host.readI3cSysfs s.2.1).1] events)

theorem i3c_performs {busPath : String} {m : I3c.AddressMode} {s : Client ω} (stays : Stays host busPath m s)
    (steps : List WriteStep) :
    Stays host busPath m (I3c.executeWrites (recorded host) steps s).2 ∧
      Adds (·.2.2) (.i3c busPath) (some m) (steps.flatMap (actions false)) s
        (I3c.executeWrites (recorded host) steps s) := by
  rw [← flatMap_zipIdx]
  refine runSteps_performs (Stays host busPath m) (fun idx step s stays => ?_) steps.zipIdx stays
  unfold actions writeOf
  cases I2c.registerWrite step with
  | none => exact ⟨stays, _, slept_delay host step.delay s.2, performs_delay step.delay⟩
  | some buf =>
      obtain ⟨kept, written⟩ := i3c_write host stays buf
      simp only [withContext]
      generalize I3c.I3cMetricReader.writeBytes (recorded host) buf s = result at kept written ⊢
      obtain ⟨r, s'⟩ := result
      cases r with
      | error e =>
          obtain ⟨events, grown, performed⟩ := written
          exact ⟨kept, events, grown, performed.stops rfl _⟩
      | ok done =>
          refine ⟨kept, adds_delayed written step.delay ?_ ?_⟩
          · rintro e ⟨⟩
          · rintro -
            exact ⟨rfl, slept_delay host step.delay s'.2⟩

end Writers

def destinationOf (c : CollectorConfig) : Option Destination :=
  match c.protocol with
  | .i2c bus address => some (.i2c bus address)
  | .spi device .. => some (.spi device)
  | .i3c bus .. => some (.i3c bus)
  | _ => none

def modeOf (c : CollectorConfig) : Option I3c.AddressMode :=
  match c.protocol with
  | .i3c _ pid address deviceClass instance_ => (addressMode pid address deviceClass instance_).toOption
  | _ => none

inductive Writer {κ ω : Type} (platform : Platform κ ω) (c : CollectorConfig) : BusWriter ω → Prop
  | created {w w' : ω} {writer : BusWriter ω} (made : createWriter platform c w = .ok (.ok (some writer), w')) :
      Writer platform c writer
  | wrote {writer : BusWriter ω} (earlier : Writer platform c writer) (steps : List WriteStep) (w : ω) :
      Writer platform c (BusWriter.executeWrites platform steps (writer, w)).2.1

section Collector
variable {κ ω : Type} {modbus : Modbus.TokioModbus κ (ω × List HostEvent)} {host : Host ω}

def recordedPlatform (modbus : Modbus.TokioModbus κ (ω × List HostEvent)) (host : Host ω) :
    Platform κ (ω × List HostEvent) where
  modbus
  host := recorded host

theorem executeWrites_performs {c : CollectorConfig} {writer : BusWriter (ω × List HostEvent)}
    (onBus : writer.OnBus (recorded host) c) (steps : List WriteStep) (w : ω × List HostEvent) :
    (BusWriter.executeWrites (recordedPlatform modbus host) steps (writer, w)).2.1.OnBus (recorded host) c ∧
      ∃ dest, destinationOf c = some dest ∧
        Adds (·.2.2) dest (modeOf c) (steps.flatMap (actions c.protocol.isSpi)) (writer, w)
          (BusWriter.executeWrites (recordedPlatform modbus host) steps (writer, w)) := by
  cases writer with
  | i2c writer =>
      obtain ⟨bus, address, protocol, device⟩ := onBus
      refine ⟨⟨bus, address, protocol, device⟩, .i2c bus address, by rw [destinationOf, protocol], ?_⟩
      rw [protocol]
      exact i2c_performs host (modeOf c) writer device steps w
  | spi writer =>
      obtain ⟨path, speedHz, mode, bitsPerWord, protocol, device⟩ := onBus
      refine ⟨⟨path, speedHz, mode, bitsPerWord, protocol, device⟩, .spi path, by rw [destinationOf, protocol], ?_⟩
      rw [protocol]
      exact spi_performs host (modeOf c) writer device steps w
  | i3c client =>
      obtain ⟨bus, pid, address, deviceClass, instance_, protocol, device, path, addressed⟩ := onBus
      have given : modeOf c = some client.addressMode := by
        rw [modeOf, protocol]
        simp only [addressed]
        rfl
      obtain ⟨⟨device', path', same⟩, performed⟩ :=
        i3c_performs host (s := (client, w)) ⟨device, path, rfl⟩ steps
      refine ⟨⟨bus, pid, address, deviceClass, instance_, protocol, device', path', ?_⟩, .i3c bus,
        by rw [destinationOf, protocol], ?_⟩
      · rw [addressed, ← same]
        rfl
      · rw [given, protocol]
        exact performed

theorem writer_onBus {c : CollectorConfig} {writer : BusWriter (ω × List HostEvent)}
    (writers : Writer (recordedPlatform modbus host) c writer) : writer.OnBus (recorded host) c := by
  induction writers with
  | created made => exact createWriter_onBus made
  | wrote earlier steps w ih => exact (executeWrites_performs ih steps w).1

theorem steps_valid {c : CollectorConfig} (valid : validateWrites c = .ok ()) {steps : List WriteStep}
    (listed : steps = c.initWrites ∨ steps = c.prePoll) {step : WriteStep} (member : step ∈ steps) :
    ∃ label, validateStep c.protocol.isSpi label step = .ok () := by
  simp only [validateWrites, andThen_ok, bailIf_ok, forEach_ok, List.forall_mem_cons, List.not_mem_nil,
    false_imp_iff, implies_true, and_true] at valid
  have firsts : steps.zipIdx.map Prod.fst = steps := List.zipIdx_map_fst 0 steps
  rw [← firsts] at member
  obtain ⟨numbered, here, rfl⟩ := List.mem_map.mp member
  rcases listed with rfl | rfl
  · exact ⟨_, valid.2.1 numbered here⟩
  · exact ⟨_, valid.2.2 numbered here⟩

/-- The steps of a validated collector go to its device in their order up to the first write that fails, and no
field of a step is left out. -/
theorem executeWrites_exact (modbus : Modbus.TokioModbus κ (ω × List HostEvent)) (host : Host ω) {config : Config}
    (valid : config.validate = .ok ()) {c : CollectorConfig} (member : c ∈ config.collectors)
    {writer : BusWriter (ω × List HostEvent)} (writers : Writer (recordedPlatform modbus host) c writer)
    {steps : List WriteStep} (listed : steps = c.initWrites ∨ steps = c.prePoll) (w : ω × List HostEvent) :
    (∃ dest events, destinationOf c = some dest ∧
      (BusWriter.executeWrites (recordedPlatform modbus host) steps (writer, w)).2.2.2 = w.2 ++ events ∧
      Performs dest (modeOf c) (steps.flatMap (actions c.protocol.isSpi)) events
        (BusWriter.executeWrites (recordedPlatform modbus host) steps (writer, w)).1.isOk ∧
      ((BusWriter.executeWrites (recordedPlatform modbus host) steps (writer, w)).1 = .ok () ↔
        ∀ e ∈ events, ¬e.Fails (modeOf c))) ∧
    ∀ step ∈ steps, Used c.protocol.isSpi step := by
  constructor
  · obtain ⟨dest, written, events, grown, performed⟩ := (executeWrites_performs (writer_onBus writers) steps w).2
    refine ⟨dest, events, written, grown, performed, ?_⟩
    rw [← performed.ok_iff]
    cases (BusWriter.executeWrites (recordedPlatform modbus host) steps (writer, w)).1 with
    | error e => exact ⟨fun wrong => (by cases wrong), fun wrong => (by cases wrong)⟩
    | ok done => exact ⟨fun _ => rfl, fun _ => rfl⟩
  · intro step used
    have checked := (validateCollector_ok.mp (validate_collector valid member)).2.2.2.1
    obtain ⟨label, stepValid⟩ := steps_valid checked listed used
    exact used_of_valid stepValid

end Collector

def sensorSteps : List WriteStep :=
  [{ address := some 1, value := some (.multi [0x12, 0x34]), delay := some 10000000 },
   { address := some 2, value := some (.single 1) }, { delay := some 5000000 }]

def sensor : CollectorConfig :=
  { name := "sensor", protocol := .i2c "/dev/i2c-1" 0x48, initWrites := sensorSteps
    metrics := [{ name := "level", metricType := .gauge, dataType := .u16, address := some 0 }] }

def sensorConfig : Config where
  exporters := { prometheus := some { enabled := true } }
  collectors := [sensor]

def sensorHost : Host Unit :=
  { idleHost with
    writeI2c := fun _ _ data w => (if data.head? = some 2 then .error ⟨"Remote I/O error", []⟩ else .ok (), w) }

def sensorWriter : BusWriter (Unit × List HostEvent) :=
  .i2c { device := I2c.LinuxI2cDevice.opened (recorded sensorHost) "/dev/i2c-1" 0x48, busPath := "/dev/i2c-1" }

theorem executeWrites_exact_sensor :
    Performs (.i2c "/dev/i2c-1" 0x48) none
        [.write [1, 0x12, 0x34], .delay 10000000, .write [2, 1], .delay 5000000]
        [.put (.i2c "/dev/i2c-1" 0x48) [1, 0x12, 0x34] true, .slept 10000000,
          .put (.i2c "/dev/i2c-1" 0x48) [2, 1] false] false ∧
      ∀ step ∈ sensorSteps, Used false step := by
  have valid : sensorConfig.validate = .ok () := by decide
  have made : createWriter (recordedPlatform idleModbus sensorHost) sensor ((), []) =
      .ok (.ok (some sensorWriter), ((), [])) := rfl
  obtain ⟨⟨dest, events, written, grown, performed, -⟩, used⟩ := executeWrites_exact idleModbus sensorHost valid
    (List.mem_singleton_self sensor) (.created made) (.inl rfl) ((), [])
  have done : (BusWriter.executeWrites (recordedPlatform idleModbus sensorHost) sensor.initWrites
      (sensorWriter, (), [])).2.2.2 = [.put (.i2c "/dev/i2c-1" 0x48) [1, 0x12, 0x34] true, .slept 10000000,
        .put (.i2c "/dev/i2c-1" 0x48) [2, 1] false] := rfl
  cases written
  obtain rfl := done.symm.trans grown
  exact ⟨performed, used⟩

end BusExporter.Writes
