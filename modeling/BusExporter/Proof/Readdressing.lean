import BusExporter.Lib.Lists
import BusExporter.Proof.PidMatching

/-! Which address an I3C client's transfers go to. The client keeps a record of its enumerations and
transfers: within a read each retry enumerates again, but a call that ends with a failed transfer leaves
the old address cached for the next call. -/

namespace BusExporter.I3c
open Lib Config

variable {ω : Type}

inductive BusEvent
  | enumerated (reply : Result (List (Result SysfsEntry)))
  | transfer (addr : UInt8) (ok : Bool)

def unrecorded {α : Type} (step : ω → α × ω) (s : ω × List BusEvent) : α × (ω × List BusEvent) :=
  ((step s.1).1, (step s.1).2, s.2)

def recordedHost (host : Host ω) : Host (ω × List BusEvent) where
  openI2c path := unrecorded (host.openI2c path)
  ioctlI2cSlave path addr := unrecorded (host.ioctlI2cSlave path addr)
  writeI2c path addr data := unrecorded (host.writeI2c path addr data)
  readI2c path addr n := unrecorded (host.readI2c path addr n)
  openSpi path := unrecorded (host.openSpi path)
  configureSpi path speedHz mode bits := unrecorded (host.configureSpi path speedHz mode bits)
  transferSpi path tx := unrecorded (host.transferSpi path tx)
  openI3c path := unrecorded (host.openI3c path)
  transferI3c path writeBuf n := unrecorded (host.transferI3c path writeBuf n)
  readI3cSysfs s :=
    let (reply, w) := host.readI3cSysfs s.1
    (reply, w, s.2 ++ [.enumerated reply])
  sleep d s := (host.sleep d s.1, s.2)

def recordedDevice (device : I3cDevice ω) : I3cDevice (ω × List BusEvent) where
  writeRead addr writeBuf readLen s :=
    let (data, w) := device.writeRead addr writeBuf readLen s.1
    (data, w, s.2 ++ [.transfer addr data.isOk])

abbrev Client (ω : Type) := I3cMetricReader (ω × List BusEvent) × (ω × List BusEvent)

def log (s : Client ω) : List BusEvent := s.2.2

inductive Call (ω : Type)
  | readRegister (register : UInt8) (byteCount : Nat)
  | writeBytes (buf : List UInt8)
  | setConnected (connected : Bool)
  | elsewhere (change : ω → ω)

def Call.transfers : Call ω → Bool
  | .readRegister _ _ | .writeBytes _ => true
  | .setConnected _ | .elsewhere _ => false

def perform (host : Host ω) (s : Client ω) : Call ω → Client ω
  | .readRegister register byteCount =>
      (I3cMetricReader.readRegisterSync (recordedHost host) register byteCount s).2
  | .writeBytes buf => (I3cMetricReader.writeBytes (recordedHost host) buf s).2
  | .setConnected connected => ({ s.1 with connected }, s.2)
  | .elsewhere change => (s.1, change s.2.1, s.2.2)

def performAll (host : Host ω) (calls : List (Call ω)) (s : Client ω) : Client ω :=
  calls.foldl (perform host) s

def created (device : I3cDevice ω) (busPath : String) (mode : AddressMode) (w : ω) : Client ω :=
  (I3cMetricReader.new (recordedDevice device) busPath mode, w, [])

def AddressMode.find : AddressMode → List (Result SysfsEntry) → Result UInt8
  | .pid provisioned, entries => findPid provisioned entries
  | .static addr, _ => .ok addr
  | .deviceClass class_ instance_, entries => findClass class_ instance_ entries

def Current (mode : AddressMode) (addr : UInt8) (log : List BusEvent) : Prop :=
  ∀ before failed after, log = before ++ .transfer failed false :: after →
    ∃ entries, .enumerated (.ok entries) ∈ after ∧ mode.find entries = .ok addr

def Readdressed (mode : AddressMode) (log : List BusEvent) : Prop :=
  ∀ before addr ok after, log = before ++ .transfer addr ok :: after → Current mode addr before

def EndsFailed (log : List BusEvent) : Prop := ∃ before addr, log = before ++ [.transfer addr false]

theorem ends_failed_append (log : List BusEvent) (e : BusEvent) :
    EndsFailed (log ++ [e]) ↔ ∃ addr, e = .transfer addr false := by
  constructor
  · rintro ⟨before, addr, split⟩
    exact ⟨addr, List.singleton_inj.mp (List.append_inj' split rfl).2⟩
  · rintro ⟨addr, rfl⟩
    exact ⟨log, addr, rfl⟩

theorem Current.append {mode : AddressMode} {addr : UInt8} {log : List BusEvent}
    (current : Current mode addr log) {e : BusEvent} (passed : ∀ failed, e ≠ .transfer failed false) :
    Current mode addr (log ++ [e]) := by
  intro before failed after split
  rcases append_one_eq_append_cons split with ⟨-, here, -⟩ | ⟨rest, earlier, rfl⟩
  · exact absurd here.symm (passed failed)
  · obtain ⟨entries, listed, found⟩ := current before failed rest earlier
    exact ⟨entries, List.mem_append_left _ listed, found⟩

theorem current_of_enumerated {mode : AddressMode} {addr : UInt8} {entries : List (Result SysfsEntry)}
    (found : mode.find entries = .ok addr) (log : List BusEvent) :
    Current mode addr (log ++ [.enumerated (.ok entries)]) := by
  intro before failed after split
  rcases append_one_eq_append_cons split with ⟨-, here, -⟩ | ⟨rest, -, rfl⟩
  · cases here
  · exact ⟨entries, by simp, found⟩

theorem Readdressed.append {mode : AddressMode} {log : List BusEvent} (readdressed : Readdressed mode log)
    {e : BusEvent} (sent : ∀ addr ok, e = .transfer addr ok → Current mode addr log) :
    Readdressed mode (log ++ [e]) := by
  intro before addr ok after split
  rcases append_one_eq_append_cons split with ⟨rfl, here, -⟩ | ⟨rest, earlier, -⟩
  · exact sent addr ok here.symm
  · exact readdressed before addr ok rest earlier

theorem not_current_of_ends_failed {mode : AddressMode} {addr : UInt8} {log : List BusEvent}
    (failed : EndsFailed log) : ¬Current mode addr log := by
  obtain ⟨before, last, rfl⟩ := failed
  intro current
  obtain ⟨entries, listed, -⟩ := current before last [] rfl
  cases listed

def Is (mode : AddressMode) (device : I3cDevice ω) (s : Client ω) : Prop :=
  s.1.addressMode = mode ∧ s.1.device = recordedDevice device

def Holds (s : Client ω) : Prop := EndsFailed (log s) → s.1.resolvedAddress.isSome = true

def Trusted (mode : AddressMode) (s : Client ω) : Prop :=
  Readdressed mode (log s) ∧
    ∀ addr, s.1.resolvedAddress = some addr → Current mode addr (log s) ∨ EndsFailed (log s)

variable {host : Host ω} {mode : AddressMode} {device : I3cDevice ω}

theorem resolveAddressFromSysfs_eq {ω' : Type} (host : Host ω') (mode : AddressMode) (w : ω') :
    resolveAddressFromSysfs host mode w =
      (((host.readI3cSysfs w).1.mapError
        (·.context "enumerating I3C devices at /sys/bus/i3c/devices/")).bind mode.find,
        (host.readI3cSysfs w).2) := by
  unfold resolveAddressFromSysfs withContext
  cases (host.readI3cSysfs w).1 with
  | error e => rfl
  | ok entries => cases mode <;> rfl

theorem resolveAddress_uncached {ω' : Type} (host : Host ω') {s : I3cMetricReader ω' × ω'}
    (missing : s.1.resolvedAddress = none) :
    (∃ e e', (host.readI3cSysfs s.2).1.bind s.1.addressMode.find = .error e ∧
      I3cMetricReader.resolveAddress host s = (.error e', s.1, (host.readI3cSysfs s.2).2)) ∨
    ∃ addr, (host.readI3cSysfs s.2).1.bind s.1.addressMode.find = .ok addr ∧
      I3cMetricReader.resolveAddress host s =
        (.ok addr, { s.1 with resolvedAddress := some addr }, (host.readI3cSysfs s.2).2) := by
  unfold I3cMetricReader.resolveAddress
  rw [missing, resolveAddressFromSysfs_eq]
  cases (host.readI3cSysfs s.2).1 with
  | error e => exact .inl ⟨e, _, rfl, rfl⟩
  | ok entries =>
      simp only [Except.mapError, Except.bind]
      cases s.1.addressMode.find entries with
      | error e => exact .inl ⟨e, e, rfl, rfl⟩
      | ok addr => exact .inr ⟨addr, rfl, rfl⟩

theorem resolveAddress_cached {ω' : Type} (host : Host ω') {s : I3cMetricReader ω' × ω'} {addr : UInt8}
    (cached : s.1.resolvedAddress = some addr) : I3cMetricReader.resolveAddress host s = (.ok addr, s) := by
  rw [I3cMetricReader.resolveAddress, cached]

theorem resolveAddress_cases (host : Host ω) (s : Client ω) :
    (∃ addr, s.1.resolvedAddress = some addr ∧
      I3cMetricReader.resolveAddress (recordedHost host) s = (.ok addr, s)) ∨
    s.1.resolvedAddress = none ∧ ∃ reply w,
      (∃ e, I3cMetricReader.resolveAddress (recordedHost host) s =
        (.error e, s.1, w, log s ++ [.enumerated reply])) ∨
      ∃ entries addr, reply = .ok entries ∧ s.1.addressMode.find entries = .ok addr ∧
        I3cMetricReader.resolveAddress (recordedHost host) s =
          (.ok addr, { s.1 with resolvedAddress := some addr }, w, log s ++ [.enumerated reply]) := by
  cases cached : s.1.resolvedAddress with
  | some addr => exact .inl ⟨addr, rfl, resolveAddress_cached _ cached⟩
  | none =>
      refine .inr ⟨rfl, (host.readI3cSysfs s.2.1).1, (host.readI3cSysfs s.2.1).2, ?_⟩
      rcases resolveAddress_uncached (recordedHost host) cached with ⟨e, e', -, resolved⟩ | ⟨addr, found, resolved⟩
      · exact .inl ⟨e', resolved⟩
      · obtain ⟨entries, listed, found⟩ := except_bind_ok found
        exact .inr ⟨entries, addr, listed, found, resolved⟩

theorem retryRead_cases {ω' : Type} (host : Host ω') (register : UInt8) (byteCount : Nat) (wait : Duration)
    (waits : List Duration) (lastErr : Error) (s : I3cMetricReader ω' × ω') :
    ∃ r c w, I3cMetricReader.resolveAddress host (s.1.invalidateAddress, host.sleep wait s.2) = (r, c, w) ∧
      ((∃ e, r = .error e ∧ I3cMetricReader.retryRead host register byteCount (wait :: waits) lastErr s =
          I3cMetricReader.retryRead host register byteCount waits e (c, w)) ∨
        ∃ addr data w', r = .ok addr ∧ c.device.writeRead addr [register] byteCount w = (data, w') ∧
          ((∃ bytes, data = .ok bytes ∧
              I3cMetricReader.retryRead host register byteCount (wait :: waits) lastErr s = (.ok bytes, c, w')) ∨
            ∃ e, data = .error e ∧ I3cMetricReader.retryRead host register byteCount (wait :: waits) lastErr s =
              I3cMetricReader.retryRead host register byteCount waits e (c, w'))) := by
  rw [I3cMetricReader.retryRead]
  rcases I3cMetricReader.resolveAddress host (s.1.invalidateAddress, host.sleep wait s.2) with ⟨e | addr, c, w⟩
  · exact ⟨.error e, c, w, rfl, .inl ⟨e, rfl, rfl⟩⟩
  · rcases sent : c.device.writeRead addr [register] byteCount w with ⟨e | bytes, w'⟩
    · exact ⟨.ok addr, c, w, rfl, .inr ⟨addr, .error e, w', rfl, sent, .inr ⟨e, rfl, by simp only [sent]⟩⟩⟩
    · exact ⟨.ok addr, c, w, rfl, .inr ⟨addr, .ok bytes, w', rfl, sent, .inl ⟨bytes, rfl, by simp only [sent]⟩⟩⟩

theorem readRegisterSync_cases {ω' : Type} (host : Host ω') (register : UInt8) (byteCount : Nat)
    (s : I3cMetricReader ω' × ω') :
    ∃ r c w, I3cMetricReader.resolveAddress host s = (r, c, w) ∧
      ((∃ e, r = .error e ∧ I3cMetricReader.readRegisterSync host register byteCount s = (.error e, c, w)) ∨
        ∃ addr data w', r = .ok addr ∧ c.device.writeRead addr [register] byteCount w = (data, w') ∧
          ((∃ bytes, data = .ok bytes ∧
              I3cMetricReader.readRegisterSync host register byteCount s = (.ok bytes, c, w')) ∨
            ∃ e, data = .error e ∧
              ((classifyError e = .other ∧ I3cMetricReader.readRegisterSync host register byteCount s =
                  (.error (e.context "I3C read failed (non-retriable)"), c, w')) ∨
                classifyError e = .transferError ∧ I3cMetricReader.readRegisterSync host register byteCount s =
                  I3cMetricReader.retryRead host register byteCount I3cMetricReader.backoffs e (c, w')))) := by
  unfold I3cMetricReader.readRegisterSync
  rcases I3cMetricReader.resolveAddress host s with ⟨e | addr, c, w⟩
  · exact ⟨.error e, c, w, rfl, .inl ⟨e, rfl, rfl⟩⟩
  · rcases sent : c.device.writeRead addr [register] byteCount w with ⟨e | bytes, w'⟩
    · refine ⟨.ok addr, c, w, rfl, .inr ⟨addr, .error e, w', rfl, sent, .inr ⟨e, rfl, ?_⟩⟩⟩
      simp only [sent]
      cases classifyError e with
      | other => exact .inl ⟨rfl, rfl⟩
      | transferError => exact .inr ⟨rfl, rfl⟩
    · exact ⟨.ok addr, c, w, rfl, .inr ⟨addr, .ok bytes, w', rfl, sent, .inl ⟨bytes, rfl, by simp only [sent]⟩⟩⟩

structure Moves (mode : AddressMode) (device : I3cDevice ω) (s s' : Client ω) : Prop where
  same : Is mode device s → Is mode device s'
  grows : log s <+: log s'
  holds : Holds s → Holds s'

theorem Moves.refl (s : Client ω) : Moves mode device s s := ⟨id, List.prefix_rfl, id⟩

theorem Moves.trans {s s' s'' : Client ω} (first : Moves mode device s s')
    (second : Moves mode device s' s'') : Moves mode device s s'' :=
  ⟨second.same ∘ first.same, first.grows.trans second.grows, second.holds ∘ first.holds⟩

theorem resolveAddress_moves (host : Host ω) (mode : AddressMode) (device : I3cDevice ω) (s : Client ω) :
    Moves mode device s (I3cMetricReader.resolveAddress (recordedHost host) s).2 := by
  rcases resolveAddress_cases host s with
    ⟨addr, -, resolved⟩ | ⟨-, reply, w, ⟨e, resolved⟩ | ⟨entries, addr, -, -, resolved⟩⟩
  · rw [resolved]
    exact .refl s
  · rw [resolved]
    refine ⟨id, List.prefix_append _ _, fun _ failed => ?_⟩
    obtain ⟨addr, wrong⟩ := (ends_failed_append _ _).mp failed
    cases wrong
  · rw [resolved]
    exact ⟨id, List.prefix_append _ _, fun _ _ => rfl⟩

theorem resolveAddress_trusted (host : Host ω) {s : Client ω} (is : Is mode device s)
    (trusted : Trusted mode s) :
    Trusted mode (I3cMetricReader.resolveAddress (recordedHost host) s).2 := by
  have readdressed := trusted.1
  rcases resolveAddress_cases host s with
    ⟨addr, -, resolved⟩ | ⟨missing, reply, w, ⟨e, resolved⟩ | ⟨entries, addr, rfl, found, resolved⟩⟩
  · rw [resolved]
    exact trusted
  · rw [resolved]
    refine ⟨readdressed.append (by simp), fun addr cached => ?_⟩
    rw [missing] at cached
    cases cached
  · rw [resolved]
    refine ⟨readdressed.append (by simp), fun addr' cached => .inl ?_⟩
    cases cached
    rw [is.1] at found
    exact current_of_enumerated found _

theorem resolveAddress_holds {s s' : Client ω} {addr : UInt8}
    (resolved : I3cMetricReader.resolveAddress (recordedHost host) s = (.ok addr, s')) :
    s'.1.resolvedAddress = some addr := by
  rcases resolveAddress_cases host s with
    ⟨addr', cached, done⟩ | ⟨-, reply, w, ⟨e, done⟩ | ⟨entries, addr', -, -, done⟩⟩
  all_goals
    rw [resolved] at done
    cases done
  · exact cached
  · rfl

theorem resolveAddress_calm (host : Host ω) {s : Client ω}
    (calm : s.1.resolvedAddress = none ∨ ¬EndsFailed (log s)) :
    ¬EndsFailed (log (I3cMetricReader.resolveAddress (recordedHost host) s).2) := by
  rcases resolveAddress_cases host s with
    ⟨addr, cached, resolved⟩ | ⟨-, reply, w, ⟨e, resolved⟩ | ⟨entries, addr, -, -, resolved⟩⟩
  · rw [resolved]
    rw [cached] at calm
    exact calm.resolve_left (by simp)
  all_goals
    rw [resolved]
    rintro failed
    obtain ⟨addr, wrong⟩ := (ends_failed_append _ _).mp failed
    cases wrong

theorem writeRead_moves {s : Client ω} (is : Is mode device s) {addr : UInt8}
    (cached : s.1.resolvedAddress = some addr) (writeBuf : List UInt8) (readLen : Nat) :
    Moves mode device s (s.1, (s.1.device.writeRead addr writeBuf readLen s.2).2) := by
  rw [is.2]
  exact ⟨id, List.prefix_append _ _, fun _ _ => by simp [cached]⟩

theorem writeRead_trusted {s : Client ω} (is : Is mode device s) {addr : UInt8}
    (cached : s.1.resolvedAddress = some addr) (calm : ¬EndsFailed (log s)) (trusted : Trusted mode s)
    (writeBuf : List UInt8) (readLen : Nat) :
    Trusted mode (s.1, (s.1.device.writeRead addr writeBuf readLen s.2).2) := by
  have current := (trusted.2 addr cached).resolve_right calm
  rw [is.2]
  constructor
  · apply trusted.1.append
    rintro addr' ok sent
    cases sent
    exact current
  · intro addr' still
    obtain rfl : addr = addr' := Option.some.inj (cached.symm.trans still)
    simp only [log, recordedDevice]
    cases ok : (device.writeRead addr writeBuf readLen s.2.1).1.isOk with
    | true => exact .inl (current.append (by simp))
    | false => exact .inr ((ends_failed_append _ _).mpr ⟨addr, rfl⟩)

theorem attempt_moves {s s' : Client ω} {addr : UInt8} (is : Is mode device s)
    (resolved : I3cMetricReader.resolveAddress (recordedHost host) s = (.ok addr, s'))
    (writeBuf : List UInt8) (readLen : Nat) :
    Moves mode device s (s'.1, (s'.1.device.writeRead addr writeBuf readLen s'.2).2) ∧
      ((s.1.resolvedAddress = none ∨ ¬EndsFailed (log s)) → Trusted mode s →
        Trusted mode (s'.1, (s'.1.device.writeRead addr writeBuf readLen s'.2).2)) := by
  have moves : Moves mode device s s' := by
    have moved := resolveAddress_moves host mode device s
    rwa [resolved] at moved
  have cached := resolveAddress_holds resolved
  refine ⟨moves.trans (writeRead_moves (moves.same is) cached writeBuf readLen), fun calm trusted => ?_⟩
  have still := resolveAddress_trusted host is trusted
  have quiet := resolveAddress_calm host calm
  rw [resolved] at still quiet
  exact writeRead_trusted (moves.same is) cached quiet still writeBuf readLen

theorem attempt_holds {s s' : Client ω} {addr : UInt8}
    (resolved : I3cMetricReader.resolveAddress (recordedHost host) s = (.ok addr, s'))
    (w : ω × List BusEvent) : Holds (s'.1, w) := by
  intro _
  simp [resolveAddress_holds resolved]

theorem retryRead_moves (host : Host ω) (dynamic : mode.isStatic = false) (register : UInt8) (byteCount : Nat)
    (waits : List Duration) (lastErr : Error) {s : Client ω} (is : Is mode device s) :
    Moves mode device s
      (I3cMetricReader.retryRead (recordedHost host) register byteCount waits lastErr s).2 ∧
      (Trusted mode s → Trusted mode
        (I3cMetricReader.retryRead (recordedHost host) register byteCount waits lastErr s).2) := by
  induction waits generalizing lastErr s with
  | nil => exact ⟨.refl s, id⟩
  | cons backoff rest ih =>
      -- the address is forgotten before the retry resolves it, so the retry enumerates
      have forgotten : (s.1.invalidateAddress.resolvedAddress = none) ∧
          Is mode device (s.1.invalidateAddress, (recordedHost host).sleep backoff s.2) := by
        unfold I3cMetricReader.invalidateAddress
        simp only [is.1, dynamic, Bool.false_eq_true, if_false]
        exact ⟨trivial, rfl, is.2⟩
      have untrusted : Trusted mode s →
          Trusted mode (s.1.invalidateAddress, (recordedHost host).sleep backoff s.2) := by
        intro trusted
        refine ⟨trusted.1, fun addr cached => ?_⟩
        rw [forgotten.1] at cached
        cases cached
      have moves := resolveAddress_moves host mode device
        (s.1.invalidateAddress, (recordedHost host).sleep backoff s.2)
      have kept := fun trusted => resolveAddress_trusted host forgotten.2 (untrusted trusted)
      have calm : ¬EndsFailed (log (I3cMetricReader.resolveAddress (recordedHost host)
          (s.1.invalidateAddress, (recordedHost host).sleep backoff s.2)).2) :=
        resolveAddress_calm host (.inl forgotten.1)
      obtain ⟨r, c, w, resolved, turn⟩ :=
        retryRead_cases (recordedHost host) register byteCount backoff rest lastErr s
      rw [resolved] at moves kept calm
      rcases turn with ⟨e, -, same⟩ | ⟨addr, data, w', rfl, sent, other⟩
      · rw [same]
        obtain ⟨later, trusted⟩ := ih e (moves.same forgotten.2)
        exact ⟨⟨fun _ => later.same (moves.same forgotten.2), moves.grows.trans later.grows,
          fun _ => later.holds fun failed => absurd failed calm⟩, trusted ∘ kept⟩
      · obtain ⟨tried, fresh⟩ := attempt_moves forgotten.2 resolved [register] byteCount
        have held := attempt_holds resolved (c.device.writeRead addr [register] byteCount w).2
        simp only [sent] at tried fresh held
        have trusted : Trusted mode s → Trusted mode (c, w') := fun before =>
          fresh (.inl forgotten.1) (untrusted before)
        rcases other with ⟨bytes, -, same⟩ | ⟨e, -, same⟩
        · rw [same]
          exact ⟨⟨fun _ => tried.same forgotten.2, tried.grows, fun _ => held⟩, trusted⟩
        · rw [same]
          obtain ⟨later, trustedLater⟩ := ih e (tried.same forgotten.2)
          exact ⟨⟨fun _ => later.same (tried.same forgotten.2), tried.grows.trans later.grows,
            fun _ => later.holds held⟩, trustedLater ∘ trusted⟩

theorem writeBytes_moves (host : Host ω) {s : Client ω} (is : Is mode device s) (buf : List UInt8) :
    Moves mode device s (I3cMetricReader.writeBytes (recordedHost host) buf s).2 ∧
      ((s.1.resolvedAddress = none ∨ ¬EndsFailed (log s)) → Trusted mode s →
        Trusted mode (I3cMetricReader.writeBytes (recordedHost host) buf s).2) := by
  unfold I3cMetricReader.writeBytes
  have moves := resolveAddress_moves host mode device s
  have kept := resolveAddress_trusted host is
  cases resolved : I3cMetricReader.resolveAddress (recordedHost host) s with
  | mk reply s' =>
      rw [resolved] at moves kept
      cases reply with
      | error e => exact ⟨moves, fun _ => kept⟩
      | ok addr => exact attempt_moves is resolved buf 0

theorem readRegisterSync_moves (host : Host ω) (dynamic : mode.isStatic = false) {s : Client ω}
    (is : Is mode device s) (register : UInt8) (byteCount : Nat) :
    Moves mode device s (I3cMetricReader.readRegisterSync (recordedHost host) register byteCount s).2 ∧
      ((s.1.resolvedAddress = none ∨ ¬EndsFailed (log s)) → Trusted mode s →
        Trusted mode (I3cMetricReader.readRegisterSync (recordedHost host) register byteCount s).2) := by
  obtain ⟨r, c, w, resolved, outcome⟩ := readRegisterSync_cases (recordedHost host) register byteCount s
  have moves := resolveAddress_moves host mode device s
  have kept := resolveAddress_trusted host is
  rw [resolved] at moves kept
  rcases outcome with ⟨e, -, same⟩ | ⟨addr, data, w', rfl, sent, other⟩
  · rw [same]
    exact ⟨moves, fun _ => kept⟩
  · obtain ⟨tried, fresh⟩ := attempt_moves is resolved [register] byteCount
    simp only [sent] at tried fresh
    rcases other with ⟨bytes, -, same⟩ | ⟨e, -, ⟨-, same⟩ | ⟨-, same⟩⟩
    · rw [same]
      exact ⟨tried, fresh⟩
    · rw [same]
      exact ⟨tried, fresh⟩
    · rw [same]
      obtain ⟨later, trusted⟩ := retryRead_moves host dynamic register byteCount
        I3cMetricReader.backoffs e (tried.same is)
      exact ⟨tried.trans later, fun calm => trusted ∘ fresh calm⟩

theorem perform_moves (host : Host ω) (dynamic : mode.isStatic = false) {s : Client ω} (is : Is mode device s)
    (call : Call ω) : Moves mode device s (perform host s call) ∧
      ((call.transfers = true → ¬EndsFailed (log s)) → Trusted mode s →
        Trusted mode (perform host s call)) := by
  cases call with
  | readRegister register byteCount =>
      obtain ⟨moves, trusted⟩ := readRegisterSync_moves host dynamic is register byteCount
      exact ⟨moves, fun calm => trusted (.inr (calm rfl))⟩
  | writeBytes buf =>
      obtain ⟨moves, trusted⟩ := writeBytes_moves host is buf
      exact ⟨moves, fun calm => trusted (.inr (calm rfl))⟩
  | setConnected connected => exact ⟨⟨id, List.prefix_rfl, id⟩, fun _ => id⟩
  | elsewhere change => exact ⟨⟨id, List.prefix_rfl, id⟩, fun _ => id⟩

theorem perform_reuses (host : Host ω) (dynamic : mode.isStatic = false) {s : Client ω}
    (is : Is mode device s) (holds : Holds s) (failed : EndsFailed (log s)) {call : Call ω}
    (transfers : call.transfers = true) :
    ∃ addr ok, log s ++ [.transfer addr ok] <+: log (perform host s call) := by
  rcases resolveAddress_cases host s with ⟨addr, cached, resolved⟩ | ⟨missing, -⟩
  · refine ⟨addr, ?_⟩
    have tried := (attempt_moves is resolved)
    cases call with
    | setConnected connected => cases transfers
    | elsewhere change => cases transfers
    | writeBytes buf =>
        simp only [perform, I3cMetricReader.writeBytes, resolved, is.2]
        exact ⟨_, List.prefix_rfl⟩
    | readRegister register byteCount =>
        have first := (tried [register] byteCount).1.same is
        have sent : log (s.1, (s.1.device.writeRead addr [register] byteCount s.2).2) =
            log s ++ [.transfer addr (device.writeRead addr [register] byteCount s.2.1).1.isOk] := by
          rw [is.2]
          rfl
        refine ⟨(device.writeRead addr [register] byteCount s.2.1).1.isOk, ?_⟩
        rw [perform, ← sent]
        obtain ⟨r, c, w, again, outcome⟩ := readRegisterSync_cases (recordedHost host) register byteCount s
        cases resolved.symm.trans again
        rcases outcome with ⟨e, wrong, -⟩ | ⟨addr', data, w', same, answered, other⟩
        · cases wrong
        · cases same
          simp only [answered] at first ⊢
          rcases other with ⟨bytes, -, same⟩ | ⟨e, -, ⟨-, same⟩ | ⟨-, same⟩⟩
          · rw [same]
          · rw [same]
          · rw [same]
            exact (retryRead_moves host dynamic register byteCount _ e first).1.grows
  · have held := holds failed
    rw [missing] at held
    cases held

theorem performAll_moves (host : Host ω) (dynamic : mode.isStatic = false) {s : Client ω}
    (is : Is mode device s) (calls : List (Call ω)) : Moves mode device s (performAll host calls s) := by
  induction calls generalizing s with
  | nil => exact .refl s
  | cons call rest ih =>
      have first := (perform_moves host dynamic is call).1
      exact first.trans (ih (first.same is))

theorem performAll_trusted (dynamic : mode.isStatic = false) {s : Client ω} (is : Is mode device s)
    (trusted : Trusted mode s) {calls : List (Call ω)}
    (calm : ∀ before call after, calls = before ++ call :: after → call.transfers = true →
      ¬EndsFailed (log (performAll host before s))) : Trusted mode (performAll host calls s) := by
  induction calls generalizing s with
  | nil => exact trusted
  | cons call rest ih =>
      obtain ⟨moves, kept⟩ := perform_moves host dynamic is call
      apply ih (moves.same is) (kept (calm [] call rest rfl) trusted)
      rintro before next after rfl
      exact calm (call :: before) next after rfl

theorem performAll_append (before after : List (Call ω)) (s : Client ω) :
    performAll host (before ++ after) s = performAll host after (performAll host before s) :=
  List.foldl_append

theorem created_is (mode : AddressMode) (device : I3cDevice ω) (busPath : String) (w : ω) :
    Is mode device (created device busPath mode w) := ⟨rfl, rfl⟩

theorem created_trusted (dynamic : mode.isStatic = false) (busPath : String) (w : ω) :
    Trusted mode (created device busPath mode w) := by
  refine ⟨fun before addr ok after split => by simp [log, created] at split, fun addr cached => ?_⟩
  cases mode with
  | static fixed => cases dynamic
  | pid provisioned => cases cached
  | deviceClass class_ instance_ => cases cached

theorem created_holds (busPath : String) (w : ω) : Holds (created device busPath mode w) := by
  rintro ⟨before, addr, split⟩
  simp [log, created] at split

/-- Every transfer goes to an address resolved after the last failure just when no call follows one
that ended with a failed transfer: a failed write, a read that failed without a retry, or a read whose
last retry's transfer failed. -/
theorem readdressed_iff (host : Host ω) (device : I3cDevice ω) (busPath : String) {mode : AddressMode}
    (dynamic : mode.isStatic = false) (calls : List (Call ω)) (w : ω) :
    Readdressed mode (log (performAll host calls (created device busPath mode w))) ↔
      ∀ before call after, calls = before ++ call :: after → call.transfers = true →
        ¬EndsFailed (log (performAll host before (created device busPath mode w))) := by
  have is := created_is mode device busPath w
  constructor
  · rintro readdressed before call after rfl transfers failed
    have moves := performAll_moves host dynamic is before
    obtain ⟨addr, ok, reused⟩ := perform_reuses host dynamic (moves.same is)
      (moves.holds (created_holds busPath w)) failed transfers
    have next := (perform_moves host dynamic (moves.same is) call).1.same (moves.same is)
    have later := (performAll_moves host dynamic next after).grows
    obtain ⟨rest, split⟩ := reused.trans later
    rw [performAll_append] at readdressed
    apply not_current_of_ends_failed failed
    apply readdressed _ addr ok rest
    rw [List.append_assoc] at split
    exact split.symm
  · intro calm
    exact (performAll_trusted dynamic is (created_trusted dynamic busPath w) calm).1

def Performs (host : Host ω) (s s' : Client ω) : Prop := ∃ calls, s' = performAll host calls s

theorem Performs.trans {s s' s'' : Client ω} (first : Performs host s s') (second : Performs host s' s'') :
    Performs host s s'' := by
  obtain ⟨calls, rfl⟩ := first
  obtain ⟨more, rfl⟩ := second
  exact ⟨calls ++ more, (performAll_append calls more s).symm⟩

theorem performs_call (host : Host ω) (call : Call ω) (s : Client ω) :
    Performs host s (perform host s call) := ⟨[call], rfl⟩

theorem sleep_performs (delay : Option Duration) (s : Client ω) :
    Performs host s (s.1, (delay.map (recordedHost host).sleep).getD id s.2) := by
  cases delay with
  | none => exact ⟨[], rfl⟩
  | some d => exact performs_call host (.elsewhere (host.sleep d)) s

theorem runSteps_performs {execute : Nat → WriteStep → Client ω → Result Unit × Client ω}
    (performs : ∀ idx step s, Performs host s (execute idx step s).2) (steps : List (WriteStep × Nat))
    (s : Client ω) : Performs host s (runSteps execute steps s).2 := by
  induction steps generalizing s with
  | nil => exact ⟨[], rfl⟩
  | cons head rest ih =>
      obtain ⟨step, idx⟩ := head
      have first := performs idx step s
      unfold runSteps
      cases executed : execute idx step s with
      | mk result s' =>
          rw [executed] at first
          cases result with
          | error e => exact first
          | ok done => exact first.trans (ih s')

theorem executeWrites_performs (steps : List WriteStep) (s : Client ω) :
    Performs host s (executeWrites (recordedHost host) steps s).2 := by
  apply runSteps_performs
  intro idx step s
  cases I2c.registerWrite step with
  | none => exact sleep_performs step.delay s
  | some buf =>
      have written := performs_call host (.writeBytes buf) s
      simp only [perform, withContext] at written ⊢
      cases performed : I3cMetricReader.writeBytes (recordedHost host) buf s with
      | mk result s' =>
          rw [performed] at written
          cases result with
          | error e => exact written
          | ok done => exact written.trans (sleep_performs step.delay s')

theorem readLoop_performs (decodeBytes : Decoder.ByteDecoder)
    (cancelled : I3cMetricReaderHandle (ω × List BusEvent) × (ω × List BusEvent) → Bool)
    (metrics : List MetricConfig) {results results' : HashMap String (Result (Float × Float))}
    {s s' : I3cMetricReaderHandle (ω × List BusEvent) × (ω × List BusEvent)}
    (done : readLoop cancelled (I3cMetricReaderHandle.readMetric decodeBytes (recordedHost host)) metrics
      results s = .ok (results', s')) : Performs host (s.1.client, s.2) (s'.1.client, s'.2) := by
  induction metrics generalizing results s with
  | nil =>
      cases done
      exact ⟨[], rfl⟩
  | cons metric rest ih =>
      unfold readLoop at done
      split at done
      · cases done
        exact ⟨[], rfl⟩
      · obtain ⟨⟨result, s₁⟩, read, later⟩ := except_bind_ok done
        obtain ⟨⟨result', client, w⟩, metricRead, kept⟩ := except_bind_ok read
        unfold readI3cMetric at metricRead
        cases address : metric.address with
        | none =>
            rw [address] at metricRead
            cases metricRead
        | some addr =>
            rw [address] at metricRead
            have first := performs_call host (.readRegister addr.toUInt8
              (Decoder.byteCount (Decoder.mapDataType metric.dataType))) (s.1.client, s.2)
            have moved : perform host (s.1.client, s.2) (.readRegister addr.toUInt8
                (Decoder.byteCount (Decoder.mapDataType metric.dataType))) = (client, w) :=
              (Prod.mk.inj (Except.ok.inj metricRead)).2
            obtain ⟨-, rfl⟩ := Prod.mk.inj (Except.ok.inj kept)
            rw [moved] at first
            exact first.trans (ih later)

structure SensorBus where
  assigned : String
  acknowledges : List Bool

def sensorHost : Host SensorBus where
  openI2c _ w := (.ok (), w)
  ioctlI2cSlave _ _ w := (true, w)
  writeI2c _ _ _ w := (.ok (), w)
  readI2c _ _ _ w := (.ok fun _ => 0, w)
  openSpi _ w := (.ok (), w)
  configureSpi _ _ _ _ w := (.ok (), w)
  transferSpi _ _ w := (.ok fun _ => 0, w)
  openI3c _ w := (.ok (), w)
  transferI3c _ _ _ w := (.ok fun _ => 0, w)
  readI3cSysfs w :=
    (.ok [.ok { path := "0-4a", pid := .ok "0x4a", dcr := .ok "0x63"
                dynamicAddress := .ok w.assigned }], w)
  sleep _ w := w

def sensorDevice : I3cDevice SensorBus where
  writeRead _ _ readLen w :=
    (if w.acknowledges.headD true then .ok (List.replicate readLen 0) else .error ⟨"NACK", []⟩,
      { w with acknowledges := w.acknowledges.tail })

def sensorMode : AddressMode := .pid "0x4A"

theorem readdressed_iff_sensor :
    Readdressed sensorMode (log (performAll sensorHost [.readRegister 0 2]
      (created sensorDevice "/dev/i3c-0" sensorMode ⟨"0x09", [false, true]⟩))) := by
  apply (readdressed_iff sensorHost sensorDevice "/dev/i3c-0" rfl _ _).mpr
  rintro before call after split - ⟨front, addr, failed⟩
  cases before with
  | nil => simp [performAll, log, created] at failed
  | cons first rest =>
      have lengths := congrArg List.length split
      simp at lengths

def reset (assigned : String) : Call SensorBus := .elsewhere fun w => { w with assigned }

theorem sensor_found : findPid "0x4A" [.ok
    { path := "0-4a", pid := .ok "0x4a", dcr := .ok "0x63"
      dynamicAddress := .ok "0x09" }] = .ok 9 := by
  have same : Selects "0x4A" "0x4a" := by
    rw [Selects, normalizePid, normalizePid, toLower_toList, toLower_toList, toList_trim]
    decide
  rw [(findPid_cons [] rfl rfl).1 same, parseAddress, toList_trim]
  rfl

/-- A write that is not acknowledged leaves its address to the next write, after a reset as well. -/
theorem stale_address_reused :
    ¬∀ (ω : Type) (host : Host ω) (device : I3cDevice ω) (busPath : String) (mode : AddressMode)
      (calls : List (Call ω)) (w : ω), mode.isStatic = false →
        Readdressed mode (log (performAll host calls (created device busPath mode w))) := by
  intro all
  have readdressed := all SensorBus sensorHost sensorDevice "/dev/i3c-0" sensorMode
    [.writeBytes [1, 2], reset "0x0a", .writeBytes [1, 2]] ⟨"0x09", [false]⟩ rfl
  have record : ∃ reply, log (performAll sensorHost [.writeBytes [1, 2], reset "0x0a", .writeBytes [1, 2]]
      (created sensorDevice "/dev/i3c-0" sensorMode ⟨"0x09", [false]⟩)) =
      [.enumerated reply, .transfer 9 false] ++ .transfer 9 true :: [] := by
    simp [performAll, perform, created, I3cMetricReader.new, sensorMode, I3cMetricReader.writeBytes,
      I3cMetricReader.resolveAddress, resolveAddressFromSysfs, withContext, recordedHost, recordedDevice,
      sensorHost, sensorDevice, Except.mapError, sensor_found, reset, log, Except.isOk, Except.toBool]
  obtain ⟨reply, record⟩ := record
  have current := readdressed _ 9 true [] record
  obtain ⟨entries, listed, -⟩ := current [.enumerated reply] 9 [] rfl
  cases listed

end BusExporter.I3c
