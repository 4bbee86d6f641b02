import BusExporter.Proof.HostRecord
import BusExporter.Proof.Readdressing

/-! What one read of an I3C register does: its transfers, its waits and the addresses that it looks up. -/

namespace BusExporter.I3c
open Lib

inductive ReadEvent
  | enumerated (reply : Result (List (Result SysfsEntry)))
  | transfer (addr : UInt8) (reply : Result (List UInt8))
  | slept (d : Duration)

inductive Kind
  | enumeration
  | transfer
  | wait
deriving DecidableEq

def ReadEvent.kind : ReadEvent → Kind
  | enumerated _ => .enumeration
  | transfer _ _ => .transfer
  | slept _ => .wait

def count (k : Kind) (events : List ReadEvent) : Nat := (events.map ReadEvent.kind).count k

def ReadEvent.Succeeds (e : ReadEvent) : Prop := ∃ addr data, e = .transfer addr (.ok data)

def AddressMode.fixed : AddressMode → Option UInt8
  | .static addr => some addr
  | _ => none

def Readdresses (mode : AddressMode) (e e' : ReadEvent) : Prop :=
  ∀ addr reply, e' = .transfer addr reply →
    ∃ listing, e = .enumerated listing ∧ listing.bind mode.find = .ok addr

/-- What a read promises. Each resolution after a failure has its wait before it. -/
structure ReadContract (mode : AddressMode) (events : List ReadEvent) (r : Result (List UInt8)) : Prop where
  transfers : count .transfer events ≤ 4
  waits : count .wait events ≤ 3
  resolutions : count .enumeration (events.dropWhile (·.kind ≠ .transfer)) ≤ 3
  ok_iff : ∀ data, r = .ok data ↔ ∃ addr, .transfer addr (.ok data) ∈ events
  last : events.Pairwise fun e _ => ¬e.Succeeds
  nonRetriable : ∀ addr e, events.find? (·.kind = .transfer) = some (.transfer addr (.error e)) →
    classifyError e = .other → count .transfer events = 1
  readdressed : mode.fixed = none → events.IsChain (Readdresses mode)
  fixed : ∀ addr, mode.fixed = some addr →
    (∀ reply, .enumerated reply ∉ events) ∧ ∀ addr' reply, .transfer addr' reply ∈ events → addr' = addr

inductive Looks (mode : AddressMode) : Option UInt8 → List ReadEvent → Option UInt8 → Prop
  | known (addr : UInt8) : Looks mode (some addr) [] (some addr)
  | listed {reply : Result (List (Result SysfsEntry))} {addr : UInt8} (found : reply.bind mode.find = .ok addr) :
      Looks mode none [.enumerated reply] (some addr)
  | missing (reply : Result (List (Result SysfsEntry))) : Looks mode none [.enumerated reply] none

inductive Retries (mode : AddressMode) : List Duration → List ReadEvent → Option (List UInt8) → Prop
  | exhausted : Retries mode [] [] none
  | unresolved {wait : Duration} {waits : List Duration} {looked events : List ReadEvent}
      {answer : Option (List UInt8)} (looks : Looks mode mode.fixed looked none)
      (others : Retries mode waits events answer) :
      Retries mode (wait :: waits) (.slept wait :: (looked ++ events)) answer
  | refused {wait : Duration} {waits : List Duration} {looked events : List ReadEvent} {addr : UInt8} {e : Error}
      {answer : Option (List UInt8)} (looks : Looks mode mode.fixed looked (some addr))
      (others : Retries mode waits events answer) :
      Retries mode (wait :: waits) (.slept wait :: (looked ++ .transfer addr (.error e) :: events)) answer
  | answered {wait : Duration} {waits : List Duration} {looked : List ReadEvent} {addr : UInt8}
      {data : List UInt8} (looks : Looks mode mode.fixed looked (some addr)) :
      Retries mode (wait :: waits) (.slept wait :: (looked ++ [.transfer addr (.ok data)])) (some data)

inductive ReadsRegister (mode : AddressMode) (cached : Option UInt8) :
    List ReadEvent → Option (List UInt8) → Prop
  | unresolved {looked : List ReadEvent} (looks : Looks mode cached looked none) :
      ReadsRegister mode cached looked none
  | answered {looked : List ReadEvent} {addr : UInt8} {data : List UInt8}
      (looks : Looks mode cached looked (some addr)) :
      ReadsRegister mode cached (looked ++ [.transfer addr (.ok data)]) (some data)
  | rejected {looked : List ReadEvent} {addr : UInt8} {e : Error}
      (looks : Looks mode cached looked (some addr)) (kind : classifyError e = .other) :
      ReadsRegister mode cached (looked ++ [.transfer addr (.error e)]) none
  | retried {looked events : List ReadEvent} {addr : UInt8} {e : Error} {answer : Option (List UInt8)}
      (looks : Looks mode cached looked (some addr)) (kind : classifyError e = .transferError)
      (retries : Retries mode I3cMetricReader.backoffs events answer) :
      ReadsRegister mode cached (looked ++ .transfer addr (.error e) :: events) answer

section Course
variable {mode : AddressMode}

theorem count_cons (k : Kind) (e : ReadEvent) (events : List ReadEvent) :
    count k (e :: events) = count k events + if e.kind = k then 1 else 0 := by
  simp [count, List.count_cons]

theorem count_append (k : Kind) (events events' : List ReadEvent) :
    count k (events ++ events') = count k events + count k events' := by
  simp [count]

theorem Looks.count_le {cached found : Option UInt8} {looked : List ReadEvent}
    (looks : Looks mode cached looked found) (k : Kind) :
    count k looked ≤ if k = .enumeration then 1 else 0 := by
  cases looks with
  | known addr => simp [count]
  | listed found => cases k <;> simp [count, ReadEvent.kind]
  | missing reply => cases k <;> simp [count, ReadEvent.kind]

theorem Retries.count_le {waits : List Duration} {events : List ReadEvent} {answer : Option (List UInt8)}
    (retries : Retries mode waits events answer) (k : Kind) : count k events ≤ waits.length := by
  induction retries with
  | exhausted => exact Nat.zero_le _
  | unresolved looks others ih =>
      have looked := looks.count_le k
      rw [count_cons, count_append, List.length_cons]
      cases k <;> simp [ReadEvent.kind] at looked ⊢ <;> omega
  | refused looks others ih =>
      have looked := looks.count_le k
      rw [count_cons, count_append, count_cons, List.length_cons]
      cases k <;> simp [ReadEvent.kind] at looked ⊢ <;> omega
  | answered looks =>
      have looked := looks.count_le k
      rw [count_cons, count_append, count_cons, List.length_cons]
      cases k <;> simp [ReadEvent.kind, count] at looked ⊢ <;> omega

def Answers (events : List ReadEvent) (answer : Option (List UInt8)) : Prop :=
  (∀ data, answer = some data ↔ ∃ addr, .transfer addr (.ok data) ∈ events) ∧
    events.Pairwise fun e _ => ¬e.Succeeds

theorem Answers.cons {e : ReadEvent} {events : List ReadEvent} {answer : Option (List UInt8)}
    (answers : Answers events answer) (fails : ¬e.Succeeds) : Answers (e :: events) answer := by
  refine ⟨fun data => ?_, List.pairwise_cons.mpr ⟨fun _ _ => fails, answers.2⟩⟩
  rw [answers.1]
  refine exists_congr fun addr => ?_
  rw [List.mem_cons, or_iff_right]
  rintro rfl
  exact fails ⟨addr, data, rfl⟩

theorem Answers.append {looked events : List ReadEvent} {answer : Option (List UInt8)}
    (answers : Answers events answer) (fail : ∀ e ∈ looked, ¬e.Succeeds) : Answers (looked ++ events) answer := by
  induction looked with
  | nil => exact answers
  | cons e looked ih =>
      obtain ⟨first, others⟩ := List.forall_mem_cons.mp fail
      exact (ih others).cons first

theorem answers_nil : Answers [] none := ⟨by simp, List.Pairwise.nil⟩

theorem answers_ok (addr : UInt8) (data : List UInt8) : Answers [.transfer addr (.ok data)] (some data) := by
  refine ⟨fun data' => ?_, List.pairwise_singleton _ _⟩
  simp only [Option.some.injEq, List.mem_singleton, ReadEvent.transfer.injEq, Except.ok.injEq]
  exact ⟨fun same => ⟨addr, rfl, same.symm⟩, fun ⟨_, _, same⟩ => same.symm⟩

theorem not_succeeds_slept (d : Duration) : ¬(ReadEvent.slept d).Succeeds := by
  rintro ⟨addr, data, wrong⟩
  cases wrong

theorem not_succeeds_error (addr : UInt8) (e : Error) : ¬(ReadEvent.transfer addr (.error e)).Succeeds := by
  rintro ⟨addr, data, wrong⟩
  cases wrong

theorem Looks.fail {cached found : Option UInt8} {looked : List ReadEvent}
    (looks : Looks mode cached looked found) : ∀ e ∈ looked, ¬e.Succeeds := by
  cases looks with
  | known addr => simp
  | listed found => simp [ReadEvent.Succeeds]
  | missing reply => simp [ReadEvent.Succeeds]

theorem Retries.answers {waits : List Duration} {events : List ReadEvent} {answer : Option (List UInt8)}
    (retries : Retries mode waits events answer) : Answers events answer := by
  induction retries with
  | exhausted => exact answers_nil
  | unresolved looks others ih => exact (ih.append looks.fail).cons (not_succeeds_slept _)
  | refused looks others ih =>
      exact ((ih.cons (not_succeeds_error _ _)).append looks.fail).cons (not_succeeds_slept _)
  | answered looks => exact ((answers_ok _ _).append looks.fail).cons (not_succeeds_slept _)

theorem readdresses_slept (e : ReadEvent) (d : Duration) : Readdresses mode e (.slept d) := by
  intro addr reply wrong
  cases wrong

theorem readdresses_enumerated (e : ReadEvent) (reply : Result (List (Result SysfsEntry))) :
    Readdresses mode e (.enumerated reply) := by
  intro addr reply wrong
  cases wrong

theorem readdresses_found {listing : Result (List (Result SysfsEntry))} {addr : UInt8}
    (found : listing.bind mode.find = .ok addr) (reply : Result (List UInt8)) :
    Readdresses mode (.enumerated listing) (.transfer addr reply) := by
  rintro addr reply ⟨⟩
  exact ⟨listing, rfl, found⟩

theorem Retries.readdressed (dynamic : mode.fixed = none) {waits : List Duration} {events : List ReadEvent}
    {answer : Option (List UInt8)} (retries : Retries mode waits events answer) (e : ReadEvent) :
    (e :: events).IsChain (Readdresses mode) := by
  induction retries generalizing e with
  | exhausted => exact List.isChain_singleton e
  | unresolved looks others ih =>
      rw [dynamic] at looks
      cases looks with
      | missing reply =>
          rw [List.isChain_cons_cons]
          exact ⟨readdresses_slept _ _, .cons_cons (readdresses_enumerated _ _) (ih _)⟩
  | refused looks others ih =>
      rw [dynamic] at looks
      cases looks with
      | listed found =>
          rw [List.isChain_cons_cons]
          exact ⟨readdresses_slept _ _, .cons_cons (readdresses_enumerated _ _)
            (.cons_cons (readdresses_found found _) (ih _))⟩
  | answered looks =>
      rw [dynamic] at looks
      cases looks with
      | listed found =>
          rw [List.isChain_cons_cons]
          exact ⟨readdresses_slept _ _, .cons_cons (readdresses_enumerated _ _)
            (.cons_cons (readdresses_found found _) (List.isChain_singleton _))⟩

def StaysAt (addr : UInt8) (e : ReadEvent) : Prop :=
  (∀ reply, e ≠ .enumerated reply) ∧ ∀ addr' reply, e = .transfer addr' reply → addr' = addr

theorem staysAt_transfer (addr : UInt8) (reply : Result (List UInt8)) : StaysAt addr (.transfer addr reply) := by
  refine ⟨by simp, ?_⟩
  rintro addr' reply' ⟨⟩
  rfl

theorem staysAt_slept (addr : UInt8) (d : Duration) : StaysAt addr (.slept d) := ⟨by simp, by simp⟩

theorem Looks.of_known {addr : UInt8} {looked : List ReadEvent} {found : Option UInt8}
    (looks : Looks mode (some addr) looked found) : looked = [] ∧ found = some addr := by
  cases looks with
  | known addr => exact ⟨rfl, rfl⟩

theorem Retries.staysAt {addr : UInt8} (static : mode.fixed = some addr) {waits : List Duration}
    {events : List ReadEvent} {answer : Option (List UInt8)} (retries : Retries mode waits events answer) :
    ∀ e ∈ events, StaysAt addr e := by
  induction retries with
  | exhausted => simp
  | unresolved looks others ih =>
      rw [static] at looks
      cases looks.of_known.2
  | refused looks others ih =>
      rw [static] at looks
      obtain ⟨rfl, same⟩ := looks.of_known
      cases same
      rw [List.nil_append, List.forall_mem_cons, List.forall_mem_cons]
      exact ⟨staysAt_slept _ _, staysAt_transfer _ _, ih⟩
  | answered looks =>
      rw [static] at looks
      obtain ⟨rfl, same⟩ := looks.of_known
      cases same
      rw [List.nil_append, List.forall_mem_cons, List.forall_mem_singleton]
      exact ⟨staysAt_slept _ _, staysAt_transfer _ _⟩

theorem Looks.first {cached found : Option UInt8} {looked : List ReadEvent}
    (looks : Looks mode cached looked found) (addr : UInt8) (reply : Result (List UInt8)) (later : List ReadEvent) :
    (looked ++ .transfer addr reply :: later).dropWhile (·.kind ≠ .transfer) = .transfer addr reply :: later ∧
      (looked ++ .transfer addr reply :: later).find? (·.kind = .transfer) = some (.transfer addr reply) := by
  cases looks with
  | known addr => exact ⟨rfl, rfl⟩
  | listed found => exact ⟨rfl, rfl⟩
  | missing reply => exact ⟨rfl, rfl⟩

theorem Looks.readdressed {cached : Option UInt8} {looked : List ReadEvent} {addr : UInt8}
    (looks : Looks mode cached looked (some addr)) (reply : Result (List UInt8)) {later : List ReadEvent}
    (chain : (ReadEvent.transfer addr reply :: later).IsChain (Readdresses mode)) :
    (looked ++ .transfer addr reply :: later).IsChain (Readdresses mode) := by
  cases looks with
  | known addr => exact chain
  | listed found => exact .cons_cons (readdresses_found found reply) chain

theorem ok_iff_toOption {r : Result (List UInt8)} {data : List UInt8} : r = .ok data ↔ r.toOption = some data := by
  cases r with
  | error e => simp [Except.toOption]
  | ok data' => simp [Except.toOption]

theorem Looks.contract {cached : Option UInt8} {looked later : List ReadEvent} {addr : UInt8}
    (looks : Looks mode cached looked (some addr)) (static : ∀ a, mode.fixed = some a → cached = some a)
    {reply r : Result (List UInt8)} (few : ∀ k, count k later ≤ 3)
    (answers : Answers (.transfer addr reply :: later) r.toOption)
    (alone : ∀ e, reply = .error e → classifyError e = .other → later = [])
    (chain : mode.fixed = none → (ReadEvent.transfer addr reply :: later).IsChain (Readdresses mode))
    (stays : ∀ a, mode.fixed = some a → ∀ e ∈ later, StaysAt a e) :
    ReadContract mode (looked ++ .transfer addr reply :: later) r := by
  obtain ⟨dropped, first⟩ := looks.first addr reply later
  have none := looks.count_le .transfer
  have waitless := looks.count_le .wait
  simp only [reduceCtorEq, if_false, Nat.le_zero] at none waitless
  obtain ⟨answered, last⟩ := answers.append looks.fail
  constructor
  · rw [count_append, count_cons, none]
    simp only [ReadEvent.kind, if_true]
    have := few .transfer
    omega
  · rw [count_append, count_cons, waitless]
    simp only [ReadEvent.kind, reduceCtorEq, if_false]
    have := few .wait
    omega
  · rw [dropped, count_cons]
    exact few .enumeration
  · intro data
    rw [ok_iff_toOption]
    exact answered data
  · exact last
  · intro addr' e found kind
    rw [first] at found
    cases found
    obtain rfl := alone e rfl kind
    rw [count_append, none]
    rfl
  · intro dynamic
    exact looks.readdressed reply (chain dynamic)
  · intro a given
    obtain rfl := static a given
    obtain ⟨rfl, same⟩ := looks.of_known
    cases same
    have all : ∀ e ∈ [] ++ .transfer addr reply :: later, StaysAt addr e := by
      rw [List.nil_append, List.forall_mem_cons]
      exact ⟨staysAt_transfer addr reply, stays addr given⟩
    exact ⟨fun reply member => (all _ member).1 reply rfl, fun addr' reply member => (all _ member).2 addr' reply rfl⟩

theorem ReadsRegister.contract {cached : Option UInt8} (static : ∀ a, mode.fixed = some a → cached = some a)
    {events : List ReadEvent} {r : Result (List UInt8)} (reads : ReadsRegister mode cached events r.toOption) :
    ReadContract mode events r := by
  generalize given : r.toOption = answer at reads
  cases reads with
  | unresolved looks =>
      cases looks with
      | missing reply =>
          refine ⟨by simp [count, ReadEvent.kind], by simp [count, ReadEvent.kind], by simp [count, ReadEvent.kind], ?_,
            List.pairwise_singleton _ _, by simp [ReadEvent.kind], fun _ => List.isChain_singleton _, ?_⟩
          · intro data
            rw [ok_iff_toOption, given]
            simp
          · intro a fixed
            cases static a fixed
  | answered looks =>
      apply looks.contract static (by simp [count]) _ (by simp) (fun _ => List.isChain_singleton _) (by simp)
      rw [given]
      exact answers_ok _ _
  | rejected looks kind =>
      apply looks.contract static (by simp [count]) _ (by simp) (fun _ => List.isChain_singleton _) (by simp)
      rw [given]
      exact answers_nil.cons (not_succeeds_error _ _)
  | retried looks kind retries =>
      apply looks.contract static (fun k => retries.count_le k) _ _ (fun dynamic => retries.readdressed dynamic _)
        (fun a fixed => retries.staysAt fixed)
      · rw [given]
        exact retries.answers.cons (not_succeeds_error _ _)
      · rintro e ⟨⟩ other
        rw [kind] at other
        cases other

end Course

variable {ω : Type}

def watched (host : Host ω) : Host (ω × List ReadEvent) :=
  host.recorded
    { enumerated := fun reply => some (.enumerated reply)
      slept := fun d => some (.slept d) }

def watchedDevice (device : I3cDevice ω) : I3cDevice (ω × List ReadEvent) where
  writeRead addr writeBuf readLen := noting (fun r => some (.transfer addr r)) (device.writeRead addr writeBuf readLen)

abbrev Reader (ω : Type) := I3cMetricReader (ω × List ReadEvent) × (ω × List ReadEvent)

inductive Reaches (host : Host ω) (device : I3cDevice ω) (busPath : String) (mode : AddressMode) :
    I3cMetricReader (ω × List ReadEvent) → Prop
  | new : Reaches host device busPath mode (.new (watchedDevice device) busPath mode)
  | read {c : I3cMetricReader (ω × List ReadEvent)} (earlier : Reaches host device busPath mode c) (register : UInt8)
      (byteCount : Nat) (w : ω × List ReadEvent) : Reaches host device busPath mode
        (I3cMetricReader.readRegisterSync (watched host) register byteCount (c, w)).2.1
  | wrote {c : I3cMetricReader (ω × List ReadEvent)} (earlier : Reaches host device busPath mode c)
      (buf : List UInt8) (w : ω × List ReadEvent) :
      Reaches host device busPath mode (I3cMetricReader.writeBytes (watched host) buf (c, w)).2.1
  | connected {c : I3cMetricReader (ω × List ReadEvent)} (earlier : Reaches host device busPath mode c)
      (connected : Bool) : Reaches host device busPath mode { c with connected }

structure Keeps (device : I3cDevice ω) (mode : AddressMode) (c : I3cMetricReader (ω × List ReadEvent)) : Prop where
  device : c.device = watchedDevice device
  addressMode : c.addressMode = mode
  fixed : ∀ addr, mode.fixed = some addr → c.resolvedAddress = some addr

section Run
variable (host : Host ω) {device : I3cDevice ω} {mode : AddressMode}

theorem new_keeps (busPath : String) : Keeps device mode (.new (watchedDevice device) busPath mode) := by
  refine ⟨rfl, rfl, fun addr given => ?_⟩
  cases mode with
  | static fixed => exact given
  | pid provisioned => cases given
  | deviceClass class_ instance_ => cases given

theorem invalidate_keeps {c : I3cMetricReader (ω × List ReadEvent)} (keeps : Keeps device mode c) :
    Keeps device mode c.invalidateAddress ∧ c.invalidateAddress.resolvedAddress = mode.fixed := by
  obtain ⟨sameDevice, rfl, fixed⟩ := keeps
  unfold I3cMetricReader.invalidateAddress
  cases given : c.addressMode with
  | static addr =>
      rw [given] at fixed
      exact ⟨⟨sameDevice, given, fixed⟩, fixed addr rfl⟩
  | pid provisioned => exact ⟨⟨sameDevice, rfl, fun addr wrong => (by cases wrong)⟩, rfl⟩
  | deviceClass class_ instance_ => exact ⟨⟨sameDevice, rfl, fun addr wrong => (by cases wrong)⟩, rfl⟩

theorem resolveAddress_looks {s : Reader ω} (keeps : Keeps device mode s.1) :
    Keeps device mode (I3cMetricReader.resolveAddress (watched host) s).2.1 ∧
      ∃ looked, (I3cMetricReader.resolveAddress (watched host) s).2.2.2 = s.2.2 ++ looked ∧
        Looks mode s.1.resolvedAddress looked (I3cMetricReader.resolveAddress (watched host) s).1.toOption := by
  cases cached : s.1.resolvedAddress with
  | some addr =>
      rw [resolveAddress_cached _ cached]
      exact ⟨keeps, [], (List.append_nil s.2.2).symm, .known addr⟩
  | none =>
      have dynamic : ∀ addr, mode.fixed ≠ some addr := by
        intro addr given
        rw [keeps.fixed addr given] at cached
        cases cached
      have resolved := resolveAddress_uncached (watched host) cached
      rw [keeps.addressMode] at resolved
      rcases resolved with ⟨e, e', -, unresolved⟩ | ⟨addr, listed, found⟩
      · rw [unresolved]
        exact ⟨keeps, _, rfl, .missing _⟩
      · rw [found]
        exact ⟨⟨keeps.device, keeps.addressMode, fun a given => absurd given (dynamic a)⟩, _, rfl, .listed listed⟩

theorem writeRead_notes {c : I3cMetricReader (ω × List ReadEvent)} (keeps : Keeps device mode c) (addr : UInt8)
    (writeBuf : List UInt8) (readLen : Nat) (w : ω × List ReadEvent) :
    (c.device.writeRead addr writeBuf readLen w).2.2 =
      w.2 ++ [.transfer addr (c.device.writeRead addr writeBuf readLen w).1] := by
  rw [keeps.device]
  rfl

theorem retryRead_retries (register : UInt8) (byteCount : Nat) (waits : List Duration) (e : Error) {s : Reader ω}
    (keeps : Keeps device mode s.1) :
    Keeps device mode (I3cMetricReader.retryRead (watched host) register byteCount waits e s).2.1 ∧
      ∃ events, (I3cMetricReader.retryRead (watched host) register byteCount waits e s).2.2.2 = s.2.2 ++ events ∧
        Retries mode waits events
          (I3cMetricReader.retryRead (watched host) register byteCount waits e s).1.toOption := by
  induction waits generalizing s e with
  | nil => exact ⟨keeps, [], (List.append_nil s.2.2).symm, .exhausted⟩
  | cons wait waits ih =>
      obtain ⟨r, c, w, resolved, turn⟩ := retryRead_cases (watched host) register byteCount wait waits e s
      obtain ⟨forgets, address⟩ := invalidate_keeps keeps
      obtain ⟨keeps', looked, grown, looks⟩ := resolveAddress_looks host
        (s := (s.1.invalidateAddress, (watched host).sleep wait s.2)) forgets
      rw [address] at looks
      rw [resolved] at keeps' grown looks
      have waited : w.2 = s.2.2 ++ .slept wait :: looked := by
        rw [List.append_cons]
        exact grown
      rcases turn with ⟨e, rfl, same⟩ | ⟨addr, data, w', rfl, sent, other⟩
      · rw [same]
        obtain ⟨later, events, grown', retries⟩ := ih e (s := (c, w)) keeps'
        refine ⟨later, .slept wait :: (looked ++ events), grown'.trans ?_, .unresolved looks retries⟩
        rw [waited, List.append_assoc, List.cons_append]
      · have noted := writeRead_notes keeps' addr [register] byteCount w
        simp only [sent] at noted
        rcases other with ⟨bytes, rfl, same⟩ | ⟨e, rfl, same⟩
        · rw [same]
          refine ⟨keeps', .slept wait :: (looked ++ [.transfer addr (.ok bytes)]), noted.trans ?_, .answered looks⟩
          rw [waited, List.append_assoc, List.cons_append]
        · rw [same]
          obtain ⟨later, events, grown', retries⟩ := ih e (s := (c, w')) keeps'
          refine ⟨later, .slept wait :: (looked ++ .transfer addr (.error e) :: events), grown'.trans ?_,
            .refused looks retries⟩
          rw [noted, waited, List.append_assoc, List.append_assoc, List.cons_append]
          rfl

theorem readRegisterSync_reads (register : UInt8) (byteCount : Nat) {s : Reader ω} (keeps : Keeps device mode s.1) :
    Keeps device mode (I3cMetricReader.readRegisterSync (watched host) register byteCount s).2.1 ∧
      ∃ events, (I3cMetricReader.readRegisterSync (watched host) register byteCount s).2.2.2 = s.2.2 ++ events ∧
        ReadsRegister mode s.1.resolvedAddress events
          (I3cMetricReader.readRegisterSync (watched host) register byteCount s).1.toOption := by
  obtain ⟨r, c, w, resolved, outcome⟩ := readRegisterSync_cases (watched host) register byteCount s
  obtain ⟨keeps', looked, grown, looks⟩ := resolveAddress_looks host keeps
  rw [resolved] at keeps' grown looks
  rcases outcome with ⟨e, rfl, same⟩ | ⟨addr, data, w', rfl, answered, other⟩
  · rw [same]
    exact ⟨keeps', looked, grown, .unresolved looks⟩
  · have sent : w'.2 = s.2.2 ++ (looked ++ [.transfer addr data]) := by
      have noted := writeRead_notes keeps' addr [register] byteCount w
      rw [answered] at noted
      rw [← List.append_assoc, ← grown]
      exact noted
    rcases other with ⟨bytes, rfl, same⟩ | ⟨e, rfl, ⟨kind, same⟩ | ⟨kind, same⟩⟩
    · rw [same]
      exact ⟨keeps', _, sent, .answered looks⟩
    · rw [same]
      exact ⟨keeps', _, sent, .rejected looks kind⟩
    · rw [same]
      obtain ⟨later, events, grown', retries⟩ := retryRead_retries host register byteCount
        I3cMetricReader.backoffs e (s := (c, w')) keeps'
      refine ⟨later, looked ++ .transfer addr (.error e) :: events, grown'.trans ?_, .retried looks kind retries⟩
      rw [sent, List.append_assoc, List.append_assoc]
      rfl

theorem writeBytes_keeps (buf : List UInt8) {s : Reader ω} (keeps : Keeps device mode s.1) :
    Keeps device mode (I3cMetricReader.writeBytes (watched host) buf s).2.1 := by
  unfold I3cMetricReader.writeBytes
  have resolved := (resolveAddress_looks host keeps).1
  generalize I3cMetricReader.resolveAddress (watched host) s = result at resolved ⊢
  obtain ⟨r, c, w⟩ := result
  cases r with
  | error e => exact resolved
  | ok addr => exact resolved

theorem reaches_keeps {busPath : String} {c : I3cMetricReader (ω × List ReadEvent)}
    (reaches : Reaches host device busPath mode c) : Keeps device mode c := by
  induction reaches with
  | new => exact new_keeps busPath
  | read earlier register byteCount w ih => exact (readRegisterSync_reads host register byteCount (s := (_, w)) ih).1
  | wrote earlier buf w ih => exact writeBytes_keeps host buf (s := (_, w)) ih
  | connected earlier connected ih => exact ⟨ih.device, ih.addressMode, ih.fixed⟩

/-- What a read does in any state that reads and writes lead to; a fixed address is in the cache before and
after it. -/
theorem readRegisterSync_contract (host : Host ω) (device : I3cDevice ω) {busPath : String} {mode : AddressMode}
    {c : I3cMetricReader (ω × List ReadEvent)} (reaches : Reaches host device busPath mode c) (register : UInt8)
    (byteCount : Nat) (w : ω × List ReadEvent) :
    (∃ events,
      (I3cMetricReader.readRegisterSync (watched host) register byteCount (c, w)).2.2.2 = w.2 ++ events ∧
      ReadContract mode events (I3cMetricReader.readRegisterSync (watched host) register byteCount (c, w)).1) ∧
    ∀ addr, mode = .static addr → c.resolvedAddress = some addr ∧
      (I3cMetricReader.readRegisterSync (watched host) register byteCount (c, w)).2.1.resolvedAddress = some addr := by
  have keeps := reaches_keeps host reaches
  obtain ⟨later, events, grown, reads⟩ := readRegisterSync_reads host register byteCount
    (s := (c, w)) keeps
  refine ⟨⟨events, grown, reads.contract keeps.fixed⟩, ?_⟩
  rintro addr rfl
  exact ⟨keeps.fixed addr rfl, later.fixed addr rfl⟩

end Run

def shySensor : Reader SensorBus :=
  (.new (watchedDevice sensorDevice) "/dev/i3c-0" (.static 9), ⟨"0x09", [false, true]⟩, [])

theorem nack_retriable : classifyError ⟨"NACK", []⟩ = .transferError := by
  decide +kernel

theorem readRegisterSync_contract_sensor :
    ReadContract (.static 9)
      [.transfer 9 (.error ⟨"NACK", []⟩), .slept 100000000, .transfer 9 (.ok [0, 0])] (.ok [0, 0]) := by
  have read : I3cMetricReader.readRegisterSync (watched sensorHost) 0 2 shySensor =
      I3cMetricReader.retryRead (watched sensorHost) 0 2 I3cMetricReader.backoffs ⟨"NACK", []⟩
        (shySensor.1, ⟨"0x09", [true]⟩, [.transfer 9 (.error ⟨"NACK", []⟩)]) := by
    simp only [I3cMetricReader.readRegisterSync, I3cMetricReader.resolveAddress, shySensor, I3cMetricReader.new,
      watchedDevice, noting, sensorDevice, List.headD_cons, List.tail_cons, Bool.false_eq_true, if_false,
      nack_retriable, List.nil_append]
  have reaches : Reaches sensorHost sensorDevice "/dev/i3c-0" (.static 9) shySensor.1 := .new
  obtain ⟨⟨events, grown, contract⟩, -⟩ := readRegisterSync_contract sensorHost sensorDevice reaches 0 2 shySensor.2
  change (I3cMetricReader.readRegisterSync (watched sensorHost) 0 2 shySensor).2.2.2 = _ at grown
  change ReadContract _ events (I3cMetricReader.readRegisterSync (watched sensorHost) 0 2 shySensor).1 at contract
  rw [read] at grown contract
  obtain rfl : [.transfer 9 (.error ⟨"NACK", []⟩), .slept 100000000, .transfer 9 (.ok [0, 0])] = events := grown
  exact contract

end BusExporter.I3c
