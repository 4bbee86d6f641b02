import BusExporter.Proof.PublishSteps

/-! The waits between the connection attempts of the MQTT exporter. The backoff is reset when the announcement
is queued, which says nothing of the connection. -/

namespace BusExporter.Mqtt
open Lib Config

structure Attempt where
  accepted : Bool := false
  acknowledged : Bool := false
  wait : Option Duration := none

def record : List Attempt → Event → List Attempt
  | attempts, .attempt _ => {} :: attempts
  | a :: earlier, .online accepted => { a with accepted } :: earlier
  | a :: earlier, .connAck => { a with acknowledged := true } :: earlier
  | a :: earlier, .waited d => { a with wait := some d } :: earlier
  | attempts, _ => attempts

def attempts (trace : List Event) : List Attempt := trace.foldl record []

def Throughout (P : Attempt → List Attempt → Prop) : List Attempt → Prop
  | [] => True
  | a :: earlier => P a earlier ∧ Throughout P earlier

def failures (attempts : List Attempt) : Nat := (attempts.takeWhile fun a => !a.acknowledged).length

def documented (attempts : List Attempt) : Duration :=
  Duration.fromSecs (min (2 ^ (failures attempts - 1)) 60)

def Documented (trace : List Event) : Prop :=
  Throughout (fun a earlier => ∀ d, a.wait = some d → d = documented (a :: earlier)) (attempts trace)

/-- The announcement is accepted just in the attempts that are acknowledged or follow one that is. -/
def Timely (trace : List Event) : Prop :=
  Throughout (fun a earlier => ∀ b ∈ earlier.head?, a.wait ≠ none →
    a.accepted = (a.acknowledged || b.acknowledged)) (attempts trace)

def following : List Attempt → Duration
  | [] => Duration.fromSecs 1
  | b :: _ => min (b.wait.getD 0 * 2) maxBackoff

def due (a : Attempt) (earlier : List Attempt) : Duration :=
  if a.accepted then Duration.fromSecs 1 else following earlier

def Waited : List Attempt → Prop := Throughout fun a earlier => a.wait = some (due a earlier)

def Progress (s : State) (attempts : List Attempt) : Prop :=
  match s.pc with
  | .start | .connecting _ => Waited attempts ∧ s.backoff = following attempts
  | .announcing _ =>
      ∃ a finished, attempts = a :: finished ∧ a.wait = none ∧ Waited finished ∧ s.backoff = following finished
  | .serving _ | .publishing .. =>
      ∃ a finished, attempts = a :: finished ∧ a.wait = none ∧ Waited finished ∧
        a.accepted = true ∧ s.backoff = Duration.fromSecs 1
  | .joining _ =>
      ∃ a finished, attempts = a :: finished ∧ a.wait = none ∧ Waited finished ∧ s.backoff = due a finished
  | .waiting _ => ∃ a finished, attempts = a :: finished ∧ Waited attempts ∧ s.backoff = due a finished
  | .farewell | .disconnecting | .leaving | .returned =>
      ∃ current finished, attempts = current ++ finished ∧ (∀ a ∈ current, a.wait = none) ∧ Waited finished

theorem attempts_append (trace events : List Event) :
    attempts (trace ++ events) = events.foldl record (attempts trace) := List.foldl_append ..

theorem Progress.finished {s : State} {as : List Attempt} (progress : Progress s as) :
    ∃ current finished, as = current ++ finished ∧ (∀ a ∈ current, a.wait = none) ∧ Waited finished := by
  have single {a : Attempt} {finished : List Attempt} (unwaited : a.wait = none) (waited : Waited finished) :
      ∃ current finished', a :: finished = current ++ finished' ∧ (∀ a ∈ current, a.wait = none) ∧
        Waited finished' :=
    ⟨[a], finished, rfl, fun b member => by rwa [List.mem_singleton.mp member], waited⟩
  unfold Progress at progress
  cases place : s.pc <;> simp only [place] at progress
  case start | connecting => exact ⟨[], as, rfl, by simp, progress.1⟩
  case announcing | joining =>
      obtain ⟨a, finished, rfl, unwaited, waited, -⟩ := progress
      exact single unwaited waited
  case serving | publishing =>
      obtain ⟨a, finished, rfl, unwaited, waited, -⟩ := progress
      exact single unwaited waited
  case waiting =>
      obtain ⟨a, finished, rfl, waited, -⟩ := progress
      exact ⟨[], _, rfl, by simp, waited⟩
  all_goals exact progress

theorem waited_acknowledged {as : List Attempt} (waited : Waited as) : Waited (record as .connAck) := by
  cases as with
  | nil => exact waited
  | cons a earlier => exact ⟨waited.1, waited.2⟩

theorem Progress.acknowledged {s : State} {as : List Attempt} (progress : Progress s as) :
    Progress s (record as .connAck) := by
  unfold Progress at progress ⊢
  cases place : s.pc <;> simp only [place] at progress ⊢
  case start | connecting =>
      refine ⟨waited_acknowledged progress.1, ?_⟩
      cases as <;> exact progress.2
  case announcing | joining =>
      obtain ⟨a, finished, rfl, rest⟩ := progress
      exact ⟨_, finished, rfl, rest⟩
  case serving | publishing =>
      obtain ⟨a, finished, rfl, rest⟩ := progress
      exact ⟨_, finished, rfl, rest⟩
  case waiting =>
      obtain ⟨a, finished, rfl, waited, backoff⟩ := progress
      exact ⟨_, finished, rfl, waited_acknowledged waited, backoff⟩
  all_goals
    obtain ⟨current, finished, rfl, unwaited, waited⟩ := progress
    cases current with
    | nil => exact ⟨[], _, rfl, by simp, waited_acknowledged waited⟩
    | cons a current =>
        obtain ⟨first, others⟩ := List.forall_mem_cons.mp unwaited
        exact ⟨_ :: current, finished, rfl, List.forall_mem_cons.mpr ⟨first, others⟩, waited⟩

variable {config : MqttExporterConfig}

theorem record_other {as : List Attempt} {e : Event}
    (other : ∀ {a earlier}, record (a :: earlier) e = a :: earlier) (first : record [] e = []) :
    record as e = as := by
  cases as with
  | nil => exact first
  | cons a earlier => exact other

theorem progress_step {s s' : State} {input : Input} {events : List Event} {as : List Attempt}
    (progress : Progress s as) (step : Step config s input s' events) : Progress s' (events.foldl record as) := by
  cases step
  case polled taken notification connection running reported =>
      rcases pollStep_events reported with rfl | rfl | rfl
      · exact progress
      · exact progress.acknowledged
      · rw [List.foldl_cons, List.foldl_nil, record_other rfl rfl]
        exact progress
  case kept | eventLoopStopped | eventLoopEnded | cancelled => exact progress
  case unconfigured place =>
      simp only [Progress, place] at progress ⊢
      exact ⟨[], as, rfl, by simp, progress.1⟩
  case configured place given built =>
      simp only [Progress, place] at progress ⊢
      exact progress
  case attempted place =>
      simp only [Progress, place] at progress ⊢
      exact ⟨{}, as, rfl, rfl, progress⟩
  case announced place sent =>
      simp only [Progress, place] at progress ⊢
      obtain ⟨a, finished, rfl, unwaited, waited, -⟩ := progress
      exact ⟨{ a with accepted := true }, finished, rfl, unwaited, waited, rfl, trivial⟩
  case unannounced place sent =>
      simp only [Progress, place] at progress ⊢
      obtain ⟨a, finished, rfl, unwaited, waited, backoff⟩ := progress
      exact ⟨_, finished, rfl, unwaited, waited, backoff⟩
  case stopping place requested =>
      exact progress.finished
  case lost place down =>
      simp only [Progress, place] at progress ⊢
      obtain ⟨a, finished, rfl, unwaited, waited, accepted, backoff⟩ := progress
      refine ⟨a, finished, rfl, unwaited, waited, ?_⟩
      rw [due, if_pos accepted, backoff]
  case snapshot place =>
      simp only [Progress, place] at progress ⊢
      exact progress
  case published place sent =>
      rw [List.foldl_cons, List.foldl_nil, record_other rfl rfl]
      simp only [Progress, place] at progress ⊢
      exact progress
  case walked place =>
      simp only [Progress, place] at progress ⊢
      exact progress
  case joined place gone running =>
      simp only [Progress, place] at progress ⊢
      obtain ⟨a, finished, rfl, unwaited, waited, backoff⟩ := progress
      exact ⟨{ a with wait := some s.backoff }, finished, rfl, ⟨congrArg some backoff, waited⟩, backoff⟩
  case slept place =>
      simp only [Progress, place] at progress ⊢
      obtain ⟨a, finished, rfl, waited, backoff⟩ := progress
      refine ⟨waited, ?_⟩
      change min (s.backoff * 2) maxBackoff = min (a.wait.getD 0 * 2) maxBackoff
      rw [waited.1, Option.getD_some, backoff]
  case parted place sent =>
      rw [List.foldl_cons, List.foldl_nil, record_other rfl rfl]
      exact progress.finished
  case joinStopped | waitStopped | disconnected | left => exact progress.finished

theorem progress_run {trace : List Event} {s : State} (run : (machine config).Run {} trace s) :
    Progress s (attempts trace) := by
  apply Machine.Run.invariant (P := fun trace s => Progress s (attempts trace)) _ _ run
  · exact ⟨trivial, rfl⟩
  · intro trace s input s' events previous progress action
    rw [attempts_append]
    exact progress_step progress (step_cases action)

theorem failures_pos {a : Attempt} {earlier : List Attempt} (failed : a.acknowledged = false) :
    failures (a :: earlier) = failures earlier + 1 := by
  rw [failures, List.takeWhile_cons_of_pos (by simp [failed])]
  rfl

theorem failures_acknowledged {a : Attempt} {earlier : List Attempt} (acknowledged : a.acknowledged = true) :
    failures (a :: earlier) = 0 := by
  rw [failures, List.takeWhile_cons_of_neg (by simp [acknowledged])]
  rfl

theorem documented_first {as : List Attempt} (few : failures as ≤ 1) : documented as = Duration.fromSecs 1 := by
  rw [documented, Nat.sub_eq_zero_of_le few]
  rfl

theorem documented_double {a b : Attempt} {earlier : List Attempt} (failed : a.acknowledged = false)
    (before : b.acknowledged = false) :
    documented (a :: b :: earlier) = min (documented (b :: earlier) * 2) maxBackoff := by
  rw [documented, documented, failures_pos failed, failures_pos before, Nat.add_sub_cancel, Nat.add_sub_cancel,
    pow_succ]
  change min (2 ^ failures earlier * 2) 60 * 1000000000 =
    min (min (2 ^ failures earlier) 60 * 1000000000 * 2) (60 * 1000000000 : Nat)
  omega

theorem second_lt_double (as : List Attempt) : Duration.fromSecs 1 < min (documented as * 2) maxBackoff := by
  have positive : 0 < 2 ^ (failures as - 1) := Nat.two_pow_pos _
  change (1 * 1000000000 : Nat) <
    min (min (2 ^ (failures as - 1)) 60 * 1000000000 * 2) (60 * 1000000000 : Nat)
  omega

theorem due_eq_documented_iff {a b : Attempt} {earlier : List Attempt}
    (before : b.wait = some (documented (b :: earlier))) :
    due a (b :: earlier) = documented (a :: b :: earlier) ↔ a.accepted = (a.acknowledged || b.acknowledged) := by
  have long := second_lt_double (b :: earlier)
  have next : following (b :: earlier) = min (documented (b :: earlier) * 2) maxBackoff := by
    rw [following, before, Option.getD_some]
  rw [due, next]
  by_cases established : a.acknowledged || b.acknowledged
  · have few : failures (a :: b :: earlier) ≤ 1 := by
      cases acknowledged : a.acknowledged with
      | true => rw [failures_acknowledged acknowledged]; exact Nat.zero_le 1
      | false =>
          rw [acknowledged, Bool.false_or] at established
          rw [failures_pos acknowledged, failures_acknowledged established]
    rw [documented_first few, established]
    split_ifs with accepted
    · simp [accepted]
    · simp [accepted, long.ne']
  · obtain ⟨failed, failed'⟩ : a.acknowledged = false ∧ b.acknowledged = false := by simpa using established
    rw [documented_double failed failed', failed, failed']
    split_ifs with accepted
    · simp [accepted, long.ne]
    · simp [accepted]

theorem documented_iff_timely_waited {finished : List Attempt} (waited : Waited finished) :
    Throughout (fun a earlier => ∀ d, a.wait = some d → d = documented (a :: earlier)) finished ↔
      Throughout (fun a earlier => ∀ b ∈ earlier.head?, a.wait ≠ none →
        a.accepted = (a.acknowledged || b.acknowledged)) finished := by
  induction finished with
  | nil => exact Iff.rfl
  | cons a earlier ih =>
      obtain ⟨wait, before⟩ := waited
      specialize ih before
      cases earlier with
      | nil =>
          have first : due a [] = documented [a] := by
            have few : failures [a] ≤ 1 := (List.takeWhile_sublist _).length_le
            rw [documented_first few, due, following, ite_self]
          refine ⟨fun _ => ⟨by simp, trivial⟩, fun _ => ⟨?_, trivial⟩⟩
          intro d same
          rw [wait] at same
          rw [← Option.some.inj same, first]
      | cons b earlier =>
          constructor
          · rintro ⟨here, rest⟩
            have previous := rest.1 _ before.1
            refine ⟨?_, ih.mp rest⟩
            rintro b' same -
            obtain rfl := Option.some.inj same
            apply (due_eq_documented_iff (by rw [before.1, previous])).mp
            exact here _ wait
          · rintro ⟨here, rest⟩
            have rest := ih.mpr rest
            have previous := rest.1 _ before.1
            refine ⟨?_, rest⟩
            intro d same
            rw [wait] at same
            obtain rfl := Option.some.inj same
            apply (due_eq_documented_iff (by rw [before.1, previous])).mpr
            exact here b rfl (by simp [wait])

theorem throughout_unwaited {P : Attempt → List Attempt → Prop}
    (free : ∀ a earlier, a.wait = none → P a earlier) {current : List Attempt}
    (unwaited : ∀ a ∈ current, a.wait = none) (finished : List Attempt) :
    Throughout P (current ++ finished) ↔ Throughout P finished := by
  induction current with
  | nil => exact Iff.rfl
  | cons a current ih =>
      obtain ⟨first, others⟩ := List.forall_mem_cons.mp unwaited
      have rest := ih others
      exact ⟨fun both => rest.mp both.2, fun later => ⟨free a _ first, rest.mpr later⟩⟩

/-- The waits of a run are the documented ones exactly when after the first attempt the announcement is
accepted just in the attempts that are acknowledged or follow one that is. -/
theorem documented_waits_iff {trace : List Event} {s : State} (run : (machine config).Run {} trace s) :
    Documented trace ↔ Timely trace := by
  obtain ⟨current, finished, split, unwaited, waited⟩ := (progress_run run).finished
  rw [Documented, Timely, split, throughout_unwaited (by simp_all) unwaited,
    throughout_unwaited (by simp_all) unwaited]
  exact documented_iff_timely_waited waited

def brokerConfig : MqttExporterConfig := { endpoint := some "mqtt://broker" }

def failing (acknowledged : Bool) : List Input :=
  [.main {}, .main {}] ++ (if acknowledged then [.poll 1 .connAck] else []) ++
    [.poll 0 .failed, .eventLoopEnded, .main { wake := .changed }, .main {}]

def twoAttempts (acknowledged : Bool) : List Input :=
  .main {} :: failing acknowledged ++ .main {} :: failing false

theorem twoAttempts_run {acknowledged : Bool} {made : List Attempt}
    (attempted : ((machine brokerConfig).exec {} (twoAttempts acknowledged)).map (fun run => attempts run.1) =
      some made) :
    ∃ trace s, (machine brokerConfig).Run {} trace s ∧ attempts trace = made := by
  obtain ⟨⟨trace, s⟩, executed, same⟩ := Option.map_eq_some_iff.mp attempted
  exact ⟨trace, s, Machine.exec_run executed, same⟩

theorem documented_waits_once :
    ∃ trace s, (machine brokerConfig).Run {} trace s ∧
      attempts trace = [⟨true, false, some (Duration.fromSecs 1)⟩, ⟨true, true, some (Duration.fromSecs 1)⟩] ∧
        Documented trace := by
  have attempted : ((machine brokerConfig).exec {} (twoAttempts true)).map (fun run => attempts run.1) =
      some [⟨true, false, some (Duration.fromSecs 1)⟩, ⟨true, true, some (Duration.fromSecs 1)⟩] := rfl
  obtain ⟨trace, s, run, made⟩ := twoAttempts_run attempted
  refine ⟨trace, s, run, made, (documented_waits_iff run).mpr ?_⟩
  rw [Timely, made]
  simp [Throughout]

/-- The broker is never reached, and yet the second wait is one second again. -/
theorem second_wait_undoubled :
    ∃ trace s, (machine brokerConfig).Run {} trace s ∧
      attempts trace = [⟨true, false, some (Duration.fromSecs 1)⟩, ⟨true, false, some (Duration.fromSecs 1)⟩] ∧
        ¬Documented trace := by
  have attempted : ((machine brokerConfig).exec {} (twoAttempts false)).map (fun run => attempts run.1) =
      some [⟨true, false, some (Duration.fromSecs 1)⟩, ⟨true, false, some (Duration.fromSecs 1)⟩] := rfl
  obtain ⟨trace, s, run, made⟩ := twoAttempts_run attempted
  refine ⟨trace, s, run, made, ?_⟩
  intro promised
  rw [Documented, made] at promised
  exact absurd (promised.1 _ rfl) (by decide)

end BusExporter.Mqtt
