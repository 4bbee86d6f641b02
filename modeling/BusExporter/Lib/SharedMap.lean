import BusExporter.Lib.HashMap
import BusExporter.Lib.Lists
import BusExporter.Lib.Machine
import Mathlib.Data.List.Sigma
import Mathlib.Logic.Function.Basic

/-! A map that many tasks share: each update of an entry is atomic, and so is each look at an entry, but a
walk of the map is a look at one key after another, with updates in between. -/

namespace BusExporter.Lib

inductive Update (κ α : Type*)
  | insert (k : κ) (v : α)
  | remove (k : κ)

namespace Update
variable {κ α : Type*} [DecidableEq κ]

def key : Update κ α → κ
  | .insert k _ | .remove k => k

def value : Update κ α → Option α
  | .insert _ v => some v
  | .remove _ => none

def apply (m : HashMap κ α) : Update κ α → HashMap κ α
  | .insert k v => m.insert k v
  | .remove k => m.erase k

theorem lookup_apply (u : Update κ α) (m : HashMap κ α) (k : κ) :
    (u.apply m).lookup k = if u.key = k then u.value else m.lookup k := by
  cases u with
  | insert k' v =>
      by_cases same : k' = k
      · subst same
        simp [apply, key, value]
      · simp [apply, key, same, AList.lookup_insert_ne (Ne.symm same)]
  | remove k' =>
      by_cases same : k' = k
      · subst same
        simp [apply, key, value]
      · simp [apply, key, same, AList.lookup_erase_ne (Ne.symm same)]

theorem lookup_foldl_apply (updates : List (Update κ α)) (m : HashMap κ α) (k : κ) :
    (updates.foldl apply m).lookup k =
      ((updates.reverse.find? (key · = k)).map value).getD (m.lookup k) := by
  induction updates using List.reverseRecOn with
  | nil => simp
  | append_singleton updates u ih =>
      rw [List.foldl_append, List.foldl_cons, List.foldl_nil, lookup_apply, List.reverse_append]
      by_cases same : u.key = k <;> simp [same, ih]

theorem apply_comm {u u' : Update κ α} (different : u.key ≠ u'.key) (m : HashMap κ α) :
    (u.apply (u'.apply m)).entries.Perm (u'.apply (u.apply m)).entries := by
  apply List.lookup_ext (AList.nodupKeys _) (AList.nodupKeys _)
  intro k v
  have same : (u.apply (u'.apply m)).lookup k = (u'.apply (u.apply m)).lookup k := by
    simp only [lookup_apply]
    by_cases first : u.key = k
    · subst first
      simp [Ne.symm different]
    · simp [first]
  exact iff_of_eq (congrArg (v ∈ ·) same)

end Update

structure Walk (κ α : Type*) where
  /-- The keys that have been in the map since the walk began and are still to be looked at. -/
  due : List κ
  visited : List κ := []
  collected : List (Σ _ : κ, α) := []

namespace Walk
variable {κ α : Type*} [DecidableEq κ]

def start (m : HashMap κ α) : Walk κ α := { due := m.keys }

def visit (m : HashMap κ α) (k : κ) (w : Walk κ α) : Walk κ α where
  due := w.due.filter (· ≠ k)
  visited := k :: w.visited
  collected := w.collected ++ ((m.lookup k).map (Sigma.mk k)).toList

def after (u : Update κ α) (w : Walk κ α) : Walk κ α :=
  match u with
  | .insert _ _ => w
  | .remove k => { w with due := w.due.filter (· ≠ k) }

end Walk

structure SharedMap (κ α ι : Type*) where
  map : HashMap κ α
  walks : ι → Option (Walk κ α)

namespace SharedMap
variable {κ α ι : Type*} [DecidableEq κ] [DecidableEq ι]

inductive Access (κ α ι : Type*)
  | update (u : Update κ α)
  | start (i : ι)
  | visit (i : ι) (k : κ)
  | finish (i : ι)

inductive Event (κ α ι : Type*)
  | updated (u : Update κ α)
  | started (i : ι)
  | walked (i : ι) (collected : List (Σ _ : κ, α))

def setWalk (s : SharedMap κ α ι) (i : ι) (w : Option (Walk κ α)) : SharedMap κ α ι :=
  { s with walks := Function.update s.walks i w }

/-- A walk looks at every key at most once, and ends when no key is due. -/
def step (s : SharedMap κ α ι) : Access κ α ι → Option (SharedMap κ α ι × List (Event κ α ι))
  | .update u => some ({ map := u.apply s.map, walks := fun i => (s.walks i).map (·.after u) }, [.updated u])
  | .start i =>
      match s.walks i with
      | none => some (s.setWalk i (some (.start s.map)), [.started i])
      | some _ => none
  | .visit i k =>
      match s.walks i with
      | none => none
      | some w => if k ∈ w.visited then none else some (s.setWalk i (some (w.visit s.map k)), [])
  | .finish i =>
      match s.walks i with
      | none => none
      | some w => if w.due = [] then some (s.setWalk i none, [.walked i w.collected]) else none

def machine : Machine (SharedMap κ α ι) (Access κ α ι) (Event κ α ι) := ⟨step⟩

def empty : SharedMap κ α ι := ⟨∅, fun _ => none⟩

def updates (trace : List (Event κ α ι)) : List (Update κ α) :=
  trace.filterMap fun
    | .updated u => some u
    | .started _ | .walked _ _ => none

inductive Step (s : SharedMap κ α ι) : SharedMap κ α ι → List (Event κ α ι) → Prop
  | updated (u : Update κ α) :
      Step s { map := u.apply s.map, walks := fun i => (s.walks i).map (·.after u) } [.updated u]
  | started {i : ι} (idle : s.walks i = none) :
      Step s (s.setWalk i (some (.start s.map))) [.started i]
  | visited {i : ι} {k : κ} {w : Walk κ α} (walking : s.walks i = some w) (fresh : k ∉ w.visited) :
      Step s (s.setWalk i (some (w.visit s.map k))) []
  | finished {i : ι} {w : Walk κ α} (walking : s.walks i = some w) (done : w.due = []) :
      Step s (s.setWalk i none) [.walked i w.collected]

theorem step_cases {s s' : SharedMap κ α ι} {a : Access κ α ι} {events : List (Event κ α ι)}
    (action : s.step a = some (s', events)) : Step s s' events := by
  cases a with
  | update u =>
      cases action
      exact .updated u
  | start i =>
      simp only [step] at action
      split at action
      · rename_i idle
        cases action
        exact .started idle
      · cases action
  | visit i k =>
      simp only [step] at action
      split at action
      · cases action
      · rename_i w walking
        split_ifs at action with fresh
        cases action
        exact .visited walking fresh
  | finish i =>
      simp only [step] at action
      split at action
      · cases action
      · rename_i w walking
        split_ifs at action with done
        cases action
        exact .finished walking done

theorem walked_cases {s s' : SharedMap κ α ι} {events first last : List (Event κ α ι)} {i : ι}
    {collected : List (Σ _ : κ, α)} (step : Step s s' events)
    (split : events = first ++ .walked i collected :: last) :
    ∃ w, s.walks i = some w ∧ w.due = [] ∧ w.collected = collected ∧ first = [] := by
  cases step with
  | finished walking done =>
      cases first with
      | nil =>
          cases split
          exact ⟨_, walking, done, rfl, rfl⟩
      | cons e first => simp at split
  | updated u | started idle => cases first <;> simp at split
  | visited walking fresh => simp at split

theorem run_invariant {initial : SharedMap κ α ι} {P : List (Event κ α ι) → SharedMap κ α ι → Prop}
    (begins : P [] initial)
    (steps : ∀ {trace s s' events}, P trace s → Step s s' events → P (trace ++ events) s')
    {trace : List (Event κ α ι)} {s : SharedMap κ α ι} (run : machine.Run initial trace s) : P trace s :=
  run.invariant (P := P) begins fun _ holds action => steps holds (step_cases action)

theorem map_run {trace : List (Event κ α ι)} {s : SharedMap κ α ι} (run : machine.Run empty trace s) :
    s.map = (updates trace).foldl Update.apply ∅ := by
  refine run_invariant (P := fun trace s => s.map = (updates trace).foldl Update.apply ∅) rfl ?_ run
  intro trace s s' events held step
  rw [updates, List.filterMap_append, List.foldl_append]
  cases step with
  | updated u => simp [held, updates]
  | started idle => exact held
  | visited walking fresh => exact held
  | finished walking done => exact held

theorem lookup_run {trace : List (Event κ α ι)} {s : SharedMap κ α ι} (run : machine.Run empty trace s)
    (k : κ) : s.map.lookup k = ((updates trace).reverse.find? (·.key = k)).bind Update.value := by
  rw [map_run run, Update.lookup_foldl_apply]
  cases (updates trace).reverse.find? (·.key = k) <;> rfl

theorem inserted_of_lookup {trace : List (Event κ α ι)} {s : SharedMap κ α ι}
    (run : machine.Run empty trace s) {k : κ} {v : α} (held : s.map.lookup k = some v) :
    .updated (.insert k v) ∈ trace := by
  rw [lookup_run run] at held
  obtain ⟨u, last, value⟩ := Option.bind_eq_some_iff.mp held
  have here : u.key = k := by simpa using List.find?_some last
  have member : u ∈ updates trace := List.mem_reverse.mp (List.mem_of_find?_eq_some last)
  obtain ⟨e, inTrace, shown⟩ := List.mem_filterMap.mp member
  cases e with
  | updated u' =>
      cases shown
      cases u with
      | insert k' v' =>
          cases here
          cases value
          exact inTrace
      | remove k' => cases value
  | started i => cases shown
  | walked i collected => cases shown

structure Once (w : Walk κ α) : Prop where
  distinct : (w.collected.map (·.1)).Nodup
  visited : ∀ e ∈ w.collected, e.1 ∈ w.visited

omit [DecidableEq ι] in
omit [DecidableEq κ] in
theorem Once.start (m : HashMap κ α) : Once (Walk.start m) := ⟨by simp [Walk.start], by simp [Walk.start]⟩

omit [DecidableEq ι] in
theorem Once.visit {w : Walk κ α} (once : Once w) (m : HashMap κ α) {k : κ} (fresh : k ∉ w.visited) :
    Once (w.visit m k) := by
  have new : ∀ e ∈ w.collected, e.1 ≠ k := by
    rintro e collected rfl
    exact fresh (once.visited e collected)
  have old : ∀ e ∈ w.collected, e.1 ∈ k :: w.visited :=
    fun e member => List.mem_cons_of_mem k (once.visited e member)
  unfold Walk.visit
  cases m.lookup k with
  | none =>
      simp only [Option.map_none, Option.toList_none, List.append_nil]
      exact ⟨once.distinct, old⟩
  | some v =>
      simp only [Option.map_some, Option.toList_some]
      refine ⟨?_, List.forall_mem_append.mpr ⟨old, by simp⟩⟩
      rw [List.map_append]
      refine List.nodup_append.mpr ⟨once.distinct, by simp, ?_⟩
      rintro key earlier key' here rfl
      obtain ⟨e, collected, rfl⟩ := List.mem_map.mp earlier
      exact new e collected (List.mem_singleton.mp here)

structure Gathers (trace : List (Event κ α ι)) (w : Walk κ α) : Prop extends Once w where
  inserted : ∀ e ∈ w.collected, .updated (.insert e.1 e.2) ∈ trace

omit [DecidableEq ι] in
theorem Gathers.visit {trace : List (Event κ α ι)} {w : Walk κ α} (gathers : Gathers trace w)
    {m : HashMap κ α} (known : ∀ k v, m.lookup k = some v → .updated (.insert k v) ∈ trace) {k : κ}
    (fresh : k ∉ w.visited) : Gathers trace (w.visit m k) := by
  refine ⟨gathers.toOnce.visit m fresh, ?_⟩
  unfold Walk.visit
  cases found : m.lookup k with
  | none =>
      simp only [Option.map_none, Option.toList_none, List.append_nil]
      exact gathers.inserted
  | some v =>
      simp only [Option.map_some, Option.toList_some]
      exact List.forall_mem_append.mpr ⟨gathers.inserted, by simpa using known k v found⟩

omit [DecidableEq κ] [DecidableEq ι] in
theorem Gathers.append {trace : List (Event κ α ι)} {w : Walk κ α} (gathers : Gathers trace w)
    (events : List (Event κ α ι)) : Gathers (trace ++ events) w :=
  { gathers with inserted := fun e member => List.mem_append_left _ (gathers.inserted e member) }

omit [DecidableEq ι] in
theorem Gathers.after {trace : List (Event κ α ι)} {w : Walk κ α} (gathers : Gathers trace w)
    (u : Update κ α) : Gathers trace (w.after u) := by
  cases u with
  | insert k v => exact gathers
  | remove k => exact ⟨⟨gathers.distinct, gathers.visited⟩, gathers.inserted⟩

omit [DecidableEq κ] in
theorem setWalk_cases {s : SharedMap κ α ι} {i j : ι} {w : Option (Walk κ α)} {w' : Walk κ α}
    (walking : (s.setWalk j w).walks i = some w') :
    (i = j ∧ w = some w') ∨ i ≠ j ∧ s.walks i = some w' := by
  by_cases same : i = j
  · subst same
    exact .inl ⟨rfl, by simpa [setWalk] using walking⟩
  · exact .inr ⟨same, by simpa [setWalk, same] using walking⟩

theorem walks_gather {trace : List (Event κ α ι)} {s : SharedMap κ α ι}
    (run : machine.Run empty trace s) : ∀ i w, s.walks i = some w → Gathers trace w := by
  refine run.invariant (P := fun trace s => ∀ i w, s.walks i = some w → Gathers trace w)
    (by simp [empty]) ?_
  intro trace s a s' events before held action i w walking
  have known : ∀ k v, s.map.lookup k = some v → .updated (.insert k v) ∈ trace :=
    fun k v => inserted_of_lookup before
  apply Gathers.append
  cases step_cases action with
  | updated u =>
      obtain ⟨w', earlier, rfl⟩ := Option.map_eq_some_iff.mp walking
      exact (held i w' earlier).after u
  | started idle =>
      rcases setWalk_cases walking with ⟨-, same⟩ | ⟨-, earlier⟩
      · cases same
        exact ⟨.start _, by simp [Walk.start]⟩
      · exact held i w earlier
  | visited before fresh =>
      rcases setWalk_cases walking with ⟨rfl, same⟩ | ⟨-, earlier⟩
      · cases same
        exact (held _ _ before).visit known fresh
      · exact held i w earlier
  | finished before done =>
      rcases setWalk_cases walking with ⟨-, same⟩ | ⟨-, earlier⟩
      · cases same
      · exact held i w earlier

theorem walked_inserted {trace before after : List (Event κ α ι)} {s : SharedMap κ α ι} {i : ι}
    {collected : List (Σ _ : κ, α)} (run : machine.Run empty trace s)
    (split : trace = before ++ .walked i collected :: after) :
    (collected.map (·.1)).Nodup ∧ ∀ e ∈ collected, .updated (.insert e.1 e.2) ∈ before := by
  obtain ⟨earlier, state, a, state', first, last, previous, action, rfl⟩ := run.emitted split
  obtain ⟨w, walking, -, rfl, rfl⟩ := walked_cases (step_cases action) rfl
  have gathers := walks_gather previous i w walking
  rw [List.append_nil]
  exact ⟨gathers.distinct, gathers.inserted⟩

def lastValue (k : κ) (trace : List (Event κ α ι)) : Option α :=
  ((updates trace).reverse.find? (·.key = k)).bind Update.value

omit [DecidableEq ι] in
theorem lastValue_updated (k : κ) (trace : List (Event κ α ι)) (u : Update κ α) :
    lastValue k (trace ++ [.updated u]) = if u.key = k then u.value else lastValue k trace := by
  by_cases same : u.key = k <;> simp [lastValue, updates, same]

omit [DecidableEq ι] in
theorem lastValue_other (k : κ) (trace : List (Event κ α ι)) {e : Event κ α ι}
    (other : ∀ u, e ≠ .updated u) : lastValue k (trace ++ [e]) = lastValue k trace := by
  cases e with
  | updated u => exact absurd rfl (other u)
  | started i | walked i collected => simp [lastValue, updates]

structure Moments (before during : List (Event κ α ι)) (w : Walk κ α) : Prop extends Once w where
  seen : ∀ k, (k ∈ w.due ∧ k ∉ w.visited) ∨
    ∃ first last, during = first ++ last ∧ w.collected.dlookup k = lastValue k (before ++ first)

omit [DecidableEq ι] in
theorem Once.dlookup_fresh {w : Walk κ α} (once : Once w) {k : κ} (fresh : k ∉ w.visited) :
    w.collected.dlookup k = none := by
  rw [List.dlookup_eq_none]
  intro member
  obtain ⟨e, collected, rfl⟩ := List.mem_map.mp member
  exact fresh (once.visited e collected)

omit [DecidableEq ι] in
theorem Moments.append {before during : List (Event κ α ι)} {w : Walk κ α} (moments : Moments before during w)
    (events : List (Event κ α ι)) : Moments before (during ++ events) w := by
  refine ⟨moments.toOnce, fun k => (moments.seen k).imp_right ?_⟩
  rintro ⟨first, last, rfl, got⟩
  exact ⟨first, last ++ events, by rw [List.append_assoc], got⟩

omit [DecidableEq ι] in
theorem Moments.visit {before during : List (Event κ α ι)} {w : Walk κ α}
    (moments : Moments before during w) {m : HashMap κ α}
    (holds : ∀ k, m.lookup k = lastValue k (before ++ during)) {k : κ} (fresh : k ∉ w.visited) :
    Moments before during (w.visit m k) := by
  refine ⟨moments.toOnce.visit m fresh, fun k' => ?_⟩
  have added : (w.visit m k).collected.dlookup k' =
      if k' = k then m.lookup k else w.collected.dlookup k' := by
    simp only [Walk.visit, List.dlookup_append]
    by_cases same : k' = k
    · subst same
      rw [moments.toOnce.dlookup_fresh fresh, if_pos rfl]
      cases m.lookup k' <;> simp
    · have other : (((m.lookup k).map (Sigma.mk k)).toList : List (Σ _ : κ, α)).dlookup k' = none := by
        cases m.lookup k with
        | none => rfl
        | some v => exact List.dlookup_cons_ne (β := fun _ => α) [] ⟨k, v⟩ same
      rw [other, if_neg same, Option.or_none]
  by_cases same : k' = k
  · refine .inr ⟨during, [], by simp, ?_⟩
    rw [added, if_pos same, same, holds]
  · rw [added, if_neg same]
    refine (moments.seen k').imp_left fun ⟨due, unseen⟩ => ?_
    simp [Walk.visit, due, unseen, same]

omit [DecidableEq ι] in
theorem Moments.updated {before during : List (Event κ α ι)} {w : Walk κ α} (moments : Moments before during w)
    (u : Update κ α) : Moments before (during ++ [.updated u]) (w.after u) := by
  cases u with
  | insert k v => exact moments.append _
  | remove k =>
      refine ⟨⟨moments.distinct, moments.visited⟩, fun k' => ?_⟩
      rcases (moments.append [.updated (.remove k)]).seen k' with ⟨due, unseen⟩ | got
      · by_cases same : k' = k
        · -- a key that is removed before its turn is missing from then on
          subst same
          refine .inr ⟨during ++ [.updated (.remove k')], [], by simp, ?_⟩
          rw [Walk.after, moments.toOnce.dlookup_fresh unseen]
          simp [lastValue, updates, Update.key, Update.value]
        · exact .inl ⟨by simp [Walk.after, due, same], unseen⟩
      · exact .inr got

theorem walking_moments {trace : List (Event κ α ι)} {s : SharedMap κ α ι}
    (run : machine.Run empty trace s) :
    ∀ i w, s.walks i = some w → ∃ before during, trace = before ++ .started i :: during ∧
      (∀ collected, .walked i collected ∉ during) ∧ Moments (before ++ [.started i]) during w := by
  refine run.invariant (P := fun trace s => ∀ i w, s.walks i = some w →
    ∃ before during, trace = before ++ .started i :: during ∧
      (∀ collected, .walked i collected ∉ during) ∧ Moments (before ++ [.started i]) during w)
    (by simp [empty]) ?_
  intro trace s a s' events previous held action i w walking
  have kept {w' : Walk κ α} (earlier : s.walks i = some w')
      (open_ : ∀ collected, .walked i collected ∉ events)
      (goes : ∀ before during, trace = before ++ .started i :: during →
        Moments (before ++ [.started i]) during w' → Moments (before ++ [.started i]) (during ++ events) w) :
      ∃ before during, trace ++ events = before ++ .started i :: during ∧
        (∀ collected, .walked i collected ∉ during) ∧ Moments (before ++ [.started i]) during w := by
    obtain ⟨before, during, rfl, unfinished, moments⟩ := held i w' earlier
    refine ⟨before, during ++ events, by simp, fun collected member => ?_, goes before during rfl moments⟩
    rcases List.mem_append.mp member with old | new
    · exact unfinished collected old
    · exact open_ collected new
  cases step_cases action with
  | updated u =>
      obtain ⟨w', earlier, rfl⟩ := Option.map_eq_some_iff.mp walking
      exact kept earlier (by simp) fun _ _ _ moments => moments.updated u
  | started idle =>
      rcases setWalk_cases walking with ⟨rfl, same⟩ | ⟨-, earlier⟩
      · cases same
        refine ⟨trace, [], rfl, by simp, Once.start s.map, fun k => ?_⟩
        by_cases present : k ∈ s.map
        · exact .inl ⟨AList.mem_keys.mp present, by simp [Walk.start]⟩
        · refine .inr ⟨[], [], rfl, ?_⟩
          have absent := lookup_run (previous.next action) k
          rw [setWalk, AList.lookup_eq_none.mpr present] at absent
          rw [List.append_nil, lastValue, ← absent]
          rfl
      · exact kept earlier (by simp) fun _ _ _ moments => moments.append _
  | visited before fresh =>
      rcases setWalk_cases walking with ⟨rfl, same⟩ | ⟨-, earlier⟩
      · cases same
        refine kept before (by simp) fun pre during whole moments => ?_
        rw [List.append_nil]
        refine moments.visit (fun k => ?_) fresh
        rw [lookup_run previous, whole, List.append_assoc]
        rfl
      · exact kept earlier (by simp) fun _ _ _ moments => moments.append _
  | finished before done =>
      rcases setWalk_cases walking with ⟨-, same⟩ | ⟨other, earlier⟩
      · cases same
      · exact kept earlier (by simp [other]) fun _ _ _ moments => moments.append _

/-- A walk brings back of every key what the map held of it at one moment of the walk. -/
theorem walked_moment {before after : List (Event κ α ι)} {s : SharedMap κ α ι} {i : ι}
    {collected : List (Σ _ : κ, α)} (run : machine.Run empty (before ++ .walked i collected :: after) s) :
    ∃ earlier during, before = earlier ++ .started i :: during ∧ (∀ collected, .walked i collected ∉ during) ∧
      ∀ k, ∃ first last, during = first ++ last ∧
        collected.dlookup k = lastValue k (earlier ++ .started i :: first) := by
  obtain ⟨trace, state, a, state', first, last, previous, action, rfl⟩ := run.emitted rfl
  obtain ⟨w, walking, done, rfl, rfl⟩ := walked_cases (step_cases action) rfl
  obtain ⟨earlier, during, rfl, unfinished, moments⟩ := walking_moments previous i w walking
  refine ⟨earlier, during, by rw [List.append_nil], unfinished, fun k => ?_⟩
  rcases moments.seen k with ⟨due, -⟩ | ⟨first, last, split, got⟩
  · simp [done] at due
  · refine ⟨first, last, split, ?_⟩
    rw [got, List.append_assoc]
    rfl

def Fresh (s : SharedMap κ α ι) : Prop := ∀ i w, s.walks i = some w → ∀ k ∈ w.due, k ∉ w.visited

theorem fresh_step {s s' : SharedMap κ α ι} {events : List (Event κ α ι)} (fresh : Fresh s)
    (step : Step s s' events) : Fresh s' := by
  intro i w walking
  cases step with
  | updated u =>
      obtain ⟨w', earlier, rfl⟩ := Option.map_eq_some_iff.mp walking
      cases u with
      | insert k v => exact fresh i w' earlier
      | remove k => exact fun k' due => fresh i w' earlier k' (List.mem_of_mem_filter due)
  | started idle =>
      rcases setWalk_cases walking with ⟨-, same⟩ | ⟨-, earlier⟩
      · cases same
        simp [Walk.start]
      · exact fresh i w earlier
  | visited before unseen =>
      rcases setWalk_cases walking with ⟨rfl, same⟩ | ⟨-, earlier⟩
      · cases same
        intro k due
        obtain ⟨earlier, different⟩ := List.mem_filter.mp due
        rw [Walk.visit, List.mem_cons, not_or]
        exact ⟨by simpa using different, fresh _ _ before k earlier⟩
      · exact fresh i w earlier
  | finished before done =>
      rcases setWalk_cases walking with ⟨-, same⟩ | ⟨-, earlier⟩
      · cases same
      · exact fresh i w earlier

structure Tracks (entry : Option α) (k : κ) (m : HashMap κ α) (w : Walk κ α) : Prop where
  held : m.lookup k = entry
  open_ : k ∈ w.due ∨ k ∈ w.visited ∨ entry = none
  got : w.collected.dlookup k = if k ∈ w.visited then entry else none

omit [DecidableEq ι] in
theorem Tracks.start (k : κ) (m : HashMap κ α) : Tracks (m.lookup k) k m (.start m) := by
  refine ⟨rfl, ?_, by simp [Walk.start]⟩
  by_cases present : k ∈ m
  · exact .inl (AList.mem_keys.mp present)
  · exact .inr (.inr (AList.lookup_eq_none.mpr present))

omit [DecidableEq ι] in
theorem Tracks.visit {entry : Option α} {k : κ} {m : HashMap κ α} {w : Walk κ α}
    (tracks : Tracks entry k m w) {k' : κ} (fresh : k' ∉ w.visited) : Tracks entry k m (w.visit m k') := by
  refine ⟨tracks.held, ?_, ?_⟩
  · rcases tracks.open_ with due | visited | absent
    · by_cases same : k = k'
      · exact .inr (.inl (by simp [Walk.visit, same]))
      · exact .inl (by simp [Walk.visit, due, same])
    · exact .inr (.inl (List.mem_cons_of_mem k' visited))
    · exact .inr (.inr absent)
  · simp only [Walk.visit, List.dlookup_append, tracks.got]
    by_cases same : k = k'
    · subst same
      rw [if_neg fresh, tracks.held]
      cases entry <;> simp
    · have other : (((m.lookup k').map (Sigma.mk k')).toList : List (Σ _ : κ, α)).dlookup k = none := by
        cases m.lookup k' with
        | none => rfl
        | some v => exact List.dlookup_cons_ne (β := fun _ => α) [] ⟨k', v⟩ same
      rw [other]
      simp [same]

omit [DecidableEq ι] in
theorem Tracks.complete {entry : Option α} {k : κ} {m : HashMap κ α} {w : Walk κ α}
    (tracks : Tracks entry k m w) (done : w.due = []) : w.collected.dlookup k = entry := by
  rw [tracks.got]
  split_ifs with visited
  · rfl
  · rcases tracks.open_ with due | here | absent
    · simp [done] at due
    · exact absurd here visited
    · exact absent.symm

end SharedMap
end BusExporter.Lib
