import Mathlib.Data.List.Perm.Basic
import Mathlib.Order.Lattice
import Mathlib.Tactic.SplitIfs

/-! Division of intervals into groups, under a cap on the span of a group and on the gaps inside it.
A greedy pass over the sorted intervals makes as few groups as any division. -/

namespace BusExporter.Lib.Grouping

variable {α : Type*} (first last : α → Nat) (cap gap : Nat)

def Sorted (group : List α) : Prop := group.Pairwise fun a b => first a ≤ first b

def Chained (reach : Nat) : List α → Prop
  | [] => True
  | a :: rest => first a ≤ reach + gap ∧ Chained (max reach (last a)) rest

def Feasible : List α → Prop
  | [] => True
  | a :: rest => (∀ m ∈ a :: rest, last m ≤ first a + cap) ∧ Chained first last gap (last a) rest

def greedyFrom (start reach : Nat) (group : List α) : List α → List (List α)
  | [] => [group]
  | a :: rest =>
      if first a ≤ reach + gap ∧ last a ≤ start + cap then
        greedyFrom start (max reach (last a)) (group ++ [a]) rest
      else group :: greedyFrom (first a) (last a) [a] rest

def greedy : List α → List (List α)
  | [] => []
  | a :: rest => greedyFrom first last cap gap (first a) (last a) [a] rest

theorem greedyFrom_flatten (start reach : Nat) (group items : List α) :
    (greedyFrom first last cap gap start reach group items).flatten = group ++ items := by
  induction items generalizing start reach group with
  | nil => simp [greedyFrom]
  | cons a rest ih =>
      rw [greedyFrom]
      split_ifs
      · rw [ih, List.append_assoc, List.singleton_append]
      · rw [List.flatten_cons, ih, List.singleton_append]

theorem greedy_flatten (items : List α) : (greedy first last cap gap items).flatten = items := by
  cases items with
  | nil => rfl
  | cons a rest => exact greedyFrom_flatten first last cap gap _ _ [a] rest

variable {first last cap gap}

theorem Chained.concat {reach : Nat} {group : List α} {a : α}
    (chained : Chained first last gap reach group)
    (near : ∃ m, first a ≤ m + gap ∧ (m ≤ reach ∨ ∃ b ∈ group, m ≤ last b)) :
    Chained first last gap reach (group ++ [a]) := by
  induction group generalizing reach with
  | nil =>
      obtain ⟨m, close, below⟩ := near
      have reached : m ≤ reach := by simpa using below
      exact ⟨by omega, trivial⟩
  | cons b group ih =>
      obtain ⟨begins, others⟩ := chained
      refine ⟨begins, ih others ?_⟩
      obtain ⟨m, close, below⟩ := near
      refine ⟨m, close, ?_⟩
      rcases below with early | ⟨c, member, early⟩
      · exact .inl (early.trans (le_max_left _ _))
      · rcases List.mem_cons.mp member with rfl | later
        · exact .inl (early.trans (le_max_right _ _))
        · exact .inr ⟨c, later, early⟩

structure Open (first last : α → Nat) (cap gap start reach : Nat) (group : List α) : Prop where
  feasible : Feasible first last cap gap group
  begins : ∃ a rest, group = a :: rest ∧ first a = start
  ends : ∃ m ∈ group, last m = reach
  within : ∀ m ∈ group, last m ≤ reach

theorem open_single {a : α} (small : last a ≤ first a + cap) :
    Open first last cap gap (first a) (last a) [a] where
  feasible := ⟨by simpa using small, trivial⟩
  begins := ⟨a, [], rfl, rfl⟩
  ends := ⟨a, by simp, rfl⟩
  within := by simp

theorem Open.extend {start reach : Nat} {group : List α} {a : α}
    (made : Open first last cap gap start reach group) (near : first a ≤ reach + gap)
    (fits : last a ≤ start + cap) :
    Open first last cap gap start (max reach (last a)) (group ++ [a]) := by
  obtain ⟨feasible, ⟨opener, others, rfl, begins⟩, ⟨far, inGroup, ends⟩, within⟩ := made
  obtain ⟨span, chained⟩ := feasible
  refine ⟨⟨?_, chained.concat ⟨reach, near, ?_⟩⟩, ⟨opener, others ++ [a], rfl, begins⟩, ?_, ?_⟩
  · intro m member
    rcases List.mem_append.mp (List.cons_append ▸ member) with old | new
    · exact span m old
    · rw [List.mem_singleton.mp new, begins]
      exact fits
  · rcases List.mem_cons.mp inGroup with rfl | later
    · exact .inl ends.ge
    · exact .inr ⟨far, later, ends.ge⟩
  · rcases le_total reach (last a) with longer | shorter
    · exact ⟨a, by simp, (max_eq_right longer).symm⟩
    · exact ⟨far, List.mem_append_left _ inGroup, by rw [max_eq_left shorter, ends]⟩
  · intro m member
    rcases List.mem_append.mp member with old | new
    · exact (within m old).trans (le_max_left _ _)
    · rw [List.mem_singleton.mp new]
      exact le_max_right _ _

theorem greedyFrom_feasible {start reach : Nat} {group items : List α}
    (made : Open first last cap gap start reach group)
    (small : ∀ m ∈ items, last m ≤ first m + cap) :
    ∀ g ∈ greedyFrom first last cap gap start reach group items, Feasible first last cap gap g := by
  induction items generalizing start reach group with
  | nil =>
      intro g member
      rw [List.mem_singleton.mp member]
      exact made.feasible
  | cons a rest ih =>
      have smaller : ∀ m ∈ rest, last m ≤ first m + cap := fun m member => small m (by simp [member])
      rw [greedyFrom]
      split_ifs with joins
      · exact ih (made.extend joins.1 joins.2) smaller
      · intro g member
        rcases List.mem_cons.mp member with rfl | inRest
        · exact made.feasible
        · exact ih (open_single (small a (by simp))) smaller g inRest

theorem greedy_feasible {items : List α} (small : ∀ m ∈ items, last m ≤ first m + cap) :
    ∀ g ∈ greedy first last cap gap items, Feasible first last cap gap g := by
  cases items with
  | nil => simp [greedy]
  | cons a rest =>
      exact greedyFrom_feasible (open_single (small a (by simp)))
        fun m member => small m (by simp [member])

section Apart
variable (first last cap gap) (items : List α)

def Apart (a b : α) : Prop :=
  ∀ group : List α, (∀ m ∈ group, m ∈ items) → Sorted first group → Feasible first last cap gap group →
    ¬(a ∈ group ∧ b ∈ group)

end Apart

theorem apart_of_span {items : List α} {a b : α} (wide : first a + cap < last b) :
    Apart first last cap gap items a b := by
  rintro group - sorted feasible ⟨left, right⟩
  cases group with
  | nil => simp at left
  | cons opener rest =>
      have within := feasible.1 b right
      have begins : first opener ≤ first a := by
        rcases List.mem_cons.mp left with rfl | later
        · exact le_rfl
        · exact (List.pairwise_cons.mp sorted).1 a later
      omega

theorem Chained.before {limit reach : Nat} {group : List α}
    (chained : Chained first last gap reach group) (short : reach + gap < limit)
    (barrier : ∀ m ∈ group, first m < limit → last m + gap < limit) :
    ∀ m ∈ group, first m < limit := by
  induction group generalizing reach with
  | nil => simp
  | cons a rest ih =>
      obtain ⟨begins, others⟩ := chained
      have here : first a < limit := begins.trans_lt short
      have ends : last a + gap < limit := barrier a (by simp) here
      intro m member
      rcases List.mem_cons.mp member with rfl | later
      · exact here
      · exact ih others (by omega) (fun m member => barrier m (by simp [member])) m later

theorem apart_of_gap {items : List α} {a b : α} (order : first a < first b)
    (barrier : ∀ m ∈ items, first m < first b → last m + gap < first b) :
    Apart first last cap gap items a b := by
  rintro group inItems sorted feasible ⟨left, right⟩
  cases group with
  | nil => simp at left
  | cons opener rest =>
      have begins : first opener < first b := by
        rcases List.mem_cons.mp left with rfl | later
        · exact order
        · exact ((List.pairwise_cons.mp sorted).1 a later).trans_lt order
      have short := barrier opener (inItems opener (by simp)) begins
      rcases List.mem_cons.mp right with rfl | later
      · exact lt_irrefl _ begins
      · exact lt_irrefl _ (feasible.2.before short
          (fun m member => barrier m (inItems m (by simp [member]))) b later)

variable (gap) in
/-- The items that open the groups still to come are apart from each other and from every opener before
them: what was passed ends at `reach` at the latest, so it bridges no gap that closed a group. -/
theorem openers_apart (items passed : List α) {rest : List α} {start reach : Nat} (group : List α)
    (all : ∀ m ∈ items, m ∈ passed ∨ m ∈ rest) (sorted : Sorted first rest)
    (later : ∀ m ∈ rest, start ≤ first m)
    (proper : ∀ m ∈ rest, first m ≤ last m ∧ last m ≤ first m + cap)
    (order : start ≤ reach) (fits : reach ≤ start + cap) (before : ∀ m ∈ passed, last m ≤ reach) :
    ∃ heads : List α,
      (greedyFrom first last cap gap start reach group rest).length = heads.length + 1 ∧
        (∀ h ∈ heads, h ∈ rest) ∧ heads.Pairwise (Apart first last cap gap items) ∧
        ∀ o, first o ≤ start → ∀ h ∈ heads, Apart first last cap gap items o h := by
  induction rest generalizing passed start reach group with
  | nil => exact ⟨[], by simp [greedyFrom]⟩
  | cons a rest ih =>
      obtain ⟨next, sorted⟩ := List.pairwise_cons.mp sorted
      obtain ⟨forward, small⟩ := proper a (by simp)
      have begins : start ≤ first a := later a (by simp)
      have proper' : ∀ m ∈ rest, first m ≤ last m ∧ last m ≤ first m + cap :=
        fun m member => proper m (by simp [member])
      have all' : ∀ m ∈ items, m ∈ a :: passed ∨ m ∈ rest := by
        intro m member
        rcases all m member with old | new
        · exact .inl (by simp [old])
        · rcases List.mem_cons.mp new with rfl | inRest
          · exact .inl (by simp)
          · exact .inr inRest
      rw [greedyFrom]
      split_ifs with joins
      · have before' : ∀ m ∈ a :: passed, last m ≤ max reach (last a) := by
          intro m member
          rcases List.mem_cons.mp member with rfl | old
          · exact le_max_right _ _
          · exact (before m old).trans (le_max_left _ _)
        obtain ⟨heads, count, inRest, apart, fromOpen⟩ := ih (a :: passed) (group ++ [a]) all' sorted
          (fun m member => begins.trans (next m member)) proper' (by omega) (by omega) before'
        exact ⟨heads, count, fun h member => by simp [inRest h member], apart, fromOpen⟩
      -- either break puts the end of what was passed before the end of the item
      · have passes : reach < last a := by omega
        have before' : ∀ m ∈ a :: passed, last m ≤ last a := by
          intro m member
          rcases List.mem_cons.mp member with rfl | old
          · exact le_rfl
          · exact (before m old).trans passes.le
        obtain ⟨heads, count, inRest, apart, fromOpen⟩ :=
          ih (a :: passed) [a] all' sorted next proper' forward small before'
        have opens : ∀ o, first o ≤ start → Apart first last cap gap items o a := by
          intro o early
          by_cases near : first a ≤ reach + gap
          · have wide : ¬last a ≤ start + cap := fun fits => joins ⟨near, fits⟩
            exact apart_of_span (by omega)
          · apply apart_of_gap (by omega)
            intro m member early
            rcases all m member with old | new
            · have := before m old
              omega
            · rcases List.mem_cons.mp new with rfl | inRest
              · omega
              · have := next m inRest
                omega
        refine ⟨a :: heads, by simp [count], ?_, ?_, ?_⟩
        · intro h member
          rcases List.mem_cons.mp member with rfl | later
          · simp
          · simp [inRest h later]
        · exact List.pairwise_cons.mpr ⟨fromOpen a le_rfl, apart⟩
        · intro o early h member
          rcases List.mem_cons.mp member with rfl | later
          · exact opens o early
          · exact fromOpen o (early.trans begins) h later

theorem length_le_of_apart {heads : List α} {groups : List (List α)}
    (apart : heads.Pairwise fun a b => ∀ g ∈ groups, ¬(a ∈ g ∧ b ∈ g))
    (covered : ∀ h ∈ heads, ∃ g ∈ groups, h ∈ g) : heads.length ≤ groups.length := by
  classical
  induction heads generalizing groups with
  | nil => simp
  | cons h heads ih =>
      obtain ⟨others, apart⟩ := List.pairwise_cons.mp apart
      obtain ⟨g, planned, inGroup⟩ := covered h (by simp)
      -- the group of the first is no group of the rest, so the rest is covered without it
      have fewer : heads.length ≤ (groups.erase g).length := by
        apply ih
        · exact apart.imp fun separate g' member => separate g' (List.mem_of_mem_erase member)
        · intro h' member
          obtain ⟨g', planned', inGroup'⟩ := covered h' (by simp [member])
          have different : g' ≠ g := by
            rintro rfl
            exact others h' member g' planned' ⟨inGroup, inGroup'⟩
          exact ⟨g', (List.mem_erase_of_ne different).mpr planned', inGroup'⟩
      have length := List.length_erase_add_one planned
      simp only [List.length_cons]
      omega

theorem greedy_minimal {items : List α} (sorted : Sorted first items)
    (proper : ∀ m ∈ items, first m ≤ last m ∧ last m ≤ first m + cap) {groups : List (List α)}
    (divides : groups.flatten.Perm items)
    (feasible : ∀ g ∈ groups, Sorted first g ∧ Feasible first last cap gap g) :
    (greedy first last cap gap items).length ≤ groups.length := by
  cases items with
  | nil => simp [greedy]
  | cons a rest =>
      obtain ⟨next, sorted⟩ := List.pairwise_cons.mp sorted
      obtain ⟨forward, small⟩ := proper a (by simp)
      obtain ⟨heads, count, inRest, apart, fromOpen⟩ := openers_apart gap (a :: rest) [a] [a] (by simp)
        sorted next (fun m member => proper m (by simp [member])) forward small (by simp)
      have separate : (a :: heads).Pairwise fun x y => ∀ g ∈ groups, ¬(x ∈ g ∧ y ∈ g) := by
        refine (List.pairwise_cons.mpr ⟨fromOpen a le_rfl, apart⟩).imp fun apart g planned => ?_
        apply apart g _ (feasible g planned).1 (feasible g planned).2
        intro m member
        exact divides.subset (List.mem_flatten.mpr ⟨g, planned, member⟩)
      have covered : ∀ h ∈ a :: heads, ∃ g ∈ groups, h ∈ g := by
        intro h member
        have inItems : h ∈ a :: rest := by
          rcases List.mem_cons.mp member with rfl | later
          · simp
          · simp [inRest h later]
        exact List.mem_flatten.mp (divides.symm.subset inItems)
      rw [greedy, count]
      exact length_le_of_apart separate covered

end BusExporter.Lib.Grouping
