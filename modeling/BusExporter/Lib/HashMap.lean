import Mathlib.Data.List.AList
import Mathlib.Data.List.Perm.Basic

/-! Hash maps as association lists with distinct keys. The order in which a hash map is walked is
arbitrary: a walk takes the order as an argument, and every permutation is one. -/

namespace BusExporter.Lib

/-- The choices that fix one walk of a hash map: at each position, which remaining entry is next. -/
abbrev RandomState := List Nat

def shuffle {α : Type*} : RandomState → List α → List α
  | _, [] => []
  | [], a :: l => a :: l
  | choice :: rest, a :: l =>
      have position : choice % (a :: l).length < (a :: l).length := Nat.mod_lt _ (by simp)
      (a :: l)[choice % (a :: l).length] :: shuffle rest ((a :: l).eraseIdx (choice % (a :: l).length))
termination_by structural order => order

theorem shuffle_perm {α : Type*} (order : RandomState) (l : List α) : (shuffle order l).Perm l := by
  induction order generalizing l with
  | nil => cases l <;> simp [shuffle]
  | cons choice rest ih =>
      cases l with
      | nil => simp [shuffle]
      | cons a l =>
          rw [shuffle]
          exact ((ih _).cons _).trans (List.getElem_cons_eraseIdx_perm _)

theorem exists_shuffle {α : Type*} {l target : List α} (same : target.Perm l) :
    ∃ order, shuffle order l = target := by
  induction target generalizing l with
  | nil => exact ⟨[], by rw [List.nil_perm.mp same, shuffle]⟩
  | cons a target ih =>
      obtain ⟨i, inside, located⟩ := List.getElem_of_mem (same.subset (List.mem_cons_self))
      have remaining : target.Perm (l.eraseIdx i) := by
        have split := List.getElem_cons_eraseIdx_perm inside
        rw [located] at split
        exact (same.trans split.symm).cons_inv
      obtain ⟨order, walked⟩ := ih remaining
      refine ⟨i :: order, ?_⟩
      cases l with
      | nil => simp at inside
      | cons b l =>
          rw [shuffle]
          simp only [Nat.mod_eq_of_lt inside, located, walked]

abbrev HashMap (κ α : Type*) := AList fun _ : κ => α

namespace HashMap
variable {κ α : Type*} [DecidableEq κ]

def iter (order : RandomState) (m : HashMap κ α) : List (Σ _ : κ, α) := shuffle order m.entries

omit [DecidableEq κ] in
theorem iter_perm (order : RandomState) (m : HashMap κ α) : (m.iter order).Perm m.entries :=
  shuffle_perm order m.entries

omit [DecidableEq κ] in
theorem iter_nodupKeys (order : RandomState) (m : HashMap κ α) : (m.iter order).NodupKeys :=
  (List.perm_nodupKeys (iter_perm order m)).mpr m.nodupKeys

theorem dlookup_iter (order : RandomState) (m : HashMap κ α) (k : κ) :
    (m.iter order).dlookup k = m.lookup k :=
  List.perm_dlookup k (iter_nodupKeys order m) (iter_perm order m)

theorem mem_iter {order : RandomState} {m : HashMap κ α} {k : κ} {v : α} :
    (⟨k, v⟩ : Σ _ : κ, α) ∈ m.iter order ↔ m.lookup k = some v := by
  rw [(iter_perm order m).mem_iff]
  exact AList.mem_lookup_iff.symm

theorem lookup_insert_cases {k k' : κ} {v v' : α} {m : HashMap κ α} (held : (m.insert k v).lookup k' = some v') :
    (k' = k ∧ v = v') ∨ (k' ≠ k ∧ m.lookup k' = some v') := by
  by_cases same : k' = k
  · subst same
    exact .inl ⟨rfl, Option.some.inj ((AList.lookup_insert m).symm.trans held)⟩
  · exact .inr ⟨same, (AList.lookup_insert_ne same).symm.trans held⟩

theorem lookup_erase_cases {k k' : κ} {v : α} {m : HashMap κ α} (held : (m.erase k).lookup k' = some v) :
    k' ≠ k ∧ m.lookup k' = some v := by
  by_cases same : k' = k
  · subst same
    rw [AList.lookup_erase] at held
    cases held
  · exact ⟨same, (AList.lookup_erase_ne same).symm.trans held⟩

def orInsert (k : κ) (v : α) (m : HashMap κ α) : HashMap κ α :=
  if k ∈ m then m else m.insert k v

theorem lookup_orInsert (k : κ) (v : α) (m : HashMap κ α) (k' : κ) :
    (m.orInsert k v).lookup k' = if k' = k then some ((m.lookup k).getD v) else m.lookup k' := by
  unfold orInsert
  by_cases present : k ∈ m
  · obtain ⟨old, found⟩ := Option.isSome_iff_exists.mp (AList.lookup_isSome.mpr present)
    split_ifs with same
    · rw [same, found, Option.getD_some]
    · rfl
  · have absent := AList.lookup_eq_none.mpr present
    split_ifs with same
    · rw [same, AList.lookup_insert, absent, Option.getD_none]
    · exact AList.lookup_insert_ne same

def modify (k : κ) (f : α → α) (m : HashMap κ α) : HashMap κ α :=
  match m.lookup k with
  | some v => m.insert k (f v)
  | none => m

theorem lookup_modify (k : κ) (f : α → α) (m : HashMap κ α) (k' : κ) :
    (m.modify k f).lookup k' = if k' = k then (m.lookup k).map f else m.lookup k' := by
  unfold modify
  cases found : m.lookup k with
  | none =>
      by_cases same : k' = k
      · subst same
        simpa using found
      · simp [same]
  | some v =>
      by_cases same : k' = k
      · subst same
        simp
      · simp [same, AList.lookup_insert_ne same]

omit [DecidableEq κ] in
theorem nodupKeys_map {β : Type*} (f : α → β) (m : HashMap κ α) :
    (m.entries.map fun e => (⟨e.1, f e.2⟩ : Σ _ : κ, β)).NodupKeys := by
  rw [List.NodupKeys, List.keys, List.map_map]
  exact m.nodupKeys

def mapValues {β : Type*} (f : α → β) (m : HashMap κ α) : HashMap κ β :=
  ⟨m.entries.map fun e => ⟨e.1, f e.2⟩, nodupKeys_map f m⟩

theorem lookup_mapValues {β : Type*} (f : α → β) (m : HashMap κ α) (k : κ) :
    (m.mapValues f).lookup k = (m.lookup k).map f :=
  List.dlookup_map₂ (f := fun _ => f) k

theorem values_perm {β : Type*} {f : α → β} {m m' : HashMap κ α}
    (same : ∀ k, (m.lookup k).map f = (m'.lookup k).map f) (order order' : RandomState) :
    ((m.iter order).map fun e => f e.2).Perm ((m'.iter order').map fun e => f e.2) := by
  have entries : (m.mapValues f).entries.Perm (m'.mapValues f).entries := by
    refine List.lookup_ext (m.mapValues f).nodupKeys (m'.mapValues f).nodupKeys ?_
    intro k v
    have found := same k
    rw [← lookup_mapValues, ← lookup_mapValues] at found
    exact iff_of_eq (congrArg (v ∈ ·) found)
  have values := entries.map Sigma.snd
  simp only [mapValues, List.map_map] at values
  exact ((iter_perm order m).map _).trans (values.trans ((iter_perm order' m').map _).symm)

theorem lookup_foldl_orInsert {β : Type*} (f : κ → β → α) (l : List (Σ _ : κ, β))
    (m : HashMap κ α) (k : κ) :
    (l.foldl (fun m e => m.orInsert e.1 (f e.1 e.2)) m).lookup k =
      (m.lookup k).or ((l.dlookup k).map (f k)) := by
  induction l generalizing m with
  | nil => simp
  | cons e l ih =>
      obtain ⟨k', v⟩ := e
      rw [List.foldl_cons, ih, lookup_orInsert]
      by_cases same : k = k'
      · subst same
        cases m.lookup k <;> simp
      · simp [same, List.dlookup_cons_ne l ⟨k', v⟩ same]

theorem lookup_foldl_insert {β : Type*} (key : β → κ) (value : β → α) (l : List β)
    (m : HashMap κ α) (k : κ) :
    (l.foldl (fun m b => m.insert (key b) (value b)) m).lookup k =
      ((l.reverse.find? (key · = k)).map value).or (m.lookup k) := by
  induction l generalizing m with
  | nil => simp
  | cons b l ih =>
      rw [List.foldl_cons, ih, List.reverse_cons, List.find?_append]
      cases l.reverse.find? (key · = k) with
      | some b' => simp
      | none =>
          by_cases same : key b = k
          · subst same
            simp
          · simp [same, AList.lookup_insert_ne (Ne.symm same)]

theorem countP_insert_le (p : α → Bool) (m : HashMap κ α) (k : κ) (v : α) :
    (m.insert k v).entries.countP (p ·.2) ≤ m.entries.countP (p ·.2) + if p v then 1 else 0 := by
  rw [AList.entries_insert, List.countP_cons]
  exact Nat.add_le_add_right (List.kerase_sublist k m.entries).countP_le _

theorem countP_erase (p : (Σ _ : κ, α) → Bool) {m : HashMap κ α} {k : κ} {v : α} (held : m.lookup k = some v) :
    (m.erase k).entries.countP p + (if p ⟨k, v⟩ then 1 else 0) = m.entries.countP p := by
  have member : (⟨k, v⟩ : Σ _ : κ, α) ∈ m.entries := AList.mem_lookup_iff.mp held
  obtain ⟨v', first, last, absent, split, rest⟩ := List.exists_of_kerase (List.mem_keys_of_mem member)
  have same : v' = v := by
    have found : m.entries.dlookup k = some v' := by
      rw [split, List.dlookup_append, List.dlookup_eq_none.mpr absent, Option.none_or, List.dlookup_cons_eq]
    exact Option.some.inj (found.symm.trans held)
  subst same
  have erased : (m.erase k).entries = first ++ last := rest
  rw [erased, split, List.countP_append, List.countP_append, List.countP_cons]
  exact Nat.add_assoc _ _ _

theorem countP_insert_new (p : (Σ _ : κ, α) → Bool) {m : HashMap κ α} {k : κ}
    (absent : m.lookup k = none) (v : α) :
    (m.insert k v).entries.countP p = m.entries.countP p + if p ⟨k, v⟩ then 1 else 0 := by
  have unknown : k ∉ m.entries.keys := AList.lookup_eq_none.mp absent
  rw [AList.entries_insert, List.kerase_of_notMem_keys unknown, List.countP_cons]

theorem countP_insert_again (p : (Σ _ : κ, α) → Bool) {m : HashMap κ α} {k : κ} {v : α}
    (held : m.lookup k = some v) (v' : α) :
    (m.insert k v').entries.countP p + (if p ⟨k, v⟩ then 1 else 0) =
      m.entries.countP p + if p ⟨k, v'⟩ then 1 else 0 := by
  rw [← countP_erase p held, AList.entries_insert, List.countP_cons]
  exact Nat.add_right_comm _ _ _

theorem countP_foldl_insert_le {β : Type*} (p : α → Bool) (key : β → κ) (value : β → α) (l : List β)
    (m : HashMap κ α) :
    (l.foldl (fun m b => m.insert (key b) (value b)) m).entries.countP (p ·.2) ≤
      m.entries.countP (p ·.2) + l.countP fun b => p (value b) := by
  induction l generalizing m with
  | nil => simp
  | cons b l ih =>
      have first := countP_insert_le p m (key b) (value b)
      have rest := ih (m.insert (key b) (value b))
      rw [List.foldl_cons, List.countP_cons]
      omega

def rebuilt (order : RandomState) (m : HashMap κ α) : HashMap κ α :=
  (m.iter order).foldl (fun m e => m.insert e.1 e.2) ∅

theorem lookup_rebuilt (order : RandomState) (m : HashMap κ α) (k : κ) : (rebuilt order m).lookup k = m.lookup k := by
  have found := lookup_foldl_insert (fun e : Σ _ : κ, α => e.1) (fun e => e.2) (m.iter order) ∅ k
  rw [rebuilt, found, AList.lookup_empty, Option.or_none]
  cases last : (m.iter order).reverse.find? (fun e => decide (e.1 = k)) with
  | none =>
      rw [List.find?_eq_none] at last
      cases held : m.lookup k with
      | none => rfl
      | some v =>
          have walked : (⟨k, v⟩ : Σ _ : κ, α) ∈ m.iter order := mem_iter.mpr held
          exact absurd (decide_eq_true rfl) (last ⟨k, v⟩ (List.mem_reverse.mpr walked))
  | some e =>
      obtain ⟨k', v⟩ := e
      have same : k' = k := of_decide_eq_true (List.find?_some last :)
      subst same
      exact (mem_iter.mp (List.mem_reverse.mp (List.mem_of_find?_eq_some last))).symm

theorem exists_iter_rebuilt (order order' : RandomState) (m : HashMap κ α) :
    ∃ again, (rebuilt order m).iter again = m.iter order' := by
  apply exists_shuffle
  apply List.lookup_ext (iter_nodupKeys order' m) (rebuilt order m).nodupKeys
  intro k v
  have same : (m.iter order').dlookup k = (rebuilt order m).lookup k :=
    (dlookup_iter order' m k).trans (lookup_rebuilt order m k).symm
  rw [same]
  exact Iff.rfl

end HashMap
end BusExporter.Lib
