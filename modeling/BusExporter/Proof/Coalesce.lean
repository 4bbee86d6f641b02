import BusExporter.Lib.Grouping
import BusExporter.Model.Batch

/-! What coalescing keeps: the items, their order, and the span of every range. Ends are computed
with saturation, so a range that reaches the last register stops one register short of it. -/

namespace BusExporter.Modbus
open Lib

theorem registerCount_bounds (dataType : Config.DataType) :
    0 < dataType.registerCount.toNat ∧ dataType.registerCount.toNat ≤ 125 := by
  cases dataType <;> decide

def IndexedMetric.top (item : IndexedMetric) : Nat := item.addr.toNat + item.count.toNat

namespace MergedRange

structure Spans (r : MergedRange) : Prop where
  starts : ∃ m ∈ r.members, r.start = m.addr
  after : ∀ m ∈ r.members, r.start.toNat ≤ m.addr.toNat
  ends : ∃ m ∈ r.members, r.stop.toNat = min m.top 65535
  before : ∀ m ∈ r.members, min m.top 65535 ≤ r.stop.toNat
  fits : r.stop.toNat ≤ r.start.toNat + 125

theorem spans_single {item : IndexedMetric} (small : item.count.toNat ≤ 125) :
    (single item).Spans := by
  have whole : (single item).stop.toNat = min item.top 65535 := satAdd_toNat item.addr item.count
  constructor
  · exact ⟨item, by simp [single], rfl⟩
  · intro m member
    rw [List.mem_singleton.mp member]
    exact le_rfl
  · exact ⟨item, by simp [single], whole⟩
  · intro m member
    rw [List.mem_singleton.mp member, whole]
  · rw [whole]
    simp only [single, IndexedMetric.top]
    omega

theorem spans_extend {last : MergedRange} {item : IndexedMetric} (spans : last.Spans)
    (later : last.start.toNat ≤ item.addr.toNat) (merge : last.mergeable item = true) :
    (last.extend item).Spans := by
  have whole : (last.extend item).stop.toNat = max last.stop.toNat (min item.top 65535) := by
    simp only [extend, max_toNat, satAdd_toNat, IndexedMetric.top]
  constructor
  · obtain ⟨m, member, same⟩ := spans.starts
    exact ⟨m, by simp [extend, member], same⟩
  · intro m member
    rcases List.mem_append.mp member with old | new
    · exact spans.after m old
    · rw [List.mem_singleton.mp new]
      exact later
  · rw [whole]
    rcases le_total last.stop.toNat (min item.top 65535) with longer | shorter
    · exact ⟨item, by simp [extend], max_eq_right longer⟩
    · obtain ⟨m, member, same⟩ := spans.ends
      exact ⟨m, by simp [extend, member], by rw [max_eq_left shorter, same]⟩
  · intro m member
    rw [whole]
    rcases List.mem_append.mp member with old | new
    · exact (spans.before m old).trans (le_max_left _ _)
    · rw [List.mem_singleton.mp new]
      exact le_max_right _ _
  · simp only [mergeable, Bool.and_eq_true, decide_eq_true_eq] at merge
    have room := UInt16.le_iff_toNat_le.mp merge.2
    have fits := spans.fits
    simp only [satSub_toNat, satAdd_toNat, maxRegistersPerRead] at room
    rw [whole]
    simp only [extend, IndexedMetric.top]
    change _ ≤ 125 at room
    omega

theorem Spans.count_toNat {range : MergedRange} (spans : range.Spans) :
    range.start.toNat ≤ range.stop.toNat ∧
      range.count.toNat = range.stop.toNat - range.start.toNat := by
  obtain ⟨m, member, whole⟩ := spans.ends
  have low := spans.after m member
  have small := m.addr.toNat_lt
  have order : range.start.toNat ≤ range.stop.toNat := by
    rw [whole, IndexedMetric.top]
    omega
  exact ⟨order, UInt16.toNat_sub_of_le _ _ (UInt16.le_iff_toNat_le.mpr order)⟩

end MergedRange

namespace IndexedMetric

def first (item : IndexedMetric) : Nat := item.addr.toNat

def stop (item : IndexedMetric) : Nat := (satAdd item.addr item.count).toNat

theorem first_le_stop (item : IndexedMetric) : item.first ≤ item.stop := by
  have := item.addr.toNat_lt
  simp only [first, stop, satAdd_toNat]
  omega

theorem stop_le (item : IndexedMetric) {limit : Nat} (small : item.count.toNat ≤ limit) :
    item.stop ≤ item.first + limit := by
  simp only [first, stop, satAdd_toNat]
  omega

end IndexedMetric

theorem mergeable_iff (last : MergedRange) (item : IndexedMetric) :
    last.mergeable item = true ↔
      item.first ≤ last.stop.toNat + 10 ∧ item.stop ≤ last.start.toNat + 125 := by
  simp only [MergedRange.mergeable, Bool.and_eq_true, decide_eq_true_eq, UInt16.le_iff_toNat_le,
    satSub_toNat, IndexedMetric.first, IndexedMetric.stop]
  change _ ≤ 10 ∧ _ ≤ 125 ↔ _
  omega

theorem coalesceFrom_greedy (last : MergedRange) (items : List IndexedMetric) :
    (coalesceFrom last items).map (·.members) =
      Grouping.greedyFrom IndexedMetric.first IndexedMetric.stop 125 10 last.start.toNat
        last.stop.toNat last.members items := by
  induction items generalizing last with
  | nil => rfl
  | cons item rest ih =>
      rw [coalesceFrom, Grouping.greedyFrom]
      simp only [mergeable_iff]
      split_ifs with merge
      · rw [ih]
        simp only [MergedRange.extend, max_toNat, IndexedMetric.stop]
      · rw [List.map_cons, ih]
        rfl

theorem coalesce_greedy (items : List IndexedMetric) :
    (coalesce items).map (·.members) =
      Grouping.greedy IndexedMetric.first IndexedMetric.stop 125 10 items := by
  cases items with
  | nil => rfl
  | cons item rest => exact coalesceFrom_greedy (.single item) rest

theorem coalesce_members (items : List IndexedMetric) :
    (coalesce items).flatMap (·.members) = items := by
  rw [List.flatMap_def, coalesce_greedy]
  exact Grouping.greedy_flatten _ _ _ _ items

def ByAddr (a b : IndexedMetric) : Prop := a.addr.toNat ≤ b.addr.toNat

theorem coalesceFrom_spans {last : MergedRange} {items : List IndexedMetric} (spans : last.Spans)
    (sorted : items.Pairwise ByAddr) (later : ∀ m ∈ items, last.start.toNat ≤ m.addr.toNat)
    (small : ∀ m ∈ items, m.count.toNat ≤ 125) : ∀ r ∈ coalesceFrom last items, r.Spans := by
  induction items generalizing last with
  | nil =>
      intro r member
      rw [List.mem_singleton.mp member]
      exact spans
  | cons item rest ih =>
      obtain ⟨first, others⟩ := List.pairwise_cons.mp sorted
      have smaller : ∀ m ∈ rest, m.count.toNat ≤ 125 := fun m member => small m (by simp [member])
      rw [coalesceFrom]
      -- the last range grows, or it is closed and the item starts the next
      split_ifs with merge
      · have start : last.start.toNat ≤ item.addr.toNat := later item (by simp)
        apply ih (MergedRange.spans_extend spans start merge) others _ smaller
        intro m member
        exact start.trans (first m member)
      · intro r member
        rcases List.mem_cons.mp member with rfl | inRest
        · exact spans
        · exact ih (MergedRange.spans_single (small item (by simp))) others first smaller r inRest

theorem coalesce_spans {items : List IndexedMetric} (sorted : items.Pairwise ByAddr)
    (small : ∀ m ∈ items, m.count.toNat ≤ 125) : ∀ r ∈ coalesce items, r.Spans := by
  cases items with
  | nil => simp [coalesce]
  | cons item rest =>
      obtain ⟨first, others⟩ := List.pairwise_cons.mp sorted
      exact coalesceFrom_spans (MergedRange.spans_single (small item (by simp))) others first
        fun m member => small m (by simp [member])

theorem sortByAddr_perm (items : List IndexedMetric) : (sortByAddr items).Perm items :=
  List.perm_insertionSort _ items

theorem sortByAddr_sorted (items : List IndexedMetric) : (sortByAddr items).Pairwise ByAddr := by
  have total : Std.Total fun a b : IndexedMetric => a.addr ≤ b.addr :=
    ⟨fun a b => (Nat.le_total a.addr.toNat b.addr.toNat).imp UInt16.le_iff_toNat_le.mpr
      UInt16.le_iff_toNat_le.mpr⟩
  have transitive : IsTrans IndexedMetric fun a b => a.addr ≤ b.addr :=
    ⟨fun _ _ _ first second => UInt16.le_trans first second⟩
  exact (List.pairwise_insertionSort (fun a b : IndexedMetric => a.addr ≤ b.addr) items).imp
    UInt16.le_iff_toNat_le.mp

theorem mem_of_planned {items : List IndexedMetric} {range : MergedRange}
    (planned : range ∈ coalesce (sortByAddr items)) {m : IndexedMetric} (member : m ∈ range.members) :
    m ∈ items := by
  rw [← (sortByAddr_perm items).mem_iff, ← coalesce_members (sortByAddr items)]
  exact List.mem_flatMap.mpr ⟨range, planned, member⟩

end BusExporter.Modbus
