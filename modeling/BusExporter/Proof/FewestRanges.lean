import BusExporter.Proof.Coalesce

/-! Coalescing is the greedy division of the items, by their addresses and their saturated ends, so it
plans as few ranges as any division into ranges that can be read. -/

namespace BusExporter.Modbus
open Lib

abbrev Feasible : List IndexedMetric → Prop :=
  Grouping.Feasible IndexedMetric.first IndexedMetric.stop 125 10

/-- Sorted items are divided in order into ranges that can be read, and no division of them into such
groups, in whatever order they are picked, has fewer. -/
theorem coalesce_minimal {items : List IndexedMetric} (sorted : items.Pairwise ByAddr)
    (counts : ∀ m ∈ items, 1 ≤ m.count.toNat ∧ m.count.toNat ≤ 125) :
    (coalesce items).flatMap (·.members) = items ∧
      (∀ r ∈ coalesce items, r.Spans ∧ Feasible r.members) ∧
      ∀ groups : List (List IndexedMetric), groups.flatten.Perm items →
        (∀ g ∈ groups, g.Pairwise ByAddr ∧ Feasible g) →
        (coalesce items).length ≤ groups.length := by
  have planned := coalesce_greedy items
  have small : ∀ m ∈ items, m.stop ≤ m.first + 125 := fun m member => m.stop_le (counts m member).2
  refine ⟨coalesce_members items, ?_, ?_⟩
  · intro r member
    refine ⟨coalesce_spans sorted (fun m inItems => (counts m inItems).2) r member, ?_⟩
    apply Grouping.greedy_feasible small
    rw [← planned]
    exact List.mem_map_of_mem member
  · intro groups divides feasible
    rw [← List.length_map (·.members), planned]
    exact Grouping.greedy_minimal sorted
      (fun m member => ⟨m.first_le_stop, small m member⟩) divides feasible

def plannedItem (idx : Nat) (addr : UInt16) : IndexedMetric :=
  ⟨idx, { name := "power", metricType := .gauge, address := some addr, dataType := .u16 }, addr, 1⟩

theorem coalesce_minimal_three :
    (coalesce [plannedItem 0 0, plannedItem 1 11, plannedItem 2 23]).length ≤ 2 ∧
      [plannedItem 0 0, plannedItem 1 11, plannedItem 2 23].Pairwise ByAddr := by
  have sorted : [plannedItem 0 0, plannedItem 1 11, plannedItem 2 23].Pairwise ByAddr := by
    simp [ByAddr, plannedItem]
  refine ⟨?_, sorted⟩
  have minimal := coalesce_minimal sorted (by simp [plannedItem])
  apply minimal.2.2 [[plannedItem 0 0, plannedItem 1 11], [plannedItem 2 23]] (.refl _)
  simp [ByAddr, plannedItem, Feasible, Grouping.Feasible, Grouping.Chained, IndexedMetric.first,
    IndexedMetric.stop]

end BusExporter.Modbus
