import TrafficService.Lib.KeyedTable
import Mathlib.Data.List.Perm.Basic

/-!
Tables, in no order, that rows are only added to, and whose rows change only in ways a relation
allows.
-/

namespace AppendOnly

variable {Row : Type}

/-- Some of the later rows are the earlier ones, each as the relation allows; the others are new. -/
def Extends (related : Row → Row → Prop) (before after : List Row) : Prop :=
  ∃ kept added, List.Forall₂ related before kept ∧ after.Perm (kept ++ added)

section

variable {related : Row → Row → Prop} {before middle after : List Row}

theorem Extends.append (same : ∀ row, related row row) (rows added : List Row) :
    Extends related rows (rows ++ added) :=
  ⟨rows, added, List.forall₂_same.mpr fun row _ => same row, .refl _⟩

theorem Extends.refl (same : ∀ row, related row row) (rows : List Row) :
    Extends related rows rows := by
  have whole := Extends.append same rows []
  rwa [List.append_nil] at whole

theorem forall₂_trans (trans : ∀ {first second third}, related first second →
      related second third → related first third)
    (first : List.Forall₂ related before middle) (second : List.Forall₂ related middle after) :
    List.Forall₂ related before after := by
  induction first generalizing after with
  | nil => exact second
  | cons here rest ih =>
      cases second with
      | cons next later => exact .cons (trans here next) (ih later)

theorem Extends.trans (trans : ∀ {first second third}, related first second →
      related second third → related first third)
    (first : Extends related before middle) (second : Extends related middle after) :
    Extends related before after := by
  obtain ⟨kept, added, earlier, grown⟩ := first
  obtain ⟨still, new, later, more⟩ := second
  -- the rows of the middle, in the order of the first of the two
  obtain ⟨ordered, after, same⟩ := List.perm_comp_forall₂ grown.symm later
  have front := List.forall₂_take kept.length after
  rw [List.take_left] at front
  refine ⟨ordered.take kept.length, ordered.drop kept.length ++ new, forall₂_trans trans earlier front,
    ?_⟩
  rw [← List.append_assoc, List.take_append_drop]
  exact more.trans (same.symm.append_right new)

theorem Extends.map {change : Row → Row} (allowed : ∀ row, related row (change row))
    (rows : List Row) : Extends related rows (rows.map change) := by
  refine ⟨rows.map change, [], ?_, by rw [List.append_nil]⟩
  rw [List.forall₂_map_right_iff, List.forall₂_same]
  exact fun row _ => allowed row

theorem Extends.updateWhere {condition : Row → Bool} {change : Row → Row}
    (same : ∀ row, related row row) (allowed : ∀ row, related row (change row)) (rows : List Row) :
    Extends related rows (Table.updateWhere condition change rows) := by
  refine .map (fun row => ?_) rows
  split
  · exact allowed row
  · exact same row

/-- What a row shows, where none of the changes touches it, is shown as often later. -/
theorem Extends.filterMap {Shown : Type} {view : Row → Option Shown}
    (kept : ∀ before after, related before after → view after = view before)
    (grown : Extends related before after) :
    (before.filterMap view).Subperm (after.filterMap view) := by
  obtain ⟨still, added, revised, whole⟩ := grown
  have same : before.filterMap view = still.filterMap view := by
    clear whole
    induction revised with
    | nil => rfl
    | cons here rest ih => rw [List.filterMap_cons, List.filterMap_cons, kept _ _ here, ih]
  have more := whole.filterMap view
  rw [List.filterMap_append, ← same] at more
  exact (List.sublist_append_left _ _).subperm.trans more.symm.subperm

end

end AppendOnly
