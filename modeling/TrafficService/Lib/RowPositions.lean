import TrafficService.Lib.KeyedTable
import Mathlib.Data.Finset.Filter
import Mathlib.Data.Finset.Range
import Mathlib.Data.Finset.Card

/-!
Rows of a table that only grows, told apart by their positions.
-/

namespace Table

variable {Row : Type}

def positions (test : Row → Bool) (rows : List Row) : Finset Nat :=
  (Finset.range rows.length).filter fun index => rows[index]?.any test

section

variable {test : Row → Bool} {rows : List Row} {index : Nat}

theorem mem_positions : index ∈ positions test rows ↔ ∃ row, rows[index]? = some row ∧ test row := by
  simp only [positions, Finset.mem_filter, Finset.mem_range]
  constructor
  · rintro ⟨_, passes⟩
    cases found : rows[index]? with
    | none => simp [found] at passes
    | some row => exact ⟨row, rfl, by simpa [found] using passes⟩
  · rintro ⟨row, found, passes⟩
    exact ⟨(List.getElem?_eq_some_iff.mp found).1, by simp [found, passes]⟩

theorem positions_append_singleton (row : Row) :
    positions test (rows ++ [row]) =
      if test row then insert rows.length (positions test rows) else positions test rows := by
  ext index
  rcases Nat.lt_trichotomy index rows.length with before | last | beyond
  · split <;> simp [mem_positions, List.getElem?_append_left before, before.ne]
  · subst last
    split
    · rename_i passes
      simp [mem_positions, passes]
    · rename_i fails
      simp [mem_positions, fails]
  · have outside : (rows ++ [row])[index]? = none := by
      rw [List.getElem?_eq_none_iff, List.length_append, List.length_singleton]
      omega
    split <;> simp [mem_positions, outside, List.getElem?_eq_none beyond.le, beyond.ne']

theorem card_positions (test : Row → Bool) (rows : List Row) :
    (positions test rows).card = rows.countP test := by
  induction rows using List.reverseRecOn with
  | nil => rfl
  | append_singleton rest row ih =>
      have fresh : rest.length ∉ positions test rest := by
        simp [mem_positions]
      rw [positions_append_singleton, List.countP_append, List.countP_singleton]
      split
      · rw [Finset.card_insert_of_notMem fresh, ih]
      · exact ih

theorem positions_updateWhere {condition : Row → Bool} {change : Row → Row}
    (clears : ∀ row, test (change row) = false) :
    positions test (updateWhere condition change rows) ⊆ positions test rows := by
  intro index member
  obtain ⟨row, found, passes⟩ := mem_positions.mp member
  rw [updateWhere, List.getElem?_map] at found
  obtain ⟨before, here, rfl⟩ := Option.map_eq_some_iff.mp found
  refine mem_positions.mpr ⟨before, here, ?_⟩
  by_cases changed : condition before = true
  · simp [changed, clears] at passes
  · simpa [changed] using passes

end

end Table
