import Mathlib.Data.List.MinMax

/-!
The first of the smallest elements of a list: where it stands, and what keeps it the first.
-/

namespace FirstMinimum

variable {Element Image Weight Other : Type} [LinearOrder Weight] [LinearOrder Other]
  {weight : Element → Weight} {list : List Element} {least : Element}

theorem argmin_split {before after : List Element}
    (heavier : ∀ other ∈ before, weight least < weight other)
    (noLighter : ∀ other ∈ after, weight least ≤ weight other) :
    (before ++ least :: after).argmin weight = some least := by
  induction before with
  | nil =>
      rw [List.nil_append, List.argmin_cons]
      cases found : after.argmin weight with
      | none => rfl
      | some other => exact if_neg (not_lt.mpr (noLighter other (List.argmin_mem found)))
  | cons head before ih =>
      have rest := ih fun other later => heavier other (List.mem_cons_of_mem _ later)
      rw [List.cons_append, List.argmin_cons, rest]
      exact if_pos (heavier head List.mem_cons_self)

/-- Everything before the first minimum weighs more, everything after it no less. -/
theorem exists_split (found : list.argmin weight = some least) :
    ∃ before after, list = before ++ least :: after ∧
      (∀ other ∈ before, weight least < weight other) ∧
      ∀ other ∈ after, weight least ≤ weight other := by
  induction list using List.reverseRecOn generalizing least with
  | nil => simp at found
  | append_singleton list last ih =>
      rw [List.argmin_concat] at found
      cases earlier : list.argmin weight with
      | none =>
          rw [earlier] at found
          obtain rfl : last = least := Option.some.inj found
          rw [List.argmin_eq_none] at earlier
          exact ⟨[], [], by rw [earlier], by simp, by simp⟩
      | some other =>
          simp only [earlier] at found
          split at found
          · rename_i lighter
            obtain rfl : last = least := Option.some.inj found
            refine ⟨list, [], rfl, ?_, by simp⟩
            exact fun each member => lighter.trans_le (List.le_of_mem_argmin member earlier)
          · rename_i noLighter
            obtain rfl : other = least := Option.some.inj found
            obtain ⟨before, after, rfl, heavier, rest⟩ := ih earlier
            refine ⟨before, after ++ [last], by simp, heavier, ?_⟩
            intro each member
            rcases List.mem_append.mp member with already | final
            · exact rest each already
            · rw [List.mem_singleton.mp final]
              exact not_lt.mp noLighter

/-- Leaving others out does not change which one is the first. -/
theorem argmin_filter {keep : Element → Bool} (found : list.argmin weight = some least)
    (kept : keep least = true) : (list.filter keep).argmin weight = some least := by
  obtain ⟨before, after, rfl, heavier, noLighter⟩ := exists_split found
  rw [List.filter_append, List.filter_cons_of_pos kept]
  apply argmin_split
  · exact fun other member => heavier other (List.mem_filter.mp member).1
  · exact fun other member => noLighter other (List.mem_filter.mp member).1

theorem argmin_map {image : Element → Image} {other : Image → Other}
    (same : ∀ first second, other (image first) < other (image second) ↔
      weight first < weight second) :
    (list.map image).argmin other = (list.argmin weight).map image := by
  induction list with
  | nil => rfl
  | cons head tail ih =>
      rw [List.map_cons, List.argmin_cons, List.argmin_cons, ih]
      cases tail.argmin weight with
      | none => rfl
      | some least =>
          simp only [Option.map_some, same]
          split <;> rfl

end FirstMinimum
