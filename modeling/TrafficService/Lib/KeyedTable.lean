import Mathlib.Data.List.Nodup
import Mathlib.Data.List.Forall2
import Mathlib.Data.List.Count
import Mathlib.Data.List.Perm.Basic

/-!
Relational tables as lists of rows: `UPDATE … WHERE` on a plain table, and tables with a
primary key, whose rows carry pairwise distinct keys by construction.
-/

namespace Table

def updateWhere {Row : Type} (condition : Row → Bool) (change : Row → Row)
    (rows : List Row) : List Row :=
  rows.map fun row => if condition row then change row else row

section

variable {Row Key : Type} [DecidableEq Key]

theorem updateWhere_eq_self {condition : Row → Bool} {change : Row → Row} {rows : List Row}
    (untouched : ∀ row ∈ rows, condition row = true → change row = row) :
    updateWhere condition change rows = rows := by
  induction rows with
  | nil => rfl
  | cons row rest ih =>
      simp only [updateWhere, List.map_cons] at ih ⊢
      rw [ih fun other member => untouched other (List.mem_cons_of_mem row member)]
      split
      · rename_i selected
        rw [untouched row List.mem_cons_self selected]
      · rfl

/-- An update that skips only rows it would not change. -/
theorem updateWhere_eq_map {condition : Row → Bool} {change : Row → Row} {rows : List Row}
    (selects : ∀ row ∈ rows, condition row = true ∨ change row = row) :
    updateWhere condition change rows = rows.map change := by
  apply List.map_congr_left
  intro row member
  rcases selects row member with selected | unchanged
  · rw [if_pos selected]
  · split
    · rfl
    · exact unchanged.symm

theorem countP_updateWhere_le {condition test : Row → Bool} {change : Row → Row}
    (cleared : ∀ row, condition row = true → test (change row) = false) (rows : List Row) :
    (updateWhere condition change rows).countP test ≤ rows.countP test := by
  induction rows with
  | nil => exact Nat.le_refl _
  | cons row rest ih =>
      simp only [updateWhere, List.map_cons, List.countP_cons] at ih ⊢
      by_cases selected : condition row = true
      · simp only [selected, if_true, cleared row selected, Bool.false_eq_true, if_false]
        omega
      · simp only [selected, if_false, Bool.false_eq_true]
        omega

omit [DecidableEq Key] in
theorem filter_updateWhere_cleared {condition test : Row → Bool} {change : Row → Row}
    (cleared : ∀ row, condition row = true → test (change row) = false) (rows : List Row) :
    (updateWhere condition change rows).filter test =
      rows.filter fun row => !condition row && test row := by
  induction rows with
  | nil => rfl
  | cons row rest ih =>
      simp only [updateWhere, List.map_cons, List.filter_cons] at ih ⊢
      rw [ih]
      by_cases selected : condition row = true
      · simp [selected, cleared row selected]
      · simp [selected]

theorem filter_updateWhere (key : Row → Key) (wanted : Key) (condition : Row → Bool)
    (change : Row → Row) (keeps : ∀ row, key (change row) = key row) (rows : List Row) :
    (updateWhere condition change rows).filter (fun row => key row = wanted) =
      updateWhere condition change (rows.filter fun row => key row = wanted) := by
  induction rows with
  | nil => rfl
  | cons row rest ih =>
      simp only [updateWhere, List.map_cons] at ih ⊢
      by_cases same : key row = wanted
      · by_cases selected : condition row = true
        · simp [same, selected, keeps, ih]
        · simp [same, selected, ih]
      · by_cases selected : condition row = true
        · simp [same, selected, keeps, ih]
        · simp [same, selected, ih]

theorem perm_elsewhere {key : Row → Key} {first second : List Row} {wanted : Key}
    (agree : ∀ other, other ≠ wanted →
      first.filter (fun row => key row = other) = second.filter fun row => key row = other) :
    (first.filter fun row => key row ≠ wanted).Perm (second.filter fun row => key row ≠ wanted) := by
  classical
  refine List.perm_iff_count.mpr ?_
  intro row
  by_cases here : key row = wanted
  · have absent (rows : List Row) : row ∉ rows.filter fun row => key row ≠ wanted := by
      simp [here]
    rw [List.count_eq_zero_of_not_mem (absent first), List.count_eq_zero_of_not_mem (absent second)]
  · have counted (rows : List Row) : (rows.filter fun row => key row ≠ wanted).count row =
        (rows.filter fun other => key other = key row).count row := by
      rw [List.count_filter (by simpa using here), List.count_filter (by simp)]
    rw [counted, counted, agree (key row) here]

theorem countP_elsewhere {key : Row → Key} {first second : List Row} {wanted : Key}
    (agree : ∀ other, other ≠ wanted →
      first.filter (fun row => key row = other) = second.filter fun row => key row = other)
    (test : Row → Bool) :
    first.countP test + (second.filter fun row => key row = wanted).countP test =
      second.countP test + (first.filter fun row => key row = wanted).countP test := by
  have split (rows : List Row) : rows.countP test =
      (rows.filter fun row => key row = wanted).countP test +
        (rows.filter fun row => key row ≠ wanted).countP test := by
    rw [List.countP_eq_countP_filter_add rows test fun row => key row = wanted]
    simp
  have rest := (perm_elsewhere agree).countP_eq test
  rw [split first, split second, rest]
  omega

/-- Two tables with the same keys in the same order compare key by key. -/
theorem forall₂_of_filter {key : Row → Key} {relates : Row → Row → Prop} {first second : List Row}
    (keys : first.map key = second.map key)
    (rows : ∀ wanted, List.Forall₂ relates (first.filter fun row => key row = wanted)
      (second.filter fun row => key row = wanted)) : List.Forall₂ relates first second := by
  induction first generalizing second with
  | nil =>
      rw [List.map_eq_nil_iff.mp keys.symm]
      exact .nil
  | cons row rest ih =>
      cases second with
      | nil => simp at keys
      | cons other others =>
          simp only [List.map_cons, List.cons.injEq] at keys
          have heads := rows (key row)
          simp only [List.filter_cons, decide_true, if_true, keys.1.symm,
            List.forall₂_cons] at heads
          refine .cons heads.1 (ih keys.2 fun wanted => ?_)
          have whole := rows wanted
          by_cases here : key row = wanted
          · rw [List.filter_cons_of_pos (by simpa using here),
              List.filter_cons_of_pos (by simpa [← keys.1] using here)] at whole
            exact (List.forall₂_cons.mp whole).2
          · rwa [List.filter_cons_of_neg (by simpa using here),
              List.filter_cons_of_neg (by simpa [← keys.1] using here)] at whole

omit [DecidableEq Key] in
theorem map_updateWhere {key : Row → Key} {condition : Row → Bool} {change : Row → Row}
    (keeps : ∀ row, key (change row) = key row) (rows : List Row) :
    (updateWhere condition change rows).map key = rows.map key := by
  rw [updateWhere, List.map_map]
  apply List.map_congr_left
  intro row _
  simp only [Function.comp]
  split
  · exact keeps row
  · rfl

omit [DecidableEq Key] in
theorem countP_le_of_forall₂ {relates : Row → Row → Prop} {test : Row → Bool}
    {first second : List Row} (related : List.Forall₂ relates first second)
    (reflects : ∀ row next, relates row next → test next = true → test row = true) :
    second.countP test ≤ first.countP test := by
  induction related with
  | nil => exact Nat.le_refl _
  | @cons row next _ _ heads _ ih =>
      rw [List.countP_cons, List.countP_cons]
      have head := reflects row next heads
      by_cases counted : test next = true
      · rw [if_pos counted, if_pos (head counted)]
        omega
      · rw [if_neg counted]
        omega

end

end Table

open Table

structure KeyedTable (Key Row : Type) [DecidableEq Key] (key : Row → Key) where
  rows : List Row
  unique : (rows.map key).Nodup

namespace KeyedTable

variable {Key Row : Type} [DecidableEq Key] {key : Row → Key}

def empty : KeyedTable Key Row key := ⟨[], List.nodup_nil⟩

def find? (table : KeyedTable Key Row key) (wanted : Key) : Option Row :=
  table.rows.find? fun row => key row = wanted

def insert? (table : KeyedTable Key Row key) (row : Row) : Option (KeyedTable Key Row key) :=
  if fresh : key row ∈ table.rows.map key then none
  else some ⟨table.rows ++ [row], by
    rw [List.map_append, List.map_singleton, List.nodup_append_comm]
    exact List.nodup_cons.mpr ⟨fresh, table.unique⟩⟩

def modify (table : KeyedTable Key Row key) (wanted : Key) (change : Row → Row)
    (keeps : ∀ row, key (change row) = key row) : KeyedTable Key Row key where
  rows := updateWhere (fun row => key row = wanted) change table.rows
  unique := by
    have same : (updateWhere (fun row => key row = wanted) change table.rows).map key =
        table.rows.map key := by
      simp only [updateWhere, List.map_map]
      apply List.map_congr_left
      intro row _
      simp only [Function.comp]
      split
      · exact keeps row
      · rfl
    rw [same]
    exact table.unique

theorem find?_rows_eq_none {rows : List Row} {wanted : Key} :
    rows.find? (fun row => key row = wanted) = none ↔ wanted ∉ rows.map key := by
  simp only [List.find?_eq_none, decide_eq_true_eq, List.mem_map, not_exists, not_and]

theorem find?_eq_none {table : KeyedTable Key Row key} {wanted : Key} :
    table.find? wanted = none ↔ wanted ∉ table.rows.map key :=
  find?_rows_eq_none

theorem key_of_find? {table : KeyedTable Key Row key} {wanted : Key} {row : Row}
    (found : table.find? wanted = some row) : key row = wanted := by
  simpa using List.find?_some found

theorem mem_of_find? {table : KeyedTable Key Row key} {wanted : Key} {row : Row}
    (found : table.find? wanted = some row) : row ∈ table.rows :=
  List.mem_of_find?_eq_some found

theorem find?_of_mem_rows {rows : List Row} (unique : (rows.map key).Nodup) {row : Row}
    (member : row ∈ rows) : rows.find? (fun other => key other = key row) = some row := by
  induction rows with
  | nil => simp at member
  | cons first rest ih =>
      rw [List.map_cons, List.nodup_cons] at unique
      rcases List.mem_cons.mp member with same | later
      · subst same
        simp
      · have different : key first ≠ key row := by
          intro same
          exact unique.1 (same ▸ List.mem_map_of_mem later)
        rw [List.find?_cons_of_neg (by simpa using different)]
        exact ih unique.2 later

theorem find?_of_mem {table : KeyedTable Key Row key} {row : Row} (member : row ∈ table.rows) :
    table.find? (key row) = some row :=
  find?_of_mem_rows table.unique member

theorem filter_rows_key {rows : List Row} (unique : (rows.map key).Nodup) (wanted : Key) :
    rows.filter (fun row => key row = wanted) =
      (rows.find? fun row => key row = wanted).toList := by
  induction rows with
  | nil => rfl
  | cons first rest ih =>
      rw [List.map_cons, List.nodup_cons] at unique
      by_cases here : key first = wanted
      · have alone : rest.filter (fun row => key row = wanted) = [] := by
          rw [ih unique.2, find?_rows_eq_none.mpr (here ▸ unique.1)]
          rfl
        simp [here, alone]
      · simp [here, ih unique.2]

theorem filter_key (table : KeyedTable Key Row key) (wanted : Key) :
    table.rows.filter (fun row => key row = wanted) = (table.find? wanted).toList :=
  filter_rows_key table.unique wanted

theorem insert?_eq_none {table : KeyedTable Key Row key} {row : Row} :
    table.insert? row = none ↔ table.find? (key row) ≠ none := by
  rw [Ne, find?_eq_none, not_not, insert?]
  split
  · rename_i taken
    simp [taken]
  · rename_i fresh
    simp [fresh]

theorem rows_insert? {table next : KeyedTable Key Row key} {row : Row}
    (inserted : table.insert? row = some next) : next.rows = table.rows ++ [row] := by
  simp only [insert?] at inserted
  split at inserted
  · simp at inserted
  · simp only [Option.some.injEq] at inserted
    rw [← inserted]

theorem find?_insert? {table next : KeyedTable Key Row key} {row : Row} (wanted : Key)
    (inserted : table.insert? row = some next) :
    next.find? wanted = if key row = wanted then some row else table.find? wanted := by
  have fresh : table.find? (key row) = none := by
    by_contra taken
    simp [insert?_eq_none.mpr taken] at inserted
  simp only [find?, rows_insert? inserted, List.find?_append]
  by_cases same : key row = wanted
  · subst same
    simp only [find?] at fresh
    simp [fresh]
  · simp [same]

@[simp] theorem rows_modify (table : KeyedTable Key Row key) (wanted : Key) (change : Row → Row)
    (keeps : ∀ row, key (change row) = key row) :
    (table.modify wanted change keeps).rows =
      updateWhere (fun row => key row = wanted) change table.rows := rfl

theorem find?_modify (table : KeyedTable Key Row key) (wanted : Key) (change : Row → Row)
    (keeps : ∀ row, key (change row) = key row) (other : Key) :
    (table.modify wanted change keeps).find? other =
      if other = wanted then (table.find? wanted).map change else table.find? other := by
  simp only [find?, rows_modify, updateWhere, List.find?_map]
  by_cases same : other = wanted
  · subst same
    rw [if_pos rfl]
    have agree : ((fun row => decide (key row = other)) ∘
        fun row => if decide (key row = other) = true then change row else row) =
        fun row => decide (key row = other) := by
      funext row
      by_cases hit : key row = other <;> simp [hit, keeps]
    rw [agree]
    cases found : table.rows.find? fun row => decide (key row = other) with
    | none => rfl
    | some row =>
        have hit : key row = other := by simpa using List.find?_some found
        simp [hit]
  · rw [if_neg same]
    have agree : ((fun row => decide (key row = other)) ∘
        fun row => if decide (key row = wanted) = true then change row else row) =
        fun row => decide (key row = other) := by
      funext row
      by_cases hit : key row = wanted <;> simp [hit, keeps]
    rw [agree]
    cases found : table.rows.find? fun row => decide (key row = other) with
    | none => rfl
    | some row =>
        have hit : key row = other := by simpa using List.find?_some found
        simp [hit, same]

end KeyedTable
