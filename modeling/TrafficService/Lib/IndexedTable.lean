import TrafficService.Lib.KeyedTable

/-!
Tables with a unique column beside the primary key: `INSERT`, `INSERT … ON CONFLICT DO
NOTHING`, and `DELETE` by key.
-/

structure IndexedTable {Key Column Row : Type} [DecidableEq Key] (key : Row → Key)
    (column : Row → Column) extends KeyedTable Key Row key where
  distinct : (rows.map column).Nodup

namespace IndexedTable

variable {Key Column Row : Type} [DecidableEq Key] [DecidableEq Column] {key : Row → Key}
  {column : Row → Column}

omit [DecidableEq Column] in
def empty : IndexedTable key column := ⟨.empty, List.nodup_nil⟩

def findBy? (table : IndexedTable key column) (wanted : Column) : Option Row :=
  table.rows.find? fun row => column row = wanted

def conflicts (table : IndexedTable key column) (row : Row) : Bool :=
  table.rows.any fun other => key other = key row || column other = column row

theorem free_of_conflicts {table : IndexedTable key column} {row : Row}
    (free : ¬ table.conflicts row = true) :
    key row ∉ table.rows.map key ∧ column row ∉ table.rows.map column := by
  simp only [conflicts, List.any_eq_true, Bool.or_eq_true, decide_eq_true_eq, not_exists,
    not_and, not_or] at free
  constructor
  · intro taken
    obtain ⟨other, member, same⟩ := List.mem_map.mp taken
    exact (free other member).1 same
  · intro taken
    obtain ⟨other, member, same⟩ := List.mem_map.mp taken
    exact (free other member).2 same

def insert? (table : IndexedTable key column) (row : Row) : Option (IndexedTable key column) :=
  if taken : table.conflicts row = true then none
  else some
    { rows := row :: table.rows
      unique := List.nodup_cons.mpr ⟨(free_of_conflicts taken).1, table.unique⟩
      distinct := List.nodup_cons.mpr ⟨(free_of_conflicts taken).2, table.distinct⟩ }

def insertOrIgnore (table : IndexedTable key column) (row : Row) : IndexedTable key column :=
  (table.insert? row).getD table

def delete (table : IndexedTable key column) (wanted : Key) : IndexedTable key column where
  rows := table.rows.filter fun row => key row ≠ wanted
  unique := (List.filter_sublist.map key).nodup table.unique
  distinct := (List.filter_sublist.map column).nodup table.distinct

section

variable {table next : IndexedTable key column} {row other : Row}

theorem insert?_eq_some (inserted : table.insert? row = some next) :
    table.conflicts row = false ∧ next.rows = row :: table.rows := by
  simp only [insert?] at inserted
  split at inserted
  · cases inserted
  · next free =>
      cases inserted
      exact ⟨Bool.eq_false_iff.mpr free, rfl⟩

theorem insert?_eq_none : table.insert? row = none ↔ table.conflicts row = true := by
  simp only [insert?]
  split
  · next taken => simp [taken]
  · next free => simp [free]

theorem mem_insertOrIgnore : other ∈ (table.insertOrIgnore row).rows ↔
    other ∈ table.rows ∨ (other = row ∧ table.conflicts row = false) := by
  rw [insertOrIgnore]
  cases inserted : table.insert? row with
  | none =>
      have taken := insert?_eq_none.mp inserted
      simp [taken]
  | some next =>
      obtain ⟨free, rows⟩ := insert?_eq_some inserted
      simp only [Option.getD_some, rows, List.mem_cons, free, and_true]
      exact or_comm

omit [DecidableEq Column] in
theorem mem_delete {wanted : Key} :
    row ∈ (table.delete wanted).rows ↔ row ∈ table.rows ∧ key row ≠ wanted := by
  simp [delete]

omit [DecidableEq Column] in
omit [DecidableEq Column] in
theorem eq_of_column (first : row ∈ table.rows) (second : other ∈ table.rows)
    (same : column row = column other) : row = other :=
  List.inj_on_of_nodup_map table.distinct first second same

theorem findBy?_of_mem (member : row ∈ table.rows) :
    table.findBy? (column row) = some row :=
  KeyedTable.find?_of_mem_rows table.distinct member

theorem findBy?_eq_some {wanted : Column} (found : table.findBy? wanted = some row) :
    row ∈ table.rows ∧ column row = wanted :=
  ⟨List.mem_of_find?_eq_some found, by simpa using List.find?_some found⟩

theorem findBy?_eq_none {wanted : Column} (absent : table.findBy? wanted = none)
    (member : row ∈ table.rows) : column row ≠ wanted := by
  simpa using List.find?_eq_none.mp absent row member

end

end IndexedTable
