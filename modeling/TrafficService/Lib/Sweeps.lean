import TrafficService.Lib.Walks
import Mathlib.Data.List.MinMax
import Mathlib.Data.Prod.Lex

/-!
The places of a multigraph in the order of their distances from a start, and of the shortest walks
to a place the one that comes over the earliest places. Sums need only keep the order: a step may
add nothing, and a part of a shortest walk need not be shortest.
-/

namespace Walks

variable {Node Edge Length : Type} [AddZeroClass Length] [LinearOrder Length] [LinearOrder Node]

def Listed (between : Node → Node → List Edge) (here next : Node) (edge : Edge) : Prop :=
  edge ∈ between here next

section

variable (between : Node → Node → List Edge) (length : Edge → Length) (start : Node)

/-- A place not taken yet, with its distance, which a step from one that is taken adds up to. -/
structure InReach (taken : List (Length ×ₗ Node)) (entry : Length ×ₗ Node) : Prop where
  fresh : ∀ other ∈ taken, (ofLex other).2 ≠ (ofLex entry).2
  offered : entry = toLex (0, start) ∨ ∃ other ∈ taken,
    ∃ edge ∈ between (ofLex other).2 (ofLex entry).2,
      (ofLex other).1 + length edge = (ofLex entry).1
  least : ∀ steps, IsWalk (Listed between) start steps →
    arrival start steps = (ofLex entry).2 → (ofLex entry).1 ≤ total length steps

/-- Always the nearest of the places in reach is taken next, of equally near ones the lowest. -/
inductive Sweep : List (Length ×ₗ Node) → Prop
  | nil : Sweep []
  | snoc {taken entry} : Sweep taken → InReach between length start taken entry →
      (∀ other, InReach between length start taken other → entry ≤ other) →
      Sweep (taken ++ [entry])

/-- The first place in the order from which it is this far to the next, and the first edge there
by which it is. -/
structure FirstOffer (order : List (Length ×ₗ Node)) (parent : Length ×ₗ Node) (next : Node)
    (edge : Edge) : Prop where
  sooner : ∃ earlier later, order = earlier ++ parent :: later ∧
    ∀ other ∈ earlier, ∀ row ∈ between (ofLex other).2 next,
      (ofLex parent).1 + length edge < (ofLex other).1 + length row
  first : (between (ofLex parent).2 next).argmin (fun row => (ofLex parent).1 + length row) =
    some edge

/-- The shortest walk to a place that takes the first offer made to each place on it. -/
inductive Preferred (order : List (Length ×ₗ Node)) : Node → List (Node × Edge) → Prop
  | origin : Preferred order start []
  | step {here next edge steps} : Preferred order here steps → next ≠ start →
      Shortest (Listed between) length start next (steps ++ [(next, edge)]) →
      FirstOffer between length order (toLex (total length steps, here)) next edge →
      Preferred order next (steps ++ [(next, edge)])

end

variable {between : Node → Node → List Edge} {length : Edge → Length} {start node : Node}
  {order taken rest : List (Length ×ₗ Node)} {entry parent : Length ×ₗ Node}
  {steps other : List (Node × Edge)}

/-! ### There is one order -/

theorem Sweep.last (sweep : Sweep between length start (taken ++ [entry])) :
    Sweep between length start taken ∧ InReach between length start taken entry ∧
      ∀ other, InReach between length start taken other → entry ≤ other := by
  generalize whole : taken ++ [entry] = all at sweep
  cases sweep with
  | nil => simp at whole
  | snoc before reach least =>
      obtain ⟨rfl, same⟩ := List.append_inj' whole rfl
      obtain rfl := List.head_eq_of_cons_eq same
      exact ⟨before, reach, least⟩

theorem Sweep.part (sweep : Sweep between length start (taken ++ rest)) :
    Sweep between length start taken := by
  induction rest using List.reverseRecOn with
  | nil => rwa [List.append_nil] at sweep
  | append_singleton rest last ih =>
      rw [← List.append_assoc] at sweep
      exact ih sweep.last.1

theorem Sweep.isPrefix (sweep : Sweep between length start taken)
    (longer : Sweep between length start order) (fewer : taken.length ≤ order.length) :
    taken <+: order := by
  induction sweep with
  | nil => exact List.nil_prefix
  | @snoc taken entry before reach least ih =>
      rw [List.length_append, List.length_singleton] at fewer
      obtain ⟨rest, rfl⟩ := ih (by omega)
      cases rest with
      | nil =>
          rw [List.append_nil] at fewer
          omega
      | cons next rest =>
          rw [List.append_cons] at longer
          obtain ⟨_, also, most⟩ := longer.part.last
          have same := le_antisymm (least next also) (most entry reach)
          exact ⟨rest, by rw [same, List.append_assoc, List.singleton_append]⟩

theorem Sweep.least (sweep : Sweep between length start order) (member : entry ∈ order)
    (walk : IsWalk (Listed between) start steps) (arrives : arrival start steps = (ofLex entry).2) :
    (ofLex entry).1 ≤ total length steps := by
  obtain ⟨earlier, later, rfl⟩ := List.append_of_mem member
  rw [List.append_cons] at sweep
  exact sweep.part.last.2.1.least steps walk arrives

/-! ### There is one preferred walk -/

omit [LinearOrder Node] in
theorem Preferred.walk (preferred : Preferred between length start order node steps) :
    IsWalk (Listed between) start steps ∧ arrival start steps = node := by
  cases preferred with
  | origin => exact ⟨trivial, rfl⟩
  | step before away shortest offer => exact ⟨shortest.walk, shortest.arrives⟩

omit [LinearOrder Node] in
theorem FirstOffer.extend {next : Node} {edge : Edge}
    (offer : FirstOffer between length taken parent next edge) (whole : taken <+: order) :
    FirstOffer between length order parent next edge := by
  obtain ⟨rest, rfl⟩ := whole
  obtain ⟨earlier, later, rfl, dearer⟩ := offer.sooner
  exact ⟨⟨earlier, later ++ rest, by simp, dearer⟩, offer.first⟩

omit [LinearOrder Node] in
theorem Preferred.extend (preferred : Preferred between length start taken node steps)
    (whole : taken <+: order) : Preferred between length start order node steps := by
  induction preferred with
  | origin => exact .origin
  | step before away shortest offer ih => exact .step ih away shortest (offer.extend whole)

omit [LinearOrder Node] in
/-- Two first offers that come to the same are one. -/
theorem FirstOffer.unique {next : Node} {edge row : Edge} {second : Length ×ₗ Node}
    (one : FirstOffer between length order parent next edge)
    (two : FirstOffer between length order second next row)
    (same : (ofLex parent).1 + length edge = (ofLex second).1 + length row) :
    parent = second ∧ edge = row := by
  obtain ⟨before, after, split, dearer⟩ := one.sooner
  obtain ⟨earlier, later, again, sooner⟩ := two.sooner
  have places : before.length = earlier.length := by
    by_contra apart
    rcases Nat.lt_or_gt_of_ne apart with less | more
    · have listed : parent ∈ earlier := by
        have found := congrArg (fun list => list[before.length]?) (split.symm.trans again)
        simp only [List.getElem?_append_right (Nat.le_refl _), Nat.sub_self,
          List.getElem?_append_left less] at found
        exact List.mem_of_getElem? found.symm
      exact (sooner parent listed edge (List.argmin_mem one.first)).ne same.symm
    · have listed : second ∈ before := by
        have found := congrArg (fun list => list[earlier.length]?) (again.symm.trans split)
        simp only [List.getElem?_append_right (Nat.le_refl _), Nat.sub_self,
          List.getElem?_append_left more] at found
        exact List.mem_of_getElem? found.symm
      exact (dearer second listed row (List.argmin_mem two.first)).ne same
  obtain rfl : parent = second :=
    List.head_eq_of_cons_eq (List.append_inj (split.symm.trans again) places).2
  exact ⟨rfl, Option.some.inj (one.first.symm.trans two.first)⟩

omit [LinearOrder Node] in
theorem Preferred.unique_of_order (one : Preferred between length start order node steps)
    (two : Preferred between length start order node other) : steps = other := by
  induction one generalizing other with
  | origin =>
      generalize home : start = place at two
      cases two with
      | origin => rfl
      | step _ away => exact absurd rfl away
  | step before away shortest offer ih =>
      cases two with
      | origin => exact absurd rfl away
      | step also _ least second =>
          have lengths := le_antisymm (shortest.minimal _ least.walk least.arrives)
            (least.minimal _ shortest.walk shortest.arrives)
          rw [total_snoc, total_snoc] at lengths
          obtain ⟨parents, rfl⟩ := offer.unique second lengths
          obtain rfl := (Prod.mk.inj (toLex_inj.mp parents)).2
          rw [ih also]

theorem Preferred.unique (sweep : Sweep between length start taken)
    (again : Sweep between length start order)
    (one : Preferred between length start taken node steps)
    (two : Preferred between length start order node other) : steps = other := by
  rcases Nat.le_total taken.length order.length with fewer | more
  · exact (one.extend (sweep.isPrefix again fewer)).unique_of_order two
  · exact one.unique_of_order (two.extend (again.isPrefix sweep more))

end Walks
