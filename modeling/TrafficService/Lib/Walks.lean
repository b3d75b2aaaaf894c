import Mathlib.Algebra.Order.Monoid.Unbundled.Basic
import Mathlib.Data.List.Induction
import Mathlib.Data.List.Nodup

/-!
Walks in a multigraph, given by which edges lead from where to where, and `while` loops that
leave after a bounded number of rounds.
-/

namespace Walks

variable {Node Edge Length : Type} {arc : Node → Node → Edge → Prop}

/-- Each step is the edge taken and the node it leads to. -/
def IsWalk (arc : Node → Node → Edge → Prop) : Node → List (Node × Edge) → Prop
  | _, [] => True
  | here, (next, edge) :: rest => arc here next edge ∧ IsWalk arc next rest

def arrival : Node → List (Node × Edge) → Node
  | here, [] => here
  | _, (next, _) :: rest => arrival next rest

def visited (start : Node) (steps : List (Node × Edge)) : List Node := start :: steps.map Prod.fst

def edgesOf (steps : List (Node × Edge)) : List Edge := steps.map Prod.snd

def Reachable (arc : Node → Node → Edge → Prop) (start target : Node) : Prop :=
  ∃ steps, IsWalk arc start steps ∧ arrival start steps = target

theorem arrival_append (start : Node) (steps rest : List (Node × Edge)) :
    arrival start (steps ++ rest) = arrival (arrival start steps) rest := by
  induction steps generalizing start with
  | nil => rfl
  | cons step steps ih => exact ih step.1

theorem isWalk_append {start : Node} {steps rest : List (Node × Edge)} :
    IsWalk arc start (steps ++ rest) ↔
      IsWalk arc start steps ∧ IsWalk arc (arrival start steps) rest := by
  induction steps generalizing start with
  | nil => simp [IsWalk, arrival]
  | cons step steps ih => simp only [List.cons_append, IsWalk, arrival, ih, and_assoc]

theorem isWalk_snoc {start next : Node} {edge : Edge} {steps : List (Node × Edge)} :
    IsWalk arc start (steps ++ [(next, edge)]) ↔
      IsWalk arc start steps ∧ arc (arrival start steps) next edge := by
  simp [isWalk_append, IsWalk]

theorem visited_snoc (start next : Node) (edge : Edge) (steps : List (Node × Edge)) :
    visited start (steps ++ [(next, edge)]) = visited start steps ++ [next] := by
  simp [visited]

theorem arrival_mem_visited (start : Node) (steps : List (Node × Edge)) :
    arrival start steps ∈ visited start steps := by
  induction steps generalizing start with
  | nil => exact List.mem_cons_self
  | cons step steps ih => exact List.mem_cons_of_mem start (ih step.1)

theorem ends_mem_visited {start : Node} {steps : List (Node × Edge)} {edge : Edge}
    (walk : IsWalk arc start steps) (taken : edge ∈ edgesOf steps) :
    ∃ here ∈ visited start steps, ∃ next ∈ visited start steps, arc here next edge := by
  induction steps generalizing start with
  | nil => simp [edgesOf] at taken
  | cons step steps ih =>
      rcases List.mem_cons.mp taken with rfl | later
      · exact ⟨start, by simp [visited], step.1, by simp [visited], walk.1⟩
      · obtain ⟨here, before, next, after, joins⟩ := ih walk.2 later
        exact ⟨here, List.mem_cons_of_mem start before, next, List.mem_cons_of_mem start after,
          joins⟩

theorem IsWalk.mono {wider : Node → Node → Edge → Prop} {start : Node} {steps : List (Node × Edge)}
    (walk : IsWalk arc start steps)
    (grown : ∀ here next edge, arc here next edge → wider here next edge) :
    IsWalk wider start steps := by
  induction steps generalizing start with
  | nil => trivial
  | cons step steps ih => exact ⟨grown start step.1 step.2 walk.1, ih walk.2⟩

def back : Node → List (Node × Edge) → List (Node × Edge)
  | _, [] => []
  | here, (next, edge) :: rest => back next rest ++ [(here, edge)]

theorem arrival_back (start : Node) (steps : List (Node × Edge)) :
    arrival (arrival start steps) (back start steps) = start := by
  cases steps with
  | nil => rfl
  | cons step steps => simp [back, arrival_append, arrival]

theorem isWalk_back {start : Node} {steps : List (Node × Edge)}
    (symmetric : ∀ here next edge, arc here next edge → arc next here edge)
    (walk : IsWalk arc start steps) : IsWalk arc (arrival start steps) (back start steps) := by
  induction steps generalizing start with
  | nil => trivial
  | cons step steps ih =>
      refine isWalk_snoc.mpr ⟨ih walk.2, ?_⟩
      rw [arrival, arrival_back]
      exact symmetric start step.1 step.2 walk.1

theorem edgesOf_back (start : Node) (steps : List (Node × Edge)) :
    edgesOf (back start steps) = (edgesOf steps).reverse := by
  induction steps generalizing start with
  | nil => rfl
  | cons step steps ih =>
      have later := ih step.1
      simp only [edgesOf] at later ⊢
      simp [back, later]

theorem back_ne_nil {start : Node} {steps : List (Node × Edge)} (some : steps ≠ []) :
    back start steps ≠ [] := by
  cases steps with
  | nil => exact absurd rfl some
  | cons step steps => simp [back]

/-- Where an edge determines its two ends, a walk that visits no node twice takes no edge
twice. -/
theorem nodup_edgesOf {start : Node} {steps : List (Node × Edge)}
    (ends : ∀ here next other last edge, arc here next edge → arc other last edge →
      here = other ∨ here = last)
    (walk : IsWalk arc start steps) (simple : (visited start steps).Nodup) :
    (edgesOf steps).Nodup := by
  induction steps generalizing start with
  | nil => exact List.nodup_nil
  | cons step steps ih =>
      have parted := List.nodup_cons.mp simple
      refine List.nodup_cons.mpr ⟨?_, ih walk.2 parted.2⟩
      intro again
      obtain ⟨other, before, last, after, joins⟩ := ends_mem_visited walk.2 again
      rcases ends start step.1 other last step.2 walk.1 joins with rfl | rfl
      · exact parted.1 before
      · exact parted.1 after

section

variable [Zero Length] [Add Length] {length : Edge → Length}

/-- The length so far and that of the steps after it, added one by one as a loop does. -/
def totalFrom (length : Edge → Length) (far : Length) (steps : List (Node × Edge)) : Length :=
  steps.foldl (fun far step => far + length step.2) far

def total (length : Edge → Length) (steps : List (Node × Edge)) : Length :=
  totalFrom length 0 steps

structure Shortest [LE Length] (arc : Node → Node → Edge → Prop) (length : Edge → Length)
    (start target : Node) (steps : List (Node × Edge)) : Prop where
  walk : IsWalk arc start steps
  arrives : arrival start steps = target
  minimal : ∀ other, IsWalk arc start other → arrival start other = target →
    total length steps ≤ total length other

theorem total_append (steps rest : List (Node × Edge)) :
    total length (steps ++ rest) = totalFrom length (total length steps) rest := by
  rw [total, totalFrom, List.foldl_append]
  rfl

theorem total_snoc (next : Node) (edge : Edge) (steps : List (Node × Edge)) :
    total length (steps ++ [(next, edge)]) = total length steps + length edge := by
  rw [total_append]
  rfl

end

/-! ### Sums that keep the order -/

section

variable [AddZeroClass Length] [LinearOrder Length] {length : Edge → Length}

theorem totalFrom_mono [AddRightMono Length] {near far : Length} (below : near ≤ far)
    (steps : List (Node × Edge)) : totalFrom length near steps ≤ totalFrom length far steps := by
  induction steps generalizing near far with
  | nil => exact below
  | cons step steps ih => exact ih (add_le_add_left below (length step.2))

theorem le_totalFrom [AddLeftMono Length] (nonneg : ∀ edge, 0 ≤ length edge) (far : Length)
    (steps : List (Node × Edge)) : far ≤ totalFrom length far steps := by
  induction steps generalizing far with
  | nil => exact le_refl far
  | cons step steps ih => exact (le_add_of_nonneg_right (nonneg step.2)).trans (ih _)

theorem total_le_append [AddLeftMono Length] (nonneg : ∀ edge, 0 ≤ length edge)
    (steps rest : List (Node × Edge)) : total length steps ≤ total length (steps ++ rest) := by
  rw [total_append]
  exact le_totalFrom nonneg _ rest

/-- The argument of every label-setting search. Labels that respect each edge out of a settled
node bound the length of a walk, at its end or at the first node of it that is not settled. -/
theorem label_le_total [AddLeftMono Length] [AddRightMono Length] {dist : Node → Option Length}
    {settled : Node → Prop} {start : Node} (nonneg : ∀ edge, 0 ≤ length edge)
    (origin : dist start = some 0)
    (relaxed : ∀ here next edge label, settled here → dist here = some label →
      arc here next edge → ∃ other, dist next = some other ∧ other ≤ label + length edge)
    (steps : List (Node × Edge)) (walk : IsWalk arc start steps) :
    (∃ label, dist (arrival start steps) = some label ∧ label ≤ total length steps) ∨
      ∃ node label, ¬ settled node ∧ dist node = some label ∧ label ≤ total length steps := by
  classical
  induction steps using List.reverseRecOn with
  | nil => exact .inl ⟨0, origin, le_refl 0⟩
  | append_singleton steps step ih =>
      obtain ⟨next, edge⟩ := step
      obtain ⟨before, last⟩ := isWalk_snoc.mp walk
      have longer := total_le_append nonneg steps [(next, edge)]
      rcases ih before with ⟨label, labelled, bound⟩ | ⟨node, label, ahead, labelled, bound⟩
      · by_cases here : settled (arrival start steps)
        · obtain ⟨other, reached, step⟩ := relaxed _ next edge label here labelled last
          refine .inl ⟨other, ?_, ?_⟩
          · rw [arrival_append]
            exact reached
          · rw [total_snoc]
            exact step.trans (add_le_add_left bound (length edge))
        · exact .inr ⟨_, label, here, labelled, bound.trans longer⟩
      · exact .inr ⟨node, label, ahead, labelled, bound.trans longer⟩

end

end Walks

/-! ### Loops -/

namespace Loop

variable {State : Type}

/-- `while` with a bound on its rounds: `step` is `none` where the loop is left, `run` where it
is still going. -/
def run (step : State → Option State) : Nat → State → Option State
  | 0, _ => none
  | rounds + 1, state =>
      match step state with
      | none => some state
      | some next => run step rounds next

theorem run_of_none {step : State → Option State} {state : State} (left : step state = none)
    (rounds : Nat) : run step (rounds + 1) state = some state := by
  simp [run, left]

theorem run_keeps {step : State → Option State} {invariant : State → Prop}
    (keeps : ∀ state next, invariant state → step state = some next → invariant next)
    {state last : State} {rounds : Nat} (holds : invariant state)
    (ended : run step rounds state = some last) : invariant last := by
  induction rounds generalizing state with
  | zero => simp [run] at ended
  | succ rounds ih =>
      simp only [run] at ended
      cases moved : step state with
      | none =>
          rw [moved] at ended
          rwa [← Option.some.inj ended]
      | some next =>
          rw [moved] at ended
          exact ih (keeps state next holds moved) ended

/-- An invariant whose budget every round spends from is kept up to where the loop is left, and
it is left before the budget is spent. -/
theorem run_of_budget {step : State → Option State} {invariant : State → Nat → Prop}
    (spends : ∀ state budget next, invariant state budget → step state = some next →
      ∃ rest, rest < budget ∧ invariant next rest)
    {state : State} {budget : Nat} (holds : invariant state budget) :
    ∃ last rest, step last = none ∧ invariant last rest ∧
      ∀ rounds, budget < rounds → run step rounds state = some last := by
  induction budget using Nat.strong_induction_on generalizing state with
  | _ budget ih =>
      cases moved : step state with
      | none =>
          refine ⟨state, budget, moved, holds, ?_⟩
          intro rounds enough
          cases rounds with
          | zero => omega
          | succ rounds => exact run_of_none moved rounds
      | some next =>
          obtain ⟨rest, fewer, kept⟩ := spends state budget next holds moved
          obtain ⟨last, left, stops, ends, reached⟩ := ih rest fewer kept
          refine ⟨last, left, stops, ends, ?_⟩
          intro rounds enough
          cases rounds with
          | zero => omega
          | succ rounds =>
              simp only [run, moved]
              exact reached rounds (by omega)

end Loop
