/-!
Labelled transition systems whose step is a partial function: replaying a list of
actions, invariants of whole runs, and runs whose every action meets a condition
in the state it is taken in.
-/

namespace Lts

variable {State Action : Type}

def run (step : State → Action → Option State) : State → List Action → Option State
  | state, [] => some state
  | state, action :: rest =>
      match step state action with
      | none => none
      | some next => run step next rest

def Meets (step : State → Action → Option State) (allowed : State → Action → Prop) :
    State → List Action → Prop
  | _, [] => True
  | state, action :: rest => allowed state action ∧
      ∀ next, step state action = some next → Meets step allowed next rest

def checks (step : State → Action → Option State) (test : State → Action → Bool) :
    State → List Action → Bool
  | _, [] => true
  | state, action :: rest => test state action &&
      match step state action with
      | none => true
      | some next => checks step test next rest

/-- The actions of a run that meet a test in the state they are taken in. -/
def keep (step : State → Action → Option State) (test : State → Action → Bool) :
    State → List Action → List Action
  | _, [] => []
  | state, action :: rest =>
      match step state action with
      | none => []
      | some next =>
          if test state action then action :: keep step test next rest
          else keep step test next rest

def Reachable (step : State → Action → Option State) (start finish : State) : Prop :=
  ∃ actions, run step start actions = some finish

section

variable {step : State → Action → Option State}

@[simp] theorem run_nil (state : State) : run step state [] = some state := rfl

theorem run_cons_eq_some {start finish : State} {action : Action} {rest : List Action} :
    run step start (action :: rest) = some finish ↔
      ∃ next, step start action = some next ∧ run step next rest = some finish := by
  have whole : run step start (action :: rest) =
      (step start action).bind fun next => run step next rest := by
    rw [run]
    cases step start action <;> rfl
  rw [whole, Option.bind_eq_some_iff]

theorem run_append {start middle : State} {first second : List Action}
    (reached : run step start first = some middle) :
    run step start (first ++ second) = run step middle second := by
  induction first generalizing start with
  | nil =>
      simp only [run_nil, Option.some.injEq] at reached
      simp [reached]
  | cons action rest ih =>
      obtain ⟨next, stepped, remaining⟩ := run_cons_eq_some.mp reached
      simp only [List.cons_append, run, stepped]
      exact ih remaining

theorem Reachable.refl (state : State) : Reachable step state state := ⟨[], rfl⟩

theorem Reachable.trans {start middle finish : State} (first : Reachable step start middle)
    (second : Reachable step middle finish) : Reachable step start finish := by
  obtain ⟨firstActions, firstRun⟩ := first
  obtain ⟨secondActions, secondRun⟩ := second
  exact ⟨firstActions ++ secondActions, by rw [run_append firstRun, secondRun]⟩

theorem Reachable.single {start finish : State} {action : Action}
    (stepped : step start action = some finish) : Reachable step start finish :=
  ⟨[action], by simp [run, stepped]⟩

theorem Reachable.tail {start middle finish : State} {action : Action}
    (reached : Reachable step start middle) (stepped : step middle action = some finish) :
    Reachable step start finish :=
  reached.trans (.single stepped)

/-- A property kept by every action that meets `allowed` holds at the end of every
run whose actions all meet it. -/
theorem run_invariant {allowed : State → Action → Prop} {invariant : State → Prop}
    (kept : ∀ state action next, invariant state → allowed state action →
      step state action = some next → invariant next)
    {start finish : State} {actions : List Action} (initial : invariant start)
    (executed : run step start actions = some finish)
    (meets : Meets step allowed start actions) : invariant finish := by
  induction actions generalizing start with
  | nil =>
      simp only [run_nil, Option.some.injEq] at executed
      exact executed ▸ initial
  | cons action rest ih =>
      obtain ⟨next, stepped, remaining⟩ := run_cons_eq_some.mp executed
      exact ih (kept start action next initial meets.1 stepped) remaining (meets.2 next stepped)

theorem meets_true (start : State) (actions : List Action) :
    Meets step (fun _ _ => True) start actions := by
  induction actions generalizing start with
  | nil => trivial
  | cons action rest ih => exact ⟨trivial, fun next _ => ih next⟩

/-- An unconditional invariant holds in every reachable state. -/
theorem Reachable.invariant {invariant : State → Prop}
    (kept : ∀ state action next, invariant state → step state action = some next → invariant next)
    {start finish : State} (reached : Reachable step start finish) (initial : invariant start) :
    invariant finish := by
  obtain ⟨actions, executed⟩ := reached
  have always : Meets step (fun _ _ => True) start actions := meets_true start actions
  exact run_invariant (fun state action next holds _ stepped => kept state action next holds stepped)
    initial executed always

/-- Where each step of one system is matched by steps of another, so is each run. -/
theorem run_simulates {State' Action' : Type} {step' : State' → Action' → Option State'}
    {relates : State → State' → Prop}
    (matched : ∀ state action next other, relates state other → step state action = some next →
      ∃ after, Reachable step' other after ∧ relates next after)
    {start finish : State} {actions : List Action} {other : State'} (related : relates start other)
    (executed : run step start actions = some finish) :
    ∃ after, Reachable step' other after ∧ relates finish after := by
  induction actions generalizing start other with
  | nil =>
      simp only [run_nil, Option.some.injEq] at executed
      exact ⟨other, .refl other, executed ▸ related⟩
  | cons action rest ih =>
      obtain ⟨next, stepped, remaining⟩ := run_cons_eq_some.mp executed
      obtain ⟨middle, first, kept⟩ := matched start action next other related stepped
      obtain ⟨after, later, ended⟩ := ih kept remaining
      exact ⟨after, first.trans later, ended⟩

/-- Where the actions that are left out cannot be seen, the others make the same run. -/
theorem run_keep {test : State → Action → Bool} {sees : State → State → Prop}
    (kept : ∀ state action next other, sees state other → step state action = some next →
      test state action = true → ∃ after, step other action = some after ∧ sees next after)
    (dropped : ∀ state action next other, sees state other → step state action = some next →
      test state action = false → sees next other)
    {start finish other : State} {actions : List Action} (seen : sees start other)
    (executed : run step start actions = some finish) :
    ∃ after, run step other (keep step test start actions) = some after ∧ sees finish after := by
  induction actions generalizing start other with
  | nil =>
      simp only [run_nil, Option.some.injEq] at executed
      exact ⟨other, rfl, executed ▸ seen⟩
  | cons action rest ih =>
      obtain ⟨next, stepped, remaining⟩ := run_cons_eq_some.mp executed
      simp only [keep, stepped]
      cases tested : test start action with
      | true =>
          obtain ⟨middle, moved, still⟩ := kept start action next other seen stepped tested
          obtain ⟨after, later, ended⟩ := ih still remaining
          exact ⟨after, run_cons_eq_some.mpr ⟨middle, moved, later⟩, ended⟩
      | false => exact ih (dropped start action next other seen stepped tested) remaining

/-- An invariant that also says how often some of the actions have been taken. -/
theorem run_counting {test : Action → Bool} {invariant : Nat → State → Prop}
    (kept : ∀ count state action next, invariant count state → step state action = some next →
      invariant (count + if test action then 1 else 0) next)
    {start finish : State} {actions : List Action} {count : Nat} (initial : invariant count start)
    (executed : run step start actions = some finish) :
    invariant (count + actions.countP test) finish := by
  induction actions generalizing start count with
  | nil =>
      simp only [run_nil, Option.some.injEq] at executed
      exact executed ▸ initial
  | cons action rest ih =>
      obtain ⟨next, stepped, remaining⟩ := run_cons_eq_some.mp executed
      have later := ih (kept count start action next initial stepped) remaining
      rw [List.countP_cons, Nat.add_comm (rest.countP test), ← Nat.add_assoc]
      exact later

theorem Meets.of_prefix {allowed : State → Action → Prop} {start : State}
    {first actions : List Action} (meets : Meets step allowed start actions)
    (begun : first <+: actions) : Meets step allowed start first := by
  obtain ⟨second, rfl⟩ := begun
  induction first generalizing start with
  | nil => trivial
  | cons action rest ih => exact ⟨meets.1, fun next stepped => ih (meets.2 next stepped)⟩

/-- A condition implies another along a run if it does so wherever the invariant it keeps holds. -/
theorem Meets.imp {weak strong : State → Action → Prop} {invariant : State → Prop}
    (kept : ∀ state action next, invariant state → strong state action →
      step state action = some next → invariant next)
    (imp : ∀ state action, invariant state → strong state action → weak state action)
    {start : State} {actions : List Action} (initial : invariant start)
    (meets : Meets step strong start actions) : Meets step weak start actions := by
  induction actions generalizing start with
  | nil => trivial
  | cons action rest ih =>
      refine ⟨imp start action initial meets.1, ?_⟩
      intro next stepped
      exact ih (kept start action next initial meets.1 stepped) (meets.2 next stepped)

theorem Meets.and {first second : State → Action → Prop} {start : State} {actions : List Action}
    (left : Meets step first start actions) (right : Meets step second start actions) :
    Meets step (fun state action => first state action ∧ second state action) start actions := by
  induction actions generalizing start with
  | nil => trivial
  | cons action rest ih =>
      exact ⟨⟨left.1, right.1⟩, fun next stepped => ih (left.2 next stepped) (right.2 next stepped)⟩

theorem Meets.of_reached {allowed : State → Action → Prop} {start : State} {actions : List Action}
    (holds : ∀ done action rest, actions = done ++ action :: rest →
      ∀ state, run step start done = some state → allowed state action) :
    Meets step allowed start actions := by
  induction actions generalizing start with
  | nil => trivial
  | cons action rest ih =>
      refine ⟨holds [] action rest rfl start rfl, ?_⟩
      intro next stepped
      refine ih ?_
      intro done later remaining split state executed
      refine holds (action :: done) later remaining (congrArg (action :: ·) split) state ?_
      exact run_cons_eq_some.mpr ⟨next, stepped, executed⟩

theorem checks_iff_meets {test : State → Action → Bool} {start : State} {actions : List Action} :
    checks step test start actions = true ↔
      Meets step (fun state action => test state action = true) start actions := by
  induction actions generalizing start with
  | nil => exact iff_of_true rfl trivial
  | cons action rest ih =>
      simp only [checks, Meets, Bool.and_eq_true]
      apply and_congr_right
      intro _
      cases step start action with
      | none => simp
      | some next => simp [ih]

theorem meets_of_checks {test : State → Action → Bool} {allowed : State → Action → Prop}
    (sound : ∀ state action, test state action = true → allowed state action) {start : State}
    {actions : List Action} (checked : checks step test start actions = true) :
    Meets step allowed start actions :=
  @Meets.imp _ _ step _ _ (fun _ => True) (fun _ _ _ _ _ _ => trivial)
    (fun state action _ => sound state action) start actions trivial (checks_iff_meets.mp checked)

end

end Lts
