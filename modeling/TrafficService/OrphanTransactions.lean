import TrafficService.BookingInvariant

/-!
The orphan pass with each transaction begun apart from its commit. The list is read once: what
a transaction does to a booking that has been confirmed since depends on when it begins.
-/

namespace TrafficService.Cluster

inductive OpenAction
  | cluster (action : Action)
  /-- The first statement for the next orphan opens a transaction, if none is open. -/
  | begin (pass : PassId)

def beginTransaction (state : State) (passId : PassId) (pass : Pass) : Option State :=
  match pass.pc, pass.snapshot with
  | .orphans (_ :: _), none =>
      some (setPass state passId (some { pass with snapshot := some (state.db pass.vm) }))
  | _, _ => none

def stepOpen (deployment : Deployment) (state : State) : OpenAction → Option State
  | .cluster action => step deployment state action
  | .begin passId => (state.passes passId).bind (beginTransaction state passId)

def Respected (deployment : Deployment) (state : State) : Prop :=
  ∀ passId pass row rest now published next, state.passes passId = some pass →
    pass.pc = .orphans (row :: rest) →
    step deployment state (.stepPass passId now published) = some next →
      ∀ id, (pass.reads state).status? id = some .confirmed →
        ∀ vm, next.rows vm id = state.rows vm id

def Pass.waiting (pass : Pass) : List Booking :=
  match pass.pc, pass.snapshot with
  | .orphans (_ :: rest), some _ => rest
  | .orphans todo, none => todo
  | _, _ => []

def Confirms (state : State) (vm : Vm) (id : BookingId) (answer : Answer) : Prop :=
  (answer = .ok ∨ answer = .raiseApplied) ∧
    ∃ run, state.runs id = some run ∧ run.vm = vm ∧ run.pc = .finalCommit

def Undisturbed (state : State) : OpenAction → Prop
  | .cluster (.advance id answer) => ∀ passId pass, state.passes passId = some pass →
      Confirms state pass.vm id answer → id ∉ pass.waiting.map Booking.id
  | _ => True

/-! ### Who confirms -/

section

variable {deployment : Deployment} {state next : State} {action : Action} {id : BookingId}
  {vm : Vm} {transaction : Transaction} {rows : BookingRows} {pass : Pass}

theorem unconfirmed_of_other (notConfirm : ∀ minutes, transaction ≠ .confirm minutes)
    (unconfirmed : rows.unconfirmed) : (transaction.onRows id rows).unconfirmed := by
  cases transaction with
  | saga draft segments =>
      intro row found
      cases found
      simp [BookingDraft.booking]
  | insertRejected draft =>
      intro row found
      cases found
      simp [BookingDraft.booking]
  | peerReserve driverId segment => exact unconfirmed
  | _ => exact Transaction.unconfirmed_onRows rfl notConfirm unconfirmed

theorem External.not_confirm (source : External state action vm id transaction) (minutes : Nat) :
    transaction ≠ .confirm minutes := by
  cases source with
  | serveReserve | serveRelease | cancel | orphan | dangling | lingering => simp

theorem rejection_ne_confirm (run : CreateRun) (minutes : Nat) :
    run.rejection ≠ .confirm minutes := by
  rw [CreateRun.rejection]
  split
  · simp
  · simp

theorem advance_commits_confirmation {run : CreateRun} {answer : Answer} {outcome : Outcome}
    {minutes : Nat} (moved : advance deployment id run answer = some outcome)
    (committed : outcome.transaction = some (.confirm minutes)) :
    (answer = .ok ∨ answer = .raiseApplied) ∧ run.pc = .finalCommit := by
  revert moved committed
  fun_cases advance deployment id run answer
  all_goals
    intro moved committed
    cases moved
  all_goals simp_all [CreateRun.store, rejection_ne_confirm]

/-- A booking that is not CONFIRMED becomes so by the last commit of its request alone. -/
theorem unconfirmed_step (stepped : step deployment state action = some next)
    (unconfirmed : (state.rows vm id).unconfirmed) :
    (next.rows vm id).unconfirmed ∨
      ∃ answer, action = .advance id answer ∧ Confirms state vm id answer := by
  cases step_effect stepped id with
  | unchanged runs rows => exact .inl (rows vm ▸ unconfirmed)
  | begun place draft isBegin fresh runs rows => exact .inl (rows vm ▸ unconfirmed)
  | crashed run isCrash found running runs rows => exact .inl (rows vm ▸ unconfirmed)
  | external place transaction source runs rows =>
      left
      rw [rows]
      split
      · exact unconfirmed_of_other source.not_confirm unconfirmed
      · exact unconfirmed
  | advanced run answer outcome source found moved runs rows =>
      by_cases confirms : (answer = .ok ∨ answer = .raiseApplied) ∧ run.pc = .finalCommit ∧
          vm = run.vm
      · obtain ⟨applied, here, own⟩ := confirms
        have asked : action = .advance id answer := by
          rcases source with asked | waits
          · exact asked
          · rw [here] at waits
            cases waits
        exact .inr ⟨answer, asked, applied, run, found, own.symm, here⟩
      · left
        rw [rows]
        split
        · next own =>
            rw [(advance_keeps moved).1] at own
            cases committed : outcome.transaction with
            | none => simpa only [Outcome.rowsAfter, committed] using unconfirmed
            | some transaction =>
                simp only [Outcome.rowsAfter, committed]
                apply unconfirmed_of_other _ unconfirmed
                rintro minutes rfl
                obtain ⟨applied, here⟩ := advance_commits_confirmation moved committed
                exact confirms ⟨applied, here, own⟩
        · exact unconfirmed

theorem passes_advance {answer : Answer}
    (stepped : step deployment state (.advance id answer) = some next) :
    next.passes = state.passes := by
  simp only [step] at stepped
  split at stepped
  · cases stepped
  · obtain ⟨run, _, advanced⟩ := Option.bind_eq_some_iff.mp stepped
    obtain ⟨outcome, _, applied⟩ := Option.bind_eq_some_iff.mp advanced
    exact (applyOutcome_effect applied).2.1

/-! ### What waits on a list -/

/-- What a pass has listed is not CONFIRMED, in its snapshot or now, when its turn comes. -/
structure Unsettled (state : State) (pass : Pass) : Prop where
  closed : pass.pc = .start → pass.snapshot = none
  waiting : ∀ row ∈ pass.waiting, (state.rows pass.vm row.id).unconfirmed
  begun : ∀ row rest snapshot, pass.pc = .orphans (row :: rest) → pass.snapshot = some snapshot →
    (snapshot.rowsOf row.id).unconfirmed

theorem Unsettled.reads {row : Booking} {rest : List Booking} (unsettled : Unsettled state pass)
    (here : pass.pc = .orphans (row :: rest)) :
    ((pass.reads state).rowsOf row.id).unconfirmed := by
  cases opened : pass.snapshot with
  | some snapshot =>
      simp only [Pass.reads, opened, Option.getD_some]
      exact unsettled.begun row rest snapshot here opened
  | none =>
      simp only [Pass.reads, opened, Option.getD_none]
      apply unsettled.waiting row
      simp [Pass.waiting, here, opened]

theorem Unsettled.elsewhere (closed : pass.pc = .start → pass.snapshot = none)
    (notOrphans : ∀ todo, pass.pc ≠ .orphans todo) : Unsettled state pass where
  closed := closed
  waiting := by
    intro row member
    cases here : pass.pc with
    | orphans todo => exact absurd here (notOrphans todo)
    | start | dangling | sweep | lingering => simp [Pass.waiting, here] at member
  begun := by
    intro row rest snapshot here
    exact absurd here (notOrphans _)

theorem unconfirmed_of_orphaned {db : Database} {now : DateTime} {row : Booking}
    (listed : row ∈ selectOrphans db now) : (db.rowsOf row.id).unconfirmed := by
  obtain ⟨stored, old⟩ := List.mem_filter.mp listed
  simp only [Booking.orphaned, Bool.and_eq_true, decide_eq_true_eq] at old
  intro other found
  cases (Database.rowsOf_of_mem stored).symm.trans found
  rw [old.1]
  decide

theorem waiting_of_closed (vm : Vm) (todo : List Booking) :
    Pass.waiting ⟨vm, none, .orphans todo⟩ = todo := by
  cases todo with
  | nil | cons => rfl

theorem mem_waiting_of_open {todo : List Booking} {snapshot : Database} {row : Booking}
    (member : row ∈ Pass.waiting ⟨vm, some snapshot, .orphans todo⟩) : row ∈ todo := by
  cases todo with
  | nil => cases member
  | cons first rest => exact List.mem_cons_of_mem first member

theorem Unsettled.passMove {after : Pass} (unsettled : Unsettled state pass)
    (move : PassMove state pass after) : Unsettled state after := by
  cases move with
  | selectOrphans now start =>
      have reads : pass.reads state = state.db pass.vm := by
        simp [Pass.reads, unsettled.closed start]
      rw [reads]
      constructor
      · intro here
        cases here
      · intro row member
        exact unconfirmed_of_orphaned (mem_waiting_of_open member)
      · rintro row rest snapshot here ⟨⟩
        apply unconfirmed_of_orphaned
        rw [PassPc.orphans.inj here]
        exact List.mem_cons_self
  | nextOrphan row rest here clear =>
      constructor
      · intro start
        cases start
      · intro other member
        rw [waiting_of_closed] at member
        apply unsettled.waiting
        cases opened : pass.snapshot with
        | some snapshot => simpa [Pass.waiting, here, opened] using member
        | none =>
            simp only [Pass.waiting, here, opened]
            exact List.mem_cons_of_mem row member
      · intro other todo snapshot next opened
        cases opened
  | selectDangling | nextDangling | sweep | selectLingering | nextLingering =>
      exact .elsewhere (by simp) (by simp)

theorem Unsettled.later (unsettled : Unsettled state pass)
    (kept : ∀ row ∈ pass.waiting, (state.rows pass.vm row.id).unconfirmed →
      (next.rows pass.vm row.id).unconfirmed) : Unsettled next pass :=
  ⟨unsettled.closed, fun row member => kept row member (unsettled.waiting row member),
    unsettled.begun⟩

def AllUnsettled (state : State) : Prop :=
  ∀ passId pass, state.passes passId = some pass → Unsettled state pass

theorem AllUnsettled.advance {answer : Answer} (all : AllUnsettled state)
    (undisturbed : Undisturbed state (.cluster (.advance id answer)))
    (stepped : step deployment state (.advance id answer) = some next) : AllUnsettled next := by
  intro passId pass found
  rw [passes_advance stepped] at found
  apply (all passId pass found).later
  intro row waits unconfirmed
  rcases unconfirmed_step stepped unconfirmed with still | ⟨_, same, confirms⟩
  · exact still
  · cases same
    exact absurd (List.mem_map_of_mem waits) (undisturbed passId pass found confirms)

theorem AllUnsettled.other (all : AllUnsettled state)
    (notAdvance : ∀ id answer, action ≠ .advance id answer)
    (stepped : step deployment state action = some next) : AllUnsettled next := by
  intro passId after found
  have before : Unsettled state after := by
    rcases step_pass stepped found with same | ⟨vm, rfl⟩ | ⟨pass, there, move⟩
    · exact all passId after same
    · exact .elsewhere (by simp) (by simp)
    · exact (all passId pass there).passMove move
  apply before.later
  intro row _ unconfirmed
  rcases unconfirmed_step stepped unconfirmed with still | ⟨answer, same, _⟩
  · exact still
  · exact absurd same (notAdvance row.id answer)

theorem AllUnsettled.begin {passId : PassId} (all : AllUnsettled state)
    (found : state.passes passId = some pass)
    (began : beginTransaction state passId pass = some next) : AllUnsettled next := by
  have before := all passId pass found
  rw [beginTransaction] at began
  split at began
  · next first rest here closed =>
      cases began
      have listed : ∀ row ∈ first :: rest, (state.rows pass.vm row.id).unconfirmed := by
        intro row member
        apply before.waiting
        simpa [Pass.waiting, here, closed] using member
      intro other after moved
      by_cases own : other = passId
      · subst own
        simp only [setPass, Function.update_self, Option.some.injEq] at moved
        subst moved
        constructor
        · intro start
          cases here.symm.trans start
        · intro row member
          rw [Pass.waiting, here] at member
          exact listed row (List.mem_cons_of_mem first member)
        · rintro row todo snapshot next ⟨⟩
          cases here.symm.trans next
          exact listed first List.mem_cons_self
      · simp only [setPass, Function.update_of_ne own] at moved
        obtain ⟨closed, waiting, begun⟩ := all other after moved
        exact ⟨closed, waiting, begun⟩
  · cases began

theorem AllUnsettled.step {openAction : OpenAction} (all : AllUnsettled state)
    (undisturbed : Undisturbed state openAction)
    (stepped : stepOpen deployment state openAction = some next) : AllUnsettled next := by
  cases openAction with
  | begin passId =>
      obtain ⟨pass, found, began⟩ := Option.bind_eq_some_iff.mp stepped
      exact all.begin found began
  | cluster action =>
      by_cases advances : ∃ id answer, action = .advance id answer
      · obtain ⟨id, answer, rfl⟩ := advances
        exact all.advance undisturbed stepped
      · apply all.other _ stepped
        intro id answer same
        exact advances ⟨id, answer, same⟩

/-- A commit of a pass changes the rows of the booking it is for. -/
theorem stepPass_other {passId : PassId} {now : DateTime} {published : Bool} {row : Booking}
    {rest : List Booking} (found : state.passes passId = some pass)
    (here : pass.pc = .orphans (row :: rest))
    (stepped : Cluster.step deployment state (.stepPass passId now published) = some next)
    (other : id ≠ row.id) : next.rows vm id = state.rows vm id := by
  simp only [Cluster.step, found, Option.bind_some, stepPass, here, passCommit] at stepped
  split at stepped
  · cases stepped
    rfl
  · rw [rows_commit stepped, if_neg (fun both => other both.1)]
    rfl

/-- In a run in which no booking is confirmed while it waits on the list of a pass, no pass
touches a booking that was CONFIRMED when its transaction began. -/
theorem respected_of_undisturbed {capacity : Vm → RegionSchema → SegmentId → Option Nat}
    {users : Vm → DriverId → Option (Option Plate)} {actions : List OpenAction}
    (executed : Lts.run (stepOpen deployment) (.initial capacity users) actions = some state)
    (undisturbed : Lts.Meets (stepOpen deployment) Undisturbed (.initial capacity users) actions) :
    Respected deployment state := by
  have initial : AllUnsettled (.initial capacity users) := by
    intro passId pass found
    cases found
  have all : AllUnsettled state :=
    Lts.run_invariant (fun _ _ _ all undisturbed stepped => all.step undisturbed stepped)
      initial executed undisturbed
  intro passId pass row rest now published next found here stepped id confirmed vm
  apply stepPass_other found here stepped
  rintro rfl
  rw [Database.status?_eq] at confirmed
  obtain ⟨booking, present, status⟩ := Option.map_eq_some_iff.mp confirmed
  exact (all passId pass found).reads here booking present status

end

/-! ### Two orphans -/

/-- Two requests of two minutes ago wait for their last commit. The pass lists both. -/
def listedBoth : List OpenAction :=
  (bookAsFar 10 3 ++ bookAsFar 11 3 ++
    [Action.startPass 0 .vm1, .stepPass 0 (120 * second) true]).map .cluster

/-- The first is rejected, the second is confirmed, and then its transaction begins. -/
def confirmedWhileListed : List OpenAction :=
  listedBoth ++ [.cluster (.stepPass 0 (120 * second) true), .cluster (.advance 11 .ok), .begin 0]

def confirmsNothing (state : State) : OpenAction → Bool
  | .cluster (.advance id _) => (state.runs id).all fun run => run.pc ≠ .finalCommit
  | _ => true

theorem undisturbed_of_confirmsNothing {state : State} {openAction : OpenAction}
    (nothing : confirmsNothing state openAction = true) : Undisturbed state openAction := by
  cases openAction with
  | begin passId => trivial
  | cluster action =>
      cases action with
      | advance id answer =>
          rintro passId pass _ ⟨_, run, found, _, here⟩
          have elsewhere : run.pc ≠ .finalCommit := by
            simpa [confirmsNothing, found] using nothing
          exact absurd here elsewhere
      | _ => trivial

theorem respected_listedBoth : ∃ state,
    Lts.run (stepOpen singleVm) emptyState listedBoth = some state ∧ Respected singleVm state := by
  have ran : (Lts.run (stepOpen singleVm) emptyState listedBoth).isSome = true := by decide +kernel
  have quiet : Lts.checks (stepOpen singleVm) confirmsNothing emptyState listedBoth = true := by
    decide +kernel
  obtain ⟨state, executed⟩ := Option.isSome_iff_exists.mp ran
  exact ⟨state, executed, respected_of_undisturbed executed
    (Lts.meets_of_checks (fun _ _ => undisturbed_of_confirmsNothing) quiet)⟩

theorem overturned : ¬ ∀ (deployment : Deployment)
    (capacity : Vm → RegionSchema → SegmentId → Option Nat)
    (users : Vm → DriverId → Option (Option Plate)) (actions : List OpenAction) (state : State),
    Lts.run (stepOpen deployment) (.initial capacity users) actions = some state →
      Respected deployment state := by
  intro holds
  have ran : (Lts.run (stepOpen singleVm) emptyState confirmedWhileListed).map (fun state =>
      ((state.passes 0).map fun pass => (pass.pc, (pass.reads state).status? 11),
        (state.db .vm1).status? 11,
        (step singleVm state (.stepPass 0 0 true)).map fun next => (next.db .vm1).status? 11)) =
      some (some (.orphans [request.draft (emptyState.db .vm1) |>.booking 11 .sagaInProgress],
        some .confirmed), some .confirmed, some (some .rejected)) := by decide +kernel
  obtain ⟨state, executed, observed⟩ := Option.map_eq_some_iff.mp ran
  simp only [Prod.mk.injEq] at observed
  obtain ⟨listed, before, after⟩ := observed
  obtain ⟨pass, found, read⟩ := Option.map_eq_some_iff.mp listed
  obtain ⟨next, stepped, rejected⟩ := Option.map_eq_some_iff.mp after
  rw [Prod.mk.injEq] at read
  have same := holds singleVm _ _ _ state executed 0 pass _ _ 0 true next found read.1 stepped 11
    read.2 .vm1
  rw [Database.status?_eq] at before rejected
  have status : some BookingStatus.rejected = some .confirmed :=
    rejected.symm.trans ((congrArg (fun rows => rows.booking.map (·.status)) same).trans before)
  cases status

end TrafficService.Cluster
