import TrafficService.BookingInvariant

/-!
The events a request publishes against the status it leaves: they agree exactly when no await
fails that the saga's own handler does not cover.
-/

namespace TrafficService

def BookingRows.status? (rows : BookingRows) : Option BookingStatus := rows.booking.map (·.status)

namespace Cluster

def tally (events : List Event) : Nat × Nat :=
  (events.countP Event.isConfirmed, events.countP Event.isFailed)

def EventsAgree (status : Option BookingStatus) (events : List Event) : Prop :=
  (status = some .confirmed → tally events = (1, 0)) ∧
    (status = some .rejected → tally events = (0, 1))

def Answer.isOk : Answer → Bool
  | .ok => true
  | _ => false

def Answer.isRoute : Answer → Bool
  | .route _ => true
  | _ => false

def CreatePc.smooth (answer : Answer) : CreatePc → Bool
  | .publishConfirmed | .rollback | .compensate (_ :: _) | .publishFailed | .reject => Answer.isOk answer
  | _ => true

def CreatePc.covered (answer : Answer) : CreatePc → Bool
  | .resolve => Answer.isRoute answer
  | .finalCommit | .refresh => Answer.isOk answer
  | _ => true

/-- The booking's request does not crash, nobody else decides the booking, and neither
publications nor the failure path's own writes fail. -/
def undisturbed (id : BookingId) (state : State) : Action → Bool
  | .crash other => other ≠ id
  | .cancelBooking _ other _ _ => other ≠ id
  | .stepPass passId _ _ => (state.passes passId).all fun pass =>
      match pass.pc with
      | .orphans (row :: _) | .dangling (row :: _) => row.id ≠ id
      | _ => true
  | .advance other answer => other ≠ id || (state.runs id).all fun run => CreatePc.smooth answer run.pc
  | _ => true

def failsInsideSaga (id : BookingId) (state : State) : Action → Bool
  | .advance other answer =>
      other ≠ id || (state.runs id).all fun run => CreatePc.covered answer run.pc
  | _ => true

/-- What the events of a booking have to be while its request stands at `pc`. -/
def Aligned (status : Option BookingStatus) (events : List Event) : CreatePc → Prop
  | .finalCommit => tally events = (1, 0)
  | .refresh | .returned => status = some .confirmed ∧ tally events = (1, 0)
  | .reject => tally events = (0, 1)
  | .raised => status = none ∨ status = some .rejected ∧ tally events = (0, 1)
  | .crashed => False
  | _ => tally events = (0, 0)

def Unannounced (status : Option BookingStatus) (events : List Event) : CreatePc → Prop
  | .reject => (tally events).2 = 0
  | .raised => status = some .rejected ∧ (tally events).2 = 0
  | _ => False

@[simp] theorem tally_append (first second : List Event) :
    tally (first ++ second) =
      ((tally first).1 + (tally second).1, (tally first).2 + (tally second).2) := by
  simp [tally]

@[simp] theorem tally_confirmedEvent (run : CreateRun) (id : BookingId) :
    tally [run.confirmedEvent id] = (1, 0) := rfl

@[simp] theorem tally_failedEvent (run : CreateRun) (id : BookingId) :
    tally [run.failedEvent id] = (0, 1) := rfl

@[simp] theorem tally_nil : tally [] = (0, 0) := rfl

section

variable {deployment : Deployment} {id : BookingId} {run : CreateRun} {answer : Answer}
  {outcome : Outcome} {rows : BookingRows} {events : List Event}

theorem status?_rejection (stored : run.persistent = true → rows.booking ≠ none) :
    (run.rejection.onRows id rows).status? = some .rejected := by
  by_cases persistent : run.persistent = true
  · obtain ⟨row, found⟩ := Option.ne_none_iff_exists'.mp (stored persistent)
    simp [CreateRun.rejection, persistent, Transaction.onRows, BookingRows.setStatus,
      BookingRows.status?, found]
  · simp [CreateRun.rejection, persistent, Transaction.onRows, BookingRows.status?,
      BookingDraft.booking]

theorem status?_confirm {minutes : Nat} (stored : rows.booking ≠ none) :
    ((Transaction.confirm minutes).onRows id rows).status? = some .confirmed := by
  obtain ⟨row, found⟩ := Option.ne_none_iff_exists'.mp stored
  simp [Transaction.onRows, BookingRows.status?, found]

theorem Aligned.advance (moved : TrafficService.advance deployment id run answer = some outcome)
    (early : CreatePc.early run.pc = true → rows.status? = none)
    (stored : run.persistent = true → rows.booking ≠ none)
    (confirming : CreatePc.confirming run.pc = true → run.persistent = true)
    (smooth : CreatePc.smooth answer run.pc = true)
    (aligned : Aligned rows.status? events run.pc) :
    if CreatePc.covered answer run.pc = true then
      Aligned (Outcome.rowsAfter outcome id rows).status?
        (events ++ outcome.published) outcome.run.pc
    else Unannounced (Outcome.rowsAfter outcome id rows).status?
      (events ++ outcome.published) outcome.run.pc := by
  have rejected := @status?_rejection id run rows stored
  revert moved
  fun_cases TrafficService.advance deployment id run answer
  all_goals
    intro moved
    cases moved
  all_goals
    simp_all [Aligned, Unannounced, CreatePc.covered, CreatePc.smooth, CreatePc.early,
      CreatePc.confirming, Answer.isOk, Answer.isRoute, Outcome.rowsAfter, status?_confirm]

theorem Unannounced.advance (moved : TrafficService.advance deployment id run answer = some outcome)
    (stored : run.persistent = true → rows.booking ≠ none)
    (smooth : CreatePc.smooth answer run.pc = true)
    (unannounced : Unannounced rows.status? events run.pc) :
    Unannounced (Outcome.rowsAfter outcome id rows).status? (events ++ outcome.published)
      outcome.run.pc := by
  have rejected := @status?_rejection id run rows stored
  revert moved
  fun_cases TrafficService.advance deployment id run answer
  all_goals
    intro moved
    cases moved
  all_goals
    simp_all [Unannounced, CreatePc.smooth, Answer.isOk, Outcome.rowsAfter]

end

/-! ### Whole runs -/

section

variable {deployment : Deployment} {state next : State} {action : Action} {id : BookingId}

theorem undisturbed_silent (calm : undisturbed id state action = true) :
    ¬Announces state action id := by
  rintro ⟨vm, transaction, source, announced⟩
  cases source with
  | serveReserve target id driverId segment sent => exact nomatch announced
  | serveRelease target id sent => exact nomatch announced
  | cancel vm id driverId published booking found uncancelled => simp [undisturbed] at calm
  | orphan passId now published pass row rest found here clear =>
      simp [undisturbed, found, here] at calm
  | dangling passId now published pass row rest found here =>
      simp [undisturbed, found, here] at calm
  | lingering passId now published pass schema id rest schemas found here => exact nomatch announced

theorem External.keeps_booking {vm : Vm} {transaction : Transaction}
    (source : External state action vm id transaction)
    (silent : transaction.announced = false) (rows : BookingRows) :
    (transaction.onRows id rows).booking = rows.booking := by
  cases source with
  | serveReserve target id driverId segment sent => rfl
  | serveRelease target id sent => rfl
  | lingering passId now published pass schema id rest schemas found here => rfl
  | _ => exact nomatch silent

def Follows (good : Option BookingStatus → List Event → CreatePc → Prop) (id : BookingId)
    (state : State) : Prop :=
  ∃ run, state.runs id = some run ∧ good (state.rows run.vm id).status? (state.published id) run.pc

def OnCourse (id : BookingId) (state : State) : Prop :=
  (state.runs id = none ∧ tally (state.published id) = (0, 0)) ∨ Follows Aligned id state

theorem undisturbed_step {run : CreateRun} (inv : Inv deployment state)
    (calm : undisturbed id state action = true)
    (stepped : step deployment state action = some next) (found : state.runs id = some run) :
    (∃ answer outcome, (action = .advance id answer ∨ run.pc.waits = true) ∧
      advance deployment id run answer = some outcome ∧ next.runs id = some outcome.run ∧
      next.rows run.vm id = Outcome.rowsAfter outcome id (state.rows run.vm id) ∧
      next.published id = state.published id ++ outcome.published) ∨
    (next.runs id = some run ∧ (next.rows run.vm id).booking = (state.rows run.vm id).booking ∧
      next.published id = state.published id) := by
  have silent := undisturbed_silent calm
  obtain ⟨after, foundAfter, _, ownerStep⟩ := inv.owner_step stepped found
  generalize rowsAfter : next.rows run.vm id = rows at ownerStep
  cases ownerStep with
  | unchanged events => exact .inr ⟨foundAfter, rfl, events silent⟩
  | crashed isCrash running events =>
      subst isCrash
      simp [undisturbed] at calm
  | advanced answer outcome source moved inserted events =>
      exact .inl ⟨answer, outcome, source, moved, foundAfter, rfl, events⟩
  | external transaction source updates events =>
      refine .inr ⟨foundAfter, source.keeps_booking ?_ _, events silent⟩
      by_contra announced
      exact silent ⟨run.vm, transaction, source, by simpa using announced⟩

theorem advance_moves {run : CreateRun} {answer : Answer} {outcome : Outcome}
    (moved : advance deployment id run answer = some outcome) : outcome.run ≠ run := by
  have pc : outcome.run.pc ≠ run.pc := by
    revert moved
    fun_cases advance deployment id run answer
    all_goals
      intro moved
      cases moved
    all_goals simp_all
  exact fun same => pc (congrArg CreateRun.pc same)

/-- A step that leaves the request where it is answers none of its awaits. -/
theorem covered_of_idle {run : CreateRun}
    (stepped : step deployment state action = some next) (found : state.runs id = some run)
    (idle : next.runs id = some run) : failsInsideSaga id state action = true := by
  cases action with
  | advance other answer =>
      by_cases own : other = id
      · subst own
        simp only [step] at stepped
        split at stepped
        · cases stepped
        · obtain ⟨before, known, advanced⟩ := Option.bind_eq_some_iff.mp stepped
          cases known.symm.trans found
          obtain ⟨outcome, moved, applied⟩ := Option.bind_eq_some_iff.mp advanced
          have after := (applyOutcome_effect applied).1
          rw [after, Function.update_self, Option.some_inj] at idle
          exact absurd idle (advance_moves moved)
      · simp [failsInsideSaga, own]
  | _ => rfl

theorem smooth_of_undisturbed {run : CreateRun} {answer : Answer}
    (calm : undisturbed id state action = true) (found : state.runs id = some run)
    (source : action = .advance id answer ∨ run.pc.waits = true) :
    CreatePc.smooth answer run.pc = true := by
  rcases source with rfl | waits
  · simpa [undisturbed, found] using calm
  · cases pc : run.pc <;> simp_all [CreatePc.waits, CreatePc.smooth]

theorem covered_iff {run : CreateRun} {answer : Answer} (found : state.runs id = some run)
    (source : action = .advance id answer ∨ run.pc.waits = true) :
    failsInsideSaga id state action = true ↔ CreatePc.covered answer run.pc = true := by
  rcases source with rfl | waits
  · simp [failsInsideSaga, found]
  · have always (answer : Answer) : CreatePc.covered answer run.pc = true := by
      cases pc : run.pc <;> simp_all [CreatePc.waits, CreatePc.covered]
    simp only [always, iff_true]
    cases action with
    | advance other answer => simp [failsInsideSaga, found, always]
    | _ => rfl

theorem OnCourse.step (course : OnCourse id state) (inv : Inv deployment state)
    (calm : undisturbed id state action = true)
    (stepped : Cluster.step deployment state action = some next) :
    if failsInsideSaga id state action = true then OnCourse id next
    else Follows Unannounced id next := by
  rcases course with ⟨unborn, silent⟩ | ⟨run, found, aligned⟩
  · have covered : failsInsideSaga id state action = true := by
      cases action <;> simp [failsInsideSaga, unborn]
    rw [if_pos covered]
    cases step_effect stepped id with
    | unchanged runs rows events => exact .inl ⟨runs.trans unborn, events ▸ silent⟩
    | begun vm draft isBegin fresh runs rows events =>
        exact .inr ⟨_, runs, by rw [events]; exact silent⟩
    | crashed run isCrash found running runs rows events => exact nomatch unborn.symm.trans found
    | advanced run answer outcome source found moved runs rows inserted events =>
        exact nomatch unborn.symm.trans found
    | external vm transaction source runs rows events =>
        refine .inl ⟨runs.trans unborn, ?_⟩
        rw [events]
        · exact silent
        · by_contra announced
          exact undisturbed_silent calm ⟨vm, transaction, source, by simpa using announced⟩
  · have booking := inv.booking id run found
    rcases undisturbed_step inv calm stepped found with
      ⟨answer, outcome, source, moved, foundAfter, rows, events⟩ | ⟨foundAfter, kept, events⟩
    · have sameVm := (advance_keeps moved).1
      have early (now : CreatePc.early run.pc = true) : (state.rows run.vm id).status? = none := by
        have empty := booking.early now
        rw [empty]
        rfl
      have after := aligned.advance moved early booking.stored booking.confirming
        (smooth_of_undisturbed calm found source)
      rw [← rows, ← events, ← sameVm] at after
      by_cases covered : failsInsideSaga id state action = true
      · rw [if_pos ((covered_iff found source).mp covered)] at after
        rw [if_pos covered]
        exact .inr ⟨outcome.run, foundAfter, after⟩
      · rw [if_neg (fun now => covered ((covered_iff found source).mpr now))] at after
        rw [if_neg covered]
        exact ⟨outcome.run, foundAfter, after⟩
    · rw [if_pos (covered_of_idle stepped found foundAfter)]
      refine .inr ⟨run, foundAfter, ?_⟩
      rwa [events, BookingRows.status?, kept]

theorem Unannounced.step (off : Follows Unannounced id state) (inv : Inv deployment state)
    (calm : undisturbed id state action = true)
    (stepped : Cluster.step deployment state action = some next) :
    Follows Unannounced id next := by
  obtain ⟨run, found, unannounced⟩ := off
  rcases undisturbed_step inv calm stepped found with
    ⟨answer, outcome, source, moved, foundAfter, rows, events⟩ | ⟨foundAfter, kept, events⟩
  · have sameVm := (advance_keeps moved).1
    have after := unannounced.advance moved (inv.booking id run found).stored
      (smooth_of_undisturbed calm found source)
    rw [← rows, ← events, ← sameVm] at after
    exact ⟨outcome.run, foundAfter, after⟩
  · refine ⟨run, foundAfter, ?_⟩
    rwa [events, BookingRows.status?, kept]

/-- A run keeps its course up to the first failure outside the saga, and never regains it. -/
theorem OnCourse.run {actions : List Action} {start finish : State} (course : OnCourse id start)
    (inv : Inv deployment start)
    (executed : Lts.run (Cluster.step deployment) start actions = some finish)
    (calm : Lts.Meets (Cluster.step deployment)
      (fun state action => undisturbed id state action = true) start actions) :
    OnCourse id finish ∧ Lts.Meets (Cluster.step deployment)
        (fun state action => failsInsideSaga id state action = true) start actions ∨
      Follows Unannounced id finish ∧ ¬Lts.Meets (Cluster.step deployment)
        (fun state action => failsInsideSaga id state action = true) start actions := by
  induction actions generalizing start with
  | nil =>
      cases executed
      exact .inl ⟨course, trivial⟩
  | cons action rest ih =>
      obtain ⟨middle, stepped, remaining⟩ := Lts.run_cons_eq_some.mp executed
      have after := course.step inv calm.1 stepped
      by_cases covered : failsInsideSaga id start action = true
      · rw [if_pos covered] at after
        rcases ih after (inv.step stepped) remaining (calm.2 middle stepped) with
          ⟨finished, met⟩ | ⟨finished, failed⟩
        · refine .inl ⟨finished, covered, ?_⟩
          rintro next same
          cases stepped.symm.trans same
          exact met
        · exact .inr ⟨finished, fun met => failed (met.2 middle stepped)⟩
      · rw [if_neg covered] at after
        refine .inr ⟨?_, fun met => covered met.1⟩
        have kept : Inv deployment finish ∧ Follows Unannounced id finish :=
          @Lts.run_invariant _ _ (Cluster.step deployment)
            (fun state action => undisturbed id state action = true)
            (fun state => Inv deployment state ∧ Follows Unannounced id state)
            (fun _ _ _ held calm stepped =>
              ⟨held.1.step stepped, Unannounced.step held.2 held.1 calm stepped⟩)
            middle finish rest ⟨inv.step stepped, after⟩ remaining (calm.2 middle stepped)
        exact kept.2

/-- When an undisturbed request has ended, its events agree with the status it left if and
only if every failure was one the saga's handler announces. -/
theorem eventsAgree_iff_failsInsideSaga
    {capacity : Vm → RegionSchema → SegmentId → Option Nat}
    {users : Vm → DriverId → Option (Option Plate)} {actions : List Action} {finish : State}
    {run : CreateRun}
    (executed : Lts.run (Cluster.step deployment) (.initial capacity users) actions = some finish)
    (calm : Lts.Meets (Cluster.step deployment)
      (fun state action => undisturbed id state action = true) (.initial capacity users) actions)
    (found : finish.runs id = some run) (ended : run.pc.ended = true) :
    EventsAgree ((finish.db run.vm).status? id) (finish.published id) ↔
      Lts.Meets (Cluster.step deployment)
        (fun state action => failsInsideSaga id state action = true) (.initial capacity users)
        actions := by
  have started : OnCourse id (.initial capacity users) := .inl ⟨rfl, rfl⟩
  rcases started.run (inv_initial capacity users) executed calm with
    ⟨course, met⟩ | ⟨⟨other, known, unannounced⟩, failed⟩
  · refine iff_of_true ?_ met
    rcases course with ⟨unborn, _⟩ | ⟨other, known, aligned⟩
    · exact nomatch unborn.symm.trans found
    · cases known.symm.trans found
      have status : (finish.rows run.vm id).status? = (finish.db run.vm).status? id := rfl
      rw [status] at aligned
      cases pc : run.pc <;> simp_all [CreatePc.ended, Aligned, EventsAgree]
      rcases aligned with absent | ⟨rejected, told⟩
      · simp [absent]
      · simp [rejected, told]
  · refine iff_of_false ?_ failed
    cases known.symm.trans found
    have status : (finish.rows run.vm id).status? = (finish.db run.vm).status? id := rfl
    rw [status] at unannounced
    intro agree
    cases pc : run.pc <;> simp_all [CreatePc.ended, Unannounced, EventsAgree]

end

/-! ### A booking that goes through, and one whose route cannot be resolved -/

def leaves (state : State) : Option (Vm × Bool) × Option BookingStatus × Nat × Nat :=
  ((state.runs 10).map fun run => (run.vm, run.pc.ended), (state.db .vm1).status? 10,
    tally (state.published 10))

def unresolvedRoute : List Action :=
  [.createBooking .vm1 10 request, .advance 10 .ok, .advance 10 .raise, .advance 10 .ok]

theorem eventsAgree_bookAsFar :
    ∃ (state : State) (run : CreateRun),
      Lts.run (step singleVm) emptyState (bookAsFar 10 5) = some state ∧
      leaves state = (some (.vm1, true), some .confirmed, 1, 0) ∧
      (EventsAgree ((state.db run.vm).status? 10) (state.published 10) ↔
        Lts.Meets (step singleVm) (fun state action => failsInsideSaga 10 state action = true)
          emptyState (bookAsFar 10 5)) := by
  have observed : (Lts.run (step singleVm) emptyState (bookAsFar 10 5)).map leaves =
      some (some (.vm1, true), some .confirmed, 1, 0) := by decide
  obtain ⟨state, executed, outcome⟩ := Option.map_eq_some_iff.mp observed
  have checked : Lts.checks (step singleVm) (undisturbed 10) emptyState (bookAsFar 10 5) = true := by
    decide
  obtain ⟨run, found, ended⟩ := Option.map_eq_some_iff.mp (congrArg Prod.fst outcome)
  refine ⟨state, run, executed, outcome, ?_⟩
  exact eventsAgree_iff_failsInsideSaga executed (Lts.checks_iff_meets.mp checked)
    found (congrArg Prod.snd ended)

/-- REJECTED, and nobody is told. -/
theorem unannounced_unresolvedRoute :
    ¬ ∀ (deployment : Deployment) (capacity : Vm → RegionSchema → SegmentId → Option Nat)
      (users : Vm → DriverId → Option (Option Plate)) (actions : List Action) (finish : State)
      (id : BookingId) (run : CreateRun),
      Lts.run (step deployment) (.initial capacity users) actions = some finish →
      Lts.Meets (step deployment) (fun state action => undisturbed id state action = true)
        (.initial capacity users) actions →
      finish.runs id = some run → run.pc.ended = true →
      EventsAgree ((finish.db run.vm).status? id) (finish.published id) := by
  intro holds
  have observed : (Lts.run (step singleVm) emptyState unresolvedRoute).map leaves =
      some (some (.vm1, true), some .rejected, 0, 0) := by decide
  obtain ⟨state, executed, outcome⟩ := Option.map_eq_some_iff.mp observed
  have checked : Lts.checks (step singleVm) (undisturbed 10) emptyState unresolvedRoute = true := by
    decide
  obtain ⟨run, found, ended⟩ := Option.map_eq_some_iff.mp (congrArg Prod.fst outcome)
  have agree := holds singleVm _ _ unresolvedRoute state 10 run executed
    (Lts.checks_iff_meets.mp checked) found (congrArg Prod.snd ended)
  have here : run.vm = .vm1 := congrArg Prod.fst ended
  have status : (state.db .vm1).status? 10 = some .rejected :=
    congrArg (fun left => left.2.1) outcome
  have silent : tally (state.published 10) = (0, 0) := congrArg (fun left => left.2.2) outcome
  rw [here] at agree
  have told := agree.2 status
  rw [silent] at told
  exact nomatch told

end Cluster

end TrafficService
