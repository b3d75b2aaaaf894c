import TrafficService.SagaAtomicity
import TrafficService.WholeCalls
import TrafficService.Admission

/-!
The saga with its session is a run of the two booking services: the session stays unseen until the
commit, and that commit is the one transaction the services' model makes of it.
-/

namespace TrafficService.LocalSaga

open Cluster

section

variable (id : BookingId) (draft : BookingDraft) (before flushed : Database)

structure Pending (saga : Saga) (run : CreateRun) (stored : List RouteSegment) : Prop where
  tables : saga.tables = before
  session : saga.session = storeSegments flushed id draft.driverId stored
  reserved : run.reserved = saga.reserved

/-- Where the request stands in the services' model. Inside the lock it has not moved yet. -/
def Stands (saga : Saga) (run : CreateRun) : Prop :=
  match saga.pc with
  | .lock segment todo | .check segment todo | .insert segment todo | .unlock true segment todo =>
      run.pc = .reserve (segment :: todo) ∧ Pending id draft before flushed saga run saga.reserved
  | .unlock false segment todo => run.pc = .reserve (segment :: todo) ∧
      Pending id draft before flushed saga run (saga.reserved ++ [segment])
  | .commit =>
      run.pc = .reserve [] ∧ Pending id draft before flushed saga run saga.reserved
  | .rollback => run.pc = .rollback ∧ run.reserved = saga.reserved ∧
      saga.session.insertBooking (draft.booking id .rejected) = none
  | .release segment todo => run.pc = .compensate (segment :: todo) ∧ saga.session = saga.tables
  | .publishFailed => run.pc = .compensate [] ∧ saga.session = saga.tables
  | .reject => run.pc = .reject ∧ (saga.session = saga.tables ∨
      saga.session.insertBooking (draft.booking id .rejected) = none)
  | .raised => run.pc = .raised
  | .stored => run.pc = .publishConfirmed

structure Represents (vm : Vm) (saga : Saga) (run : CreateRun) : Prop where
  place : run.vm = vm
  drafted : run.draft = draft
  transient : saga.pc ≠ .stored → run.persistent = false
  stands : Stands id draft before flushed saga run

end

section

variable {id : BookingId} {draft : BookingDraft} {before flushed : Database} {saga next : Saga}
  {answered : Bool} {state : Cluster.State} {vm : Vm} {db : Tables} {run : CreateRun}
  {events : List Event}

theorem insertBooking_pending {stored : List RouteSegment}
    (inserted : before.insertBooking (draft.booking id .sagaInProgress) = some flushed)
    (pending : Pending id draft before flushed saga run stored) :
    saga.session.insertBooking (draft.booking id .rejected) = none := by
  have own : (flushed.rowsOf id).booking = some (draft.booking id .sagaInProgress) := by
    rw [rowsOf_insertDraft inserted, if_pos rfl]
  have kept : ((storeSegments flushed id draft.driverId stored).rowsOf id).booking =
      (flushed.rowsOf id).booking := by
    rw [rowsOf_storeSegments, if_pos rfl]
    rfl
  rw [Database.insertBooking_eq_none, pending.session]
  intro absent
  cases absent.symm.trans (kept.trans own)

def Follows (id : BookingId) (draft : BookingDraft) (before flushed : Database)
    (state : Cluster.State) (vm : Vm) (saga next : Saga) (run : CreateRun) : Prop :=
  ∀ (db : Tables) (events : List Event), ∃ after more,
    Lts.Reachable (Cluster.step singleVm)
      (state.serving id (Function.update db vm saga.tables) run events)
      (state.serving id (Function.update db vm next.tables) after (events ++ more)) ∧
    Represents id draft before flushed vm next after

/-- Nothing that the services' model shows has happened. -/
theorem Follows.still (tables : next.tables = saga.tables)
    (represents : Represents id draft before flushed vm next run) :
    Follows id draft before flushed state vm saga next run := by
  intro db events
  refine ⟨run, [], ?_, represents⟩
  rw [tables, List.append_nil]
  exact .refl _

/-- The request is answered, and commits nothing. -/
theorem Follows.awaited {answer : Answer} {outcome : Outcome} (tables : next.tables = saga.tables)
    (own : answer.fromPeer = false) (moved : advance singleVm id run answer = some outcome)
    (silent : outcome.sent = []) (reads : outcome.transaction = none)
    (represents : Represents id draft before flushed vm next outcome.run) :
    Follows id draft before flushed state vm saga next run := by
  intro db events
  refine ⟨outcome.run, outcome.published, ?_, represents⟩
  refine reaches_advance own moved silent ?_
  rw [reads, tables]
  rfl

theorem Follows.commits {answer : Answer} {outcome : Outcome} {transaction : Transaction}
    (own : answer.fromPeer = false) (moved : advance singleVm id run answer = some outcome)
    (silent : outcome.sent = []) (writes : outcome.transaction = some transaction)
    (applied : transaction.apply id saga.tables = some next.tables)
    (represents : Represents id draft before flushed vm next outcome.run) :
    Follows id draft before flushed state vm saga next run := by
  intro db events
  refine ⟨outcome.run, outcome.published, ?_, represents⟩
  refine reaches_advance own moved silent ?_
  rw [writes, represents.place]
  simp [committed, applied]

/-- An exception inside the saga's `try`. -/
theorem Follows.rollback {segment : RouteSegment} {todo stored : List RouteSegment}
    (inserted : before.insertBooking (draft.booking id .sagaInProgress) = some flushed)
    (represents : Represents id draft before flushed vm saga run)
    (running : saga.pc ≠ .stored) (here : run.pc = .reserve (segment :: todo))
    (pending : Pending id draft before flushed saga run stored) :
    Follows id draft before flushed state vm saga { saga with pc := .rollback } run := by
  have moved : advance singleVm id run .raise = some (run.goto .rollback) := by
    cases run
    cases here
    rfl
  have refused := insertBooking_pending inserted pending
  refine .awaited rfl rfl moved rfl rfl ?_
  exact ⟨represents.place, represents.drafted, fun _ => represents.transient running, rfl,
    pending.reserved, refused⟩

/-- Another await of the same critical section. -/
theorem Follows.inside {pc : Pc} (represents : Represents id draft before flushed vm saga run)
    (running : saga.pc ≠ .stored) (stands : Stands id draft before flushed { saga with pc } run) :
    Follows id draft before flushed state vm saga { saga with pc } run :=
  .still rfl ⟨represents.place, represents.drafted, fun _ => represents.transient running, stands⟩

theorem Pending.goto {stored : List RouteSegment}
    (pending : Pending id draft before flushed saga run stored) (pc : Pc) :
    Pending id draft before flushed { saga with pc } run stored :=
  ⟨pending.tables, pending.session, pending.reserved⟩

theorem storeSegments_append (db : Database) (driverId : DriverId) (stored : List RouteSegment)
    (segment : RouteSegment) :
    storeSegments db id driverId (stored ++ [segment]) =
      storeSegment (storeSegments db id driverId stored) id driverId segment := by
  rw [storeSegments, storeSegments, List.foldl_append]
  rfl

theorem Represents.check {segment : RouteSegment} {todo : List RouteSegment}
    (represents : Represents id draft before flushed vm saga run)
    (at_ : saga.pc = .check segment todo)
    (stepped : LocalSaga.step id draft saga answered = some next) :
    Follows id draft before flushed state vm saga next run := by
  have running : saga.pc ≠ .stored := by simp [at_]
  have stands := represents.stands
  simp only [Stands, at_] at stands
  obtain ⟨here, pending⟩ := stands
  have refuses : Follows id draft before flushed state vm saga
      { saga with pc := .unlock true segment todo } run :=
    .inside represents running ⟨here, pending.goto _⟩
  have admits : Follows id draft before flushed state vm saga
      { saga with pc := .insert segment todo } run :=
    .inside represents running ⟨here, pending.goto _⟩
  simp only [LocalSaga.step, at_] at stepped
  split at stepped
  · split at stepped
    · cases stepped
      exact admits
    · split at stepped
      · cases stepped
        exact refuses
      · cases stepped
        exact admits
  · cases stepped
    exact refuses

theorem Represents.insert {segment : RouteSegment} {todo : List RouteSegment}
    (represents : Represents id draft before flushed vm saga run)
    (at_ : saga.pc = .insert segment todo)
    (stepped : LocalSaga.step id draft saga answered = some next) :
    Follows id draft before flushed state vm saga next run := by
  have running : saga.pc ≠ .stored := by simp [at_]
  have stands := represents.stands
  simp only [Stands, at_] at stands
  obtain ⟨here, pending⟩ := stands
  have refuses : Follows id draft before flushed state vm saga
      { saga with pc := .unlock true segment todo } run :=
    .inside represents running ⟨here, pending.goto _⟩
  simp only [LocalSaga.step, at_] at stepped
  split at stepped
  · split at stepped
    · cases stepped
      exact refuses
    · rename_i session reserved
      cases stepped
      refine .still rfl ⟨represents.place, represents.drafted,
        fun _ => represents.transient running, here, pending.tables, ?_, pending.reserved⟩
      rw [storeSegments_append, ← pending.session]
      simp only [reserveSegment] at reserved
      split at reserved
      · cases reserved
      · cases reserved
        rfl
  · cases stepped
    exact refuses

theorem Represents.unlock {raising : Bool} {segment : RouteSegment} {todo : List RouteSegment}
    (inserted : before.insertBooking (draft.booking id .sagaInProgress) = some flushed)
    (represents : Represents id draft before flushed vm saga run)
    (at_ : saga.pc = .unlock raising segment todo)
    (stepped : LocalSaga.step id draft saga answered = some next) :
    Follows id draft before flushed state vm saga next run := by
  have running : saga.pc ≠ .stored := by simp [at_]
  have stands := represents.stands
  simp only [LocalSaga.step, at_] at stepped
  cases raising with
  | true =>
      simp only [Stands, at_] at stands
      obtain ⟨here, pending⟩ := stands
      simp only [Bool.not_true, Bool.and_false, Bool.false_eq_true, if_false, Option.some_inj]
        at stepped
      subst stepped
      exact .rollback inserted represents running here pending
  | false =>
      simp only [Stands, at_] at stands
      obtain ⟨here, pending⟩ := stands
      split at stepped
      · cases stepped
        have moved : advance singleVm id run .ok = some
            (CreateRun.goto { run with reserved := run.reserved ++ [segment] } (.reserve todo)) := by
          cases run
          cases here
          rfl
        refine .awaited rfl rfl moved rfl rfl ?_
        refine ⟨represents.place, represents.drafted, fun _ => represents.transient running, ?_⟩
        have reserved : run.reserved ++ [segment] = saga.reserved ++ [segment] := by
          rw [pending.reserved]
        cases todo <;> exact ⟨rfl, pending.tables, pending.session, reserved⟩
      · cases stepped
        exact .rollback inserted represents running here pending

theorem Represents.commit
    (inserted : before.insertBooking (draft.booking id .sagaInProgress) = some flushed)
    (represents : Represents id draft before flushed vm saga run) (at_ : saga.pc = .commit)
    (stepped : LocalSaga.step id draft saga answered = some next) :
    Follows id draft before flushed state vm saga next run := by
  have running : saga.pc ≠ .stored := by simp [at_]
  have stands := represents.stands
  simp only [Stands, at_] at stands
  obtain ⟨here, pending⟩ := stands
  simp only [LocalSaga.step, at_] at stepped
  split at stepped
  · cases stepped
    have moved : advance singleVm id run .ok = some ((CreateRun.goto { run with persistent := true }
        .publishConfirmed).commits (run.store singleVm)) := by
      cases run
      cases here
      rfl
    refine .commits rfl moved rfl rfl ?_ ⟨represents.place, represents.drafted, by simp, rfl⟩
    have local_ : run.localReserved singleVm = run.reserved :=
      List.filter_eq_self.mpr fun _ _ => rfl
    rw [CreateRun.store, local_, represents.drafted, pending.reserved, pending.tables,
      pending.session]
    simp only [Transaction.apply, inserted, Option.map_some]
  · cases stepped
    have moved : advance singleVm id run .raise = some (run.goto .rollback) := by
      cases run
      cases here
      rfl
    have refused := insertBooking_pending inserted pending
    refine .awaited rfl rfl moved rfl rfl ?_
    exact ⟨represents.place, represents.drafted, fun _ => represents.transient running, rfl,
      pending.reserved, refused⟩

theorem Represents.rollback (represents : Represents id draft before flushed vm saga run)
    (at_ : saga.pc = .rollback) (stepped : LocalSaga.step id draft saga answered = some next) :
    Follows id draft before flushed state vm saga next run := by
  have running : saga.pc ≠ .stored := by simp [at_]
  have stands := represents.stands
  simp only [Stands, at_] at stands
  obtain ⟨here, reserved, refused⟩ := stands
  simp only [LocalSaga.step, at_] at stepped
  split at stepped
  · cases stepped
    have moved : advance singleVm id run .ok =
        some (run.goto (.compensate (run.localReserved singleVm))) := by
      cases run
      cases here
      rfl
    have local_ : run.localReserved singleVm = saga.reserved := by
      rw [← reserved]
      exact List.filter_eq_self.mpr fun _ _ => rfl
    refine .awaited rfl rfl moved rfl rfl ?_
    refine ⟨represents.place, represents.drafted, fun _ => represents.transient running, ?_⟩
    rw [local_]
    cases saga.reserved <;> exact ⟨rfl, rfl⟩
  · cases stepped
    have moved : advance singleVm id run .raise = some (run.goto .reject) := by
      cases run
      cases here
      rfl
    refine .awaited rfl rfl moved rfl rfl ?_
    exact ⟨represents.place, represents.drafted, fun _ => represents.transient running, rfl,
      .inr refused⟩

theorem Represents.release {segment : RouteSegment} {todo : List RouteSegment}
    (represents : Represents id draft before flushed vm saga run)
    (at_ : saga.pc = .release segment todo)
    (stepped : LocalSaga.step id draft saga answered = some next) :
    Follows id draft before flushed state vm saga next run := by
  have running : saga.pc ≠ .stored := by simp [at_]
  have stands := represents.stands
  simp only [Stands, at_] at stands
  obtain ⟨here, clean⟩ := stands
  simp only [LocalSaga.step, at_] at stepped
  split at stepped
  · cases stepped
    have moved : advance singleVm id run .ok =
        some ((run.goto (.compensate todo)).commits (.release segment.schema)) := by
      cases run
      cases here
      rfl
    refine .commits rfl moved rfl rfl (by rw [clean]; rfl) ?_
    refine ⟨represents.place, represents.drafted, fun _ => represents.transient running, ?_⟩
    cases todo <;> exact ⟨rfl, rfl⟩
  · cases stepped
    have moved : advance singleVm id run .raise = some (run.goto (.compensate todo)) := by
      cases run
      cases here
      rfl
    refine .awaited rfl rfl moved rfl rfl ?_
    refine ⟨represents.place, represents.drafted, fun _ => represents.transient running, ?_⟩
    cases todo <;> exact ⟨rfl, clean⟩

/-- There is no peer to release at. -/
theorem advance_compensated (here : run.pc = .compensate []) :
    advance singleVm id run .ok = some (run.goto .publishFailed) := by
  obtain ⟨vm, draft, route, reserved, peerReserved, unavailable, persistent, pc⟩ := run
  cases here
  cases peerReserved <;> rfl

theorem Represents.publishFailed (represents : Represents id draft before flushed vm saga run)
    (at_ : saga.pc = .publishFailed) (stepped : LocalSaga.step id draft saga answered = some next) :
    Follows id draft before flushed state vm saga next run := by
  have running : saga.pc ≠ .stored := by simp [at_]
  have stands := represents.stands
  simp only [Stands, at_] at stands
  obtain ⟨here, clean⟩ := stands
  simp only [LocalSaga.step, at_, Option.some_inj] at stepped
  subst stepped
  have publishes : advance singleVm id { run with pc := .publishFailed } .ok =
      some ((CreateRun.goto { run with pc := .publishFailed } .reject).publishes
        (run.failedEvent id)) := rfl
  intro db events
  refine ⟨{ run with pc := .reject }, [run.failedEvent id], ?_, represents.place,
    represents.drafted, fun _ => represents.transient running, rfl, .inl clean⟩
  have released := @reaches_advance singleVm state id (Function.update db vm saga.tables) _ _ _ _
    events rfl (advance_compensated here) rfl rfl
  have published := @reaches_advance singleVm state id (Function.update db vm saga.tables) _ _ _ _
    events rfl publishes rfl rfl
  simp only [CreateRun.goto, List.append_nil] at released
  exact released.trans published

theorem Represents.reject (represents : Represents id draft before flushed vm saga run)
    (at_ : saga.pc = .reject) (stepped : LocalSaga.step id draft saga answered = some next) :
    Follows id draft before flushed state vm saga next run := by
  have running : saga.pc ≠ .stored := by simp [at_]
  have stands := represents.stands
  simp only [Stands, at_] at stands
  obtain ⟨here, clean⟩ := stands
  have fails : Follows id draft before flushed state vm saga { saga with pc := .raised } run := by
    have moved : advance singleVm id run .raise = some (run.goto .raised) := by
      cases run
      cases here
      rfl
    refine .awaited rfl rfl moved rfl rfl ?_
    exact ⟨represents.place, represents.drafted, fun _ => represents.transient running, rfl⟩
  simp only [LocalSaga.step, at_] at stepped
  split at stepped
  · split at stepped
    · cases stepped
      exact fails
    · rename_i session stored
      cases stepped
      have same := clean.resolve_right (by simp [stored])
      have moved : advance singleVm id run .ok = some ((run.goto .raised).commits run.rejection) := by
        cases run
        cases here
        rfl
      have inserts : run.rejection = .insertRejected draft := by
        rw [CreateRun.rejection, represents.transient running, represents.drafted]
        rfl
      refine .commits rfl moved rfl rfl ?_
        ⟨represents.place, represents.drafted, fun _ => represents.transient running, rfl⟩
      rw [inserts, ← same]
      exact stored
  · cases stepped
    exact fails

theorem Represents.lock {segment : RouteSegment} {todo : List RouteSegment}
    (inserted : before.insertBooking (draft.booking id .sagaInProgress) = some flushed)
    (represents : Represents id draft before flushed vm saga run)
    (at_ : saga.pc = .lock segment todo)
    (stepped : LocalSaga.step id draft saga answered = some next) :
    Follows id draft before flushed state vm saga next run := by
  have running : saga.pc ≠ .stored := by simp [at_]
  have stands := represents.stands
  simp only [Stands, at_] at stands
  obtain ⟨here, pending⟩ := stands
  simp only [LocalSaga.step, at_, Option.some_inj] at stepped
  subst stepped
  cases answered with
  | true => exact .inside represents running ⟨here, pending.goto _⟩
  | false => exact .rollback inserted represents running here pending

theorem Represents.step
    (inserted : before.insertBooking (draft.booking id .sagaInProgress) = some flushed)
    (represents : Represents id draft before flushed vm saga run)
    (stepped : LocalSaga.step id draft saga answered = some next) :
    Follows id draft before flushed state vm saga next run := by
  cases at_ : saga.pc with
  | lock segment todo => exact represents.lock inserted at_ stepped
  | check segment todo => exact represents.check at_ stepped
  | insert segment todo => exact represents.insert at_ stepped
  | unlock raising segment todo => exact represents.unlock inserted at_ stepped
  | commit => exact represents.commit inserted at_ stepped
  | rollback => exact represents.rollback at_ stepped
  | release segment todo => exact represents.release at_ stepped
  | publishFailed => exact represents.publishFailed at_ stepped
  | reject => exact represents.reject at_ stepped
  | raised => simp [LocalSaga.step, at_] at stepped
  | stored => simp [LocalSaga.step, at_] at stepped

theorem represents_start (request : BookingRequest) (db : Database) (route : Route)
    (inserted : db.insertBooking ((request.draft db).booking id .sagaInProgress) = some flushed) :
    Represents id (request.draft db) db flushed vm (.start id (request.draft db) db route)
      ((routed vm (request.draft db) route .flush).goto (.reserve route.segments)).run := by
  have session : (Saga.start id (request.draft db) db route).session = flushed := by
    rw [Saga.start, inserted]
    rfl
  refine ⟨rfl, rfl, fun _ => rfl, ?_⟩
  rw [Saga.start] at session ⊢
  cases route.segments <;> exact ⟨rfl, rfl, session, rfl⟩

def Tracks (id : BookingId) (draft : BookingDraft) (before flushed : Database)
    (state : Cluster.State) (vm : Vm) (saga : Saga) (reached : Cluster.State) : Prop :=
  ∃ run more, reached = state.serving id (Function.update state.db vm saga.tables) run
      (state.events ++ more) ∧
    Represents id draft before flushed vm saga run

theorem Tracks.step {reached : Cluster.State}
    (inserted : before.insertBooking (draft.booking id .sagaInProgress) = some flushed)
    (tracks : Tracks id draft before flushed state vm saga reached)
    (stepped : LocalSaga.step id draft saga answered = some next) :
    ∃ after, Lts.Reachable (Cluster.step singleVm) reached after ∧
      Tracks id draft before flushed state vm next after := by
  obtain ⟨run, more, rfl, represents⟩ := tracks
  obtain ⟨after, later, moved, kept⟩ :=
    represents.step inserted stepped state.db (state.events ++ more)
  exact ⟨_, moved, after, more ++ later, by rw [List.append_assoc], kept⟩

/-- Whatever the saga does with its session, the services have a run that leaves the same
tables and raises when it does. -/
theorem saga_refines_services (new : state.runs id = none)
    (fresh : (state.db vm).rowsOf id = .none) (request : BookingRequest) (route : Route)
    (answers : List Bool) (finish : Saga)
    (executed : Lts.run (LocalSaga.step id (request.draft (state.db vm)))
      (.start id (request.draft (state.db vm)) (state.db vm) route) answers = some finish) :
    ∃ after more,
      Lts.Reachable (Cluster.step singleVm) state
        (state.serving id (Function.update state.db vm finish.tables) after (state.events ++ more)) ∧
      (finish.pc = .raised → after.pc = .raised) := by
  obtain ⟨flushed, inserted⟩ : ∃ flushed, (state.db vm).insertBooking
      ((request.draft (state.db vm)).booking id .sagaInProgress) = some flushed := by
    refine Option.ne_none_iff_exists'.mp ?_
    rw [Ne, Database.insertBooking_eq_none, not_not]
    exact congrArg BookingRows.booking fresh
  have resolved := @reaches_advance singleVm state id state.db state.db
    { CreateRun.start vm (request.draft (state.db vm)) with pc := .resolve } (.route route)
    ((routed vm (request.draft (state.db vm)) route .flush).goto (.reserve route.segments))
    state.events rfl rfl rfl rfl
  have begun := ((reaches_begun new request).trans (reaches_flushed request)).trans resolved
  have unmoved : Function.update state.db vm (state.db vm) = state.db :=
    Function.update_eq_self vm state.db
  have tracks : Tracks id (request.draft (state.db vm)) (state.db vm) flushed state vm
      (.start id (request.draft (state.db vm)) (state.db vm) route)
      (state.serving id state.db
        ((routed vm (request.draft (state.db vm)) route .flush).goto
          (.reserve route.segments)).run (state.events ++ [])) := by
    refine ⟨_, [], ?_, represents_start request (state.db vm) route inserted⟩
    exact congrArg (fun db => state.serving id db _ (state.events ++ [])) unmoved.symm
  obtain ⟨other, moved, after, more, rfl, represents⟩ := Lts.run_simulates
    (fun _ _ _ _ => Tracks.step inserted) tracks executed
  refine ⟨after, more, begun.trans moved, ?_⟩
  intro raised
  have stands := represents.stands
  simpa only [Stands, raised] using stands

end

end TrafficService.LocalSaga
