import TrafficService.Service
import TrafficService.Lib.Lts

/-!
The saga of a single VM with its session: what the open transaction has written, what is
committed, and an exception at any await from the first lock to the commit of `REJECTED`.
-/

namespace TrafficService.LocalSaga

open Table

/-- The await the saga is at. `raising`: the lock is released on the way out with an exception. -/
inductive Pc
  | lock (segment : RouteSegment) (todo : List RouteSegment)
  | check (segment : RouteSegment) (todo : List RouteSegment)
  | insert (segment : RouteSegment) (todo : List RouteSegment)
  | unlock (raising : Bool) (segment : RouteSegment) (todo : List RouteSegment)
  | commit
  | rollback
  | release (segment : RouteSegment) (todo : List RouteSegment)
  | publishFailed
  | reject
  | raised
  /-- The saga's commit went through. -/
  | stored
  deriving DecidableEq

def Pc.compensates : Pc → Bool
  | .rollback | .release .. | .reject => true
  | _ => false

/-- `session` is what the open transaction reads, its own writes included. -/
structure Saga where
  tables : Database
  session : Database
  reserved : List RouteSegment
  pc : Pc

def nextRound : List RouteSegment → Pc
  | [] => .commit
  | segment :: todo => .lock segment todo

def nextRelease : List RouteSegment → Pc
  | [] => .publishFailed
  | segment :: todo => .release segment todo

section

variable (id : BookingId) (draft : BookingDraft)

def Saga.start (tables : Database) (route : Route) : Saga where
  tables := tables
  session := (tables.insertBooking (draft.booking id .sagaInProgress)).getD tables
  reserved := []
  pc := nextRound route.segments

/-- One await and the code up to the next, `answered` unless it raises. -/
def step (saga : Saga) (answered : Bool) : Option Saga :=
  match saga.pc with
  | .lock segment todo =>
      some { saga with pc := if answered then .check segment todo else .rollback }
  | .check segment todo =>
      if answered then
        match checkCapacity saga.session segment.schema segment.segmentId segment.slotStart with
        | .error _ => some { saga with pc := .insert segment todo }
        | .ok capacity =>
            if capacity.booked ≥ capacity.max then
              some { saga with pc := .unlock true segment todo }
            else some { saga with pc := .insert segment todo }
      else some { saga with pc := .unlock true segment todo }
  | .insert segment todo =>
      if answered then
        match reserveSegment saga.session segment.schema
          (segment.reservation id draft.driverId) with
        | .error _ => some { saga with pc := .unlock true segment todo }
        | .ok session =>
            some { saga with
              session := session.insertSegmentReservation (segment.segmentReservation id)
              pc := .unlock false segment todo }
      else some { saga with pc := .unlock true segment todo }
  | .unlock raising segment todo =>
      if answered && !raising then
        some { saga with reserved := saga.reserved ++ [segment], pc := nextRound todo }
      else some { saga with pc := .rollback }
  | .commit =>
      if answered then some { saga with tables := saga.session, pc := .stored }
      else some { saga with pc := .rollback }
  | .rollback =>
      if answered then
        some { saga with session := saga.tables, pc := nextRelease saga.reserved }
      else some { saga with pc := .reject }
  | .release segment todo =>
      if answered then
        let released := releaseSegment saga.session segment.schema id
        some { saga with tables := released, session := released, pc := nextRelease todo }
      else some { saga with pc := nextRelease todo }
  | .publishFailed => some { saga with pc := .reject }
  | .reject =>
      if answered then
        match saga.session.insertBooking (draft.booking id .rejected) with
        | none => some { saga with pc := .raised }
        | some session => some { saga with tables := session, session, pc := .raised }
      else some { saga with pc := .raised }
  | .raised | .stored => none

/-- What the tables are on the way to the exception, `before` being those of the request. -/
def Undone (before : Database) (saga : Saga) : Prop :=
  match saga.pc with
  | .lock .. | .check .. | .insert .. | .unlock .. | .commit | .rollback => saga.tables = before
  | .release .. | .publishFailed | .reject => saga.tables = before ∧ saga.session = before
  | .raised => before.insertBooking (draft.booking id .rejected) = some saga.tables
  | .stored => True

end

section

variable {id : BookingId} {draft : BookingDraft} {before : Database} {saga next : Saga}
  {answered : Bool}

theorem releaseSegment_eq_self {schema : RegionSchema} (fresh : before.rowsOf id = .none) :
    releaseSegment before schema id = before := by
  have untouched : ∀ row ∈ before.reservations schema, row.bookingId ≠ id := by
    intro row member own
    have listed := Database.mem_rowsOf_regional.mpr ⟨member, own⟩
    rw [fresh] at listed
    simp [BookingRows.none] at listed
  have same : updateWhere (fun row => row.bookingId = id)
      (fun row : Reservation => { row with status := .cancelled }) (before.reservations schema) =
        before.reservations schema := by
    refine updateWhere_eq_self fun row member selected => ?_
    exact absurd (of_decide_eq_true selected) (untouched row member)
  rw [releaseSegment, Database.updateReservations, same, Function.update_eq_self]

theorem undone_nextRound (session : Database) (reserved todo : List RouteSegment) :
    Undone id draft before ⟨before, session, reserved, nextRound todo⟩ := by
  cases todo <;> exact rfl

theorem undone_nextRelease (reserved todo : List RouteSegment) :
    Undone id draft before ⟨before, before, reserved, nextRelease todo⟩ := by
  cases todo <;> exact ⟨rfl, rfl⟩

/-- Each await keeps the tables as they were, up to the commit of `REJECTED`. -/
theorem Undone.step (undone : Undone id draft before saga) (fresh : before.rowsOf id = .none)
    (compensated : saga.pc.compensates = true → answered = true)
    (stepped : step id draft saga answered = some next) : Undone id draft before next := by
  obtain ⟨tables, session, reserved, pc⟩ := saga
  cases pc with
  | lock segment todo =>
      cases stepped
      cases answered <;> exact undone
  | check segment todo =>
      simp only [LocalSaga.step] at stepped
      split at stepped
      · split at stepped
        · cases stepped
          exact undone
        · split at stepped <;> cases stepped <;> exact undone
      · cases stepped
        exact undone
  | insert segment todo =>
      simp only [LocalSaga.step] at stepped
      split at stepped
      · split at stepped <;> cases stepped <;> exact undone
      · cases stepped
        exact undone
  | unlock raising segment todo =>
      simp only [LocalSaga.step] at stepped
      split at stepped
      · cases stepped
        cases undone
        exact undone_nextRound session _ todo
      · cases stepped
        exact undone
  | commit =>
      simp only [LocalSaga.step] at stepped
      split at stepped
      · cases stepped
        trivial
      · cases stepped
        exact undone
  | rollback =>
      cases compensated rfl
      cases stepped
      cases undone
      exact undone_nextRelease reserved reserved
  | release segment todo =>
      cases compensated rfl
      obtain ⟨sameTables, sameSession⟩ := undone
      simp only at sameTables sameSession
      subst sameSession
      simp only [LocalSaga.step, if_true, releaseSegment_eq_self fresh, Option.some.injEq]
        at stepped
      rw [← stepped]
      exact undone_nextRelease reserved todo
  | publishFailed =>
      cases stepped
      exact undone
  | reject =>
      cases compensated rfl
      obtain ⟨sameTables, sameSession⟩ := undone
      simp only at sameTables sameSession
      subst sameSession
      have known : session.insertBooking (draft.booking id .rejected) ≠ none := by
        rw [Ne, Database.insertBooking_eq_none, not_not]
        exact congrArg BookingRows.booking fresh
      simp only [LocalSaga.step, if_true] at stepped
      split at stepped
      · rename_i refused
        exact absurd refused known
      · rename_i stored inserted
        cases stepped
        exact inserted
  | raised => cases stepped
  | stored => cases stepped

/-- Wherever in the loop or at the commit the saga of a single VM raises, and whether or not
`booking.failed` is published: once `create_booking` has raised, the tables are what they were
and a rejected booking. -/
theorem raised_leaves_rejection (id : BookingId) (request : BookingRequest) (before : Database)
    (route : Route) (answers : List Bool) (finish : Saga) (fresh : before.rowsOf id = .none)
    (executed : Lts.run (LocalSaga.step id (request.draft before))
      (.start id (request.draft before) before route) answers = some finish)
    (raised : finish.pc = .raised)
    (compensated : Lts.Meets (LocalSaga.step id (request.draft before))
      (fun saga answered => saga.pc.compensates = true → answered = true)
      (.start id (request.draft before) before route) answers) :
    finish.tables.bookings.rows =
        before.bookings.rows ++ [(request.draft before).booking id .rejected] ∧
      finish.tables.segmentReservations = before.segmentReservations ∧
      finish.tables.reservations = before.reservations := by
  have initial : Undone id (request.draft before) before
      (.start id (request.draft before) before route) := undone_nextRound _ [] route.segments
  have undone : Undone id (request.draft before) before finish :=
    Lts.run_invariant (fun _ _ _ undone compensated stepped => undone.step fresh compensated stepped)
      initial executed compensated
  rw [Undone, raised] at undone
  obtain ⟨bookings, inserted, same⟩ := Option.map_eq_some_iff.mp undone
  rw [← same]
  exact ⟨KeyedTable.rows_insert? inserted, rfl, rfl⟩

def secondLockTaken : List Bool := [true, true, true, true, false, true, true, false, true]

def roadsOfOne : Database := .unbooked (fun _ _ => some 100) fun _ => none

theorem raised_secondLockTaken : ∃ finish,
    Lts.run (LocalSaga.step 0 (request.draft roadsOfOne))
      (.start 0 (request.draft roadsOfOne) roadsOfOne crossingRoute) secondLockTaken =
        some finish ∧
      finish.tables.bookings.rows = [(request.draft roadsOfOne).booking 0 .rejected] ∧
      finish.tables.segmentReservations = [] ∧ finish.tables.reservations = fun _ => [] :=
  ⟨_, rfl, raised_leaves_rejection 0 request roadsOfOne crossingRoute secondLockTaken _ rfl rfl rfl
    (Lts.meets_of_checks (fun saga answered tested compensates => by simpa [compensates] using tested)
      (by decide : Lts.checks (LocalSaga.step 0 (request.draft roadsOfOne))
        (fun saga answered => !saga.pc.compensates || answered) _ _ = true))⟩

end

end TrafficService.LocalSaga
