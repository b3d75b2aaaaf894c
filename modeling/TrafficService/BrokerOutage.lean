import TrafficService.Admission

/-!
One request handled twice from the same tables, with the broker up and with the broker down.
-/

namespace TrafficService

structure SameOutcome (id : BookingId) (first second : Tables) : Prop where
  status : ∀ vm, (first vm).status? id = (second vm).status? id
  segments : ∀ vm, (first vm).segmentReservations = (second vm).segmentReservations
  active : ∀ vm schema row, row.status.active = true →
    (row ∈ (first vm).reservations schema ↔ row ∈ (second vm).reservations schema)

def accepted (deployment : Deployment) (peerUp : Bool) (vm : Vm) (id : BookingId)
    (tables : Tables) (route : Option Route) : Bool :=
  ((tables vm).bookings.find? id).isNone &&
    route.any (admissible deployment ⟨true, peerUp⟩ vm tables)

section

variable {deployment : Deployment} {peerUp : Bool} {vm : Vm} {id : BookingId} {tables : Tables}
  {request : BookingRequest} {route : Option Route}

theorem SameOutcome.refl (tables : Tables) : SameOutcome id tables tables :=
  ⟨fun _ => rfl, fun _ => rfl, fun _ _ _ _ => Iff.rfl⟩

theorem reserveAll_broker (driverId : DriverId) (segments : List RouteSegment)
    (saga : SagaProgress) (first second : Bool) :
    reserveAll deployment ⟨first, peerUp⟩ vm id driverId segments saga =
      reserveAll deployment ⟨second, peerUp⟩ vm id driverId segments saga := by
  induction segments generalizing saga with
  | nil => rfl
  | cons segment rest ih =>
      have same : reserveNext deployment ⟨first, peerUp⟩ vm id driverId saga segment =
          reserveNext deployment ⟨second, peerUp⟩ vm id driverId saga segment := rfl
      rw [reserveAll, reserveAll, same]
      split
      · rfl
      · exact ih _

theorem admissible_of_reserved {session : Database} {row : Booking} {broker : Bool}
    {driverId : DriverId} {saga : SagaProgress} {resolved : Route}
    (inserted : (tables vm).insertBooking row = some session)
    (through : reserveAll deployment ⟨broker, peerUp⟩ vm id driverId resolved.segments
      ⟨session, tables vm.peer, [], false⟩ = (saga, none)) :
    admissible deployment ⟨broker, peerUp⟩ vm tables resolved = true := by
  rw [admissible_iff inserted]
  refine (@reserveAll_none_iff deployment ⟨broker, peerUp⟩ vm id driverId
    ⟨session, tables vm.peer, [], false⟩ resolved.segments resolved.distinct).mp ?_
  rw [through]

theorem tables_of_refused (refused : accepted deployment peerUp vm id tables route = false) :
    (createBooking deployment ⟨true, peerUp⟩ vm id tables request route).tables =
      (createBooking deployment ⟨false, peerUp⟩ vm id tables request route).tables := by
  simp only [createBooking]
  split
  · rfl
  · rename_i session inserted
    cases route with
    | none => rfl
    | some resolved =>
        have absent : (tables vm).bookings.find? id = none :=
          Database.absent_of_insertBooking inserted
        simp only [accepted, absent, Option.isNone_none, Bool.true_and, Option.any_some] at refused
        simp only [executeBookingSaga]
        rw [reserveAll_broker (request.draft (tables vm)).driverId resolved.segments _ true false]
        rcases ended : reserveAll deployment ⟨false, peerUp⟩ vm id
          (request.draft (tables vm)).driverId resolved.segments
          ⟨session, tables vm.peer, [], false⟩ with ⟨saga, failure⟩
        cases failure with
        | some error => rfl
        | none =>
            have admitted := admissible_of_reserved inserted ended
            cases refused.symm.trans admitted

theorem status?_confirmed {db : Database} {minutes : Nat} {row : Booking}
    (present : (db.rowsOf id).booking = some row) :
    (db.confirmBooking id minutes).status? id = some .confirmed := by
  rw [Database.status?_eq, Database.rowsOf_confirmBooking, if_pos rfl, present]
  rfl

theorem status?_rejectStored {db : Database} {draft : BookingDraft} :
    (rejectBooking id db draft true).status? id ≠ some .confirmed := by
  rw [Database.status?_eq, rejectBooking, if_pos rfl, rowsOf_setStatus, if_pos rfl]
  simp [BookingRows.setStatus, Option.map_map, Function.comp_def]

/-- An outage changes the outcome of exactly the requests that would have succeeded. -/
theorem sameOutcome_iff_refused :
    SameOutcome id (createBooking deployment ⟨true, peerUp⟩ vm id tables request route).tables
        (createBooking deployment ⟨false, peerUp⟩ vm id tables request route).tables ↔
      accepted deployment peerUp vm id tables route = false := by
  constructor
  · intro same
    by_contra taken
    simp only [accepted, Bool.not_eq_false, Bool.and_eq_true, Option.isNone_iff_eq_none,
      Option.any_eq_true] at taken
    obtain ⟨absent, resolved, rfl, admitted⟩ := taken
    have status := same.status vm
    generalize up : createBooking deployment ⟨true, peerUp⟩ vm id tables request (some resolved) =
      success at status
    generalize down : createBooking deployment ⟨false, peerUp⟩ vm id tables request
      (some resolved) = failure at status
    have upEnd : Creation deployment ⟨true, peerUp⟩ vm id tables request (some resolved) success :=
      up ▸ creation (some resolved)
    have downEnd : Creation deployment ⟨false, peerUp⟩ vm id tables request (some resolved) failure :=
      down ▸ creation (some resolved)
    cases upEnd with
    | unflushed route present => exact present absent
    | refused route done error absent full started => exact nomatch full.symm.trans admitted
    | unpublished route session error inserted admitted down => exact nomatch down
    | confirmed route session inserted admitted up =>
        have stored : ((storeSegments session id request.driverId
            (localSegments deployment vm resolved.segments)).rowsOf id).booking =
            some ((request.draft (tables vm)).booking id .sagaInProgress) := by
          rw [rowsOf_storeSegments, if_pos rfl, rowsOf_insertDraft inserted, if_pos rfl]
          rfl
        have confirmed := @status?_confirmed id _ (confirmedMinutes resolved) _ stored
        cases downEnd with
        | unflushed route present => exact present absent
        | refused route done error absent full started =>
            exact nomatch full.symm.trans admitted
        | confirmed route session inserted admitted up => exact nomatch up
        | unpublished route session error inserted admitted down =>
            simp only [Tables.set, if_pos] at status
            exact status?_rejectStored (status.symm.trans confirmed)
  · intro refused
    rw [tables_of_refused refused]
    exact .refl _

end

/-- Booked while the broker is up, rejected while it is down. -/
theorem changedOutcome_irishRoute :
    ¬ ∀ (deployment : Deployment) (peerUp : Bool) (vm : Vm) (id : BookingId) (tables : Tables)
      (request : BookingRequest) (route : Option Route),
      SameOutcome id (createBooking deployment ⟨true, peerUp⟩ vm id tables request route).tables
        (createBooking deployment ⟨false, peerUp⟩ vm id tables request route).tables := by
  intro holds
  let tables : Tables := fun _ => .unbooked (fun _ _ => some 100) fun _ => none
  have same := holds singleVm true .vm1 10 tables request (some (.single irishSegment 45))
  have booked : ((createBooking singleVm ⟨true, true⟩ .vm1 10 tables request
      (some (.single irishSegment 45))).tables .vm1).status? 10 = some .confirmed := by decide
  have rejected : ((createBooking singleVm ⟨false, true⟩ .vm1 10 tables request
      (some (.single irishSegment 45))).tables .vm1).status? 10 = some .rejected := by decide
  exact nomatch booked.symm.trans ((same.status .vm1).trans rejected)

end TrafficService
