import TrafficService.Admission
import TrafficService.Verification

/-!
What the booking service does to one row of `public.bookings` and what it publishes about it,
for whole calls and whole reconciliation passes.
-/

namespace TrafficService

/-- The messages that go with a change of one row, while the broker is up or down. -/
inductive Told (plate : Booking → Option Plate) (up : Bool) (id : BookingId) :
    Option Booking → Option Booking → List Event → Prop
  | unchanged (row : Option Booking) : Told plate up id row row []
  | rejected (row : Booking) (events : List Event) (status : row.status = .rejected)
      (resolved : plate row = row.plateNumber) (failed : ∀ event ∈ events, event.isFailed = true) :
      Told plate up id none (some row) events
  | orphaned (row : Booking) (events : List Event) (status : row.status = .sagaInProgress)
      (failed : ∀ event ∈ events, event.isFailed = true) :
      Told plate up id (some row) (some { row with status := .rejected }) events
  | confirmed (row : Booking) (segments : List (SegmentId × Region))
      (status : row.status = .confirmed) (resolved : plate row = row.plateNumber) :
      Told plate up id none (some row)
        [.bookingConfirmed id row.driverId row.plateNumber segments row.departureTime]
  | cancelled (row : Booking) (driverId : DriverId) (departure : Option DateTime)
      (active : row.status ≠ .cancelled) :
      Told plate up id (some row) (some { row with status := .cancelled })
        (if up then [.bookingCancelled id driverId (plate row) departure] else [])

structure Announced (up : Bool) (before after : Database) (events : List Event) : Prop where
  users : after.users = before.users
  told : ∀ id, Told (plateOf before) up id (before.rowsOf id).booking (after.rowsOf id).booking
    (events.filter fun event => event.bookingId = id)

/-! ### The tables of a call -/

section

variable {deployment : Deployment} {environment : Environment} {vm place : Vm} {id : BookingId}
  {tables : Tables} {db : Database} {draft : BookingDraft} {driverId : DriverId}

theorem resolvePlateNumber_given {plate : Plate} (given : plate ≠ "") :
    resolvePlateNumber db (some plate) driverId = some plate := by
  unfold resolvePlateNumber
  split
  · contradiction
  · rename_i empty
    exact absurd (Option.some.inj empty) given
  · rename_i same
    exact same.symm

theorem resolvePlateNumber_idem (plate : Option Plate) :
    resolvePlateNumber db (resolvePlateNumber db plate driverId) driverId =
      resolvePlateNumber db plate driverId := by
  have owner : resolvePlateNumber db (getDriverPlateNumber db driverId) driverId =
      getDriverPlateNumber db driverId := by
    cases owned : getDriverPlateNumber db driverId with
    | none => exact owned
    | some own =>
        by_cases empty : own = ""
        · subst empty
          exact owned
        · exact resolvePlateNumber_given empty
  cases plate with
  | none => exact owner
  | some text =>
      by_cases empty : text = ""
      · subst empty
        exact owner
      · rw [resolvePlateNumber_given empty, resolvePlateNumber_given empty]

theorem users_perform (call : Call) (place : Vm) :
    ((call.perform deployment environment tables).tables place).users = (tables place).users :=
  Database.Kept.perform (fun place => kept_users (tables place).users) (fun _ => rfl) call place

end

/-! ### What a call announces -/

def Call.vm : Call → Vm
  | .createBooking vm .. | .cancelBooking vm .. => vm

section

variable {deployment : Deployment} {environment : Environment} {vm place : Vm} {id : BookingId}
  {tables : Tables} {before after : Database} {events : List Event} {up : Bool}

theorem Announced.unchanged (users : after.users = before.users)
    (same : ∀ id, (after.rowsOf id).booking = (before.rowsOf id).booking) :
    Announced up before after [] := by
  refine ⟨users, fun id => ?_⟩
  rw [same]
  exact .unchanged _

theorem Announced.single (id : BookingId) (users : after.users = before.users)
    (about : ∀ event ∈ events, event.bookingId = id)
    (elsewhere : ∀ other, other ≠ id →
      (after.rowsOf other).booking = (before.rowsOf other).booking)
    (own : Told (plateOf before) up id (before.rowsOf id).booking (after.rowsOf id).booking events) :
    Announced up before after events := by
  refine ⟨users, fun other => ?_⟩
  by_cases same : other = id
  · subst same
    have all : events.filter (fun event => event.bookingId = other) = events :=
      List.filter_eq_self.mpr fun event member => by simpa using about event member
    rw [all]
    exact own
  · have none : events.filter (fun event => event.bookingId = other) = [] := by
      apply List.filter_eq_nil_iff.mpr
      intro event member matched
      exact same ((of_decide_eq_true matched).symm.trans (about event member))
    rw [none, elsewhere other same]
    exact .unchanged _

theorem about_publishEvent {event : Event} (about : event.bookingId = id) :
    ∀ published ∈ publishEvent environment event, published.bookingId = id := by
  intro published member
  simp only [publishEvent] at member
  split at member
  · exact List.mem_singleton.mp member ▸ about
  · cases member

theorem told_createBooking (request : BookingRequest) (route : Option Route) :
    Told (plateOf (tables vm)) environment.brokerUp id ((tables vm).rowsOf id).booking
      (((createBooking deployment environment vm id tables request route).tables vm).rowsOf id).booking
      (createBooking deployment environment vm id tables request route).events := by
  have ended := @creation deployment environment vm id tables request route
  generalize createBooking deployment environment vm id tables request route = response at ended ⊢
  cases ended with
  | unflushed route present => exact .unchanged _
  | unresolved absent error =>
      simp only [Tables.set_own]
      rw [booking_rejectBooking absent, absent]
      exact .rejected _ [] rfl (resolvePlateNumber_idem request.plateNumber) (by simp)
  | refused route done error absent full started =>
      have before := absent
      rw [← @booking_compensate id _ (localSegments deployment vm done)] at before
      simp only [Tables.set_own]
      rw [booking_rejectBooking before, absent]
      refine .rejected _ _ rfl (resolvePlateNumber_idem request.plateNumber) ?_
      intro event member
      simp only [publishEvent] at member
      split at member
      · rw [List.mem_singleton.mp member]
        rfl
      · cases member
  | unpublished route session error inserted admitted down =>
      have absent : ((tables vm).rowsOf id).booking = none :=
        Database.absent_of_insertBooking inserted
      have stored := @booking_storeSegments id request.driverId session
        (localSegments deployment vm route.segments)
      rw [rowsOf_insertDraft inserted, if_pos rfl] at stored
      rw [← @booking_compensate id _ (localSegments deployment vm route.segments)] at stored
      simp only [Tables.set_own]
      rw [booking_rejectBooking stored, absent]
      exact .rejected _ [] rfl (resolvePlateNumber_idem request.plateNumber) (by simp)
  | confirmed route session inserted admitted up =>
      have absent : ((tables vm).rowsOf id).booking = none :=
        Database.absent_of_insertBooking inserted
      have stored := @booking_storeSegments id request.driverId session
        (localSegments deployment vm route.segments)
      rw [rowsOf_insertDraft inserted, if_pos rfl] at stored
      simp only [Tables.set_own, Database.rowsOf_confirmBooking, if_pos, stored]
      rw [absent]
      exact .confirmed (confirmedBooking (request.draft (tables vm)) id route) _ rfl
        (resolvePlateNumber_idem request.plateNumber)

theorem told_cancelBooking (driverId : DriverId) :
    Told (plateOf (tables vm)) environment.brokerUp id ((tables vm).rowsOf id).booking
      (((cancelBooking environment vm id tables driverId).tables vm).rowsOf id).booking
      (cancelBooking environment vm id tables driverId).events := by
  simp only [cancelBooking]
  split
  · exact .unchanged _
  · rename_i row found
    have before : ((tables vm).rowsOf id).booking = some row := found
    split
    · exact .unchanged _
    · rename_i own
      split
      · exact .unchanged _
      · rename_i active
        have driver : row.driverId = driverId := not_not.mp own
        have plate : plateOf (tables vm) row =
            resolvePlateNumber (tables vm) row.plateNumber driverId := by rw [plateOf, driver]
        simp only [Tables.set_own, rowsOf_cancelBookingRows, if_pos, BookingRows.cancelBooking,
          BookingRows.cancelSegments, BookingRows.setStatus, before, ← plate]
        exact .cancelled row driverId (some row.departureTime) active

theorem about_perform (call : Call) :
    ∀ event ∈ (call.perform deployment environment tables).events,
      event.bookingId = call.bookingId := by
  cases call with
  | cancelBooking vm id driverId =>
      simp only [Call.perform, cancelBooking]
      split
      · rintro _ ⟨⟩
      · split
        · rintro _ ⟨⟩
        · split
          · rintro _ ⟨⟩
          · exact about_publishEvent rfl
  | createBooking vm id request route =>
      have ended := @creation deployment environment vm id tables request route
      simp only [Call.perform]
      generalize createBooking deployment environment vm id tables request route = response at ended ⊢
      cases ended with
      | refused route done error absent full started => exact about_publishEvent rfl
      | confirmed route session inserted admitted up =>
          intro event member
          rw [List.mem_singleton.mp member]
          rfl
      | _ => rintro _ ⟨⟩

/-- A call announces what it does to the bookings of its VM. -/
theorem announced_perform (call : Call) :
    Announced environment.brokerUp (tables call.vm)
      ((call.perform deployment environment tables).tables call.vm)
      (call.perform deployment environment tables).events := by
  have elsewhere : ∀ other, other ≠ call.bookingId →
      (((call.perform deployment environment tables).tables call.vm).rowsOf other).booking =
        ((tables call.vm).rowsOf other).booking := by
    intro other different
    rw [rowsOf_perform_other call (Ne.symm different)]
  refine .single call.bookingId (users_perform call call.vm) (about_perform call) elsewhere ?_
  cases call with
  | createBooking vm id request route => exact told_createBooking request route
  | cancelBooking vm id driverId => exact told_cancelBooking driverId

theorem booking_perform_peer (call : Call) (other : place ≠ call.vm) :
    (((call.perform deployment environment tables).tables place).rowsOf call.bookingId).booking =
      ((tables place).rowsOf call.bookingId).booking := by
  have isPeer : place = call.vm.peer := (Vm.eq_or_peer call.vm place).resolve_left other
  subst isPeer
  cases call with
  | cancelBooking vm id driverId =>
      simp only [Call.perform, Call.vm, Call.bookingId, cancelBooking]
      split
      · rfl
      · split
        · rfl
        · split
          · rfl
          · simp only [Tables.set_peer]
  | createBooking vm id request route =>
      have ended := @creation deployment environment vm id tables request route
      simp only [Call.perform, Call.vm, Call.bookingId]
      generalize createBooking deployment environment vm id tables request route = response at ended ⊢
      cases ended with
      | unflushed route present => rfl
      | unresolved absent error => simp only [Tables.set_peer]
      | refused route done error absent full started =>
          simp only [Tables.set_peer, booking_peerAfterFailure]
      | unpublished route session error inserted admitted down =>
          simp only [Tables.set_peer, booking_peerAfterFailure]
      | confirmed route session inserted admitted up =>
          simp only [Tables.set_peer, rowsOf_insertReservations, if_pos, BookingRows.reserve]

theorem announced_peer (call : Call) (other : place ≠ call.vm) :
    Announced up (tables place) ((call.perform deployment environment tables).tables place) [] := by
  refine .unchanged (users_perform call place) ?_
  intro id
  by_cases own : call.bookingId = id
  · subst own
    exact booking_perform_peer call other
  · rw [rowsOf_perform_other call own]

end

section

variable {deployment : Deployment} {environment : Environment} {tables : Tables} {id : BookingId}

theorem announced_at (vm : Vm) (call : Call) :
    Announced environment.brokerUp (tables vm)
      ((call.perform deployment environment tables).tables vm)
      (if vm = call.vm then (call.perform deployment environment tables).events else []) := by
  split
  · rename_i here
    subst here
    exact announced_perform call
  · rename_i elsewhere
    exact announced_peer call elsewhere

def commitsCancellation (db : Database) (vm : Vm) (id : BookingId) : Call → Bool
  | .createBooking .. => false
  | .cancelBooking place other driverId => place = vm && other = id &&
      (db.bookings.find? id).any fun row => row.driverId = driverId && row.status ≠ .cancelled

/-- Nothing else cancels a booking. -/
theorem cancelled_of_perform {vm : Vm} {call : Call}
    (other : commitsCancellation (tables vm) vm id call = false)
    (cancelled : ((call.perform deployment environment tables).tables vm).status? id =
      some .cancelled) : (tables vm).status? id = some .cancelled := by
  rw [Database.status?_eq] at cancelled ⊢
  by_cases own : call.bookingId = id
  · subst own
    by_cases here : vm = call.vm
    · subst here
      cases call with
      | createBooking vm id request route =>
          by_cases absent : ((tables vm).rowsOf id).booking = none
          · have told := @told_createBooking deployment environment vm id tables request route
            simp only [Call.perform, Call.vm, Call.bookingId] at cancelled
            rw [absent] at told
            generalize (createBooking deployment environment vm id tables request route).events =
              events at told
            generalize (((createBooking deployment environment vm id tables request route).tables
              vm).rowsOf id).booking = after at told cancelled
            cases told with
            | unchanged => cases cancelled
            | rejected row events status resolved failed => simp [status] at cancelled
            | confirmed row segments status resolved => simp [status] at cancelled
          · have refused : (tables vm).insertBooking
                ((request.draft (tables vm)).booking id .sagaInProgress) = none :=
              Database.insertBooking_eq_none.mpr absent
            simp only [Call.perform, Call.vm, Call.bookingId, createBooking, refused] at cancelled
            exact cancelled
      | cancelBooking vm id driverId =>
          simp only [Call.perform, Call.vm, Call.bookingId, cancelBooking] at cancelled
          split at cancelled
          · exact cancelled
          · rename_i row found
            split at cancelled
            · exact cancelled
            · rename_i driver
              split at cancelled
              · exact cancelled
              · rename_i active
                simp only [commitsCancellation, Call.vm, Call.bookingId, found] at other
                simp [not_not.mp driver, active] at other
    · rwa [booking_perform_peer call here] at cancelled
  · rwa [rowsOf_perform_other call own] at cancelled

end

/-! ### What a pass announces -/

section

variable {db : Database} {now : DateTime} {id : BookingId}

def Database.resolved (db : Database) : Prop :=
  ∀ id row, (db.rowsOf id).booking = some row → plateOf db row = row.plateNumber

theorem cleanLingering_keeps (schemas : List RegionSchema) (pass : Reconciled) :
    (schemas.foldl cleanLingering pass).db.users = pass.db.users ∧
      (schemas.foldl cleanLingering pass).events = pass.events := by
  induction schemas generalizing pass with
  | nil => exact ⟨rfl, rfl⟩
  | cons schema rest ih =>
      obtain ⟨users, events⟩ := ih (cleanLingering pass schema)
      refine ⟨users.trans ?_, events⟩
      exact foldl_kept (fun db id => (kept_users pass.db.users).updated db _ _ _) _ rfl

theorem users_runReconciliationOnce : (runReconciliationOnce db now).db.users = db.users := by
  have kept := kept_users db.users
  have rejects (next : Database) (row : Booking) (same : next.users = db.users) :
      (rejectOrphan next row.id).users = db.users := kept.rejectOrphan same
  have cancels (next : Database) (row : Booking) (same : next.users = db.users) :
      (cancelDangling next row.id).users = db.users := kept.cancelDangling same
  have orphans : (reconcileOrphanedSagas db now).db.users = db.users := foldl_kept rejects _ rfl
  have dangling : (cancelDanglingConfirmed (reconcileOrphanedSagas db now).db now).db.users =
      db.users := foldl_kept cancels _ orphans
  rw [runReconciliationOnce, reconcilePartitionInconsistencies]
  exact (cleanLingering_keeps regionSchemas _).1.trans dangling

theorem events_runReconciliationOnce : (runReconciliationOnce db now).events =
    (reconcileOrphanedSagas db now).events ++
      (cancelDanglingConfirmed (reconcileOrphanedSagas db now).db now).events := by
  rw [runReconciliationOnce, reconcilePartitionInconsistencies]
  simp only [(cleanLingering_keeps regionSchemas _).2]

theorem filter_listed (db : Database) (test : Booking → Bool) (id : BookingId) :
    (db.bookings.rows.filter test).filter (fun row => row.id = id) =
      ((db.rowsOf id).booking.filter test).toList := by
  rw [List.filter_filter]
  have swapped : (fun row : Booking => decide (row.id = id) && test row) =
      fun row => test row && decide (row.id = id) := by
    funext row
    exact Bool.and_comm _ _
  rw [swapped, ← List.filter_filter, KeyedTable.filter_key]
  rw [Database.rowsOf]
  cases db.bookings.find? id with
  | none => rfl
  | some row => cases selected : test row <;> simp [Option.filter, selected]

theorem about_orphans (id : BookingId) :
    (reconcileOrphanedSagas db now).events.filter (fun event => event.bookingId = id) =
      ((db.rowsOf id).booking.filter fun row => row.orphaned now).toList.map fun row =>
        .bookingFailed row.id row.driverId row.plateNumber := by
  rw [← filter_listed, reconcileOrphanedSagas, List.filter_map]
  rfl

theorem about_dangling (id : BookingId) :
    (cancelDanglingConfirmed db now).events.filter (fun event => event.bookingId = id) =
      ((db.rowsOf id).booking.filter fun row =>
        row.confirmedLongAgo now && !hasConfirmedSegment db row.id).toList.map fun row =>
          .bookingCancelled row.id row.driverId row.plateNumber none := by
  rw [← filter_listed, cancelDanglingConfirmed, List.filter_map]
  rfl

theorem booking_reconcileLingering (rows : BookingRows) :
    rows.reconcileLingering.booking = rows.booking := by
  rw [BookingRows.reconcileLingering]
  split <;> rfl

theorem told_runReconciliationOnce (resolved : db.resolved) (id : BookingId) :
    Told (plateOf db) true id (db.rowsOf id).booking
      ((runReconciliationOnce db now).db.rowsOf id).booking
      ((runReconciliationOnce db now).events.filter fun event => event.bookingId = id) := by
  rw [rowsOf_runReconciliationOnce, events_runReconciliationOnce, List.filter_append, about_orphans,
    about_dangling, rowsOf_reconcileOrphanedSagas, BookingRows.reconcile, booking_reconcileLingering]
  cases found : (db.rowsOf id).booking with
  | none =>
      have same : (db.rowsOf id).reconcileOrphan now = db.rowsOf id := by
        simp [BookingRows.reconcileOrphan, found]
      have kept : (db.rowsOf id).reconcileDangling now = db.rowsOf id := by
        simp [BookingRows.reconcileDangling, BookingRows.dangling, found]
      rw [same, kept, found]
      exact .unchanged none
  | some row =>
      cases orphaned : row.orphaned now with
      | true =>
          have rejected : (db.rowsOf id).reconcileOrphan now = (db.rowsOf id).rejectOrphan := by
            simp [BookingRows.reconcileOrphan, found, orphaned]
          have booking : (db.rowsOf id).rejectOrphan.booking = some { row with status := .rejected } := by
            simp [BookingRows.rejectOrphan, BookingRows.setStatus, BookingRows.cancelSegments,
              BookingRows.cancelRegional, found]
          have kept : (db.rowsOf id).rejectOrphan.reconcileDangling now =
              (db.rowsOf id).rejectOrphan := by
            simp [BookingRows.reconcileDangling, BookingRows.dangling, booking,
              Booking.confirmedLongAgo]
          simp only [Booking.orphaned, Bool.and_eq_true, decide_eq_true_eq] at orphaned
          rw [rejected, kept, booking]
          refine .orphaned row _ orphaned.1 ?_
          simp [Option.filter, Booking.confirmedLongAgo, Event.isFailed]
      | false =>
          have same : (db.rowsOf id).reconcileOrphan now = db.rowsOf id := by
            simp [BookingRows.reconcileOrphan, found, orphaned]
          have ofId : row.id = id := KeyedTable.key_of_find? found
          have listed : (row.confirmedLongAgo now &&
              !hasConfirmedSegment (reconcileOrphanedSagas db now).db row.id) =
              (db.rowsOf id).dangling now := by
            rw [hasConfirmedSegment_eq, ofId, rowsOf_reconcileOrphanedSagas, same,
              BookingRows.dangling, found]
            rfl
          rw [same, found]
          simp only [Option.filter, orphaned, listed]
          cases dangling : (db.rowsOf id).dangling now with
          | false =>
              have kept : (db.rowsOf id).reconcileDangling now = db.rowsOf id := by
                simp [BookingRows.reconcileDangling, dangling]
              rw [kept, found]
              exact .unchanged _
          | true =>
              have cancelled : ((db.rowsOf id).reconcileDangling now).booking =
                  some { row with status := .cancelled } := by
                simp [BookingRows.reconcileDangling, dangling, BookingRows.cancelDangling,
                  BookingRows.setStatus, BookingRows.cancelRegional, found]
              have active : row.status ≠ .cancelled := by
                intro same
                simp [BookingRows.dangling, found, Booking.confirmedLongAgo, same] at dangling
              have plate := resolved id row found
              have told : Told (plateOf db) true id _ _ _ := .cancelled row row.driverId none active
              rw [cancelled]
              simpa [plate, ofId] using told

theorem announced_runReconciliationOnce (resolved : db.resolved) :
    Announced true db (runReconciliationOnce db now).db (runReconciliationOnce db now).events :=
  ⟨users_runReconciliationOnce, told_runReconciliationOnce resolved⟩

end

end TrafficService
