import TrafficService.Effects
import TrafficService.Lib.AppendOnly

/-!
What no request, pass or handler ever does to the tables of a VM: take a row out of them, or write
into one anything but its status. Tables are taken without the order of their rows.
-/

namespace TrafficService

open Table AppendOnly

/-- Only the status and the estimate change, and a decided booking is never in progress again. -/
structure Booking.Revised (before after : Booking) : Prop where
  same : { before with
    status := after.status, estimatedDurationMinutes := after.estimatedDurationMinutes } = after
  status : after.status = before.status ∨ after.status ∈ [.confirmed, .rejected, .cancelled]

def Reservation.Kept (before after : Reservation) : Prop :=
  after = before ∨ after = { before with status := .cancelled }

def SegmentReservation.Kept (before after : SegmentReservation) : Prop :=
  after = before ∨ after = { before with status := .cancelled }

structure Recorded (db next : Database) : Prop where
  bookings : Extends Booking.Revised db.bookings.rows next.bookings.rows
  segments : Extends SegmentReservation.Kept db.segmentReservations next.segmentReservations
  reservations : ∀ schema,
    Extends Reservation.Kept (db.reservations schema) (next.reservations schema)

theorem Booking.Revised.refl (row : Booking) : row.Revised row := ⟨rfl, .inl rfl⟩

theorem Booking.Revised.trans {first second third : Booking} (before : first.Revised second)
    (after : second.Revised third) : first.Revised third := by
  refine ⟨?_, ?_⟩
  · rw [← after.same, ← before.same]
  · rcases after.status with same | decided
    · rw [same]
      exact before.status
    · exact .inr decided

theorem Booking.Revised.decide {status : BookingStatus} (row : Booking) (minutes : Option Nat)
    (decided : status ∈ [BookingStatus.confirmed, .rejected, .cancelled]) :
    row.Revised { row with status, estimatedDurationMinutes := minutes } :=
  ⟨rfl, .inr decided⟩

theorem Reservation.Kept.refl (row : Reservation) : row.Kept row := .inl rfl

theorem Reservation.Kept.trans {first second third : Reservation} (before : first.Kept second)
    (after : second.Kept third) : first.Kept third := by
  rcases before with rfl | rfl <;> rcases after with rfl | rfl
  · exact .inl rfl
  all_goals exact .inr rfl

theorem SegmentReservation.Kept.refl (row : SegmentReservation) : row.Kept row := .inl rfl

theorem SegmentReservation.Kept.trans {first second third : SegmentReservation}
    (before : first.Kept second) (after : second.Kept third) : first.Kept third := by
  rcases before with rfl | rfl <;> rcases after with rfl | rfl
  · exact .inl rfl
  all_goals exact .inr rfl

theorem Recorded.refl (db : Database) : Recorded db db where
  bookings := .refl Booking.Revised.refl _
  segments := .refl SegmentReservation.Kept.refl _
  reservations := fun _ => .refl Reservation.Kept.refl _

theorem Recorded.trans {first second third : Database} (before : Recorded first second)
    (after : Recorded second third) : Recorded first third where
  bookings := before.bookings.trans Booking.Revised.trans after.bookings
  segments := before.segments.trans SegmentReservation.Kept.trans after.segments
  reservations := fun schema =>
    (before.reservations schema).trans Reservation.Kept.trans (after.reservations schema)

/-! ### The statements -/

section

variable {db next : Database} {id : BookingId}

theorem recorded_insertBooking {row : Booking} (inserted : db.insertBooking row = some next) :
    Recorded db next := by
  obtain ⟨bookings, added, rfl⟩ := Option.map_eq_some_iff.mp inserted
  refine ⟨?_, .refl SegmentReservation.Kept.refl _, fun _ => .refl Reservation.Kept.refl _⟩
  rw [KeyedTable.rows_insert? added]
  exact .append Booking.Revised.refl _ _

theorem recorded_modify {change : Booking → Booking} (keeps : ∀ row, (change row).id = row.id)
    (revises : ∀ row : Booking, row.Revised (change row)) :
    Recorded db { db with bookings := db.bookings.modify id change keeps } where
  bookings := .updateWhere Booking.Revised.refl revises _
  segments := .refl SegmentReservation.Kept.refl _
  reservations := fun _ => .refl Reservation.Kept.refl _

theorem recorded_setBookingStatus {status : BookingStatus}
    (decided : status ∈ [BookingStatus.confirmed, .rejected, .cancelled]) :
    Recorded db (db.setBookingStatus id status) :=
  recorded_modify _ fun row => .decide row row.estimatedDurationMinutes decided

theorem recorded_update {schema : RegionSchema} {rows : List Reservation}
    (grown : Extends Reservation.Kept (db.reservations schema) rows) :
    Recorded db { db with reservations := Function.update db.reservations schema rows } := by
  refine ⟨.refl Booking.Revised.refl _, .refl SegmentReservation.Kept.refl _, fun place => ?_⟩
  by_cases here : place = schema
  · subst here
    simpa using grown
  · simpa [here] using Extends.refl Reservation.Kept.refl (db.reservations place)

theorem recorded_insertReservation (schema : RegionSchema) (row : Reservation) :
    Recorded db (db.insertReservation schema row) :=
  recorded_update (.append Reservation.Kept.refl _ _)

theorem recorded_insertSegmentReservation (row : SegmentReservation) :
    Recorded db (db.insertSegmentReservation row) where
  bookings := .refl Booking.Revised.refl _
  segments := .append SegmentReservation.Kept.refl _ _
  reservations := fun _ => .refl Reservation.Kept.refl _

theorem recorded_cancelReservations (schema : RegionSchema) (condition : Reservation → Bool) :
    Recorded db (db.updateReservations schema condition .cancelled) :=
  recorded_update (.updateWhere Reservation.Kept.refl (fun _ => .inr rfl) _)

theorem recorded_cancelSegments (condition : SegmentReservation → Bool) :
    Recorded db (db.updateSegmentReservations condition .cancelled) where
  bookings := .refl Booking.Revised.refl _
  segments := .updateWhere SegmentReservation.Kept.refl (fun _ => .inr rfl) _
  reservations := fun _ => .refl Reservation.Kept.refl _

theorem recorded_foldl {Item : Type} {change : Database → Item → Database}
    (recorded : ∀ db item, Recorded db (change db item)) (items : List Item) (db : Database) :
    Recorded db (items.foldl change db) :=
  foldl_kept (fun _ item before => before.trans (recorded _ item)) items (.refl db)

theorem recorded_storeSegment (driverId : DriverId) (segment : RouteSegment) (db : Database) :
    Recorded db (storeSegment db id driverId segment) :=
  (recorded_insertReservation ..).trans (recorded_insertSegmentReservation _)

theorem recorded_cancelAll (db : Database) : Recorded db (cancelReservations db id) :=
  recorded_foldl (fun _ _ => recorded_cancelReservations ..) regionSchemas db

theorem recorded_apply {transaction : Transaction} (applied : transaction.apply id db = some next) :
    Recorded db next := by
  cases transaction with
  | saga draft segments =>
      obtain ⟨inserted, found, rfl⟩ := Option.map_eq_some_iff.mp applied
      exact (recorded_insertBooking found).trans
        (recorded_foldl (fun db segment => recorded_storeSegment draft.driverId segment db) _ _)
  | insertRejected draft => exact recorded_insertBooking applied
  | confirm minutes =>
      cases applied
      exact recorded_modify _ fun row => .decide row (some minutes) (by decide)
  | updateRejected =>
      cases applied
      exact recorded_setBookingStatus (by decide)
  | release schema | lingering schema =>
      cases applied
      exact recorded_cancelReservations ..
  | cancel =>
      cases applied
      exact (recorded_setBookingStatus (by decide)).trans (recorded_cancelSegments _)
  | orphan =>
      cases applied
      exact ((recorded_cancelAll db).trans (recorded_cancelSegments _)).trans
        (recorded_setBookingStatus (by decide))
  | dangling =>
      cases applied
      exact (recorded_cancelAll db).trans (recorded_setBookingStatus (by decide))
  | peerReserve driverId segment =>
      cases applied
      exact recorded_insertReservation ..
  | peerRelease =>
      cases applied
      exact recorded_foldl (fun _ _ => recorded_cancelReservations ..) regionSchemas db

end

/-! ### Runs -/

namespace Cluster

section

variable {deployment : Deployment} {state next : State} {action : Action}

theorem recorded_commit {before : State} {vm : Vm} {id : BookingId} {transaction : Transaction}
    (committed : commit before vm id transaction = some next) (db : before.db = state.db)
    (place : Vm) : Recorded (state.db place) (next.db place) := by
  obtain ⟨after, applied, rfl⟩ := Option.map_eq_some_iff.mp committed
  rw [db] at applied
  simp only [db]
  by_cases here : place = vm
  · subst here
    rw [Function.update_self]
    exact recorded_apply applied
  · rw [Function.update_of_ne here]
    exact .refl _

theorem recorded_step (stepped : step deployment state action = some next) (vm : Vm) :
    Recorded (state.db vm) (next.db vm) := by
  cases step_taken stepped with
  | idle frame =>
      rw [frame.db]
      exact .refl _
  | began place id request isBegin fresh set =>
      rw [set]
      exact .refl _
  | crashed id run isCrash found running set =>
      rw [set]
      exact .refl _
  | advanced before id answer run outcome frame source found moved applied =>
      simp only [applyOutcome] at applied
      split at applied
      · cases applied
        rw [show (setRun before id outcome.run).db = before.db from rfl, frame.db]
        exact .refl _
      · exact recorded_commit applied frame.db vm
  | committed before place id transaction published frame source reports announced done =>
      exact recorded_commit done frame.db vm

theorem recorded_of_run {start finish : State} {actions : List Action}
    (executed : Lts.run (step deployment) start actions = some finish) (vm : Vm) :
    Recorded (start.db vm) (finish.db vm) :=
  @Lts.Reachable.invariant _ _ _ (fun state => Recorded (start.db vm) (state.db vm))
    (fun _ _ _ recorded stepped => recorded.trans (recorded_step stepped vm)) _ _
    ⟨actions, executed⟩ (.refl _)

/-- From any state on, whatever fails, crashes or runs at once: no booking and no reservation is
removed or rewritten. Reservations may only be cancelled; of a booking only the status and the
estimate change, and with them its `updated_at`. -/
theorem recorded_run {start finish : State} {actions : List Action}
    (executed : Lts.run (step deployment) start actions = some finish) (vm : Vm) :
    Recorded (start.db vm) (finish.db vm) :=
  recorded_of_run executed vm

theorem recorded_cancelling : ∃ booked finish,
    Lts.run (step singleVm) emptyState (bookAsFar 10 5) = some booked ∧
      Lts.run (step singleVm) booked [.cancelBooking .vm1 10 7 true] = some finish ∧
      (booked.db .vm1).bookings.rows.map (·.status) = [.confirmed] ∧
      (finish.db .vm1).bookings.rows.map (·.status) = [.cancelled] ∧
      Recorded (booked.db .vm1) (finish.db .vm1) := by
  have observed : (Lts.run (step singleVm) emptyState (bookAsFar 10 5)).bind (fun booked =>
      (Lts.run (step singleVm) booked [.cancelBooking .vm1 10 7 true]).map fun finish =>
        ((booked.db .vm1).bookings.rows.map (·.status),
          (finish.db .vm1).bookings.rows.map (·.status))) =
      some ([.confirmed], [.cancelled]) := by decide
  obtain ⟨booked, first, observed⟩ := Option.bind_eq_some_iff.mp observed
  obtain ⟨finish, second, outcome⟩ := Option.map_eq_some_iff.mp observed
  simp only [Prod.mk.injEq] at outcome
  exact ⟨booked, finish, first, second, outcome.1, outcome.2, recorded_run second .vm1⟩

end

end Cluster

end TrafficService
