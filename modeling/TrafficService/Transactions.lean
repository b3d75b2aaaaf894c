import TrafficService.Capacity

/-!
The transactions of the booking service that change an existing booking, as each commits
them, and what each does to the rows of one booking.
-/

namespace TrafficService

open Table

def cancelAll (rows : List Reservation) : List Reservation :=
  rows.map fun row => { row with status := .cancelled }

def cancelSegments (rows : List SegmentReservation) : List SegmentReservation :=
  rows.map fun row => { row with status := .cancelled }

namespace BookingRows

variable (rows : BookingRows)

def setStatus (status : BookingStatus) : BookingRows :=
  { rows with booking := rows.booking.map fun row => { row with status } }

def cancelIn (schema : RegionSchema) : BookingRows :=
  { rows with
    regional := Function.update rows.regional schema (cancelAll (rows.regional schema)) }

def cancelRegional : BookingRows :=
  { rows with regional := fun schema => cancelAll (rows.regional schema) }

def cancelSegments : BookingRows :=
  { rows with segments := TrafficService.cancelSegments rows.segments }

def cancelBooking : BookingRows := (rows.setStatus .cancelled).cancelSegments

def rejectOrphan : BookingRows := rows.cancelRegional.cancelSegments.setStatus .rejected

def cancelDangling : BookingRows := rows.cancelRegional.setStatus .cancelled

end BookingRows

def Reservation.uncancelledOf (id : BookingId) (row : Reservation) : Bool :=
  row.bookingId = id && row.status ≠ .cancelled

def SegmentReservation.uncancelledOf (id : BookingId) (row : SegmentReservation) : Bool :=
  row.bookingId = id && row.status ≠ .cancelled

def cancelBookingRows (db : Database) (id : BookingId) : Database :=
  (db.setBookingStatus id .cancelled).updateSegmentReservations (fun row => row.bookingId = id)
    .cancelled

def cancelLingering (db : Database) (schema : RegionSchema) (id : BookingId) : Database :=
  db.updateReservations schema (Reservation.uncancelledOf id) .cancelled

def cancelReservations (db : Database) (id : BookingId) : Database :=
  regionSchemas.foldl (fun db schema => cancelLingering db schema id) db

def rejectOrphan (db : Database) (id : BookingId) : Database :=
  ((cancelReservations db id).updateSegmentReservations (SegmentReservation.uncancelledOf id)
    .cancelled).setBookingStatus id .rejected

def cancelDangling (db : Database) (id : BookingId) : Database :=
  (cancelReservations db id).setBookingStatus id .cancelled

def peerRelease (db : Database) (id : BookingId) : Database :=
  regionSchemas.foldl (fun db schema => releaseSegment db schema id) db

theorem cancelIn_all (rows : BookingRows) :
    regionSchemas.foldl (fun rows schema => rows.cancelIn schema) rows = rows.cancelRegional := by
  ext1
  · rfl
  · rfl
  · funext schema
    cases schema <;> rfl

theorem Reservation.cancel_of_cancelled {row : Reservation} (cancelled : row.status = .cancelled) :
    { row with status := .cancelled } = row := by
  rw [← cancelled]

theorem SegmentReservation.cancel_of_cancelled {row : SegmentReservation}
    (cancelled : row.status = .cancelled) : { row with status := .cancelled } = row := by
  rw [← cancelled]

theorem BookingRows.cancelIn_eq_self {rows : BookingRows} {schema : RegionSchema}
    (cancelled : ∀ row ∈ rows.regional schema, row.status = .cancelled) :
    rows.cancelIn schema = rows := by
  have same : cancelAll (rows.regional schema) = rows.regional schema := by
    have unchanged : ∀ row ∈ rows.regional schema, { row with status := .cancelled } = row :=
      fun row member => Reservation.cancel_of_cancelled (cancelled row member)
    rw [cancelAll, List.map_congr_left unchanged, List.map_id']
  rw [cancelIn, same, Function.update_eq_self]

section

variable (db : Database) (id other : BookingId)

theorem rowsOf_cancel_reservations {condition : Reservation → Bool} (schema : RegionSchema)
    (own : ∀ row, condition row = true → row.bookingId = id)
    (selects : ∀ row : Reservation, row.bookingId = id →
      condition row = true ∨ row.status = .cancelled) :
    (db.updateReservations schema condition .cancelled).rowsOf other =
      if other = id then (db.rowsOf other).cancelIn schema else db.rowsOf other := by
  rw [Database.rowsOf_updateReservations]
  have ofOther : ∀ row ∈ (db.rowsOf other).regional schema, row.bookingId = other :=
    fun row member => (Database.mem_rowsOf_regional.mp member).2
  by_cases same : other = id
  · rw [if_pos same, updateWhere_eq_map]
    · rfl
    · intro row member
      exact (selects row ((ofOther row member).trans same)).imp_right
        Reservation.cancel_of_cancelled
  · rw [if_neg same, updateWhere_eq_self]
    · simp
    · intro row member selected
      exact absurd ((ofOther row member).symm.trans (own row selected)) same

theorem rowsOf_cancel_segments {condition : SegmentReservation → Bool}
    (own : ∀ row, condition row = true → row.bookingId = id)
    (selects : ∀ row : SegmentReservation, row.bookingId = id →
      condition row = true ∨ row.status = .cancelled) :
    (db.updateSegmentReservations condition .cancelled).rowsOf other =
      if other = id then (db.rowsOf other).cancelSegments else db.rowsOf other := by
  rw [Database.rowsOf_updateSegmentReservations]
  have ofOther : ∀ row ∈ (db.rowsOf other).segments, row.bookingId = other :=
    fun row member => (Database.mem_rowsOf_segments.mp member).2
  by_cases same : other = id
  · rw [if_pos same, updateWhere_eq_map]
    · rfl
    · intro row member
      exact (selects row ((ofOther row member).trans same)).imp_right
        SegmentReservation.cancel_of_cancelled
  · rw [if_neg same, updateWhere_eq_self]
    intro row member selected
    exact absurd ((ofOther row member).symm.trans (own row selected)) same

theorem Reservation.uncancelledOf_selects {row : Reservation} (ofId : row.bookingId = id) :
    row.uncancelledOf id = true ∨ row.status = .cancelled := by
  by_cases cancelled : row.status = .cancelled
  · exact .inr cancelled
  · exact .inl (by simp [Reservation.uncancelledOf, ofId, cancelled])

theorem SegmentReservation.uncancelledOf_selects {row : SegmentReservation}
    (ofId : row.bookingId = id) : row.uncancelledOf id = true ∨ row.status = .cancelled := by
  by_cases cancelled : row.status = .cancelled
  · exact .inr cancelled
  · exact .inl (by simp [SegmentReservation.uncancelledOf, ofId, cancelled])

theorem rowsOf_releaseSegment (schema : RegionSchema) :
    (releaseSegment db schema id).rowsOf other =
      if other = id then (db.rowsOf other).cancelIn schema else db.rowsOf other :=
  rowsOf_cancel_reservations db id other schema (by simp) fun _ ofId => .inl (by simp [ofId])

theorem rowsOf_cancelLingering (schema : RegionSchema) :
    (cancelLingering db schema id).rowsOf other =
      if other = id then (db.rowsOf other).cancelIn schema else db.rowsOf other :=
  rowsOf_cancel_reservations db id other schema (by simp +contextual [Reservation.uncancelledOf])
    fun _ ofId => Reservation.uncancelledOf_selects id ofId

theorem rowsOf_foldl_cancelIn {cancel : Database → RegionSchema → Database}
    (one : ∀ db schema, (cancel db schema).rowsOf other =
      if other = id then (db.rowsOf other).cancelIn schema else db.rowsOf other)
    (schemas : List RegionSchema) :
    (schemas.foldl cancel db).rowsOf other =
      if other = id then schemas.foldl (fun rows schema => rows.cancelIn schema) (db.rowsOf other)
      else db.rowsOf other := by
  induction schemas generalizing db with
  | nil => simp
  | cons schema rest ih =>
      rw [List.foldl_cons, ih, one]
      by_cases same : other = id
      · simp [same]
      · simp [same]

theorem rowsOf_cancelReservations :
    (cancelReservations db id).rowsOf other =
      if other = id then (db.rowsOf other).cancelRegional else db.rowsOf other := by
  rw [cancelReservations, rowsOf_foldl_cancelIn db id other
    (fun db schema => rowsOf_cancelLingering db id other schema), cancelIn_all]

theorem rowsOf_peerRelease :
    (peerRelease db id).rowsOf other =
      if other = id then (db.rowsOf other).cancelRegional else db.rowsOf other := by
  rw [peerRelease, rowsOf_foldl_cancelIn db id other
    (fun db schema => rowsOf_releaseSegment db id other schema), cancelIn_all]

theorem rowsOf_setStatus (status : BookingStatus) :
    (db.setBookingStatus id status).rowsOf other =
      if other = id then (db.rowsOf other).setStatus status else db.rowsOf other := by
  rw [Database.rowsOf_setBookingStatus]
  by_cases same : other = id
  · subst same
    rfl
  · simp [same]

theorem rowsOf_cancelBookingRows :
    (cancelBookingRows db id).rowsOf other =
      if other = id then (db.rowsOf other).cancelBooking else db.rowsOf other := by
  rw [cancelBookingRows, rowsOf_cancel_segments _ id other (by simp)
    fun _ ofId => .inl (by simp [ofId]), rowsOf_setStatus]
  by_cases same : other = id <;> simp [same, BookingRows.cancelBooking]

theorem rowsOf_rejectOrphan :
    (rejectOrphan db id).rowsOf other =
      if other = id then (db.rowsOf other).rejectOrphan else db.rowsOf other := by
  rw [rejectOrphan, rowsOf_setStatus, rowsOf_cancel_segments _ id other
    (by simp +contextual [SegmentReservation.uncancelledOf])
    fun _ ofId => SegmentReservation.uncancelledOf_selects id ofId, rowsOf_cancelReservations]
  by_cases same : other = id <;> simp [same, BookingRows.rejectOrphan]

theorem rowsOf_cancelDangling :
    (cancelDangling db id).rowsOf other =
      if other = id then (db.rowsOf other).cancelDangling else db.rowsOf other := by
  rw [cancelDangling, rowsOf_setStatus, rowsOf_cancelReservations]
  by_cases same : other = id <;> simp [same, BookingRows.cancelDangling]

end

structure BookingDraft where
  driverId : DriverId
  plateNumber : Option Plate
  departureTime : DateTime
  createdAt : DateTime
  deriving DecidableEq, Repr

def BookingDraft.booking (draft : BookingDraft) (id : BookingId) (status : BookingStatus) :
    Booking where
  id := id
  driverId := draft.driverId
  plateNumber := draft.plateNumber
  departureTime := draft.departureTime
  status := status
  estimatedDurationMinutes := none
  createdAt := draft.createdAt

/-- Everything any request or pass commits for one booking. -/
inductive Transaction
  /-- The saga's commit: the booking and the rows of its local segments. -/
  | saga (draft : BookingDraft) (segments : List RouteSegment)
  | confirm (minutes : Nat)
  /-- `REJECTED` on a booking the session still holds as new: an `INSERT`. -/
  | insertRejected (draft : BookingDraft)
  | updateRejected
  | release (schema : RegionSchema)
  | cancel
  | orphan
  | dangling
  | lingering (schema : RegionSchema)
  | peerReserve (driverId : DriverId) (segment : RouteSegment)
  | peerRelease

def storeSegments (db : Database) (id : BookingId) (driverId : DriverId)
    (segments : List RouteSegment) : Database :=
  segments.foldl (fun db segment => storeSegment db id driverId segment) db

/-- `none` when the statement fails on the primary key. -/
def Transaction.apply (id : BookingId) (db : Database) : Transaction → Option Database
  | .saga draft segments =>
      (db.insertBooking (draft.booking id .sagaInProgress)).map fun db =>
        storeSegments db id draft.driverId segments
  | .confirm minutes => some (db.confirmBooking id minutes)
  | .insertRejected draft => db.insertBooking (draft.booking id .rejected)
  | .updateRejected => some (db.setBookingStatus id .rejected)
  | .release schema => some (releaseSegment db schema id)
  | .cancel => some (cancelBookingRows db id)
  | .orphan => some (rejectOrphan db id)
  | .dangling => some (cancelDangling db id)
  | .lingering schema => some (cancelLingering db schema id)
  | .peerReserve driverId segment =>
      some (db.insertReservation segment.schema (segment.reservation id driverId))
  | .peerRelease => some (TrafficService.peerRelease db id)

def BookingRows.store (rows : BookingRows) (id : BookingId) (driverId : DriverId)
    (segments : List RouteSegment) : BookingRows where
  booking := rows.booking
  segments := rows.segments ++ segments.map fun segment => segment.segmentReservation id
  regional := fun schema => rows.regional schema ++
    (segments.filter fun segment => segment.schema = schema).map fun segment =>
      segment.reservation id driverId

def Transaction.onRows (id : BookingId) (rows : BookingRows) : Transaction → BookingRows
  | .saga draft segments =>
      { rows with booking := some (draft.booking id .sagaInProgress) }.store id draft.driverId
        segments
  | .confirm minutes =>
      { rows with
        booking := rows.booking.map fun row =>
          { row with status := .confirmed, estimatedDurationMinutes := some minutes } }
  | .insertRejected draft => { rows with booking := some (draft.booking id .rejected) }
  | .updateRejected => rows.setStatus .rejected
  | .release schema | .lingering schema => rows.cancelIn schema
  | .cancel => rows.cancelBooking
  | .orphan => rows.rejectOrphan
  | .dangling => rows.cancelDangling
  | .peerReserve driverId segment =>
      { rows with
        regional := Function.update rows.regional segment.schema
          (rows.regional segment.schema ++ [segment.reservation id driverId]) }
  | .peerRelease => rows.cancelRegional

theorem rowsOf_storeSegment (db : Database) (id : BookingId) (driverId : DriverId)
    (segment : RouteSegment) (other : BookingId) :
    (storeSegment db id driverId segment).rowsOf other =
      if other = id then (db.rowsOf other).store id driverId [segment] else db.rowsOf other := by
  rw [storeSegment, Database.rowsOf_insertSegmentReservation, Database.rowsOf_insertReservation]
  have ofSegment : (segment.segmentReservation id).bookingId = id := rfl
  have ofRow : (segment.reservation id driverId).bookingId = id := rfl
  rw [ofSegment, ofRow]
  by_cases same : other = id
  · simp only [same, if_true]
    ext1
    · rfl
    · rfl
    · funext schema
      by_cases here : schema = segment.schema
      · subst here
        simp [BookingRows.store]
      · simp [BookingRows.store, here, Ne.symm here]
  · simp [same]

theorem BookingRows.store_nil (rows : BookingRows) (id : BookingId) (driverId : DriverId) :
    rows.store id driverId [] = rows := by
  simp [BookingRows.store]

theorem BookingRows.store_store (rows : BookingRows) (id : BookingId) (driverId : DriverId)
    (first second : List RouteSegment) :
    (rows.store id driverId first).store id driverId second =
      rows.store id driverId (first ++ second) := by
  simp [BookingRows.store]

theorem rowsOf_storeSegments (db : Database) (id : BookingId) (driverId : DriverId)
    (segments : List RouteSegment) (other : BookingId) :
    (storeSegments db id driverId segments).rowsOf other =
      if other = id then (db.rowsOf other).store id driverId segments else db.rowsOf other := by
  induction segments generalizing db with
  | nil => simp [storeSegments, BookingRows.store_nil]
  | cons segment rest ih =>
      rw [storeSegments, List.foldl_cons, ← storeSegments, ih, rowsOf_storeSegment]
      by_cases same : other = id
      · simp [same, BookingRows.store_store]
      · simp [same]

theorem rowsOf_insertDraft {db next : Database} {draft : BookingDraft} {id : BookingId}
    {status : BookingStatus} (inserted : db.insertBooking (draft.booking id status) = some next)
    (other : BookingId) :
    next.rowsOf other =
      if other = id then { db.rowsOf other with booking := some (draft.booking id status) }
      else db.rowsOf other := by
  rw [Database.rowsOf_insertBooking inserted]
  have ofDraft : (draft.booking id status).id = id := rfl
  rw [ofDraft]
  by_cases same : other = id
  · subst same
    simp
  · simp [same, Ne.symm same]

/-- A committed transaction changes the rows of its own booking, as `onRows` says. -/
theorem Transaction.rowsOf_apply {transaction : Transaction} {id : BookingId} {db next : Database}
    (applied : transaction.apply id db = some next) (other : BookingId) :
    next.rowsOf other =
      if other = id then transaction.onRows id (db.rowsOf other) else db.rowsOf other := by
  cases transaction with
  | saga draft segments =>
      obtain ⟨inserted, found, rfl⟩ := Option.map_eq_some_iff.mp applied
      rw [rowsOf_storeSegments, rowsOf_insertDraft found]
      by_cases same : other = id
      · subst same
        simp [Transaction.onRows]
      · simp [same]
  | insertRejected draft =>
      rw [rowsOf_insertDraft applied]
      rfl
  | confirm minutes =>
      cases applied
      rw [Database.rowsOf_confirmBooking]
      by_cases same : other = id <;> simp [same, Transaction.onRows]
  | peerReserve driverId segment =>
      cases applied
      rw [Database.rowsOf_insertReservation]
      have ofRow : (segment.reservation id driverId).bookingId = id := rfl
      rw [ofRow]
      by_cases same : other = id <;> simp [same, Transaction.onRows]
  | updateRejected => cases applied; exact rowsOf_setStatus db id other .rejected
  | release schema => cases applied; exact rowsOf_releaseSegment db id other schema
  | cancel => cases applied; exact rowsOf_cancelBookingRows db id other
  | orphan => cases applied; exact rowsOf_rejectOrphan db id other
  | dangling => cases applied; exact rowsOf_cancelDangling db id other
  | lingering schema => cases applied; exact rowsOf_cancelLingering db id other schema
  | peerRelease => cases applied; exact rowsOf_peerRelease db id other

def Transaction.inserts : Transaction → Bool
  | .saga .. | .insertRejected _ => true
  | _ => false

theorem Transaction.absent_of_apply {transaction : Transaction} {id : BookingId}
    {db next : Database} (applied : transaction.apply id db = some next)
    (inserts : transaction.inserts = true) : (db.rowsOf id).booking = none := by
  by_contra present
  have failed (draft : BookingDraft) (status : BookingStatus) :
      db.insertBooking (draft.booking id status) = none := Database.insertBooking_eq_none.mpr present
  cases transaction with
  | saga draft segments => simp [Transaction.apply, failed] at applied
  | insertRejected draft => simp [Transaction.apply, failed] at applied
  | _ => exact nomatch inserts

def Transaction.updates : Transaction → Bool
  | .saga .. | .insertRejected _ | .peerReserve .. => false
  | _ => true

def Transaction.announced : Transaction → Bool
  | .cancel | .orphan | .dangling => true
  | _ => false

section

variable {transaction : Transaction} {id : BookingId} {rows : BookingRows}

theorem Transaction.onRows_none (updates : transaction.updates = true) :
    transaction.onRows id .none = .none := by
  have cleared : ∀ schema, BookingRows.none.cancelIn schema = .none := by
    intro schema
    exact BookingRows.cancelIn_eq_self (by simp [BookingRows.none])
  cases transaction with
  | saga draft segments => exact nomatch updates
  | insertRejected draft => exact nomatch updates
  | peerReserve driverId segment => exact nomatch updates
  | release schema => exact cleared schema
  | lingering schema => exact cleared schema
  | _ => rfl

theorem Transaction.onRows_booking_eq_none (updates : transaction.updates = true) :
    (transaction.onRows id rows).booking = none ↔ rows.booking = none := by
  cases transaction with
  | saga draft segments => exact nomatch updates
  | insertRejected draft => exact nomatch updates
  | peerReserve driverId segment => exact nomatch updates
  | _ =>
      simp [Transaction.onRows, BookingRows.setStatus, BookingRows.cancelIn,
        BookingRows.cancelBooking, BookingRows.cancelSegments, BookingRows.rejectOrphan,
        BookingRows.cancelDangling, BookingRows.cancelRegional]

theorem Transaction.onRows_segments_eq_nil (updates : transaction.updates = true) :
    (transaction.onRows id rows).segments = [] ↔ rows.segments = [] := by
  cases transaction with
  | saga draft segments => exact nomatch updates
  | insertRejected draft => exact nomatch updates
  | peerReserve driverId segment => exact nomatch updates
  | _ =>
      simp [Transaction.onRows, BookingRows.setStatus, BookingRows.cancelIn,
        BookingRows.cancelBooking, BookingRows.cancelSegments, BookingRows.rejectOrphan,
        BookingRows.cancelDangling, BookingRows.cancelRegional, cancelSegments]

end

/-- Case A would cancel it, were it CONFIRMED for long enough. -/
def BookingRows.unbacked (rows : BookingRows) : Prop :=
  ∀ row ∈ rows.segments, row.status ≠ .confirmed

def BookingRows.decided (rows : BookingRows) : Prop :=
  ∀ row, rows.booking = some row → row.status ≠ .pending

def BookingRows.unconfirmed (rows : BookingRows) : Prop :=
  ∀ row, rows.booking = some row → row.status ≠ .confirmed

section

variable {transaction : Transaction} {id : BookingId} {rows : BookingRows}

theorem BookingRows.unbacked_cancelSegments (rows : BookingRows) :
    rows.cancelSegments.unbacked := by
  intro row member
  obtain ⟨before, _, rfl⟩ := List.mem_map.mp member
  exact fun same => nomatch same

theorem Transaction.unbacked_onRows (updates : transaction.updates = true)
    (unbacked : rows.unbacked) : (transaction.onRows id rows).unbacked := by
  cases transaction with
  | saga draft segments => exact nomatch updates
  | insertRejected draft => exact nomatch updates
  | peerReserve driverId segment => exact nomatch updates
  | cancel => exact BookingRows.unbacked_cancelSegments (rows.setStatus .cancelled)
  | orphan => exact BookingRows.unbacked_cancelSegments rows.cancelRegional
  | _ => exact unbacked

/-- Only `create_booking` writes CONFIRMED. -/
theorem Transaction.unconfirmed_onRows (updates : transaction.updates = true)
    (notConfirm : ∀ minutes, transaction ≠ .confirm minutes) (unconfirmed : rows.unconfirmed) :
    (transaction.onRows id rows).unconfirmed := by
  have written (status : BookingStatus) (other : status ≠ .confirmed) (rows : BookingRows) :
      (rows.setStatus status).unconfirmed := by
    intro row found
    obtain ⟨before, _, rfl⟩ := Option.map_eq_some_iff.mp found
    exact other
  cases transaction with
  | saga draft segments => exact nomatch updates
  | insertRejected draft => exact nomatch updates
  | peerReserve driverId segment => exact nomatch updates
  | confirm minutes => exact absurd rfl (notConfirm minutes)
  | updateRejected => exact written .rejected (by decide) rows
  | cancel => exact written .cancelled (by decide) rows
  | orphan => exact written .rejected (by decide) rows.cancelRegional.cancelSegments
  | dangling => exact written .cancelled (by decide) rows.cancelRegional
  | _ => exact unconfirmed

/-- An update decides the booking, or touches its reservations only. -/
theorem Transaction.booking_onRows (updates : transaction.updates = true) :
    ((transaction.onRows id rows).booking = rows.booking ∧
      (transaction.onRows id rows).segments = rows.segments) ∨
    ∃ change : Booking → Booking, (transaction.onRows id rows).booking = rows.booking.map change ∧
      ∀ row, (change row).status = .confirmed ∨ (change row).status.active = false := by
  cases transaction with
  | saga draft segments => exact nomatch updates
  | insertRejected draft => exact nomatch updates
  | peerReserve driverId segment => exact nomatch updates
  | confirm minutes => exact .inr ⟨_, rfl, fun _ => .inl rfl⟩
  | updateRejected => exact .inr ⟨_, rfl, fun _ => .inr rfl⟩
  | cancel => exact .inr ⟨_, rfl, fun _ => .inr rfl⟩
  | orphan => exact .inr ⟨_, rfl, fun _ => .inr rfl⟩
  | dangling => exact .inr ⟨_, rfl, fun _ => .inr rfl⟩
  | release schema => exact .inl ⟨rfl, rfl⟩
  | lingering schema => exact .inl ⟨rfl, rfl⟩
  | peerRelease => exact .inl ⟨rfl, rfl⟩

theorem Transaction.decided_onRows (updates : transaction.updates = true)
    (decided : rows.decided) : (transaction.onRows id rows).decided := by
  intro row found
  rcases @Transaction.booking_onRows transaction id rows updates with ⟨same, _⟩ | ⟨change, changed, final⟩
  · exact decided row (same ▸ found)
  · rw [changed] at found
    obtain ⟨before, _, rfl⟩ := Option.map_eq_some_iff.mp found
    rcases final before with confirmed | inactive
    · simp [confirmed]
    · intro pending
      simp [pending, BookingStatus.active] at inactive

theorem Transaction.segments_onRows (updates : transaction.updates = true) :
    (transaction.onRows id rows).segments = rows.segments ∨
      (transaction.onRows id rows).segments = cancelSegments rows.segments := by
  cases transaction with
  | saga draft segments => exact nomatch updates
  | insertRejected draft => exact nomatch updates
  | peerReserve driverId segment => exact nomatch updates
  | cancel | orphan => exact .inr rfl
  | _ => exact .inl rfl

/-- An update of a booking cancels its reservations table by table, or not at all. -/
theorem Transaction.regional_onRows (updates : transaction.updates = true) (schema : RegionSchema) :
    (transaction.onRows id rows).regional schema = rows.regional schema ∨
      (transaction.onRows id rows).regional schema = cancelAll (rows.regional schema) := by
  have inOne (place : RegionSchema) : (rows.cancelIn place).regional schema = rows.regional schema ∨
      (rows.cancelIn place).regional schema = cancelAll (rows.regional schema) := by
    by_cases here : schema = place
    · subst here
      exact .inr (by simp [BookingRows.cancelIn])
    · exact .inl (by simp [BookingRows.cancelIn, here])
  cases transaction with
  | saga draft segments => exact nomatch updates
  | insertRejected draft => exact nomatch updates
  | peerReserve driverId segment => exact nomatch updates
  | release place => exact inOne place
  | lingering place => exact inOne place
  | orphan | dangling | peerRelease => exact .inr rfl
  | confirm minutes | updateRejected | cancel => exact .inl rfl

theorem Transaction.active_onRows {schema : RegionSchema} {row : Reservation}
    (updates : transaction.updates = true)
    (member : row ∈ (transaction.onRows id rows).regional schema)
    (active : row.status.active = true) : row ∈ rows.regional schema := by
  rcases @Transaction.regional_onRows transaction id rows updates schema with same | cancelled
  · exact same ▸ member
  · rw [cancelled] at member
    obtain ⟨before, _, rfl⟩ := List.mem_map.mp member
    exact nomatch active

end

/-! ### What every statement keeps -/

/-- Kept by each statement, whatever booking it is about. -/
structure Database.Kept (property : Database → Prop) : Prop where
  bookings : ∀ db bookings, property db → property { db with bookings }
  segments : ∀ db segmentReservations, property db → property { db with segmentReservations }
  reserved : ∀ db (segment : RouteSegment) id driverId, property db →
    property (db.insertReservation segment.schema (segment.reservation id driverId))
  updated : ∀ db schema condition status, property db →
    property (db.updateReservations schema condition status)

theorem foldl_kept {property : Database → Prop} {Item : Type} {change : Database → Item → Database}
    (keeps : ∀ db item, property db → property (change db item)) (items : List Item)
    {db : Database} (holds : property db) : property (items.foldl change db) := by
  induction items generalizing db with
  | nil => exact holds
  | cons item rest ih => exact ih (keeps db item holds)

namespace Database.Kept

variable {property : Database → Prop} {db next : Database} {id : BookingId}

theorem insertBooking (kept : Kept property) {row : Booking} (holds : property db)
    (inserted : db.insertBooking row = some next) : property next := by
  obtain ⟨bookings, _, rfl⟩ := Option.map_eq_some_iff.mp inserted
  exact kept.bookings db bookings holds

theorem storeSegments (kept : Kept property) (driverId : DriverId) (segments : List RouteSegment)
    (holds : property db) : property (TrafficService.storeSegments db id driverId segments) := by
  refine foldl_kept ?_ segments holds
  intro db segment before
  exact kept.segments _ _ (kept.reserved db segment id driverId before)

theorem peerRelease (kept : Kept property) (holds : property db) :
    property (TrafficService.peerRelease db id) :=
  foldl_kept (fun db schema before => kept.updated db schema _ _ before) regionSchemas holds

theorem cancelReservations (kept : Kept property) (holds : property db) :
    property (TrafficService.cancelReservations db id) :=
  foldl_kept (fun db schema before => kept.updated db schema _ _ before) regionSchemas holds

theorem rejectOrphan (kept : Kept property) (holds : property db) :
    property (TrafficService.rejectOrphan db id) :=
  kept.bookings _ _ (kept.segments _ _ (kept.cancelReservations holds))

theorem cancelDangling (kept : Kept property) (holds : property db) :
    property (TrafficService.cancelDangling db id) :=
  kept.bookings _ _ (kept.cancelReservations holds)

theorem apply (kept : Kept property) {transaction : Transaction} (holds : property db)
    (applied : transaction.apply id db = some next) : property next := by
  cases transaction with
  | saga draft segments =>
      obtain ⟨inserted, found, rfl⟩ := Option.map_eq_some_iff.mp applied
      exact kept.storeSegments _ segments (kept.insertBooking holds found)
  | insertRejected draft => exact kept.insertBooking holds applied
  | confirm minutes => cases applied; exact kept.bookings db _ holds
  | updateRejected => cases applied; exact kept.bookings db _ holds
  | release schema => cases applied; exact kept.updated db schema _ _ holds
  | lingering schema => cases applied; exact kept.updated db schema _ _ holds
  | cancel => cases applied; exact kept.segments _ _ (kept.bookings db _ holds)
  | orphan => cases applied; exact kept.rejectOrphan holds
  | dangling => cases applied; exact kept.cancelDangling holds
  | peerReserve driverId segment => cases applied; exact kept.reserved db segment id driverId holds
  | peerRelease => cases applied; exact kept.peerRelease holds

end Database.Kept

theorem kept_users (users : DriverId → Option (Option Plate)) :
    Database.Kept fun db => db.users = users where
  bookings _ _ same := same
  segments _ _ same := same
  reserved _ _ _ _ same := same
  updated _ _ _ _ same := same

end TrafficService
