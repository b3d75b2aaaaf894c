import TrafficService.Lib.KeyedTable
import Mathlib.Logic.Function.Basic

/-!
The tables one VM keeps in PostgreSQL and the statements the booking service issues on them.
`public.bookings` has its primary key built in; every other table is a list of rows.
-/

namespace TrafficService

open Table

abbrev BookingId := Nat
abbrev DriverId := Nat
abbrev SegmentId := Nat
abbrev Plate := String

/-- A naive `datetime`, in microseconds since 1970. That a `datetime` ends with the year 9999
counts where `addTimedelta` adds to the departure of a request, and is left out elsewhere. -/
abbrev DateTime := Int

def hour : DateTime := 3600000000

def minute : DateTime := 60000000

def second : DateTime := 1000000

/-- `datetime.max`, a microsecond before the year 10000. -/
def datetimeMax : DateTime := 253402300799999999

/-- `t + delta`, of a `delta` that is not negative; `none`: OverflowError. -/
def addTimedelta (time delta : Int) : Option DateTime :=
  if time + delta ≤ datetimeMax then some (time + delta) else none

theorem addTimedelta_eq_some {time delta sum : Int} :
    addTimedelta time delta = some sum ↔ time + delta ≤ datetimeMax ∧ sum = time + delta := by
  rw [addTimedelta]
  split
  · next fits => simp [fits, eq_comm]
  · next late => simp [late]

theorem addTimedelta_eq_none {time delta : Int} :
    addTimedelta time delta = none ↔ datetimeMax < time + delta := by
  rw [addTimedelta]
  split
  · next fits => simpa using fits
  · next late => simpa using late

def hourStart (time : DateTime) : DateTime := time - time % hour

theorem hourStart_hourStart (time : DateTime) : hourStart (hourStart time) = hourStart time := by
  have whole : hourStart time % hour = 0 := by
    rw [hourStart, Int.sub_emod, Int.emod_emod, Int.sub_self, Int.zero_emod]
  rw [hourStart, whole, Int.sub_zero]

theorem hourStart_zero : hourStart 0 = 0 := rfl

inductive BookingStatus
  | pending
  | confirmed
  | rejected
  | cancelled
  | sagaInProgress
  deriving DecidableEq, Repr

def BookingStatus.active : BookingStatus → Bool
  | .cancelled | .rejected => false
  | _ => true

inductive Region
  | euWestIreland
  | euWestUk
  | euWestFrance
  deriving DecidableEq, Repr

inductive RegionSchema
  | regionIreland
  | regionUk
  | regionFrance
  deriving DecidableEq, Repr

def regionSchemaMap : Region → RegionSchema
  | .euWestIreland => .regionIreland
  | .euWestUk => .regionUk
  | .euWestFrance => .regionFrance

def regionSchemas : List RegionSchema := [.regionIreland, .regionUk, .regionFrance]

theorem mem_regionSchemas (schema : RegionSchema) : schema ∈ regionSchemas := by
  cases schema <;> decide

theorem regionSchemaMap_injective : Function.Injective regionSchemaMap := by
  intro left right same
  cases left <;> cases right <;> first | rfl | exact absurd same (by decide)

/-- A row of `public.bookings`, without `updated_at`, which every update sets and nothing reads. -/
structure Booking where
  id : BookingId
  driverId : DriverId
  plateNumber : Option Plate
  departureTime : DateTime
  status : BookingStatus
  estimatedDurationMinutes : Option Nat
  createdAt : DateTime
  deriving DecidableEq, Repr

structure SegmentReservation where
  bookingId : BookingId
  segmentId : SegmentId
  region : Region
  timeSlotStart : DateTime
  timeSlotEnd : DateTime
  status : BookingStatus
  deriving DecidableEq, Repr

structure Reservation where
  bookingId : BookingId
  segmentId : SegmentId
  driverId : DriverId
  timeSlotStart : DateTime
  timeSlotEnd : DateTime
  status : BookingStatus
  deriving DecidableEq, Repr

structure Database where
  bookings : KeyedTable BookingId Booking Booking.id
  segmentReservations : List SegmentReservation
  reservations : RegionSchema → List Reservation
  /-- `max_capacity_per_slot` of the row of `road_segments`, if there is one. -/
  maxCapacityPerSlot : RegionSchema → SegmentId → Option Nat
  /-- `plate_number` of the row of `auth.users`, if there is one. -/
  users : DriverId → Option (Option Plate)

def Database.unbooked (maxCapacityPerSlot : RegionSchema → SegmentId → Option Nat)
    (users : DriverId → Option (Option Plate)) : Database where
  bookings := .empty
  segmentReservations := []
  reservations := fun _ => []
  maxCapacityPerSlot := maxCapacityPerSlot
  users := users

/-- One element of the list `resolve_route` returns. Its slot starts on the hour. -/
structure RouteSegment where
  segmentId : SegmentId
  region : Region
  slotStart : DateTime
  aligned : hourStart slotStart = slotStart
  deriving DecidableEq

def RouteSegment.schema (segment : RouteSegment) : RegionSchema := regionSchemaMap segment.region

def RouteSegment.slotEnd (segment : RouteSegment) : DateTime := segment.slotStart + hour

/-- What `resolve_route` returns when it succeeds: at least one segment, no road segment
twice, and the estimated duration. -/
structure Route where
  segments : List RouteSegment
  estimatedDurationMinutes : Nat
  nonempty : segments ≠ []
  distinct : (segments.map fun segment => (segment.region, segment.segmentId)).Nodup

def Route.single (segment : RouteSegment) (minutes : Nat) : Route where
  segments := [segment]
  estimatedDurationMinutes := minutes
  nonempty := by simp
  distinct := by simp

namespace Database

variable (db : Database) (id : BookingId)

def insertBooking (row : Booking) : Option Database :=
  (db.bookings.insert? row).map fun bookings => { db with bookings }

def setBookingStatus (status : BookingStatus) : Database :=
  { db with bookings := db.bookings.modify id (fun row => { row with status }) fun _ => rfl }

def confirmBooking (minutes : Nat) : Database :=
  { db with
    bookings := db.bookings.modify id
      (fun row => { row with status := .confirmed, estimatedDurationMinutes := some minutes })
      fun _ => rfl }

def insertReservation (schema : RegionSchema) (row : Reservation) : Database :=
  { db with
    reservations := Function.update db.reservations schema (db.reservations schema ++ [row]) }

def insertSegmentReservation (row : SegmentReservation) : Database :=
  { db with segmentReservations := db.segmentReservations ++ [row] }

def updateReservations (schema : RegionSchema) (condition : Reservation → Bool)
    (status : BookingStatus) : Database :=
  { db with
    reservations := Function.update db.reservations schema
      (updateWhere condition (fun row => { row with status }) (db.reservations schema)) }

def updateSegmentReservations (condition : SegmentReservation → Bool)
    (status : BookingStatus) : Database :=
  { db with
    segmentReservations :=
      updateWhere condition (fun row => { row with status }) db.segmentReservations }

def status? : Option BookingStatus := (db.bookings.find? id).map (·.status)

end Database

@[ext] structure BookingRows where
  booking : Option Booking
  segments : List SegmentReservation
  regional : RegionSchema → List Reservation

def BookingRows.none : BookingRows := ⟨Option.none, [], fun _ => []⟩

def Database.rowsOf (db : Database) (id : BookingId) : BookingRows where
  booking := db.bookings.find? id
  segments := db.segmentReservations.filter fun row => row.bookingId = id
  regional := fun schema => (db.reservations schema).filter fun row => row.bookingId = id

namespace Database

variable {db next : Database} {id other : BookingId}

theorem status?_eq (db : Database) (id : BookingId) :
    db.status? id = (db.rowsOf id).booking.map (·.status) := rfl

theorem rowsOf_of_mem {booking : Booking} (member : booking ∈ db.bookings.rows) :
    (db.rowsOf booking.id).booking = some booking :=
  KeyedTable.find?_of_mem member

theorem mem_of_rowsOf {booking : Booking} (found : (db.rowsOf id).booking = some booking) :
    booking ∈ db.bookings.rows ∧ booking.id = id :=
  ⟨KeyedTable.mem_of_find? found, KeyedTable.key_of_find? found⟩

theorem mem_rowsOf_regional {schema : RegionSchema} {row : Reservation} :
    row ∈ (db.rowsOf id).regional schema ↔ row ∈ db.reservations schema ∧ row.bookingId = id := by
  simp [rowsOf]

theorem mem_rowsOf_segments {row : SegmentReservation} :
    row ∈ (db.rowsOf id).segments ↔ row ∈ db.segmentReservations ∧ row.bookingId = id := by
  simp [rowsOf]

theorem rowsOf_unbooked (capacity : RegionSchema → SegmentId → Option Nat)
    (users : DriverId → Option (Option Plate)) :
    (unbooked capacity users).rowsOf id = .none := rfl

theorem insertBooking_eq_none {row : Booking} :
    db.insertBooking row = none ↔ (db.rowsOf row.id).booking ≠ none := by
  simp [insertBooking, KeyedTable.insert?_eq_none, rowsOf]

theorem absent_of_insertBooking {row : Booking} (inserted : db.insertBooking row = some next) :
    (db.rowsOf row.id).booking = none := by
  by_contra present
  exact nomatch (insertBooking_eq_none.mpr present).symm.trans inserted

theorem rowsOf_insertBooking {row : Booking} (inserted : db.insertBooking row = some next) :
    next.rowsOf other =
      if row.id = other then { db.rowsOf row.id with booking := some row } else db.rowsOf other := by
  simp only [insertBooking, Option.map_eq_some_iff] at inserted
  obtain ⟨bookings, inserted, rfl⟩ := inserted
  by_cases same : row.id = other
  · subst same
    simp [rowsOf, KeyedTable.find?_insert? _ inserted]
  · simp [rowsOf, KeyedTable.find?_insert? _ inserted, same]

theorem rowsOf_modifyBooking (change : Booking → Booking) (keeps : ∀ row, (change row).id = row.id) :
    ({ db with bookings := db.bookings.modify id change keeps } : Database).rowsOf other =
      if other = id then { db.rowsOf id with booking := (db.rowsOf id).booking.map change }
      else db.rowsOf other := by
  by_cases same : other = id
  · subst same
    simp [rowsOf, KeyedTable.find?_modify]
  · simp [rowsOf, KeyedTable.find?_modify, same]

theorem rowsOf_setBookingStatus (status : BookingStatus) :
    (db.setBookingStatus id status).rowsOf other =
      if other = id then
        { db.rowsOf id with booking := (db.rowsOf id).booking.map fun row => { row with status } }
      else db.rowsOf other :=
  rowsOf_modifyBooking _ _

theorem rowsOf_confirmBooking (minutes : Nat) :
    (db.confirmBooking id minutes).rowsOf other =
      if other = id then
        { db.rowsOf id with
          booking := (db.rowsOf id).booking.map fun row =>
            { row with status := .confirmed, estimatedDurationMinutes := some minutes } }
      else db.rowsOf other :=
  rowsOf_modifyBooking _ _

theorem rowsOf_insertReservation (schema : RegionSchema) (row : Reservation) :
    (db.insertReservation schema row).rowsOf other =
      if other = row.bookingId then
        { db.rowsOf other with
          regional := Function.update (db.rowsOf other).regional schema
            ((db.rowsOf other).regional schema ++ [row]) }
      else db.rowsOf other := by
  by_cases same : other = row.bookingId
  · subst same
    rw [if_pos rfl]
    ext1
    · rfl
    · rfl
    · funext place
      by_cases here : place = schema
      · subst here
        simp [rowsOf, insertReservation]
      · simp [rowsOf, insertReservation, here]
  · rw [if_neg same]
    ext1
    · rfl
    · rfl
    · funext place
      by_cases here : place = schema
      · subst here
        simp [rowsOf, insertReservation, Ne.symm same]
      · simp [rowsOf, insertReservation, here]

theorem rowsOf_insertSegmentReservation (row : SegmentReservation) :
    (db.insertSegmentReservation row).rowsOf other =
      if other = row.bookingId then
        { db.rowsOf other with segments := (db.rowsOf other).segments ++ [row] }
      else db.rowsOf other := by
  by_cases same : other = row.bookingId
  · subst same
    simp [rowsOf, insertSegmentReservation]
  · simp [rowsOf, insertSegmentReservation, same, Ne.symm same]

theorem rowsOf_updateReservations (schema : RegionSchema) (condition : Reservation → Bool)
    (status : BookingStatus) :
    (db.updateReservations schema condition status).rowsOf other =
      { db.rowsOf other with
        regional := Function.update (db.rowsOf other).regional schema
          (updateWhere condition (fun row => { row with status })
            ((db.rowsOf other).regional schema)) } := by
  ext1
  · rfl
  · rfl
  · funext place
    by_cases here : place = schema
    · subst here
      simp only [rowsOf, updateReservations, Function.update_self]
      exact filter_updateWhere Reservation.bookingId other condition
        (fun row => { row with status }) (fun _ => rfl) _
    · simp [rowsOf, updateReservations, here]

theorem rowsOf_updateSegmentReservations (condition : SegmentReservation → Bool)
    (status : BookingStatus) :
    (db.updateSegmentReservations condition status).rowsOf other =
      { db.rowsOf other with
        segments := updateWhere condition (fun row => { row with status })
          (db.rowsOf other).segments } := by
  simp only [rowsOf, updateSegmentReservations, BookingRows.mk.injEq, true_and, and_true]
  exact filter_updateWhere SegmentReservation.bookingId other condition
    (fun row => { row with status }) (fun _ => rfl) _

end Database

end TrafficService
