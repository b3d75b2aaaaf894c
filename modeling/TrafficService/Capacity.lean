import TrafficService.Database

/-! `capacity.py`: the capacity count, the reservation insert and the release of a booking,
and the exceptions the booking service raises. -/

namespace TrafficService

open Table

inductive ServiceError
  | capacityExceeded (segmentId : SegmentId) (slot : DateTime)
  | segmentNotFound (schema : RegionSchema) (segmentId : SegmentId)
  | integrity
  | routeNotFound
  | regionUnavailable (region : Region)
  | peerStatus
  | publish
  | sagaRollback (reason : ServiceError)
  | bookingNotFound (id : BookingId)
  | permission
  deriving DecidableEq, Repr

def Reservation.occupies (row : Reservation) (segmentId : SegmentId) (slot : DateTime) : Bool :=
  row.segmentId = segmentId && row.timeSlotStart = slot && row.status.active

def bookedCount (db : Database) (schema : RegionSchema) (segmentId : SegmentId)
    (slot : DateTime) : Nat :=
  (db.reservations schema).countP fun row => row.occupies segmentId slot

structure Capacity where
  slotStart : DateTime
  slotEnd : DateTime
  booked : Nat
  max : Nat
  deriving DecidableEq, Repr

def checkCapacity (db : Database) (schema : RegionSchema) (segmentId : SegmentId)
    (departureTime : DateTime) : Except ServiceError Capacity :=
  let slotStart := hourStart departureTime
  match db.maxCapacityPerSlot schema segmentId with
  | none => .error (.segmentNotFound schema segmentId)
  | some max => .ok {
      slotStart
      slotEnd := slotStart + hour
      booked := bookedCount db schema segmentId slotStart
      max }

/-- The foreign key on `road_segments` refuses an unknown segment. -/
def reserveSegment (db : Database) (schema : RegionSchema) (row : Reservation) :
    Except ServiceError Database :=
  match db.maxCapacityPerSlot schema row.segmentId with
  | none => .error .integrity
  | some _ => .ok (db.insertReservation schema row)

def releaseSegment (db : Database) (schema : RegionSchema) (id : BookingId) : Database :=
  db.updateReservations schema (fun row => row.bookingId = id) .cancelled

def RouteSegment.reservation (segment : RouteSegment) (id : BookingId) (driverId : DriverId) :
    Reservation where
  bookingId := id
  segmentId := segment.segmentId
  driverId := driverId
  timeSlotStart := segment.slotStart
  timeSlotEnd := segment.slotEnd
  status := .confirmed

def RouteSegment.segmentReservation (segment : RouteSegment) (id : BookingId) :
    SegmentReservation where
  bookingId := id
  segmentId := segment.segmentId
  region := segment.region
  timeSlotStart := segment.slotStart
  timeSlotEnd := segment.slotEnd
  status := .confirmed

def storeSegment (db : Database) (id : BookingId) (driverId : DriverId) (segment : RouteSegment) :
    Database :=
  (db.insertReservation segment.schema (segment.reservation id driverId)).insertSegmentReservation
    (segment.segmentReservation id)

def RouteSegment.occupies (segment : RouteSegment) (schema : RegionSchema) (segmentId : SegmentId)
    (slot : DateTime) : Bool :=
  segment.schema = schema && segment.segmentId = segmentId && segment.slotStart = slot

theorem checkCapacity_eq {db : Database} {schema : RegionSchema} {segmentId : SegmentId}
    {slot : DateTime} {max : Nat} (aligned : hourStart slot = slot)
    (known : db.maxCapacityPerSlot schema segmentId = some max) :
    checkCapacity db schema segmentId slot =
      .ok ⟨slot, slot + hour, bookedCount db schema segmentId slot, max⟩ := by
  simp [checkCapacity, known, aligned]

theorem checkCapacity_ok {db : Database} {schema : RegionSchema} {segmentId : SegmentId}
    {time : DateTime} {capacity : Capacity}
    (checked : checkCapacity db schema segmentId time = .ok capacity) :
    db.maxCapacityPerSlot schema segmentId = some capacity.max ∧
      capacity.booked = bookedCount db schema segmentId (hourStart time) := by
  simp only [checkCapacity] at checked
  split at checked
  · exact nomatch checked
  · rename_i max known
    cases checked
    exact ⟨known, rfl⟩

theorem checkCapacity_error {db : Database} {schema : RegionSchema} {segmentId : SegmentId}
    {time : DateTime} {error : ServiceError}
    (checked : checkCapacity db schema segmentId time = .error error) :
    db.maxCapacityPerSlot schema segmentId = none := by
  simp only [checkCapacity] at checked
  split at checked
  · assumption
  · exact nomatch checked

theorem bookedCount_insertReservation (db : Database) (place schema : RegionSchema)
    (row : Reservation) (segmentId : SegmentId) (slot : DateTime) :
    bookedCount (db.insertReservation place row) schema segmentId slot =
      bookedCount db schema segmentId slot +
        if schema = place ∧ row.occupies segmentId slot = true then 1 else 0 := by
  by_cases here : schema = place
  · subst here
    simp [bookedCount, Database.insertReservation, List.countP_append, List.countP_cons]
  · simp [bookedCount, Database.insertReservation, here]

@[simp] theorem RouteSegment.occupies_reservation (segment : RouteSegment) (id : BookingId)
    (driverId : DriverId) (segmentId : SegmentId) (slot : DateTime) :
    (segment.reservation id driverId).occupies segmentId slot =
      (segment.segmentId = segmentId && segment.slotStart = slot) :=
  Bool.and_true _

theorem bookedCount_insert_segment (db : Database) (segment : RouteSegment) (id : BookingId)
    (driverId : DriverId) (schema : RegionSchema) (segmentId : SegmentId) (slot : DateTime) :
    bookedCount (db.insertReservation segment.schema (segment.reservation id driverId)) schema
        segmentId slot =
      bookedCount db schema segmentId slot +
        if segment.occupies schema segmentId slot = true then 1 else 0 := by
  rw [bookedCount_insertReservation]
  by_cases here : segment.schema = schema
  · rw [RouteSegment.occupies_reservation]
    simp only [RouteSegment.occupies, here, decide_true, Bool.true_and, true_and]
  · simp [RouteSegment.occupies, here, Ne.symm here]

theorem Reservation.occupies_cancelled (row : Reservation) (segmentId : SegmentId)
    (slot : DateTime) :
    ({ row with status := .cancelled } : Reservation).occupies segmentId slot = false := by
  simp [Reservation.occupies, BookingStatus.active]

theorem bookedCount_cancel_le (db : Database) (place schema : RegionSchema)
    (condition : Reservation → Bool) (segmentId : SegmentId) (slot : DateTime) :
    bookedCount (db.updateReservations place condition .cancelled) schema segmentId slot ≤
      bookedCount db schema segmentId slot := by
  by_cases here : schema = place
  · subst here
    simp only [bookedCount, Database.updateReservations, Function.update_self]
    exact countP_updateWhere_le (fun row _ => row.occupies_cancelled segmentId slot) _
  · simp [bookedCount, Database.updateReservations, here]

theorem bookedCount_releaseSegment_le (db : Database) (place schema : RegionSchema)
    (id : BookingId) (segmentId : SegmentId) (slot : DateTime) :
    bookedCount (releaseSegment db place id) schema segmentId slot ≤
      bookedCount db schema segmentId slot :=
  bookedCount_cancel_le db place schema _ segmentId slot

end TrafficService
