import TrafficService.Admission
import TrafficService.Timestamps
import TrafficService.Lib.Lts
import Mathlib.Data.List.Dedup

/-!
Three readings of one slot: the count of `check_capacity`, which wants the slot to start on the
hour, the active rows of the hour, and the `booked_count` of `capacity_report`.
-/

namespace TrafficService

structure PeerReserveRequest where
  bookingId : BookingId
  segmentId : SegmentId
  /-- `none` for a name that `REGION_SCHEMA_MAP` does not have. -/
  region : Option Region
  driverId : DriverId
  slotStart : Timestamp
  slotEnd : Timestamp

def peerReserveEndpoint (db : Database) (request : PeerReserveRequest) :
    Except ServiceError Database :=
  match request.region, request.slotStart.parameter? with
  | some region, some slotStart =>
      match checkCapacity db (regionSchemaMap region) request.segmentId slotStart with
      | .error error => .error error
      | .ok capacity =>
          if capacity.booked ≥ capacity.max then
            .error (.capacityExceeded request.segmentId slotStart)
          else
            match request.slotEnd.parameter? with
            | none => .error .peerStatus
            | some slotEnd =>
                reserveSegment db (regionSchemaMap region)
                  { bookingId := request.bookingId
                    segmentId := request.segmentId
                    driverId := request.driverId
                    timeSlotStart := slotStart
                    timeSlotEnd := slotEnd
                    status := .confirmed }
  | _, _ => .error .peerStatus

def RouteSegment.peerRequest (segment : RouteSegment) (id : BookingId) (driverId : DriverId) :
    PeerReserveRequest where
  bookingId := id
  segmentId := segment.segmentId
  region := some segment.region
  driverId := driverId
  slotStart := .naive segment.slotStart
  slotEnd := .naive segment.slotEnd

/-! ### The report -/

def Reservation.within (row : Reservation) (segmentId : SegmentId) (slot : DateTime) : Bool :=
  row.segmentId = segmentId && hourStart row.timeSlotStart = slot && row.status.active

def Database.aligned (db : Database) : Prop :=
  ∀ schema, ∀ row ∈ db.reservations schema, hourStart row.timeSlotStart = row.timeSlotStart

section

variable {db : Database} {region : Region} {segmentId : SegmentId} {time : DateTime}

theorem peerReserveEndpoint_segment (segment : RouteSegment) (id : BookingId)
    (driverId : DriverId) (next : Database) :
    peerReserveEndpoint db (segment.peerRequest id driverId) = .ok next ↔
      peerReserve db id driverId segment = .ok next := by
  simp only [peerReserveEndpoint, peerReserve, RouteSegment.peerRequest, Timestamp.naive,
    Timestamp.parameter?]
  change (match checkCapacity db segment.schema segment.segmentId segment.slotStart with
    | .error error => Except.error error
    | .ok capacity => if capacity.booked ≥ capacity.max then
        .error (.capacityExceeded segment.segmentId segment.slotStart)
      else reserveSegment db segment.schema (segment.reservation id driverId)) = .ok next ↔ _
  cases checkCapacity db segment.schema segment.segmentId segment.slotStart with
  | error error => simp
  | ok capacity =>
      simp only
      split
      · simp
      · cases reserveSegment db segment.schema (segment.reservation id driverId) with
        | error error => simp
        | ok db => simp

end

/-! ### What the writers insert -/

section

variable {db : Database}

end

/-! ### Histories -/

inductive Operation
  | call (environment : Environment) (call : Call)
  | peerReserve (vm : Vm) (request : PeerReserveRequest)
  | peerRelease (vm : Vm) (id : BookingId)

def Operation.perform (deployment : Deployment) (tables : Tables) : Operation → Tables
  | .call environment served => (served.perform deployment environment tables).tables
  | .peerReserve vm request =>
      match peerReserveEndpoint (tables vm) request with
      | .error _ => tables
      | .ok db => Function.update tables vm db
  | .peerRelease vm id => Function.update tables vm (TrafficService.peerRelease (tables vm) id)

section

variable {deployment : Deployment} {tables : Tables} {db next : Database}
  {request : PeerReserveRequest}

end

end TrafficService
