import Mathlib.Algebra.GroupWithZero.Nat
import TrafficService.Announcements
import TrafficService.Timestamps

/-!
`create_booking` from the `datetime` of the request on, with the slots `resolve_route` lays
along the path. The path itself does not depend on the departure.
-/

namespace TrafficService

def Timestamp.replaceTzinfo (timestamp : Timestamp) : DateTime :=
  match timestamp.utcoffset with
  | some _ => timestamp.wall
  | none => timestamp.wall

structure SegmentEdge where
  segmentId : SegmentId
  region : Region
  durationMinutes : Nat
  deriving DecidableEq

/-- What `_shortest_path` and the approach make of the two places. A shortest path is not empty
and takes no edge twice. -/
structure Path where
  edges : List SegmentEdge
  approachMinutes : Nat
  nonempty : edges ≠ []
  distinct : (edges.map fun edge => (edge.region, edge.segmentId)).Nodup

/-- The loop of `resolve_route`; `none`: OverflowError. -/
def layEdges : DateTime → List SegmentEdge → Option (List RouteSegment)
  | _, [] => some []
  | tripCursor, edge :: rest =>
      (addTimedelta (hourStart tripCursor) hour).bind fun _ =>
        (addTimedelta tripCursor (edge.durationMinutes * minute)).bind fun next =>
          (layEdges next rest).map fun segments =>
            ⟨edge.segmentId, edge.region, hourStart tripCursor, hourStart_hourStart tripCursor⟩ ::
              segments

theorem layEdges_cons {tripCursor : DateTime} {edge : SegmentEdge} {rest : List SegmentEdge}
    {laid : List RouteSegment} : layEdges tripCursor (edge :: rest) = some laid ↔
      hourStart tripCursor + hour ≤ datetimeMax ∧
        tripCursor + edge.durationMinutes * minute ≤ datetimeMax ∧
        ∃ segments, layEdges (tripCursor + edge.durationMinutes * minute) rest = some segments ∧
          laid = ⟨edge.segmentId, edge.region, hourStart tripCursor,
            hourStart_hourStart tripCursor⟩ :: segments := by
  simp only [layEdges, Option.bind_eq_some_iff, Option.map_eq_some_iff, addTimedelta_eq_some]
  constructor
  · rintro ⟨_, ⟨ends, _⟩, _, ⟨drives, rfl⟩, segments, later, rfl⟩
    exact ⟨ends, drives, segments, later, rfl⟩
  · rintro ⟨ends, drives, segments, later, rfl⟩
    exact ⟨_, ⟨ends, rfl⟩, _, ⟨drives, rfl⟩, segments, later, rfl⟩

theorem map_layEdges {tripCursor : DateTime} {edges : List SegmentEdge} {laid : List RouteSegment}
    (drawn : layEdges tripCursor edges = some laid) :
    laid.map (fun segment => (segment.region, segment.segmentId)) =
      edges.map fun edge => (edge.region, edge.segmentId) := by
  induction edges generalizing tripCursor laid with
  | nil =>
      cases drawn
      rfl
  | cons edge rest ih =>
      obtain ⟨_, _, segments, later, rfl⟩ := layEdges_cons.mp drawn
      simp only [List.map_cons, ih later]

def resolveRoute (path : Path) (departureTime : DateTime) : Option Route :=
  match laid : layEdges departureTime path.edges with
  | none => none
  | some segments => some {
      segments
      estimatedDurationMinutes :=
        max 1 ((path.edges.map SegmentEdge.durationMinutes).sum + path.approachMinutes)
      nonempty := by
        rintro rfl
        have mapped := map_layEdges laid
        rw [List.map_nil, eq_comm, List.map_eq_nil_iff] at mapped
        exact path.nonempty mapped
      distinct := by
        rw [map_layEdges laid]
        exact path.distinct }

theorem resolveRoute_eq_some {path : Path} {departureTime : DateTime} {route : Route} :
    resolveRoute path departureTime = some route ↔
      layEdges departureTime path.edges = some route.segments ∧ route.estimatedDurationMinutes =
        max 1 ((path.edges.map SegmentEdge.durationMinutes).sum + path.approachMinutes) := by
  rw [resolveRoute]
  split
  · rename_i missing
    simp [missing]
  · rename_i segments laid
    obtain ⟨drawn, minutes, nonempty, distinct⟩ := route
    simp [laid, eq_comm]

/-- A route leaves before the last hour of the year 9999. -/
theorem departure_of_resolved {path : Path} {departureTime : DateTime} {route : Route}
    (resolved : resolveRoute path departureTime = some route) :
    hourStart departureTime + hour ≤ datetimeMax := by
  obtain ⟨laid, _⟩ := resolveRoute_eq_some.mp resolved
  obtain ⟨edge, rest, some⟩ := List.exists_cons_of_ne_nil path.nonempty
  rw [some] at laid
  exact (layEdges_cons.mp laid).1

structure BookingCreateRequest where
  driverId : DriverId
  plateNumber : Option Plate
  departureTime : Timestamp
  path : Option Path
  createdAt : DateTime

def BookingCreateRequest.booking (request : BookingCreateRequest) : BookingRequest where
  driverId := request.driverId
  plateNumber := request.plateNumber
  departureTime := request.departureTime.replaceTzinfo
  createdAt := request.createdAt

def BookingCreateRequest.perform (deployment : Deployment) (environment : Environment) (vm : Vm)
    (id : BookingId) (tables : Tables) (request : BookingCreateRequest) : Response :=
  createBooking deployment environment vm id tables request.booking
    (request.path.bind fun path => resolveRoute path request.booking.departureTime)

section

variable {deployment : Deployment} {environment : Environment} {vm : Vm} {id : BookingId}
  {tables : Tables}

/-- A confirmed booking is found in the two hours after the instant it was asked for if and only
if the request gave the instant in UTC. -/
theorem window_iff_utc {casing : CaseTables} {db : Database} {row : Booking} {instant offset : Int}
    (departure : row.departureTime = instant + offset) (confirmed : row.status = .confirmed) :
    (∀ now, row.verifiable casing db (sqlPlate casing db row) now = true ↔
      instant ≤ now ∧ now ≤ instant + journeyWindow) ↔ offset = 0 := by
  have window (now : DateTime) : row.verifiable casing db (sqlPlate casing db row) now = true ↔
      instant + offset ≤ now ∧ now ≤ instant + offset + journeyWindow := by
    rw [verifiable_iff, departure]
    simp [confirmed]
  have long (time : DateTime) : time ≤ time + journeyWindow :=
    Int.le_add_of_nonneg_right (by decide)
  constructor
  · intro same
    have after := (same (instant + offset)).mp ((window _).mpr ⟨Int.le_refl _, long _⟩)
    have before := (window instant).mp ((same instant).mpr ⟨Int.le_refl _, long _⟩)
    have early : 0 ≤ offset := by
      have bound := after.1
      omega
    have late : offset ≤ 0 := by
      have bound := before.1
      omega
    exact Int.le_antisymm late early
  · rintro rfl now
    rw [window, Int.add_zero]

end

/-! ### Ten o'clock in UTC, written in two ways -/

def oneEdge : Path := ⟨[⟨1, .euWestIreland, 45⟩], 0, by decide, by decide⟩

def journey (departureTime : Timestamp) : BookingCreateRequest :=
  ⟨7, some "12-D-345", departureTime, some oneEdge, 0⟩

end TrafficService
