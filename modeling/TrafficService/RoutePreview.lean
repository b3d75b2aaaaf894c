import TrafficService.RouteResolution
import TrafficService.SequentialBooking
import Mathlib.Data.List.Destutter

/-!
`preview_route` beside `create_booking`: what a driver is shown of a journey before it is booked,
and what is then booked.
-/

namespace TrafficService.Routing

open Table

structure RoutePreviewRequest where
  originLat : ℚ
  originLng : ℚ
  destinationLat : ℚ
  destinationLng : ℚ
  departureTime : Timestamp
  deriving DecidableEq

structure RoutePreviewSegment where
  segmentId : SegmentId
  segmentName : String
  region : Region
  distanceKm : ℚ
  durationMinutes : Nat
  slotStart : DateTime
  slotEnd : DateTime
  startLat : ℚ
  startLng : ℚ
  endLat : ℚ
  endLng : ℚ
  deriving DecidableEq

structure RoutePreviewOut where
  routeAvailable : Bool
  reason : Option String
  estimatedDurationMinutes : Option Nat
  regionChain : List Region
  segments : List RoutePreviewSegment
  deriving DecidableEq

/-- The `name` column of the `road_segments` tables, and the first eight characters of an id. -/
structure SegmentNames where
  name : RegionSchema → SegmentId → Option String
  shortId : SegmentId → String

def SegmentNames.segmentName (names : SegmentNames) (schema : RegionSchema) (id : SegmentId) :
    String :=
  match names.name schema id with
  | none | some "" => names.shortId id
  | some name => name

def roundToCents (x : ℚ) : ℚ := BinaryFloat.roundEven (x * 100) / 100

structure PreviewLists where
  regionChain : List Region
  segments : List RoutePreviewSegment

section

variable (haversine : Haversine) (network : RoadNetwork) (names : SegmentNames)

def previewSegment (segment : RoutedSegment) : RoutePreviewSegment where
  segmentId := segment.segmentId
  segmentName := names.segmentName segment.schema segment.segmentId
  region := segment.region
  distanceKm := roundToCents segment.distanceKm.val
  durationMinutes := segment.durationMinutes
  slotStart := segment.slotStart
  slotEnd := segment.slotEnd
  startLat := segment.startLat
  startLng := segment.startLng
  endLat := segment.endLat
  endLng := segment.endLng

def PreviewLists.add (lists : PreviewLists) (segment : RoutedSegment) : PreviewLists where
  regionChain :=
    if lists.regionChain.getLast? = some segment.region then lists.regionChain
    else lists.regionChain ++ [segment.region]
  segments := lists.segments ++ [previewSegment names segment]

def RoutePreviewRequest.resolve (request : RoutePreviewRequest) :
    Except RouteError (List RoutedSegment × Nat) :=
  resolveRoute haversine network request.originLat request.originLng request.destinationLat
    request.destinationLng request.departureTime.replaceTzinfo

def previewRoute (request : RoutePreviewRequest) : Except RouteError RoutePreviewOut :=
  match request.resolve haversine network with
  | .error error => .error error
  | .ok ([], _) => .error (.routeNotFound "No valid path found between origin and destination")
  | .ok (segments, estimatedDurationMinutes) =>
      let lists := segments.foldl (PreviewLists.add names) ⟨[], []⟩
      .ok {
        routeAvailable := true
        reason := none
        estimatedDurationMinutes := some estimatedDurationMinutes
        regionChain := lists.regionChain
        segments := lists.segments }

/-- `POST /bookings/preview-route`. It catches RouteNotFoundError alone: any other error is answered
with 500. -/
def previewRouteEndpoint (request : RoutePreviewRequest) : Except RouteError RoutePreviewOut :=
  match previewRoute haversine network names request with
  | .error (.routeNotFound message) => .ok {
      routeAvailable := false
      reason := some message
      estimatedDurationMinutes := none
      regionChain := []
      segments := [] }
  | answer => answer

/-- What `execute_booking_saga` gets from `resolve_route` for the same two places and departure;
`none` where it raises. -/
def RoutePreviewRequest.bookedRoute (request : RoutePreviewRequest) : Option Route :=
  match resolved : request.resolve haversine network with
  | .error _ => none
  | .ok (segments, estimatedDurationMinutes) => some {
      segments := segments.map RoutedSegment.toRouteSegment
      estimatedDurationMinutes
      nonempty := by
        obtain ⟨_, _, _, path, _, located, _, rfl, _⟩ := located_of_resolved resolved
        cases path with
        | nil => exact absurd rfl located.leaves
        | cons edge rest => simp [lay]
      distinct := by
        rw [List.map_map]
        exact nodup_resolveRoute resolved }

end

structure BookingCreateRequest where
  driverId : DriverId
  journey : RoutePreviewRequest
  plateNumber : Option Plate
  createdAt : DateTime

def BookingCreateRequest.booking (request : BookingCreateRequest) : BookingRequest where
  driverId := request.driverId
  plateNumber := request.plateNumber
  departureTime := request.journey.departureTime.replaceTzinfo
  createdAt := request.createdAt

def BookingCreateRequest.perform (haversine : Haversine) (network : RoadNetwork)
    (deployment : Deployment) (environment : Environment) (vm : Vm) (id : BookingId)
    (tables : Tables) (request : BookingCreateRequest) : Response :=
  createBooking deployment environment vm id tables request.booking
    (request.journey.bookedRoute haversine network)

/-! ### What is shown -/

section

variable {haversine : Haversine} {network : RoadNetwork} {names : SegmentNames}

theorem regionChain_foldl (segments : List RoutedSegment) (done : List Region) (last : Region)
    (shown : List RoutePreviewSegment) :
    segments.foldl (PreviewLists.add names) ⟨done ++ [last], shown⟩ =
      ⟨done ++ (segments.map (·.region)).destutter' (· ≠ ·) last,
        shown ++ segments.map (previewSegment names)⟩ := by
  induction segments generalizing done last shown with
  | nil => simp
  | cons segment rest ih =>
      rw [List.foldl_cons, PreviewLists.add, List.getLast?_concat, List.map_cons, List.map_cons,
        List.destutter'_cons]
      by_cases same : last = segment.region
      · simp only [same, if_true, ne_eq, not_true_eq_false, if_false]
        rw [ih, List.append_assoc, List.singleton_append]
      · rw [if_neg (by simpa using same), if_pos same, ih]
        simp

theorem lists_segments (segments : List RoutedSegment) :
    segments.foldl (PreviewLists.add names) ⟨[], []⟩ =
      ⟨(segments.map (·.region)).destutter (· ≠ ·), segments.map (previewSegment names)⟩ := by
  cases segments with
  | nil => rfl
  | cons segment rest =>
      have later := @regionChain_foldl names rest [] segment.region [previewSegment names segment]
      rw [List.map_cons, List.map_cons, List.destutter_cons']
      exact later

/-- The endpoint shows a route exactly where a booking would get one. -/
inductive Previewed (names : SegmentNames) :
    Except RouteError RoutePreviewOut → Option Route → Prop
  | available (segments : List RoutedSegment) (route : Route)
      (same : route.segments = segments.map RoutedSegment.toRouteSegment)
      (positive : 0 < route.estimatedDurationMinutes) :
      Previewed names (.ok {
        routeAvailable := true
        reason := none
        estimatedDurationMinutes := some route.estimatedDurationMinutes
        regionChain := (segments.map (·.region)).destutter (· ≠ ·)
        segments := segments.map (previewSegment names) }) (some route)
  | unavailable (message : String) :
      Previewed names (.ok {
        routeAvailable := false
        reason := some message
        estimatedDurationMinutes := none
        regionChain := []
        segments := [] }) none
  | failed (error : RouteError) (raised : error = .valueError ∨ error = .overflowError) :
      Previewed names (.error error) none

theorem bookedRoute_of_ok {request : RoutePreviewRequest} {segments : List RoutedSegment}
    {minutes : Nat} (resolved : request.resolve haversine network = .ok (segments, minutes)) :
    ∃ route, request.bookedRoute haversine network = some route ∧
      route.segments = segments.map RoutedSegment.toRouteSegment ∧
      route.estimatedDurationMinutes = minutes := by
  rw [RoutePreviewRequest.bookedRoute]
  split
  · next error failed => cases resolved.symm.trans failed
  · next other total found =>
      cases resolved.symm.trans found
      exact ⟨_, rfl, rfl, rfl⟩

theorem bookedRoute_of_error {request : RoutePreviewRequest} {error : RouteError}
    (failed : request.resolve haversine network = .error error) :
    request.bookedRoute haversine network = none := by
  rw [RoutePreviewRequest.bookedRoute]
  split
  · rfl
  · next other total found => cases failed.symm.trans found

theorem previewed (names : SegmentNames) (request : RoutePreviewRequest) :
    Previewed names (previewRouteEndpoint haversine network names request)
      (request.bookedRoute haversine network) := by
  have raised (error : RouteError) (own : error = .valueError ∨ error = .overflowError)
      (failed : request.resolve haversine network = .error error) :
      Previewed names (previewRouteEndpoint haversine network names request)
        (request.bookedRoute haversine network) := by
    have answer : previewRouteEndpoint haversine network names request = .error error := by
      rcases own with rfl | rfl
      · simp only [previewRouteEndpoint, previewRoute, failed]
      · simp only [previewRouteEndpoint, previewRoute, failed]
    rw [bookedRoute_of_error failed, answer]
    exact .failed error own
  rcases @resolveRoute_total haversine network request.originLat request.originLng
      request.destinationLat request.destinationLng request.departureTime.replaceTzinfo with
    ⟨segments, minutes, resolved⟩ | ⟨message, failed⟩ | failed | failed
  · have found : request.resolve haversine network = .ok (segments, minutes) := resolved
    obtain ⟨route, booked, same, rfl⟩ := bookedRoute_of_ok found
    have positive : 0 < route.estimatedDurationMinutes := by
      obtain ⟨_, _, _, _, _, _, _, _, total⟩ := located_of_resolved resolved
      rw [total]
      exact Nat.lt_of_lt_of_le Nat.zero_lt_one (Nat.le_max_left ..)
    rw [booked]
    cases segments with
    | nil => exact absurd same route.nonempty
    | cons segment rest =>
        simp only [previewRouteEndpoint, previewRoute, found]
        rw [lists_segments]
        exact .available (segment :: rest) route same positive
  · have missing : request.resolve haversine network = .error (.routeNotFound message) := failed
    rw [bookedRoute_of_error missing]
    simp only [previewRouteEndpoint, previewRoute, missing]
    exact .unavailable message
  · exact raised _ (.inl rfl) failed
  · exact raised _ (.inr rfl) failed

end

/-! ### What is booked -/

def RoutePreviewSegment.reservation (segment : RoutePreviewSegment) (id : BookingId)
    (driverId : DriverId) : Reservation where
  bookingId := id
  segmentId := segment.segmentId
  driverId := driverId
  timeSlotStart := segment.slotStart
  timeSlotEnd := segment.slotEnd
  status := .confirmed

def RoutePreviewOut.reservationsIn (preview : RoutePreviewOut) (schema : RegionSchema)
    (id : BookingId) (driverId : DriverId) : List Reservation :=
  (preview.segments.filter fun segment => regionSchemaMap segment.region = schema).map fun segment =>
    segment.reservation id driverId

def RoutePreviewSegment.hasRoom (db : Database) (segment : RoutePreviewSegment) : Bool :=
  (db.maxCapacityPerSlot (regionSchemaMap segment.region) segment.segmentId).any fun max =>
    bookedCount db (regionSchemaMap segment.region) segment.segmentId segment.slotStart < max

structure TurnedDown (vm : Vm) (id : BookingId) (tables : Tables) (response : Response) : Prop where
  raised : response.result ≠ .ok ()
  rejected : (response.tables vm).status? id = some .rejected
  kept : ∀ place schema, (response.tables place).activeRows schema = (tables place).activeRows schema

structure BookedAsShown (deployment : Deployment) (vm : Vm) (id : BookingId) (driverId : DriverId)
    (tables : Tables) (preview : RoutePreviewOut) (response : Response) : Prop where
  outcome : response.result = .ok () ↔ preview.routeAvailable = true ∧
    ∀ segment ∈ preview.segments,
      segment.hasRoom (tables (deployment.ownerOf vm segment.region)) = true
  minutes : response.result = .ok () → ∃ row, ((response.tables vm).rowsOf id).booking = some row ∧
    row.status = .confirmed ∧ row.estimatedDurationMinutes = preview.estimatedDurationMinutes
  reserved : response.result = .ok () → ∀ schema, (response.tables.activeRows schema).Perm
    (tables.activeRows schema ++ preview.reservationsIn schema id driverId)
  rejected : response.result ≠ .ok () → (response.tables vm).status? id = some .rejected ∧
    ∀ place schema, (response.tables place).activeRows schema = (tables place).activeRows schema

section

variable {haversine : Haversine} {network : RoadNetwork} {names : SegmentNames}
  {deployment : Deployment} {vm : Vm} {id : BookingId} {tables : Tables}

theorem reservationsIn_preview (segments : List RoutedSegment) (schema : RegionSchema)
    (driverId : DriverId) :
    ((segments.map (previewSegment names)).filter fun segment =>
        regionSchemaMap segment.region = schema).map (fun segment => segment.reservation id driverId) =
      reservationsIn schema id driverId (segments.map RoutedSegment.toRouteSegment) := by
  rw [reservationsIn, List.filter_map, List.filter_map, List.map_map, List.map_map]
  rfl

theorem minutes_of_ok {request : BookingRequest} {route : Route}
    (fresh : ∀ place, (tables place).rowsOf id = .none)
    (positive : 0 < route.estimatedDurationMinutes)
    (booked : ((createBooking deployment .faultless vm id tables request (some route)).tables
      vm).status? id = some .confirmed) :
    ∃ row, (((createBooking deployment .faultless vm id tables request (some route)).tables
        vm).rowsOf id).booking = some row ∧ row.status = .confirmed ∧
      row.estimatedDurationMinutes = some route.estimatedDurationMinutes := by
  have minutes : confirmedMinutes route = route.estimatedDurationMinutes := by
    rw [confirmedMinutes, if_neg (Nat.ne_of_gt positive)]
    exact Nat.max_eq_right positive
  have made := @created deployment .faultless vm id tables request fresh (some route)
  rw [Database.status?_eq] at booked
  generalize ((createBooking deployment .faultless vm id tables request (some route)).tables
    vm).rowsOf id = own at made booked ⊢
  generalize ((createBooking deployment .faultless vm id tables request (some route)).tables
    vm.peer).rowsOf id = peer at made
  cases made with
  | failed route own peer rejected => cases booked.symm.trans rejected
  | confirmed route => exact ⟨_, rfl, rfl, congrArg some minutes⟩

theorem bookedAsShown_available (request : BookingRequest) (segments : List RoutedSegment)
    {route : Route} (fresh : ∀ place, (tables place).rowsOf id = .none)
    (same : route.segments = segments.map RoutedSegment.toRouteSegment)
    (positive : 0 < route.estimatedDurationMinutes) {chain : List Region} :
    BookedAsShown deployment vm id request.driverId tables
      ⟨true, none, some route.estimatedDurationMinutes, chain,
        segments.map (previewSegment names)⟩
      (createBooking deployment .faultless vm id tables request (some route)) := by
  have whole := @sequential_createBooking deployment vm id tables request route fresh
  constructor
  · rw [whole.outcome, same]
    simp only [List.forall_mem_map, true_and]
    rfl
  · intro done
    exact minutes_of_ok fresh positive (whole.confirmed done)
  · intro done schema
    have union := whole.union done schema
    rw [same] at union
    rw [RoutePreviewOut.reservationsIn, reservationsIn_preview]
    exact union
  · exact fun failed => ⟨whole.rejected failed, whole.kept failed⟩

theorem turnedDown_of_unresolved (request : BookingRequest)
    (fresh : ∀ place, (tables place).rowsOf id = .none) :
    TurnedDown vm id tables (createBooking deployment .faultless vm id tables request none) := by
  have ended := @creation deployment .faultless vm id tables request none
  generalize createBooking deployment .faultless vm id tables request none = response at ended ⊢
  cases ended with
  | unflushed _ present =>
      rw [fresh] at present
      exact absurd rfl present
  | unresolved absent error =>
      refine ⟨nofun, ?_, ?_⟩
      · simp only [Tables.set_own]
        rw [Database.status?_eq, booking_rejectBooking absent]
        rfl
      · intro place schema
        rcases vm.eq_or_peer place with rfl | rfl
        · simp only [Tables.set_own]
          exact activeRows_rejectBooking _ _
        · simp only [Tables.set_peer]

theorem bookedAsShown_unavailable (request : BookingRequest) {message : String}
    (fresh : ∀ place, (tables place).rowsOf id = .none) :
    BookedAsShown deployment vm id request.driverId tables
      ⟨false, some message, none, [], []⟩
      (createBooking deployment .faultless vm id tables request none) := by
  have down := @turnedDown_of_unresolved deployment vm id tables request fresh
  exact ⟨iff_of_false down.raised (by simp), (absurd · down.raised), (absurd · down.raised),
    fun _ => ⟨down.rejected, down.kept⟩⟩

/-- A booking after its preview, with nothing in between: it is confirmed exactly if a route was
shown and every segment shown still has room, and then reserves the segments shown, for the slots
and the minutes shown; otherwise, and where the preview failed, it is rejected and reserves
nothing. -/
theorem booked_as_previewed (haversine : Haversine) (network : RoadNetwork) (names : SegmentNames)
    (deployment : Deployment) (vm : Vm) (id : BookingId) (tables : Tables)
    (request : BookingCreateRequest) (fresh : ∀ place, (tables place).rowsOf id = .none) :
    (∃ preview, previewRouteEndpoint haversine network names request.journey = .ok preview ∧
      preview.regionChain = (preview.segments.map (·.region)).destutter (· ≠ ·) ∧
      BookedAsShown deployment vm id request.driverId tables preview
        (request.perform haversine network deployment .faultless vm id tables)) ∨
    ∃ error, previewRouteEndpoint haversine network names request.journey = .error error ∧
      (error = .valueError ∨ error = .overflowError) ∧
      TurnedDown vm id tables (request.perform haversine network deployment .faultless vm id
        tables) := by
  have shown := @previewed haversine network names request.journey
  rw [BookingCreateRequest.perform]
  generalize request.journey.bookedRoute haversine network = route at shown
  generalize previewRouteEndpoint haversine network names request.journey = answer at shown
  cases shown with
  | available segments route same positive =>
      refine .inl ⟨_, rfl, ?_, bookedAsShown_available request.booking segments fresh same positive⟩
      rw [List.map_map]
      rfl
  | unavailable message =>
      exact .inl ⟨_, rfl, rfl, bookedAsShown_unavailable request.booking fresh⟩
  | failed error raised =>
      exact .inr ⟨error, rfl, raised, turnedDown_of_unresolved request.booking fresh⟩

def namedRoads : SegmentNames := ⟨fun _ id => if id = 1 then some "M1" else none, fun _ => "00000000"⟩

def northbound : RoutePreviewRequest := ⟨53, -6, 54, -6, .naive (10 * hour)⟩

example : previewRouteEndpoint meridian northRoad namedRoads northbound = .ok {
    routeAvailable := true
    reason := none
    estimatedDurationMinutes := some 74
    regionChain := [.euWestIreland]
    segments := [⟨1, "M1", .euWestIreland, 11119 / 100, 74, 10 * hour, 11 * hour, 53, -6, 54, -6⟩] } := by
  decide +kernel

theorem booked_as_previewed_northbound :
    (∃ preview, previewRouteEndpoint meridian northRoad namedRoads northbound = .ok preview ∧
      preview.regionChain = (preview.segments.map (·.region)).destutter (· ≠ ·) ∧
      BookedAsShown singleVm .vm1 0 7 emptyRoads preview
        ((BookingCreateRequest.mk 7 northbound none 0).perform meridian northRoad singleVm
          .faultless .vm1 0 emptyRoads)) ∨
    ∃ error, previewRouteEndpoint meridian northRoad namedRoads northbound = .error error ∧
      (error = .valueError ∨ error = .overflowError) ∧
      TurnedDown .vm1 0 emptyRoads ((BookingCreateRequest.mk 7 northbound none 0).perform meridian
        northRoad singleVm .faultless .vm1 0 emptyRoads) :=
  booked_as_previewed meridian northRoad namedRoads singleVm .vm1 0 emptyRoads
    ⟨7, northbound, none, 0⟩ fun _ => rfl

/-- An hour before the year 10000 there is no slot that ends. -/
example : previewRouteEndpoint meridian northRoad namedRoads
    { northbound with departureTime := .naive (datetimeMax + 1 - hour) } = .error .overflowError := by
  decide +kernel

end

end TrafficService.Routing
