import TrafficService.Lib.BinaryFloat
import TrafficService.PreferredPath

/-!
`resolve_route` as a whole: the rows of the three `road_segments` tables, the nodes the two places
snap to, the path between them, and the hour slot each segment of it is given. Lengths are doubles,
added, multiplied and divided as doubles are; coordinates are finite.
-/

namespace TrafficService.Routing

open Walks BinaryFloat

/-! ### Lengths and places -/

abbrev Double := Magnitude binary64

def averageSpeedKmph : Double := .rounded 90 (by norm_num)

def minSegmentMinutes : Nat := 5

def minutesFor (km : Double) : Nat :=
  (roundEven (km / averageSpeedKmph * .rounded 60 (by norm_num)).val).toNat

def toMinutes (distanceKm : Double) : Nat := max minSegmentMinutes (minutesFor distanceKm)

/-- The third is 61.5 minutes, and not quite that in doubles. -/
example : minutesFor (.rounded (3 / 4) (by norm_num)) = 0 ∧
    toMinutes (.rounded (9 / 4) (by norm_num)) = 5 ∧
    minutesFor (.rounded (369 / 4) (by norm_num)) = 61 := by
  decide +kernel

abbrev NodeKey := Int ×ₗ Int

def nodeKey (lat lng : ℚ) : NodeKey := toLex (roundEven (lat * 10000), roundEven (lng * 10000))

/-- `_haversine_km`; `none`: ValueError, as of the arc sine of what is over one. -/
abbrev Haversine := ℚ → ℚ → ℚ → ℚ → Option Double

/-! ### `_load_edges` -/

structure RoadSegment where
  id : SegmentId
  startPointLat : ℚ
  startPointLng : ℚ
  endPointLat : ℚ
  endPointLng : ℚ
  deriving DecidableEq

structure RoadNetwork where
  roadSegments : RegionSchema → List RoadSegment
  primaryKey : ∀ schema, ((roadSegments schema).map RoadSegment.id).Nodup

abbrev RoadEdge := SegmentEdge ℚ Double

variable (haversine : Haversine)

def RoadSegment.edge (region : Region) (row : RoadSegment) (distanceKm : Double) : RoadEdge where
  segmentId := row.id
  region := region
  startLat := row.startPointLat
  startLng := row.startPointLng
  endLat := row.endPointLat
  endLng := row.endPointLng
  distanceKm := distanceKm
  nonneg := distanceKm.zero_le

def RoadNetwork.rows (network : RoadNetwork) : List (Region × RoadSegment) :=
  [Region.euWestIreland, .euWestUk, .euWestFrance].flatMap fun region =>
    (network.roadSegments (regionSchemaMap region)).map (Prod.mk region)

def loadEdges (network : RoadNetwork) : Option (List RoadEdge) :=
  network.rows.mapM fun (region, row) =>
    (haversine row.startPointLat row.startPointLng row.endPointLat row.endPointLng).map
      (row.edge region)

/-! ### `_nearest_node` -/

abbrev Position := NodeKey × ℚ × ℚ

/-- The items of `node_positions`, in the order in which their keys came in. -/
def nodePositions (edges : List RoadEdge) : List Position :=
  (edges.flatMap fun edge =>
    [nodeKey edge.startLat edge.startLng, nodeKey edge.endLat edge.endLng]).eraseDups.filterMap
      fun node => ((buildGraph nodeKey edges).nodePositions node).map (Prod.mk node)

/-- `min(…, key=…)`; `none`: ValueError, also where there is nothing to choose from. -/
def nearestNode (lat lng : ℚ) (positions : List Position) : Option Position :=
  (positions.mapM fun position =>
      (haversine lat lng position.2.1 position.2.2).map (Prod.mk position)).bind
    fun measured => (measured.argmin Prod.snd).map Prod.fst

/-! ### `resolve_route` -/

structure RoutedSegment extends RouteSegment where
  distanceKm : Double
  durationMinutes : Nat
  startLat : ℚ
  startLng : ℚ
  endLat : ℚ
  endLng : ℚ
  deriving DecidableEq

structure Trip where
  segments : List RoutedSegment
  tripCursor : DateTime
  drivingMinutes : Nat

def segmentAt (slot : DateTime) (edge : RoadEdge) : RoutedSegment where
  segmentId := edge.segmentId
  region := edge.region
  slotStart := hourStart slot
  aligned := hourStart_hourStart slot
  distanceKm := edge.distanceKm
  durationMinutes := toMinutes edge.distanceKm
  startLat := edge.startLat
  startLng := edge.startLng
  endLat := edge.endLat
  endLng := edge.endLng

inductive RouteError
  | routeNotFound (message : String)
  | valueError
  | overflowError
  | search (error : PathError NodeKey)
  deriving DecidableEq

def RouteError.orValue {Value : Type} (error : RouteError) : Option Value → Except RouteError Value
  | none => .error error
  | some value => .ok value

def Trip.drive (trip : Trip) (edge : RoadEdge) : Except RouteError Trip := do
  let _slotEnd ← RouteError.overflowError.orValue (addTimedelta (hourStart trip.tripCursor) hour)
  let tripCursor ← RouteError.overflowError.orValue
    (addTimedelta trip.tripCursor (toMinutes edge.distanceKm * minute))
  return {
    segments := trip.segments ++ [segmentAt trip.tripCursor edge]
    tripCursor
    drivingMinutes := trip.drivingMinutes + toMinutes edge.distanceKm }

/-- The loops of `_shortest_path` are left within these rounds. -/
def searchRounds (edges : List RoadEdge) : Nat := 2 * edges.length + 2

def approachMinutes (approachKm : Double) : Nat := if approachKm > 0 then minutesFor approachKm else 0

def pathBetween (edges : List RoadEdge) (start goal : NodeKey) : Except RouteError (List RoadEdge) :=
  match shortestPath (buildGraph nodeKey edges) (searchRounds edges) start goal with
  | .error error => .error (.search error)
  | .ok [] => .error (.routeNotFound "No valid path found between origin and destination")
  | .ok path => .ok path

def resolveRoute (network : RoadNetwork) (originLat originLng destLat destLng : ℚ)
    (departureTime : DateTime) : Except RouteError (List RoutedSegment × Nat) := do
  let edges ← RouteError.valueError.orValue (loadEdges haversine network)
  if edges = [] then .error (.routeNotFound "Road network is empty; cannot resolve route")
  else
    let positions := nodePositions edges
    let (startNode, startPoint) ←
      RouteError.valueError.orValue (nearestNode haversine originLat originLng positions)
    let (endNode, endPoint) ←
      RouteError.valueError.orValue (nearestNode haversine destLat destLng positions)
    let path ← pathBetween edges startNode endNode
    let originKm ←
      RouteError.valueError.orValue (haversine originLat originLng startPoint.1 startPoint.2)
    let destKm ← RouteError.valueError.orValue (haversine destLat destLng endPoint.1 endPoint.2)
    let trip ← path.foldlM Trip.drive ⟨[], departureTime, 0⟩
    return (trip.segments, max 1 (trip.drivingMinutes + approachMinutes (originKm + destKm)))

/-! ### The loop over the path -/

/-- No slot and no drive ends after the year 9999. -/
def Fits : DateTime → List RoadEdge → Prop
  | _, [] => True
  | tripCursor, edge :: rest =>
      (hourStart tripCursor + hour ≤ datetimeMax ∧
        tripCursor + toMinutes edge.distanceKm * minute ≤ datetimeMax) ∧
          Fits (tripCursor + toMinutes edge.distanceKm * minute) rest

def lay : DateTime → List RoadEdge → List RoutedSegment
  | _, [] => []
  | tripCursor, edge :: rest =>
      segmentAt tripCursor edge :: lay (tripCursor + toMinutes edge.distanceKm * minute) rest

def drivingMinutes (path : List RoadEdge) : Nat :=
  (path.map fun edge => toMinutes edge.distanceKm).sum

theorem drive_of_fits {trip : Trip} {edge : RoadEdge}
    (ends : hourStart trip.tripCursor + hour ≤ datetimeMax)
    (arrives : trip.tripCursor + toMinutes edge.distanceKm * minute ≤ datetimeMax) :
    trip.drive edge = .ok {
      segments := trip.segments ++ [segmentAt trip.tripCursor edge]
      tripCursor := trip.tripCursor + toMinutes edge.distanceKm * minute
      drivingMinutes := trip.drivingMinutes + toMinutes edge.distanceKm } := by
  rw [Trip.drive, addTimedelta_eq_some.mpr ⟨ends, rfl⟩, addTimedelta_eq_some.mpr ⟨arrives, rfl⟩]
  rfl

theorem drive_of_late {trip : Trip} {edge : RoadEdge}
    (late : ¬ (hourStart trip.tripCursor + hour ≤ datetimeMax ∧
      trip.tripCursor + toMinutes edge.distanceKm * minute ≤ datetimeMax)) :
    trip.drive edge = .error .overflowError := by
  rw [Trip.drive]
  rcases Decidable.not_and_iff_or_not.mp late with ends | arrives
  · rw [addTimedelta_eq_none.mpr (Int.not_le.mp ends)]
    rfl
  · rw [addTimedelta_eq_none.mpr (Int.not_le.mp arrives)]
    cases addTimedelta (hourStart trip.tripCursor) hour <;> rfl

theorem foldlM_drive {trip : Trip} {path : List RoadEdge} (fits : Fits trip.tripCursor path) :
    path.foldlM Trip.drive trip = .ok {
      segments := trip.segments ++ lay trip.tripCursor path
      tripCursor := trip.tripCursor + drivingMinutes path * minute
      drivingMinutes := trip.drivingMinutes + drivingMinutes path } := by
  induction path generalizing trip with
  | nil => simp [lay, drivingMinutes, pure, Except.pure]
  | cons edge rest ih =>
      obtain ⟨⟨ends, arrives⟩, later⟩ := fits
      rw [List.foldlM_cons, drive_of_fits ends arrives]
      refine (ih later).trans ?_
      simp only [lay, drivingMinutes, List.map_cons, List.sum_cons, Except.ok.injEq, Trip.mk.injEq,
        List.append_assoc, List.singleton_append, true_and]
      refine ⟨?_, Nat.add_assoc _ _ _⟩
      push_cast
      ring

theorem foldlM_drive_late {trip : Trip} {path : List RoadEdge} (late : ¬ Fits trip.tripCursor path) :
    path.foldlM Trip.drive trip = .error .overflowError := by
  induction path generalizing trip with
  | nil => exact absurd trivial late
  | cons edge rest ih =>
      rw [List.foldlM_cons]
      by_cases first : hourStart trip.tripCursor + hour ≤ datetimeMax ∧
          trip.tripCursor + toMinutes edge.distanceKm * minute ≤ datetimeMax
      · rw [drive_of_fits first.1 first.2]
        exact ih fun later => late ⟨first, later⟩
      · rw [drive_of_late first]
        rfl

theorem layEdges_of_fits {tripCursor : DateTime} {path : List RoadEdge}
    (fits : Fits tripCursor path) : layEdges tripCursor (path.map (SegmentEdge.leg toMinutes)) =
      some ((lay tripCursor path).map RoutedSegment.toRouteSegment) := by
  induction path generalizing tripCursor with
  | nil => rfl
  | cons edge path ih =>
      obtain ⟨⟨ends, arrives⟩, later⟩ := fits
      exact layEdges_cons.mpr ⟨ends, arrives, _, ih later, rfl⟩

theorem slotStart_lay {tripCursor : DateTime} {path : List RoadEdge}
    {before after : List RoutedSegment} {segment : RoutedSegment}
    (laid : lay tripCursor path = before ++ segment :: after) :
    segment.slotStart =
      hourStart (tripCursor + (before.map RoutedSegment.durationMinutes).sum * minute) := by
  induction path generalizing tripCursor before with
  | nil => simp [lay] at laid
  | cons edge path ih =>
      rw [lay] at laid
      cases before with
      | nil =>
          obtain ⟨rfl, _⟩ := List.cons.inj laid
          simp [segmentAt]
      | cons head before =>
          obtain ⟨rfl, rest⟩ := List.cons.inj laid
          rw [ih rest, List.map_cons, List.sum_cons]
          congr 1
          simp only [segmentAt]
          push_cast
          ring

/-! ### What is read -/

section

variable {haversine} {network : RoadNetwork} {edges : List RoadEdge}

theorem mapM_eq_some_cons {Row Value : Type} {read : Row → Option Value} {row : Row}
    {rows : List Row} {values : List Value} : (row :: rows).mapM read = some values ↔
      ∃ value rest, read row = some value ∧ rows.mapM read = some rest ∧ values = value :: rest := by
  rw [List.mapM_cons]
  simp only [bind, Option.bind_eq_some_iff, pure, Option.some.injEq]
  constructor
  · rintro ⟨value, one, rest, all, rfl⟩
    exact ⟨value, rest, one, all, rfl⟩
  · rintro ⟨value, rest, one, all, rfl⟩
    exact ⟨value, one, rest, all, rfl⟩

theorem mem_of_mapM {Row Value : Type} {read : Row → Option Value} {rows : List Row}
    {values : List Value} (all : rows.mapM read = some values) {value : Value}
    (member : value ∈ values) : ∃ row ∈ rows, read row = some value := by
  induction rows generalizing values with
  | nil =>
      cases all
      simp at member
  | cons row rows ih =>
      obtain ⟨first, rest, one, others, rfl⟩ := mapM_eq_some_cons.mp all
      rcases List.mem_cons.mp member with rfl | later
      · exact ⟨row, List.mem_cons_self, one⟩
      · obtain ⟨other, listed, found⟩ := ih others later
        exact ⟨other, List.mem_cons_of_mem row listed, found⟩

theorem keys_of_mapM {rows : List (Region × RoadSegment)} (loaded : (rows.mapM fun (region, row) =>
      (haversine row.startPointLat row.startPointLng row.endPointLat row.endPointLng).map
        (row.edge region)) = some edges) :
    edges.map SegmentEdge.key = rows.map fun row => (row.1, row.2.id) := by
  induction rows generalizing edges with
  | nil =>
      cases loaded
      rfl
  | cons row rows ih =>
      obtain ⟨edge, rest, one, others, rfl⟩ := mapM_eq_some_cons.mp loaded
      obtain ⟨km, _, rfl⟩ := Option.map_eq_some_iff.mp one
      rw [List.map_cons, ih others]
      rfl

theorem nodup_loadEdges (loaded : loadEdges haversine network = some edges) :
    (edges.map SegmentEdge.key).Nodup := by
  rw [keys_of_mapM loaded, RoadNetwork.rows, List.map_flatMap, List.nodup_flatMap]
  constructor
  · intro region _
    have keys : ((network.roadSegments (regionSchemaMap region)).map (Prod.mk region)).map
        (fun row => (row.1, row.2.id)) =
          ((network.roadSegments (regionSchemaMap region)).map RoadSegment.id).map
            (Prod.mk region) := by
      simp
    rw [keys]
    exact (network.primaryKey _).map (Prod.mk_right_injective region)
  · have apart (first second : Region) (other : first ≠ second) : Function.onFun List.Disjoint
        (fun region => ((network.roadSegments (regionSchemaMap region)).map (Prod.mk region)).map
          fun row => (row.1, row.2.id)) first second := by
      intro key one two
      simp only [List.map_map, List.mem_map, Function.comp] at one two
      obtain ⟨_, _, rfl⟩ := one
      obtain ⟨_, _, same⟩ := two
      exact other (Prod.mk.inj same).1.symm
    have distinct : [Region.euWestIreland, .euWestUk, .euWestFrance].Pairwise (· ≠ ·) := by
      decide
    exact distinct.imp (apart _ _)

/-- The place is measured again for the approach. -/
theorem measured_of_nearestNode {lat lng : ℚ} {positions : List Position} {node : Position}
    (nearest : nearestNode haversine lat lng positions = some node) :
    ∃ km, haversine lat lng node.2.1 node.2.2 = some km := by
  obtain ⟨measured, all, chosen⟩ := Option.bind_eq_some_iff.mp nearest
  obtain ⟨⟨position, km⟩, least, rfl⟩ := Option.map_eq_some_iff.mp chosen
  obtain ⟨_, _, found⟩ := mem_of_mapM all (List.argmin_mem least)
  obtain ⟨_, known, same⟩ := Option.map_eq_some_iff.mp found
  obtain ⟨rfl, rfl⟩ := Prod.mk.inj same
  exact ⟨_, known⟩

end

/-! ### What is returned -/

/-- All that `resolve_route` works out before it lays the slots. -/
structure Located (network : RoadNetwork) (originLat originLng destLat destLng : ℚ)
    (edges : List RoadEdge) (start goal : Position) (path : List RoadEdge) (approachKm : Double) :
    Prop where
  loaded : loadEdges haversine network = some edges
  starts : nearestNode haversine originLat originLng (nodePositions edges) = some start
  ends : nearestNode haversine destLat destLng (nodePositions edges) = some goal
  found : shortestPath (buildGraph nodeKey edges) (searchRounds edges) start.1 goal.1 = .ok path
  leaves : path ≠ []
  approach : ∃ originKm destKm, haversine originLat originLng start.2.1 start.2.2 = some originKm ∧
    haversine destLat destLng goal.2.1 goal.2.2 = some destKm ∧ approachKm = originKm + destKm

section

variable {haversine} {network : RoadNetwork} {originLat originLng destLat destLng : ℚ}
  {departureTime : DateTime} {segments : List RoutedSegment} {total : Nat} {edges path : List RoadEdge}
  {start goal : Position} {approachKm : Double}

theorem bind_eq_ok {Value Next : Type} {found : Except RouteError Value}
    {onward : Value → Except RouteError Next} {next : Next} :
    (found >>= onward) = .ok next ↔ ∃ value, found = .ok value ∧ onward value = .ok next := by
  cases found with
  | error error => simp [bind, Except.bind]
  | ok value => simp [bind, Except.bind]

theorem orValue_eq_ok {Value : Type} {error : RouteError} {found : Option Value} {value : Value} :
    error.orValue found = .ok value ↔ found = some value := by
  cases found <;> simp [RouteError.orValue]

theorem pathBetween_eq_ok {start goal : NodeKey} : pathBetween edges start goal = .ok path ↔
    shortestPath (buildGraph nodeKey edges) (searchRounds edges) start goal = .ok path ∧
      path ≠ [] := by
  rw [pathBetween]
  split
  · next failed => simp [failed]
  · next none => simp +contextual [none, eq_comm]
  · next other some found =>
      rw [found]
      constructor
      · rintro ⟨⟩
        exact ⟨rfl, some⟩
      · rintro ⟨⟨⟩, _⟩
        rfl

theorem Located.resolve
    (located : Located haversine network originLat originLng destLat destLng edges start goal path
      approachKm) :
    resolveRoute haversine network originLat originLng destLat destLng departureTime =
      (path.foldlM Trip.drive ⟨[], departureTime, 0⟩).map fun trip =>
        (trip.segments, max 1 (trip.drivingMinutes + approachMinutes approachKm)) := by
  obtain ⟨loaded, starts, ends, found, leaves, originKm, destKm, origin, dest, rfl⟩ := located
  have known : edges ≠ [] := by
    rintro rfl
    simp [nodePositions, nearestNode] at starts
  rw [resolveRoute, orValue_eq_ok.mpr loaded]
  simp only [bind, Except.bind, if_neg known, orValue_eq_ok.mpr starts, orValue_eq_ok.mpr ends,
    pathBetween_eq_ok.mpr ⟨found, leaves⟩, orValue_eq_ok.mpr origin, orValue_eq_ok.mpr dest]
  cases path.foldlM Trip.drive ⟨[], departureTime, 0⟩ <;> rfl

theorem Located.resolveRoute_ok
    (located : Located haversine network originLat originLng destLat destLng edges start goal path
      approachKm) (fits : Fits departureTime path) :
    resolveRoute haversine network originLat originLng destLat destLng departureTime =
      .ok (lay departureTime path, max 1 (drivingMinutes path + approachMinutes approachKm)) := by
  rw [located.resolve, foldlM_drive fits, List.nil_append, Nat.zero_add]
  rfl

theorem Located.resolveRoute_late
    (located : Located haversine network originLat originLng destLat destLng edges start goal path
      approachKm) (late : ¬ Fits departureTime path) :
    resolveRoute haversine network originLat originLng destLat destLng departureTime =
      .error .overflowError := by
  rw [located.resolve, foldlM_drive_late late]
  rfl

theorem located_of_resolved
    (resolved : resolveRoute haversine network originLat originLng destLat destLng departureTime =
      .ok (segments, total)) :
    ∃ edges start goal path approachKm,
      Located haversine network originLat originLng destLat destLng edges start goal path approachKm ∧
        Fits departureTime path ∧ segments = lay departureTime path ∧
        total = max 1 (drivingMinutes path + approachMinutes approachKm) := by
  have kept := resolved
  rw [resolveRoute] at resolved
  obtain ⟨edges, loaded, resolved⟩ := bind_eq_ok.mp resolved
  split at resolved
  · nomatch resolved
  obtain ⟨start, starts, resolved⟩ := bind_eq_ok.mp resolved
  obtain ⟨goal, ends, resolved⟩ := bind_eq_ok.mp resolved
  obtain ⟨path, found, resolved⟩ := bind_eq_ok.mp resolved
  obtain ⟨originKm, origin, resolved⟩ := bind_eq_ok.mp resolved
  obtain ⟨destKm, dest, resolved⟩ := bind_eq_ok.mp resolved
  obtain ⟨found, leaves⟩ := pathBetween_eq_ok.mp found
  rw [orValue_eq_ok] at loaded starts ends origin dest
  have located : Located haversine network originLat originLng destLat destLng edges start goal path
      (originKm + destKm) := ⟨loaded, starts, ends, found, leaves, originKm, destKm, origin, dest, rfl⟩
  by_cases fits : Fits departureTime path
  · obtain ⟨rfl, rfl⟩ := Prod.mk.inj (Except.ok.inj (kept.symm.trans (located.resolveRoute_ok fits)))
    exact ⟨edges, start, goal, path, _, located, fits, rfl, rfl⟩
  · nomatch kept.symm.trans (located.resolveRoute_late fits)

theorem path_simple {start goal : NodeKey}
    (found : shortestPath (buildGraph nodeKey edges) (searchRounds edges) start goal = .ok path) :
    (∀ edge ∈ path, edge ∈ edges) ∧ path.Nodup := by
  obtain ⟨other, reached, taken, distinct⟩ := shortestPath_listed nodeKey edges start goal
  have same := reached _ (Nat.le_refl _)
  rw [← searchRounds, found, Except.ok.injEq] at same
  subst same
  exact ⟨taken, distinct⟩

theorem Located.nodup
    (located : Located haversine network originLat originLng destLat destLng edges start goal path
      approachKm) : (path.map SegmentEdge.key).Nodup := by
  obtain ⟨taken, distinct⟩ := path_simple located.found
  exact nodup_keys taken distinct (nodup_loadEdges located.loaded)

/-- `resolve_route` hands the booking flow a route along a path. -/
theorem resolveRoute_refines (resolved : resolveRoute haversine network originLat originLng destLat
    destLng departureTime = .ok (segments, total)) :
    ∃ path : Path, ∃ route, TrafficService.resolveRoute path departureTime = some route ∧
      route.segments = segments.map RoutedSegment.toRouteSegment ∧
      route.estimatedDurationMinutes = total := by
  obtain ⟨edges, start, goal, path, approachKm, located, fits, rfl, rfl⟩ :=
    located_of_resolved resolved
  have nonempty : path.map (SegmentEdge.leg toMinutes) ≠ [] := by
    simpa using located.leaves
  have distinct : ((path.map (SegmentEdge.leg toMinutes)).map
      fun edge => (edge.region, edge.segmentId)).Nodup := by
    rw [List.map_map]
    exact located.nodup
  have laid := layEdges_of_fits fits
  have keys := map_layEdges laid
  refine ⟨⟨path.map (SegmentEdge.leg toMinutes), approachMinutes approachKm, nonempty, distinct⟩,
    ⟨_, _, ?_, ?_⟩, resolveRoute_eq_some.mpr ⟨laid, rfl⟩, rfl, ?_⟩
  · intro none
    rw [none, List.map_nil, eq_comm, List.map_eq_nil_iff] at keys
    exact nonempty keys
  · rw [keys]
    exact distinct
  · simp [drivingMinutes, SegmentEdge.leg, Function.comp_def]

/-- `resolve_route` returns a route or raises one of three errors of its own. -/
theorem resolveRoute_total : (∃ segments total, resolveRoute haversine network originLat originLng
      destLat destLng departureTime = .ok (segments, total)) ∨
    (∃ message, resolveRoute haversine network originLat originLng destLat destLng departureTime =
        .error (.routeNotFound message)) ∨
    resolveRoute haversine network originLat originLng destLat destLng departureTime =
        .error .valueError ∨
    resolveRoute haversine network originLat originLng destLat destLng departureTime =
        .error .overflowError := by
  cases loaded : loadEdges haversine network with
  | none =>
      refine .inr (.inr (.inl ?_))
      rw [resolveRoute, loaded]
      rfl
  | some edges =>
      by_cases unknown : edges = []
      · refine .inr (.inl ⟨"Road network is empty; cannot resolve route", ?_⟩)
        simp [resolveRoute, loaded, unknown, RouteError.orValue, bind, Except.bind]
      cases starts : nearestNode haversine originLat originLng (nodePositions edges) with
      | none =>
          refine .inr (.inr (.inl ?_))
          simp [resolveRoute, loaded, unknown, starts, RouteError.orValue, bind, Except.bind]
      | some start =>
          cases ends : nearestNode haversine destLat destLng (nodePositions edges) with
          | none =>
              refine .inr (.inr (.inl ?_))
              simp [resolveRoute, loaded, unknown, starts, ends, RouteError.orValue, bind,
                Except.bind]
          | some goal =>
              obtain ⟨path, reached, _⟩ := shortestPath_listed nodeKey edges start.1 goal.1
              have found := reached (searchRounds edges) (Nat.le_refl _)
              cases path with
              | nil =>
                  refine .inr (.inl ⟨"No valid path found between origin and destination", ?_⟩)
                  simp [resolveRoute, loaded, unknown, starts, ends, pathBetween, found,
                    RouteError.orValue, bind, Except.bind]
              | cons edge rest =>
                  obtain ⟨originKm, origin⟩ := measured_of_nearestNode starts
                  obtain ⟨destKm, dest⟩ := measured_of_nearestNode ends
                  have located : Located haversine network originLat originLng destLat destLng edges
                      start goal (edge :: rest) (originKm + destKm) :=
                    ⟨loaded, starts, ends, found, by simp, originKm, destKm, origin, dest, rfl⟩
                  by_cases fits : Fits departureTime (edge :: rest)
                  · exact .inl ⟨_, _, located.resolveRoute_ok fits⟩
                  · exact .inr (.inr (.inr (located.resolveRoute_late fits)))

end

/-! ### The slots and the stay on the segments -/

def minutesToStart (network : RoadNetwork) (originLat originLng : ℚ) : Nat :=
  let originKm := do
    let edges ← loadEdges haversine network
    let start ← nearestNode haversine originLat originLng (nodePositions edges)
    haversine originLat originLng start.2.1 start.2.2
  (originKm.map approachMinutes).getD 0

structure OnSegment (departureTime : DateTime) (approach : Nat) (before : List RoutedSegment)
    (segment : RoutedSegment) (time : DateTime) : Prop where
  entered : departureTime +
    (approach + (before.map RoutedSegment.durationMinutes).sum) * minute ≤ time
  left : time < departureTime + (approach + (before.map RoutedSegment.durationMinutes).sum +
    segment.durationMinutes) * minute

def Reserved (segments : List RoutedSegment) (segment : RoutedSegment) (time : DateTime) : Prop :=
  ∃ reserved ∈ segments, (reserved.region, reserved.segmentId) =
      (segment.region, segment.segmentId) ∧
    reserved.slotStart ≤ time ∧ time < reserved.slotEnd

section

variable {haversine} {network : RoadNetwork} {originLat originLng destLat destLng : ℚ}
  {departureTime : DateTime} {segments before after : List RoutedSegment} {total : Nat}
  {segment : RoutedSegment}

/-- No segment is in a route twice, so its own slot is the only one. -/
theorem reserved_iff (distinct : (segments.map fun segment =>
      (segment.region, segment.segmentId)).Nodup) (member : segment ∈ segments)
    (time : DateTime) :
    Reserved segments segment time ↔ segment.slotStart ≤ time ∧ time < segment.slotEnd := by
  constructor
  · rintro ⟨reserved, listed, same, within⟩
    obtain rfl : reserved = segment := List.inj_on_of_nodup_map distinct listed member same
    exact within
  · exact fun within => ⟨segment, member, rfl, within⟩

theorem lay_durations {tripCursor : DateTime} {path : List RoadEdge}
    (member : segment ∈ lay tripCursor path) : minSegmentMinutes ≤ segment.durationMinutes := by
  induction path generalizing tripCursor with
  | nil => simp [lay] at member
  | cons edge path ih =>
      rcases List.mem_cons.mp member with rfl | later
      · exact Nat.le_max_left _ _
      · exact ih later

theorem nodup_resolveRoute (resolved : resolveRoute haversine network originLat originLng destLat
      destLng departureTime = .ok (segments, total)) :
    (segments.map fun segment => (segment.region, segment.segmentId)).Nodup := by
  obtain ⟨_, route, _, same, _⟩ := resolveRoute_refines resolved
  have distinct := route.distinct
  rwa [same, List.map_map] at distinct

theorem hourStart_le_of_entered {base time : Int} {approach : Nat}
    (entered : base + approach * minute ≤ time) : hourStart base ≤ time := by
  calc hourStart base ≤ base := Int.sub_le_self _ (Int.emod_nonneg _ (by decide))
    _ ≤ base + approach * minute :=
        Int.le_add_of_nonneg_right (Int.mul_nonneg (Int.natCast_nonneg _) (by decide))
    _ ≤ time := entered

theorem stay_fits_iff (base : Int) (approach duration : Nat) (long : 0 < duration) :
    (∀ time : Int, base + approach * minute ≤ time →
      time < base + (approach + duration) * minute → time < hourStart base + hour) ↔
        base % hour + (approach + duration) * minute ≤ hour := by
  simp only [hourStart, hour, minute]
  constructor
  · intro all
    have last := all (base + (approach + duration) * 60000000 - 1)
    omega
  · intro fits time entered left
    omega

theorem onSegment_iff {approach : Nat} {time : DateTime} :
    OnSegment departureTime approach before segment time ↔
      departureTime + (before.map RoutedSegment.durationMinutes).sum * minute +
          approach * minute ≤ time ∧
        time < departureTime + (before.map RoutedSegment.durationMinutes).sum * minute +
          (approach + segment.durationMinutes) * minute := by
  have entry : departureTime + (approach + (before.map RoutedSegment.durationMinutes).sum) *
      minute = departureTime + (before.map RoutedSegment.durationMinutes).sum * minute +
        approach * minute := by
    ring
  have exit : departureTime + (approach + (before.map RoutedSegment.durationMinutes).sum +
      segment.durationMinutes) * minute =
        departureTime + (before.map RoutedSegment.durationMinutes).sum * minute +
          (approach + segment.durationMinutes) * minute := by
    ring
  rw [← entry, ← exit]
  constructor
  · exact fun on => ⟨on.entered, on.left⟩
  · exact fun within => ⟨within.1, within.2⟩

/-- Each segment is given the one hour in which the departure and the durations before it fall. Of
the stay on the segment that slot covers what comes before its end, and so all of it if and only if
what the hour has gone, the approach and the duration fit into an hour. -/
theorem reserved_iff_before_slotEnd (resolved : resolveRoute haversine network originLat originLng
      destLat destLng departureTime = .ok (segments, total))
    (decomposed : segments = before ++ segment :: after) :
    segment.slotStart =
        hourStart (departureTime + (before.map RoutedSegment.durationMinutes).sum * minute) ∧
      (∀ time, OnSegment departureTime (minutesToStart haversine network originLat originLng) before
        segment time → (Reserved segments segment time ↔ time < segment.slotEnd)) ∧
      ((∀ time, OnSegment departureTime (minutesToStart haversine network originLat originLng) before
        segment time → Reserved segments segment time) ↔
          (departureTime + (before.map RoutedSegment.durationMinutes).sum * minute) % hour +
            (minutesToStart haversine network originLat originLng + segment.durationMinutes) *
              minute ≤ hour) := by
  have distinct := nodup_resolveRoute resolved
  obtain ⟨_, _, _, path, _, _, _, laid, _⟩ := located_of_resolved resolved
  have starts := slotStart_lay (laid.symm.trans decomposed)
  have member : segment ∈ segments := by
    rw [decomposed]
    exact List.mem_append_right _ List.mem_cons_self
  have long : minSegmentMinutes ≤ segment.durationMinutes := lay_durations (laid ▸ member)
  have covered (time : DateTime) (on : OnSegment departureTime
      (minutesToStart haversine network originLat originLng) before segment time) :
      Reserved segments segment time ↔ time < segment.slotEnd := by
    rw [reserved_iff distinct member]
    refine and_iff_right ?_
    rw [starts]
    exact hourStart_le_of_entered (onSegment_iff.mp on).1
  have ends : segment.slotEnd = hourStart (departureTime +
      (before.map RoutedSegment.durationMinutes).sum * minute) + hour := by
    rw [RouteSegment.slotEnd, starts]
  refine ⟨starts, covered, ?_⟩
  rw [← stay_fits_iff _ _ _ (Nat.lt_of_lt_of_le (by decide) long), ← ends]
  constructor
  · intro all time entered left
    have on := onSegment_iff.mpr ⟨entered, left⟩
    exact (covered time on).mp (all time on)
  · intro all time on
    obtain ⟨entered, left⟩ := onSegment_iff.mp on
    exact (covered time on).mpr (all time entered left)

end

/-- A degree of latitude is 111.195 km. All places below lie on one meridian, where this is the
haversine distance. -/
def meridian : Haversine := fun lat1 lng1 lat2 lng2 =>
  some (.rounded ((|lat1 - lat2| + |lng1 - lng2|) * (111195 / 1000)) (by positivity))

def northRoad : RoadNetwork where
  roadSegments
    | .regionIreland => [⟨1, 53, -6, 54, -6⟩]
    | _ => []
  primaryKey := by
    intro schema
    cases schema <;> decide

def northKm : Double := .rounded (111195 / 1000) (by norm_num)

def northSegment : RoutedSegment :=
  ⟨⟨1, .euWestIreland, 10 * hour, by decide⟩, northKm, 74, 53, -6, 54, -6⟩

theorem resolveRoute_north : resolveRoute meridian northRoad 53 (-6) 54 (-6) (10 * hour) =
    .ok ([northSegment], 74) := by
  decide +kernel

theorem reserved_iff_north :
    northSegment.slotStart =
        hourStart (10 * hour + (List.map RoutedSegment.durationMinutes []).sum * minute) ∧
      (∀ time, OnSegment (10 * hour) (minutesToStart meridian northRoad 53 (-6)) [] northSegment
        time → (Reserved [northSegment] northSegment time ↔ time < northSegment.slotEnd)) ∧
      ((∀ time, OnSegment (10 * hour) (minutesToStart meridian northRoad 53 (-6)) [] northSegment
        time → Reserved [northSegment] northSegment time) ↔
          (10 * hour + (List.map RoutedSegment.durationMinutes []).sum * minute) % hour +
            (minutesToStart meridian northRoad 53 (-6) + northSegment.durationMinutes) * minute ≤
              hour) :=
  reserved_iff_before_slotEnd resolveRoute_north (List.nil_append [northSegment]).symm

/-- From ten o'clock on the vehicle is on the road for 74 minutes, and has it for 60. -/
theorem north_not_reserved :
    ¬ ∀ (haversine : Haversine) (network : RoadNetwork) (originLat originLng destLat destLng : ℚ)
      (departureTime : DateTime) (segments : List RoutedSegment) (total : Nat),
      resolveRoute haversine network originLat originLng destLat destLng departureTime =
          .ok (segments, total) →
        ∀ before segment after, segments = before ++ segment :: after → ∀ time,
          OnSegment departureTime (minutesToStart haversine network originLat originLng) before
            segment time → Reserved segments segment time := by
  intro holds
  have on : OnSegment (10 * hour) (minutesToStart meridian northRoad 53 (-6)) [] northSegment
      (11 * hour) := ⟨by decide +kernel, by decide +kernel⟩
  obtain ⟨reserved, listed, _, _, early⟩ := holds meridian northRoad 53 (-6) 54 (-6) (10 * hour)
    [northSegment] 74 resolveRoute_north [] northSegment [] rfl (11 * hour) on
  rw [List.mem_singleton.mp listed] at early
  exact absurd early (by decide)

/-! ### The direction of the segments -/

def RoutedSegment.startKey (segment : RoutedSegment) : NodeKey :=
  nodeKey segment.startLat segment.startLng

def RoutedSegment.endKey (segment : RoutedSegment) : NodeKey :=
  nodeKey segment.endLat segment.endLng

/-- The segments lead from the one node to the other as they stand, as the lines on the map that
join the two places to them take for granted. -/
structure HeadToTail (start goal : NodeKey) (segments : List RoutedSegment) : Prop where
  first : segments.head?.map RoutedSegment.startKey = some start
  joined : segments.IsChain fun segment next => segment.endKey = next.startKey
  last : segments.getLast?.map RoutedSegment.endKey = some goal

def Along (here next : NodeKey) (edge : RoadEdge) : Prop :=
  nodeKey edge.startLat edge.startLng = here ∧ nodeKey edge.endLat edge.endLng = next

theorem headToTail_cons {start goal : NodeKey} {segment next : RoutedSegment}
    {rest : List RoutedSegment} : HeadToTail start goal (segment :: next :: rest) ↔
      segment.startKey = start ∧ HeadToTail segment.endKey goal (next :: rest) := by
  constructor
  · rintro ⟨first, joined, last⟩
    obtain ⟨joins, chain⟩ := List.isChain_cons_cons.mp joined
    refine ⟨by simpa using first, by simp [joins], chain, ?_⟩
    rwa [List.getLast?_cons_cons] at last
  · rintro ⟨begins, first, chain, last⟩
    have joins : segment.endKey = next.startKey := by
      simpa [eq_comm] using first
    refine ⟨by simp [begins], List.isChain_cons_cons.mpr ⟨joins, chain⟩, ?_⟩
    rwa [List.getLast?_cons_cons]

theorem headToTail_singleton {start goal : NodeKey} {segment : RoutedSegment} :
    HeadToTail start goal [segment] ↔ segment.startKey = start ∧ segment.endKey = goal := by
  constructor
  · exact fun whole => ⟨by simpa using whole.first, by simpa using whole.last⟩
  · exact fun ends => ⟨by simp [ends.1], List.isChain_singleton _, by simp [ends.2]⟩

theorem along_of_joins {edges : List RoadEdge} {here next : NodeKey} {edge : RoadEdge}
    (joins : Joins nodeKey edges here next edge)
    (starts : nodeKey edge.startLat edge.startLng = here) : Along here next edge := by
  rcases joins.2 with ⟨_, ends⟩ | ⟨other, ends⟩
  · exact ⟨starts, ends⟩
  · exact ⟨starts, by rw [ends, ← starts, other]⟩

theorem headToTail_lay {edges : List RoadEdge} {start : NodeKey}
    {steps : List (NodeKey × RoadEdge)} (walk : IsWalk (Joins nodeKey edges) start steps)
    (some : steps ≠ []) (tripCursor : DateTime) :
    HeadToTail start (arrival start steps) (lay tripCursor (edgesOf steps)) ↔
      IsWalk Along start steps := by
  induction steps generalizing start tripCursor with
  | nil => exact absurd rfl some
  | cons step rest ih =>
      obtain ⟨next, edge⟩ := step
      cases rest with
      | nil => simp [lay, edgesOf, headToTail_singleton, IsWalk, Along, arrival, segmentAt,
          RoutedSegment.startKey, RoutedSegment.endKey]
      | cons other rest =>
          have later := ih walk.2 (by simp) (tripCursor + toMinutes edge.distanceKm * minute)
          have split : lay tripCursor (edgesOf ((next, edge) :: other :: rest)) =
              segmentAt tripCursor edge :: lay (tripCursor + toMinutes edge.distanceKm * minute)
                (edgesOf (other :: rest)) := rfl
          have begins : (segmentAt tripCursor edge).startKey =
              nodeKey edge.startLat edge.startLng := rfl
          have ends : (segmentAt tripCursor edge).endKey = nodeKey edge.endLat edge.endLng := rfl
          rw [split]
          constructor
          · intro whole
            obtain ⟨starts, onward⟩ := headToTail_cons.mp whole
            have along := along_of_joins walk.1 (begins.symm.trans starts)
            rw [ends, along.2] at onward
            exact ⟨along, later.mp onward⟩
          · rintro ⟨along, onward⟩
            refine headToTail_cons.mpr ⟨begins.trans along.1, ?_⟩
            rw [ends, along.2]
            exact later.mpr onward

section

variable {haversine} {network : RoadNetwork} {originLat originLng destLat destLng : ℚ}
  {edges : List RoadEdge} {start goal : Position}

/-- Between two places that snap to different, connected nodes there is a route, unless it leads past
the year 9999, and its segments are head to tail if and only if the preferred one of the shortest
walks takes every segment from its stored start to its stored end. -/
theorem headToTail_iff_along (loaded : loadEdges haversine network = some edges)
    (starts : nearestNode haversine originLat originLng (nodePositions edges) = some start)
    (ends : nearestNode haversine destLat destLng (nodePositions edges) = some goal)
    (apart : start.1 ≠ goal.1) (connected : Reachable (Joins nodeKey edges) start.1 goal.1)
    (departureTime : DateTime) :
    (∃ segments total, resolveRoute haversine network originLat originLng destLat destLng
        departureTime = .ok (segments, total) ∧
      (HeadToTail start.1 goal.1 segments ↔ ∃ order steps,
        RoadSweep nodeKey edges start.1 order ∧
          RoadPreferred nodeKey edges start.1 order goal.1 steps ∧ IsWalk Along start.1 steps)) ∨
    resolveRoute haversine network originLat originLng destLat destLng departureTime =
        .error .overflowError ∧
      ∃ order steps, RoadSweep nodeKey edges start.1 order ∧
        RoadPreferred nodeKey edges start.1 order goal.1 steps ∧
          ¬ Fits departureTime (edgesOf steps) := by
  obtain ⟨order, steps, sweep, preferred, some, path⟩ := shortestPath_preferred apart connected
  obtain ⟨originKm, origin⟩ := measured_of_nearestNode starts
  obtain ⟨destKm, dest⟩ := measured_of_nearestNode ends
  have located : Located haversine network originLat originLng destLat destLng edges start goal
      (edgesOf steps) (originKm + destKm) :=
    ⟨loaded, starts, ends, path _ (Nat.le_refl _), by simpa [edgesOf] using some, originKm, destKm,
      origin, dest, rfl⟩
  by_cases fits : Fits departureTime (edgesOf steps)
  · refine .inl ⟨_, _, located.resolveRoute_ok fits, ?_⟩
    have walk : IsWalk (Joins nodeKey edges) start.1 steps ∧ arrival start.1 steps = goal.1 := by
      rw [← listed_rowsBetween]
      exact preferred.walk
    have oriented := headToTail_lay walk.1 some departureTime
    rw [walk.2] at oriented
    rw [oriented]
    constructor
    · exact fun along => ⟨order, steps, sweep, preferred, along⟩
    · rintro ⟨again, other, also, chosen, along⟩
      rwa [Preferred.unique sweep also preferred chosen]
  · exact .inr ⟨located.resolveRoute_late fits, order, steps, sweep, preferred, fits⟩

end

def north : Position := (nodeKey 54 (-6), 54, -6)

def south : Position := (nodeKey 53 (-6), 53, -6)

def northEdge : RoadEdge := RoadSegment.edge .euWestIreland ⟨1, 53, -6, 54, -6⟩ northKm

theorem loadEdges_north : loadEdges meridian northRoad = some [northEdge] := by
  decide +kernel

theorem joins_north : Joins nodeKey [northEdge] south.1 north.1 northEdge :=
  ⟨List.mem_singleton_self northEdge, .inl ⟨rfl, rfl⟩⟩

theorem headToTail_north :
    (∃ segments total,
      resolveRoute meridian northRoad 53 (-6) 54 (-6) (10 * hour) = .ok (segments, total) ∧
        (HeadToTail south.1 north.1 segments ↔ ∃ order steps,
          RoadSweep nodeKey [northEdge] south.1 order ∧
            RoadPreferred nodeKey [northEdge] south.1 order north.1 steps ∧
              IsWalk Along south.1 steps)) ∨
    resolveRoute meridian northRoad 53 (-6) 54 (-6) (10 * hour) = .error .overflowError ∧
      ∃ order steps, RoadSweep nodeKey [northEdge] south.1 order ∧
        RoadPreferred nodeKey [northEdge] south.1 order north.1 steps ∧
          ¬ Fits (10 * hour) (edgesOf steps) :=
  @headToTail_iff_along meridian northRoad 53 (-6) 54 (-6) [northEdge] south north loadEdges_north
    (by decide +kernel) (by decide +kernel) (by decide +kernel)
    ⟨[(north.1, northEdge)], ⟨joins_north, trivial⟩, rfl⟩ (10 * hour)

theorem resolveRoute_south : resolveRoute meridian northRoad 54 (-6) 53 (-6) (10 * hour) =
    .ok ([northSegment], 74) := by
  decide +kernel

theorem south_not_headToTail :
    ¬ ∀ (haversine : Haversine) (network : RoadNetwork) (originLat originLng destLat destLng : ℚ)
      (departureTime : DateTime) (edges : List RoadEdge) (start goal : Position),
      loadEdges haversine network = some edges →
        nearestNode haversine originLat originLng (nodePositions edges) = some start →
        nearestNode haversine destLat destLng (nodePositions edges) = some goal →
        start.1 ≠ goal.1 → Reachable (Joins nodeKey edges) start.1 goal.1 →
        ∀ segments total, resolveRoute haversine network originLat originLng destLat destLng
          departureTime = .ok (segments, total) → HeadToTail start.1 goal.1 segments := by
  intro holds
  have back : Joins nodeKey [northEdge] north.1 south.1 northEdge :=
    ⟨joins_north.1, .inr ⟨rfl, rfl⟩⟩
  have whole := holds meridian northRoad 54 (-6) 53 (-6) (10 * hour) [northEdge] north south
    loadEdges_north (by decide +kernel) (by decide +kernel) (by decide +kernel)
    ⟨[(south.1, northEdge)], ⟨back, trivial⟩, rfl⟩ [northSegment] 74 resolveRoute_south
  exact absurd (headToTail_singleton.mp whole).1 (by decide +kernel)

end TrafficService.Routing
