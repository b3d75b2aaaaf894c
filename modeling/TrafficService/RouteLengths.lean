import TrafficService.RouteResolution
import Mathlib.Algebra.Order.Monoid.Unbundled.WithTop

/-!
How far it is from one node to another, as `_shortest_path` has it, for lengths whose sums need only
keep the order, as those of doubles do: the same in any order of the rows, never further for a road
more, and never further than on from the route to a third node. There is a way back wherever there is
one out, though its length may be rounded otherwise. `resolve_route` inherits it for the places that
snap to the nodes.
-/

namespace TrafficService.Routing

open Walks

section

variable {Coordinate Node Length : Type} [AddZeroClass Length] [LinearOrder Length]

/-- The steps a route between the nodes may take. A route from a node to itself is any that leaves
it, since the search answers that with a segment there. -/
structure Leads (nodeKey : Coordinate → Coordinate → Node)
    (edges : List (SegmentEdge Coordinate Length)) (start goal : Node)
    (steps : List (Node × SegmentEdge Coordinate Length)) : Prop where
  walk : IsWalk (Joins nodeKey edges) start steps
  leaves : steps ≠ []
  arrives : start ≠ goal → arrival start steps = goal

variable {nodeKey : Coordinate → Coordinate → Node}
  {edges more : List (SegmentEdge Coordinate Length)} {start via goal : Node}
  {steps rest : List (Node × SegmentEdge Coordinate Length)}

theorem Leads.mono (leads : Leads nodeKey edges start goal steps) (grown : edges ⊆ more) :
    Leads nodeKey more start goal steps where
  walk := leads.walk.mono fun _ _ _ joins => ⟨grown joins.1, joins.2⟩
  leaves := leads.leaves
  arrives := leads.arrives

theorem joins_symm (here next : Node) (edge : SegmentEdge Coordinate Length)
    (joins : Joins nodeKey edges here next edge) : Joins nodeKey edges next here edge :=
  ⟨joins.1, joins.2.symm⟩

theorem Leads.back (leads : Leads nodeKey edges start goal steps) (apart : start ≠ goal) :
    Leads nodeKey edges goal start (back start steps) := by
  have returned := isWalk_back joins_symm leads.walk
  have home := arrival_back start steps
  rw [leads.arrives apart] at returned home
  exact ⟨returned, back_ne_nil leads.leaves, fun _ => home⟩

theorem Leads.append (first : Leads nodeKey edges start via steps)
    (second : Leads nodeKey edges via goal rest) (left : start ≠ via) (ahead : via ≠ goal) :
    Leads nodeKey edges start goal (steps ++ rest) := by
  have there := first.arrives left
  refine ⟨isWalk_append.mpr ⟨first.walk, ?_⟩, ?_, ?_⟩
  · rw [there]
    exact second.walk
  · simp [first.leaves]
  · intro _
    rw [arrival_append, there]
    exact second.arrives ahead

/-! ### The least of them -/

section

variable [LinearOrder Node]

def lengthFrom (far : Length) (path : List (SegmentEdge Coordinate Length)) : Length :=
  path.foldl (fun far edge => far + edge.distanceKm) far

def pathLength (path : List (SegmentEdge Coordinate Length)) : WithTop Length :=
  if path = [] then ⊤ else (lengthFrom 0 path : Length)

def routeLength (nodeKey : Coordinate → Coordinate → Node)
    (edges : List (SegmentEdge Coordinate Length)) (start goal : Node) : WithTop Length :=
  match shortestPath (buildGraph nodeKey edges) (2 * edges.length + 2) start goal with
  | .ok path => pathLength path
  | .error _ => ⊤

theorem not_joins_of_same {rounds : Nat} {next : Node} {edge : SegmentEdge Coordinate Length}
    (found : shortestPath (buildGraph nodeKey edges) rounds start start = .ok []) :
    ¬ Joins nodeKey edges start next edge := by
  intro joins
  have known : (buildGraph nodeKey edges).graph start ≠ none := by
    rw [Ne, graph_buildGraph_eq_none, not_not]
    exact (joins_mem joins).1
  rw [shortestPath, if_neg (by simpa using known)] at found
  split at found
  · simp at found
  · simp only [ne_eq, not_true_eq_false, false_and, if_false, if_true, Except.ok.injEq,
      Option.toList_eq_nil_iff, List.argmin_eq_none, List.map_eq_nil_iff] at found
    have listed := mem_adjacent_buildGraph.mpr joins
    rw [found] at listed
    simp at listed

end

theorem lengthFrom_edgesOf (far : Length)
    (steps : List (Node × SegmentEdge Coordinate Length)) :
    lengthFrom far (edgesOf steps) = totalFrom SegmentEdge.distanceKm far steps :=
  List.foldl_map

theorem pathLength_edgesOf (leaves : steps ≠ []) :
    pathLength (edgesOf steps) = (total SegmentEdge.distanceKm steps : Length) := by
  have some : edgesOf steps ≠ [] := by simpa [edgesOf] using leaves
  rw [pathLength, if_neg some, lengthFrom_edgesOf, total]

variable [AddLeftMono Length]

/-- The first segment of a route is no longer than the route. -/
theorem first_le_total {next : Node} {edge : SegmentEdge Coordinate Length}
    {rest : List (Node × SegmentEdge Coordinate Length)} :
    edge.distanceKm ≤ total SegmentEdge.distanceKm ((next, edge) :: rest) := by
  have longer := total_le_append SegmentEdge.nonneg [(next, edge)] rest
  rw [← List.nil_append [(next, edge)], total_snoc] at longer
  rwa [total, totalFrom, List.foldl_nil, zero_add] at longer

variable [AddRightMono Length] [LinearOrder Node]

/-- What the search returns, for any two nodes: no path where nothing leads from the one to the
other, else the edges of the least that does. -/
theorem shortestPath_least (nodeKey : Coordinate → Coordinate → Node)
    (edges : List (SegmentEdge Coordinate Length)) (start goal : Node) :
    ∃ path, shortestPath (buildGraph nodeKey edges) (2 * edges.length + 2) start goal = .ok path ∧
      (path = [] ∧ (∀ steps, ¬ Leads nodeKey edges start goal steps) ∨
        ∃ steps, edgesOf steps = path ∧ Leads nodeKey edges start goal steps ∧
          ∀ other, Leads nodeKey edges start goal other →
            total SegmentEdge.distanceKm steps ≤ total SegmentEdge.distanceKm other) := by
  by_cases apart : start = goal
  · subst apart
    obtain ⟨path, found, alone⟩ := shortestPath_same nodeKey edges start
    refine ⟨path, found _ (Nat.le_refl _), ?_⟩
    rcases alone with rfl | ⟨edge, rfl, ⟨next, joins⟩, least⟩
    · refine .inl ⟨rfl, ?_⟩
      rintro (_ | ⟨⟨next, edge⟩, rest⟩) leads
      · exact leads.leaves rfl
      · exact not_joins_of_same (found _ (Nat.le_refl _)) leads.walk.1
    · refine .inr ⟨[(next, edge)], rfl, ⟨⟨joins, trivial⟩, by simp, absurd rfl⟩, ?_⟩
      have alone : total SegmentEdge.distanceKm [(next, edge)] = edge.distanceKm := zero_add _
      rintro (_ | ⟨⟨next', other⟩, rest⟩) leads
      · exact absurd rfl leads.leaves
      · rw [alone]
        exact (least next' other leads.walk.1).trans first_le_total
  · obtain ⟨path, found, none | ⟨steps, taken, some, _, shortest⟩⟩ :=
      shortestPath_cases nodeKey edges apart
    · refine ⟨path, found _ (Nat.le_refl _), .inl ⟨none.1, ?_⟩⟩
      intro steps leads
      exact none.2 ⟨steps, leads.walk, leads.arrives apart⟩
    · refine ⟨path, found _ (Nat.le_refl _), .inr ⟨steps, taken, ⟨shortest.walk, some,
        fun _ => shortest.arrives⟩, ?_⟩⟩
      intro other leads
      exact shortest.minimal other leads.walk (leads.arrives apart)

theorem routeLength_le (leads : Leads nodeKey edges start goal steps) :
    routeLength nodeKey edges start goal ≤ (total SegmentEdge.distanceKm steps : Length) := by
  obtain ⟨path, found, ⟨_, none⟩ | ⟨least, rfl, taken, below⟩⟩ :=
    shortestPath_least nodeKey edges start goal
  · exact absurd leads (none steps)
  · simp only [routeLength, found]
    rw [pathLength_edgesOf taken.leaves]
    exact WithTop.coe_le_coe.mpr (below steps leads)

/-- Where there is a route at all, one has the length. -/
theorem exists_leads (finite : routeLength nodeKey edges start goal ≠ ⊤) :
    ∃ steps, Leads nodeKey edges start goal steps ∧
      routeLength nodeKey edges start goal = (total SegmentEdge.distanceKm steps : Length) := by
  obtain ⟨path, found, ⟨rfl, _⟩ | ⟨least, rfl, taken, _⟩⟩ :=
    shortestPath_least nodeKey edges start goal
  · simp [routeLength, found, pathLength] at finite
  · refine ⟨least, taken, ?_⟩
    simp only [routeLength, found]
    exact pathLength_edgesOf taken.leaves

theorem finite_of_leads (leads : Leads nodeKey edges start goal steps) :
    routeLength nodeKey edges start goal ≠ ⊤ :=
  ne_top_of_le_ne_top WithTop.coe_ne_top (routeLength_le leads)

theorem routeLength_mono (grown : edges ⊆ more) :
    routeLength nodeKey more start goal ≤ routeLength nodeKey edges start goal := by
  by_cases finite : routeLength nodeKey edges start goal = ⊤
  · rw [finite]
    exact le_top
  · obtain ⟨steps, leads, long⟩ := exists_leads finite
    rw [long]
    exact routeLength_le (leads.mono grown)

theorem routeLength_back (finite : routeLength nodeKey edges start goal ≠ ⊤) :
    routeLength nodeKey edges goal start ≠ ⊤ := by
  by_cases apart : start = goal
  · subst apart
    exact finite
  · obtain ⟨steps, leads, _⟩ := exists_leads finite
    exact finite_of_leads (leads.back apart)

/-- The route to the third node may be gone on from, along anything that leads to the goal. -/
theorem routeLength_via {near : Length} (there : routeLength nodeKey edges start via = near)
    (onward : Leads nodeKey edges via goal rest) :
    routeLength nodeKey edges start goal ≤
      (totalFrom SegmentEdge.distanceKm near rest : Length) := by
  obtain ⟨steps, first, far⟩ := exists_leads (by rw [there]; exact WithTop.coe_ne_top)
  obtain rfl : near = total SegmentEdge.distanceKm steps := WithTop.coe_inj.mp (there.symm.trans far)
  have nonneg : 0 ≤ total SegmentEdge.distanceKm steps := le_totalFrom SegmentEdge.nonneg 0 steps
  by_cases left : start = via
  · subst left
    exact (routeLength_le onward).trans (WithTop.coe_le_coe.mpr (totalFrom_mono nonneg rest))
  by_cases ahead : via = goal
  · subst ahead
    exact (routeLength_le first).trans (WithTop.coe_le_coe.mpr (le_totalFrom SegmentEdge.nonneg _ rest))
  · rw [← total_append]
    exact routeLength_le (first.append onward left ahead)

/-- A way back wherever there is one out; no further than on from the route to a third node; no
further for more roads either, and as far in any order of the rows. -/
theorem routeLength_laws (nodeKey : Coordinate → Coordinate → Node)
    (edges more : List (SegmentEdge Coordinate Length)) (grown : edges ⊆ more)
    (start via goal : Node) :
    (routeLength nodeKey edges start goal = ⊤ ↔ routeLength nodeKey edges goal start = ⊤) ∧
      (∀ near rest, routeLength nodeKey edges start via = (near : Length) →
        Leads nodeKey edges via goal rest → routeLength nodeKey edges start goal ≤
          (totalFrom SegmentEdge.distanceKm near rest : Length)) ∧
      routeLength nodeKey more start goal ≤ routeLength nodeKey edges start goal ∧
      ∀ rows, rows.Perm edges →
        routeLength nodeKey rows start goal = routeLength nodeKey edges start goal := by
  refine ⟨?_, fun near rest => routeLength_via, routeLength_mono grown, ?_⟩
  · rw [← not_iff_not]
    exact ⟨routeLength_back, routeLength_back⟩
  · intro rows same
    exact le_antisymm (routeLength_mono same.symm.subset) (routeLength_mono same.subset)

end

/-- Without the third and the fourth road it is nine to the second node and there is no way to the
third. -/
theorem routeLength_laws_roads :
    (routeLength place (roads.take 2) (place 0 0) (place 1 0) = ⊤ ↔
        routeLength place (roads.take 2) (place 1 0) (place 0 0) = ⊤) ∧
      (∀ near rest, routeLength place (roads.take 2) (place 0 0) (place 2 0) = (near : Nat) →
        Leads place (roads.take 2) (place 2 0) (place 1 0) rest →
          routeLength place (roads.take 2) (place 0 0) (place 1 0) ≤
            (totalFrom SegmentEdge.distanceKm near rest : Nat)) ∧
      routeLength place roads (place 0 0) (place 1 0) ≤
        routeLength place (roads.take 2) (place 0 0) (place 1 0) ∧
      ∀ rows, rows.Perm (roads.take 2) → routeLength place rows (place 0 0) (place 1 0) =
        routeLength place (roads.take 2) (place 0 0) (place 1 0) :=
  routeLength_laws place (roads.take 2) roads (List.take_subset 2 roads) (place 0 0) (place 2 0)
    (place 1 0)

example : routeLength place (roads.take 2) (place 0 0) (place 1 0) = (9 : Nat) ∧
    routeLength place (roads.take 2) (place 0 0) (place 2 0) = ⊤ ∧
    routeLength place roads (place 0 0) (place 1 0) = (4 : Nat) := by decide +kernel

/-! ### Between places -/

def routedKm (far : Double) (segments : List RoutedSegment) : Double :=
  segments.foldl (fun far segment => far + segment.distanceKm) far

theorem map_distanceKm_lay (tripCursor : DateTime) (path : List RoadEdge) :
    (lay tripCursor path).map RoutedSegment.distanceKm = path.map SegmentEdge.distanceKm := by
  induction path generalizing tripCursor with
  | nil => rfl
  | cons edge path ih => rw [lay, List.map_cons, ih, List.map_cons, segmentAt]

theorem routedKm_of_map {far : Double} {segments : List RoutedSegment} {path : List RoadEdge}
    (same : segments.map RoutedSegment.distanceKm = path.map SegmentEdge.distanceKm) :
    routedKm far segments = lengthFrom far path := by
  have sums := congrArg (List.foldl (· + ·) far) same
  rwa [List.foldl_map, List.foldl_map] at sums

theorem routedKm_lay (far : Double) (tripCursor : DateTime) (path : List RoadEdge) :
    routedKm far (lay tripCursor path) = lengthFrom far path :=
  routedKm_of_map (map_distanceKm_lay tripCursor path)

/-- The call gives a route, unless the journey leads past the year 9999. -/
def Routed (haversine : Haversine) (network : RoadNetwork) (aLat aLng bLat bLng : ℚ)
    (departureTime : DateTime) (meets : List RoutedSegment → Prop) : Prop :=
  (∃ segments total, resolveRoute haversine network aLat aLng bLat bLng departureTime =
      .ok (segments, total) ∧ meets segments) ∨
    resolveRoute haversine network aLat aLng bLat bLng departureTime = .error .overflowError

section

variable {haversine : Haversine} {network : RoadNetwork}
  {aLat aLng bLat bLng cLat cLng : ℚ} {departureTime later : DateTime}
  {first second : List RoutedSegment × Nat} {edges path : List RoadEdge} {start goal : Position}
  {steps : List (NodeKey × RoadEdge)} {approachKm : Double}

theorem leads_of_located (located : Located haversine network aLat aLng bLat bLng edges start goal
      path approachKm) :
    ∃ steps, edgesOf steps = path ∧ Leads nodeKey edges start.1 goal.1 steps ∧
      routeLength nodeKey edges start.1 goal.1 = (lengthFrom 0 path : Double) := by
  obtain ⟨other, reached, least⟩ := shortestPath_least nodeKey edges start.1 goal.1
  have same := located.found
  rw [searchRounds, reached, Except.ok.injEq] at same
  subst same
  rcases least with ⟨none, _⟩ | ⟨steps, rfl, leads, _⟩
  · exact absurd none located.leaves
  · refine ⟨steps, rfl, leads, ?_⟩
    simp only [routeLength, reached, pathLength, if_neg located.leaves]

theorem reverse_of_same (located : Located haversine network aLat aLng bLat bLng edges start goal
      path approachKm) (same : start.1 = goal.1) : path.reverse = path := by
  obtain ⟨other, reached, alone⟩ := shortestPath_same nodeKey edges goal.1
  have found := located.found
  rw [searchRounds, same, reached _ (Nat.le_refl _), Except.ok.injEq] at found
  subst found
  rcases alone with none | ⟨edge, one, _⟩
  · exact absurd none located.leaves
  · rw [one, List.reverse_singleton]

theorem routed_of_leads (time : DateTime) (loaded : loadEdges haversine network = some edges)
    (starts : nearestNode haversine aLat aLng (nodePositions edges) = some start)
    (ends : nearestNode haversine bLat bLng (nodePositions edges) = some goal)
    (leads : Leads nodeKey edges start.1 goal.1 steps) :
    Routed haversine network aLat aLng bLat bLng time fun segments =>
      routeLength nodeKey edges start.1 goal.1 = (routedKm 0 segments : Double) := by
  obtain ⟨path, reached, ⟨_, none⟩ | ⟨least, rfl, taken, _⟩⟩ :=
    shortestPath_least nodeKey edges start.1 goal.1
  · exact absurd leads (none steps)
  obtain ⟨originKm, origin⟩ := measured_of_nearestNode starts
  obtain ⟨destKm, dest⟩ := measured_of_nearestNode ends
  have leaves : edgesOf least ≠ [] := by simpa [edgesOf] using taken.leaves
  have located : Located haversine network aLat aLng bLat bLng edges start goal (edgesOf least)
      (originKm + destKm) :=
    ⟨loaded, starts, ends, reached, leaves, originKm, destKm, origin, dest, rfl⟩
  by_cases fits : Fits time (edgesOf least)
  · refine .inl ⟨_, _, located.resolveRoute_ok fits, ?_⟩
    simp only [routedKm_lay, routeLength, reached, pathLength, if_neg leaves]
  · exact .inr (located.resolveRoute_late fits)

theorem Routed.imp {time : DateTime} {meets also : List RoutedSegment → Prop}
    (routed : Routed haversine network aLat aLng bLat bLng time meets)
    (implies : ∀ segments, meets segments → also segments) :
    Routed haversine network aLat aLng bLat bLng time also := by
  rcases routed with ⟨segments, total, resolved, met⟩ | late
  · exact .inl ⟨segments, total, resolved, implies segments met⟩
  · exact .inr late

/-- Whoever gets from one place to a second and from there to a third gets back, no further than by
the same segments the other way round, and to the third at once, no further than on from the
second. -/
theorem resolveRoute_onward (time : DateTime)
    (outward : resolveRoute haversine network aLat aLng bLat bLng departureTime = .ok first)
    (onward : resolveRoute haversine network bLat bLng cLat cLng later = .ok second) :
    (Routed haversine network bLat bLng aLat aLng time fun back =>
      routedKm 0 back ≤ routedKm 0 first.1.reverse) ∧
    Routed haversine network aLat aLng cLat cLng time fun direct =>
      routedKm 0 direct ≤ routedKm (routedKm 0 first.1) second.1 := by
  obtain ⟨edges, start, via, path, _, out, _, laid, _⟩ := located_of_resolved outward
  obtain ⟨edges', via', goal, rest, _, on, _, drawn, _⟩ := located_of_resolved onward
  obtain rfl : edges = edges' := Option.some.inj (out.loaded.symm.trans on.loaded)
  obtain rfl : via = via' := Option.some.inj (out.ends.symm.trans on.starts)
  obtain ⟨steps, rfl, there, near⟩ := leads_of_located out
  obtain ⟨others, rfl, ahead, _⟩ := leads_of_located on
  constructor
  · have home : ∃ returned, Leads nodeKey edges via.1 start.1 returned ∧
        edgesOf returned = (edgesOf steps).reverse := by
      by_cases apart : start.1 = via.1
      · refine ⟨steps, ?_, (reverse_of_same out apart).symm⟩
        rw [apart] at there ⊢
        exact there
      · exact ⟨back start.1 steps, there.back apart, edgesOf_back start.1 steps⟩
    obtain ⟨returned, leads, reversed⟩ := home
    refine (routed_of_leads time out.loaded out.ends out.starts leads).imp ?_
    intro segments length
    have short := routeLength_le leads
    rw [length, total, ← lengthFrom_edgesOf, reversed] at short
    rw [laid, @routedKm_of_map 0 (lay departureTime (edgesOf steps)).reverse (edgesOf steps).reverse]
    · exact WithTop.coe_le_coe.mp short
    · rw [List.map_reverse, map_distanceKm_lay, List.map_reverse]
  · have short := routeLength_via near ahead
    rw [← lengthFrom_edgesOf] at short
    have direct : ∃ taken, Leads nodeKey edges start.1 goal.1 taken := by
      obtain ⟨taken, leads, _⟩ := exists_leads (ne_top_of_le_ne_top WithTop.coe_ne_top short)
      exact ⟨taken, leads⟩
    obtain ⟨taken, leads⟩ := direct
    refine (routed_of_leads time out.loaded out.starts on.ends leads).imp ?_
    intro segments length
    rw [length] at short
    rw [laid, drawn, routedKm_lay, routedKm_lay]
    exact WithTop.coe_le_coe.mp short

end

def southSegment : RoutedSegment :=
  ⟨⟨1, .euWestIreland, 12 * hour, by decide⟩, northKm, 74, 53, -6, 54, -6⟩

/-- Out and home again, and so from where one is to there: along the one road, once. -/
theorem resolveRoute_onward_north :
    (Routed meridian northRoad 54 (-6) 53 (-6) (9 * hour) fun back =>
      routedKm 0 back ≤ routedKm 0 [northSegment].reverse) ∧
    Routed meridian northRoad 53 (-6) 53 (-6) (9 * hour) fun direct =>
      routedKm 0 direct ≤ routedKm (routedKm 0 [northSegment]) [southSegment] :=
  have home : resolveRoute meridian northRoad 54 (-6) 53 (-6) (12 * hour) =
      .ok ([southSegment], 74) := by
    decide +kernel
  @resolveRoute_onward meridian northRoad 53 (-6) 54 (-6) 53 (-6) (10 * hour) (12 * hour)
    ([northSegment], 74) ([southSegment], 74) (9 * hour) resolveRoute_north home

end TrafficService.Routing
