import TrafficService.Lib.FirstMinimum
import TrafficService.Lib.Sweeps
import TrafficService.ShortestPath

/-!
Which of several shortest walks `_shortest_path` returns. The nodes it settles are a sweep of the
road graph, and `prev` keeps the first arc that gives a node its label.
-/

namespace TrafficService.Routing

open Walks FirstMinimum

variable {Coordinate Node Length : Type}

/-! ### The offers made to a node -/

section

variable [AddZeroClass Length] [LinearOrder Length] [LinearOrder Node]

/-- An arc as the `for` loop comes to it, with the entry whose node is left. -/
structure Offer (Coordinate Node Length : Type) [Zero Length] [LE Length] where
  source : Length ×ₗ Node
  arc : Node × SegmentEdge Coordinate Length

def Offer.cost (offer : Offer Coordinate Node Length) : Length :=
  (ofLex offer.source).1 + offer.arc.2.distanceKm

omit [LinearOrder Node] in
@[simp]
theorem Offer.cost_mk (source : Length ×ₗ Node) (arc : Node × SegmentEdge Coordinate Length) :
    Offer.cost ⟨source, arc⟩ = (ofLex source).1 + arc.2.distanceKm := rfl

def offersOf (built : Graph Coordinate Node Length) (order : List (Length ×ₗ Node)) :
    List (Offer Coordinate Node Length) :=
  order.flatMap fun source => (built.adjacent (ofLex source).2).map (Offer.mk source)

def best (made : List (Offer Coordinate Node Length)) (node : Node) :
    Option (Offer Coordinate Node Length) :=
  (made.filter fun offer => decide (offer.arc.1 = node)).argmin Offer.cost

/-- The start apart, `dist` and `prev` hold the best offer. -/
def Kept (start : Node) (search : Search Coordinate Node Length)
    (made : List (Offer Coordinate Node Length)) : Prop :=
  ∀ node, node ≠ start → search.dist node = (best made node).map Offer.cost ∧
    search.prev node = (best made node).map fun offer => ((ofLex offer.source).2, offer.arc.2)

variable {built : Graph Coordinate Node Length} {start goal node : Node} {label floor : Length}
  {done nodes : Finset Node} {search : Search Coordinate Node Length}
  {made : List (Offer Coordinate Node Length)} {order : List (Length ×ₗ Node)}
  {steps : List (Node × SegmentEdge Coordinate Length)}

theorem best_concat (made : List (Offer Coordinate Node Length))
    (offer : Offer Coordinate Node Length) :
    best (made ++ [offer]) offer.arc.1 = match best made offer.arc.1 with
      | none => some offer
      | some other => if offer.cost < other.cost then some offer else some other := by
  rw [best, List.filter_append, List.filter_cons_of_pos (by simp), List.filter_nil,
    List.argmin_concat, ← best]
  cases best made offer.arc.1 <;> rfl

theorem best_concat_of_ne {offer : Offer Coordinate Node Length} (other : offer.arc.1 ≠ node) :
    best (made ++ [offer]) node = best made node := by
  rw [best, List.filter_append, List.filter_cons_of_neg (by simpa using other), List.filter_nil,
    List.append_nil, best]

/-- The comparison in the `for` loop is that of a running first minimum. -/
theorem Kept.relax (kept : Kept start search made) (source : Length ×ₗ Node)
    (arc : Node × SegmentEdge Coordinate Length) :
    Kept start (relax (ofLex source).1 (ofLex source).2 search arc)
      (made ++ [⟨source, arc⟩]) := by
  intro node away
  by_cases here : arc.1 = node
  · subst here
    have before := kept arc.1 away
    have after := best_concat made ⟨source, arc⟩
    cases found : best made arc.1 with
    | none =>
        simp only [found, Option.map_none] at before after
        simp [Routing.relax, before.1, after]
    | some other =>
        simp only [found, Option.map_some] at before after
        by_cases cheaper : (ofLex source).1 + arc.2.distanceKm < other.cost
        · rw [Offer.cost_mk, if_pos cheaper] at after
          simp [Routing.relax, before.1, after, cheaper]
        · rw [Offer.cost_mk, if_neg cheaper] at after
          simp [Routing.relax, before.1, before.2, after, cheaper]
  · rw [best_concat_of_ne here]
    rcases relax_cases (ofLex source).1 (ofLex source).2 search arc with
      ⟨_, _, _, same⟩ | ⟨_, improved⟩
    · rw [same]
      exact kept node away
    · rw [improved]
      simpa [Ne.symm here] using kept node away

theorem Kept.relaxAll (source : Length ×ₗ Node)
    (arcs : List (Node × SegmentEdge Coordinate Length)) (kept : Kept start search made) :
    Kept start (arcs.foldl (Routing.relax (ofLex source).1 (ofLex source).2) search)
      (made ++ arcs.map (Offer.mk source)) := by
  induction arcs generalizing search made with
  | nil => simpa using kept
  | cons arc arcs ih =>
      have rest := ih (kept.relax source arc)
      rwa [List.append_assoc] at rest

theorem mem_offersOf {offer : Offer Coordinate Node Length} : offer ∈ offersOf built order ↔
    offer.source ∈ order ∧ built.Arc (ofLex offer.source).2 offer.arc.1 offer.arc.2 := by
  obtain ⟨source, arc⟩ := offer
  simp only [offersOf, List.mem_flatMap, List.mem_map, Graph.Arc]
  constructor
  · rintro ⟨_, member, _, leads, ⟨⟩⟩
    exact ⟨member, leads⟩
  · rintro ⟨member, leads⟩
    exact ⟨source, member, arc, leads, rfl⟩

end

/-! ### The walk that is returned -/

section

variable [Zero Length] [LE Length] [DecidableEq Node] {nodeKey : Coordinate → Coordinate → Node}
  {edges : List (SegmentEdge Coordinate Length)} {here next : Node}

def rowsBetween (nodeKey : Coordinate → Coordinate → Node)
    (edges : List (SegmentEdge Coordinate Length)) (here next : Node) :
    List (SegmentEdge Coordinate Length) :=
  edges.filter fun edge =>
    nodeKey edge.startLat edge.startLng = here ∧ nodeKey edge.endLat edge.endLng = next ∨
      nodeKey edge.startLat edge.startLng = next ∧ nodeKey edge.endLat edge.endLng = here

theorem filter_arcsAt (apart : here ≠ next) (edge : SegmentEdge Coordinate Length) :
    (arcsAt nodeKey here edge).filter (fun arc => decide (arc.1 = next)) =
      (rowsBetween nodeKey [edge] here next).map (Prod.mk next) := by
  rw [arcsAt, rowsBetween]
  by_cases along : nodeKey edge.startLat edge.startLng = here
  · subst along
    by_cases ends : nodeKey edge.endLat edge.endLng = next
    · subst ends
      simp [apart, Ne.symm apart]
    · simp [ends, apart]
  · by_cases against : nodeKey edge.endLat edge.endLng = here
    · subst against
      by_cases ends : nodeKey edge.startLat edge.startLng = next
      · subst ends
        simp [along]
      · simp [along, ends]
    · simp [along, against]

theorem filter_adjacent (apart : here ≠ next) :
    ((buildGraph nodeKey edges).adjacent here).filter (fun arc => decide (arc.1 = next)) =
      (rowsBetween nodeKey edges here next).map (Prod.mk next) := by
  rw [adjacent_buildGraph, List.filter_flatMap]
  induction edges with
  | nil => rfl
  | cons edge rest ih =>
      rw [List.flatMap_cons, ih, filter_arcsAt apart, ← List.map_append, rowsBetween, rowsBetween,
        ← List.filter_append, List.singleton_append, ← rowsBetween]

end

section

variable [AddZeroClass Length] [LinearOrder Length] [LinearOrder Node]
  {nodeKey : Coordinate → Coordinate → Node} {edges : List (SegmentEdge Coordinate Length)}
  {start goal node : Node} {label floor : Length} {done nodes : Finset Node}
  {search : Search Coordinate Node Length} {order : List (Length ×ₗ Node)}
  {steps : List (Node × SegmentEdge Coordinate Length)}

theorem mem_rowsBetween {here next : Node} {edge : SegmentEdge Coordinate Length} :
    edge ∈ rowsBetween nodeKey edges here next ↔ Joins nodeKey edges here next edge := by
  simp [rowsBetween, Joins]

theorem listed_rowsBetween : Listed (rowsBetween nodeKey edges) = Joins nodeKey edges := by
  funext here next edge
  exact propext mem_rowsBetween

/-- The nearest node to the start first, and of equally near ones the lowest in reach. -/
abbrev RoadSweep (nodeKey : Coordinate → Coordinate → Node)
    (edges : List (SegmentEdge Coordinate Length)) (start : Node) : List (Length ×ₗ Node) → Prop :=
  Sweep (rowsBetween nodeKey edges) SegmentEdge.distanceKm start

/-- The shortest walk that comes to each of its nodes over the earliest node in the order, and by
the first row from there. -/
abbrev RoadPreferred (nodeKey : Coordinate → Coordinate → Node)
    (edges : List (SegmentEdge Coordinate Length)) (start : Node) (order : List (Length ×ₗ Node)) :
    Node → List (Node × SegmentEdge Coordinate Length) → Prop :=
  Preferred (rowsBetween nodeKey edges) SegmentEdge.distanceKm start order

/-! ### The order in which nodes are settled -/

structure Swept (nodeKey : Coordinate → Coordinate → Node)
    (edges : List (SegmentEdge Coordinate Length)) (start : Node)
    (search : Search Coordinate Node Length) (done : Finset Node) (order : List (Length ×ₗ Node)) :
    Prop where
  kept : Kept start search (offersOf (buildGraph nodeKey edges) order)
  sweep : RoadSweep nodeKey edges start order
  labels : ∀ entry ∈ order, search.dist (ofLex entry).2 = some (ofLex entry).1
  listed : ∀ node ∈ done, ∃ label, toLex (label, node) ∈ order
  settled : ∀ entry ∈ order, (ofLex entry).2 ∈ done

theorem swept_startSearch : Swept nodeKey edges start (startSearch start) ∅ [] := by
  refine ⟨?_, .nil, by simp, by simp, by simp⟩
  intro node away
  simp [startSearch, away, best, offersOf]

theorem Swept.le_inReach {entry other : Length ×ₗ Node} {heap : List (Length ×ₗ Node)}
    (swept : Swept nodeKey edges start search done order)
    (settled : Settled (buildGraph nodeKey edges) start goal nodes search done floor)
    (popped : Popped search.heap entry heap)
    (reach : InReach (rowsBetween nodeKey edges) SegmentEdge.distanceKm start order other) :
    entry ≤ other := by
  have ahead : (ofLex other).2 ∉ done := by
    intro among
    obtain ⟨label, member⟩ := swept.listed _ among
    exact reach.fresh _ member rfl
  have labelled : ∃ label, search.dist (ofLex other).2 = some label ∧ label ≤ (ofLex other).1 := by
    rcases reach.offered with rfl | ⟨near, member, edge, leads, sum⟩
    · exact ⟨0, settled.origin, le_refl 0⟩
    · have arc := mem_rowsBetween.mp leads
      rw [← arc_buildGraph] at arc
      obtain ⟨label, found, bound⟩ := settled.relaxed _ _ edge _ (swept.settled near member)
        (swept.labels near member) arc
      exact ⟨label, found, bound.trans_eq sum⟩
  obtain ⟨label, found, bound⟩ := labelled
  refine (popped.below _ (settled.live _ ahead label found)).trans ?_
  rcases bound.lt_or_eq with less | same
  · exact Prod.Lex.toLex_le_toLex.mpr (.inl less)
  · exact Prod.Lex.toLex_le_toLex.mpr (.inr ⟨same, le_refl _⟩)

theorem filter_offersOf {built : Graph Coordinate Node Length} {source : Length ×ₗ Node}
    (distinct : order.Nodup) (member : source ∈ order) :
    (offersOf built order).filter (fun offer => decide (offer.source = source)) =
      (built.adjacent (ofLex source).2).map (Offer.mk source) := by
  have every (arcs : List (Node × SegmentEdge Coordinate Length)) :
      (arcs.map (Offer.mk source)).filter (fun offer => decide (offer.source = source)) =
        arcs.map (Offer.mk source) := by
    rw [List.filter_eq_self]
    intro offer made
    obtain ⟨_, _, rfl⟩ := List.mem_map.mp made
    exact decide_eq_true rfl
  have none (rest : List (Length ×ₗ Node)) (absent : source ∉ rest) :
      (offersOf built rest).filter (fun offer => decide (offer.source = source)) = [] := by
    rw [List.filter_eq_nil_iff]
    intro offer made same
    rw [decide_eq_true_eq] at same
    exact absent (same ▸ (mem_offersOf.mp made).1)
  induction order with
  | nil => simp at member
  | cons head rest ih =>
      have parted := List.nodup_cons.mp distinct
      have split : offersOf built (head :: rest) =
          (built.adjacent (ofLex head).2).map (Offer.mk head) ++ offersOf built rest := by
        simp [offersOf]
      rw [split, List.filter_append]
      rcases List.mem_cons.mp member with rfl | later
      · rw [every, none rest parted.1, List.append_nil]
      · rw [ih parted.2 later, List.filter_eq_nil_iff.mpr, List.nil_append]
        intro offer made same
        obtain ⟨_, _, rfl⟩ := List.mem_map.mp made
        obtain rfl : head = source := of_decide_eq_true same
        exact parted.1 later

theorem nodup_of_sweep (sweep : RoadSweep nodeKey edges start order) : order.Nodup := by
  induction sweep with
  | nil => exact List.nodup_nil
  | snoc before reach least ih =>
      rw [List.nodup_append_comm]
      refine List.nodup_cons.mpr ⟨fun again => ?_, ih⟩
      exact reach.fresh _ again rfl

/-- What `prev` holds is the first offer, as the comparison in the `for` loop is strict. -/
theorem Swept.firstOffer {parent : Node} {edge : SegmentEdge Coordinate Length}
    (swept : Swept nodeKey edges start search done order) (away : node ≠ start)
    (apart : parent ≠ node) (recorded : search.prev node = some (parent, edge)) :
    ∃ far, FirstOffer (rowsBetween nodeKey edges) SegmentEdge.distanceKm order
        (toLex (far, parent)) node edge ∧
      search.dist node = some (far + edge.distanceKm) ∧ toLex (far, parent) ∈ order := by
  obtain ⟨label, previous⟩ := swept.kept node away
  rw [recorded, eq_comm] at previous
  obtain ⟨⟨source, ⟨next, row⟩⟩, found, same⟩ := Option.map_eq_some_iff.mp previous
  obtain ⟨rfl, rfl⟩ := Prod.mk.inj same
  have made := List.mem_filter.mp (List.argmin_mem found)
  obtain rfl : next = node := by simpa using made.2
  have member := (mem_offersOf.mp made.1).1
  have distinct := nodup_of_sweep swept.sweep
  rw [found] at label
  refine ⟨(ofLex source).1, ⟨?_, ?_⟩, label, member⟩
  · obtain ⟨earlier, later, whole⟩ := List.append_of_mem member
    refine ⟨earlier, later, whole, ?_⟩
    intro other listed road between
    obtain ⟨before, after, split, dearer, _⟩ := exists_split found
    rw [whole, offersOf, List.flatMap_append, List.filter_append, ← offersOf] at split
    have joins := mem_rowsBetween.mp between
    rw [← arc_buildGraph] at joins
    have offered : (⟨other, (next, road)⟩ : Offer Coordinate Node Length) ∈
        (offersOf (buildGraph nodeKey edges) earlier).filter
          fun offer => decide (offer.arc.1 = next) :=
      List.mem_filter.mpr ⟨mem_offersOf.mpr ⟨listed, joins⟩, by simp⟩
    -- the offers of the nodes before the parent all come before its own
    rcases List.append_eq_append_iff.mp split with ⟨rest, front, _⟩ | ⟨rest, front, taken⟩
    · rw [front] at dearer
      exact dearer _ (List.mem_append_left _ offered)
    · cases rest with
      | nil =>
          rw [List.append_nil] at front
          exact dearer _ (front ▸ offered)
      | cons first rest =>
          obtain ⟨rfl, _⟩ := List.cons.inj taken
          have again : source ∈ earlier := by
            have listed := List.mem_of_mem_filter (front ▸ List.mem_append_right before
              List.mem_cons_self)
            exact (mem_offersOf.mp listed).1
          rw [whole, List.nodup_append_comm] at distinct
          exact absurd (List.mem_append_right later again) (List.nodup_cons.mp distinct).1
  · have own : decide ((⟨source, (next, row)⟩ : Offer Coordinate Node Length).source = source) =
        true := decide_eq_true rfl
    have alone := @argmin_filter _ _ _ _ _ _ (fun offer => decide (offer.source = source)) found own
    have ends : ((fun offer : Offer Coordinate Node Length => decide (offer.arc.1 = next)) ∘
        Offer.mk source) = fun arc => decide (arc.1 = next) := rfl
    rw [List.filter_comm, filter_offersOf distinct member, List.filter_map, ends,
      filter_adjacent apart, List.map_map] at alone
    have same (one two : SegmentEdge Coordinate Length) : Offer.cost ⟨source, (next, one)⟩ <
        Offer.cost ⟨source, (next, two)⟩ ↔
          (ofLex source).1 + one.distanceKm < (ofLex source).1 + two.distanceKm := Iff.rfl
    have rows := (argmin_map same).symm.trans alone
    obtain ⟨road, first, same⟩ := Option.map_eq_some_iff.mp rows
    obtain rfl : road = row := by simpa using same
    exact first

/-- The steps that `prev` records for a node are the preferred ones. -/
theorem Swept.preferred (swept : Swept nodeKey edges start search done order)
    (origin : search.dist start = some 0) (chain : Chain search.prev start node steps)
    (walk : IsWalk (Joins nodeKey edges) start steps) (simple : (visited start steps).Nodup)
    (found : search.dist node = some label)
    (least : ∀ other, IsWalk (Joins nodeKey edges) start other → arrival start other = node →
      label ≤ total SegmentEdge.distanceKm other) :
    RoadPreferred nodeKey edges start order node steps ∧
      total SegmentEdge.distanceKm steps = label := by
  induction chain generalizing label with
  | origin => exact ⟨.origin, Option.some.inj (origin.symm.trans found)⟩
  | @step parent node edge steps before recorded ih =>
      rw [visited_snoc, List.nodup_append_comm] at simple
      have parted := List.nodup_cons.mp simple
      have away : node ≠ start := by
        rintro rfl
        exact parted.1 List.mem_cons_self
      have apart : parent ≠ node := by
        rintro rfl
        have last := arrival_mem_visited start steps
        rw [before.arrival] at last
        exact parted.1 last
      obtain ⟨far, offer, labelled, member⟩ := swept.firstOffer away apart recorded
      obtain ⟨preferred, sum⟩ := ih (isWalk_snoc.mp walk).1 parted.2 (swept.labels _ member) <| by
        intro other walks arrives
        rw [← listed_rowsBetween] at walks
        exact swept.sweep.least member walks arrives
      obtain rfl := Option.some.inj (labelled.symm.trans found)
      have whole : total SegmentEdge.distanceKm (steps ++ [(node, edge)]) =
          far + edge.distanceKm := by
        rw [total_snoc, sum]
        rfl
      refine ⟨.step preferred away ⟨?_, ?_, ?_⟩ ?_, whole⟩
      · rwa [listed_rowsBetween]
      · rw [arrival_append, arrival, arrival]
      · intro other walks arrives
        rw [listed_rowsBetween] at walks
        rw [whole]
        exact least other walks arrives
      · rw [sum]
        exact offer

end

section

variable [AddZeroClass Length] [LinearOrder Length] [AddLeftMono Length] [AddRightMono Length]
  [LinearOrder Node] {nodeKey : Coordinate → Coordinate → Node}
  {edges : List (SegmentEdge Coordinate Length)} {start goal : Node} {floor : Length}
  {done nodes : Finset Node} {search : Search Coordinate Node Length} {order : List (Length ×ₗ Node)}

/-! ### The loops -/

/-- The entry at the top is in reach: no walk to its node is shorter than its label. -/
theorem Swept.inReach {entry : Length ×ₗ Node} {heap : List (Length ×ₗ Node)}
    (swept : Swept nodeKey edges start search done order)
    (settled : Settled (buildGraph nodeKey edges) start goal nodes search done floor)
    (popped : Popped search.heap entry heap) (fresh : (ofLex entry).2 ∉ done)
    (current : search.dist (ofLex entry).2 = some (ofLex entry).1) :
    InReach (rowsBetween nodeKey edges) SegmentEdge.distanceKm start order entry := by
  refine ⟨?_, ?_, ?_⟩
  · intro other member same
    exact fresh (same ▸ swept.settled other member)
  · by_cases origin : (ofLex entry).2 = start
    · left
      rw [origin, settled.origin, Option.some.injEq] at current
      rw [current, ← origin]
      rfl
    · right
      obtain ⟨parent, edge, before, _, earlier, reached, sum, leads⟩ :=
        settled.parents _ fresh origin _ current
      obtain ⟨near, member⟩ := swept.listed parent earlier
      have same := (swept.labels _ member).symm.trans reached
      rw [ofLex_toLex, Option.some.injEq] at same
      subst same
      rw [arc_buildGraph] at leads
      exact ⟨_, member, edge, mem_rowsBetween.mpr leads, sum⟩
  · intro steps walk arrives
    rw [listed_rowsBetween, ← arc_buildGraph] at walk
    rcases label_le_total (fun edge => edge.nonneg) settled.origin settled.relaxed steps walk with
      ⟨label, found, bound⟩ | ⟨other, label, ahead, found, bound⟩
    · rw [arrives, current, Option.some.injEq] at found
      rwa [found]
    · have waiting := popped.below _ (settled.live other ahead label found)
      exact (Prod.Lex.monotone_fst _ _ waiting).trans bound

theorem Swept.expand {entry : Length ×ₗ Node} {heap : List (Length ×ₗ Node)}
    {next : Search Coordinate Node Length} (swept : Swept nodeKey edges start search done order)
    (settled : Settled (buildGraph nodeKey edges) start goal (nodesOf nodeKey edges) search done
      floor)
    (popped : Popped search.heap entry heap) (fresh : (ofLex entry).2 ∉ done)
    (current : search.dist (ofLex entry).2 = some (ofLex entry).1)
    (moved : ((buildGraph nodeKey edges).adjacent (ofLex entry).2).foldl
      (relax (ofLex entry).1 (ofLex entry).2) { search with heap } = next) :
    Swept nodeKey edges start next (insert (ofLex entry).2 done) (order ++ [entry]) := by
  have all := (settled.pop popped fresh current).relaxAll
    ((buildGraph nodeKey edges).adjacent (ofLex entry).2) (Finset.mem_insert_self _ _) current
    fun arc member => ⟨member, arc_mem_nodesOf _ arc.1 arc.2 member⟩
  have kept : Kept start { search with heap } (offersOf (buildGraph nodeKey edges) order) :=
    swept.kept
  rw [moved] at all
  constructor
  · have offers := kept.relaxAll entry ((buildGraph nodeKey edges).adjacent (ofLex entry).2)
    rw [moved] at offers
    simpa [offersOf] using offers
  · exact .snoc swept.sweep (swept.inReach settled popped fresh current)
      fun other reach => swept.le_inReach settled popped reach
  · intro other member
    rcases List.mem_append.mp member with earlier | same
    · rw [all.kept _ (Finset.mem_insert_of_mem (swept.settled other earlier))]
      exact swept.labels other earlier
    · rw [List.mem_singleton.mp same, all.kept _ (Finset.mem_insert_self _ _)]
      exact current
  · intro node among
    rcases Finset.mem_insert.mp among with rfl | earlier
    · exact ⟨(ofLex entry).1, List.mem_append_right _ List.mem_cons_self⟩
    · obtain ⟨label, member⟩ := swept.listed node earlier
      exact ⟨label, List.mem_append_left _ member⟩
  · intro other member
    rcases List.mem_append.mp member with earlier | same
    · exact Finset.mem_insert_of_mem (swept.settled other earlier)
    · rw [List.mem_singleton.mp same]
      exact Finset.mem_insert_self _ _

def Sweeping (nodeKey : Coordinate → Coordinate → Node)
    (edges : List (SegmentEdge Coordinate Length)) (start goal : Node)
    (search : Search Coordinate Node Length) : Prop :=
  ∃ done floor order,
    Settled (buildGraph nodeKey edges) start goal (nodesOf nodeKey edges) search done floor ∧
      Swept nodeKey edges start search done order

theorem Sweeping.settle {next : Search Coordinate Node Length}
    (sweeping : Sweeping nodeKey edges start goal search)
    (moved : Routing.settle (buildGraph nodeKey edges) goal search = some next) :
    Sweeping nodeKey edges start goal next := by
  obtain ⟨done, floor, order, settled, swept⟩ := sweeping
  obtain ⟨entry, heap, round⟩ := settled.round moved
  rcases round.moved with ⟨stale, rfl⟩ | ⟨⟨fresh, current⟩, relaxed⟩
  · exact ⟨done, floor, order, (settled.discard round.popped stale).1, { swept with }⟩
  · exact ⟨_, _, _, (settled.expand arc_mem_nodesOf round.popped round.onward fresh current
      relaxed).1, swept.expand settled round.popped fresh current relaxed⟩

/-- Between two nodes apart that are connected the search returns the preferred walk. -/
theorem shortestPath_preferred (apart : start ≠ goal)
    (connected : Reachable (Joins nodeKey edges) start goal) :
    ∃ order steps, RoadSweep nodeKey edges start order ∧
      RoadPreferred nodeKey edges start order goal steps ∧ steps ≠ [] ∧
      ∀ rounds, 2 * edges.length + 2 ≤ rounds →
        shortestPath (buildGraph nodeKey edges) rounds start goal = .ok (edgesOf steps) := by
  obtain ⟨walk, walks, arrives⟩ := connected
  have some : walk ≠ [] := by
    rintro rfl
    exact apart arrives
  obtain ⟨starts, ends⟩ := walk_mem walks some
  rw [arrives] at ends
  obtain ⟨search, _, _, left, _, reached⟩ := search_ends goal starts
  have begun : Sweeping nodeKey edges start goal (startSearch start) :=
    ⟨∅, 0, [], settled_startSearch starts, swept_startSearch⟩
  have ended : Sweeping nodeKey edges start goal search :=
    Loop.run_keeps (fun _ _ sweeping moved => sweeping.settle moved) begun
      (reached _ (Nat.le_refl _))
  obtain ⟨done, floor, order, settled, swept⟩ := ended
  rw [← arc_buildGraph] at walks
  obtain ⟨label, found, _⟩ := settled.label_le left walks arrives
  obtain ⟨steps, traced, shortest, taken, path⟩ :=
    shortestPath_of_search starts ends settled left reached apart found
  refine ⟨order, steps, swept.sweep, ?_, taken, path⟩
  refine (swept.preferred settled.origin traced.chain shortest.walk traced.simple found ?_).1
  intro other walks arrives
  rw [← traced.total]
  exact shortest.minimal other walks arrives

end

end TrafficService.Routing
