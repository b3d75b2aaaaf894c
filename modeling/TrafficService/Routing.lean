import TrafficService.Lib.Walks
import TrafficService.DepartureOffsets
import Mathlib.Algebra.BigOperators.Group.Finset.Piecewise
import Mathlib.Algebra.Order.BigOperators.Group.Finset
import Mathlib.Data.List.MinMax
import Mathlib.Data.Prod.Lex
import Mathlib.Data.Finset.Card

/-!
The road graph of `routing.py` and the search in it, over any lengths that can be added and
compared. A dictionary is a function to `Option`, and a tuple of the heap is compared as Python
compares tuples.
-/

namespace TrafficService.Routing

open Walks

variable {Coordinate Node Length : Type}

structure SegmentEdge (Coordinate Length : Type) [Zero Length] [LE Length] where
  segmentId : SegmentId
  region : Region
  startLat : Coordinate
  startLng : Coordinate
  endLat : Coordinate
  endLng : Coordinate
  distanceKm : Length
  nonneg : 0 ≤ distanceKm
  deriving DecidableEq

def SegmentEdge.key [Zero Length] [LE Length] (edge : SegmentEdge Coordinate Length) :
    Region × SegmentId := (edge.region, edge.segmentId)

structure Graph (Coordinate Node Length : Type) [Zero Length] [LE Length] where
  graph : Node → Option (List (Node × SegmentEdge Coordinate Length))
  nodePositions : Node → Option (Coordinate × Coordinate)

def heappop {Entry : Type} [LinearOrder Entry] (heap : List Entry) : Option (Entry × List Entry) :=
  heap.min?.map fun least => (least, heap.erase least)

structure Popped {Entry : Type} [LE Entry] (heap : List Entry) (least : Entry)
    (rest : List Entry) : Prop where
  member : least ∈ heap
  below : ∀ entry ∈ heap, least ≤ entry
  subset : ∀ entry ∈ rest, entry ∈ heap
  others : ∀ entry ∈ heap, entry ≠ least → entry ∈ rest
  length : rest.length + 1 = heap.length

theorem heappop_eq_none {Entry : Type} [LinearOrder Entry] {heap : List Entry} :
    heappop heap = none ↔ heap = [] := by
  simp [heappop]

theorem popped_of_heappop {Entry : Type} [LinearOrder Entry] {heap rest : List Entry}
    {least : Entry} (popped : heappop heap = some (least, rest)) : Popped heap least rest := by
  obtain ⟨_, found, same⟩ := Option.map_eq_some_iff.mp popped
  obtain ⟨rfl, rfl⟩ := Prod.mk.inj same
  obtain ⟨member, below⟩ := List.min?_eq_some_iff.mp found
  constructor
  · exact member
  · exact below
  · exact fun entry => List.mem_of_mem_erase
  · exact fun entry present other => (List.mem_erase_of_ne other).mpr present
  · rw [List.length_erase_of_mem member]
    have some := List.length_pos_of_mem member
    omega

section

variable [Zero Length] [LE Length] [DecidableEq Node]

def setdefaultAppend {Value : Type} (dict : Node → Option (List Value)) (node : Node)
    (value : Value) : Node → Option (List Value) :=
  Function.update dict node (some ((dict node).getD [] ++ [value]))

variable (nodeKey : Coordinate → Coordinate → Node)

def addEdge (built : Graph Coordinate Node Length) (edge : SegmentEdge Coordinate Length) :
    Graph Coordinate Node Length :=
  let a := nodeKey edge.startLat edge.startLng
  let b := nodeKey edge.endLat edge.endLng
  { nodePositions :=
      Function.update (Function.update built.nodePositions a (some (edge.startLat, edge.startLng)))
        b (some (edge.endLat, edge.endLng))
    graph := setdefaultAppend (setdefaultAppend built.graph a (b, edge)) b (a, edge) }

def buildGraph (edges : List (SegmentEdge Coordinate Length)) : Graph Coordinate Node Length :=
  edges.foldl (addEdge nodeKey) ⟨fun _ => none, fun _ => none⟩

def Joins (edges : List (SegmentEdge Coordinate Length)) (here next : Node)
    (edge : SegmentEdge Coordinate Length) : Prop :=
  edge ∈ edges ∧
    (nodeKey edge.startLat edge.startLng = here ∧ nodeKey edge.endLat edge.endLng = next ∨
      nodeKey edge.startLat edge.startLng = next ∧ nodeKey edge.endLat edge.endLng = here)

def Graph.adjacent (built : Graph Coordinate Node Length) (node : Node) :
    List (Node × SegmentEdge Coordinate Length) := (built.graph node).getD []

end

/-! ### The graph -/

section

variable [Zero Length] [LE Length] [DecidableEq Node] {nodeKey : Coordinate → Coordinate → Node}
  {edges : List (SegmentEdge Coordinate Length)}

/-- The entries an edge adds at a node. A loop adds two. -/
def arcsAt (nodeKey : Coordinate → Coordinate → Node) (node : Node)
    (edge : SegmentEdge Coordinate Length) : List (Node × SegmentEdge Coordinate Length) :=
  (if nodeKey edge.startLat edge.startLng = node then
    [(nodeKey edge.endLat edge.endLng, edge)] else []) ++
  if nodeKey edge.endLat edge.endLng = node then
    [(nodeKey edge.startLat edge.startLng, edge)] else []

def nodesOf (nodeKey : Coordinate → Coordinate → Node)
    (edges : List (SegmentEdge Coordinate Length)) : Finset Node :=
  (edges.flatMap fun edge =>
    [nodeKey edge.startLat edge.startLng, nodeKey edge.endLat edge.endLng]).toFinset

theorem mem_nodesOf {node : Node} : node ∈ nodesOf nodeKey edges ↔
    ∃ edge ∈ edges, node = nodeKey edge.startLat edge.startLng ∨
      node = nodeKey edge.endLat edge.endLng := by
  simp [nodesOf]

theorem getD_setdefaultAppend {Value : Type} (dict : Node → Option (List Value)) (node other : Node)
    (value : Value) : ((setdefaultAppend dict node value) other).getD [] =
      (dict other).getD [] ++ if node = other then [value] else [] := by
  by_cases same : node = other
  · subst same
    simp [setdefaultAppend]
  · simp [setdefaultAppend, same, Ne.symm same]

theorem setdefaultAppend_eq_none {Value : Type} {dict : Node → Option (List Value)}
    {node other : Node} {value : Value} :
    setdefaultAppend dict node value other = none ↔ dict other = none ∧ other ≠ node := by
  by_cases same : other = node
  · simp [setdefaultAppend, same]
  · simp [setdefaultAppend, same]

theorem adjacent_addEdge (built : Graph Coordinate Node Length)
    (edge : SegmentEdge Coordinate Length) (node : Node) :
    (addEdge nodeKey built edge).adjacent node =
      built.adjacent node ++ arcsAt nodeKey node edge := by
  simp only [Graph.adjacent, addEdge, getD_setdefaultAppend, arcsAt, List.append_assoc]

theorem adjacent_foldl (built : Graph Coordinate Node Length) (node : Node) :
    (edges.foldl (addEdge nodeKey) built).adjacent node =
      built.adjacent node ++ edges.flatMap (arcsAt nodeKey node) := by
  induction edges generalizing built with
  | nil => simp
  | cons edge rest ih =>
      rw [List.foldl_cons, ih, adjacent_addEdge, List.flatMap_cons, List.append_assoc]

theorem adjacent_buildGraph (node : Node) :
    (buildGraph nodeKey edges).adjacent node = edges.flatMap (arcsAt nodeKey node) := by
  rw [buildGraph, adjacent_foldl]
  rfl

theorem mem_adjacent_buildGraph {here next : Node} {edge : SegmentEdge Coordinate Length} :
    (next, edge) ∈ (buildGraph nodeKey edges).adjacent here ↔
      Joins nodeKey edges here next edge := by
  rw [adjacent_buildGraph, List.mem_flatMap]
  constructor
  · rintro ⟨taken, member, listed⟩
    rcases List.mem_append.mp listed with along | against
    · split at along
      · rename_i starts
        obtain ⟨rfl, rfl⟩ := Prod.mk.inj (List.mem_singleton.mp along)
        exact ⟨member, .inl ⟨starts, rfl⟩⟩
      · simp at along
    · split at against
      · rename_i ends
        obtain ⟨rfl, rfl⟩ := Prod.mk.inj (List.mem_singleton.mp against)
        exact ⟨member, .inr ⟨rfl, ends⟩⟩
      · simp at against
  · rintro ⟨member, ⟨rfl, rfl⟩ | ⟨rfl, rfl⟩⟩
    · exact ⟨edge, member, by simp [arcsAt]⟩
    · exact ⟨edge, member, by simp [arcsAt]⟩

theorem graph_foldl_eq_none (built : Graph Coordinate Node Length) (node : Node) :
    (edges.foldl (addEdge nodeKey) built).graph node = none ↔
      built.graph node = none ∧ node ∉ nodesOf nodeKey edges := by
  induction edges generalizing built with
  | nil => simp [nodesOf]
  | cons edge rest ih =>
      rw [List.foldl_cons, ih, addEdge]
      simp only [setdefaultAppend_eq_none, nodesOf, List.flatMap_cons, List.toFinset_append,
        Finset.mem_union, not_or, List.toFinset_cons, List.toFinset_nil, Finset.mem_insert,
        Finset.notMem_empty, not_false_eq_true, and_true, and_assoc]

theorem graph_buildGraph_eq_none {node : Node} :
    (buildGraph nodeKey edges).graph node = none ↔ node ∉ nodesOf nodeKey edges := by
  rw [buildGraph, graph_foldl_eq_none]
  simp

theorem sum_arcsAt {nodes : Finset Node} {edge : SegmentEdge Coordinate Length}
    (starts : nodeKey edge.startLat edge.startLng ∈ nodes)
    (ends : nodeKey edge.endLat edge.endLng ∈ nodes) :
    ∑ node ∈ nodes, (arcsAt nodeKey node edge).length = 2 := by
  have count (node : Node) : (arcsAt nodeKey node edge).length =
      (if nodeKey edge.startLat edge.startLng = node then 1 else 0) +
        if nodeKey edge.endLat edge.endLng = node then 1 else 0 := by
    rw [arcsAt, List.length_append]
    split <;> split <;> rfl
  simp only [count, Finset.sum_add_distrib, Finset.sum_ite_eq, starts, ends, if_true]

theorem sum_adjacent (edges : List (SegmentEdge Coordinate Length)) (nodes : Finset Node)
    (inside : nodesOf nodeKey edges ⊆ nodes) :
    ∑ node ∈ nodes, ((buildGraph nodeKey edges).adjacent node).length = 2 * edges.length := by
  simp only [adjacent_buildGraph]
  induction edges with
  | nil => simp
  | cons edge rest ih =>
      have starts : nodeKey edge.startLat edge.startLng ∈ nodes :=
        inside (mem_nodesOf.mpr ⟨edge, List.mem_cons_self, .inl rfl⟩)
      have ends : nodeKey edge.endLat edge.endLng ∈ nodes :=
        inside (mem_nodesOf.mpr ⟨edge, List.mem_cons_self, .inr rfl⟩)
      have later : nodesOf nodeKey rest ⊆ nodes := by
        intro node member
        obtain ⟨other, listed, place⟩ := mem_nodesOf.mp member
        exact inside (mem_nodesOf.mpr ⟨other, List.mem_cons_of_mem _ listed, place⟩)
      simp only [List.flatMap_cons, List.length_append, Finset.sum_add_distrib,
        sum_arcsAt starts ends, ih later, List.length_cons]
      omega

theorem card_nodesOf_le : (nodesOf nodeKey edges).card ≤ 2 * edges.length := by
  refine (List.toFinset_card_le _).trans ?_
  induction edges with
  | nil => simp
  | cons edge rest ih =>
      simp only [List.flatMap_cons, List.length_append, List.length_cons, List.length_nil]
      omega

end

/-! ### The search -/

inductive PathError (Node : Type)
  | keyError (node : Node)
  /-- The bound on the rounds of the loops is used up. -/
  | unfinished
  deriving DecidableEq

section

variable [AddZeroClass Length] [LinearOrder Length] [LinearOrder Node]

structure Search (Coordinate Node Length : Type) [Zero Length] [LE Length] where
  dist : Node → Option Length
  prev : Node → Option (Node × SegmentEdge Coordinate Length)
  heap : List (Length ×ₗ Node)

/-- One round of the `for` loop. A missing `dist` is infinite. -/
def relax (currentDist : Length) (node : Node) (search : Search Coordinate Node Length)
    (arc : Node × SegmentEdge Coordinate Length) : Search Coordinate Node Length :=
  let candidate := currentDist + arc.2.distanceKm
  if (search.dist arc.1).all (candidate < ·) then
    { dist := Function.update search.dist arc.1 (some candidate)
      prev := Function.update search.prev arc.1 (some (node, arc.2))
      heap := toLex (candidate, arc.1) :: search.heap }
  else search

variable (built : Graph Coordinate Node Length)

/-- One round of `while heap`, `none` where the loop is left. -/
def settle (goal : Node) (search : Search Coordinate Node Length) :
    Option (Search Coordinate Node Length) :=
  match heappop search.heap with
  | none => none
  | some (entry, heap) =>
      let currentDist := (ofLex entry).1
      let node := (ofLex entry).2
      if node = goal then none
      else if (search.dist node).any (· < currentDist) then some { search with heap }
      else some ((built.adjacent node).foldl (relax currentDist node) { search with heap })

def followPrev (prev : Node → Option (Node × SegmentEdge Coordinate Length)) (start : Node) :
    Nat → Node → List (SegmentEdge Coordinate Length) →
      Except (PathError Node) (List (SegmentEdge Coordinate Length))
  | 0, _, _ => .error .unfinished
  | rounds + 1, cursor, path =>
      if cursor = start then .ok path
      else
        match prev cursor with
        | none => .error (.keyError cursor)
        | some (parent, edge) => followPrev prev start rounds parent (edge :: path)

def startSearch (start : Node) : Search Coordinate Node Length where
  dist := Function.update (fun _ => none) start (some 0)
  prev := fun _ => none
  heap := [toLex (0, start)]

/-- `_shortest_path`, with a bound on the rounds of either loop. -/
def shortestPath (rounds : Nat) (start goal : Node) :
    Except (PathError Node) (List (SegmentEdge Coordinate Length)) :=
  if built.graph start = none ∨ built.graph goal = none then .ok []
  else
    match Loop.run (settle built goal) rounds (startSearch start) with
    | none => .error .unfinished
    | some search =>
        if start ≠ goal ∧ search.prev goal = none then .ok []
        else if start = goal then
          .ok (((built.adjacent start).map Prod.snd).argmin SegmentEdge.distanceKm).toList
        else followPrev search.prev start rounds goal []

end

end TrafficService.Routing
