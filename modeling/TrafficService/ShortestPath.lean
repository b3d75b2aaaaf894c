import TrafficService.Routing

/-!
The search of `_shortest_path` settles each node once, at its distance from the start. `done` are
the nodes whose arcs have been relaxed, `floor` is the label settled last.
-/

namespace TrafficService.Routing

open Walks

variable {Coordinate Node Length : Type}

/-! ### The chain along `prev` -/

section

variable [Zero Length] [LE Length]

def Graph.Arc [DecidableEq Node] (built : Graph Coordinate Node Length) (here next : Node)
    (edge : SegmentEdge Coordinate Length) : Prop := (next, edge) ∈ built.adjacent here

inductive Chain (prev : Node → Option (Node × SegmentEdge Coordinate Length)) (start : Node) :
    Node → List (Node × SegmentEdge Coordinate Length) → Prop
  | origin : Chain prev start start []
  | step {parent node edge steps} : Chain prev start parent steps →
      prev node = some (parent, edge) → Chain prev start node (steps ++ [(node, edge)])

variable {prev next : Node → Option (Node × SegmentEdge Coordinate Length)} {start node : Node}
  {steps : List (Node × SegmentEdge Coordinate Length)}

theorem Chain.arrival (chain : Chain prev start node steps) : arrival start steps = node := by
  cases chain with
  | origin => rfl
  | step before recorded => rw [arrival_append, Walks.arrival, Walks.arrival]

theorem Chain.congr (chain : Chain prev start node steps)
    (same : ∀ node ∈ visited start steps, next node = prev node) :
    Chain next start node steps := by
  induction chain with
  | origin => exact .origin
  | @step parent node edge steps before recorded ih =>
      rw [visited_snoc] at same
      refine .step (ih fun other earlier => same other (List.mem_append_left _ earlier)) ?_
      rw [same node (List.mem_append_right _ List.mem_cons_self), recorded]

theorem Chain.init {place : Node} {edge : SegmentEdge Coordinate Length}
    (chain : Chain prev start node (steps ++ [(place, edge)])) :
    Chain prev start (Walks.arrival start steps) steps ∧
      prev place = some (Walks.arrival start steps, edge) := by
  generalize whole : steps ++ [(place, edge)] = all at chain
  cases chain with
  | origin => simp at whole
  | step before recorded =>
      obtain ⟨rfl, last⟩ := List.append_inj' whole rfl
      obtain ⟨rfl, rfl⟩ := Prod.mk.inj (List.head_eq_of_cons_eq last)
      rw [before.arrival]
      exact ⟨before, recorded⟩

theorem Chain.take {before after : List (Node × SegmentEdge Coordinate Length)}
    (chain : Chain prev start node (before ++ after)) :
    Chain prev start (Walks.arrival start before) before := by
  induction after using List.reverseRecOn generalizing node with
  | nil =>
      rw [List.append_nil] at chain
      rwa [chain.arrival]
  | append_singleton after last ih =>
      rw [← List.append_assoc] at chain
      exact ih chain.init.1

end

section

variable [AddZeroClass Length] [LinearOrder Length] [LinearOrder Node]

/-- The steps a chain records are a walk of the given length through the given nodes. -/
structure Traced (built : Graph Coordinate Node Length)
    (prev : Node → Option (Node × SegmentEdge Coordinate Length)) (start : Node)
    (within : Finset Node) (node : Node) (label : Length)
    (steps : List (Node × SegmentEdge Coordinate Length)) : Prop where
  chain : Chain prev start node steps
  walk : IsWalk built.Arc start steps
  total : total SegmentEdge.distanceKm steps = label
  within : ∀ place ∈ visited start steps, place ∈ within
  simple : (visited start steps).Nodup

variable {built : Graph Coordinate Node Length} {start goal node : Node} {label floor : Length}
  {prev other : Node → Option (Node × SegmentEdge Coordinate Length)} {done nodes : Finset Node}
  {steps : List (Node × SegmentEdge Coordinate Length)}
  {search : Search Coordinate Node Length}

theorem Traced.congr (traced : Traced built prev start done node label steps)
    (same : ∀ node ∈ done, other node = prev node) :
    Traced built other start done node label steps :=
  { traced with
    chain := traced.chain.congr fun place visited => same place (traced.within place visited) }

theorem Traced.mono {more : Finset Node} (traced : Traced built prev start done node label steps)
    (subset : done ⊆ more) : Traced built prev start more node label steps :=
  { traced with within := fun place visited => subset (traced.within place visited) }

theorem Traced.snoc {parent : Node} {edge : SegmentEdge Coordinate Length}
    (traced : Traced built prev start done parent label steps) (fresh : node ∉ done)
    (recorded : prev node = some (parent, edge)) (arc : built.Arc parent node edge) :
    Traced built prev start (insert node done) node (label + edge.distanceKm)
      (steps ++ [(node, edge)]) where
  chain := .step traced.chain recorded
  walk := isWalk_snoc.mpr ⟨traced.walk, by rwa [traced.chain.arrival]⟩
  total := by rw [total_snoc, traced.total]
  within := by
    intro place visited
    rw [visited_snoc, List.mem_append, List.mem_singleton] at visited
    rcases visited with earlier | rfl
    · exact Finset.mem_insert_of_mem (traced.within place earlier)
    · exact Finset.mem_insert_self place done
  simple := by
    rw [visited_snoc, List.nodup_append_comm]
    exact List.nodup_cons.mpr ⟨fun earlier => fresh (traced.within node earlier), traced.simple⟩

theorem Traced.card_le (traced : Traced built prev start done node label steps) :
    steps.length + 1 ≤ done.card := by
  have distinct := List.toFinset_card_of_nodup traced.simple
  have subset : (visited start steps).toFinset ⊆ done := by
    intro place visited
    exact traced.within place (List.mem_toFinset.mp visited)
  have bound := Finset.card_le_card subset
  rw [distinct] at bound
  simpa [visited] using bound

theorem followPrev_chain (chain : Chain prev start node steps)
    (simple : (visited start steps).Nodup) (rounds : Nat) (enough : steps.length < rounds)
    (path : List (SegmentEdge Coordinate Length)) :
    followPrev prev start rounds node path = .ok (edgesOf steps ++ path) := by
  induction chain generalizing rounds path with
  | origin =>
      cases rounds with
      | zero => simp at enough
      | succ rounds => simp [followPrev, edgesOf]
  | @step parent node edge steps before recorded ih =>
      rw [visited_snoc, List.nodup_append_comm] at simple
      have parted := List.nodup_cons.mp simple
      have away : node ≠ start := by
        rintro rfl
        exact parted.1 List.mem_cons_self
      rw [List.length_append, List.length_singleton] at enough
      cases rounds with
      | zero => omega
      | succ rounds =>
          rw [followPrev, if_neg away, recorded]
          simp only
          rw [ih parted.2 rounds (by omega)]
          simp [edgesOf]

/-! ### One relaxation -/

/-- What holds of labels, `prev` and heap while the arcs of a node are relaxed. -/
structure Labelled (built : Graph Coordinate Node Length) (start : Node) (nodes : Finset Node)
    (search : Search Coordinate Node Length) (done : Finset Node) (floor : Length) : Prop where
  nonneg : 0 ≤ floor
  origin : search.dist start = some 0
  inside : ∀ node label, search.dist node = some label → node ∈ nodes
  below : ∀ node ∈ done, ∃ label, search.dist node = some label ∧ label ≤ floor
  above : ∀ entry ∈ search.heap, floor ≤ (ofLex entry).1
  entries : ∀ entry ∈ search.heap, ∃ label,
    search.dist (ofLex entry).2 = some label ∧ label ≤ (ofLex entry).1
  live : ∀ node ∉ done, ∀ label, search.dist node = some label →
    toLex (label, node) ∈ search.heap
  unreached : ∀ node, search.dist node = none → search.prev node = none
  chains : ∀ node ∈ done, ∀ label, search.dist node = some label →
    ∃ steps, Traced built search.prev start done node label steps
  parents : ∀ node ∉ done, node ≠ start → ∀ label, search.dist node = some label →
    ∃ parent edge before, search.prev node = some (parent, edge) ∧ parent ∈ done ∧
      search.dist parent = some before ∧ before + edge.distanceKm = label ∧
      built.Arc parent node edge

def Lowered (search next : Search Coordinate Node Length) : Prop :=
  ∀ node label, search.dist node = some label →
    ∃ lower, next.dist node = some lower ∧ lower ≤ label

omit [LinearOrder Node] in
theorem Lowered.refl (search : Search Coordinate Node Length) : Lowered search search :=
  fun _ label found => ⟨label, found, le_refl label⟩

omit [LinearOrder Node] in
theorem Lowered.trans {search next last : Search Coordinate Node Length}
    (first : Lowered search next) (second : Lowered next last) : Lowered search last := by
  intro node label found
  obtain ⟨lower, reached, below⟩ := first node label found
  obtain ⟨lowest, ends, lower⟩ := second node lower reached
  exact ⟨lowest, ends, lower.trans below⟩

/-- Either the candidate is no improvement, or it becomes the label. -/
theorem relax_cases (currentDist : Length) (node : Node) (search : Search Coordinate Node Length)
    (arc : Node × SegmentEdge Coordinate Length) :
    (∃ label, search.dist arc.1 = some label ∧ label ≤ currentDist + arc.2.distanceKm ∧
        relax currentDist node search arc = search) ∨
      ((∀ label, search.dist arc.1 = some label → currentDist + arc.2.distanceKm < label) ∧
        relax currentDist node search arc =
          { dist := Function.update search.dist arc.1 (some (currentDist + arc.2.distanceKm))
            prev := Function.update search.prev arc.1 (some (node, arc.2))
            heap := toLex (currentDist + arc.2.distanceKm, arc.1) :: search.heap }) := by
  cases found : search.dist arc.1 with
  | none =>
      refine .inr ⟨by simp, ?_⟩
      simp [relax, found]
  | some label =>
      by_cases better : currentDist + arc.2.distanceKm < label
      · refine .inr ⟨?_, ?_⟩
        · rintro _ ⟨⟩
          exact better
        · simp [relax, found, better]
      · refine .inl ⟨label, rfl, not_lt.mp better, ?_⟩
        simp [relax, found, better]

theorem relax_lowered (currentDist : Length) (node : Node)
    (search : Search Coordinate Node Length) (arc : Node × SegmentEdge Coordinate Length) :
    Lowered search (relax currentDist node search arc) := by
  rcases relax_cases currentDist node search arc with ⟨_, _, _, same⟩ | ⟨better, improved⟩
  · rw [same]
    exact Lowered.refl search
  · rw [improved]
    intro place label found
    by_cases here : place = arc.1
    · subst here
      exact ⟨_, Function.update_self .., (better label found).le⟩
    · exact ⟨label, by simpa [here] using found, le_refl label⟩

theorem relax_reaches (currentDist : Length) (node : Node)
    (search : Search Coordinate Node Length) (arc : Node × SegmentEdge Coordinate Length) :
    ∃ label, (relax currentDist node search arc).dist arc.1 = some label ∧
      label ≤ currentDist + arc.2.distanceKm := by
  rcases relax_cases currentDist node search arc with ⟨label, found, bound, same⟩ | ⟨_, improved⟩
  · rw [same]
    exact ⟨label, found, bound⟩
  · rw [improved]
    exact ⟨_, Function.update_self .., le_refl _⟩

theorem foldl_relax_eq_self {currentDist : Length} {node : Node}
    {search : Search Coordinate Node Length}
    {arcs : List (Node × SegmentEdge Coordinate Length)}
    (reached : ∀ arc ∈ arcs, ∃ label, search.dist arc.1 = some label ∧
      label ≤ currentDist + arc.2.distanceKm) :
    arcs.foldl (relax currentDist node) search = search := by
  induction arcs with
  | nil => rfl
  | cons arc arcs ih =>
      obtain ⟨label, found, bound⟩ := reached arc List.mem_cons_self
      have idle : relax currentDist node search arc = search := by
        simp [relax, found, bound]
      rw [List.foldl_cons, idle]
      exact ih fun arc member => reached arc (List.mem_cons_of_mem _ member)

theorem length_heap_relax (currentDist : Length) (node : Node)
    (search : Search Coordinate Node Length) (arc : Node × SegmentEdge Coordinate Length) :
    (relax currentDist node search arc).heap.length ≤ search.heap.length + 1 := by
  rcases relax_cases currentDist node search arc with ⟨_, _, _, same⟩ | ⟨_, improved⟩
  · rw [same]
    omega
  · rw [improved]
    simp

section

variable [AddLeftMono Length]

theorem Labelled.relax_undone {next : Node} {edge : SegmentEdge Coordinate Length}
    (labelled : Labelled built start nodes search done floor)
    (better : ∀ label, search.dist next = some label → floor + edge.distanceKm < label) :
    next ∉ done ∧ next ≠ start := by
  have longer : floor ≤ floor + edge.distanceKm := le_add_of_nonneg_right edge.nonneg
  constructor
  · intro settled
    obtain ⟨label, found, bound⟩ := labelled.below next settled
    exact absurd (better label found) (not_lt.mpr (bound.trans longer))
  · rintro rfl
    exact absurd (better 0 labelled.origin) (not_lt.mpr (labelled.nonneg.trans longer))

theorem Labelled.dist_relax {arc : Node × SegmentEdge Coordinate Length}
    (labelled : Labelled built start nodes search done floor) (other : Node)
    (settled : other ∈ done) :
    (relax floor node search arc).dist other = search.dist other := by
  rcases relax_cases floor node search arc with ⟨_, _, _, same⟩ | ⟨better, improved⟩
  · rw [same]
  · have undone := (labelled.relax_undone better).1
    rw [improved]
    refine Function.update_of_ne ?_ _ _
    rintro rfl
    exact undone settled

theorem Labelled.relax {arc : Node × SegmentEdge Coordinate Length}
    (labelled : Labelled built start nodes search done floor) (settled : node ∈ done)
    (current : search.dist node = some floor) (leads : built.Arc node arc.1 arc.2)
    (listed : arc.1 ∈ nodes) :
    Labelled built start nodes (relax floor node search arc) done floor := by
  obtain ⟨next, edge⟩ := arc
  have longer : floor ≤ floor + edge.distanceKm := le_add_of_nonneg_right edge.nonneg
  rcases relax_cases floor node search (next, edge) with ⟨_, _, _, same⟩ | ⟨better, improved⟩
  · rw [same]
    exact labelled
  obtain ⟨undone, away⟩ := labelled.relax_undone better
  have apart : ∀ place ∈ done, place ≠ next := by
    rintro place settled rfl
    exact undone settled
  rw [improved]
  constructor
  · exact labelled.nonneg
  · simpa [away.symm] using labelled.origin
  · intro place label found
    by_cases here : place = next
    · rw [here]
      exact listed
    · exact labelled.inside place label (by simpa [here] using found)
  · intro place settled
    simpa [apart place settled] using labelled.below place settled
  · intro entry member
    rcases List.mem_cons.mp member with rfl | earlier
    · exact longer
    · exact labelled.above entry earlier
  · intro entry member
    rcases List.mem_cons.mp member with rfl | earlier
    · exact ⟨_, Function.update_self .., le_refl _⟩
    · obtain ⟨label, found, bound⟩ := labelled.entries entry earlier
      by_cases here : (ofLex entry).2 = next
      · rw [here] at found ⊢
        exact ⟨_, Function.update_self .., (better label found).le.trans bound⟩
      · exact ⟨label, by simpa [here] using found, bound⟩
  · intro place fresh label found
    by_cases here : place = next
    · subst here
      simp only [Function.update_self, Option.some.injEq] at found
      rw [found]
      exact List.mem_cons_self
    · exact List.mem_cons_of_mem _ (labelled.live place fresh label (by simpa [here] using found))
  · intro place unlabelled
    have here : place ≠ next := by
      rintro rfl
      simp at unlabelled
    simpa [here] using labelled.unreached place (by simpa [here] using unlabelled)
  · intro place settled label found
    obtain ⟨steps, traced⟩ := labelled.chains place settled label
      (by simpa [apart place settled] using found)
    refine ⟨steps, traced.congr fun place settled => ?_⟩
    exact Function.update_of_ne (apart place settled) _ _
  · intro place fresh origin label found
    by_cases here : place = next
    · subst here
      simp only [Function.update_self, Option.some.injEq] at found
      refine ⟨node, edge, floor, by simp, settled, ?_, found, leads⟩
      simpa [apart node settled] using current
    · obtain ⟨parent, edge, before, recorded, earlier, labelledParent, sum, leads⟩ :=
        labelled.parents place fresh origin label (by simpa [here] using found)
      refine ⟨parent, edge, before, by simpa [here] using recorded, earlier, ?_, sum, leads⟩
      simpa [apart parent earlier] using labelledParent

structure RelaxedAll (built : Graph Coordinate Node Length) (start : Node) (nodes : Finset Node)
    (done : Finset Node) (floor : Length) (arcs : List (Node × SegmentEdge Coordinate Length))
    (search next : Search Coordinate Node Length) : Prop where
  labelled : Labelled built start nodes next done floor
  lowered : Lowered search next
  kept : ∀ node ∈ done, next.dist node = search.dist node
  reached : ∀ arc ∈ arcs, ∃ label, next.dist arc.1 = some label ∧
    label ≤ floor + arc.2.distanceKm
  pushed : next.heap.length ≤ search.heap.length + arcs.length

theorem Labelled.relaxAll (arcs : List (Node × SegmentEdge Coordinate Length))
    (labelled : Labelled built start nodes search done floor) (settled : node ∈ done)
    (current : search.dist node = some floor)
    (leads : ∀ arc ∈ arcs, built.Arc node arc.1 arc.2 ∧ arc.1 ∈ nodes) :
    RelaxedAll built start nodes done floor arcs search
      (arcs.foldl (Routing.relax floor node) search) := by
  induction arcs generalizing search with
  | nil =>
      refine ⟨labelled, Lowered.refl search, fun _ _ => rfl, ?_, Nat.le_refl _⟩
      intro arc member
      simp at member
  | cons arc arcs ih =>
      obtain ⟨first, listed⟩ := leads arc List.mem_cons_self
      have kept (other : Node) (before : other ∈ done) :
          (Routing.relax floor node search arc).dist other = search.dist other :=
        labelled.dist_relax other before
      have rest := ih (labelled.relax settled current first listed)
        ((kept node settled).trans current)
        fun arc member => leads arc (List.mem_cons_of_mem _ member)
      rw [List.foldl_cons]
      refine ⟨rest.labelled, (relax_lowered floor node search arc).trans rest.lowered, ?_, ?_, ?_⟩
      · intro other settled
        rw [rest.kept other settled, kept other settled]
      · intro other member
        rcases List.mem_cons.mp member with rfl | later
        · obtain ⟨label, found, bound⟩ := relax_reaches floor node search other
          obtain ⟨lower, ends, below⟩ := rest.lowered other.1 label found
          exact ⟨lower, ends, below.trans bound⟩
        · exact rest.reached other later
      · have pushed := length_heap_relax floor node search arc
        have later := rest.pushed
        rw [List.length_cons]
        omega

end

/-! ### One round -/

structure Settled (built : Graph Coordinate Node Length) (start goal : Node)
    (nodes : Finset Node) (search : Search Coordinate Node Length) (done : Finset Node)
    (floor : Length) : Prop extends Labelled built start nodes search done floor where
  ahead : goal ∉ done
  relaxed : ∀ here next edge label, here ∈ done → search.dist here = some label →
    built.Arc here next edge →
      ∃ other, search.dist next = some other ∧ other ≤ label + edge.distanceKm

/-- The entries of the heap and the arcs still to relax. -/
def budget (built : Graph Coordinate Node Length) (nodes : Finset Node)
    (search : Search Coordinate Node Length) (done : Finset Node) : Nat :=
  search.heap.length + ∑ node ∈ nodes \ done, (built.adjacent node).length

section

variable {entry : Length ×ₗ Node} {heap : List (Length ×ₗ Node)}

/-- The entry at the top is the label of its node, unless the node is settled or the entry is
out of date. -/
theorem Labelled.current (labelled : Labelled built start nodes search done floor)
    (member : entry ∈ search.heap)
    (upToDate : (search.dist (ofLex entry).2).any (· < (ofLex entry).1) = false) :
    search.dist (ofLex entry).2 = some (ofLex entry).1 := by
  obtain ⟨label, found, bound⟩ := labelled.entries entry member
  rw [found, Option.any_some, decide_eq_false_iff_not, not_lt] at upToDate
  rw [found, le_antisymm bound upToDate]

theorem Settled.discard (settled : Settled built start goal nodes search done floor)
    (popped : Popped search.heap entry heap)
    (stale : (ofLex entry).2 ∈ done ∨ search.dist (ofLex entry).2 ≠ some (ofLex entry).1) :
    Settled built start goal nodes { search with heap } done floor ∧
      budget built nodes { search with heap } done < budget built nodes search done := by
  refine ⟨{ settled with
    above := fun entry member => settled.above entry (popped.subset entry member)
    entries := fun entry member => settled.entries entry (popped.subset entry member)
    live := ?_ }, ?_⟩
  · intro node fresh label found
    refine popped.others _ (settled.live node fresh label found) ?_
    rintro rfl
    rcases stale with already | outdated
    · exact fresh already
    · exact outdated found
  · have shorter := popped.length
    simp only [budget]
    omega

/-- The state in which the arcs of the node at the top are relaxed. -/
theorem Settled.pop (settled : Settled built start goal nodes search done floor)
    (popped : Popped search.heap entry heap) (fresh : (ofLex entry).2 ∉ done)
    (current : search.dist (ofLex entry).2 = some (ofLex entry).1) :
    Labelled built start nodes { search with heap } (insert (ofLex entry).2 done)
      (ofLex entry).1 := by
  have raised := settled.above entry popped.member
  constructor
  · exact settled.nonneg.trans raised
  · exact settled.origin
  · exact settled.inside
  · intro node among
    rcases Finset.mem_insert.mp among with rfl | earlier
    · exact ⟨_, current, le_refl _⟩
    · obtain ⟨label, found, bound⟩ := settled.below node earlier
      exact ⟨label, found, bound.trans raised⟩
  · intro other later
    exact Prod.Lex.monotone_fst _ _ (popped.below other (popped.subset other later))
  · intro other later
    exact settled.entries other (popped.subset other later)
  · intro node outside label found
    rw [Finset.mem_insert, not_or] at outside
    refine popped.others _ (settled.live node outside.2 label found) ?_
    rintro rfl
    exact outside.1 rfl
  · exact settled.unreached
  · intro node among label found
    by_cases earlier : node ∈ done
    · obtain ⟨steps, traced⟩ := settled.chains node earlier label found
      exact ⟨steps, traced.mono (Finset.subset_insert _ _)⟩
    · have same : node = (ofLex entry).2 := by
        simpa [earlier] using among
      subst same
      by_cases origin : (ofLex entry).2 = start
      · refine ⟨[], ?_, trivial, ?_, ?_, ?_⟩
        · rw [origin]
          exact .origin
        · have zero := settled.origin
          rw [← origin, found] at zero
          exact (Option.some.inj zero).symm
        · simp [visited, origin]
        · simp [visited]
      · obtain ⟨parent, edge, before, recorded, earlier, reached, rfl, leads⟩ :=
          settled.parents _ fresh origin label found
        obtain ⟨steps, traced⟩ := settled.chains parent earlier before reached
        exact ⟨_, traced.snoc fresh recorded leads⟩
  · intro node outside origin label found
    rw [Finset.mem_insert, not_or] at outside
    obtain ⟨parent, edge, before, recorded, earlier, rest⟩ :=
      settled.parents node outside.2 origin label found
    exact ⟨parent, edge, before, recorded, Finset.mem_insert_of_mem earlier, rest⟩

variable [AddLeftMono Length]

theorem Settled.expand (settled : Settled built start goal nodes search done floor)
    (closed : ∀ here next edge, built.Arc here next edge → next ∈ nodes)
    (popped : Popped search.heap entry heap) (onward : (ofLex entry).2 ≠ goal)
    (fresh : (ofLex entry).2 ∉ done)
    (current : search.dist (ofLex entry).2 = some (ofLex entry).1)
    {next : Search Coordinate Node Length}
    (moved : (built.adjacent (ofLex entry).2).foldl (relax (ofLex entry).1 (ofLex entry).2)
      { search with heap } = next) :
    Settled built start goal nodes next (insert (ofLex entry).2 done) (ofLex entry).1 ∧
      budget built nodes next (insert (ofLex entry).2 done) < budget built nodes search done := by
  have all := (settled.pop popped fresh current).relaxAll (built.adjacent (ofLex entry).2)
    (Finset.mem_insert_self _ _) current
    fun arc member => ⟨member, closed _ arc.1 arc.2 member⟩
  rw [moved] at all
  refine ⟨{ all.labelled with ahead := ?_, relaxed := ?_ }, ?_⟩
  · rw [Finset.mem_insert, not_or]
    exact ⟨onward.symm, settled.ahead⟩
  · intro here next edge label among found leads
    rw [all.kept here among] at found
    by_cases earlier : here ∈ done
    · obtain ⟨other, reached, bound⟩ := settled.relaxed here next edge label earlier found leads
      obtain ⟨lower, ends, below⟩ := all.lowered next other reached
      exact ⟨lower, ends, below.trans bound⟩
    · have same : here = (ofLex entry).2 := by
        simpa [earlier] using among
      subst same
      rw [current, Option.some.injEq] at found
      rw [← found]
      exact all.reached (next, edge) leads
  · have shorter := popped.length
    have pushed := all.pushed
    have listed : (ofLex entry).2 ∈ nodes \ done :=
      Finset.mem_sdiff.mpr ⟨settled.inside _ _ current, fresh⟩
    have split := Finset.add_sum_erase _ (fun node => (built.adjacent node).length) listed
    rw [← Finset.sdiff_insert] at split
    simp only [budget] at *
    omega

/-- What a round does to the entry at the top: it is dropped, or its node is settled and the
arcs of the node are relaxed. -/
structure Round (built : Graph Coordinate Node Length) (goal : Node) (done : Finset Node)
    (search next : Search Coordinate Node Length) (entry : Length ×ₗ Node)
    (heap : List (Length ×ₗ Node)) : Prop where
  popped : Popped search.heap entry heap
  onward : (ofLex entry).2 ≠ goal
  moved : ((ofLex entry).2 ∈ done ∨ search.dist (ofLex entry).2 ≠ some (ofLex entry).1) ∧
      next = { search with heap } ∨
    ((ofLex entry).2 ∉ done ∧ search.dist (ofLex entry).2 = some (ofLex entry).1) ∧
      (built.adjacent (ofLex entry).2).foldl (relax (ofLex entry).1 (ofLex entry).2)
        { search with heap } = next

omit [AddLeftMono Length] in
theorem Settled.round (settled : Settled built start goal nodes search done floor)
    {next : Search Coordinate Node Length} (moved : settle built goal search = some next) :
    ∃ entry heap, Round built goal done search next entry heap := by
  rw [Routing.settle] at moved
  split at moved
  · simp at moved
  rename_i entry heap found
  have popped := popped_of_heappop found
  dsimp only at moved
  split at moved
  · simp at moved
  rename_i onward
  refine ⟨entry, heap, popped, onward, ?_⟩
  cases outdated : (search.dist (ofLex entry).2).any (· < (ofLex entry).1) with
  | true =>
      rw [if_pos outdated, Option.some.injEq] at moved
      refine .inl ⟨.inr ?_, moved.symm⟩
      intro current
      simp [current] at outdated
  | false =>
      rw [outdated, if_neg Bool.false_ne_true, Option.some.injEq] at moved
      have current := settled.toLabelled.current popped.member outdated
      by_cases already : (ofLex entry).2 ∈ done
      · have idle : (built.adjacent (ofLex entry).2).foldl
            (relax (ofLex entry).1 (ofLex entry).2) { search with heap } = { search with heap } :=
          foldl_relax_eq_self fun arc member =>
            settled.relaxed _ arc.1 arc.2 _ already current member
        rw [idle] at moved
        exact .inl ⟨.inl already, moved.symm⟩
      · exact .inr ⟨⟨already, current⟩, moved⟩

theorem Settled.settle (settled : Settled built start goal nodes search done floor)
    (closed : ∀ here next edge, built.Arc here next edge → next ∈ nodes)
    {next : Search Coordinate Node Length} (moved : settle built goal search = some next) :
    ∃ done' floor', Settled built start goal nodes next done' floor' ∧
      budget built nodes next done' < budget built nodes search done := by
  obtain ⟨entry, heap, round⟩ := settled.round moved
  rcases round.moved with ⟨stale, rfl⟩ | ⟨⟨fresh, current⟩, relaxed⟩
  · exact ⟨done, floor, settled.discard round.popped stale⟩
  · exact ⟨_, _, settled.expand closed round.popped round.onward fresh current relaxed⟩

end

/-! ### Where the loop is left -/

theorem settle_eq_none (left : settle built goal search = none) :
    ∀ entry ∈ search.heap, ∃ top ∈ search.heap, (ofLex top).2 = goal ∧
      (ofLex top).1 ≤ (ofLex entry).1 := by
  intro entry member
  rw [settle] at left
  cases found : heappop search.heap with
  | none =>
      rw [heappop_eq_none] at found
      simp [found] at member
  | some pair =>
      obtain ⟨top, heap⟩ := pair
      have popped := popped_of_heappop found
      simp only [found] at left
      refine ⟨top, popped.member, ?_, Prod.Lex.monotone_fst _ _ (popped.below entry member)⟩
      by_contra onward
      rw [if_neg onward] at left
      split at left <;> simp at left

section

variable [AddLeftMono Length] [AddRightMono Length]

omit [AddLeftMono Length] [AddRightMono Length] in
theorem settled_startSearch (listed : start ∈ nodes) :
    Settled built start goal nodes (startSearch start) ∅ 0 where
  nonneg := le_refl 0
  origin := by simp [startSearch]
  inside := by
    intro node label found
    by_cases here : node = start
    · rwa [here]
    · simp [startSearch, here] at found
  below := by simp
  above := by simp [startSearch]
  entries := by simp [startSearch]
  live := by
    intro node _ label found
    by_cases here : node = start
    · subst here
      simp only [startSearch, Function.update_self, Option.some.injEq] at found
      simp [startSearch, found]
    · simp [startSearch, here] at found
  unreached := fun _ _ => rfl
  chains := by simp
  parents := by
    intro node _ away label found
    simp [startSearch, away] at found
  ahead := by simp
  relaxed := by simp

theorem Settled.label_le (settled : Settled built start goal nodes search done floor)
    (left : Routing.settle built goal search = none)
    {walk : List (Node × SegmentEdge Coordinate Length)} (walks : IsWalk built.Arc start walk)
    (arrives : Walks.arrival start walk = goal) :
    ∃ label, search.dist goal = some label ∧
      label ≤ Walks.total SegmentEdge.distanceKm walk := by
  rcases label_le_total (fun edge => edge.nonneg)
    settled.origin settled.relaxed walk walks
    with reached | ⟨node, label, fresh, found, bound⟩
  · rwa [arrives] at reached
  · obtain ⟨top, member, rfl, least⟩ :=
      settle_eq_none left _ (settled.live node fresh label found)
    obtain ⟨lower, reached, below⟩ := settled.entries top member
    exact ⟨lower, reached, below.trans (least.trans bound)⟩

theorem Settled.shortest (settled : Settled built start goal nodes search done floor)
    (left : Routing.settle built goal search = none) (apart : start ≠ goal)
    (found : search.dist goal = some label) :
    ∃ steps, Traced built search.prev start (insert goal done) goal label steps ∧
      Shortest built.Arc SegmentEdge.distanceKm start goal steps ∧ steps ≠ [] ∧
      search.prev goal ≠ none := by
  obtain ⟨parent, edge, before, recorded, earlier, reached, rfl, leads⟩ :=
    settled.parents goal settled.ahead apart.symm label found
  obtain ⟨steps, traced⟩ := settled.chains parent earlier before reached
  have whole := traced.snoc settled.ahead recorded leads
  refine ⟨_, whole, ⟨whole.walk, whole.chain.arrival, ?_⟩, by simp, by simp [recorded]⟩
  intro other walks arrives
  obtain ⟨least, same, bound⟩ := settled.label_le left walks arrives
  rw [found, Option.some.injEq] at same
  rw [whole.total, same]
  exact bound

end

end

/-! ### `_shortest_path` -/

section

variable [AddZeroClass Length] [LinearOrder Length] [AddLeftMono Length] [AddRightMono Length]
  [LinearOrder Node] {nodeKey : Coordinate → Coordinate → Node}
  {edges : List (SegmentEdge Coordinate Length)} {start goal : Node}

omit [AddLeftMono Length] [AddRightMono Length] in
theorem arc_buildGraph : (buildGraph nodeKey edges).Arc = Joins nodeKey edges := by
  funext here next edge
  exact propext mem_adjacent_buildGraph

omit [AddZeroClass Length] [LinearOrder Length] [AddLeftMono Length] [AddRightMono Length] in
theorem joins_mem [Zero Length] [LE Length] {here next : Node}
    {edges : List (SegmentEdge Coordinate Length)} {edge : SegmentEdge Coordinate Length}
    (joins : Joins nodeKey edges here next edge) :
    here ∈ nodesOf nodeKey edges ∧ next ∈ nodesOf nodeKey edges := by
  obtain ⟨member, ⟨rfl, rfl⟩ | ⟨rfl, rfl⟩⟩ := joins
  · exact ⟨mem_nodesOf.mpr ⟨edge, member, .inl rfl⟩, mem_nodesOf.mpr ⟨edge, member, .inr rfl⟩⟩
  · exact ⟨mem_nodesOf.mpr ⟨edge, member, .inr rfl⟩, mem_nodesOf.mpr ⟨edge, member, .inl rfl⟩⟩

omit [AddLeftMono Length] [AddRightMono Length] in
theorem arc_mem_nodesOf (here next : Node) (edge : SegmentEdge Coordinate Length)
    (leads : (buildGraph nodeKey edges).Arc here next edge) : next ∈ nodesOf nodeKey edges := by
  rw [arc_buildGraph] at leads
  exact (joins_mem leads).2

omit [AddZeroClass Length] [LinearOrder Length] [AddLeftMono Length] [AddRightMono Length] in
theorem known_of_mem [Zero Length] [LE Length] {edges : List (SegmentEdge Coordinate Length)}
    (starts : start ∈ nodesOf nodeKey edges) (ends : goal ∈ nodesOf nodeKey edges) :
    ¬ ((buildGraph nodeKey edges).graph start = none ∨
      (buildGraph nodeKey edges).graph goal = none) := by
  simp [graph_buildGraph_eq_none, starts, ends]

def Underway (built : Graph Coordinate Node Length) (start goal : Node) (nodes : Finset Node)
    (search : Search Coordinate Node Length) (spare : Nat) : Prop :=
  ∃ done floor, Settled built start goal nodes search done floor ∧
    budget built nodes search done = spare

omit [AddRightMono Length] in
theorem Underway.settle {built : Graph Coordinate Node Length} {nodes : Finset Node}
    {search next : Search Coordinate Node Length} {spare : Nat}
    (underway : Underway built start goal nodes search spare)
    (closed : ∀ here next edge, built.Arc here next edge → next ∈ nodes)
    (moved : Routing.settle built goal search = some next) :
    ∃ rest, rest < spare ∧ Underway built start goal nodes next rest := by
  obtain ⟨done, floor, settled, rfl⟩ := underway
  obtain ⟨done', floor', kept, fewer⟩ := settled.settle closed moved
  exact ⟨_, fewer, done', floor', kept, rfl⟩

omit [AddRightMono Length] in
/-- The loop of the search is left, after a round for each entry ever on the heap at most. -/
theorem search_ends (goal : Node) (listed : start ∈ nodesOf nodeKey edges) :
    ∃ search done floor, settle (buildGraph nodeKey edges) goal search = none ∧
      Settled (buildGraph nodeKey edges) start goal (nodesOf nodeKey edges) search done floor ∧
      ∀ rounds, 2 * edges.length + 2 ≤ rounds →
        Loop.run (settle (buildGraph nodeKey edges) goal) rounds (startSearch start) =
          some search := by
  have initial : budget (buildGraph nodeKey edges) (nodesOf nodeKey edges) (startSearch start) ∅ =
      2 * edges.length + 1 := by
    rw [budget, Finset.sdiff_empty, sum_adjacent edges _ (Finset.Subset.refl _)]
    simp [startSearch, Nat.add_comm]
  have begun : Underway (buildGraph nodeKey edges) start goal (nodesOf nodeKey edges)
      (startSearch start) (2 * edges.length + 1) := ⟨∅, 0, settled_startSearch listed, initial⟩
  obtain ⟨search, _, stops, ⟨done, floor, settled, _⟩, reached⟩ :=
    Loop.run_of_budget (fun _ _ _ underway moved => underway.settle arc_mem_nodesOf moved) begun
  exact ⟨search, done, floor, stops, settled, fun rounds enough => reached rounds (by omega)⟩

/-- Where the search has left a label at the goal, the path is the edges of the steps that `prev`
records. -/
theorem shortestPath_of_search {search : Search Coordinate Node Length} {done : Finset Node}
    {floor label : Length} (starts : start ∈ nodesOf nodeKey edges)
    (ends : goal ∈ nodesOf nodeKey edges)
    (settled : Settled (buildGraph nodeKey edges) start goal (nodesOf nodeKey edges) search done
      floor)
    (left : settle (buildGraph nodeKey edges) goal search = none)
    (reached : ∀ rounds, 2 * edges.length + 2 ≤ rounds →
      Loop.run (settle (buildGraph nodeKey edges) goal) rounds (startSearch start) = some search)
    (apart : start ≠ goal) (found : search.dist goal = some label) :
    ∃ steps, Traced (buildGraph nodeKey edges) search.prev start (insert goal done) goal label
        steps ∧
      Shortest (Joins nodeKey edges) SegmentEdge.distanceKm start goal steps ∧ steps ≠ [] ∧
      ∀ rounds, 2 * edges.length + 2 ≤ rounds →
        shortestPath (buildGraph nodeKey edges) rounds start goal = .ok (edgesOf steps) := by
  obtain ⟨steps, traced, shortest, some, recorded⟩ := settled.shortest left apart found
  rw [arc_buildGraph] at shortest
  refine ⟨steps, traced, shortest, some, ?_⟩
  intro rounds enough
  have inside : insert goal done ⊆ nodesOf nodeKey edges := by
    intro node member
    rcases Finset.mem_insert.mp member with rfl | earlier
    · exact ends
    · obtain ⟨label, labelled, _⟩ := settled.below node earlier
      exact settled.inside node label labelled
  have short : steps.length < rounds := by
    have bound := traced.card_le.trans (Finset.card_le_card inside)
    have few : (nodesOf nodeKey edges).card ≤ 2 * edges.length := card_nodesOf_le
    omega
  rw [shortestPath, if_neg (known_of_mem starts ends), reached rounds enough]
  simp only
  rw [if_neg (fun missing => recorded missing.2), if_neg apart,
    followPrev_chain traced.chain traced.simple rounds short, List.append_nil]

theorem shortestPath_apart (starts : start ∈ nodesOf nodeKey edges)
    (ends : goal ∈ nodesOf nodeKey edges) (apart : start ≠ goal) :
    ∃ path, (∀ rounds, 2 * edges.length + 2 ≤ rounds →
        shortestPath (buildGraph nodeKey edges) rounds start goal = .ok path) ∧
      (path = [] ∧ ¬ Reachable (Joins nodeKey edges) start goal ∨
        ∃ steps, edgesOf steps = path ∧ steps ≠ [] ∧ (visited start steps).Nodup ∧
          Shortest (Joins nodeKey edges) SegmentEdge.distanceKm start goal steps) := by
  obtain ⟨search, done, floor, left, settled, reached⟩ := search_ends goal starts
  cases found : search.dist goal with
  | none =>
      refine ⟨[], ?_, .inl ⟨rfl, ?_⟩⟩
      · intro rounds enough
        rw [shortestPath, if_neg (known_of_mem starts ends), reached rounds enough]
        simp only
        rw [if_pos ⟨apart, settled.unreached goal found⟩]
      · rintro ⟨walk, walks, arrives⟩
        rw [← arc_buildGraph] at walks
        obtain ⟨label, labelled, _⟩ := settled.label_le left walks arrives
        simp [found] at labelled
  | some label =>
      obtain ⟨steps, traced, shortest, some, path⟩ :=
        shortestPath_of_search starts ends settled left reached apart found
      exact ⟨edgesOf steps, path, .inr ⟨steps, rfl, some, traced.simple, shortest⟩⟩

omit [AddZeroClass Length] [LinearOrder Length] [AddLeftMono Length] [AddRightMono Length] in
theorem walk_mem [Zero Length] [LE Length] {edges : List (SegmentEdge Coordinate Length)}
    {steps : List (Node × SegmentEdge Coordinate Length)}
    (walk : IsWalk (Joins nodeKey edges) start steps) (some : steps ≠ []) :
    start ∈ nodesOf nodeKey edges ∧ arrival start steps ∈ nodesOf nodeKey edges := by
  induction steps generalizing start with
  | nil => exact absurd rfl some
  | cons step rest ih =>
      obtain ⟨here, next⟩ := joins_mem walk.1
      refine ⟨here, ?_⟩
      by_cases last : rest = []
      · rw [last]
        exact next
      · exact (ih walk.2 last).2

/-- The search for two nodes apart, of the graph or not. -/
theorem shortestPath_cases (nodeKey : Coordinate → Coordinate → Node)
    (edges : List (SegmentEdge Coordinate Length)) (apart : start ≠ goal) :
    ∃ path, (∀ rounds, 2 * edges.length + 2 ≤ rounds →
        shortestPath (buildGraph nodeKey edges) rounds start goal = .ok path) ∧
      (path = [] ∧ ¬ Reachable (Joins nodeKey edges) start goal ∨
        ∃ steps, edgesOf steps = path ∧ steps ≠ [] ∧ (visited start steps).Nodup ∧
          Shortest (Joins nodeKey edges) SegmentEdge.distanceKm start goal steps) := by
  by_cases known : start ∈ nodesOf nodeKey edges ∧ goal ∈ nodesOf nodeKey edges
  · exact shortestPath_apart known.1 known.2 apart
  · refine ⟨[], ?_, .inl ⟨rfl, ?_⟩⟩
    · intro rounds _
      have missing : (buildGraph nodeKey edges).graph start = none ∨
          (buildGraph nodeKey edges).graph goal = none := by
        rw [graph_buildGraph_eq_none, graph_buildGraph_eq_none]
        exact not_and_or.mp known
      rw [shortestPath, if_pos missing]
    · rintro ⟨steps, walk, arrives⟩
      have some : steps ≠ [] := by
        rintro rfl
        exact apart arrives
      have listed := walk_mem walk some
      rw [arrives] at listed
      exact known listed

/-- For two nodes apart the search returns the edges of a shortest walk, or `[]` where there is
none. -/
theorem shortestPath_shortest (nodeKey : Coordinate → Coordinate → Node)
    (edges : List (SegmentEdge Coordinate Length)) (start goal : Node) (apart : start ≠ goal) :
    ∃ path, (∀ rounds, 2 * edges.length + 2 ≤ rounds →
        shortestPath (buildGraph nodeKey edges) rounds start goal = .ok path) ∧
      (path = [] ↔ ¬ Reachable (Joins nodeKey edges) start goal) ∧
      (path ≠ [] → ∃ steps, edgesOf steps = path ∧
        Shortest (Joins nodeKey edges) SegmentEdge.distanceKm start goal steps) := by
  obtain ⟨path, found, ⟨rfl, unreachable⟩ | ⟨steps, rfl, some, _, shortest⟩⟩ :=
    shortestPath_cases nodeKey edges apart
  · exact ⟨[], found, by simpa using unreachable, fun some => absurd rfl some⟩
  · have reachable : Reachable (Joins nodeKey edges) start goal :=
      ⟨steps, shortest.walk, shortest.arrives⟩
    have nonempty : edgesOf steps ≠ [] := by simpa [edgesOf] using some
    exact ⟨edgesOf steps, found, by simp [reachable, nonempty], fun _ => ⟨steps, rfl, shortest⟩⟩

omit [AddLeftMono Length] [AddRightMono Length] in
/-- The same node twice: one of the segments that meet there, none longer than it. -/
theorem shortestPath_same (nodeKey : Coordinate → Coordinate → Node)
    (edges : List (SegmentEdge Coordinate Length)) (start : Node) :
    ∃ path, (∀ rounds, 2 * edges.length + 2 ≤ rounds →
        shortestPath (buildGraph nodeKey edges) rounds start start = .ok path) ∧
      (path = [] ∨ ∃ edge, path = [edge] ∧ (∃ next, Joins nodeKey edges start next edge) ∧
        ∀ next other, Joins nodeKey edges start next other →
          edge.distanceKm ≤ other.distanceKm) := by
  by_cases known : (buildGraph nodeKey edges).graph start = none
  · refine ⟨[], ?_, .inl rfl⟩
    intro rounds _
    rw [shortestPath, if_pos (.inl known)]
  refine ⟨((((buildGraph nodeKey edges).adjacent start).map Prod.snd).argmin
    SegmentEdge.distanceKm).toList, ?_, ?_⟩
  · intro rounds enough
    have left : settle (buildGraph nodeKey edges) start (startSearch start) = none := by
      simp [settle, startSearch, heappop]
    have begun : Loop.run (settle (buildGraph nodeKey edges) start) rounds (startSearch start) =
        some (startSearch start) := by
      cases rounds with
      | zero => omega
      | succ rounds => exact Loop.run_of_none left rounds
    rw [shortestPath, if_neg (by simpa using known), begun]
    simp
  · cases found : (((buildGraph nodeKey edges).adjacent start).map Prod.snd).argmin
        SegmentEdge.distanceKm with
    | none => exact .inl rfl
    | some edge =>
        refine .inr ⟨edge, rfl, ?_, ?_⟩
        · obtain ⟨⟨next, _⟩, listed, rfl⟩ := List.mem_map.mp (List.argmin_mem found)
          exact ⟨next, mem_adjacent_buildGraph.mp listed⟩
        · intro next other joins
          refine List.le_of_mem_argmin ?_ found
          exact List.mem_map.mpr ⟨(next, other), mem_adjacent_buildGraph.mpr joins, rfl⟩

/-! ### No node and no segment twice -/

def SegmentEdge.leg (toMinutes : Length → Nat) (edge : SegmentEdge Coordinate Length) :
    TrafficService.SegmentEdge := ⟨edge.segmentId, edge.region, toMinutes edge.distanceKm⟩

omit [AddLeftMono Length] [AddRightMono Length] [LinearOrder Node] in
theorem joins_ends {here next other last : Node} {edge : SegmentEdge Coordinate Length}
    (first : Joins nodeKey edges here next edge) (second : Joins nodeKey edges other last edge) :
    here = other ∨ here = last := by
  obtain ⟨_, ⟨rfl, rfl⟩ | ⟨rfl, rfl⟩⟩ := first
  · rcases second.2 with ⟨rfl, _⟩ | ⟨rfl, _⟩
    · exact .inl rfl
    · exact .inr rfl
  · rcases second.2 with ⟨_, rfl⟩ | ⟨_, rfl⟩
    · exact .inr rfl
    · exact .inl rfl

omit [AddLeftMono Length] [AddRightMono Length] in
theorem nodup_keys {path : List (SegmentEdge Coordinate Length)}
    (taken : ∀ edge ∈ path, edge ∈ edges) (distinct : path.Nodup)
    (keys : (edges.map SegmentEdge.key).Nodup) : (path.map SegmentEdge.key).Nodup :=
  List.Nodup.map_on (fun _ first _ second same =>
    List.inj_on_of_nodup_map keys (taken _ first) (taken _ second) same) distinct

/-- Both loops are left within the bound, and no segment is in the path twice. -/
theorem shortestPath_listed (nodeKey : Coordinate → Coordinate → Node)
    (edges : List (SegmentEdge Coordinate Length)) (start goal : Node) :
    ∃ path, (∀ rounds, 2 * edges.length + 2 ≤ rounds →
        shortestPath (buildGraph nodeKey edges) rounds start goal = .ok path) ∧
      (∀ edge ∈ path, edge ∈ edges) ∧ path.Nodup := by
  by_cases apart : start = goal
  · subst apart
    obtain ⟨path, found, rfl | ⟨edge, rfl, ⟨next, joins⟩, _⟩⟩ := shortestPath_same nodeKey edges start
    · exact ⟨[], found, by simp, List.nodup_nil⟩
    · exact ⟨[edge], found, by simpa using joins.1, List.nodup_singleton edge⟩
  · obtain ⟨path, found, ⟨rfl, _⟩ | ⟨steps, rfl, _, simple, shortest⟩⟩ :=
      shortestPath_cases nodeKey edges apart
    · exact ⟨[], found, by simp, List.nodup_nil⟩
    · refine ⟨edgesOf steps, found, ?_, ?_⟩
      · intro edge member
        obtain ⟨_, _, _, _, joins⟩ := ends_mem_visited shortest.walk member
        exact joins.1
      · refine nodup_edgesOf (fun _ _ _ _ _ first second => ?_) shortest.walk simple
        exact joins_ends first second

/-- Both loops are left within the bound and `prev` has every key asked of it. For two nodes
apart the path is the edges of a walk that visits no node twice, for one node at most a shortest
segment there, and no segment is in it twice: not in the path, nor in the route laid along it. -/
theorem shortestPath_simple (nodeKey : Coordinate → Coordinate → Node)
    (edges : List (SegmentEdge Coordinate Length)) (start goal : Node) :
    ∃ path, (∀ rounds, 2 * edges.length + 2 ≤ rounds →
        shortestPath (buildGraph nodeKey edges) rounds start goal = .ok path) ∧
      (start ≠ goal → path ≠ [] → ∃ steps, edgesOf steps = path ∧
        IsWalk (Joins nodeKey edges) start steps ∧ arrival start steps = goal ∧
        (visited start steps).Nodup) ∧
      (start = goal → path = [] ∨ ∃ edge, path = [edge] ∧
        (∃ next, Joins nodeKey edges start next edge) ∧
        ∀ next other, Joins nodeKey edges start next other →
          edge.distanceKm ≤ other.distanceKm) ∧
      (∀ edge ∈ path, edge ∈ edges) ∧ path.Nodup ∧
      ((edges.map SegmentEdge.key).Nodup → ∀ (toMinutes : Length → Nat) departureTime laid,
        layEdges departureTime (path.map (SegmentEdge.leg toMinutes)) = some laid →
          (laid.map fun segment => (segment.region, segment.segmentId)).Nodup) := by
  obtain ⟨path, found, taken, distinct⟩ := shortestPath_listed nodeKey edges start goal
  have only {other : List (SegmentEdge Coordinate Length)}
      (reached : ∀ rounds, 2 * edges.length + 2 ≤ rounds →
        shortestPath (buildGraph nodeKey edges) rounds start goal = .ok other) : path = other :=
    Except.ok.inj ((found _ (Nat.le_refl _)).symm.trans (reached _ (Nat.le_refl _)))
  refine ⟨path, found, ?_, ?_, taken, distinct, ?_⟩
  · intro apart some
    obtain ⟨other, reached, ⟨none, _⟩ | ⟨steps, same, _, simple, shortest⟩⟩ :=
      shortestPath_cases nodeKey edges apart
    · exact absurd ((only reached).trans none) some
    · exact ⟨steps, same.trans (only reached).symm, shortest.walk, shortest.arrives, simple⟩
  · rintro rfl
    obtain ⟨other, reached, alone⟩ := shortestPath_same nodeKey edges start
    rw [only reached]
    exact alone
  · intro keys toMinutes departureTime laid drawn
    rw [map_layEdges drawn, List.map_map]
    exact nodup_keys taken distinct keys

end

/-! ### A small road map -/

/-- Two nodes `0` and `1` with a loop at `0`, two roads between them of different lengths, and a
road of no length from `1` to `2`. -/
def roads : List (SegmentEdge Nat Nat) :=
  [⟨1, .euWestIreland, 0, 0, 0, 0, 1, Nat.zero_le 1⟩,
    ⟨2, .euWestIreland, 0, 0, 1, 0, 9, Nat.zero_le 9⟩,
    ⟨3, .euWestIreland, 1, 0, 0, 0, 4, Nat.zero_le 4⟩,
    ⟨4, .euWestIreland, 1, 0, 2, 0, 0, Nat.zero_le 0⟩]

def place (lat lng : Nat) : Nat ×ₗ Nat := toLex (lat, lng)

theorem shortestPath_roads : ∃ path, (∀ rounds, 2 * roads.length + 2 ≤ rounds →
    shortestPath (buildGraph place roads) rounds (place 0 0) (place 2 0) = .ok path) ∧
      (path = [] ↔ ¬ Reachable (Joins place roads) (place 0 0) (place 2 0)) ∧
      (path ≠ [] → ∃ steps, edgesOf steps = path ∧
        Shortest (Joins place roads) SegmentEdge.distanceKm (place 0 0) (place 2 0) steps) :=
  shortestPath_shortest place roads (place 0 0) (place 2 0) (by decide)

example : (shortestPath (buildGraph place roads) 10 (place 0 0) (place 2 0)).map
    (List.map SegmentEdge.segmentId) = .ok [3, 4] := by decide +kernel

theorem shortestPath_roads_simple : ∃ path, (∀ rounds, 2 * roads.length + 2 ≤ rounds →
    shortestPath (buildGraph place roads) rounds (place 0 0) (place 2 0) = .ok path) ∧
      (place 0 0 ≠ place 2 0 → path ≠ [] → ∃ steps, edgesOf steps = path ∧
        IsWalk (Joins place roads) (place 0 0) steps ∧ arrival (place 0 0) steps = place 2 0 ∧
        (visited (place 0 0) steps).Nodup) ∧
      (place 0 0 = place 2 0 → path = [] ∨ ∃ edge, path = [edge] ∧
        (∃ next, Joins place roads (place 0 0) next edge) ∧
        ∀ next other, Joins place roads (place 0 0) next other →
          edge.distanceKm ≤ other.distanceKm) ∧
      (∀ edge ∈ path, edge ∈ roads) ∧ path.Nodup ∧
      ((roads.map SegmentEdge.key).Nodup → ∀ (toMinutes : Nat → Nat) departureTime laid,
        layEdges departureTime (path.map (SegmentEdge.leg toMinutes)) = some laid →
          (laid.map fun segment => (segment.region, segment.segmentId)).Nodup) :=
  shortestPath_simple place roads (place 0 0) (place 2 0)

/-- From a node to itself the path is the loop there, which comes back to where it starts. -/
theorem loop_visited_twice :
    ¬ ∀ (edges : List (SegmentEdge Nat Nat)) (start goal : Nat ×ₗ Nat)
      (path : List (SegmentEdge Nat Nat)) (rounds : Nat),
      shortestPath (buildGraph place edges) rounds start goal = .ok path → path ≠ [] →
        ∃ steps, edgesOf steps = path ∧ IsWalk (Joins place edges) start steps ∧
          (visited start steps).Nodup := by
  intro holds
  obtain ⟨steps, taken, walk, simple⟩ := holds roads (place 0 0) (place 0 0)
    [⟨1, .euWestIreland, 0, 0, 0, 0, 1, Nat.zero_le 1⟩] 10 (by decide +kernel) (by simp)
  obtain ⟨⟨next, edge⟩, rfl, rfl⟩ := List.map_eq_singleton_iff.mp taken
  have back : next = place 0 0 := by
    rcases walk.1.2 with ⟨_, rfl⟩ | ⟨rfl, _⟩
    · rfl
    · rfl
  simp [visited, back] at simple

end TrafficService.Routing
