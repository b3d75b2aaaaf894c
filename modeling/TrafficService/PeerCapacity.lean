import TrafficService.NoOverbooking
import TrafficService.PeerEndpoint

/-!
The peer endpoint alone never overbooks a slot: each request counts, inserts and commits under
its own lock, on a snapshot that is not older than the lock, and the releases that commit
between only lower the counts.
-/

namespace TrafficService.PeerEndpoint

open ReservationRuns (LockKey lockKey WithinCapacity)

def Pc.unwritten : Pc → Bool
  | .arrived | .locked | .opened _ | .admitted | .inserted => true
  | _ => false

def Pc.hasCounted : Pc → Bool
  | .admitted | .inserted => true
  | _ => false

def Pc.hasStored : Pc → Bool
  | .stored | .created => true
  | _ => false

def StoredOnce (tables : PeerTables) (id : RequestId) (bookingId : BookingId) (driverId : DriverId)
    (segment : RouteSegment) : Prop :=
  ∃ status, ∀ schema, tables.rowsWith schema id =
    if schema = segment.schema then [⟨id, { segment.reservation bookingId driverId with status }⟩]
    else []

structure Placed (state : State) (id : RequestId) (request : Request) : Prop where
  owns : ∀ key, request.holds = some key → state.locks key = some id
  /-- Its snapshot counts every row that its slot has now. -/
  counted : ∀ segment snapshot, request.segment = some segment → request.pc = .opened snapshot →
    bookedCount state.database segment.schema segment.segmentId segment.slotStart ≤
      bookedCount (snapshot.database state.maxCapacityPerSlot) segment.schema segment.segmentId
        segment.slotStart
  room : ∀ segment, request.segment = some segment → request.pc.hasCounted = true →
    ∀ max, state.maxCapacityPerSlot segment.schema segment.segmentId = some max →
      bookedCount state.database segment.schema segment.segmentId segment.slotStart < max
  unwritten : request.pc.unwritten = true → ∀ schema, state.tables.rowsWith schema id = []
  stored : ∀ bookingId driverId segment, request.call = .reserve bookingId driverId segment →
    request.pc.hasStored = true → StoredOnce state.tables id bookingId driverId segment

structure Serialised (state : State) : Prop where
  within : WithinCapacity state.database
  placed : ∀ id request, state.requests id = some request → Placed state id request

theorem serialised_idle {maxCapacityPerSlot : RegionSchema → SegmentId → Option Nat}
    {tables : PeerTables} (within : WithinCapacity (tables.database maxCapacityPerSlot)) :
    Serialised (.idle maxCapacityPerSlot tables) where
  within := within
  placed := fun _ _ found => nomatch found

/-! ### What moves one request leaves of the others -/

section

variable {state next : State} {id other : RequestId} {request after : Request}

theorem Placed.of_same (placed : Placed state id request) (locks : next.locks = state.locks)
    (tables : next.tables = state.tables)
    (capacity : next.maxCapacityPerSlot = state.maxCapacityPerSlot) : Placed next id request := by
  have database : next.database = state.database := by
    rw [State.database, State.database, tables, capacity]
  constructor
  · rw [locks]
    exact placed.owns
  · rw [database, capacity]
    exact placed.counted
  · rw [database, capacity]
    exact placed.room
  · rw [tables]
    exact placed.unwritten
  · rw [tables]
    exact placed.stored

theorem Placed.idle {pc : Pc} (holds : ∀ key, ({ request with pc } : Request).holds = some key →
      state.locks key = some id) (closed : ∀ snapshot, pc ≠ .opened snapshot)
    (counted : pc.hasCounted = false) (written : pc.unwritten = false)
    (stored : pc.hasStored = false) : Placed state id { request with pc } := by
  refine ⟨holds, ?_, ?_, ?_, ?_⟩
  · intro segment snapshot _ opened
    exact absurd opened (closed snapshot)
  · intro segment _ admitted
    exact nomatch counted.symm.trans admitted
  · intro early
    exact nomatch written.symm.trans early
  · intro bookingId driverId segment _ late
    exact nomatch stored.symm.trans late

theorem Placed.failed : Placed state id { request with pc := .failed } :=
  .idle (fun _ held => nomatch held) (fun _ => nofun) rfl rfl rfl

theorem Placed.refused (placed : Placed state id request) (inside : request.pc.locks = true) :
    Placed state id { request with pc := .refused } := by
  refine .idle ?_ (fun _ => nofun) rfl rfl rfl
  intro key held
  refine placed.owns key ?_
  rw [Request.holds, if_pos inside]
  exact held

theorem Serialised.moved (serialised : Serialised state) (within : WithinCapacity next.database)
    (requests : next.requests = Function.update state.requests id (some after))
    (others : ∀ other request, other ≠ id → state.requests other = some request →
      Placed state other request → Placed next other request)
    (own : Placed next id after) : Serialised next := by
  refine ⟨within, ?_⟩
  intro other mover found
  rw [requests] at found
  by_cases same : other = id
  · subst same
    rw [Function.update_self, Option.some.injEq] at found
    exact found ▸ own
  · rw [Function.update_of_ne same] at found
    exact others other mover same found (serialised.placed other mover found)

theorem Serialised.goto (serialised : Serialised state) {pc : Pc}
    (own : Placed state id { request with pc }) : Serialised (state.goto id request pc) :=
  serialised.moved serialised.within rfl (fun _ _ _ _ placed => placed.of_same rfl rfl rfl)
    (own.of_same rfl rfl rfl)

theorem Serialised.acquire (serialised : Serialised state) (found : state.requests id = some request)
    {segment : RouteSegment} (here : request.pc = .arrived) (place : request.segment = some segment)
    (free : state.locks (lockKey segment) = none) :
    Serialised ((state.lock id segment).goto id request .locked) := by
  refine serialised.moved serialised.within rfl ?_ ?_
  · intro other mover _ _ placed
    refine ⟨?_, placed.counted, placed.room, placed.unwritten, placed.stored⟩
    intro key held
    have owned := placed.owns key held
    have apart : key ≠ lockKey segment := by
      rintro rfl
      exact nomatch free.symm.trans owned
    exact (Function.update_of_ne apart ..).trans owned
  · have placed := serialised.placed id request found
    constructor
    · intro key held
      change request.segment.map lockKey = some key at held
      rw [place, Option.map_some, Option.some.injEq] at held
      exact held ▸ Function.update_self ..
    · intro _ snapshot _ opened
      exact nomatch opened
    · intro _ _ counted
      exact nomatch counted
    · intro _
      exact placed.unwritten (by rw [here]; rfl)
    · intro bookingId driverId _ _ late
      exact nomatch late

theorem unlock_locks (state : State) (id : RequestId) (segment : RouteSegment) :
    ∃ locks, state.unlock id segment = { state with locks } ∧
      ∀ key other, other ≠ id → state.locks key = some other → locks key = some other := by
  simp only [State.unlock]
  split
  · rename_i mine
    refine ⟨_, rfl, ?_⟩
    intro key other different owned
    have apart : key ≠ lockKey segment := by
      rintro rfl
      exact different (Option.some.inj (owned.symm.trans mine))
    exact (Function.update_of_ne apart ..).trans owned
  · exact ⟨state.locks, rfl, fun _ _ _ owned => owned⟩

theorem Serialised.unlock (serialised : Serialised state) (segment : RouteSegment) {pc : Pc}
    (outside : pc.locks = false) (own : Placed state id { request with pc }) :
    Serialised ((state.unlock id segment).goto id request pc) := by
  obtain ⟨locks, unlocked, kept⟩ := unlock_locks state id segment
  rw [unlocked]
  refine serialised.moved serialised.within rfl ?_ ?_
  · intro other mover different _ placed
    refine ⟨?_, placed.counted, placed.room, placed.unwritten, placed.stored⟩
    intro key held
    exact kept key other different (placed.owns key held)
  · refine ⟨?_, own.counted, own.room, own.unwritten, own.stored⟩
    intro key held
    simp [Request.holds, outside] at held

/-- The snapshot is taken inside the lock: it shows what the tables hold. -/
theorem Placed.opened (placed : Placed state id request) (here : request.pc = .locked) :
    Placed state id { request with pc := .opened state.tables } := by
  refine ⟨?_, ?_, ?_, ?_, ?_⟩
  · intro key held
    refine placed.owns key ?_
    rw [Request.holds, here]
    exact held
  · rintro segment snapshot _ ⟨⟩
    exact Nat.le_refl _
  · intro _ _ counted
    exact nomatch counted
  · intro _
    exact placed.unwritten (by rw [here]; rfl)
  · intro _ _ _ _ late
    exact nomatch late

theorem Placed.admitted (placed : Placed state id request) {snapshot : PeerTables}
    {segment : RouteSegment} (here : request.pc = .opened snapshot)
    (place : request.segment = some segment) {capacity : Capacity}
    (checked : checkCapacity (snapshot.database state.maxCapacityPerSlot) segment.schema
      segment.segmentId segment.slotStart = .ok capacity)
    (below : ¬ capacity.booked ≥ capacity.max) :
    Placed state id { request with pc := .admitted } := by
  obtain ⟨known, counted⟩ := checkCapacity_ok checked
  rw [segment.aligned] at counted
  refine ⟨?_, ?_, ?_, ?_, ?_⟩
  · intro key held
    refine placed.owns key ?_
    rw [Request.holds, here]
    exact held
  · intro _ _ _ opened
    exact nomatch opened
  · intro other same _ max bound
    rw [show request.segment = some other from same, Option.some.injEq] at place
    subst place
    have sameMax : capacity.max = max := Option.some.inj (known.symm.trans bound)
    have seen := placed.counted other snapshot same here
    omega
  · intro _
    exact placed.unwritten (by rw [here]; rfl)
  · intro _ _ _ _ late
    exact nomatch late

theorem Placed.inserted (placed : Placed state id request) (here : request.pc = .admitted) :
    Placed state id { request with pc := .inserted } := by
  refine ⟨?_, ?_, ?_, ?_, ?_⟩
  · intro key held
    refine placed.owns key ?_
    rw [Request.holds, here]
    exact held
  · intro _ _ _ opened
    exact nomatch opened
  · intro segment place _
    exact placed.room segment place (by rw [here]; rfl)
  · intro _
    exact placed.unwritten (by rw [here]; rfl)
  · intro _ _ _ _ late
    exact nomatch late

/-! ### Inserts and releases -/

theorem StoredOnce.insert {tables : PeerTables} {bookingId : BookingId} {driverId : DriverId}
    {segment : RouteSegment} (new : ∀ schema, tables.rowsWith schema id = []) :
    StoredOnce (tables.insert segment.schema ⟨id, segment.reservation bookingId driverId⟩) id
      bookingId driverId segment := by
  refine ⟨.confirmed, ?_⟩
  intro schema
  rw [rowsWith_insert, new schema]
  by_cases here : schema = segment.schema
  · rw [if_pos ⟨rfl, here⟩, if_pos here]
    rfl
  · rw [if_neg (fun both => here both.2), if_neg here]

theorem StoredOnce.release {tables : PeerTables} {bookingId released : BookingId}
    {driverId : DriverId} {segment : RouteSegment} (snapshot : PeerTables)
    (stored : StoredOnce tables id bookingId driverId segment) :
    StoredOnce (tables.release snapshot released) id bookingId driverId segment := by
  obtain ⟨status, rows⟩ := stored
  let row : PeerRow := ⟨id, { segment.reservation bookingId driverId with status }⟩
  refine ⟨if row.row.bookingId = released && row ∈ snapshot segment.schema then .cancelled
    else status, ?_⟩
  intro schema
  rw [rowsWith_release, rows schema]
  by_cases here : schema = segment.schema
  · subst here
    simp only [if_true, Table.updateWhere, List.map_cons, List.map_nil]
    split <;> rfl
  · simp [here, Table.updateWhere]

theorem bookedCount_store (state : State) (id : RequestId) (bookingId : BookingId)
    (driverId : DriverId) (segment : RouteSegment) (schema : RegionSchema) (segmentId : SegmentId)
    (slot : DateTime) :
    bookedCount (state.store id bookingId driverId segment).database schema segmentId slot =
      bookedCount state.database schema segmentId slot +
        if segment.occupies schema segmentId slot = true then 1 else 0 :=
  bookedCount_insert ..

/-- The slot of a request that holds its lock is not the one another holder writes to. -/
theorem Placed.apart (placed : Placed state other after) {segment place : RouteSegment}
    (different : other ≠ id) (owned : state.locks (lockKey segment) = some id)
    (segmentOf : after.segment = some place) (inside : after.pc.locks = true) :
    segment.occupies place.schema place.segmentId place.slotStart = false := by
  by_contra occupied
  simp only [RouteSegment.occupies, Bool.not_eq_false, Bool.and_eq_true,
    decide_eq_true_eq] at occupied
  have sameKey : lockKey place = lockKey segment := by
    simp [lockKey, occupied.1.2, occupied.2]
  have alsoOwned := placed.owns (lockKey segment) (by
    rw [Request.holds, if_pos inside, segmentOf, Option.map_some, sameKey])
  exact different (Option.some.inj (alsoOwned.symm.trans owned))

theorem Placed.store (placed : Placed state other after) (different : other ≠ id)
    {segment : RouteSegment} (owned : state.locks (lockKey segment) = some id)
    (bookingId : BookingId) (driverId : DriverId) :
    Placed (state.store id bookingId driverId segment) other after := by
  refine ⟨placed.owns, ?_, ?_, ?_, ?_⟩
  · intro place snapshot segmentOf opened
    have elsewhere := placed.apart different owned segmentOf (by rw [opened]; rfl)
    refine Nat.le_trans (Nat.le_of_eq ?_) (placed.counted place snapshot segmentOf opened)
    rw [bookedCount_store, elsewhere]
    rfl
  · intro place segmentOf counted max known
    have inside : after.pc.locks = true := by
      cases here : after.pc with
      | admitted | inserted => rfl
      | _ => simp [here, Pc.hasCounted] at counted
    have elsewhere := placed.apart different owned segmentOf inside
    refine Nat.lt_of_le_of_lt (Nat.le_of_eq ?_) (placed.room place segmentOf counted max known)
    rw [bookedCount_store, elsewhere]
    rfl
  · intro early schema
    rw [State.store, rowsWith_insert, if_neg (fun both => different both.1)]
    exact placed.unwritten early schema
  · intro booking driver place call late
    obtain ⟨status, rows⟩ := placed.stored booking driver place call late
    refine ⟨status, ?_⟩
    intro schema
    rw [State.store, rowsWith_insert, if_neg (fun both => different both.1)]
    exact rows schema

theorem Serialised.store (serialised : Serialised state) (found : state.requests id = some request)
    {bookingId : BookingId} {driverId : DriverId} {segment : RouteSegment}
    (call : request.call = .reserve bookingId driverId segment) (here : request.pc = .inserted)
    {pc : Pc} (after : pc = .stored ∨ pc = .refused) :
    Serialised ((state.store id bookingId driverId segment).goto id request pc) := by
  have placed := serialised.placed id request found
  have place : request.segment = some segment := by rw [Request.segment, call]
  have held : request.holds = some (lockKey segment) := by
    rw [Request.holds, here, place]
    rfl
  have owned := placed.owns _ held
  refine serialised.moved ?_ rfl ?_ ?_
  · intro schema segmentId slot max known
    change bookedCount (state.store id bookingId driverId segment).database schema segmentId slot ≤
      max
    rw [bookedCount_store]
    split
    · rename_i occupied
      simp only [RouteSegment.occupies, Bool.and_eq_true, decide_eq_true_eq] at occupied
      obtain ⟨⟨rfl, rfl⟩, rfl⟩ := occupied
      exact placed.room segment place (by rw [here]; rfl) max known
    · exact serialised.within schema segmentId slot max known
  · intro other mover different _ others
    exact (others.store different owned bookingId driverId).of_same rfl rfl rfl
  · have stored : StoredOnce (state.store id bookingId driverId segment).tables id bookingId
        driverId segment := .insert (placed.unwritten (by rw [here]; rfl))
    refine ⟨?_, ?_, ?_, ?_, ?_⟩
    · intro key holds
      refine placed.owns key ?_
      rw [Request.holds, here]
      obtain rfl | rfl := after
      · exact holds
      · exact holds
    · rintro _ _ _ rfl
      simp at after
    · obtain rfl | rfl := after
      · rintro _ _ ⟨⟩
      · rintro _ _ ⟨⟩
    · obtain rfl | rfl := after
      · rintro ⟨⟩
      · rintro ⟨⟩
    · intro booking driver other same _
      have same : request.call = .reserve booking driver other := same
      rw [call] at same
      cases same
      exact stored

theorem Placed.release (placed : Placed state other after) (snapshot : PeerTables)
    (bookingId : BookingId) :
    Placed { state with tables := state.tables.release snapshot bookingId } other after := by
  refine ⟨placed.owns, ?_, ?_, ?_, ?_⟩
  · intro segment opened place here
    exact Nat.le_trans (bookedCount_release_le ..) (placed.counted segment opened place here)
  · intro segment place counted max known
    exact Nat.lt_of_le_of_lt (bookedCount_release_le ..) (placed.room segment place counted max known)
  · intro early schema
    rw [rowsWith_release, placed.unwritten early schema]
    rfl
  · intro booking driver segment call late
    exact (placed.stored booking driver segment call late).release snapshot

theorem Serialised.release (serialised : Serialised state) (snapshot : PeerTables)
    (bookingId : BookingId) {pc : Pc} (own : Placed state id { request with pc }) :
    Serialised ({ state with tables := state.tables.release snapshot bookingId }.goto id request
      pc) := by
  refine serialised.moved ?_ rfl ?_ ?_
  · intro schema segmentId slot max known
    exact Nat.le_trans (bookedCount_release_le ..) (serialised.within schema segmentId slot max known)
  · intro other mover _ _ placed
    exact (placed.release snapshot bookingId).of_same rfl rfl rfl
  · exact (own.release snapshot bookingId).of_same rfl rfl rfl

/-! ### Steps -/

theorem Serialised.begin (serialised : Serialised state) {call : PeerCall}
    (begun : PeerEndpoint.begin state id call = some next) : Serialised next := by
  simp only [PeerEndpoint.begin] at begun
  split at begun
  · exact nomatch begun
  · split at begun
    · rename_i unused
      cases begun
      refine serialised.goto ⟨?_, ?_, ?_, ?_, ?_⟩
      · intro key held
        exact nomatch held
      · intro _ _ _ opened
        exact nomatch opened
      · intro _ _ counted
        exact nomatch counted
      · intro _ schema
        have checked := List.all_eq_true.mp unused schema (mem_regionSchemas schema)
        exact List.isEmpty_iff.mp checked
      · intro _ _ _ _ late
        exact nomatch late
    · exact nomatch begun

theorem Serialised.proceed (serialised : Serialised state) (found : state.requests id = some request)
    (stepped : PeerEndpoint.proceed state id request = some next) : Serialised next := by
  have placed := serialised.placed id request found
  simp only [PeerEndpoint.proceed] at stepped
  split at stepped
  case h_1 bookingId driverId segment call here =>
      split at stepped
      · cases stepped
        exact serialised.goto .failed
      · rename_i free
        cases stepped
        exact serialised.acquire found here (by rw [Request.segment, call]) free
  case h_2 here =>
      cases stepped
      exact serialised.goto (placed.opened here)
  case h_3 bookingId driverId segment snapshot call here =>
      have refuses := serialised.goto (placed.refused (by rw [here]; rfl))
      split at stepped
      · cases stepped
        exact refuses
      · rename_i capacity checked
        split at stepped
        · cases stepped
          exact refuses
        · rename_i below
          cases stepped
          exact serialised.goto
            (placed.admitted here (by rw [Request.segment, call]) checked below)
  case h_4 here =>
      split at stepped
      · cases stepped
        exact serialised.goto (placed.refused (by rw [here]; rfl))
      · cases stepped
        exact serialised.goto (placed.inserted here)
  case h_5 bookingId driverId segment call here =>
      cases stepped
      exact serialised.store found call here (.inl rfl)
  case h_6 segment call here =>
      cases stepped
      refine serialised.unlock segment rfl ⟨?_, ?_, ?_, ?_, ?_⟩
      · intro key held
        exact nomatch held
      · intro _ _ _ opened
        exact nomatch opened
      · intro _ _ counted
        exact nomatch counted
      · intro early
        exact nomatch early
      · intro bookingId driverId place same _
        exact placed.stored bookingId driverId place same (by rw [here]; rfl)
  case h_7 segment call here =>
      cases stepped
      exact serialised.unlock segment rfl .failed
  case h_8 call here =>
      cases stepped
      refine serialised.goto (.idle ?_ (fun _ => nofun) rfl rfl rfl)
      exact fun _ held => nomatch held
  case h_9 bookingId snapshot call here =>
      split at stepped
      · cases stepped
        exact serialised.goto .failed
      · cases stepped
        refine serialised.release snapshot bookingId (.idle ?_ (fun _ => nofun) rfl rfl rfl)
        exact fun _ held => nomatch held
  case h_10 => exact nomatch stepped

theorem Serialised.raise (serialised : Serialised state) (found : state.requests id = some request)
    (stepped : PeerEndpoint.raise state id request = some next) : Serialised next := by
  have placed := serialised.placed id request found
  simp only [PeerEndpoint.raise] at stepped
  cases here : request.pc with
  | arrived | stored | refused | releasing snapshot =>
      simp only [here, Option.some.injEq] at stepped
      exact stepped ▸ serialised.goto .failed
  | locked | opened snapshot | admitted | inserted =>
      simp only [here, Option.some.injEq] at stepped
      exact stepped ▸ serialised.goto (placed.refused (by rw [here]; rfl))
  | created | released | failed => simp [here] at stepped

theorem Serialised.commitThenRaise (serialised : Serialised state)
    (found : state.requests id = some request)
    (stepped : PeerEndpoint.commitThenRaise state id request = some next) : Serialised next := by
  simp only [PeerEndpoint.commitThenRaise] at stepped
  split at stepped
  · rename_i call here
    cases stepped
    exact serialised.store found call here (.inr rfl)
  · rename_i bookingId snapshot call here
    split at stepped
    · exact nomatch stepped
    · cases stepped
      exact serialised.release snapshot bookingId .failed
  · exact nomatch stepped

end

theorem Serialised.step {state next : State} {action : Action} (serialised : Serialised state)
    (outlives : LockOutlivesHolder state action)
    (stepped : PeerEndpoint.step state action = some next) : Serialised next := by
  cases action with
  | begin id call => exact serialised.begin stepped
  | proceed id =>
      obtain ⟨request, found, moved⟩ := Option.bind_eq_some_iff.mp stepped
      exact serialised.proceed found moved
  | raise id =>
      obtain ⟨request, found, moved⟩ := Option.bind_eq_some_iff.mp stepped
      exact serialised.raise found moved
  | commitThenRaise id =>
      obtain ⟨request, found, moved⟩ := Option.bind_eq_some_iff.mp stepped
      exact serialised.commitThenRaise found moved
  | crash id =>
      obtain ⟨request, found, rfl⟩ := Option.map_eq_some_iff.mp stepped
      exact serialised.goto .failed
  | expire key =>
      cases stepped
      refine ⟨serialised.within, ?_⟩
      intro id request found
      have placed := serialised.placed id request found
      refine ⟨?_, placed.counted, placed.room, placed.unwritten, placed.stored⟩
      intro held holds
      have apart : held ≠ key := by
        rintro rfl
        exact outlives id request found holds
      exact (Function.update_of_ne apart ..).trans (placed.owns held holds)

/-- However the requests interleave, no slot is overbooked and every request answered with 201
has its one row. -/
theorem withinCapacity_and_storedOnce
    {maxCapacityPerSlot : RegionSchema → SegmentId → Option Nat} {tables : PeerTables}
    (within : WithinCapacity (tables.database maxCapacityPerSlot)) {actions : List Action}
    {final : State} (executed : Lts.run step (.idle maxCapacityPerSlot tables) actions = some final)
    (meets : Lts.Meets step LockOutlivesHolder (.idle maxCapacityPerSlot tables) actions) :
    WithinCapacity final.database ∧
      ∀ id bookingId driverId segment,
        final.requests id = some ⟨.reserve bookingId driverId segment, .created⟩ →
          StoredOnce final.tables id bookingId driverId segment := by
  have serialised : Serialised final :=
    Lts.run_invariant (fun _ _ _ holds outlives stepped => holds.step outlives stepped)
      (serialised_idle within) executed meets
  refine ⟨serialised.within, ?_⟩
  intro id bookingId driverId segment found
  exact (serialised.placed id _ found).stored bookingId driverId segment rfl rfl

/-! ### Two requests for the last place of a slot -/

def lastPlace : RouteSegment := ⟨1, .euWestIreland, 0, hourStart_zero⟩

def onePlace (schema : RegionSchema) (segmentId : SegmentId) : Option Nat :=
  if schema = .regionIreland ∧ segmentId = 1 then some 1 else none

def twoForOne : List Action :=
  [.begin 0 (.reserve 10 7 lastPlace), .begin 1 (.reserve 11 8 lastPlace)] ++
    List.replicate 6 (.proceed 0) ++ List.replicate 4 (.proceed 1) ++
    [.begin 2 (.release 10), .proceed 2, .proceed 2, .begin 3 (.reserve 12 9 lastPlace)] ++
    List.replicate 6 (.proceed 3)

def noExpiry : Action → Bool
  | .expire _ => false
  | _ => true

theorem withinCapacity_twoForOne :
    ∃ final, Lts.run step (.idle onePlace fun _ => []) twoForOne = some final ∧
      (final.requests 1).map (fun request => request.pc matches .failed) = some true ∧
      bookedCount final.database .regionIreland 1 0 = 1 ∧
      WithinCapacity final.database ∧ StoredOnce final.tables 3 12 9 lastPlace := by
  have observed : (Lts.run step (.idle onePlace fun _ => []) twoForOne).map (fun final =>
      ((final.requests 1).map (fun request => request.pc matches .failed),
        bookedCount final.database .regionIreland 1 0,
        (final.requests 3).map fun request => (request.call, request.pc matches .created))) =
      some (some true, 1, some (.reserve 12 9 lastPlace, true)) := by decide +kernel
  obtain ⟨final, executed, outcome⟩ := Option.map_eq_some_iff.mp observed
  simp only [Prod.mk.injEq] at outcome
  obtain ⟨refused, booked, created⟩ := outcome
  have unexpired : Lts.checks step (fun _ action => noExpiry action) (.idle onePlace fun _ => [])
      twoForOne = true := by decide +kernel
  have meets : Lts.Meets step LockOutlivesHolder (.idle onePlace fun _ => []) twoForOne := by
    refine Lts.meets_of_checks ?_ unexpired
    intro state action tested
    cases action with
    | expire key => cases tested
    | _ => trivial
  obtain ⟨within, stored⟩ := withinCapacity_and_storedOnce
    (fun _ _ _ _ _ => Nat.zero_le _) executed meets
  refine ⟨final, executed, refused, booked, within, stored 3 12 9 lastPlace ?_⟩
  obtain ⟨request, found, answered⟩ := Option.map_eq_some_iff.mp created
  obtain ⟨call, pc⟩ := request
  simp only [Prod.mk.injEq] at answered
  obtain ⟨rfl, reached⟩ := answered
  rw [found]
  cases pc with
  | created => rfl
  | _ => cases reached

end TrafficService.PeerEndpoint
