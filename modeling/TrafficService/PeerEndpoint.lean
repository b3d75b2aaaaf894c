import TrafficService.ReservationRuns

/-!
The endpoints a VM serves its peer's sagas, one await at a time: `peer_reserve`, which takes
its snapshot inside `segment_lock` and commits before it leaves it, and `peer_release`, which
takes no lock. Rows carry the id that `reserve_segment` draws and `peer_reserve` answers with.
-/

namespace TrafficService.PeerEndpoint

open Table
open ReservationRuns (LockKey lockKey WithinCapacity)

/-- One request; a reservation it inserts has its number as id. -/
abbrev RequestId := Nat

structure PeerRow where
  id : RequestId
  row : Reservation
  deriving DecidableEq

abbrev PeerTables := RegionSchema → List PeerRow

def PeerTables.database (tables : PeerTables)
    (maxCapacityPerSlot : RegionSchema → SegmentId → Option Nat) : Database :=
  { Database.unbooked maxCapacityPerSlot (fun _ => none) with
    reservations := fun schema => (tables schema).map PeerRow.row }

inductive PeerCall
  | reserve (bookingId : BookingId) (driverId : DriverId) (segment : RouteSegment)
  | release (bookingId : BookingId)
  deriving DecidableEq

/-- From `locked` to `refused` a request is inside `segment_lock`. A snapshot is the one its
transaction's first statement has opened. -/
inductive Pc
  | arrived
  | locked
  | opened (snapshot : PeerTables)
  | admitted
  | inserted
  | stored
  | refused
  | created
  | releasing (snapshot : PeerTables)
  | released
  | failed

structure Request where
  call : PeerCall
  pc : Pc

def Request.segment (request : Request) : Option RouteSegment :=
  match request.call with
  | .reserve _ _ segment => some segment
  | .release _ => none

def Pc.locks : Pc → Bool
  | .locked | .opened _ | .admitted | .inserted | .stored | .refused => true
  | _ => false

def Request.holds (request : Request) : Option LockKey :=
  if request.pc.locks then request.segment.map lockKey else none

structure State where
  maxCapacityPerSlot : RegionSchema → SegmentId → Option Nat
  tables : PeerTables
  locks : LockKey → Option RequestId
  requests : RequestId → Option Request

def State.idle (maxCapacityPerSlot : RegionSchema → SegmentId → Option Nat)
    (tables : PeerTables) : State :=
  ⟨maxCapacityPerSlot, tables, fun _ => none, fun _ => none⟩

def State.database (state : State) : Database := state.tables.database state.maxCapacityPerSlot

inductive Action
  | begin (id : RequestId) (call : PeerCall)
  | proceed (id : RequestId)
  | raise (id : RequestId)
  | commitThenRaise (id : RequestId)
  | crash (id : RequestId)
  | expire (key : LockKey)

def PeerTables.rowsWith (tables : PeerTables) (schema : RegionSchema) (id : RequestId) :
    List PeerRow :=
  (tables schema).filter fun row => row.id = id

def PeerTables.insert (tables : PeerTables) (schema : RegionSchema) (row : PeerRow) : PeerTables :=
  Function.update tables schema (tables schema ++ [row])

/-- The three updates of `peer_release`, on the rows its snapshot shows. -/
def PeerTables.release (tables snapshot : PeerTables) (bookingId : BookingId) : PeerTables :=
  fun schema => updateWhere (fun row => row.row.bookingId = bookingId && row ∈ snapshot schema)
    (fun row => { row with row.status := .cancelled }) (tables schema)

/-- A row to be updated has been updated since the snapshot: the transaction fails. -/
def PeerTables.conflict (tables snapshot : PeerTables) (bookingId : BookingId) : Bool :=
  regionSchemas.any fun schema => (snapshot schema).any fun row =>
    row.row.bookingId = bookingId && row ∉ tables schema

namespace State

variable (state : State) (id : RequestId) (request : Request)

def goto (pc : Pc) : State :=
  { state with requests := Function.update state.requests id (some { request with pc }) }

def lock (segment : RouteSegment) : State :=
  { state with locks := Function.update state.locks (lockKey segment) (some id) }

def unlock (segment : RouteSegment) : State :=
  if state.locks (lockKey segment) = some id then
    { state with locks := Function.update state.locks (lockKey segment) none }
  else state

def store (bookingId : BookingId) (driverId : DriverId) (segment : RouteSegment) : State :=
  { state with
    tables := state.tables.insert segment.schema ⟨id, segment.reservation bookingId driverId⟩ }

end State

def proceed (state : State) (id : RequestId) (request : Request) : Option State :=
  match request.call, request.pc with
  | .reserve _ _ segment, .arrived =>
      match state.locks (lockKey segment) with
      | some _ => some (state.goto id request .failed)
      | none => some ((state.lock id segment).goto id request .locked)
  | .reserve _ _ _, .locked => some (state.goto id request (.opened state.tables))
  | .reserve _ _ segment, .opened snapshot =>
      match checkCapacity (snapshot.database state.maxCapacityPerSlot) segment.schema
          segment.segmentId segment.slotStart with
      | .error _ => some (state.goto id request .refused)
      | .ok capacity =>
          if capacity.booked ≥ capacity.max then some (state.goto id request .refused)
          else some (state.goto id request .admitted)
  | .reserve bookingId driverId segment, .admitted =>
      match reserveSegment state.database segment.schema (segment.reservation bookingId driverId) with
      | .error _ => some (state.goto id request .refused)
      | .ok _ => some (state.goto id request .inserted)
  | .reserve bookingId driverId segment, .inserted =>
      some ((state.store id bookingId driverId segment).goto id request .stored)
  | .reserve _ _ segment, .stored => some ((state.unlock id segment).goto id request .created)
  | .reserve _ _ segment, .refused => some ((state.unlock id segment).goto id request .failed)
  | .release _, .arrived => some (state.goto id request (.releasing state.tables))
  | .release bookingId, .releasing snapshot =>
      if state.tables.conflict snapshot bookingId then some (state.goto id request .failed)
      else
        some ({ state with tables := state.tables.release snapshot bookingId }.goto id request
          .released)
  | _, _ => none

def raise (state : State) (id : RequestId) (request : Request) : Option State :=
  match request.pc with
  | .arrived | .stored | .refused | .releasing _ => some (state.goto id request .failed)
  | .locked | .opened _ | .admitted | .inserted => some (state.goto id request .refused)
  | .created | .released | .failed => none

def commitThenRaise (state : State) (id : RequestId) (request : Request) : Option State :=
  match request.call, request.pc with
  | .reserve bookingId driverId segment, .inserted =>
      some ((state.store id bookingId driverId segment).goto id request .refused)
  | .release bookingId, .releasing snapshot =>
      if state.tables.conflict snapshot bookingId then none
      else
        some ({ state with tables := state.tables.release snapshot bookingId }.goto id request
          .failed)
  | _, _ => none

def begin (state : State) (id : RequestId) (call : PeerCall) : Option State :=
  match state.requests id with
  | some _ => none
  | none =>
      if regionSchemas.all fun schema => (state.tables.rowsWith schema id).isEmpty then
        some (state.goto id ⟨call, .arrived⟩ .arrived)
      else none

def step (state : State) : Action → Option State
  | .begin id call => begin state id call
  | .proceed id => (state.requests id).bind (proceed state id)
  | .raise id => (state.requests id).bind (raise state id)
  | .commitThenRaise id => (state.requests id).bind (commitThenRaise state id)
  | .crash id => (state.requests id).map fun request => state.goto id request .failed
  | .expire key => some { state with locks := Function.update state.locks key none }

/-- No lock expires under a request that is still inside its scope. -/
def LockOutlivesHolder (state : State) : Action → Prop
  | .expire key => ∀ id request, state.requests id = some request → request.holds ≠ some key
  | _ => True

/-! ### Counting -/

section

variable (tables : PeerTables) (maxCapacityPerSlot : RegionSchema → SegmentId → Option Nat)
  (schema : RegionSchema) (segmentId : SegmentId) (slot : DateTime)

theorem bookedCount_database : bookedCount (tables.database maxCapacityPerSlot) schema segmentId slot =
    (tables schema).countP fun row => row.row.occupies segmentId slot :=
  List.countP_map

theorem bookedCount_insert (id : RequestId) (bookingId : BookingId) (driverId : DriverId)
    (segment : RouteSegment) :
    bookedCount ((tables.insert segment.schema
        ⟨id, segment.reservation bookingId driverId⟩).database maxCapacityPerSlot) schema segmentId
        slot =
      bookedCount (tables.database maxCapacityPerSlot) schema segmentId slot +
        if segment.occupies schema segmentId slot = true then 1 else 0 := by
  rw [bookedCount_database, bookedCount_database]
  by_cases here : schema = segment.schema
  · subst here
    simp [PeerTables.insert, RouteSegment.occupies, List.countP_append, List.countP_cons]
  · simp [PeerTables.insert, RouteSegment.occupies, here, Ne.symm here]

theorem bookedCount_release_le (snapshot : PeerTables) (bookingId : BookingId) :
    bookedCount ((tables.release snapshot bookingId).database maxCapacityPerSlot) schema segmentId
        slot ≤
      bookedCount (tables.database maxCapacityPerSlot) schema segmentId slot := by
  rw [bookedCount_database, bookedCount_database]
  exact countP_updateWhere_le (fun row _ => row.row.occupies_cancelled segmentId slot) _

theorem rowsWith_insert (id other : RequestId) (row : Reservation) (place : RegionSchema) :
    (tables.insert place ⟨id, row⟩).rowsWith schema other =
      if other = id ∧ schema = place then tables.rowsWith schema other ++ [⟨id, row⟩]
      else tables.rowsWith schema other := by
  by_cases here : schema = place
  · subst here
    by_cases same : other = id
    · subst same
      simp [PeerTables.rowsWith, PeerTables.insert]
    · simp [PeerTables.rowsWith, PeerTables.insert, same, Ne.symm same]
  · simp [PeerTables.rowsWith, PeerTables.insert, here]

theorem rowsWith_release (snapshot : PeerTables) (bookingId : BookingId) (id : RequestId) :
    (tables.release snapshot bookingId).rowsWith schema id =
      updateWhere (fun row => row.row.bookingId = bookingId && row ∈ snapshot schema)
        (fun row => { row with row.status := .cancelled }) (tables.rowsWith schema id) :=
  filter_updateWhere PeerRow.id id _ (fun row => { row with row.status := .cancelled })
    (fun _ => rfl) (tables schema)

end

end TrafficService.PeerEndpoint
