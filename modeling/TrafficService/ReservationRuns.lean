import TrafficService.Capacity
import TrafficService.Lib.Lts

/-!
The transactions of one VM that count and reserve capacity, one await at a time: the
local branch of `execute_booking_saga` and the `peer_reserve` endpoint. Sessions are
REPEATABLE READ. A saga's snapshot is the one `create_booking` opened when it flushed
the booking row; a peer request opens its own inside the lock.
-/

namespace TrafficService.ReservationRuns

open Table

abbrev RunId := Nat

abbrev LockKey := SegmentId × DateTime

def lockKey (segment : RouteSegment) : LockKey := (segment.segmentId, segment.slotStart)

inductive RunKind
  | saga
  | peerReserve
  deriving DecidableEq

/-- Where a run stands. From `locked` to `refused` it is inside `segment_lock`. -/
inductive Pc
  | loop (todo : List RouteSegment)
  | locked (segment : RouteSegment) (rest : List RouteSegment)
  | admitted (segment : RouteSegment) (rest : List RouteSegment)
  | inserted (segment : RouteSegment) (rest : List RouteSegment)
  | stored (segment : RouteSegment)
  | refused (segment : RouteSegment)
  | publishing
  | failed
  | releasing (todo : List RouteSegment)
  | finished
  deriving DecidableEq

def Pc.holds : Pc → Option LockKey
  | .locked segment _ | .admitted segment _ | .inserted segment _ => some (lockKey segment)
  | .stored segment | .refused segment => some (lockKey segment)
  | .loop _ | .publishing | .failed | .releasing _ | .finished => none

structure Run where
  kind : RunKind
  bookingId : BookingId
  driverId : DriverId
  snapshot : Option Database
  reserved : List RouteSegment
  pc : Pc

/-- `uncommitted` lists the inserts of the open transactions, each with its run. -/
structure State where
  db : Database
  uncommitted : List (RunId × RouteSegment)
  locks : LockKey → Option RunId
  runs : RunId → Option Run

def State.idle (db : Database) : State := ⟨db, [], fun _ => none, fun _ => none⟩

inductive Action
  | createBooking (id : RunId) (bookingId : BookingId) (driverId : DriverId) (route : Route)
  | peerReserve (id : RunId) (bookingId : BookingId) (driverId : DriverId) (segment : RouteSegment)
  | proceed (id : RunId)
  | raise (id : RunId)
  /-- The commit is applied and its acknowledgement lost. -/
  | commitThenRaise (id : RunId)
  | crash (id : RunId)
  | expire (key : LockKey)

def writeSegment (run : Run) (db : Database) (segment : RouteSegment) : Database :=
  match run.kind with
  | .saga => storeSegment db run.bookingId run.driverId segment
  | .peerReserve =>
      db.insertReservation segment.schema (segment.reservation run.bookingId run.driverId)

def ownWrites (id : RunId) (uncommitted : List (RunId × RouteSegment)) : List RouteSegment :=
  (uncommitted.filter fun write => write.1 = id).map (·.2)

def othersWrites (id : RunId) (uncommitted : List (RunId × RouteSegment)) :
    List (RunId × RouteSegment) :=
  uncommitted.filter fun write => write.1 ≠ id

/-- What a statement of the run reads: its snapshot and its own writes. -/
def visible (state : State) (id : RunId) (run : Run) (snapshot : Database) : Database :=
  (ownWrites id state.uncommitted).foldl (writeSegment run) snapshot

namespace State

variable (state : State) (id : RunId) (run : Run)

def goto (pc : Pc) : State :=
  { state with runs := Function.update state.runs id (some { run with pc }) }

def lock (segment : RouteSegment) : State :=
  { state with locks := Function.update state.locks (lockKey segment) (some id) }

def unlock (segment : RouteSegment) : State :=
  if state.locks (lockKey segment) = some id then
    { state with locks := Function.update state.locks (lockKey segment) none }
  else state

def insert (segment : RouteSegment) : State :=
  { state with uncommitted := state.uncommitted ++ [(id, segment)] }

def commit : State :=
  { state with
    db := (ownWrites id state.uncommitted).foldl (writeSegment run) state.db
    uncommitted := othersWrites id state.uncommitted }

def rollback : State := { state with uncommitted := othersWrites id state.uncommitted }

def release (segment : RouteSegment) : State :=
  { state with db := releaseSegment state.db segment.schema run.bookingId }

section

variable (pc : Pc)

@[simp] theorem goto_db : (state.goto id run pc).db = state.db := rfl

@[simp] theorem goto_locks : (state.goto id run pc).locks = state.locks := rfl

@[simp] theorem goto_runs : (state.goto id run pc).runs =
    Function.update state.runs id (some { run with pc }) := rfl

end

end State

def proceed (state : State) (id : RunId) (run : Run) : Option State :=
  match run.pc with
  | .loop [] => some ((state.commit id run).goto id run .publishing)
  | .loop (segment :: rest) =>
      match state.locks (lockKey segment) with
      | some _ => some (state.goto id run .failed)
      | none => some ((state.lock id segment).goto id run (.locked segment rest))
  | .locked segment rest =>
      match run.snapshot with
      | none => some (state.goto id { run with snapshot := some state.db } (.locked segment rest))
      | some snapshot =>
          match checkCapacity (visible state id run snapshot) segment.schema segment.segmentId
              segment.slotStart with
          | .ok capacity =>
              if capacity.booked ≥ capacity.max then some (state.goto id run (.refused segment))
              else some (state.goto id run (.admitted segment rest))
          | .error _ =>
              -- only the saga catches `SegmentNotFoundError`
              match run.kind with
              | .saga => some (state.goto id run (.admitted segment rest))
              | .peerReserve => some (state.goto id run (.refused segment))
  | .admitted segment rest =>
      match reserveSegment state.db segment.schema
          (segment.reservation run.bookingId run.driverId) with
      | .error _ => some (state.goto id run (.refused segment))
      | .ok _ => some ((state.insert id segment).goto id run (.inserted segment rest))
  | .inserted segment rest =>
      match run.kind with
      | .saga =>
          some ((state.unlock id segment).goto id
            { run with reserved := run.reserved ++ [segment] } (.loop rest))
      | .peerReserve => some ((state.commit id run).goto id run (.stored segment))
  | .stored segment => some ((state.unlock id segment).goto id run .finished)
  | .refused segment => some ((state.unlock id segment).goto id run .failed)
  | .publishing => some (state.goto id run .finished)
  | .failed => some ((state.rollback id).goto id run (.releasing run.reserved))
  | .releasing [] => some (state.goto id run .finished)
  | .releasing (segment :: rest) =>
      some ((state.release run segment).goto id run (.releasing rest))
  | .finished => none

def raise (state : State) (id : RunId) (run : Run) : Option State :=
  match run.pc with
  | .loop _ | .publishing | .stored _ | .refused _ => some (state.goto id run .failed)
  | .locked segment _ | .admitted segment _ => some (state.goto id run (.refused segment))
  | .inserted segment _ =>
      -- the saga is releasing the lock here, the peer request is committing
      match run.kind with
      | .saga => some (state.goto id run .failed)
      | .peerReserve => some (state.goto id run (.refused segment))
  | .failed => some ((state.rollback id).goto id run .finished)
  | .releasing [] => some (state.goto id run .finished)
  | .releasing (_ :: rest) => some (state.goto id run (.releasing rest))
  | .finished => none

def commitThenRaise (state : State) (id : RunId) (run : Run) : Option State :=
  match run.kind, run.pc with
  | .saga, .loop [] => some ((state.commit id run).goto id run .failed)
  | .peerReserve, .inserted segment _ =>
      some ((state.commit id run).goto id run (.refused segment))
  | _, _ => none

def begin (state : State) (id : RunId) (run : Run) : Option State :=
  match state.runs id with
  | some _ => none
  | none => some { state with runs := Function.update state.runs id (some run) }

def step (state : State) : Action → Option State
  | .createBooking id bookingId driverId route =>
      begin state id ⟨.saga, bookingId, driverId, some state.db, [], .loop route.segments⟩
  | .peerReserve id bookingId driverId segment =>
      begin state id ⟨.peerReserve, bookingId, driverId, none, [], .loop [segment]⟩
  | .proceed id => (state.runs id).bind (proceed state id)
  | .raise id => (state.runs id).bind (raise state id)
  | .commitThenRaise id => (state.runs id).bind (commitThenRaise state id)
  | .crash id => (state.runs id).map fun run => (state.rollback id).goto id run .finished
  | .expire key => some { state with locks := Function.update state.locks key none }

/-! ### Counting -/

def WithinCapacity (db : Database) : Prop :=
  ∀ schema segmentId slot max, db.maxCapacityPerSlot schema segmentId = some max →
    bookedCount db schema segmentId slot ≤ max

def heldCount (state : State) (schema : RegionSchema) (segmentId : SegmentId) (slot : DateTime) :
    Nat :=
  bookedCount state.db schema segmentId slot +
    state.uncommitted.countP fun write => write.2.occupies schema segmentId slot

theorem bookedCount_writeSegment (run : Run) (db : Database) (segment : RouteSegment)
    (schema : RegionSchema) (segmentId : SegmentId) (slot : DateTime) :
    bookedCount (writeSegment run db segment) schema segmentId slot =
      bookedCount db schema segmentId slot +
        if segment.occupies schema segmentId slot then 1 else 0 := by
  rw [← bookedCount_insert_segment db segment run.bookingId run.driverId]
  simp only [writeSegment]
  split <;> rfl

theorem bookedCount_foldl_writeSegment (run : Run) (segments : List RouteSegment) (db : Database)
    (schema : RegionSchema) (segmentId : SegmentId) (slot : DateTime) :
    bookedCount (segments.foldl (writeSegment run) db) schema segmentId slot =
      bookedCount db schema segmentId slot +
        segments.countP fun segment => segment.occupies schema segmentId slot := by
  induction segments generalizing db with
  | nil => rfl
  | cons segment rest ih =>
      rw [List.foldl_cons, ih, bookedCount_writeSegment, List.countP_cons]
      omega

theorem maxCapacity_writeSegment (run : Run) (db : Database) (segment : RouteSegment) :
    (writeSegment run db segment).maxCapacityPerSlot = db.maxCapacityPerSlot := by
  simp only [writeSegment]
  split <;> rfl

theorem maxCapacity_foldl_writeSegment (run : Run) (segments : List RouteSegment) (db : Database) :
    (segments.foldl (writeSegment run) db).maxCapacityPerSlot = db.maxCapacityPerSlot := by
  induction segments generalizing db with
  | nil => rfl
  | cons segment rest ih => rw [List.foldl_cons, ih, maxCapacity_writeSegment]

end TrafficService.ReservationRuns
