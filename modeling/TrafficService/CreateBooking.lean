import TrafficService.Transactions
import TrafficService.Events

/-!
`create_booking` and `execute_booking_saga` as the control flow of one request, from await
to await. What the awaited calls answer is left to the environment; the transactions,
messages and events each step issues are part of its outcome.
-/

namespace TrafficService

inductive Vm
  | vm1
  | vm2
  deriving DecidableEq, Repr

def Vm.peer : Vm → Vm
  | .vm1 => .vm2
  | .vm2 => .vm1

theorem Vm.peer_ne (vm : Vm) : vm.peer ≠ vm := by cases vm <;> decide

theorem Vm.eq_or_peer (vm place : Vm) : place = vm ∨ place = vm.peer := by
  cases vm <;> cases place <;> decide

/-- Whether `PEER_BOOKING_URL` is set, and `LOCAL_REGIONS`, on each VM. -/
structure Deployment where
  peerConfigured : Vm → Bool
  localRegions : Vm → List Region

def Deployment.isLocal (deployment : Deployment) (vm : Vm) (region : Region) : Bool :=
  !deployment.peerConfigured vm || region ∈ deployment.localRegions vm

structure BookingRequest where
  driverId : DriverId
  plateNumber : Option Plate
  departureTime : DateTime
  createdAt : DateTime
  deriving DecidableEq, Repr

def getDriverPlateNumber (db : Database) (driverId : DriverId) : Option Plate :=
  (db.users driverId).join

def resolvePlateNumber (db : Database) (plateNumber : Option Plate) (driverId : DriverId) :
    Option Plate :=
  match plateNumber with
  | none | some "" => getDriverPlateNumber db driverId
  | some plate => some plate

def BookingRequest.draft (request : BookingRequest) (db : Database) : BookingDraft where
  driverId := request.driverId
  plateNumber := resolvePlateNumber db request.plateNumber request.driverId
  departureTime := request.departureTime
  createdAt := request.createdAt

def confirmedMinutes (route : Route) : Nat :=
  max 1 (if route.estimatedDurationMinutes = 0 then 60 else route.estimatedDurationMinutes)

inductive CreatePc
  | flush
  | resolve
  /-- The reservation loop; on the empty list, the saga's commit. -/
  | reserve (todo : List RouteSegment)
  | peerWait (segment : RouteSegment) (todo : List RouteSegment)
  | publishConfirmed
  | finalCommit
  | refresh
  | rollback
  /-- The local compensations; on the empty list, the call of `_peer_release`. -/
  | compensate (todo : List RouteSegment)
  | peerReleaseWait
  | publishFailed
  | reject
  | returned
  | raised
  | crashed
  deriving DecidableEq

def CreatePc.ended : CreatePc → Bool
  | .returned | .raised | .crashed => true
  | _ => false

def CreatePc.waits : CreatePc → Bool
  | .peerWait .. | .peerReleaseWait => true
  | _ => false

/-- `persistent`: the session holds the booking as a stored row, not as a new one. -/
structure CreateRun where
  vm : Vm
  draft : BookingDraft
  route : Option Route
  reserved : List RouteSegment
  peerReserved : Bool
  regionUnavailable : Bool
  persistent : Bool
  pc : CreatePc

def CreateRun.start (vm : Vm) (draft : BookingDraft) : CreateRun where
  vm := vm
  draft := draft
  route := none
  reserved := []
  peerReserved := false
  regionUnavailable := false
  persistent := false
  pc := .flush

/-- How an awaited call ends. Any answer the call does not expect is an exception.
`raiseApplied` is one whose effect took place, `unavailable` one of the connection errors
`_peer_reserve` turns into `RegionUnavailableError`. -/
inductive Answer
  | ok
  | route (route : Route)
  | reserved (stored : Bool)
  | released
  | raise
  | raiseApplied
  | unavailable

def Answer.fromPeer : Answer → Bool
  | .reserved _ | .released => true
  | _ => false

inductive Msg
  | reserve (target : Vm) (id : BookingId) (driverId : DriverId) (segment : RouteSegment)
  | reserved (id : BookingId) (stored : Bool)
  | release (target : Vm) (id : BookingId)
  | released (id : BookingId)
  deriving DecidableEq

def Msg.bookingId : Msg → BookingId
  | .reserve _ id _ _ | .reserved id _ | .release _ id | .released id => id

def Msg.asks : Msg → Option Vm
  | .reserve target .. | .release target _ => some target
  | .reserved .. | .released _ => none

structure Outcome where
  run : CreateRun
  transaction : Option Transaction
  sent : List Msg
  published : List Event

@[simp] def Outcome.commits (outcome : Outcome) (transaction : Transaction) : Outcome :=
  { outcome with transaction := some transaction }

@[simp] def Outcome.sends (outcome : Outcome) (msg : Msg) : Outcome := { outcome with sent := [msg] }

@[simp] def Outcome.publishes (outcome : Outcome) (event : Event) : Outcome :=
  { outcome with published := [event] }

namespace CreateRun

variable (run : CreateRun) (id : BookingId)

@[simp] def goto (pc : CreatePc) : Outcome := ⟨{ run with pc }, none, [], []⟩

def localReserved (deployment : Deployment) : List RouteSegment :=
  run.reserved.filter fun segment => deployment.isLocal run.vm segment.region

def store (deployment : Deployment) : Transaction :=
  .saga run.draft (run.localReserved deployment)

def minutes : Nat := (run.route.map confirmedMinutes).getD 60

def confirmedEvent : Event :=
  .bookingConfirmed id run.draft.driverId run.draft.plateNumber
    (run.reserved.map fun segment => (segment.segmentId, segment.region)) run.draft.departureTime

def failedEvent : Event := .bookingFailed id run.draft.driverId run.draft.plateNumber

def rejection : Transaction :=
  if run.persistent then .updateRejected else .insertRejected run.draft

def releasesPeer (deployment : Deployment) : Bool :=
  run.peerReserved && deployment.peerConfigured run.vm && !run.regionUnavailable

end CreateRun

def advance (deployment : Deployment) (id : BookingId) (run : CreateRun) (answer : Answer) :
    Option Outcome :=
  match run.pc with
  | .flush =>
      match answer with
      | .ok => some (run.goto .resolve)
      | _ => some (run.goto .raised)
  | .resolve =>
      -- outside the saga's `try`: an exception goes straight to `create_booking`'s handler
      match answer with
      | .route route => some ({ run with route := some route }.goto (.reserve route.segments))
      | _ => some (run.goto .reject)
  | .reserve [] =>
      match answer with
      | .ok =>
          some (({ run with persistent := true }.goto .publishConfirmed).commits
            (run.store deployment))
      | .raiseApplied => some ((run.goto .rollback).commits (run.store deployment))
      | _ => some (run.goto .rollback)
  | .reserve (segment :: rest) =>
      if deployment.isLocal run.vm segment.region then
        match answer with
        | .ok => some ({ run with reserved := run.reserved ++ [segment] }.goto (.reserve rest))
        | _ => some (run.goto .rollback)
      else
        match answer with
        | .ok =>
            some ((run.goto (.peerWait segment rest)).sends
              (.reserve run.vm.peer id run.draft.driverId segment))
        | .unavailable => some ({ run with regionUnavailable := true }.goto .rollback)
        | _ => some (run.goto .rollback)
  | .peerWait segment rest =>
      match answer with
      | .reserved true =>
          some ({ run with reserved := run.reserved ++ [segment], peerReserved := true }.goto
            (.reserve rest))
      | .unavailable => some ({ run with regionUnavailable := true }.goto .rollback)
      | _ => some (run.goto .rollback)
  | .publishConfirmed =>
      match answer with
      | .ok => some ((run.goto .finalCommit).publishes (run.confirmedEvent id))
      | .raiseApplied => some ((run.goto .rollback).publishes (run.confirmedEvent id))
      | _ => some (run.goto .rollback)
  | .finalCommit =>
      match answer with
      | .ok => some ((run.goto .refresh).commits (.confirm run.minutes))
      | .raiseApplied => some ((run.goto .reject).commits (.confirm run.minutes))
      | _ => some (run.goto .reject)
  | .refresh =>
      match answer with
      | .ok => some (run.goto .returned)
      | _ => some (run.goto .reject)
  | .rollback =>
      match answer with
      | .ok => some (run.goto (.compensate (run.localReserved deployment)))
      | _ => some (run.goto .reject)
  | .compensate (segment :: rest) =>
      match answer with
      | .ok | .raiseApplied =>
          some ((run.goto (.compensate rest)).commits (.release segment.schema))
      | _ => some (run.goto (.compensate rest))
  | .compensate [] =>
      match run.releasesPeer deployment, answer with
      | true, .ok => some ((run.goto .peerReleaseWait).sends (.release run.vm.peer id))
      | _, _ => some (run.goto .publishFailed)
  | .peerReleaseWait => some (run.goto .publishFailed)
  | .publishFailed =>
      match answer with
      | .ok | .raiseApplied => some ((run.goto .reject).publishes (run.failedEvent id))
      | _ => some (run.goto .reject)
  | .reject =>
      match answer with
      | .ok | .raiseApplied => some ((run.goto .raised).commits run.rejection)
      | _ => some (run.goto .raised)
  | .returned | .raised | .crashed => none

/-! ### A small deployment, for examples -/

def singleVm : Deployment := ⟨fun _ => false, fun _ => []⟩

def twoVms : Deployment where
  peerConfigured := fun _ => true
  localRegions := fun vm =>
    match vm with
    | .vm1 => [.euWestIreland]
    | .vm2 => [.euWestUk, .euWestFrance]

def request : BookingRequest := ⟨7, some "12-D-345", 7200 * second, 0⟩

def irishSegment : RouteSegment := ⟨1, .euWestIreland, 0, hourStart_zero⟩

def ukSegment : RouteSegment := ⟨2, .euWestUk, 0, hourStart_zero⟩

def crossingRoute : Route := ⟨[ukSegment, irishSegment], 90, by decide, by decide⟩

end TrafficService
