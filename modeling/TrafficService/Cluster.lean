import TrafficService.CreateBooking
import TrafficService.Reconciler
import TrafficService.Lib.Lts

/-!
Two booking services, the requests they serve and the messages between them. Each step is one
database transaction, one message or one answered await of one request or reconciliation pass.
Whether a reservation is admitted is left open here.
-/

namespace TrafficService.Cluster

abbrev PassId := Nat

inductive PassPc
  | start
  | orphans (todo : List Booking)
  | dangling (todo : List Booking)
  | sweep (schemas : List RegionSchema)
  | lingering (schema : RegionSchema) (todo : List BookingId) (schemas : List RegionSchema)
  deriving DecidableEq

/-- `snapshot` is the one of the open transaction: a query opens it, a commit closes it. -/
structure Pass where
  vm : Vm
  snapshot : Option Database
  pc : PassPc

structure State where
  db : Vm → Database
  runs : BookingId → Option CreateRun
  passes : PassId → Option Pass
  net : List Msg
  events : List Event

def State.initial (capacity : Vm → RegionSchema → SegmentId → Option Nat)
    (users : Vm → DriverId → Option (Option Plate)) : State where
  db := fun vm => .unbooked (capacity vm) (users vm)
  runs := fun _ => none
  passes := fun _ => none
  net := []
  events := []

inductive Action
  | createBooking (vm : Vm) (id : BookingId) (request : BookingRequest)
  | advance (id : BookingId) (answer : Answer)
  | crash (id : BookingId)
  /-- The peer handles a request; `accepted` says whether the handler gets to its commit. -/
  | serve (msg : Msg) (accepted : Bool)
  | deliver (msg : Msg)
  | lose (msg : Msg)
  | cancelBooking (vm : Vm) (id : BookingId) (driverId : DriverId) (published : Bool)
  | startPass (pass : PassId) (vm : Vm)
  | stepPass (pass : PassId) (now : DateTime) (published : Bool)
  | endPass (pass : PassId)

def commit (state : State) (vm : Vm) (id : BookingId) (transaction : Transaction) :
    Option State :=
  (transaction.apply id (state.db vm)).map fun db =>
    { state with db := Function.update state.db vm db }

def setRun (state : State) (id : BookingId) (run : CreateRun) : State :=
  { state with runs := Function.update state.runs id (some run) }

def setPass (state : State) (pass : PassId) (value : Option Pass) : State :=
  { state with passes := Function.update state.passes pass value }

def applyOutcome (state : State) (id : BookingId) (outcome : Outcome) : Option State :=
  let moved := { setRun state id outcome.run with
    net := state.net ++ outcome.sent
    events := state.events ++ outcome.published }
  match outcome.transaction with
  | none => some moved
  | some transaction => commit moved outcome.run.vm id transaction

def advanceRun (deployment : Deployment) (state : State) (id : BookingId) (answer : Answer) :
    Option State :=
  (state.runs id).bind fun run =>
    (advance deployment id run answer).bind (applyOutcome state id)

def serve (state : State) (msg : Msg) (accepted : Bool) : Option State :=
  let rest := { state with net := state.net.erase msg }
  match msg with
  | .reserve target id driverId segment =>
      let reply := { rest with net := rest.net ++ [.reserved id accepted] }
      if accepted then commit reply target id (.peerReserve driverId segment) else some reply
  | .release target id =>
      let reply := { rest with net := rest.net ++ [.released id] }
      if accepted then commit reply target id .peerRelease else some reply
  | .reserved .. | .released .. => none

def deliver (deployment : Deployment) (state : State) (msg : Msg) : Option State :=
  let rest := { state with net := state.net.erase msg }
  (state.runs msg.bookingId).bind fun run =>
    match msg, run.pc with
    | .reserved id stored, .peerWait _ _ => advanceRun deployment rest id (.reserved stored)
    | .released id, .peerReleaseWait => advanceRun deployment rest id .released
    | _, _ => none

/-- The committed part of `cancel_booking`; any other outcome changes nothing. -/
def cancelBooking (state : State) (vm : Vm) (id : BookingId) (driverId : DriverId)
    (published : Bool) : Option State :=
  match (state.db vm).bookings.find? id with
  | none => none
  | some booking =>
      if booking.driverId ≠ driverId then none
      else if booking.status = .cancelled then some state
      else
        let plate := resolvePlateNumber (state.db vm) booking.plateNumber driverId
        let event := Event.bookingCancelled id driverId plate (some booking.departureTime)
        commit { state with events := state.events ++ if published then [event] else [] } vm id
          .cancel

/-! ### The reconciler -/

/-- The rows a transaction of the reconciler updates. A concurrent commit to one of them
since the snapshot makes the transaction fail. -/
def footprint (transaction : Transaction) (before after : BookingRows) : Bool :=
  match transaction with
  | .lingering schema => before.regional schema = after.regional schema
  | .dangling => before.booking = after.booking &&
      regionSchemas.all fun schema => before.regional schema = after.regional schema
  | _ => before.booking = after.booking && before.segments = after.segments &&
      regionSchemas.all fun schema => before.regional schema = after.regional schema

def conflicts (state : State) (pass : Pass) (id : BookingId) (transaction : Transaction) : Bool :=
  pass.snapshot.any fun snapshot =>
    !footprint transaction (snapshot.rowsOf id) ((state.db pass.vm).rowsOf id)

/-- One transaction of a pass. It closes the snapshot; a conflict ends the pass. -/
def passCommit (state : State) (passId : PassId) (pass : Pass) (id : BookingId)
    (transaction : Transaction) (published : List Event) (pc : PassPc) : Option State :=
  if conflicts state pass id transaction then some (setPass state passId none)
  else
    commit { setPass state passId (some { pass with snapshot := none, pc }) with
      events := state.events ++ published } pass.vm id transaction

def Pass.reads (pass : Pass) (state : State) : Database := pass.snapshot.getD (state.db pass.vm)

def passQuery (state : State) (passId : PassId) (pass : Pass) (pc : PassPc) : State :=
  setPass state passId (some { pass with snapshot := some (pass.reads state), pc })

def stepPass (state : State) (passId : PassId) (pass : Pass) (now : DateTime)
    (published : Bool) : Option State :=
  let publishing (event : Event) : List Event := if published then [event] else []
  match pass.pc with
  | .start => some (passQuery state passId pass (.orphans (selectOrphans (pass.reads state) now)))
  | .orphans (row :: rest) =>
      passCommit state passId pass row.id .orphan
        (publishing (.bookingFailed row.id row.driverId row.plateNumber)) (.orphans rest)
  | .orphans [] =>
      some (passQuery state passId pass (.dangling (selectDangling (pass.reads state) now)))
  | .dangling (row :: rest) =>
      passCommit state passId pass row.id .dangling
        (publishing (.bookingCancelled row.id row.driverId row.plateNumber none)) (.dangling rest)
  | .dangling [] => some (setPass state passId (some { pass with pc := .sweep regionSchemas }))
  | .sweep (schema :: schemas) =>
      some (passQuery state passId pass
        (.lingering schema (selectLingering (pass.reads state) schema) schemas))
  | .sweep [] => some (setPass state passId none)
  | .lingering schema (id :: rest) schemas =>
      passCommit state passId pass id (.lingering schema) [] (.lingering schema rest schemas)
  | .lingering _ [] schemas => some (setPass state passId (some { pass with pc := .sweep schemas }))

def step (deployment : Deployment) (state : State) : Action → Option State
  | .createBooking vm id request =>
      match state.runs id with
      | some _ => none
      | none => some (setRun state id (.start vm (request.draft (state.db vm))))
  | .advance id answer =>
      if answer.fromPeer then none else advanceRun deployment state id answer
  | .crash id =>
      match state.runs id with
      | none => none
      | some run =>
          if run.pc.ended then none else some (setRun state id { run with pc := .crashed })
  | .serve msg accepted => if msg ∈ state.net then serve state msg accepted else none
  | .deliver msg => if msg ∈ state.net then deliver deployment state msg else none
  | .lose msg => some { state with net := state.net.erase msg }
  | .cancelBooking vm id driverId published => cancelBooking state vm id driverId published
  | .startPass passId vm =>
      match state.passes passId with
      | some _ => none
      | none => some (setPass state passId (some ⟨vm, none, .start⟩))
  | .stepPass passId now published =>
      (state.passes passId).bind fun pass => stepPass state passId pass now published
  | .endPass passId => some (setPass state passId none)

/-! ### Small runs, for examples -/

def emptyState : State := .initial (fun _ _ _ => some 100) fun _ _ => none

def bookAsFar (id : BookingId) (answers : Nat) : List Action :=
  .createBooking .vm1 id request :: .advance id .ok ::
    .advance id (.route (.single irishSegment 45)) ::
      List.replicate answers (.advance id .ok)

end TrafficService.Cluster
