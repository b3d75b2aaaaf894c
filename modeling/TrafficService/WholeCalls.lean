import TrafficService.Conservation
import TrafficService.Cluster

/-!
Two levels of one service: a call served with nothing in between is one of the runs the two
booking services can take, await by await.
-/

namespace TrafficService.Cluster

/-- The state while one request is served: everything but its run, the tables and the events
is as before. -/
def State.serving (state : State) (id : BookingId) (db : Tables) (run : CreateRun)
    (events : List Event) : State :=
  { state with db, runs := Function.update state.runs id (some run), events }

def committed (db : Tables) (vm : Vm) (id : BookingId) : Option Transaction → Option Tables
  | none => some db
  | some transaction => (transaction.apply id (db vm)).map fun next => Function.update db vm next

section

variable {deployment : Deployment} {state : State} {vm : Vm} {id : BookingId} {db next : Tables}
  {run : CreateRun} {answer : Answer} {outcome : Outcome} {events : List Event}
  {segment : RouteSegment} {rest : List RouteSegment}

theorem update_eq_set (vm : Vm) (own : Database) :
    Function.update db vm own = Tables.set vm own (db vm.peer) := by
  funext place
  cases vm <;> cases place <;> rfl

theorem update_eq_peer (vm : Vm) (peer : Database) :
    Function.update db vm.peer peer = Tables.set vm (db vm) peer := by
  funext place
  cases vm <;> cases place <;> rfl

theorem serving_runs : (state.serving id db run events).runs id = some run :=
  Function.update_self ..

theorem serving_moved (changed : CreateRun) :
    setRun (state.serving id db run events) id changed = state.serving id db changed events := by
  simp [setRun, State.serving]

theorem reaches_advance (own : answer.fromPeer = false)
    (moved : advance deployment id run answer = some outcome) (silent : outcome.sent = [])
    (applied : committed db outcome.run.vm id outcome.transaction = some next) :
    Lts.Reachable (step deployment) (state.serving id db run events)
      (state.serving id next outcome.run (events ++ outcome.published)) := by
  refine @Lts.Reachable.single _ _ _ _ _ (.advance id answer) ?_
  simp only [step, own, Bool.false_eq_true, if_false, advanceRun, serving_runs, Option.bind_some,
    moved, applyOutcome, serving_moved, silent]
  cases kind : outcome.transaction with
  | none =>
      rw [kind] at applied
      cases applied
      simp [State.serving]
  | some transaction =>
      rw [kind] at applied
      obtain ⟨database, written, rfl⟩ := Option.map_eq_some_iff.mp applied
      simp [commit, State.serving, written]

def afterSegments (run : CreateRun) (done : List RouteSegment) (remote : Bool) (pc : CreatePc) :
    CreateRun :=
  { run with
    reserved := run.reserved ++ done
    peerReserved := run.peerReserved || remote
    pc }

theorem reaches_local (here : deployment.isLocal run.vm segment.region = true) :
    Lts.Reachable (step deployment)
      (state.serving id db { run with pc := .reserve (segment :: rest) } events)
      (state.serving id db (afterSegments run [segment] false (.reserve rest)) events) := by
  have moved : advance deployment id { run with pc := .reserve (segment :: rest) } .ok =
      some ((afterSegments run [segment] false (.reserve rest)).goto (.reserve rest)) := by
    refine (if_pos here).trans ?_
    simp [afterSegments]
  have reached := @reaches_advance deployment state id db db _ _ _ events rfl moved rfl rfl
  simpa [afterSegments] using reached

theorem reaches_remote (quiet : state.net = [])
    (away : deployment.isLocal run.vm segment.region = false) :
    Lts.Reachable (step deployment)
      (state.serving id db { run with pc := .reserve (segment :: rest) } events)
      (state.serving id
        (Function.update db run.vm.peer ((db run.vm.peer).insertReservation segment.schema
          (segment.reservation id run.draft.driverId)))
        (afterSegments run [segment] true (.reserve rest)) events) := by
  let msg : Msg := .reserve run.vm.peer id run.draft.driverId segment
  let waiting : CreateRun := { run with pc := .peerWait segment rest }
  let sent : State := { state.serving id db waiting events with net := [msg] }
  let written : Tables := Function.update db run.vm.peer
    ((db run.vm.peer).insertReservation segment.schema (segment.reservation id run.draft.driverId))
  let replied : State := { state.serving id written waiting events with net := [.reserved id true] }
  have asks : step deployment (state.serving id db { run with pc := .reserve (segment :: rest) } events)
      (.advance id .ok) = some sent := by
    have moved : advance deployment id { run with pc := .reserve (segment :: rest) } .ok =
        some (((CreateRun.goto run (.peerWait segment rest))).sends msg) := by
      exact if_neg (by simp [away])
    simp only [step, Answer.fromPeer, Bool.false_eq_true, if_false, advanceRun, serving_runs,
      Option.bind_some, moved, applyOutcome, Outcome.sends, CreateRun.goto, serving_moved]
    simp [State.serving, sent, waiting, quiet]
  have serves : step deployment sent (.serve msg true) = some replied := by
    simp [step, serve, commit, Transaction.apply, State.serving, sent, replied, written, msg]
  have answers : step deployment replied (.deliver (.reserved id true)) =
      some (state.serving id written (afterSegments run [segment] true (.reserve rest)) events) := by
    have moved : advance deployment id waiting (.reserved true) =
        some ((afterSegments run [segment] true (.reserve rest)).goto (.reserve rest)) := by
      simp only [afterSegments, Bool.or_true]
      rfl
    simp [step, deliver, State.serving, replied, advanceRun, moved, applyOutcome, setRun, quiet,
      Msg.bookingId, afterSegments, waiting]
  exact ((Lts.Reachable.single asks).tail serves).tail answers

theorem reaches_loop (quiet : state.net = []) (done : List RouteSegment) :
    Lts.Reachable (step deployment)
      (state.serving id db { run with pc := .reserve (done ++ rest) } events)
      (state.serving id
        (Function.update db run.vm.peer (insertReservations id run.draft.driverId (db run.vm.peer)
          (remoteSegments deployment run.vm done)))
        (afterSegments run done (!(remoteSegments deployment run.vm done).isEmpty) (.reserve rest))
        events) := by
  induction done generalizing run db with
  | nil =>
      have same : afterSegments run [] false (.reserve rest) = { run with pc := .reserve rest } := by
        simp [afterSegments]
      simp only [remoteSegments, List.filter_nil, insertReservations, List.foldl_nil,
        Function.update_eq_self, List.isEmpty_nil, Bool.not_true, same]
      exact .refl _
  | cons segment done ih =>
      cases here : deployment.isLocal run.vm segment.region with
      | true =>
          have first := @reaches_local deployment state id db run events segment (done ++ rest) here
          have later := @ih db (afterSegments run [segment] false (.reserve (done ++ rest)))
          have remote : remoteSegments deployment run.vm (segment :: done) =
              remoteSegments deployment run.vm done := by simp [remoteSegments, here]
          rw [remote]
          simpa [afterSegments] using first.trans later
      | false =>
          have first := @reaches_remote deployment state id db run events segment (done ++ rest)
            quiet here
          have later := @ih (Function.update db run.vm.peer ((db run.vm.peer).insertReservation
            segment.schema (segment.reservation id run.draft.driverId)))
            (afterSegments run [segment] true (.reserve (done ++ rest)))
          have remote : remoteSegments deployment run.vm (segment :: done) =
              segment :: remoteSegments deployment run.vm done := by simp [remoteSegments, here]
          rw [remote]
          simpa [afterSegments, insertReservations] using first.trans later

theorem reaches_compensate (segments : List RouteSegment) :
    Lts.Reachable (step deployment)
      (state.serving id db { run with pc := .compensate segments } events)
      (state.serving id (Function.update db run.vm (compensate id (db run.vm) segments))
        { run with pc := .compensate [] } events) := by
  induction segments generalizing db with
  | nil =>
      rw [compensate, List.foldl_nil, Function.update_eq_self]
      exact .refl _
  | cons segment rest ih =>
      have moved : advance deployment id { run with pc := .compensate (segment :: rest) } .ok =
          some ((run.goto (.compensate rest)).commits (.release segment.schema)) := rfl
      have first := @reaches_advance deployment state id db _ _ _ _ events rfl moved rfl rfl
      simp only [Outcome.commits, CreateRun.goto, List.append_nil] at first
      have later := @ih (Function.update db run.vm (releaseSegment (db run.vm) segment.schema id))
      simpa [compensate] using first.trans later

theorem reaches_release (quiet : state.net = []) :
    Lts.Reachable (step deployment)
      (state.serving id db { run with pc := .compensate [] } events)
      (state.serving id
        (if run.releasesPeer deployment then
          Function.update db run.vm.peer (TrafficService.peerRelease (db run.vm.peer) id) else db)
        { run with pc := .publishFailed } events) := by
  cases asks : run.releasesPeer deployment with
  | false =>
      have moved : advance deployment id { run with pc := .compensate [] } .ok =
          some (run.goto .publishFailed) := by
        have same : CreateRun.releasesPeer { run with pc := .compensate [] } deployment = false := asks
        unfold advance
        simp only [same]
        rfl
      have reached := @reaches_advance deployment state id db _ _ _ _ events rfl moved rfl rfl
      simpa using reached
  | true =>
      let waiting : CreateRun := { run with pc := .peerReleaseWait }
      let sent : State := { state.serving id db waiting events with net := [.release run.vm.peer id] }
      let released : Tables :=
        Function.update db run.vm.peer (TrafficService.peerRelease (db run.vm.peer) id)
      let replied : State := { state.serving id released waiting events with net := [.released id] }
      have sends : step deployment (state.serving id db { run with pc := .compensate [] } events)
          (.advance id .ok) = some sent := by
        have moved : advance deployment id { run with pc := .compensate [] } .ok =
            some ((run.goto .peerReleaseWait).sends (.release run.vm.peer id)) := by
          have same : CreateRun.releasesPeer { run with pc := .compensate [] } deployment = true := asks
          unfold advance
          simp only [same]
          rfl
        simp only [step, Answer.fromPeer, Bool.false_eq_true, if_false, advanceRun, serving_runs,
          Option.bind_some, moved, applyOutcome, Outcome.sends, CreateRun.goto, serving_moved]
        simp [State.serving, sent, waiting, quiet]
      have serves : step deployment sent (.serve (.release run.vm.peer id) true) = some replied := by
        simp [step, serve, commit, Transaction.apply, State.serving, sent, replied, released]
      have answers : step deployment replied (.deliver (.released id)) =
          some (state.serving id released { run with pc := .publishFailed } events) := by
        have moved : advance deployment id waiting .released = some (run.goto .publishFailed) := rfl
        simp [step, deliver, State.serving, replied, advanceRun, moved, applyOutcome, setRun, quiet,
          Msg.bookingId, waiting]
      have reached := ((Lts.Reachable.single sends).tail serves).tail answers
      simpa using reached

theorem reaches_rejected
    (absent : run.persistent = false → ((db run.vm).rowsOf id).booking = none) :
    Lts.Reachable (step deployment) (state.serving id db { run with pc := .reject } events)
      (state.serving id
        (Function.update db run.vm (rejectBooking id (db run.vm) run.draft run.persistent))
        { run with pc := .raised } events) := by
  have moved : advance deployment id { run with pc := .reject } .ok =
      some ((run.goto .raised).commits run.rejection) := rfl
  have applied : run.rejection.apply id (db run.vm) =
      some (rejectBooking id (db run.vm) run.draft run.persistent) := by
    cases stored : run.persistent with
    | true => simp [CreateRun.rejection, stored, Transaction.apply, rejectBooking]
    | false =>
        simp only [CreateRun.rejection, stored, Transaction.apply, rejectBooking,
          Bool.false_eq_true, if_false]
        cases inserted : (db run.vm).insertBooking (run.draft.booking id .rejected) with
        | none => exact absurd (absent stored) (Database.insertBooking_eq_none.mp inserted)
        | some next => rfl
  have written : committed db run.vm id (some run.rejection) = some (Function.update db run.vm
      (rejectBooking id (db run.vm) run.draft run.persistent)) := by rw [committed, applied]; rfl
  have reached := @reaches_advance deployment state id db _ _ _ _ events rfl moved rfl written
  simpa using reached

theorem reaches_failure (environment : Environment) (quiet : state.net = [])
    (absent : run.persistent = false → ((db run.vm).rowsOf id).booking = none) :
    Lts.Reachable (step deployment) (state.serving id db { run with pc := .rollback } events)
      (state.serving id
        (.set run.vm
          (rejectBooking id (compensate id (db run.vm) (run.localReserved deployment)) run.draft
            run.persistent)
          (if run.releasesPeer deployment then TrafficService.peerRelease (db run.vm.peer) id
            else db run.vm.peer))
        { run with pc := .raised } (events ++ publishEvent environment (run.failedEvent id))) := by
  have rolledBack := @reaches_advance deployment state id db db { run with pc := .rollback } .ok
    (run.goto (.compensate (run.localReserved deployment))) events rfl rfl rfl rfl
  simp only [CreateRun.goto, List.append_nil] at rolledBack
  have compensated := @reaches_compensate deployment state id db run events
    (run.localReserved deployment)
  let freed : Tables :=
    Function.update db run.vm (compensate id (db run.vm) (run.localReserved deployment))
  have released := @reaches_release deployment state id freed run events quiet
  let left : Tables := if run.releasesPeer deployment then
    Function.update freed run.vm.peer (TrafficService.peerRelease (freed run.vm.peer) id) else freed
  have announced : Lts.Reachable (step deployment)
      (state.serving id left { run with pc := .publishFailed } events)
      (state.serving id left { run with pc := .reject }
        (events ++ publishEvent environment (run.failedEvent id))) := by
    cases up : environment.brokerUp with
    | true =>
        have moved : advance deployment id { run with pc := .publishFailed } .ok =
            some ((run.goto .reject).publishes (run.failedEvent id)) := rfl
        have reached := @reaches_advance deployment state id left _ _ _ _ events rfl moved rfl rfl
        simpa [publishEvent, up] using reached
    | false =>
        have moved : advance deployment id { run with pc := .publishFailed } .raise =
            some (run.goto .reject) := rfl
        have reached := @reaches_advance deployment state id left _ _ _ _ events rfl moved rfl rfl
        simpa [publishEvent, up] using reached
  have own : left run.vm = compensate id (db run.vm) (run.localReserved deployment) := by
    cases asks : run.releasesPeer deployment <;> simp [left, freed, asks, (Vm.peer_ne run.vm).symm]
  have peer : left run.vm.peer = if run.releasesPeer deployment then
      TrafficService.peerRelease (db run.vm.peer) id else db run.vm.peer := by
    cases asks : run.releasesPeer deployment <;> simp [left, freed, asks, Vm.peer_ne run.vm]
  have still : run.persistent = false → ((left run.vm).rowsOf id).booking = none := by
    intro unstored
    rw [own, booking_compensate, absent unstored]
  have rejected := @reaches_rejected deployment state id left run
    (events ++ publishEvent environment (run.failedEvent id)) still
  rw [update_eq_set, own, peer] at rejected
  exact (((rolledBack.trans compensated).trans released).trans announced).trans rejected

/-! ### From the first statement -/

theorem reaches_begun (new : state.runs id = none) (request : BookingRequest) :
    Lts.Reachable (step deployment) state
      (state.serving id state.db (.start vm (request.draft (state.db vm))) state.events) :=
  Lts.Reachable.single (show step deployment state (.createBooking vm id request) = _ by
    simp [step, new, setRun, State.serving])

theorem reaches_flushed (request : BookingRequest) :
    Lts.Reachable (step deployment)
      (state.serving id state.db (.start vm (request.draft (state.db vm))) state.events)
      (state.serving id state.db { CreateRun.start vm (request.draft (state.db vm)) with
        pc := .resolve } state.events) := by
  have flushed := @reaches_advance deployment state id state.db state.db
    (.start vm (request.draft (state.db vm))) .ok _ state.events rfl rfl rfl rfl
  simpa only [CreateRun.goto, List.append_nil] using flushed

def routed (vm : Vm) (draft : BookingDraft) (route : Route) (pc : CreatePc) : CreateRun :=
  { CreateRun.start vm draft with route := some route, pc }

theorem reaches_reserved (quiet : state.net = []) (request : BookingRequest) (route : Route)
    {done : List RouteSegment} (split : route.segments = done ++ rest) :
    Lts.Reachable (step deployment)
      (state.serving id state.db (.start vm (request.draft (state.db vm))) state.events)
      (state.serving id
        (.set vm (state.db vm) (insertReservations id request.driverId (state.db vm.peer)
          (remoteSegments deployment vm done)))
        (afterSegments (routed vm (request.draft (state.db vm)) route .flush) done
          (!(remoteSegments deployment vm done).isEmpty) (.reserve rest)) state.events) := by
  have resolved := @reaches_advance deployment state id state.db state.db
    { CreateRun.start vm (request.draft (state.db vm)) with pc := .resolve } (.route route)
    ((routed vm (request.draft (state.db vm)) route .flush).goto (.reserve route.segments))
    state.events rfl rfl rfl rfl
  have looped := @reaches_loop deployment state id state.db
    (routed vm (request.draft (state.db vm)) route .flush) state.events rest quiet done
  rw [← split] at looped
  simp only [CreateRun.goto, List.append_nil] at resolved
  rw [update_eq_peer] at looped
  exact ((reaches_flushed request).trans resolved).trans looped

theorem reaches_stopped : Lts.Reachable (step deployment)
    (state.serving id db { run with pc := .reserve rest } events)
    (state.serving id db { run with pc := .rollback } events) := by
  have raised : advance deployment id { run with pc := .reserve rest } .raise =
      some (run.goto .rollback) := by
    cases rest with
    | nil => rfl
    | cons segment rest =>
        cases here : deployment.isLocal run.vm segment.region with
        | true => exact if_pos here
        | false => exact if_neg (by simp [here])
  have stopped := @reaches_advance deployment state id db db _ _ _ events rfl raised rfl rfl
  rwa [CreateRun.goto, List.append_nil] at stopped

theorem released_peer (done : List RouteSegment) (driverId : DriverId)
    (reserved : run.peerReserved = !(remoteSegments deployment run.vm done).isEmpty)
    (connected : run.regionUnavailable = false) :
    (if run.releasesPeer deployment then
      TrafficService.peerRelease (insertReservations id driverId (db run.vm.peer)
        (remoteSegments deployment run.vm done)) id
      else insertReservations id driverId (db run.vm.peer) (remoteSegments deployment run.vm done)) =
      peerAfterFailure deployment run.vm id db driverId done := by
  simp only [CreateRun.releasesPeer, reserved, connected, peerAfterFailure]
  cases remote : remoteSegments deployment run.vm done with
  | nil => simp [insertReservations]
  | cons segment others =>
      simp [peerConfigured_of_remote remote]

/-- A request given up after these segments, with what it holds on either VM. -/
theorem reaches_givenUp (environment : Environment) (quiet : state.net = []) {own : Database}
    {done : List RouteSegment} (all : run.reserved = done)
    (reserved : run.peerReserved = !(remoteSegments deployment run.vm done).isEmpty)
    (connected : run.regionUnavailable = false)
    (absent : run.persistent = false → (own.rowsOf id).booking = none) :
    Lts.Reachable (step deployment)
      (state.serving id (.set run.vm own (insertReservations id run.draft.driverId (db run.vm.peer)
        (remoteSegments deployment run.vm done))) { run with pc := .rollback } events)
      (state.serving id
        (.set run.vm
          (rejectBooking id (compensate id own (localSegments deployment run.vm done)) run.draft
            run.persistent)
          (peerAfterFailure deployment run.vm id db run.draft.driverId done))
        { run with pc := .raised } (events ++ publishEvent environment (run.failedEvent id))) := by
  let held : Tables := .set run.vm own (insertReservations id run.draft.driverId (db run.vm.peer)
    (remoteSegments deployment run.vm done))
  have heldOwn : held run.vm = own := Tables.set_own ..
  have heldPeer : held run.vm.peer = insertReservations id run.draft.driverId (db run.vm.peer)
    (remoteSegments deployment run.vm done) := Tables.set_peer ..
  have failed := @reaches_failure deployment state id held run events environment quiet
    (by rwa [heldOwn])
  have segments : run.localReserved deployment = localSegments deployment run.vm done := by
    rw [← all]
    rfl
  rw [heldOwn, heldPeer, segments, released_peer done run.draft.driverId reserved connected] at failed
  exact failed

theorem reaches_stored (quiet : state.net = []) (request : BookingRequest) (route : Route)
    {session : Database} (inserted : (state.db vm).insertBooking
      ((request.draft (state.db vm)).booking id .sagaInProgress) = some session) :
    Lts.Reachable (step deployment)
      (state.serving id state.db (.start vm (request.draft (state.db vm))) state.events)
      (state.serving id
        (.set vm (storeSegments session id request.driverId
            (localSegments deployment vm route.segments))
          (insertReservations id request.driverId (state.db vm.peer)
            (remoteSegments deployment vm route.segments)))
        { afterSegments (routed vm (request.draft (state.db vm)) route .flush) route.segments
          (!(remoteSegments deployment vm route.segments).isEmpty) .publishConfirmed with
            persistent := true } state.events) := by
  let run := afterSegments (routed vm (request.draft (state.db vm)) route .flush) route.segments
    (!(remoteSegments deployment vm route.segments).isEmpty) (.reserve [])
  let held : Tables := .set vm (state.db vm) (insertReservations id request.driverId
    (state.db vm.peer) (remoteSegments deployment vm route.segments))
  have reserved := @reaches_reserved deployment state vm id [] quiet request route
    route.segments (List.append_nil _).symm
  have written : committed held vm id (some (run.store deployment)) = some (.set vm
      (storeSegments session id request.driverId (localSegments deployment vm route.segments))
      (insertReservations id request.driverId (state.db vm.peer)
        (remoteSegments deployment vm route.segments))) := by
    have own : held vm = state.db vm := Tables.set_own ..
    have peer : held vm.peer = _ := Tables.set_peer ..
    have applied : (run.store deployment).apply id (held vm) = some (storeSegments session id
        request.driverId (localSegments deployment vm route.segments)) := by
      rw [own]
      exact congrArg (Option.map _) inserted
    rw [committed, applied, Option.map_some, update_eq_set, peer]
  have moved : advance deployment id run .ok =
      some (({ run with persistent := true }.goto .publishConfirmed).commits
        (run.store deployment)) := rfl
  have stored := @reaches_advance deployment state id held _ run .ok _ state.events rfl moved rfl written
  simp only [Outcome.commits, CreateRun.goto, List.append_nil] at stored
  exact reserved.trans stored

/-- Through the saga's commit, the publication and the last commit, to the answer. -/
theorem reaches_returned (quiet : state.net = []) (request : BookingRequest) (route : Route)
    {session : Database} (inserted : (state.db vm).insertBooking
      ((request.draft (state.db vm)).booking id .sagaInProgress) = some session) :
    Lts.Reachable (step deployment)
      (state.serving id state.db (.start vm (request.draft (state.db vm))) state.events)
      (state.serving id
        (.set vm ((storeSegments session id request.driverId
            (localSegments deployment vm route.segments)).confirmBooking id (confirmedMinutes route))
          (insertReservations id request.driverId (state.db vm.peer)
            (remoteSegments deployment vm route.segments)))
        { afterSegments (routed vm (request.draft (state.db vm)) route .flush) route.segments
          (!(remoteSegments deployment vm route.segments).isEmpty) .returned with persistent := true }
        (state.events ++ [.bookingConfirmed id request.driverId (request.draft (state.db vm)).plateNumber
          (route.segments.map fun segment => (segment.segmentId, segment.region))
          request.departureTime])) := by
  let run : CreateRun := { afterSegments (routed vm (request.draft (state.db vm)) route .flush)
    route.segments (!(remoteSegments deployment vm route.segments).isEmpty) .returned with
      persistent := true }
  let held : Tables := .set vm (storeSegments session id request.driverId
      (localSegments deployment vm route.segments))
    (insertReservations id request.driverId (state.db vm.peer)
      (remoteSegments deployment vm route.segments))
  let final : Tables := .set vm
    ((storeSegments session id request.driverId
      (localSegments deployment vm route.segments)).confirmBooking id (confirmedMinutes route))
    (insertReservations id request.driverId (state.db vm.peer)
      (remoteSegments deployment vm route.segments))
  let events := state.events ++ [run.confirmedEvent id]
  have stored := @reaches_stored deployment state vm id quiet request route session inserted
  have published := @reaches_advance deployment state id held held
    { run with pc := .publishConfirmed } .ok
    ((run.goto .finalCommit).publishes (run.confirmedEvent id)) state.events rfl rfl rfl rfl
  have own : held vm = storeSegments session id request.driverId
      (localSegments deployment vm route.segments) := Tables.set_own ..
  have peer : held vm.peer = insertReservations id request.driverId (state.db vm.peer)
      (remoteSegments deployment vm route.segments) := Tables.set_peer ..
  have written : committed held vm id (some (.confirm run.minutes)) = some final := by
    simp only [final, ← own, ← peer, ← update_eq_set]
    rfl
  have confirmed := @reaches_advance deployment state id held final
    { run with pc := .finalCommit } .ok
    ((run.goto .refresh).commits (.confirm run.minutes)) events rfl rfl rfl written
  have refreshed := @reaches_advance deployment state id final final
    { run with pc := .refresh } .ok (run.goto .returned) events rfl rfl rfl rfl
  simp only [CreateRun.goto, Outcome.commits, Outcome.publishes, List.append_nil]
    at published confirmed refreshed
  exact ((stored.trans published).trans confirmed).trans refreshed

theorem createBooking_runs (environment : Environment) (quiet : state.net = [])
    (new : state.runs id = none) (request : BookingRequest) (route : Option Route) :
    ∃ run : CreateRun, run.pc.ended = true ∧
      Lts.Reachable (step deployment) state
        (state.serving id
          (createBooking deployment environment vm id state.db request route).tables run
          (state.events ++
            (createBooking deployment environment vm id state.db request route).events)) := by
  have ended := @creation deployment environment vm id state.db request route
  generalize createBooking deployment environment vm id state.db request route = response at ended ⊢
  let draft := request.draft (state.db vm)
  have begun := @reaches_begun deployment state vm id new request
  cases ended with
  | unflushed route present =>
      have raised := @reaches_advance deployment state id state.db state.db (.start vm draft) .raise
        ((CreateRun.start vm draft).goto .raised) state.events rfl rfl rfl rfl
      exact ⟨_, rfl, begun.trans raised⟩
  | unresolved absent error =>
      have unresolved := @reaches_advance deployment state id state.db state.db
        { CreateRun.start vm draft with pc := .resolve } .raise
        ((CreateRun.start vm draft).goto .reject) state.events rfl rfl rfl rfl
      have rejected := @reaches_rejected deployment state id state.db (.start vm draft) state.events
        fun _ => absent
      simp only [CreateRun.goto, List.append_nil] at unresolved
      rw [update_eq_set] at rejected
      refine ⟨{ CreateRun.start vm draft with pc := .raised }, rfl, ?_⟩
      rw [List.append_nil]
      exact begun.trans (((reaches_flushed request).trans unresolved).trans rejected)
  | refused route done error absent full started =>
      obtain ⟨rest, joined⟩ := started
      let run := afterSegments (routed vm draft route .flush) done
        (!(remoteSegments deployment vm done).isEmpty) .rollback
      have reserved := @reaches_reserved deployment state vm id rest quiet request route done
        joined.symm
      have stopped := @reaches_stopped deployment state id (.set vm (state.db vm)
        (insertReservations id request.driverId (state.db vm.peer)
          (remoteSegments deployment vm done))) run state.events rest
      have failed := @reaches_givenUp deployment state id state.db run state.events environment quiet
        (state.db vm) done rfl rfl rfl fun _ => absent
      exact ⟨{ run with pc := .raised }, rfl, begun.trans ((reserved.trans stopped).trans failed)⟩
  | unpublished route session error inserted admitted down =>
      let run : CreateRun := { afterSegments (routed vm draft route .flush) route.segments
        (!(remoteSegments deployment vm route.segments).isEmpty) .rollback with persistent := true }
      have stored := @reaches_stored deployment state vm id quiet request route session inserted
      have unpublished := @reaches_advance deployment state id (.set vm (storeSegments session id
          request.driverId (localSegments deployment vm route.segments))
        (insertReservations id request.driverId (state.db vm.peer)
          (remoteSegments deployment vm route.segments))) _
        { run with pc := .publishConfirmed } .raise (run.goto .rollback) state.events rfl rfl rfl rfl
      simp only [CreateRun.goto, List.append_nil] at unpublished
      have failed := @reaches_givenUp deployment state id state.db run state.events environment quiet
        (storeSegments session id request.driverId (localSegments deployment vm route.segments))
        route.segments rfl rfl rfl nofun
      rw [publishEvent, down, if_neg Bool.false_ne_true] at failed
      exact ⟨{ run with pc := .raised }, rfl, begun.trans ((stored.trans unpublished).trans failed)⟩
  | confirmed route session inserted admitted up =>
      exact ⟨_, rfl, begun.trans (reaches_returned quiet request route inserted)⟩

theorem cancelBooking_runs (environment : Environment) (driverId : DriverId) :
    Lts.Reachable (step deployment) state
      { state with
        db := (TrafficService.cancelBooking environment vm id state.db driverId).tables
        events := state.events ++
          (TrafficService.cancelBooking environment vm id state.db driverId).events } := by
  have unchanged : Lts.Reachable (step deployment) state
      { state with events := state.events ++ [] } := by
    rw [List.append_nil]
    exact .refl state
  cases found : (state.db vm).bookings.find? id with
  | none => simpa only [TrafficService.cancelBooking, found] using unchanged
  | some booking =>
      by_cases foreign : booking.driverId = driverId
      · by_cases already : booking.status = .cancelled
        · simpa only [TrafficService.cancelBooking, found, foreign, already, ne_eq, not_true_eq_false,
            if_false, if_true] using unchanged
        · refine @Lts.Reachable.single _ _ _ _ _ (.cancelBooking vm id driverId environment.brokerUp) ?_
          simp only [step, cancelBooking, TrafficService.cancelBooking, found, foreign, already, ne_eq,
            not_true_eq_false, if_false, commit, Transaction.apply, Option.map_some, publishEvent,
            update_eq_set]
      · simpa only [TrafficService.cancelBooking, found, foreign, ne_eq, not_false_eq_true, if_true]
          using unchanged

/-- A call served alone is a run. Only the run of a booking it creates is new. -/
theorem perform_runs (environment : Environment) (quiet : state.net = []) (call : Call)
    (new : ∀ id ∈ createdIds [call], state.runs id = none) :
    ∃ next, Lts.Reachable (step deployment) state next ∧
      next.db = (call.perform deployment environment state.db).tables ∧
      next.events = state.events ++ (call.perform deployment environment state.db).events ∧
      next.net = [] ∧ ∀ id, id ∉ createdIds [call] → next.runs id = state.runs id := by
  cases call with
  | createBooking vm id request route =>
      obtain ⟨run, ended, reached⟩ := @createBooking_runs deployment state vm id environment quiet
        (new id (List.mem_singleton_self id)) request route
      refine ⟨_, reached, rfl, rfl, quiet, ?_⟩
      intro other apart
      exact Function.update_of_ne (fun same => apart (by simp [createdIds, same])) ..
  | cancelBooking vm id driverId =>
      exact ⟨_, cancelBooking_runs environment driverId, rfl, rfl, quiet, fun _ _ => rfl⟩

/-- A history of calls, each served before the next one comes in, is a run of the services. -/
theorem performCalls_runs (owner : Region → Vm) (quiet : state.net = []) (calls : List Call)
    (distinct : (createdIds calls).Nodup) (new : ∀ id ∈ createdIds calls, state.runs id = none) :
    ∃ next, Lts.Reachable (step (.assigned owner)) state next ∧
      next.db = performCalls owner state.db calls := by
  induction calls generalizing state with
  | nil => exact ⟨state, .refl state, rfl⟩
  | cons call calls ih =>
      have parts : createdIds (call :: calls) = createdIds [call] ++ createdIds calls :=
        List.filterMap_append (l := [call])
      rw [parts] at distinct new
      have apart := (List.nodup_append.mp distinct).2.2
      obtain ⟨middle, served, tables, -, still, runs⟩ := @perform_runs (.assigned owner) state
        .faultless quiet call fun id member => new id (List.mem_append_left _ member)
      obtain ⟨final, later, rest⟩ := ih still (List.nodup_append.mp distinct).2.1 fun id member => by
        rw [runs id fun own => apart id own id member rfl]
        exact new id (List.mem_append_right _ member)
      refine ⟨final, served.trans later, ?_⟩
      rw [rest, tables]
      rfl

end

end TrafficService.Cluster
