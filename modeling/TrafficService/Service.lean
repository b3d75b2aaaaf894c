import TrafficService.CreateBooking

/-!
`create_booking` and `cancel_booking` from their first statement to their answer, with nothing
in between. Only the broker and the link to the peer may be down.
-/

namespace TrafficService

abbrev Tables := Vm → Database

def Tables.set (vm : Vm) (own peer : Database) : Tables := fun place =>
  if place = vm then own else peer

structure Environment where
  brokerUp : Bool
  peerUp : Bool

def Environment.faultless : Environment := ⟨true, true⟩

def publishEvent (environment : Environment) (event : Event) : List Event :=
  if environment.brokerUp then [event] else []

/-- Inside the lock: the check, unless the segment is unknown, and both inserts. -/
def reserveLocal (db : Database) (id : BookingId) (driverId : DriverId) (segment : RouteSegment) :
    Except ServiceError Database :=
  let reserve := (reserveSegment db segment.schema (segment.reservation id driverId)).map
    fun db => db.insertSegmentReservation (segment.segmentReservation id)
  match checkCapacity db segment.schema segment.segmentId segment.slotStart with
  | .error _ => reserve
  | .ok capacity =>
      if capacity.booked ≥ capacity.max then
        .error (.capacityExceeded segment.segmentId segment.slotStart)
      else reserve

/-- `_peer_reserve` and its endpoint. Status 409 means full, any other refusal is an error. -/
def peerReserve (db : Database) (id : BookingId) (driverId : DriverId) (segment : RouteSegment) :
    Except ServiceError Database :=
  match checkCapacity db segment.schema segment.segmentId segment.slotStart with
  | .error _ => .error .peerStatus
  | .ok capacity =>
      if capacity.booked ≥ capacity.max then
        .error (.capacityExceeded segment.segmentId segment.slotStart)
      else
        match reserveSegment db segment.schema (segment.reservation id driverId) with
        | .error _ => .error .peerStatus
        | .ok db => .ok db

structure SagaProgress where
  session : Database
  peer : Database
  reserved : List RouteSegment
  peerReserved : Bool

def ServiceError.isRegionUnavailable : ServiceError → Bool
  | .regionUnavailable _ => true
  | _ => false

/-- `own` are the committed tables, `stored` says whether the booking is among them. -/
structure SagaEnd where
  own : Database
  peer : Database
  stored : Bool
  events : List Event
  result : Except ServiceError Route

structure Response where
  tables : Tables
  events : List Event
  result : Except ServiceError Unit

section

variable (deployment : Deployment) (environment : Environment) (vm : Vm) (id : BookingId)

def reserveNext (driverId : DriverId) (saga : SagaProgress) (segment : RouteSegment) :
    Except ServiceError SagaProgress :=
  let reserved := saga.reserved ++ [segment]
  if deployment.isLocal vm segment.region then
    (reserveLocal saga.session id driverId segment).map fun session =>
      { saga with session, reserved }
  else if !environment.peerUp then .error (.regionUnavailable segment.region)
  else
    (peerReserve saga.peer id driverId segment).map fun peer =>
      { saga with peer, reserved, peerReserved := true }

def reserveAll (driverId : DriverId) : List RouteSegment → SagaProgress →
    SagaProgress × Option ServiceError
  | [], saga => (saga, none)
  | segment :: rest, saga =>
      match reserveNext deployment environment vm id driverId saga segment with
      | .error error => (saga, some error)
      | .ok next => reserveAll driverId rest next

def localSegments (segments : List RouteSegment) : List RouteSegment :=
  segments.filter fun segment => deployment.isLocal vm segment.region

def remoteSegments (segments : List RouteSegment) : List RouteSegment :=
  segments.filter fun segment => !deployment.isLocal vm segment.region

def compensate (db : Database) (segments : List RouteSegment) : Database :=
  segments.foldl (fun db segment => releaseSegment db segment.schema id) db

/-- The handler of `execute_booking_saga`; `own` is what the rollback leaves. -/
def sagaFailure (draft : BookingDraft) (own : Database) (saga : SagaProgress) (stored : Bool)
    (error : ServiceError) : SagaEnd where
  own := compensate id own (localSegments deployment vm saga.reserved)
  peer :=
    if saga.peerReserved && deployment.peerConfigured vm && !error.isRegionUnavailable &&
      environment.peerUp then peerRelease saga.peer id
    else saga.peer
  stored := stored
  events := publishEvent environment (.bookingFailed id draft.driverId draft.plateNumber)
  result := .error <|
    if !environment.brokerUp then .publish
    else if error.isRegionUnavailable then error
    else .sagaRollback error

def executeBookingSaga (tables : Tables) (session : Database) (draft : BookingDraft) :
    Option Route → SagaEnd
  | none => ⟨tables vm, tables vm.peer, false, [], .error .routeNotFound⟩
  | some route =>
      match reserveAll deployment environment vm id draft.driverId route.segments
        ⟨session, tables vm.peer, [], false⟩ with
      | (saga, some error) =>
          sagaFailure deployment environment vm id draft (tables vm) saga false error
      | (saga, none) =>
          -- committed; only the publication can still fail
          if environment.brokerUp then
            { own := saga.session
              peer := saga.peer
              stored := true
              events := [.bookingConfirmed id draft.driverId draft.plateNumber
                (saga.reserved.map fun segment => (segment.segmentId, segment.region))
                draft.departureTime]
              result := .ok route }
          else sagaFailure deployment environment vm id draft saga.session saga true .publish

/-- `REJECTED` on the session's booking: an update, or an insert if it was rolled back. -/
def rejectBooking (db : Database) (draft : BookingDraft) (stored : Bool) : Database :=
  if stored then db.setBookingStatus id .rejected
  else (db.insertBooking (draft.booking id .rejected)).getD db

def createBooking (tables : Tables) (request : BookingRequest) (route : Option Route) : Response :=
  let draft := request.draft (tables vm)
  match (tables vm).insertBooking (draft.booking id .sagaInProgress) with
  | none => ⟨tables, [], .error .integrity⟩
  | some session =>
      let saga := executeBookingSaga deployment environment vm id tables session draft route
      match saga.result with
      | .ok route =>
          { tables := .set vm (saga.own.confirmBooking id (confirmedMinutes route)) saga.peer
            events := saga.events
            result := .ok () }
      | .error error =>
          { tables := .set vm (rejectBooking id saga.own draft saga.stored) saga.peer
            events := saga.events
            result := .error <|
              match error with
              | .regionUnavailable _ | .sagaRollback _ => error
              | _ => .sagaRollback error }

def cancelBooking (tables : Tables) (driverId : DriverId) : Response :=
  match (tables vm).bookings.find? id with
  | none => ⟨tables, [], .error (.bookingNotFound id)⟩
  | some booking =>
      if booking.driverId ≠ driverId then ⟨tables, [], .error .permission⟩
      else if booking.status = .cancelled then ⟨tables, [], .ok ()⟩
      else
        let plate := resolvePlateNumber (tables vm) booking.plateNumber driverId
        { tables := .set vm (cancelBookingRows (tables vm) id) (tables vm.peer)
          events := publishEvent environment
            (.bookingCancelled id driverId plate (some booking.departureTime))
          result := .ok () }

end

inductive Call
  | createBooking (vm : Vm) (id : BookingId) (request : BookingRequest) (route : Option Route)
  | cancelBooking (vm : Vm) (id : BookingId) (driverId : DriverId)

def Call.bookingId : Call → BookingId
  | .createBooking _ id _ _ | .cancelBooking _ id _ => id

def Call.perform (deployment : Deployment) (environment : Environment) (tables : Tables) :
    Call → Response
  | .createBooking vm id request route =>
      TrafficService.createBooking deployment environment vm id tables request route
  | .cancelBooking vm id driverId =>
      TrafficService.cancelBooking environment vm id tables driverId

end TrafficService
