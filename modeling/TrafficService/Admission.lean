import TrafficService.Service
import TrafficService.Reconciler

/-!
When the reservation loop gets through, what it has written when it ends, and what a whole
call leaves of the rows of each booking.
-/

namespace TrafficService

def hasRoom (db : Database) (segment : RouteSegment) : Bool :=
  (db.maxCapacityPerSlot segment.schema segment.segmentId).any fun max =>
    bookedCount db segment.schema segment.segmentId segment.slotStart < max

section

variable {db : Database} {id : BookingId} {driverId : DriverId} {segment other : RouteSegment}

theorem reserveLocal_ok (room : hasRoom db segment = true) :
    reserveLocal db id driverId segment = .ok (storeSegment db id driverId segment) := by
  obtain ⟨max, known, free⟩ := (Option.any_eq_true _ _).mp room
  have below : ¬ max ≤ bookedCount db segment.schema segment.segmentId segment.slotStart := by
    simpa using free
  have target : (segment.reservation id driverId).segmentId = segment.segmentId := rfl
  rw [reserveLocal, checkCapacity_eq segment.aligned known]
  simp only [ge_iff_le, below, if_false, reserveSegment, target, known]
  rfl

theorem reserveLocal_error (full : hasRoom db segment = false) :
    ∃ error, reserveLocal db id driverId segment = .error error ∧
      error.isRegionUnavailable = false := by
  have target : (segment.reservation id driverId).segmentId = segment.segmentId := rfl
  cases known : db.maxCapacityPerSlot segment.schema segment.segmentId with
  | none =>
      refine ⟨.integrity, ?_, rfl⟩
      simp [reserveLocal, checkCapacity, reserveSegment, target, known, Except.map]
  | some max =>
      refine ⟨.capacityExceeded segment.segmentId segment.slotStart, ?_, rfl⟩
      have reached : max ≤ bookedCount db segment.schema segment.segmentId segment.slotStart := by
        simpa [hasRoom, known] using full
      rw [reserveLocal, checkCapacity_eq segment.aligned known]
      simp [reached]

theorem peerReserve_ok (room : hasRoom db segment = true) :
    peerReserve db id driverId segment =
      .ok (db.insertReservation segment.schema (segment.reservation id driverId)) := by
  obtain ⟨max, known, free⟩ := (Option.any_eq_true _ _).mp room
  have below : ¬ max ≤ bookedCount db segment.schema segment.segmentId segment.slotStart := by
    simpa using free
  have target : (segment.reservation id driverId).segmentId = segment.segmentId := rfl
  rw [peerReserve, checkCapacity_eq segment.aligned known]
  simp only [ge_iff_le, below, if_false, reserveSegment, target, known]

theorem peerReserve_error (full : hasRoom db segment = false) :
    ∃ error, peerReserve db id driverId segment = .error error ∧
      error.isRegionUnavailable = false := by
  cases known : db.maxCapacityPerSlot segment.schema segment.segmentId with
  | none =>
      refine ⟨.peerStatus, ?_, rfl⟩
      simp [peerReserve, checkCapacity, known]
  | some max =>
      refine ⟨.capacityExceeded segment.segmentId segment.slotStart, ?_, rfl⟩
      have reached : max ≤ bookedCount db segment.schema segment.segmentId segment.slotStart := by
        simpa [hasRoom, known] using full
      rw [peerReserve, checkCapacity_eq segment.aligned known]
      simp [reached]

theorem hasRoom_insertReservation
    (distinct : (segment.region, segment.segmentId) ≠ (other.region, other.segmentId)) :
    hasRoom (db.insertReservation segment.schema (segment.reservation id driverId)) other =
      hasRoom db other := by
  have elsewhere : segment.occupies other.schema other.segmentId other.slotStart = false := by
    by_contra occupied
    simp only [RouteSegment.occupies, Bool.not_eq_false, Bool.and_eq_true, decide_eq_true_eq]
      at occupied
    obtain ⟨⟨schema, segmentId⟩, _⟩ := occupied
    exact distinct (Prod.ext (regionSchemaMap_injective schema) segmentId)
  simp only [hasRoom]
  rw [bookedCount_insert_segment, elsewhere]
  rfl

theorem hasRoom_storeSegment
    (distinct : (segment.region, segment.segmentId) ≠ (other.region, other.segmentId)) :
    hasRoom (storeSegment db id driverId segment) other = hasRoom db other :=
  hasRoom_insertReservation distinct

end

/-! ### The loop -/

section

variable (deployment : Deployment) (environment : Environment) (vm : Vm) (id : BookingId)
  (driverId : DriverId)

def SagaProgress.admits (saga : SagaProgress) (segment : RouteSegment) : Bool :=
  if deployment.isLocal vm segment.region then hasRoom saga.session segment
  else environment.peerUp && hasRoom saga.peer segment

def SagaProgress.add (saga : SagaProgress) (segment : RouteSegment) : SagaProgress :=
  let reserved := saga.reserved ++ [segment]
  if deployment.isLocal vm segment.region then
    { saga with session := storeSegment saga.session id driverId segment, reserved }
  else
    { saga with
      peer := saga.peer.insertReservation segment.schema (segment.reservation id driverId)
      reserved
      peerReserved := true }

def SagaProgress.addAll (saga : SagaProgress) (segments : List RouteSegment) : SagaProgress :=
  segments.foldl (SagaProgress.add deployment vm id driverId) saga

def insertReservations (db : Database) (segments : List RouteSegment) : Database :=
  segments.foldl (fun db segment =>
    db.insertReservation segment.schema (segment.reservation id driverId)) db

end

section

variable {deployment : Deployment} {environment : Environment} {vm : Vm} {id : BookingId}
  {driverId : DriverId} {saga : SagaProgress} {segment other : RouteSegment}

theorem reserveNext_ok (admitted : saga.admits deployment environment vm segment = true) :
    reserveNext deployment environment vm id driverId saga segment =
      .ok (saga.add deployment vm id driverId segment) := by
  simp only [SagaProgress.admits] at admitted
  split at admitted
  · rename_i here
    simp [reserveNext, SagaProgress.add, here, reserveLocal_ok admitted, Except.map]
  · rename_i away
    simp only [Bool.and_eq_true] at admitted
    simp [reserveNext, SagaProgress.add, away, admitted.1, peerReserve_ok admitted.2, Except.map]

theorem reserveNext_error (refused : saga.admits deployment environment vm segment = false) :
    ∃ error, reserveNext deployment environment vm id driverId saga segment = .error error ∧
      (error.isRegionUnavailable = true → environment.peerUp = false) := by
  simp only [SagaProgress.admits] at refused
  split at refused
  · rename_i here
    obtain ⟨error, raised, other⟩ := @reserveLocal_error saga.session id driverId segment refused
    exact ⟨error, by simp [reserveNext, here, raised, Except.map], by simp [other]⟩
  · rename_i away
    cases up : environment.peerUp with
    | false => exact ⟨.regionUnavailable segment.region, by simp [reserveNext, away, up], fun _ => rfl⟩
    | true =>
        rw [up, Bool.true_and] at refused
        obtain ⟨error, raised, other⟩ := @peerReserve_error saga.peer id driverId segment refused
        exact ⟨error, by simp [reserveNext, away, up, raised, Except.map], by simp [other]⟩

theorem admits_add
    (distinct : (segment.region, segment.segmentId) ≠ (other.region, other.segmentId)) :
    (saga.add deployment vm id driverId segment).admits deployment environment vm other =
      saga.admits deployment environment vm other := by
  by_cases here : deployment.isLocal vm segment.region = true
  · simp only [SagaProgress.add, here, if_true, SagaProgress.admits]
    rw [hasRoom_storeSegment distinct]
  · simp only [SagaProgress.add, here, if_false, SagaProgress.admits, Bool.false_eq_true]
    rw [hasRoom_insertReservation distinct]

/-- The loop adds segments up to the first that is refused. -/
theorem reserveAll_spec (segments : List RouteSegment) (saga : SagaProgress) :
    ∃ done rest, segments = done ++ rest ∧
      (reserveAll deployment environment vm id driverId segments saga).1 =
        saga.addAll deployment vm id driverId done ∧
      ((reserveAll deployment environment vm id driverId segments saga).2 = none → rest = []) ∧
      (remoteSegments deployment vm done ≠ [] → environment.peerUp = true) ∧
      ∀ error, (reserveAll deployment environment vm id driverId segments saga).2 = some error →
        error.isRegionUnavailable = true → environment.peerUp = false := by
  induction segments generalizing saga with
  | nil => exact ⟨[], [], rfl, rfl, fun _ => rfl, by simp [remoteSegments], fun _ failed => nomatch failed⟩
  | cons segment rest ih =>
      cases admitted : saga.admits deployment environment vm segment with
      | false =>
          obtain ⟨error, raised, unavailable⟩ :=
            @reserveNext_error deployment environment vm id driverId saga segment admitted
          refine ⟨[], segment :: rest, rfl, ?_, ?_, by simp [remoteSegments], ?_⟩
          · simp [reserveAll, raised, SagaProgress.addAll]
          · simp [reserveAll, raised]
          · rintro other failed
            simp only [reserveAll, raised, Option.some.injEq] at failed
            exact failed ▸ unavailable
      | true =>
          have next := @reserveNext_ok deployment environment vm id driverId saga segment admitted
          obtain ⟨done, left, same, progress, finished, reached, unavailable⟩ :=
            ih (saga.add deployment vm id driverId segment)
          refine ⟨segment :: done, left, by rw [same]; rfl, ?_, ?_, ?_, ?_⟩
          · rw [reserveAll, next]
            exact progress
          · rw [reserveAll, next]
            exact finished
          · intro remote
            by_cases here : deployment.isLocal vm segment.region = true
            · exact reached (by simpa [remoteSegments, here] using remote)
            · simp only [SagaProgress.admits, here, Bool.false_eq_true, if_false,
                Bool.and_eq_true] at admitted
              exact admitted.1
          · rw [reserveAll, next]
            exact unavailable

/-- It gets through if and only if every segment has room beforehand: the segments of a
route do not compete with each other. -/
theorem reserveAll_none_iff {segments : List RouteSegment}
    (distinct : (segments.map fun segment => (segment.region, segment.segmentId)).Nodup) :
    (reserveAll deployment environment vm id driverId segments saga).2 = none ↔
      ∀ segment ∈ segments, saga.admits deployment environment vm segment = true := by
  induction segments generalizing saga with
  | nil => simp [reserveAll]
  | cons segment rest ih =>
      rw [List.map_cons, List.nodup_cons] at distinct
      have apart : ∀ other ∈ rest,
          (segment.region, segment.segmentId) ≠ (other.region, other.segmentId) := by
        intro other member same
        exact distinct.1 (List.mem_map.mpr ⟨other, member, same.symm⟩)
      cases admitted : saga.admits deployment environment vm segment with
      | false =>
          obtain ⟨error, raised, _⟩ :=
            @reserveNext_error deployment environment vm id driverId saga segment admitted
          simp [reserveAll, raised, admitted]
      | true =>
          rw [reserveAll, reserveNext_ok admitted]
          simp only [ih distinct.2, List.forall_mem_cons, admitted, true_and]
          refine forall₂_congr ?_
          intro other member
          rw [admits_add (apart other member)]

theorem addAll_eq (segments : List RouteSegment) (saga : SagaProgress) :
    saga.addAll deployment vm id driverId segments =
      { session := storeSegments saga.session id driverId (localSegments deployment vm segments)
        peer := insertReservations id driverId saga.peer (remoteSegments deployment vm segments)
        reserved := saga.reserved ++ segments
        peerReserved := saga.peerReserved || !(remoteSegments deployment vm segments).isEmpty } := by
  induction segments generalizing saga with
  | nil =>
      simp [SagaProgress.addAll, localSegments, remoteSegments, storeSegments, insertReservations]
  | cons segment rest ih =>
      rw [SagaProgress.addAll, List.foldl_cons, ← SagaProgress.addAll, ih]
      by_cases here : deployment.isLocal vm segment.region = true
      · simp [SagaProgress.add, here, localSegments, remoteSegments, storeSegments]
      · simp [SagaProgress.add, here, localSegments, remoteSegments, insertReservations]

end

/-! ### Whole calls -/

section

variable (deployment : Deployment) (environment : Environment) (vm : Vm) (id : BookingId)
  (tables : Tables)

def admissible (route : Route) : Bool :=
  route.segments.all fun segment =>
    if deployment.isLocal vm segment.region then hasRoom (tables vm) segment
    else environment.peerUp && hasRoom (tables vm.peer) segment

/-- The peer's tables once the saga has given up after these segments. -/
def peerAfterFailure (driverId : DriverId) (done : List RouteSegment) : Database :=
  let remote := remoteSegments deployment vm done
  if remote.isEmpty then tables vm.peer
  else peerRelease (insertReservations id driverId (tables vm.peer) remote) id

inductive Creation (request : BookingRequest) : Option Route → Response → Prop
  | unflushed (route : Option Route) (present : ((tables vm).rowsOf id).booking ≠ none) :
      Creation request route ⟨tables, [], .error .integrity⟩
  | unresolved (absent : ((tables vm).rowsOf id).booking = none) (error : ServiceError) :
      Creation request none
        ⟨.set vm (rejectBooking id (tables vm) (request.draft (tables vm)) false) (tables vm.peer),
          [], .error error⟩
  | refused (route : Route) (done : List RouteSegment) (error : ServiceError)
      (absent : ((tables vm).rowsOf id).booking = none)
      (full : admissible deployment environment vm tables route = false)
      (started : done <+: route.segments) :
      Creation request (some route)
        ⟨.set vm
          (rejectBooking id (compensate id (tables vm) (localSegments deployment vm done))
            (request.draft (tables vm)) false)
          (peerAfterFailure deployment vm id tables request.driverId done),
          publishEvent environment (.bookingFailed id request.driverId
            (request.draft (tables vm)).plateNumber), .error error⟩
  | unpublished (route : Route) (session : Database) (error : ServiceError)
      (inserted : (tables vm).insertBooking
        ((request.draft (tables vm)).booking id .sagaInProgress) = some session)
      (admitted : admissible deployment environment vm tables route = true)
      (down : environment.brokerUp = false) :
      Creation request (some route)
        ⟨.set vm
          (rejectBooking id
            (compensate id (storeSegments session id request.driverId
              (localSegments deployment vm route.segments))
              (localSegments deployment vm route.segments)) (request.draft (tables vm)) true)
          (peerAfterFailure deployment vm id tables request.driverId route.segments),
          [], .error error⟩
  | confirmed (route : Route) (session : Database)
      (inserted : (tables vm).insertBooking
        ((request.draft (tables vm)).booking id .sagaInProgress) = some session)
      (admitted : admissible deployment environment vm tables route = true)
      (up : environment.brokerUp = true) :
      Creation request (some route)
        ⟨.set vm
          ((storeSegments session id request.driverId
            (localSegments deployment vm route.segments)).confirmBooking id (confirmedMinutes route))
          (insertReservations id request.driverId (tables vm.peer)
            (remoteSegments deployment vm route.segments)),
          [.bookingConfirmed id request.driverId (request.draft (tables vm)).plateNumber
            (route.segments.map fun segment => (segment.segmentId, segment.region))
            request.departureTime], .ok ()⟩

end

section

variable {deployment : Deployment} {environment : Environment} {vm : Vm} {id : BookingId}
  {tables : Tables} {request : BookingRequest}

theorem hasRoom_insertBooking {db session : Database} {row : Booking}
    (inserted : db.insertBooking row = some session) (segment : RouteSegment) :
    hasRoom session segment = hasRoom db segment := by
  obtain ⟨bookings, _, rfl⟩ := Option.map_eq_some_iff.mp inserted
  rfl

theorem admissible_iff {session : Database} {row : Booking} {route : Route}
    (inserted : (tables vm).insertBooking row = some session) :
    admissible deployment environment vm tables route = true ↔ ∀ segment ∈ route.segments,
      SagaProgress.admits deployment environment vm ⟨session, tables vm.peer, [], false⟩ segment =
        true := by
  simp only [admissible, List.all_eq_true, SagaProgress.admits, hasRoom_insertBooking inserted]

theorem peerConfigured_of_remote {segment : RouteSegment} {done rest : List RouteSegment}
    (remote : remoteSegments deployment vm done = segment :: rest) :
    deployment.peerConfigured vm = true := by
  have away : deployment.isLocal vm segment.region = false := by
    have member : segment ∈ remoteSegments deployment vm done := by simp [remote]
    simpa using (List.mem_filter.mp member).2
  simp only [Deployment.isLocal, Bool.or_eq_false_iff, Bool.not_eq_false'] at away
  exact away.1

/-- The peer is asked to release exactly if it holds something and can be reached. -/
theorem sagaFailure_peer {draft : BookingDraft} {own session : Database} {done : List RouteSegment}
    {stored : Bool} {error : ServiceError}
    (reached : remoteSegments deployment vm done ≠ [] → environment.peerUp = true)
    (unavailable : error.isRegionUnavailable = true → environment.peerUp = false) :
    (sagaFailure deployment environment vm id draft own
      (SagaProgress.addAll deployment vm id draft.driverId ⟨session, tables vm.peer, [], false⟩ done)
      stored error).peer = peerAfterFailure deployment vm id tables draft.driverId done := by
  rw [addAll_eq]
  simp only [sagaFailure, peerAfterFailure, Bool.false_or]
  cases remote : remoteSegments deployment vm done with
  | nil => simp [insertReservations]
  | cons segment rest =>
      have up : environment.peerUp = true := reached (by simp [remote])
      have other : error.isRegionUnavailable = false := by
        by_contra named
        exact nomatch up.symm.trans (unavailable (by simpa using named))
      simp [up, other, peerConfigured_of_remote remote]

theorem creation (route : Option Route) : Creation deployment environment vm id tables request route
    (createBooking deployment environment vm id tables request route) := by
  have driver : (request.draft (tables vm)).driverId = request.driverId := rfl
  simp only [createBooking]
  split
  · rename_i failed
    exact .unflushed route (Database.insertBooking_eq_none.mp failed)
  · rename_i session inserted
    have absent : ((tables vm).rowsOf id).booking = none :=
      Database.absent_of_insertBooking inserted
    cases route with
    | none => exact .unresolved absent _
    | some route =>
        have through := @reserveAll_none_iff deployment environment vm id request.driverId
          ⟨session, tables vm.peer, [], false⟩ route.segments route.distinct
        rw [← admissible_iff inserted] at through
        obtain ⟨done, rest, segments, progress, finished, reached, unavailable⟩ :=
          @reserveAll_spec deployment environment vm id request.driverId route.segments
            ⟨session, tables vm.peer, [], false⟩
        rcases ended : reserveAll deployment environment vm id request.driverId route.segments
          ⟨session, tables vm.peer, [], false⟩ with ⟨saga, failure⟩
        rw [ended] at progress finished unavailable through
        simp only at progress finished unavailable through
        subst progress
        simp only [executeBookingSaga, driver, ended]
        cases failure with
        | some error =>
            have full : admissible deployment environment vm tables route = false := by
              by_contra admitted
              exact nomatch through.mpr (by simpa using admitted)
            have peer := @sagaFailure_peer deployment environment vm id tables
              (request.draft (tables vm)) (tables vm) session done false error reached
              (unavailable error rfl)
            simp only [driver] at peer
            simp only [peer]
            simp only [sagaFailure, addAll_eq, List.nil_append]
            exact .refused route done _ absent full ⟨rest, segments.symm⟩
        | none =>
            have admitted := through.mp rfl
            have whole : done = route.segments := by rw [segments, finished rfl, List.append_nil]
            subst whole
            cases up : environment.brokerUp with
            | true =>
                simp only [if_true, addAll_eq, List.nil_append]
                exact .confirmed route session inserted admitted up
            | false =>
                simp only [Bool.false_eq_true, if_false]
                have peer := @sagaFailure_peer deployment environment vm id tables
                  (request.draft (tables vm)) (SagaProgress.addAll deployment vm id request.driverId
                    ⟨session, tables vm.peer, [], false⟩ route.segments).session session
                  route.segments true .publish reached nofun
                simp only [driver] at peer
                simp only [peer]
                simp only [sagaFailure, addAll_eq, List.nil_append, publishEvent, up,
                  Bool.false_eq_true, if_false]
                exact .unpublished route session _ inserted admitted up

end

/-! ### The rows a call leaves -/

def BookingRows.reserve (rows : BookingRows) (id : BookingId) (driverId : DriverId)
    (segments : List RouteSegment) : BookingRows :=
  { rows with
    regional := fun schema => rows.regional schema ++
      (segments.filter fun segment => segment.schema = schema).map fun segment =>
        segment.reservation id driverId }

section

variable {deployment : Deployment} {environment : Environment} {vm place : Vm}
  {id other : BookingId} {driverId : DriverId} {tables : Tables} {db : Database}
  {draft : BookingDraft} {segments : List RouteSegment}

theorem rowsOf_insertReservations (id : BookingId) (driverId : DriverId) (db : Database)
    (segments : List RouteSegment) (other : BookingId) :
    (insertReservations id driverId db segments).rowsOf other =
      if other = id then (db.rowsOf other).reserve id driverId segments else db.rowsOf other := by
  induction segments generalizing db with
  | nil => simp [insertReservations, BookingRows.reserve]
  | cons segment rest ih =>
      rw [insertReservations, List.foldl_cons, ← insertReservations, ih,
        Database.rowsOf_insertReservation]
      have ofRow : (segment.reservation id driverId).bookingId = id := rfl
      rw [ofRow]
      by_cases same : other = id
      · simp only [same, if_true]
        ext1
        · rfl
        · rfl
        · funext schema
          by_cases here : schema = segment.schema
          · subst here
            simp [BookingRows.reserve]
          · simp [BookingRows.reserve, here, Ne.symm here]
      · simp [same]

theorem rowsOf_compensate (id : BookingId) (db : Database) (segments : List RouteSegment)
    (other : BookingId) :
    (compensate id db segments).rowsOf other =
      if other = id then
        (segments.map RouteSegment.schema).foldl (fun rows schema => rows.cancelIn schema)
          (db.rowsOf other)
      else db.rowsOf other := by
  rw [compensate, ← rowsOf_foldl_cancelIn db id other
    (fun db schema => rowsOf_releaseSegment db id other schema), List.foldl_map]

theorem rowsOf_rejectBooking_other (different : other ≠ id) (stored : Bool) :
    (rejectBooking id db draft stored).rowsOf other = db.rowsOf other := by
  simp only [rejectBooking]
  split
  · rw [rowsOf_setStatus, if_neg different]
  · cases inserted : db.insertBooking (draft.booking id .rejected) with
    | none => rfl
    | some next => rw [Option.getD_some, rowsOf_insertDraft inserted, if_neg different]

theorem rowsOf_peerAfterFailure_other (different : other ≠ id) (done : List RouteSegment) :
    (peerAfterFailure deployment vm id tables driverId done).rowsOf other =
      (tables vm.peer).rowsOf other := by
  simp only [peerAfterFailure]
  split
  · rfl
  · rw [rowsOf_peerRelease, if_neg different, rowsOf_insertReservations, if_neg different]

theorem Tables.set_own (vm : Vm) (own peer : Database) : Tables.set vm own peer vm = own := by
  simp [Tables.set]

theorem Tables.set_peer (vm : Vm) (own peer : Database) : Tables.set vm own peer vm.peer = peer := by
  cases vm <;> rfl

theorem rowsOf_perform_other (call : Call) (different : call.bookingId ≠ other) (place : Vm) :
    ((call.perform deployment environment tables).tables place).rowsOf other =
      (tables place).rowsOf other := by
  have split (vm : Vm) (own peer : Database) (first : own.rowsOf other = (tables vm).rowsOf other)
      (second : peer.rowsOf other = (tables vm.peer).rowsOf other) :
      (Tables.set vm own peer place).rowsOf other = (tables place).rowsOf other := by
    cases vm <;> cases place <;> assumption
  cases call with
  | cancelBooking vm id driverId =>
      have other_ne : other ≠ id := Ne.symm different
      simp only [Call.perform, cancelBooking]
      split
      · rfl
      · split
        · rfl
        · split
          · rfl
          · refine split vm _ _ ?_ rfl
            rw [rowsOf_cancelBookingRows, if_neg other_ne]
  | createBooking vm id request route =>
      have other_ne : other ≠ id := Ne.symm different
      have ended := @creation deployment environment vm id tables request route
      simp only [Call.perform]
      generalize createBooking deployment environment vm id tables request route = response at ended ⊢
      cases ended with
      | unflushed route present => rfl
      | unresolved absent error =>
          exact split vm _ _ (rowsOf_rejectBooking_other other_ne false) rfl
      | refused route done error absent full started =>
          refine split vm _ _ ?_ (rowsOf_peerAfterFailure_other other_ne done)
          rw [rowsOf_rejectBooking_other other_ne, rowsOf_compensate, if_neg other_ne]
      | unpublished route session error inserted admitted down =>
          refine split vm _ _ ?_ (rowsOf_peerAfterFailure_other other_ne route.segments)
          rw [rowsOf_rejectBooking_other other_ne, rowsOf_compensate, if_neg other_ne,
            rowsOf_storeSegments, if_neg other_ne, rowsOf_insertDraft inserted, if_neg other_ne]
      | confirmed route session inserted admitted up =>
          refine split vm _ _ ?_ ?_
          · rw [Database.rowsOf_confirmBooking, if_neg other_ne, rowsOf_storeSegments,
              if_neg other_ne, rowsOf_insertDraft inserted, if_neg other_ne]
          · rw [rowsOf_insertReservations, if_neg other_ne]

/-! ### What every call keeps -/

namespace Database.Kept

variable {property : Database → Prop} {deployment : Deployment} {environment : Environment}
  {vm place : Vm} {tables : Tables} {db : Database} {id : BookingId} {driverId : DriverId}
  {draft : BookingDraft}

theorem insertReservations (kept : Kept property) (segments : List RouteSegment)
    (holds : property db) : property (TrafficService.insertReservations id driverId db segments) :=
  foldl_kept (fun db segment before => kept.reserved db segment id driverId before) segments holds

theorem compensate (kept : Kept property) (segments : List RouteSegment) (holds : property db) :
    property (TrafficService.compensate id db segments) :=
  foldl_kept (fun db _ before => kept.updated db _ _ _ before) segments holds

theorem rejectBooking (kept : Kept property) (stored : Bool) (holds : property db) :
    property (TrafficService.rejectBooking id db draft stored) := by
  simp only [TrafficService.rejectBooking]
  split
  · exact kept.bookings db _ holds
  · cases inserted : db.insertBooking (draft.booking id .rejected) with
    | none => exact holds
    | some next => exact kept.insertBooking holds inserted

theorem peerAfterFailure (kept : Kept property) (done : List RouteSegment)
    (holds : property (tables vm.peer)) :
    property (TrafficService.peerAfterFailure deployment vm id tables driverId done) := by
  simp only [TrafficService.peerAfterFailure]
  split
  · exact holds
  · exact kept.peerRelease (kept.insertReservations _ holds)

/-- On either VM: the property may name the tables it started from. -/
theorem perform {property : Vm → Database → Prop} (kept : ∀ place, Kept (property place))
    (holds : ∀ place, property place (tables place)) (call : Call) (place : Vm) :
    property place ((call.perform deployment environment tables).tables place) := by
  have set (vm : Vm) (own peer : Database) (first : property vm own)
      (second : property vm.peer peer) : property place (Tables.set vm own peer place) := by
    cases vm <;> cases place <;> assumption
  cases call with
  | cancelBooking vm id driverId =>
      simp only [Call.perform, cancelBooking]
      split
      · exact holds place
      · split
        · exact holds place
        · split
          · exact holds place
          · exact set vm _ _ ((kept vm).segments _ _ ((kept vm).bookings _ _ (holds vm)))
              (holds vm.peer)
  | createBooking vm id request route =>
      have ended := @creation deployment environment vm id tables request route
      simp only [Call.perform]
      generalize createBooking deployment environment vm id tables request route = response at ended ⊢
      cases ended with
      | unflushed route present => exact holds place
      | unresolved absent error =>
          exact set vm _ _ ((kept vm).rejectBooking false (holds vm)) (holds vm.peer)
      | refused route done error absent full started =>
          exact set vm _ _ ((kept vm).rejectBooking false ((kept vm).compensate _ (holds vm)))
            ((kept vm.peer).peerAfterFailure done (holds vm.peer))
      | unpublished route session error inserted admitted down =>
          have stored : property vm (TrafficService.storeSegments session id request.driverId
              (localSegments deployment vm route.segments)) :=
            (kept vm).storeSegments _ _ ((kept vm).insertBooking (holds vm) inserted)
          exact set vm _ _ ((kept vm).rejectBooking true ((kept vm).compensate _ stored))
            ((kept vm.peer).peerAfterFailure route.segments (holds vm.peer))
      | confirmed route session inserted admitted up =>
          have stored : property vm (TrafficService.storeSegments session id request.driverId
              (localSegments deployment vm route.segments)) :=
            (kept vm).storeSegments _ _ ((kept vm).insertBooking (holds vm) inserted)
          exact set vm _ _ ((kept vm).bookings _ _ stored)
            ((kept vm.peer).insertReservations _ (holds vm.peer))

end Database.Kept

/-! ### The rows of the booking itself -/

def BookingRows.inactive (rows : BookingRows) : Prop :=
  ∀ schema, ∀ row ∈ rows.regional schema, row.status.active = false

theorem foldl_cancelIn_regional (schemas : List RegionSchema) (rows : BookingRows)
    (schema : RegionSchema) :
    (schemas.foldl (fun rows schema => rows.cancelIn schema) rows).regional schema =
      if schema ∈ schemas then cancelAll (rows.regional schema) else rows.regional schema := by
  induction schemas generalizing rows with
  | nil => simp
  | cons first rest ih =>
      rw [List.foldl_cons, ih]
      by_cases here : schema = first
      · subst here
        by_cases again : schema ∈ rest
        · simp [again, BookingRows.cancelIn, cancelAll, Function.comp_def]
        · simp [again, BookingRows.cancelIn]
      · simp [here, BookingRows.cancelIn]

theorem foldl_cancelIn_booking (schemas : List RegionSchema) (rows : BookingRows) :
    (schemas.foldl (fun rows schema => rows.cancelIn schema) rows).booking = rows.booking := by
  induction schemas generalizing rows with
  | nil => rfl
  | cons first rest ih =>
      rw [List.foldl_cons, ih]
      rfl

theorem booking_rejectBooking {stored : Bool}
    (before : (db.rowsOf id).booking =
      if stored then some (draft.booking id .sagaInProgress) else none) :
    ((rejectBooking id db draft stored).rowsOf id).booking = some (draft.booking id .rejected) := by
  cases stored with
  | true =>
      rw [if_pos rfl] at before
      rw [rejectBooking, if_pos rfl, rowsOf_setStatus, if_pos rfl]
      simp only [BookingRows.setStatus, before]
      rfl
  | false =>
      rw [if_neg Bool.false_ne_true] at before
      cases inserted : db.insertBooking (draft.booking id .rejected) with
      | none => exact absurd before (Database.insertBooking_eq_none.mp inserted)
      | some next =>
          simp only [rejectBooking, Bool.false_eq_true, if_false, inserted, Option.getD_some]
          rw [rowsOf_insertDraft inserted, if_pos rfl]

theorem booking_compensate (segments : List RouteSegment) :
    ((compensate id db segments).rowsOf id).booking = (db.rowsOf id).booking := by
  rw [rowsOf_compensate, if_pos rfl, foldl_cancelIn_booking]

theorem booking_storeSegments (segments : List RouteSegment) :
    ((storeSegments db id driverId segments).rowsOf id).booking = (db.rowsOf id).booking := by
  rw [rowsOf_storeSegments, if_pos rfl]
  rfl

theorem booking_peerAfterFailure (done : List RouteSegment) :
    ((peerAfterFailure deployment vm id tables driverId done).rowsOf id).booking =
      ((tables vm.peer).rowsOf id).booking := by
  simp only [peerAfterFailure]
  split
  · rfl
  · rw [rowsOf_peerRelease, if_pos rfl, rowsOf_insertReservations, if_pos rfl]
    rfl

theorem inactive_cancelAll {rows : List Reservation} {row : Reservation}
    (member : row ∈ cancelAll rows) : row.status.active = false := by
  obtain ⟨before, _, rfl⟩ := List.mem_map.mp member
  rfl

theorem inactive_compensate
    (own : ∀ schema, ∀ row ∈ (db.rowsOf id).regional schema, row.status.active = true →
      schema ∈ segments.map RouteSegment.schema) :
    ((compensate id db segments).rowsOf id).inactive := by
  intro schema row member
  rw [rowsOf_compensate, if_pos rfl, foldl_cancelIn_regional] at member
  split at member
  · exact inactive_cancelAll member
  · rename_i untouched
    by_contra active
    exact untouched (own schema row member (by simpa using active))

theorem rowsOf_rejectBooking {stored : Bool} (found : stored = true → (db.rowsOf id).booking ≠ none)
    (absent : stored = false → (db.rowsOf id).booking = none) :
    ((rejectBooking id db draft stored).rowsOf id).booking.map (·.status) = some .rejected ∧
      ((rejectBooking id db draft stored).rowsOf id).regional = (db.rowsOf id).regional := by
  cases stored with
  | true =>
      obtain ⟨row, present⟩ := Option.ne_none_iff_exists'.mp (found rfl)
      rw [rejectBooking, if_pos rfl, rowsOf_setStatus, if_pos rfl]
      simp [BookingRows.setStatus, present]
  | false =>
      cases inserted : db.insertBooking (draft.booking id .rejected) with
      | none => exact absurd (absent rfl) (Database.insertBooking_eq_none.mp inserted)
      | some next =>
          simp only [rejectBooking, Bool.false_eq_true, if_false, inserted, Option.getD_some]
          rw [rowsOf_insertDraft inserted, if_pos rfl]
          exact ⟨rfl, rfl⟩

theorem rowsOf_peerAfterFailure (fresh : (tables vm.peer).rowsOf id = .none)
    (done : List RouteSegment) :
    ((peerAfterFailure deployment vm id tables driverId done).rowsOf id).booking = none ∧
      ((peerAfterFailure deployment vm id tables driverId done).rowsOf id).inactive := by
  simp only [peerAfterFailure]
  split
  · rw [fresh]
    exact ⟨rfl, fun _ _ member => nomatch member⟩
  · rw [rowsOf_peerRelease, if_pos rfl, rowsOf_insertReservations, if_pos rfl, fresh]
    exact ⟨rfl, fun _ _ member => inactive_cancelAll member⟩

def confirmedBooking (draft : BookingDraft) (id : BookingId) (route : Route) : Booking :=
  { draft.booking id .confirmed with estimatedDurationMinutes := some (confirmedMinutes route) }

/-- What `create_booking` leaves of a booking: nothing active of one that failed, the whole
route of one that is CONFIRMED. -/
inductive Created (deployment : Deployment) (vm : Vm) (id : BookingId) (draft : BookingDraft) :
    Option Route → BookingRows → BookingRows → Prop
  | failed (route : Option Route) (own peer : BookingRows)
      (rejected : own.booking.map (·.status) = some .rejected) (freed : own.inactive)
      (absent : peer.booking = none) (freedPeer : peer.inactive) :
      Created deployment vm id draft route own peer
  | confirmed (route : Route) : Created deployment vm id draft (some route)
      { (BookingRows.none.store id draft.driverId (localSegments deployment vm route.segments)) with
        booking := some (confirmedBooking draft id route) }
      (BookingRows.none.reserve id draft.driverId (remoteSegments deployment vm route.segments))

theorem created {request : BookingRequest} (fresh : ∀ place, (tables place).rowsOf id = .none)
    (route : Option Route) :
    Created deployment vm id (request.draft (tables vm)) route
      (((createBooking deployment environment vm id tables request route).tables vm).rowsOf id)
      (((createBooking deployment environment vm id tables request route).tables vm.peer).rowsOf
        id) := by
  have ended := @creation deployment environment vm id tables request route
  generalize createBooking deployment environment vm id tables request route = response at ended ⊢
  have gone : ((tables vm).rowsOf id).booking = none := by rw [fresh]; rfl
  have nothing : (BookingRows.none).inactive := fun _ _ member => nomatch member
  cases ended with
  | unflushed route present => exact absurd gone present
  | unresolved absent error =>
      have own := @rowsOf_rejectBooking id (tables vm) (request.draft (tables vm)) false nofun
        fun _ => gone
      simp only [Tables.set_own, Tables.set_peer]
      refine .failed none _ _ own.1 ?_ (by rw [fresh]; rfl) (by rw [fresh]; exact nothing)
      rw [BookingRows.inactive, own.2, fresh]
      exact nothing
  | refused route done error absent full started =>
      have kept : ((compensate id (tables vm) (localSegments deployment vm done)).rowsOf id).booking
          = none := by
        rw [rowsOf_compensate, if_pos rfl, foldl_cancelIn_booking, gone]
      have own := @rowsOf_rejectBooking id _ (request.draft (tables vm)) false nofun fun _ => kept
      have peer := @rowsOf_peerAfterFailure deployment vm id request.driverId tables
        (fresh vm.peer) done
      simp only [Tables.set_own, Tables.set_peer]
      refine .failed _ _ _ own.1 ?_ peer.1 peer.2
      rw [BookingRows.inactive, own.2]
      refine inactive_compensate ?_
      rw [fresh]
      exact fun _ _ member => nomatch member
  | unpublished route session error inserted admitted down =>
      have stored : (storeSegments session id request.driverId
          (localSegments deployment vm route.segments)).rowsOf id =
          { BookingRows.none with
            booking := some ((request.draft (tables vm)).booking id .sagaInProgress) }.store id
              request.driverId (localSegments deployment vm route.segments) := by
        rw [rowsOf_storeSegments, if_pos rfl, rowsOf_insertDraft inserted, if_pos rfl, fresh]
      have kept : ((compensate id (storeSegments session id request.driverId
          (localSegments deployment vm route.segments))
          (localSegments deployment vm route.segments)).rowsOf id).booking ≠ none := by
        rw [rowsOf_compensate, if_pos rfl, foldl_cancelIn_booking, stored]
        exact Option.some_ne_none _
      have own := @rowsOf_rejectBooking id _ (request.draft (tables vm)) true (fun _ => kept) nofun
      have peer := @rowsOf_peerAfterFailure deployment vm id request.driverId tables
        (fresh vm.peer) route.segments
      simp only [Tables.set_own, Tables.set_peer]
      refine .failed _ _ _ own.1 ?_ peer.1 peer.2
      rw [BookingRows.inactive, own.2]
      refine inactive_compensate ?_
      rw [stored]
      intro schema row member active
      simp only [BookingRows.store, BookingRows.none, List.nil_append, List.mem_map,
        List.mem_filter, decide_eq_true_eq] at member
      obtain ⟨segment, ⟨there, same⟩, _⟩ := member
      exact List.mem_map.mpr ⟨segment, there, same⟩
  | confirmed route session inserted admitted up =>
      simp only [Tables.set_own, Tables.set_peer]
      rw [Database.rowsOf_confirmBooking, if_pos rfl, rowsOf_storeSegments, if_pos rfl,
        rowsOf_insertDraft inserted, if_pos rfl, fresh, rowsOf_insertReservations, if_pos rfl, fresh]
      exact .confirmed route

end

end TrafficService
