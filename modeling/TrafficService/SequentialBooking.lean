import TrafficService.Conservation

/-!
`create_booking` with nothing else going on, from whatever tables: when it confirms, which active
rows it adds on which VM, and that the outcome does not depend on who owns what.
-/

namespace TrafficService

open Table

def Deployment.ownerOf (deployment : Deployment) (vm : Vm) (region : Region) : Vm :=
  if deployment.isLocal vm region then vm else vm.peer

def Database.activeRows (db : Database) (schema : RegionSchema) : List Reservation :=
  (db.reservations schema).filter (·.status.active)

def Tables.activeRows (tables : Tables) (schema : RegionSchema) : List Reservation :=
  (tables .vm1).activeRows schema ++ (tables .vm2).activeRows schema

def reservationsIn (schema : RegionSchema) (id : BookingId) (driverId : DriverId)
    (segments : List RouteSegment) : List Reservation :=
  (segments.filter fun segment => segment.schema = schema).map fun segment =>
    segment.reservation id driverId

def ownedBy (deployment : Deployment) (vm place : Vm) (segments : List RouteSegment) :
    List RouteSegment :=
  segments.filter fun segment => deployment.ownerOf vm segment.region = place

/-- What a booking is to do to the tables, whoever owns the regions of its route. -/
structure Sequential (deployment : Deployment) (vm : Vm) (id : BookingId) (driverId : DriverId)
    (tables : Tables) (route : Route) (response : Response) : Prop where
  outcome : response.result = .ok () ↔ ∀ segment ∈ route.segments,
    hasRoom (tables (deployment.ownerOf vm segment.region)) segment = true
  confirmed : response.result = .ok () → (response.tables vm).status? id = some .confirmed
  added : response.result = .ok () → ∀ place schema,
    (response.tables place).activeRows schema = (tables place).activeRows schema ++
      reservationsIn schema id driverId (ownedBy deployment vm place route.segments)
  union : response.result = .ok () → ∀ schema,
    (response.tables.activeRows schema).Perm
      (tables.activeRows schema ++ reservationsIn schema id driverId route.segments)
  gained : response.result = .ok () → ∀ place schema segmentId slot,
    bookedCount (response.tables place) schema segmentId slot =
      bookedCount (tables place) schema segmentId slot +
        if (ownedBy deployment vm place route.segments).any
          (fun segment => segment.occupies schema segmentId slot) = true then 1 else 0
  rejected : response.result ≠ .ok () → (response.tables vm).status? id = some .rejected
  kept : response.result ≠ .ok () → ∀ place schema,
    (response.tables place).activeRows schema = (tables place).activeRows schema
  counted : response.result ≠ .ok () → ∀ place schema segmentId slot,
    bookedCount (response.tables place) schema segmentId slot =
      bookedCount (tables place) schema segmentId slot

section

variable {db next : Database} {id : BookingId} {driverId : DriverId} {schema : RegionSchema}

theorem bookedCount_eq_activeRows (db : Database) (schema : RegionSchema) (segmentId : SegmentId)
    (slot : DateTime) : bookedCount db schema segmentId slot =
      (db.activeRows schema).countP fun row => row.occupies segmentId slot := by
  rw [Database.activeRows, List.countP_filter, bookedCount]
  refine List.countP_congr fun row _ => ?_
  simp only [Reservation.occupies, Bool.and_eq_true]
  tauto

theorem activeRows_insertBooking {row : Booking} (inserted : db.insertBooking row = some next) :
    next.activeRows schema = db.activeRows schema := by
  obtain ⟨bookings, _, rfl⟩ := Option.map_eq_some_iff.mp inserted
  rfl

theorem activeRows_insertReservation (segment : RouteSegment) :
    (db.insertReservation segment.schema (segment.reservation id driverId)).activeRows schema =
      db.activeRows schema ++ reservationsIn schema id driverId [segment] := by
  by_cases here : schema = segment.schema
  · subst here
    simp [Database.activeRows, Database.insertReservation, reservationsIn,
      RouteSegment.reservation, BookingStatus.active]
  · simp [Database.activeRows, Database.insertReservation, reservationsIn, here, Ne.symm here]

theorem reservationsIn_cons (segment : RouteSegment) (rest : List RouteSegment) :
    reservationsIn schema id driverId (segment :: rest) =
      reservationsIn schema id driverId [segment] ++ reservationsIn schema id driverId rest := by
  rw [reservationsIn, reservationsIn, reservationsIn, ← List.map_append, ← List.filter_append,
    List.singleton_append]

theorem activeRows_insertReservations (segments : List RouteSegment) (db : Database) :
    (insertReservations id driverId db segments).activeRows schema =
      db.activeRows schema ++ reservationsIn schema id driverId segments := by
  induction segments generalizing db with
  | nil => simp [insertReservations, reservationsIn]
  | cons segment rest ih =>
      have later := ih (db.insertReservation segment.schema (segment.reservation id driverId))
      rw [activeRows_insertReservation, List.append_assoc, ← reservationsIn_cons] at later
      exact later

theorem activeRows_storeSegments (segments : List RouteSegment) (db : Database) :
    (storeSegments db id driverId segments).activeRows schema =
      db.activeRows schema ++ reservationsIn schema id driverId segments := by
  induction segments generalizing db with
  | nil => simp [storeSegments, reservationsIn]
  | cons segment rest ih =>
      have one : (storeSegment db id driverId segment).activeRows schema =
          db.activeRows schema ++ reservationsIn schema id driverId [segment] :=
        activeRows_insertReservation segment
      have later := ih (storeSegment db id driverId segment)
      rw [one, List.append_assoc, ← reservationsIn_cons] at later
      exact later

theorem activeRows_releaseSegment (place : RegionSchema) :
    (releaseSegment db place id).activeRows schema =
      if schema = place then (db.activeRows schema).filter (·.bookingId ≠ id)
      else db.activeRows schema := by
  by_cases here : schema = place
  · subst here
    rw [if_pos rfl]
    simp only [Database.activeRows, releaseSegment, Database.updateReservations,
      Function.update_self, List.filter_filter]
    rw [filter_updateWhere_cleared fun _ _ => rfl]
    simp
  · simp [Database.activeRows, releaseSegment, Database.updateReservations, here]

theorem activeRows_foldl_releaseSegment (schemas : List RegionSchema) (db : Database) :
    (schemas.foldl (fun db place => releaseSegment db place id) db).activeRows schema =
      if schema ∈ schemas then (db.activeRows schema).filter (·.bookingId ≠ id)
      else db.activeRows schema := by
  induction schemas generalizing db with
  | nil => simp
  | cons place rest ih =>
      rw [List.foldl_cons, ih, activeRows_releaseSegment]
      by_cases here : schema = place
      · simp [here]
      · simp [here]

/-- Nothing of a booking the tables do not know is released. -/
theorem activeRows_of_fresh (fresh : db.rowsOf id = .none) :
    (db.activeRows schema).filter (·.bookingId ≠ id) = db.activeRows schema := by
  refine List.filter_eq_self.mpr fun row member => ?_
  have stored := (List.mem_filter.mp member).1
  have none : (db.rowsOf id).regional schema = [] := by rw [fresh]; rfl
  refine decide_eq_true fun own => ?_
  have listed := Database.mem_rowsOf_regional.mpr ⟨stored, own⟩
  simp [none] at listed

theorem activeRows_compensate (fresh : db.rowsOf id = .none) (segments : List RouteSegment) :
    (compensate id db segments).activeRows schema = db.activeRows schema := by
  have folded : ((segments.map RouteSegment.schema).foldl
      (fun db place => releaseSegment db place id) db).activeRows schema = _ :=
    activeRows_foldl_releaseSegment _ db
  rw [List.foldl_map] at folded
  rw [compensate, folded, activeRows_of_fresh fresh, ite_self]

theorem activeRows_peerRelease (fresh : db.rowsOf id = .none) (segments : List RouteSegment) :
    (peerRelease (insertReservations id driverId db segments) id).activeRows schema =
      db.activeRows schema := by
  rw [peerRelease, activeRows_foldl_releaseSegment, if_pos (mem_regionSchemas schema),
    activeRows_insertReservations, List.filter_append, activeRows_of_fresh fresh]
  have own : (reservationsIn schema id driverId segments).filter (·.bookingId ≠ id) = [] := by
    rw [reservationsIn, List.filter_map]
    simp [RouteSegment.reservation, Function.comp_def]
  rw [own, List.append_nil]

theorem activeRows_rejectBooking (draft : BookingDraft) (stored : Bool) :
    (rejectBooking id db draft stored).activeRows schema = db.activeRows schema := by
  rw [rejectBooking]
  split
  · rfl
  · cases inserted : db.insertBooking (draft.booking id .rejected) with
    | none => rfl
    | some next => exact activeRows_insertBooking inserted

theorem activeRows_confirmBooking (minutes : Nat) :
    (db.confirmBooking id minutes).activeRows schema = db.activeRows schema := rfl

end

/-! ### The whole call -/

section

variable {deployment : Deployment} {vm : Vm} {id : BookingId} {driverId : DriverId}
  {tables : Tables} {request : BookingRequest} {route : Route}

theorem ownedBy_own (segments : List RouteSegment) :
    ownedBy deployment vm vm segments = localSegments deployment vm segments := by
  refine List.filter_congr fun segment _ => ?_
  cases here : deployment.isLocal vm segment.region
  · simp [Deployment.ownerOf, here, vm.peer_ne]
  · simp [Deployment.ownerOf, here]

theorem ownedBy_peer (segments : List RouteSegment) :
    ownedBy deployment vm vm.peer segments = remoteSegments deployment vm segments := by
  refine List.filter_congr fun segment _ => ?_
  cases here : deployment.isLocal vm segment.region
  · simp [Deployment.ownerOf, here]
  · simp [Deployment.ownerOf, here, vm.peer_ne.symm]

theorem admissible_faultless : admissible deployment .faultless vm tables route = true ↔
    ∀ segment ∈ route.segments,
      hasRoom (tables (deployment.ownerOf vm segment.region)) segment = true := by
  rw [admissible, List.all_eq_true]
  refine forall₂_congr fun segment _ => ?_
  cases here : deployment.isLocal vm segment.region
  · simp [Deployment.ownerOf, here, Environment.faultless]
  · simp [Deployment.ownerOf, here]

theorem reservationsIn_owned (schema : RegionSchema) (segments : List RouteSegment) :
    (reservationsIn schema id driverId (ownedBy deployment vm vm segments) ++
      reservationsIn schema id driverId (ownedBy deployment vm vm.peer segments)).Perm
      (reservationsIn schema id driverId segments) := by
  rw [reservationsIn, reservationsIn, reservationsIn, ← List.map_append, ← List.filter_append,
    ownedBy_own, ownedBy_peer]
  refine List.Perm.map _ (List.Perm.filter _ ?_)
  exact List.filter_append_perm _ segments

/-- The additions of one place after the other, taken as one. -/
theorem activeRows_perm {before after : Tables} {schema : RegionSchema}
    {rows : Vm → List Reservation}
    (added : ∀ place, (after place).activeRows schema =
      (before place).activeRows schema ++ rows place) :
    (after.activeRows schema).Perm (before.activeRows schema ++ (rows .vm1 ++ rows .vm2)) := by
  rw [Tables.activeRows, Tables.activeRows, added, added, List.append_assoc, List.append_assoc]
  refine List.Perm.append_left _ ?_
  rw [← List.append_assoc, ← List.append_assoc]
  exact List.Perm.append_right _ List.perm_append_comm

theorem bookedCount_added {before after : Database} {schema : RegionSchema} {place : Vm}
    (added : after.activeRows schema = before.activeRows schema ++
      reservationsIn schema id driverId (ownedBy deployment vm place route.segments))
    (segmentId : SegmentId) (slot : DateTime) :
    bookedCount after schema segmentId slot = bookedCount before schema segmentId slot +
      if (ownedBy deployment vm place route.segments).any
        (fun segment => segment.occupies schema segmentId slot) = true then 1 else 0 := by
  have distinct : ((ownedBy deployment vm place route.segments).map
      fun segment => (segment.region, segment.segmentId)).Nodup :=
    route.distinct.sublist (List.filter_sublist.map _)
  rw [bookedCount_eq_activeRows, bookedCount_eq_activeRows, added, List.countP_append,
    reservationsIn, countP_reservations, countP_occupies distinct]

/-- A confirmed booking: the rows it adds on the two VMs, and with them everything else. -/
theorem Sequential.of_added {response : Response} (done : response.result = .ok ())
    (room : ∀ segment ∈ route.segments,
      hasRoom (tables (deployment.ownerOf vm segment.region)) segment = true)
    (status : (response.tables vm).status? id = some .confirmed)
    (added : ∀ place schema, (response.tables place).activeRows schema =
      (tables place).activeRows schema ++
        reservationsIn schema id driverId (ownedBy deployment vm place route.segments)) :
    Sequential deployment vm id driverId tables route response where
  outcome := iff_of_true done room
  confirmed := fun _ => status
  added := fun _ => added
  union := by
    intro _ schema
    refine (activeRows_perm fun place => added place schema).trans (List.Perm.append_left _ ?_)
    cases vm
    · exact reservationsIn_owned schema route.segments
    · exact List.perm_append_comm.trans (reservationsIn_owned schema route.segments)
  gained := fun _ place schema => bookedCount_added (added place schema)
  rejected := fun failed => absurd done failed
  kept := fun failed => absurd done failed
  counted := fun failed => absurd done failed

theorem Sequential.of_kept {response : Response} {error : ServiceError}
    (failed : response.result = .error error)
    (full : ¬ ∀ segment ∈ route.segments,
      hasRoom (tables (deployment.ownerOf vm segment.region)) segment = true)
    (status : (response.tables vm).status? id = some .rejected)
    (kept : ∀ place schema,
      (response.tables place).activeRows schema = (tables place).activeRows schema) :
    Sequential deployment vm id driverId tables route response := by
  have raised : response.result ≠ .ok () := by
    intro done
    rw [failed] at done
    cases done
  constructor
  · exact iff_of_false raised full
  · exact fun done => absurd done raised
  · exact fun done => absurd done raised
  · exact fun done => absurd done raised
  · exact fun done => absurd done raised
  · exact fun _ => status
  · exact fun _ => kept
  · intro _ place schema segmentId slot
    rw [bookedCount_eq_activeRows, bookedCount_eq_activeRows, kept]

theorem sequential_createBooking (fresh : ∀ place, (tables place).rowsOf id = .none) :
    Sequential deployment vm id request.driverId tables route
      (createBooking deployment .faultless vm id tables request (some route)) := by
  have absent : ((tables vm).rowsOf id).booking = none := by
    rw [fresh]
    rfl
  have ended := @creation deployment .faultless vm id tables request (some route)
  generalize createBooking deployment .faultless vm id tables request (some route) = response
    at ended ⊢
  cases ended with
  | unflushed _ present => exact (present absent).elim
  | unpublished _ session error inserted admitted down => cases down
  | refused route done error _ full started =>
      refine Sequential.of_kept rfl ?_ ?_ ?_
      · rw [← admissible_faultless, full]
        exact Bool.false_ne_true
      · have before : ((compensate id (tables vm) (localSegments deployment vm done)).rowsOf
            id).booking = none := by rw [booking_compensate, absent]
        simp only [Tables.set_own]
        rw [Database.status?_eq, booking_rejectBooking before]
        rfl
      · intro place schema
        rcases vm.eq_or_peer place with rfl | rfl
        · simp only [Tables.set_own]
          rw [activeRows_rejectBooking, activeRows_compensate (fresh place)]
        · simp only [Tables.set_peer, peerAfterFailure]
          split
          · rfl
          · exact activeRows_peerRelease (fresh vm.peer) _
  | confirmed route session inserted admitted up =>
      refine Sequential.of_added rfl (admissible_faultless.mp admitted) ?_ ?_
      · have stored := @booking_storeSegments id request.driverId session
          (localSegments deployment vm route.segments)
        rw [rowsOf_insertDraft inserted, if_pos rfl] at stored
        simp only [Tables.set_own, Database.status?_eq, Database.rowsOf_confirmBooking, if_pos,
          stored]
        rfl
      · intro place schema
        rcases vm.eq_or_peer place with rfl | rfl
        · simp only [Tables.set_own]
          rw [ownedBy_own, activeRows_confirmBooking, activeRows_storeSegments,
            activeRows_insertBooking inserted]
        · simp only [Tables.set_peer]
          rw [ownedBy_peer, activeRows_insertReservations]

/-- The same road network and reservations, split otherwise between the two VMs. -/
structure SameRoads (first second : Deployment) (vm : Vm) (tables others : Tables) : Prop where
  capacity : ∀ region,
    (tables (first.ownerOf vm region)).maxCapacityPerSlot (regionSchemaMap region) =
      (others (second.ownerOf vm region)).maxCapacityPerSlot (regionSchemaMap region)
  owned : ∀ region, (tables (first.ownerOf vm region)).activeRows (regionSchemaMap region) =
    (others (second.ownerOf vm region)).activeRows (regionSchemaMap region)
  union : ∀ schema, (tables.activeRows schema).Perm (others.activeRows schema)

theorem SameRoads.hasRoom {first second : Deployment} {others : Tables}
    (same : SameRoads first second vm tables others) (segment : RouteSegment) :
    hasRoom (tables (first.ownerOf vm segment.region)) segment =
      hasRoom (others (second.ownerOf vm segment.region)) segment := by
  simp only [TrafficService.hasRoom, RouteSegment.schema, bookedCount_eq_activeRows,
    same.capacity, same.owned]

/-- Without faults and concurrency a booking is confirmed if and only if each segment has room on
its owner, adds one active row for each there and none otherwise, and the outcome and the active
rows of the two VMs together do not depend on which VM owns what. -/
theorem createBooking_sequential (deployment : Deployment) (vm : Vm) (id : BookingId)
    (tables : Tables) (request : BookingRequest) (route : Route)
    (fresh : ∀ place, (tables place).rowsOf id = .none) :
    Sequential deployment vm id request.driverId tables route
        (createBooking deployment .faultless vm id tables request (some route)) ∧
      ∀ other others, SameRoads deployment other vm tables others →
        (∀ place, (others place).rowsOf id = .none) →
        ((createBooking deployment .faultless vm id tables request (some route)).result = .ok () ↔
          (createBooking other .faultless vm id others request (some route)).result = .ok ()) ∧
        ∀ schema,
          ((createBooking deployment .faultless vm id tables request
              (some route)).tables.activeRows schema).Perm
            ((createBooking other .faultless vm id others request
              (some route)).tables.activeRows schema) := by
  refine ⟨sequential_createBooking fresh, fun other others same freshToo => ?_⟩
  have one := @sequential_createBooking deployment vm id tables request route fresh
  have two := @sequential_createBooking other vm id others request route freshToo
  have agree : (createBooking deployment .faultless vm id tables request (some route)).result =
      .ok () ↔ (createBooking other .faultless vm id others request (some route)).result =
        .ok () := by
    rw [one.outcome, two.outcome]
    exact forall₂_congr fun segment _ => by rw [same.hasRoom]
  refine ⟨agree, fun schema => ?_⟩
  by_cases done :
      (createBooking deployment .faultless vm id tables request (some route)).result = .ok ()
  · refine (one.union done schema).trans (.trans ?_ (two.union (agree.mp done) schema).symm)
    exact (same.union schema).append_right _
  · have first := one.kept done
    have second := two.kept fun also => done (agree.mpr also)
    simp only [Tables.activeRows, first, second]
    exact same.union schema

end

def emptyRoads : Tables := fun _ => .unbooked (fun _ _ => some 100) fun _ => none

theorem createBooking_crossing :
    Sequential twoVms .vm1 0 7 emptyRoads crossingRoute
        (createBooking twoVms .faultless .vm1 0 emptyRoads request (some crossingRoute)) ∧
      ((createBooking twoVms .faultless .vm1 0 emptyRoads request (some crossingRoute)).result =
          .ok () ↔
        (createBooking singleVm .faultless .vm1 0 emptyRoads request (some crossingRoute)).result =
          .ok ()) := by
  have whole := createBooking_sequential twoVms .vm1 0 emptyRoads request crossingRoute
    fun _ => rfl
  have same : SameRoads twoVms singleVm .vm1 emptyRoads emptyRoads :=
    ⟨fun _ => rfl, fun _ => rfl, fun _ => .refl _⟩
  exact ⟨whole.1, (whole.2 singleVm emptyRoads same fun _ => rfl).1⟩

end TrafficService
