import TrafficService.Admission
import Mathlib.Data.List.Induction

/-!
Calls one after the other, without faults: the capacity counted as taken against the
confirmed bookings, over histories of any length.
-/

namespace TrafficService

open Table

def Deployment.assigned (owner : Region → Vm) : Deployment where
  peerConfigured := fun _ => true
  localRegions := fun vm =>
    [Region.euWestIreland, .euWestUk, .euWestFrance].filter fun region => owner region = vm

theorem isLocal_assigned (owner : Region → Vm) (vm : Vm) (region : Region) :
    (Deployment.assigned owner).isLocal vm region = decide (owner region = vm) := by
  cases region <;> simp [Deployment.assigned, Deployment.isLocal]

def performCalls (owner : Region → Vm) (tables : Tables) (calls : List Call) : Tables :=
  calls.foldl (fun tables call => (call.perform (.assigned owner) .faultless tables).tables) tables

def createdIds (calls : List Call) : List BookingId :=
  calls.filterMap fun call =>
    match call with
    | .createBooking _ id _ _ => some id
    | .cancelBooking .. => none

def routeOf (calls : List Call) (id : BookingId) : Option Route :=
  calls.findSome? fun call =>
    match call with
    | .createBooking _ other _ route => if other = id then route else none
    | .cancelBooking .. => none

def Route.uses (route : Route) (schema : RegionSchema) (segmentId : SegmentId) (slot : DateTime) :
    Bool :=
  route.segments.any fun segment => segment.occupies schema segmentId slot

def confirmedUse (calls : List Call) (schema : RegionSchema) (segmentId : SegmentId)
    (slot : DateTime) (row : Booking) : Bool :=
  row.status = .confirmed && (routeOf calls row.id).any fun route => route.uses schema segmentId slot

def confirmedUses (calls : List Call) (tables : Tables) (schema : RegionSchema)
    (segmentId : SegmentId) (slot : DateTime) : Nat :=
  ((tables .vm1).bookings.rows ++ (tables .vm2).bookings.rows).countP
    (confirmedUse calls schema segmentId slot)

def Conserved (owner : Region → Vm) (calls : List Call) (tables : Tables) : Prop :=
  ∀ region segmentId slot, bookedCount (tables (owner region)) (regionSchemaMap region) segmentId
    slot = confirmedUses calls tables (regionSchemaMap region) segmentId slot

def cancelsConfirmed (tables : Tables) : Call → Bool
  | .createBooking .. => false
  | .cancelBooking vm id driverId =>
      ((tables vm).bookings.find? id).any fun booking =>
        booking.driverId = driverId && booking.status = .confirmed

def BookingRows.booked (rows : BookingRows) (schema : RegionSchema) (segmentId : SegmentId)
    (slot : DateTime) : Nat :=
  (rows.regional schema).countP fun row => row.occupies segmentId slot

section

variable {db next : Database} {id : BookingId} {schema : RegionSchema} {segmentId : SegmentId}
  {slot : DateTime}

theorem bookedCount_elsewhere (others : ∀ other, other ≠ id → next.rowsOf other = db.rowsOf other) :
    bookedCount next schema segmentId slot + (db.rowsOf id).booked schema segmentId slot =
      bookedCount db schema segmentId slot + (next.rowsOf id).booked schema segmentId slot := by
  refine @countP_elsewhere _ _ _ Reservation.bookingId _ _ _ ?_ _
  intro other different
  exact congrArg (fun rows : BookingRows => rows.regional schema) (others other different)

theorem countP_bookings_elsewhere
    (others : ∀ other, other ≠ id → next.rowsOf other = db.rowsOf other) (test : Booking → Bool) :
    next.bookings.rows.countP test + (db.rowsOf id).booking.toList.countP test =
      db.bookings.rows.countP test + (next.rowsOf id).booking.toList.countP test := by
  have counted := @countP_elsewhere Booking BookingId _ Booking.id next.bookings.rows
    db.bookings.rows id ?_ test
  · rw [KeyedTable.filter_key, KeyedTable.filter_key] at counted
    exact counted
  · intro other different
    rw [KeyedTable.filter_key, KeyedTable.filter_key]
    exact congrArg (fun rows : BookingRows => rows.booking.toList) (others other different)

theorem booked_inactive {rows : BookingRows} (inactive : rows.inactive) :
    rows.booked schema segmentId slot = 0 := by
  refine List.countP_eq_zero.mpr ?_
  intro row member occupied
  simp only [Reservation.occupies, inactive schema row member, Bool.and_false] at occupied
  cases occupied

/-- No two segments of a route occupy the same slot of the same road segment. -/
theorem countP_occupies {segments : List RouteSegment}
    (distinct : (segments.map fun segment => (segment.region, segment.segmentId)).Nodup) :
    segments.countP (fun segment => segment.occupies schema segmentId slot) =
      if segments.any (fun segment => segment.occupies schema segmentId slot) = true then 1 else 0 := by
  induction segments with
  | nil => rfl
  | cons segment rest ih =>
      rw [List.map_cons, List.nodup_cons] at distinct
      rw [List.countP_cons, ih distinct.2, List.any_cons]
      by_cases here : segment.occupies schema segmentId slot = true
      · have alone : rest.any (fun segment => segment.occupies schema segmentId slot) = false := by
          rw [List.any_eq_false]
          intro other member again
          simp only [RouteSegment.occupies, Bool.and_eq_true, decide_eq_true_eq] at here again
          refine distinct.1 (List.mem_map.mpr ⟨other, member, ?_⟩)
          have sameRegion : other.region = segment.region :=
            regionSchemaMap_injective (again.1.1.trans here.1.1.symm)
          exact Prod.ext sameRegion (again.1.2.trans here.1.2.symm)
        simp [here, alone]
      · simp [here]

theorem countP_reservations (segments : List RouteSegment) (driverId : DriverId) :
    ((segments.filter fun segment => segment.schema = schema).map fun segment =>
        segment.reservation id driverId).countP (fun row => row.occupies segmentId slot) =
      segments.countP fun segment => segment.occupies schema segmentId slot := by
  rw [List.countP_map, List.countP_filter]
  refine List.countP_congr ?_
  intro segment _
  simp only [Function.comp, RouteSegment.occupies_reservation, RouteSegment.occupies,
    Bool.and_eq_true, decide_eq_true_eq]
  constructor
  · rintro ⟨⟨segmentId, slot⟩, schema⟩
    exact ⟨⟨schema, segmentId⟩, slot⟩
  · rintro ⟨⟨schema, segmentId⟩, slot⟩
    exact ⟨⟨segmentId, slot⟩, schema⟩

end

section

variable {owner : Region → Vm} {vm : Vm} {id : BookingId} {region : Region} {segmentId : SegmentId}
  {slot : DateTime}

theorem countP_kept (segments : List RouteSegment) (keeps : Region → Bool)
    (kept : keeps region = true) :
    (segments.filter fun segment => keeps segment.region).countP
        (fun segment => segment.occupies (regionSchemaMap region) segmentId slot) =
      segments.countP fun segment => segment.occupies (regionSchemaMap region) segmentId slot := by
  rw [List.countP_filter]
  refine List.countP_congr ?_
  intro segment _
  simp only [Bool.and_eq_true, and_iff_left_iff_imp]
  intro occupied
  simp only [RouteSegment.occupies, Bool.and_eq_true, decide_eq_true_eq] at occupied
  have same : segment.region = region := regionSchemaMap_injective occupied.1.1
  rw [same]
  exact kept

theorem booked_created {draft : BookingDraft} {route : Route} :
    (owner region = vm →
      (BookingRows.none.store id draft.driverId
        (localSegments (.assigned owner) vm route.segments)).booked (regionSchemaMap region)
          segmentId slot =
        if route.uses (regionSchemaMap region) segmentId slot = true then 1 else 0) ∧
    (owner region = vm.peer →
      (BookingRows.none.reserve id draft.driverId
        (remoteSegments (.assigned owner) vm route.segments)).booked (regionSchemaMap region)
          segmentId slot =
        if route.uses (regionSchemaMap region) segmentId slot = true then 1 else 0) := by
  constructor
  · intro here
    simp only [BookingRows.booked, BookingRows.store, BookingRows.none, List.nil_append]
    rw [countP_reservations, localSegments, countP_kept, countP_occupies route.distinct]
    · rfl
    · simp [isLocal_assigned, here]
  · intro away
    simp only [BookingRows.booked, BookingRows.reserve, BookingRows.none, List.nil_append]
    have keeps : (!(Deployment.assigned owner).isLocal vm region) = true := by
      rw [isLocal_assigned, away]
      cases vm <;> decide
    rw [countP_reservations, remoteSegments,
      countP_kept route.segments (fun region => !(Deployment.assigned owner).isLocal vm region) keeps,
      countP_occupies route.distinct]
    rfl

end

/-! ### Histories -/

structure Ledger (owner : Region → Vm) (calls : List Call) (tables : Tables) : Prop where
  unborn : ∀ id, id ∉ createdIds calls → ∀ place, (tables place).rowsOf id = .none
  routed : ∀ place id booking, ((tables place).rowsOf id).booking = some booking →
    booking.status = .confirmed → ∃ route, routeOf calls id = some route
  conserved : Conserved owner calls tables

section

variable {owner : Region → Vm} {calls : List Call} {tables next : Tables} {vm : Vm} {id : BookingId}
  {schema : RegionSchema} {segmentId : SegmentId} {slot : DateTime}

theorem mem_createdIds_append {call : Call} : id ∈ createdIds (calls ++ [call]) ↔
    id ∈ createdIds calls ∨ id ∈ createdIds [call] := by
  simp [createdIds, List.filterMap_append]

theorem routeOf_append (call : Call) :
    routeOf (calls ++ [call]) id = (routeOf calls id).or (routeOf [call] id) := by
  simp [routeOf, List.findSome?_append]

theorem routeOf_eq_none (fresh : id ∉ createdIds calls) : routeOf calls id = none := by
  refine List.findSome?_eq_none_iff.mpr ?_
  intro call member
  cases call with
  | cancelBooking vm other driverId => rfl
  | createBooking vm other request route =>
      have different : other ≠ id := by
        rintro rfl
        exact fresh (List.mem_filterMap.mpr ⟨_, member, rfl⟩)
      simp [different]

def BookingRows.use (rows : BookingRows) (calls : List Call) (schema : RegionSchema)
    (segmentId : SegmentId) (slot : DateTime) : Nat :=
  rows.booking.toList.countP (confirmedUse calls schema segmentId slot)

theorem use_unconfirmed {rows : BookingRows}
    (unconfirmed : rows.booking.map (·.status) ≠ some .confirmed) :
    rows.use calls schema segmentId slot = 0 := by
  refine List.countP_eq_zero.mpr ?_
  intro row member used
  have found : rows.booking = some row := by simpa using member
  simp only [confirmedUse, Bool.and_eq_true, decide_eq_true_eq] at used
  exact unconfirmed (by rw [found, Option.map_some, used.1])

theorem confirmedUses_eq (place : Vm) : confirmedUses calls tables schema segmentId slot =
    (tables place).bookings.rows.countP (confirmedUse calls schema segmentId slot) +
      (tables place.peer).bookings.rows.countP (confirmedUse calls schema segmentId slot) := by
  rw [confirmedUses, List.countP_append]
  cases place with
  | vm1 => rfl
  | vm2 => exact Nat.add_comm _ _

theorem confirmedUses_elsewhere (place : Vm)
    (others : ∀ other, other ≠ id → ∀ vm, (next vm).rowsOf other = (tables vm).rowsOf other) :
    confirmedUses calls next schema segmentId slot +
        (((tables place).rowsOf id).use calls schema segmentId slot +
          ((tables place.peer).rowsOf id).use calls schema segmentId slot) =
      confirmedUses calls tables schema segmentId slot +
        (((next place).rowsOf id).use calls schema segmentId slot +
          ((next place.peer).rowsOf id).use calls schema segmentId slot) := by
  have own := countP_bookings_elsewhere (fun other different => others other different place)
    (confirmedUse calls schema segmentId slot)
  have peer := countP_bookings_elsewhere (fun other different => others other different place.peer)
    (confirmedUse calls schema segmentId slot)
  rw [confirmedUses_eq place, confirmedUses_eq place]
  simp only [BookingRows.use]
  omega

theorem confirmedUses_append {call : Call}
    (same : ∀ place, ∀ row ∈ (tables place).bookings.rows,
      routeOf (calls ++ [call]) row.id = routeOf calls row.id) :
    confirmedUses (calls ++ [call]) tables schema segmentId slot =
      confirmedUses calls tables schema segmentId slot := by
  refine List.countP_congr ?_
  intro row member
  have known : routeOf (calls ++ [call]) row.id = routeOf calls row.id := by
    rcases List.mem_append.mp member with first | second
    · exact same .vm1 row first
    · exact same .vm2 row second
  simp only [confirmedUse, known]

theorem routeOf_cancel (driverId : DriverId) (other : BookingId) :
    routeOf (calls ++ [.cancelBooking vm id driverId]) other = routeOf calls other := by
  rw [routeOf_append]
  simp [routeOf]

theorem createdIds_cancel (driverId : DriverId) :
    createdIds (calls ++ [.cancelBooking vm id driverId]) = createdIds calls := by
  simp [createdIds, List.filterMap_append]

theorem cancelBooking_cases (environment : Environment) (driverId : DriverId) :
    ((cancelBooking environment vm id tables driverId).tables = tables ∧
      cancelsConfirmed tables (.cancelBooking vm id driverId) = false) ∨
    ∃ booking, ((tables vm).rowsOf id).booking = some booking ∧
      cancelsConfirmed tables (.cancelBooking vm id driverId) =
        decide (booking.status = .confirmed) ∧
      (cancelBooking environment vm id tables driverId).tables =
        .set vm (cancelBookingRows (tables vm) id) (tables vm.peer) := by
  simp only [cancelBooking, cancelsConfirmed]
  cases found : (tables vm).bookings.find? id with
  | none => exact .inl ⟨rfl, rfl⟩
  | some booking =>
      by_cases foreign : booking.driverId = driverId
      · by_cases already : booking.status = .cancelled
        · exact .inl (by simp [foreign, already])
        · exact .inr ⟨booking, found, by simp [foreign], by simp [foreign, already]⟩
      · exact .inl (by simp [foreign])

theorem counts_cancel {driverId : DriverId} {booking : Booking}
    (found : ((tables vm).rowsOf id).booking = some booking) :
    (∀ place, bookedCount ((Tables.set vm (cancelBookingRows (tables vm) id) (tables vm.peer)) place)
        schema segmentId slot = bookedCount (tables place) schema segmentId slot) ∧
      confirmedUses (calls ++ [.cancelBooking vm id driverId])
          (.set vm (cancelBookingRows (tables vm) id) (tables vm.peer)) schema segmentId slot +
        ((tables vm).rowsOf id).use calls schema segmentId slot =
      confirmedUses calls tables schema segmentId slot := by
  have others : ∀ other, other ≠ id → ∀ place,
      ((Tables.set vm (cancelBookingRows (tables vm) id) (tables vm.peer)) place).rowsOf other =
        (tables place).rowsOf other := by
    intro other different place
    have own : (cancelBookingRows (tables vm) id).rowsOf other = (tables vm).rowsOf other := by
      rw [rowsOf_cancelBookingRows, if_neg different]
    cases vm <;> cases place <;> first | exact own | rfl
  constructor
  · intro place
    cases vm <;> cases place <;> rfl
  · have moved := @confirmedUses_elsewhere calls tables
      (.set vm (cancelBookingRows (tables vm) id) (tables vm.peer)) id schema segmentId slot vm others
    have gone : ((cancelBookingRows (tables vm) id).rowsOf id).use calls schema segmentId slot = 0 := by
      refine use_unconfirmed ?_
      rw [rowsOf_cancelBookingRows, if_pos rfl]
      simp [BookingRows.cancelBooking, BookingRows.setStatus, BookingRows.cancelSegments, found]
    rw [Tables.set_own, Tables.set_peer, gone] at moved
    rw [confirmedUses_append fun _ row _ => routeOf_cancel driverId row.id]
    omega

theorem conserved_cancelled {driverId : DriverId} (conserved : Conserved owner calls tables) :
    Conserved owner (calls ++ [.cancelBooking vm id driverId]) tables := by
  intro region segmentId slot
  rw [confirmedUses_append fun _ row _ => routeOf_cancel driverId row.id]
  exact conserved region segmentId slot

theorem Ledger.cancel {driverId : DriverId} (ledger : Ledger owner calls tables)
    (harmless : cancelsConfirmed tables (.cancelBooking vm id driverId) = false) :
    Ledger owner (calls ++ [.cancelBooking vm id driverId])
      (cancelBooking .faultless vm id tables driverId).tables := by
  rcases @cancelBooking_cases tables vm id .faultless driverId with
    ⟨same, _⟩ | ⟨booking, found, hits, after⟩
  · rw [same]
    refine ⟨?_, ?_, conserved_cancelled ledger.conserved⟩
    · rw [createdIds_cancel]
      exact ledger.unborn
    · intro place other row stored status
      rw [routeOf_cancel]
      exact ledger.routed place other row stored status
  · have unconfirmed : booking.status ≠ .confirmed := by
      simpa using hits.symm.trans harmless
    rw [after]
    have rowsOf : ∀ place other,
        ((Tables.set vm (cancelBookingRows (tables vm) id) (tables vm.peer)) place).rowsOf other =
          if other = id ∧ place = vm then ((tables place).rowsOf other).cancelBooking
          else (tables place).rowsOf other := by
      intro place other
      have own := rowsOf_cancelBookingRows (tables vm) id other
      by_cases here : other = id
      · cases vm <;> cases place <;> first | simpa [Tables.set, here] using own | simp [Tables.set, Vm.peer]
      · cases vm <;> cases place <;> first | simpa [Tables.set, here] using own | simp [Tables.set, Vm.peer]
    refine ⟨?_, ?_, ?_⟩
    · intro other unborn place
      rw [createdIds_cancel] at unborn
      rw [rowsOf, ledger.unborn other unborn]
      split
      · rfl
      · rfl
    · intro place other row stored status
      rw [routeOf_cancel]
      rw [rowsOf] at stored
      split at stored
      · obtain ⟨before, _, rfl⟩ := Option.map_eq_some_iff.mp stored
        cases status
      · exact ledger.routed place other row stored status
    · intro region segmentId slot
      obtain ⟨booked, uses⟩ := @counts_cancel calls tables vm id (regionSchemaMap region) segmentId
        slot driverId booking found
      have unused : ((tables vm).rowsOf id).use calls (regionSchemaMap region) segmentId slot = 0 := by
        refine use_unconfirmed ?_
        simpa [found] using unconfirmed
      have before := ledger.conserved region segmentId slot
      rw [booked, before]
      omega

/-- The capacity of a cancelled CONFIRMED booking is still counted. -/
theorem Ledger.unconserved {driverId : DriverId} (ledger : Ledger owner calls tables)
    (hit : cancelsConfirmed tables (.cancelBooking vm id driverId) = true) :
    ¬Conserved owner (calls ++ [.cancelBooking vm id driverId])
      (cancelBooking .faultless vm id tables driverId).tables := by
  rcases @cancelBooking_cases tables vm id .faultless driverId with
    ⟨_, harmless⟩ | ⟨booking, found, hits, after⟩
  · exact nomatch harmless.symm.trans hit
  · have confirmed : booking.status = .confirmed := by simpa using hits.symm.trans hit
    have ofId : booking.id = id := (Database.mem_of_rowsOf found).2
    obtain ⟨route, known⟩ := ledger.routed vm id booking found confirmed
    obtain ⟨segment, rest, segments⟩ := List.exists_cons_of_ne_nil route.nonempty
    intro conserved
    rw [after] at conserved
    have before := ledger.conserved segment.region segment.segmentId segment.slotStart
    have later := conserved segment.region segment.segmentId segment.slotStart
    obtain ⟨booked, uses⟩ := @counts_cancel calls tables vm id (regionSchemaMap segment.region)
      segment.segmentId segment.slotStart driverId booking found
    have used : ((tables vm).rowsOf id).use calls (regionSchemaMap segment.region)
        segment.segmentId segment.slotStart = 1 := by
      have occupied : segment.occupies (regionSchemaMap segment.region) segment.segmentId
          segment.slotStart = true := by
        simp [RouteSegment.occupies, RouteSegment.schema]
      simp [BookingRows.use, found, confirmedUse, confirmed, ofId, known, Route.uses, segments, occupied]
    rw [booked] at later
    omega

theorem routeOf_create {request : BookingRequest} {route : Option Route}
    (fresh : id ∉ createdIds calls) :
    routeOf (calls ++ [.createBooking vm id request route]) id = route := by
  rw [routeOf_append, routeOf_eq_none fresh]
  cases route <;> simp [routeOf]

theorem routeOf_create_other {request : BookingRequest} {route : Option Route} {other : BookingId}
    (different : other ≠ id) :
    routeOf (calls ++ [.createBooking vm id request route]) other = routeOf calls other := by
  rw [routeOf_append]
  simp [routeOf, Ne.symm different]

theorem Created.balanced {draft : BookingDraft} {route : Option Route} {own peer : BookingRows}
    {region : Region} {place : BookingRows}
    (left : Created (.assigned owner) vm id draft route own peer) (known : routeOf calls id = route)
    (here : (owner region = vm ∧ place = own) ∨ (owner region = vm.peer ∧ place = peer)) :
    place.booked (regionSchemaMap region) segmentId slot =
      own.use calls (regionSchemaMap region) segmentId slot +
        peer.use calls (regionSchemaMap region) segmentId slot := by
  cases left with
  | failed route own peer rejected freed absent freedPeer =>
      have unused : own.use calls (regionSchemaMap region) segmentId slot = 0 :=
        use_unconfirmed (by rw [rejected]; decide)
      have unusedPeer : peer.use calls (regionSchemaMap region) segmentId slot = 0 :=
        use_unconfirmed (by rw [absent]; decide)
      rw [unused, unusedPeer]
      rcases here with ⟨_, rfl⟩ | ⟨_, rfl⟩
      · exact booked_inactive freed
      · exact booked_inactive freedPeer
  | confirmed route =>
      have used : ({ (BookingRows.none.store id draft.driverId
            (localSegments (.assigned owner) vm route.segments)) with
            booking := some (confirmedBooking draft id route) } : BookingRows).use calls
          (regionSchemaMap region) segmentId slot =
          if route.uses (regionSchemaMap region) segmentId slot = true then 1 else 0 := by
        have ofId : (confirmedBooking draft id route).id = id := rfl
        have status : (confirmedBooking draft id route).status = .confirmed := rfl
        simp [BookingRows.use, confirmedUse, ofId, status, known, List.countP_cons]
      have unused : (BookingRows.none.reserve id draft.driverId
          (remoteSegments (.assigned owner) vm route.segments)).use calls (regionSchemaMap region)
          segmentId slot = 0 := rfl
      rw [used, unused, Nat.add_zero]
      rcases here with ⟨kept, rfl⟩ | ⟨away, rfl⟩
      · exact booked_created.1 kept
      · exact booked_created.2 away

theorem Ledger.create {request : BookingRequest} {route : Option Route}
    (ledger : Ledger owner calls tables) (fresh : id ∉ createdIds calls) :
    Ledger owner (calls ++ [.createBooking vm id request route])
      (createBooking (.assigned owner) .faultless vm id tables request route).tables := by
  have empty := ledger.unborn id fresh
  have left := @created (.assigned owner) .faultless vm id tables request empty route
  have others : ∀ other, other ≠ id → ∀ place,
      ((createBooking (.assigned owner) .faultless vm id tables request route).tables place).rowsOf
        other = (tables place).rowsOf other := by
    intro other different place
    exact rowsOf_perform_other (.createBooking vm id request route) (Ne.symm different) place
  generalize (createBooking (.assigned owner) .faultless vm id tables request route).tables = next
    at left others ⊢
  refine ⟨?_, ?_, ?_⟩
  · intro other unborn place
    rw [mem_createdIds_append, not_or] at unborn
    have different : other ≠ id := by
      rintro rfl
      exact unborn.2 (by simp [createdIds])
    rw [others other different]
    exact ledger.unborn other unborn.1 place
  · intro place other row stored status
    by_cases same : other = id
    · subst same
      rw [routeOf_create fresh]
      have own : place = vm ∨ place = vm.peer := by cases vm <;> cases place <;> decide
      rcases own with rfl | rfl
      · generalize (next place).rowsOf other = rows at left stored
        generalize (next place.peer).rowsOf other = rest at left
        cases left with
        | failed route own peer rejected freed absent freedPeer =>
            rw [stored, Option.map_some, status] at rejected
            exact nomatch rejected
        | confirmed route => exact ⟨route, rfl⟩
      · generalize (next vm.peer).rowsOf other = rows at left stored
        generalize (next vm).rowsOf other = rest at left
        cases left with
        | failed route own peer rejected freed absent freedPeer =>
            exact nomatch absent.symm.trans stored
        | confirmed route => exact nomatch stored
    · rw [routeOf_create_other same]
      rw [others other same] at stored
      exact ledger.routed place other row stored status
  · intro region segmentId slot
    have counted := @bookedCount_elsewhere (tables (owner region)) (next (owner region)) id
      (regionSchemaMap region) segmentId slot fun other different => others other different _
    have used := @confirmedUses_elsewhere (calls ++ [.createBooking vm id request route]) tables next
      id (regionSchemaMap region) segmentId slot vm others
    have nothing : (BookingRows.none).booked (regionSchemaMap region) segmentId slot = 0 := rfl
    have unused : (BookingRows.none).use (calls ++ [.createBooking vm id request route])
      (regionSchemaMap region) segmentId slot = 0 := rfl
    rw [empty, nothing] at counted
    rw [empty, empty, unused] at used
    have appended := @confirmedUses_append calls tables (regionSchemaMap region) segmentId slot
      (.createBooking vm id request route) ?_
    · have balanced := @Created.balanced owner (calls ++ [.createBooking vm id request route]) vm id
        segmentId slot _ route _ _ region ((next (owner region)).rowsOf id) left
        (routeOf_create fresh) ?_
      · have before := ledger.conserved region segmentId slot
        omega
      · cases vm <;> cases at_owner : owner region <;> simp [Vm.peer]
    · intro place row member
      refine routeOf_create_other ?_
      intro same
      have stored := Database.rowsOf_of_mem member
      rw [same, empty] at stored
      exact nomatch stored

theorem Ledger.initial (capacity : Vm → RegionSchema → SegmentId → Option Nat)
    (users : Vm → DriverId → Option (Option Plate)) :
    Ledger owner [] fun place => .unbooked (capacity place) (users place) where
  unborn := fun _ _ _ => rfl
  routed := fun _ _ _ stored => nomatch stored
  conserved := fun _ _ _ => rfl

theorem Ledger.step {call : Call} (ledger : Ledger owner calls tables)
    (distinct : (createdIds (calls ++ [call])).Nodup)
    (harmless : cancelsConfirmed tables call = false) :
    Ledger owner (calls ++ [call]) (call.perform (.assigned owner) .faultless tables).tables := by
  cases call with
  | cancelBooking vm id driverId => exact ledger.cancel harmless
  | createBooking vm id request route =>
      have fresh : id ∉ createdIds calls := by
        simp only [createdIds, List.filterMap_append] at distinct
        exact fun again => (List.nodup_append.mp distinct).2.2 id again id (by simp) rfl
      exact ledger.create fresh

theorem performCalls_append (call : Call) :
    performCalls owner tables (calls ++ [call]) =
      (call.perform (.assigned owner) .faultless (performCalls owner tables calls)).tables := by
  simp [performCalls, List.foldl_append]

theorem ledger_of_harmless {start : Tables} (initial : Ledger owner [] start)
    (distinct : (createdIds calls).Nodup)
    (harmless : ∀ done call rest, calls = done ++ call :: rest →
      cancelsConfirmed (performCalls owner start done) call = false) :
    Ledger owner calls (performCalls owner start calls) := by
  induction calls using List.reverseRecOn with
  | nil => exact initial
  | append_singleton calls call ih =>
      have before : Ledger owner calls (performCalls owner start calls) := by
        refine ih ?_ ?_
        · rw [createdIds, List.filterMap_append] at distinct
          exact (List.nodup_append.mp distinct).1
        · rintro done other rest rfl
          exact harmless done other (rest ++ [call]) (by simp)
      rw [performCalls_append]
      exact before.step distinct (harmless calls call [] rfl)

/-- Capacity is conserved by a history of calls, after each of them, if and only if none of
them cancels a booking that is CONFIRMED. -/
theorem conserved_iff_harmless {capacity : Vm → RegionSchema → SegmentId → Option Nat}
    {users : Vm → DriverId → Option (Option Plate)} (distinct : (createdIds calls).Nodup) :
    (∀ done, done <+: calls → Conserved owner done
        (performCalls owner (fun place => .unbooked (capacity place) (users place)) done)) ↔
      ∀ done call rest, calls = done ++ call :: rest → cancelsConfirmed
        (performCalls owner (fun place => .unbooked (capacity place) (users place)) done) call =
          false := by
  have initial := @Ledger.initial owner capacity users
  generalize (fun place : Vm => Database.unbooked (capacity place) (users place)) = start
    at initial ⊢
  have part : ∀ done, done <+: calls → (createdIds done).Nodup := by
    intro done begun
    exact distinct.sublist (begun.sublist.filterMap _)
  constructor
  · intro conserved
    -- up to the first cancellation of a CONFIRMED booking the history is in order
    have harmless : ∀ done, done <+: calls → ∀ first call rest, done = first ++ call :: rest →
        cancelsConfirmed (performCalls owner start first) call = false := by
      intro done
      induction done using List.reverseRecOn with
      | nil => exact fun _ first call rest same => by simp at same
      | append_singleton done last ih =>
          intro begun first call rest same
          have shorter : done <+: calls := (List.prefix_append done [last]).trans begun
          rcases List.eq_nil_or_concat rest with rfl | ⟨rest, final, rfl⟩
          · obtain ⟨rfl, rfl⟩ : done = first ∧ last = call := by
              simpa using List.append_inj' same rfl
            by_contra hits
            have ledger := ledger_of_harmless initial (part done shorter) (ih shorter)
            have after := conserved (done ++ [last]) begun
            rw [performCalls_append] at after
            cases last with
            | createBooking vm id request route => exact hits rfl
            | cancelBooking vm id driverId =>
                exact ledger.unconserved (by simpa using hits) after
          · have inside : done = first ++ call :: rest := by
              have whole : done ++ [last] = (first ++ call :: rest) ++ [final] := by
                rw [same]
                simp
              exact (List.append_inj' whole rfl).1
            exact ih shorter first call rest inside
    exact harmless calls (List.prefix_refl calls)
  · rintro harmless done begun
    obtain ⟨left, rfl⟩ := begun
    have ledger := ledger_of_harmless initial (part done (List.prefix_append done left)) ?_
    · exact ledger.conserved
    · rintro first call rest rfl
      exact harmless first call (rest ++ left) (by simp)

end

/-! ### A booking across the border, and a cancelled one -/

def irelandApart (region : Region) : Vm := if region = .euWestIreland then .vm1 else .vm2

def bookingAcross : List Call := [.createBooking .vm1 10 request (some crossingRoute)]

def bookingCancelled : List Call :=
  [.createBooking .vm1 10 request (some (.single irishSegment 45)), .cancelBooking .vm1 10 7]

theorem conserved_bookingAcross :
    (∀ done, done <+: bookingAcross → Conserved irelandApart done
        (performCalls irelandApart (fun _ => .unbooked (fun _ _ => some 100) fun _ => none) done)) ↔
      ∀ done call rest, bookingAcross = done ++ call :: rest → cancelsConfirmed
        (performCalls irelandApart (fun _ => .unbooked (fun _ _ => some 100) fun _ => none) done)
          call = false :=
  @conserved_iff_harmless irelandApart bookingAcross (fun _ _ _ => some 100) (fun _ _ => none)
    (by decide)

/-- The slot of a cancelled booking stays taken. -/
theorem unconserved_bookingCancelled :
    ¬ ∀ (owner : Region → Vm) (capacity : Vm → RegionSchema → SegmentId → Option Nat)
      (users : Vm → DriverId → Option (Option Plate)) (calls : List Call),
      (createdIds calls).Nodup → ∀ done, done <+: calls → Conserved owner done
        (performCalls owner (fun place => .unbooked (capacity place) (users place)) done) := by
  intro holds
  have conserved := holds irelandApart (fun _ _ _ => some 100) (fun _ _ => none) bookingCancelled
    (by decide) bookingCancelled (List.prefix_refl _) .euWestIreland 1 0
  have counted : bookedCount (performCalls irelandApart
      (fun _ => .unbooked (fun _ _ => some 100) fun _ => none) bookingCancelled .vm1) .regionIreland
      1 0 = 1 := by decide
  have used : confirmedUses bookingCancelled (performCalls irelandApart
      (fun _ => .unbooked (fun _ _ => some 100) fun _ => none) bookingCancelled) .regionIreland
      1 0 = 0 := by decide
  exact nomatch counted.symm.trans (conserved.trans used)

end TrafficService
