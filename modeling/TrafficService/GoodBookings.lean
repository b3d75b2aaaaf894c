import TrafficService.Admission

/-! What reconciliation passes, whenever and wherever they run, do to a booking that went
through. -/

namespace TrafficService

/-- What may happen between two looks at a booking: other calls, and passes at any time. -/
inductive Activity
  | call (environment : Environment) (served : Call)
  | pass (vm : Vm) (now : DateTime)

def Activity.avoids (id : BookingId) : Activity → Prop
  | .call _ served => served.bookingId ≠ id
  | .pass .. => True

def Activity.perform (deployment : Deployment) (tables : Tables) : Activity → Tables
  | .call environment served => (served.perform deployment environment tables).tables
  | .pass vm now => Function.update tables vm (runReconciliationOnce (tables vm) now).db

def performAll (deployment : Deployment) (tables : Tables) (activities : List Activity) : Tables :=
  activities.foldl (Activity.perform deployment) tables

structure Intact (vm : Vm) (id : BookingId) (before after : Tables) : Prop where
  confirmed : (after vm).status? id = some .confirmed
  active : ∀ place schema row, row ∈ ((before place).rowsOf id).regional schema →
    row.status.active = true → row ∈ ((after place).rowsOf id).regional schema

section

variable {deployment : Deployment} {environment : Environment} {vm : Vm} {id : BookingId}
  {tables : Tables} {request : BookingRequest} {route : Route}

theorem rowsOf_pass (tables : Tables) (vm place : Vm) (now : DateTime) (id : BookingId) :
    ((Activity.perform deployment tables (.pass vm now)) place).rowsOf id =
      if place = vm then ((tables place).rowsOf id).reconcile now else (tables place).rowsOf id := by
  simp only [Activity.perform]
  by_cases here : place = vm
  · subst here
    rw [Function.update_self, if_pos rfl, rowsOf_runReconciliationOnce]
  · rw [Function.update_of_ne here, if_neg here]

/-- Rows that no pass changes stay through everything that happens to other bookings. -/
theorem rowsOf_performAll
    (settled : ∀ place now, ((tables place).rowsOf id).reconcile now = (tables place).rowsOf id)
    {activities : List Activity} (avoid : ∀ activity ∈ activities, activity.avoids id) (place : Vm) :
    ((performAll deployment tables activities) place).rowsOf id = (tables place).rowsOf id := by
  induction activities generalizing tables with
  | nil => rfl
  | cons activity rest ih =>
      have kept : ∀ place,
          ((Activity.perform deployment tables activity) place).rowsOf id =
            (tables place).rowsOf id := by
        intro place
        cases activity with
        | call environment served =>
            exact rowsOf_perform_other served (avoid _ List.mem_cons_self) place
        | pass vm now =>
            rw [rowsOf_pass]
            split
            · exact settled place now
            · rfl
      have settledNext : ∀ place now,
          (((Activity.perform deployment tables activity) place).rowsOf id).reconcile now =
            ((Activity.perform deployment tables activity) place).rowsOf id := by
        intro place now
        rw [kept, settled]
      have later := ih settledNext fun other member => avoid other (List.mem_cons_of_mem _ member)
      exact later.trans (kept place)

def bookedRows (deployment : Deployment) (vm : Vm) (id : BookingId) (draft : BookingDraft)
    (route : Route) : BookingRows :=
  { BookingRows.none.store id draft.driverId (localSegments deployment vm route.segments) with
    booking := some (confirmedBooking draft id route) }

theorem dangling_bookedRows {draft : BookingDraft} {now : DateTime} :
    (bookedRows deployment vm id draft route).dangling now = true ↔
      draft.createdAt < now - 2 * minute ∧ localSegments deployment vm route.segments = [] := by
  have status : (confirmedBooking draft id route).status = .confirmed := rfl
  have created : (confirmedBooking draft id route).createdAt = draft.createdAt := rfl
  simp only [BookingRows.dangling, bookedRows, Option.any_some, Booking.confirmedLongAgo, status,
    created, BookingRows.store, BookingRows.none, List.nil_append, Bool.and_eq_true,
    decide_eq_true_eq, true_and, Bool.not_eq_true', and_congr_right_iff]
  intro _
  cases localSegments deployment vm route.segments with
  | nil => simp
  | cons segment rest => simp [RouteSegment.segmentReservation]

theorem booked_of_confirmed (fresh : ∀ place, (tables place).rowsOf id = .none)
    (booked : ((createBooking deployment environment vm id tables request (some route)).tables
      vm).status? id = some .confirmed) :
    ((createBooking deployment environment vm id tables request (some route)).tables vm).rowsOf id =
        bookedRows deployment vm id (request.draft (tables vm)) route ∧
      (((createBooking deployment environment vm id tables request (some route)).tables
        vm.peer).rowsOf id).booking = none := by
  have left := @created deployment environment vm id tables request fresh (some route)
  rw [Database.status?_eq] at booked
  generalize ((createBooking deployment environment vm id tables request (some route)).tables
    vm).rowsOf id = own at left booked ⊢
  generalize ((createBooking deployment environment vm id tables request (some route)).tables
    vm.peer).rowsOf id = peer at left ⊢
  cases left with
  | failed route own peer rejected freed absent freedPeer =>
      exact nomatch rejected.symm.trans booked
  | confirmed route => exact ⟨rfl, rfl⟩

/-- A booking that went through outlives every pass if and only if one of its segments is
kept by the VM that made it. -/
theorem intact_iff_local (fresh : ∀ place, (tables place).rowsOf id = .none)
    (booked : ((createBooking deployment environment vm id tables request (some route)).tables
      vm).status? id = some .confirmed) :
    (∀ activities : List Activity, (∀ activity ∈ activities, activity.avoids id) →
        Intact vm id (createBooking deployment environment vm id tables request (some route)).tables
          (performAll deployment
            (createBooking deployment environment vm id tables request (some route)).tables
            activities)) ↔
      ∃ segment ∈ route.segments, deployment.isLocal vm segment.region = true := by
  obtain ⟨own, peer⟩ := booked_of_confirmed fresh booked
  generalize (createBooking deployment environment vm id tables request (some route)).tables = after
    at own peer booked ⊢
  have present : ((after vm).rowsOf id).booking =
      some (confirmedBooking (request.draft (tables vm)) id route) := by
    rw [own]
    rfl
  constructor
  · intro kept
    by_contra remote
    have noneLocal : localSegments deployment vm route.segments = [] := by
      refine List.filter_eq_nil_iff.mpr ?_
      intro segment member here
      exact remote ⟨segment, member, here⟩
    let now : DateTime := request.createdAt + 2 * minute + 1
    have cancelled := (kept [.pass vm now] (by simp [Activity.avoids])).confirmed
    have dangling : ((after vm).rowsOf id).dangling now = true := by
      rw [own, dangling_bookedRows]
      have later (time span : Int) : time < time + span + 1 - span := by omega
      exact ⟨later request.createdAt (2 * minute), noneLocal⟩
    rw [Database.status?_eq, performAll, List.foldl_cons, List.foldl_nil, rowsOf_pass, if_pos rfl,
      BookingRows.reconcile_dangling present dangling] at cancelled
    simp [BookingRows.cancelDangling, BookingRows.setStatus, BookingRows.cancelRegional,
      present] at cancelled
  · rintro ⟨segment, member, here⟩ activities avoid
    have some_local : localSegments deployment vm route.segments ≠ [] := by
      refine List.ne_nil_of_mem (List.mem_filter.mpr ⟨member, here⟩)
    have settled : ∀ place now, ((after place).rowsOf id).reconcile now = (after place).rowsOf id := by
      intro place now
      have cases : place = vm ∨ place = vm.peer := by cases vm <;> cases place <;> decide
      rcases cases with rfl | rfl
      · refine BookingRows.reconcile_confirmed present rfl ?_
        rw [own]
        by_contra dangling
        exact some_local (dangling_bookedRows.mp (by simpa using dangling)).2
      · exact BookingRows.reconcile_absent peer
    have rows := fun place => @rowsOf_performAll deployment id after settled activities avoid place
    constructor
    · rw [Database.status?_eq, rows, present]
      rfl
    · intro place schema row member _
      rw [rows]
      exact member

end

/-! ### Across the border and wholly beyond it -/

def smallRoadNetwork : Tables := fun _ => .unbooked (fun _ _ => some 100) fun _ => none

theorem intact_crossingRoute :
    (∀ activities : List Activity, (∀ activity ∈ activities, activity.avoids 10) →
        Intact .vm1 10
          (createBooking twoVms .faultless .vm1 10 smallRoadNetwork request (some crossingRoute)).tables
          (performAll twoVms
            (createBooking twoVms .faultless .vm1 10 smallRoadNetwork request
              (some crossingRoute)).tables activities)) ↔
      ∃ segment ∈ crossingRoute.segments, twoVms.isLocal .vm1 segment.region = true :=
  intact_iff_local (fun _ => rfl) (by decide)

/-- One pass, an hour later, cancels a booking whose only segment the peer keeps. -/
theorem cancelled_remoteRoute :
    ¬ ∀ (deployment : Deployment) (environment : Environment) (vm : Vm) (id : BookingId)
      (tables : Tables) (request : BookingRequest) (route : Route) (passes : List (Vm × DateTime)),
      (∀ place, (tables place).rowsOf id = .none) →
      ((createBooking deployment environment vm id tables request (some route)).tables vm).status? id =
        some .confirmed →
      Intact vm id (createBooking deployment environment vm id tables request (some route)).tables
        (performAll deployment
          (createBooking deployment environment vm id tables request (some route)).tables
          (passes.map fun pass => .pass pass.1 pass.2)) := by
  intro holds
  have kept := holds twoVms .faultless .vm1 10 smallRoadNetwork request (.single ukSegment 45)
    [(.vm1, hour)] (fun _ => rfl) (by decide)
  have cancelled : ((performAll twoVms (createBooking twoVms .faultless .vm1 10 smallRoadNetwork
      request (some (.single ukSegment 45))).tables [.pass .vm1 hour]) .vm1).status? 10 =
      some .cancelled := by decide
  exact nomatch kept.confirmed.symm.trans cancelled

end TrafficService
