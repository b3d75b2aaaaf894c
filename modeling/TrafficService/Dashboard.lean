import TrafficService.Convergence
import TrafficService.EventConsumers
import Mathlib.Algebra.BigOperators.Group.Finset.Basic

/-!
The dashboard of the analytics service over the bookings whose events its consumer has handled:
it counts rows, and a confirmed booking leaves one for each segment of its route.
-/

namespace TrafficService

/-! ### The dashboard -/

def bump {Key : Type} [DecidableEq Key] (counts : Key → Option Nat) (key : Key) : Key → Option Nat :=
  Function.update counts key (some ((counts key).getD 0 + 1))

structure DashboardStats where
  totalBookings : Nat
  confirmed : Nat
  cancelled : Nat
  failed : Nat
  byRegion : Region → Option Nat

def countEvent (counts : (EventType → Option Nat) × (Region → Option Nat)) (e : BookingEvent) :
    (EventType → Option Nat) × (Region → Option Nat) :=
  let (byType, byRegion) := counts
  (bump byType e.eventType,
    match e.region with
    | none => byRegion
    | some region => bump byRegion region)

def dashboard (events : List BookingEvent) : DashboardStats :=
  let (byType, byRegion) := events.foldl countEvent (fun _ => none, fun _ => none)
  { totalBookings := events.length
    confirmed := (byType .bookingConfirmed).getD 0
    cancelled := (byType .bookingCancelled).getD 0
    failed := (byType .bookingFailed).getD 0
    byRegion }

theorem getD_bump {Key : Type} [DecidableEq Key] (counts : Key → Option Nat) (key other : Key) :
    (bump counts key other).getD 0 = (counts other).getD 0 + if key = other then 1 else 0 := by
  by_cases same : key = other
  · subst same
    simp [bump]
  · simp [bump, Function.update_of_ne (Ne.symm same), same]

theorem foldl_countEvent (rows : List BookingEvent)
    (counts : (EventType → Option Nat) × (Region → Option Nat)) (type : EventType)
    (region : Region) :
    ((rows.foldl countEvent counts).1 type).getD 0 =
        (counts.1 type).getD 0 + rows.countP (fun row => row.eventType = type) ∧
      ((rows.foldl countEvent counts).2 region).getD 0 =
        (counts.2 region).getD 0 + rows.countP (fun row => row.region = some region) := by
  induction rows generalizing counts with
  | nil => simp
  | cons row rest ih =>
      obtain ⟨types, regions⟩ := ih (countEvent counts row)
      rw [List.foldl_cons, types, regions, List.countP_cons, List.countP_cons]
      constructor
      · simp only [countEvent, getD_bump, decide_eq_true_eq]
        omega
      · cases here : row.region with
        | none => simp [countEvent, here]
        | some other =>
            simp only [countEvent, here, getD_bump, Option.some_inj, decide_eq_true_eq]
            omega

theorem dashboard_counts (rows : List BookingEvent) :
    (dashboard rows).confirmed = rows.countP (fun row => row.eventType = .bookingConfirmed) ∧
      (dashboard rows).cancelled = rows.countP (fun row => row.eventType = .bookingCancelled) ∧
      (dashboard rows).failed = rows.countP (fun row => row.eventType = .bookingFailed) ∧
      ∀ region, ((dashboard rows).byRegion region).getD 0 =
        rows.countP fun row => row.region = some region := by
  have counted := foldl_countEvent rows (fun _ => none, fun _ => none)
  refine ⟨?_, ?_, ?_, ?_⟩
  · simpa [dashboard] using (counted .bookingConfirmed .euWestIreland).1
  · simpa [dashboard] using (counted .bookingCancelled .euWestIreland).1
  · simpa [dashboard] using (counted .bookingFailed .euWestIreland).1
  · intro region
    simpa [dashboard] using (counted .bookingConfirmed region).2

/-! ### The rows of an event -/

def announced (type : EventType) (events : List Event) : List BookingId :=
  (events.filter fun event => event.eventType = type).map Event.bookingId

theorem eventType_handleEvent {event : Event} {row : BookingEvent}
    (recorded : row ∈ Analytics.handleEvent event) : row.eventType = event.eventType := by
  simp only [Analytics.handleEvent] at recorded
  split at recorded
  · rw [List.mem_singleton.mp recorded]
    rfl
  · obtain ⟨segment, _, rfl⟩ := List.mem_map.mp recorded
    rfl

theorem length_handleEvent (event : Event) :
    (Analytics.handleEvent event).length = max 1 event.segments.length := by
  simp only [Analytics.handleEvent]
  split
  · rename_i none
    simp [none]
  · rename_i some
    rw [List.length_map]
    have := List.length_pos_of_ne_nil some
    omega

theorem countP_handleEvent (event : Event) (type : EventType) :
    (Analytics.handleEvent event).countP (fun row => row.eventType = type) =
      if event.eventType = type then max 1 event.segments.length else 0 := by
  split
  · rename_i same
    rw [← length_handleEvent, List.countP_eq_length]
    intro row recorded
    simp [eventType_handleEvent recorded, same]
  · rename_i other
    rw [List.countP_eq_zero]
    intro row recorded
    simp [eventType_handleEvent recorded, other]

theorem countP_region_handleEvent (event : Event) (region : Region) :
    (Analytics.handleEvent event).countP (fun row => row.region = some region) =
      event.segments.countP fun segment => segment.2 = region := by
  simp only [Analytics.handleEvent]
  split
  · rename_i none
    simp [none, recordEvent]
  · rw [List.countP_map]
    simp [Function.comp_def, recordEvent]

theorem countP_recorded (events : List Event) (type : EventType) :
    (events.flatMap Analytics.handleEvent).countP (fun row => row.eventType = type) =
      ((events.filter fun event => event.eventType = type).map fun event =>
        max 1 event.segments.length).sum := by
  rw [List.countP_flatMap]
  induction events with
  | nil => rfl
  | cons event rest ih =>
      rw [List.map_cons, List.sum_cons, ih, Function.comp_apply, countP_handleEvent]
      by_cases same : event.eventType = type
      · simp [same]
      · simp [same]

theorem sum_eq_length_iff {counts : List Nat} (positive : ∀ count ∈ counts, 1 ≤ count) :
    counts.sum = counts.length ↔ ∀ count ∈ counts, count = 1 := by
  induction counts with
  | nil => simp
  | cons count rest ih =>
      have least := List.length_le_sum_of_one_le rest fun other member =>
        positive other (List.mem_cons_of_mem count member)
      have first := positive count List.mem_cons_self
      have later := ih fun other member => positive other (List.mem_cons_of_mem count member)
      rw [List.forall_mem_cons, ← later, List.sum_cons, List.length_cons]
      omega

theorem card_toFinset_eq_length {Key : Type} [DecidableEq Key] {keys : List Key} :
    keys.length = keys.toFinset.card ↔ keys.Nodup := by
  rw [← Multiset.coe_nodup, ← Multiset.toFinset_card_eq_card_iff_nodup, eq_comm]
  rfl

namespace Cluster

/-! ### At most one confirmation -/

def CreatePc.unpublished : CreatePc → Bool
  | .flush | .resolve | .reserve _ | .peerWait .. | .publishConfirmed => true
  | _ => false

def confirmations (id : BookingId) (events : List Event) : List Event :=
  events.filter fun event => event.eventType = .bookingConfirmed ∧ event.bookingId = id

def confirmationOf (id : BookingId) (draft : BookingDraft) (route : Route) : Event :=
  .bookingConfirmed id draft.driverId draft.plateNumber
    (route.segments.map fun segment => (segment.segmentId, segment.region)) draft.departureTime

structure Confirmation (id : BookingId) (run : CreateRun) (sent : List Event) : Prop where
  follows : FollowsRoute run
  ready : run.pc = .publishConfirmed →
    ∃ route, run.route = some route ∧ run.reserved = route.segments
  unpublished : CreatePc.unpublished run.pc = true → sent = []
  once : sent = [] ∨
    ∃ route, run.route = some route ∧ sent = [confirmationOf id run.draft route]

structure ConfirmedOnce (id : BookingId) (state : State) : Prop where
  unborn : state.runs id = none → confirmations id state.events = []
  run : ∀ run, state.runs id = some run → Confirmation id run (confirmations id state.events)

theorem confirmations_append (id : BookingId) (first second : List Event) :
    confirmations id (first ++ second) = confirmations id first ++ confirmations id second :=
  List.filter_append ..

theorem confirmations_of_other {id other : BookingId} {events : List Event} (different : id ≠ other)
    (about : ∀ event ∈ events, event.bookingId = other) : confirmations id events = [] := by
  refine List.filter_eq_nil_iff.mpr ?_
  intro event member
  simp [about event member, Ne.symm different]

section

variable {deployment : Deployment} {state next : State} {action : Action} {id : BookingId}
  {run : CreateRun} {answer : Answer} {outcome : Outcome} {events : List Event}

theorem confirmations_confirmedEvent {route : Route} (reserved : run.reserved = route.segments) :
    confirmations id [run.confirmedEvent id] = [confirmationOf id run.draft route] := by
  simp [confirmations, confirmationOf, CreateRun.confirmedEvent, reserved, Event.eventType,
    Event.bookingId]

@[simp] theorem confirmations_nil : confirmations id [] = [] := rfl

theorem confirmations_failedEvent : confirmations id [run.failedEvent id] = [] := rfl

theorem advance_confirms (moved : advance deployment id run answer = some outcome) :
    confirmations id outcome.published = [] ∨
      run.pc = .publishConfirmed ∧ outcome.published = [run.confirmedEvent id] := by
  revert moved
  fun_cases advance deployment id run answer
  all_goals
    intro moved
    cases moved
  all_goals
    simp_all [confirmations_failedEvent]

theorem advance_route (moved : advance deployment id run answer = some outcome) :
    run.pc = .resolve ∨ outcome.run.route = run.route := by
  revert moved
  fun_cases advance deployment id run answer
  all_goals
    intro moved
    cases moved
  all_goals
    simp_all

theorem advance_unpublished (moved : advance deployment id run answer = some outcome)
    (unpublished : CreatePc.unpublished outcome.run.pc = true) :
    CreatePc.unpublished run.pc = true ∧ confirmations id outcome.published = [] := by
  revert moved
  fun_cases advance deployment id run answer
  all_goals
    intro moved
    cases moved
  all_goals
    simp_all [CreatePc.unpublished]

theorem advance_ready (moved : advance deployment id run answer = some outcome)
    (publishes : outcome.run.pc = .publishConfirmed) :
    run.pc = .reserve [] ∧ outcome.run.route = run.route ∧ outcome.run.reserved = run.reserved := by
  revert moved
  fun_cases advance deployment id run answer
  all_goals
    intro moved
    cases moved
  all_goals
    simp_all

theorem Confirmation.advance {sent : List Event} (confirmation : Confirmation id run sent)
    (moved : advance deployment id run answer = some outcome) :
    Confirmation id outcome.run (sent ++ confirmations id outcome.published) := by
  refine ⟨confirmation.follows.advance moved, ?_, ?_, ?_⟩
  · intro publishes
    obtain ⟨here, route, reserved⟩ := advance_ready moved publishes
    have follows := confirmation.follows
    rw [FollowsRoute, here] at follows
    rw [route, reserved]
    simpa using follows
  · intro unpublished
    obtain ⟨before, silent⟩ := advance_unpublished moved unpublished
    rw [confirmation.unpublished before, silent, List.nil_append]
  · rw [(advance_keeps moved).2]
    rcases advance_confirms moved with silent | ⟨here, published⟩
    · rw [silent, List.append_nil]
      rcases advance_route moved with resolving | same
      · exact .inl (confirmation.unpublished (by rw [resolving]; rfl))
      · rw [same]
        exact confirmation.once
    · obtain ⟨route, known, reserved⟩ := confirmation.ready here
      have same := (advance_route moved).resolve_left (by rw [here]; rintro ⟨⟩)
      refine .inr ⟨route, same.trans known, ?_⟩
      rw [confirmation.unpublished (by rw [here]; rfl), published, List.nil_append]
      exact confirmations_confirmedEvent reserved

theorem ConfirmedOnce.of_same (confirmed : ConfirmedOnce id state)
    (runs : next.runs id = state.runs id)
    (sent : confirmations id next.events = confirmations id state.events) :
    ConfirmedOnce id next := by
  constructor
  · intro none
    rw [sent]
    exact confirmed.unborn (runs.symm.trans none)
  · intro run found
    rw [sent]
    exact confirmed.run run (runs.symm.trans found)

theorem confirmations_reports {target : BookingId} {published : List Event}
    (reports : ∀ event ∈ published, Reports state action target event) :
    confirmations id published = [] := by
  refine List.filter_eq_nil_iff.mpr ?_
  intro event member
  cases reports event member with
  | _ => simp [Event.eventType]

theorem ConfirmedOnce.step (confirmed : ConfirmedOnce id state)
    (stepped : Cluster.step deployment state action = some next) : ConfirmedOnce id next := by
  cases step_taken stepped with
  | idle frame =>
      refine confirmed.of_same (by rw [frame.runs]) ?_
      rw [frame.events, List.append_nil]
  | began vm target request isBegin fresh set =>
      subst set
      by_cases own : id = target
      · subst own
        have none := confirmed.unborn fresh
        refine ⟨fun _ => none, ?_⟩
        intro run found
        cases (Function.update_self ..).symm.trans found
        refine ⟨rfl, ?_, fun _ => none, .inl none⟩
        rintro ⟨⟩
      · exact confirmed.of_same (Function.update_of_ne own _ _) rfl
  | crashed target run isCrash found running set =>
      subst set
      by_cases own : id = target
      · subst own
        refine ⟨fun unborn => confirmed.unborn (by simp [setRun] at unborn), ?_⟩
        intro after foundAfter
        cases (Function.update_self ..).symm.trans foundAfter
        refine ⟨trivial, ?_, ?_, (confirmed.run run found).once⟩
        · rintro ⟨⟩
        · rintro ⟨⟩
      · exact confirmed.of_same (Function.update_of_ne own _ _) rfl
  | advanced before target answer run outcome frame source found moved applied =>
      obtain ⟨runs, _, _, events, _⟩ := applyOutcome_effect applied
      rw [frame.events, List.append_nil] at events
      by_cases own : id = target
      · subst own
        have set : next.runs id = some outcome.run := by rw [runs, Function.update_self]
        constructor
        · intro unborn
          cases unborn.symm.trans set
        · intro after foundAfter
          cases set.symm.trans foundAfter
          rw [events, confirmations_append]
          exact (confirmed.run run found).advance moved
      · refine confirmed.of_same ?_ ?_
        · rw [runs, Function.update_of_ne own, frame.runs]
        · rw [events, confirmations_append, confirmations_of_other own (advance_published moved),
            List.append_nil]
  | committed before vm target transaction published frame source reports announced done =>
      obtain ⟨runs, _, _, events⟩ := frame_commit done
      refine confirmed.of_same (by rw [runs, frame.runs]) ?_
      rw [events, frame.events, confirmations_append, confirmations_reports reports, List.append_nil]

theorem confirmedOnce_reachable {capacity : Vm → RegionSchema → SegmentId → Option Nat}
    {users : Vm → DriverId → Option (Option Plate)}
    (reached : Lts.Reachable (Cluster.step deployment) (.initial capacity users) state) :
    ConfirmedOnce id state := by
  refine reached.invariant (fun _ _ _ confirmed stepped => confirmed.step stepped) ⟨fun _ => rfl, ?_⟩
  intro run found
  cases found

end

/-! ### Rows and bookings -/

def routeOf (state : State) (id : BookingId) : List RouteSegment :=
  ((state.runs id).bind CreateRun.route).elim [] Route.segments

section

variable {state : State}

theorem segments_of_confirmed (confirmed : ∀ id, ConfirmedOnce id state) {event : Event}
    (member : event ∈ state.events) (type : event.eventType = .bookingConfirmed) :
    event.segments = (routeOf state event.bookingId).map (fun segment =>
        (segment.segmentId, segment.region)) ∧
      routeOf state event.bookingId ≠ [] := by
  have sent : event ∈ confirmations event.bookingId state.events :=
    List.mem_filter.mpr ⟨member, by simp [type]⟩
  cases found : state.runs event.bookingId with
  | none =>
      rw [(confirmed event.bookingId).unborn found] at sent
      cases sent
  | some run =>
      rcases ((confirmed event.bookingId).run run found).once with none | ⟨route, known, only⟩
      · rw [none] at sent
        cases sent
      · rw [only, List.mem_singleton] at sent
        have route_eq : routeOf state event.bookingId = route.segments := by
          simp [routeOf, found, known]
        rw [route_eq]
        refine ⟨?_, route.nonempty⟩
        rw [sent]
        rfl

theorem nodup_announced_confirmed (confirmed : ∀ id, ConfirmedOnce id state) :
    (announced .bookingConfirmed state.events).Nodup := by
  refine List.nodup_iff_count_le_one.mpr ?_
  intro id
  have counted : (announced .bookingConfirmed state.events).count id =
      (confirmations id state.events).length := by
    rw [announced, List.count, List.countP_map, List.countP_filter, confirmations,
      List.countP_eq_length_filter]
    congr 1
    refine List.filter_congr ?_
    intro event _
    simp [and_comm, beq_eq_decide]
  rw [counted]
  cases found : state.runs id with
  | none => simp [(confirmed id).unborn found]
  | some run =>
      rcases ((confirmed id).run run found).once with none | ⟨route, _, only⟩
      · simp [none]
      · simp [only]

end

end Cluster

theorem announced_sublist {first second : List Event} (within : first.Sublist second)
    (type : EventType) : (announced type first).Sublist (announced type second) :=
  (within.filter _).map _

/-- An event without segments is one row. -/
theorem countP_recorded_plain {events : List Event} {type : EventType}
    (plain : ∀ event ∈ events, event.eventType = type → event.segments = []) :
    (events.flatMap Analytics.handleEvent).countP (fun row => row.eventType = type) =
      (announced type events).length := by
  rw [countP_recorded, announced, List.length_map]
  have ones : ((events.filter fun event => event.eventType = type).map fun event =>
      max 1 event.segments.length) = (events.filter fun event => event.eventType = type).map
        fun _ => 1 := by
    refine List.map_congr_left ?_
    intro event member
    obtain ⟨listed, same⟩ := List.mem_filter.mp member
    simp [plain event listed (by simpa using same)]
  rw [ones]
  simp

def bookings (type : EventType) (events : List Event) : Finset BookingId :=
  (announced type events).toFinset

section

open Cluster

variable {state : State} {chosen : BookingId → Bool}

theorem confirmed_eq_card_iff (confirmed : ∀ id, ConfirmedOnce id state) {events : List Event}
    (within : events.Sublist state.events) :
    (events.flatMap Analytics.handleEvent).countP (fun row => row.eventType = .bookingConfirmed) =
        (bookings .bookingConfirmed events).card ↔
      ∀ id ∈ bookings .bookingConfirmed events, (routeOf state id).length = 1 := by
  have nodup := (nodup_announced_confirmed confirmed).sublist (announced_sublist within _)
  have lengths (event : Event) (member : event ∈ events)
      (type : event.eventType = .bookingConfirmed) :
      max 1 event.segments.length = (routeOf state event.bookingId).length := by
    obtain ⟨same, nonempty⟩ := segments_of_confirmed confirmed (within.subset member) type
    have := List.length_pos_of_ne_nil nonempty
    rw [same, List.length_map]
    omega
  have positive : ∀ count ∈ (events.filter fun event => event.eventType = .bookingConfirmed).map
      (fun event => max 1 event.segments.length), 1 ≤ count := by
    intro count member
    obtain ⟨event, _, rfl⟩ := List.mem_map.mp member
    omega
  rw [countP_recorded, bookings, List.toFinset_card_of_nodup nodup, announced, List.length_map,
    ← List.length_map (fun event : Event => max 1 event.segments.length),
    sum_eq_length_iff positive]
  simp only [List.mem_map, List.mem_filter, decide_eq_true_eq, List.mem_toFinset]
  constructor
  · rintro single id ⟨event, ⟨member, type⟩, rfl⟩
    rw [← lengths event member type]
    exact single _ ⟨event, ⟨member, type⟩, rfl⟩
  · rintro single count ⟨event, ⟨member, type⟩, rfl⟩
    rw [lengths event member type]
    exact single _ ⟨event, ⟨member, type⟩, rfl⟩

theorem region_eq_sum (confirmed : ∀ id, ConfirmedOnce id state) {events : List Event}
    (within : events.Sublist state.events) (region : Region) :
    (events.flatMap Analytics.handleEvent).countP (fun row => row.region = some region) =
      ∑ id ∈ bookings .bookingConfirmed events,
        (routeOf state id).countP fun segment => segment.region = region := by
  have nodup := (nodup_announced_confirmed confirmed).sublist (announced_sublist within _)
  rw [bookings, List.sum_toFinset _ nodup, announced, List.map_map, List.countP_flatMap]
  clear nodup
  induction events with
  | nil => rfl
  | cons event rest ih =>
      have member := within.subset List.mem_cons_self
      rw [List.map_cons, List.sum_cons, ih ((List.sublist_cons_self event rest).trans within),
        Function.comp_apply, countP_region_handleEvent]
      by_cases type : event.eventType = .bookingConfirmed
      · rw [(segments_of_confirmed confirmed member type).1]
        simp [type, List.countP_map, Function.comp_def]
      · have none : event.segments = [] := by
          cases event with
          | bookingConfirmed => exact absurd rfl type
          | bookingFailed => rfl
          | bookingCancelled => rfl
        simp [type, none]

end

/-- The figures of the dashboard count bookings exactly when every confirmed one has a single
segment and none is announced twice as failed or cancelled. Those by region always do. -/
theorem dashboard_counts_bookings_iff {deployment : Deployment}
    {capacity : Vm → RegionSchema → SegmentId → Option Nat}
    {users : Vm → DriverId → Option (Option Plate)} {state : Cluster.State}
    (reached : Lts.Reachable (Cluster.step deployment) (.initial capacity users) state)
    (chosen : BookingId → Bool) (published : List Event)
    (histories : published = state.events.filter fun event => chosen event.bookingId)
    (consuming : List (Redelivery.Action Event)) (analytics : Redelivery.State Event BookingEvent)
    (consumed : Lts.run (Redelivery.step Analytics.handleEvent) (.start published) consuming =
      some analytics)
    (all : analytics.finished) (once : ∀ action ∈ consuming, action.once = true) :
    ((dashboard analytics.table).confirmed = (bookings .bookingConfirmed published).card ∧
        (dashboard analytics.table).cancelled = (bookings .bookingCancelled published).card ∧
        (dashboard analytics.table).failed = (bookings .bookingFailed published).card ∧
        ∀ region, ((dashboard analytics.table).byRegion region).getD 0 =
          ∑ id ∈ bookings .bookingConfirmed published,
            (Cluster.routeOf state id).countP fun segment => segment.region = region) ↔
      (∀ id ∈ bookings .bookingConfirmed published, (Cluster.routeOf state id).length = 1) ∧
        (announced .bookingCancelled published).Nodup ∧
        (announced .bookingFailed published).Nodup := by
  have confirmed (id : BookingId) : Cluster.ConfirmedOnce id state :=
    Cluster.confirmedOnce_reachable reached
  have within : published.Sublist state.events := by
    rw [histories]
    exact List.filter_sublist
  have stored : analytics.table.Perm (published.flatMap Analytics.handleEvent) :=
    (Redelivery.table_once_iff consumed all).mpr fun action taken =>
      Redelivery.Action.repeated_of_once (once action taken)
  obtain ⟨confirmedRows, cancelledRows, failedRows, regionRows⟩ := dashboard_counts analytics.table
  have regions (region : Region) : ((dashboard analytics.table).byRegion region).getD 0 =
      ∑ id ∈ bookings .bookingConfirmed published,
        (Cluster.routeOf state id).countP fun segment => segment.region = region := by
    rw [regionRows, stored.countP_eq, region_eq_sum confirmed within]
  have plain (type : EventType) (other : type ≠ .bookingConfirmed) :
      (published.flatMap Analytics.handleEvent).countP (fun row => row.eventType = type) =
          (bookings type published).card ↔ (announced type published).Nodup := by
    rw [countP_recorded_plain, bookings, card_toFinset_eq_length]
    intro event _ same
    cases event with
    | bookingConfirmed => exact absurd same.symm other
    | bookingFailed => rfl
    | bookingCancelled => rfl
  rw [confirmedRows, cancelledRows, failedRows, stored.countP_eq, stored.countP_eq,
    stored.countP_eq, confirmed_eq_card_iff confirmed within, plain _ (by simp), plain _ (by simp)]
  simp only [regions, implies_true, and_true]

def confirmedAtHome : Event :=
  .bookingConfirmed 10 7 (some "12-D-345") [(1, .euWestIreland)] (7200 * second)

open Cluster in
theorem dashboard_confirmedAtHome : ∃ state analytics,
    Lts.run (step singleVm) emptyState (bookAsFar 10 3) = some state ∧
      state.events = [confirmedAtHome] ∧
      Lts.run (Redelivery.step Analytics.handleEvent) (.start [confirmedAtHome])
        (handledThrough confirmedAtHome 1) = some analytics ∧
      (dashboard analytics.table).confirmed = (bookings .bookingConfirmed [confirmedAtHome]).card := by
  have observed : (Lts.run (step singleVm) emptyState (bookAsFar 10 3)).map (fun state =>
      (state.events, (routeOf state 10).length)) = some ([confirmedAtHome], 1) := by
    decide +kernel
  obtain ⟨state, executed, outcome⟩ := Option.map_eq_some_iff.mp observed
  simp only [Prod.mk.injEq] at outcome
  obtain ⟨events, single⟩ := outcome
  refine ⟨state, _, executed, events, rfl, ?_⟩
  refine ((dashboard_counts_bookings_iff ⟨_, executed⟩ (fun _ => true) [confirmedAtHome]
    (by rw [events]; rfl) (handledThrough confirmedAtHome 1) _ rfl ⟨rfl, rfl⟩
    (by decide)).mpr ⟨?_, by decide, by decide⟩).1
  intro id member
  obtain rfl : id = 10 := List.mem_singleton.mp (List.mem_toFinset.mp member)
  exact single

def crossingBooked : List Cluster.Action :=
  [.createBooking .vm1 4 request, .advance 4 .ok, .advance 4 (.route crossingRoute)] ++
    List.replicate 4 (.advance 4 .ok)

open Cluster in
theorem dashboard_counts_segments :
    ¬ ∀ (deployment : Deployment) (capacity : Vm → RegionSchema → SegmentId → Option Nat)
      (users : Vm → DriverId → Option (Option Plate)) (state : State)
      (chosen : BookingId → Bool) (published : List Event)
      (consuming : List (Redelivery.Action Event))
      (analytics : Redelivery.State Event BookingEvent),
      Lts.Reachable (step deployment) (.initial capacity users) state →
      published = (state.events.filter fun event => chosen event.bookingId) →
      Lts.run (Redelivery.step Analytics.handleEvent) (.start published) consuming =
        some analytics →
      analytics.finished → (∀ action ∈ consuming, action.once = true) →
      (dashboard analytics.table).confirmed = (bookings .bookingConfirmed published).card ∧
        (dashboard analytics.table).cancelled = (bookings .bookingCancelled published).card ∧
        (dashboard analytics.table).failed = (bookings .bookingFailed published).card ∧
        ∀ region, ((dashboard analytics.table).byRegion region).getD 0 =
          ∑ id ∈ bookings .bookingConfirmed published,
            (routeOf state id).countP fun segment => segment.region = region := by
  intro counts
  have observed : (Lts.run (step singleVm) emptyState crossingBooked).map State.events =
      some [confirmedAbroad] := by
    decide +kernel
  obtain ⟨state, executed, events⟩ := Option.map_eq_some_iff.mp observed
  have figures := counts singleVm _ _ state (fun _ => true) [confirmedAbroad]
    (handledThrough confirmedAbroad 2) _ ⟨_, executed⟩ (by rw [events]; rfl) rfl ⟨rfl, rfl⟩
    (by decide)
  exact absurd figures.1 (by decide)

end TrafficService
