import TrafficService.Convergence
import TrafficService.PeerExchange

/-!
How many reservations a booking holds in the two databases, whatever is lost, late or crashed on
the way.
-/

namespace TrafficService.Cluster

/-! ### The rows of a list of segments -/

def asInserted (row : Reservation) : Reservation := { row with status := .confirmed }

/-- The regional rows are those of these segments, in their order; some may be cancelled. -/
def Holds (id : BookingId) (driverId : DriverId) (segments : List RouteSegment)
    (rows : BookingRows) : Prop :=
  ∀ schema, (rows.regional schema).map asInserted =
    (segments.filter fun segment => segment.schema = schema).map fun segment =>
      segment.reservation id driverId

section

variable {id : BookingId} {driverId : DriverId} {segments : List RouteSegment} {rows : BookingRows}

theorem map_asInserted_cancelAll (rows : List Reservation) :
    (cancelAll rows).map asInserted = rows.map asInserted := by
  rw [cancelAll, List.map_map]
  rfl

theorem holds_none : Holds id driverId [] .none := fun _ => rfl

theorem Holds.of_regional {after : BookingRows} (holds : Holds id driverId segments rows)
    (same : after.regional = rows.regional) : Holds id driverId segments after := by
  intro schema
  rw [same]
  exact holds schema

theorem Holds.update {transaction : Transaction} (updates : transaction.updates = true)
    (holds : Holds id driverId segments rows) :
    Holds id driverId segments (transaction.onRows id rows) := by
  intro schema
  rcases @Transaction.regional_onRows transaction id rows updates schema with same | cancelled
  · rw [same]
    exact holds schema
  · rw [cancelled, map_asInserted_cancelAll]
    exact holds schema

theorem Holds.reject (run : CreateRun) (holds : Holds id driverId segments rows) :
    Holds id driverId segments (run.rejection.onRows id rows) := by
  rw [CreateRun.rejection]
  split
  · exact holds.update rfl
  · exact holds.of_regional rfl

theorem Holds.peerReserve {segment : RouteSegment} (holds : Holds id driverId segments rows) :
    Holds id driverId (segments ++ [segment])
      ((Transaction.peerReserve driverId segment).onRows id rows) := by
  intro schema
  by_cases here : schema = segment.schema
  · subst here
    simp only [Transaction.onRows, Function.update_self, List.map_append, holds segment.schema,
      List.filter_append]
    simp [asInserted, RouteSegment.reservation]
  · simp [Transaction.onRows, here, Ne.symm here, holds schema]

theorem holds_store (draft : BookingDraft) (segments : List RouteSegment) :
    Holds id draft.driverId segments ((Transaction.saga draft segments).onRows id .none) := by
  intro schema
  simp only [Transaction.onRows, BookingRows.store, BookingRows.none, List.nil_append, List.map_map]
  rfl

end

/-! ### The two databases -/

/-- On its own VM the request stores the rows of all its segments at once. -/
structure OwnSide (deployment : Deployment) (id : BookingId) (run : CreateRun)
    (rows : BookingRows) : Prop where
  stored : Holds id run.draft.driverId [] rows ∨
    Holds id run.draft.driverId (localSegments deployment run.vm (CreateRun.path run)) rows
  complete : CreatePc.confirming run.pc = true →
    Holds id run.draft.driverId (localSegments deployment run.vm (CreateRun.path run)) rows

structure Reserving (deployment : Deployment) (id : BookingId) (state : State) : Prop where
  inv : Inv deployment state
  unborn : state.runs id = none → mail id state.net = []
  own : ∀ run, state.runs id = some run → OwnSide deployment id run (state.rows run.vm id)
  peer : ∀ run, state.runs id = some run → ∃ taken,
    PeerSide deployment id run (mail id state.net) taken ∧
      Holds id run.draft.driverId taken (state.rows run.vm.peer id)

section

variable {deployment : Deployment} {id : BookingId} {run : CreateRun} {answer : Answer}
  {outcome : Outcome}

theorem OwnSide.update {rows : BookingRows} {transaction : Transaction}
    (side : OwnSide deployment id run rows) (updates : transaction.updates = true) :
    OwnSide deployment id run (transaction.onRows id rows) where
  stored := side.stored.imp (·.update updates) (·.update updates)
  complete := fun confirming => (side.complete confirming).update updates

theorem OwnSide.of_rows {after : CreateRun} {rows next : BookingRows}
    (side : OwnSide deployment id run rows) (vm : after.vm = run.vm)
    (draft : after.draft = run.draft) (route : after.route = run.route)
    (confirms : CreatePc.confirming after.pc = true → CreatePc.confirming run.pc = true)
    (keeps : ∀ segments, Holds id run.draft.driverId segments rows →
      Holds id run.draft.driverId segments next) : OwnSide deployment id after next := by
  have path : CreateRun.path after = CreateRun.path run := by rw [CreateRun.path, route]; rfl
  constructor
  · rw [vm, draft, path]
    exact side.stored.imp (keeps _) (keeps _)
  · intro confirming
    rw [vm, draft, path]
    exact keeps _ (side.complete (confirms confirming))

theorem ownSide_none (early : CreatePc.confirming run.pc = false) :
    OwnSide deployment id run .none where
  stored := .inl holds_none
  complete := fun confirming => by cases early.symm.trans confirming

theorem ownSide_store {after : CreateRun} (whole : run.reserved = CreateRun.path run)
    (vm : after.vm = run.vm) (draft : after.draft = run.draft) (route : after.route = run.route) :
    OwnSide deployment id after ((run.store deployment).onRows id .none) := by
  have path : CreateRun.path after = CreateRun.path run := by rw [CreateRun.path, route]; rfl
  have own : run.localReserved deployment =
      localSegments deployment run.vm (CreateRun.path run) := by
    rw [CreateRun.localReserved, whole]
    rfl
  have stored : Holds id after.draft.driverId
      (localSegments deployment after.vm (CreateRun.path after))
      ((run.store deployment).onRows id .none) := by
    rw [vm, draft, path, CreateRun.store, own]
    exact holds_store run.draft _
  exact ⟨.inr stored, fun _ => stored⟩

theorem OwnSide.advance {rows : BookingRows} (side : OwnSide deployment id run rows)
    (empty : CreatePc.early run.pc = true → rows = .none)
    (whole : run.pc = .reserve [] → run.reserved = CreateRun.path run)
    (moved : TrafficService.advance deployment id run answer = some outcome) :
    OwnSide deployment id outcome.run (Outcome.rowsAfter outcome id rows) := by
  obtain ⟨vm, draft⟩ := advance_keeps moved
  cases committed : outcome.transaction with
  | none =>
      simp only [Outcome.rowsAfter, committed]
      obtain ⟨_, _, confirms⟩ := advance_quiet moved committed
      by_cases early : CreatePc.early run.pc = true
      · rw [empty early]
        apply ownSide_none
        by_contra confirming
        rw [Bool.not_eq_false] at confirming
        have both := confirms confirming
        revert early both
        cases run.pc <;> simp [CreatePc.early, CreatePc.confirming]
      · have route := (advance_quiet_confirm moved committed).2.2.resolve_left early
        exact side.of_rows vm draft route confirms fun _ holds => holds
  | some transaction =>
      simp only [Outcome.rowsAfter, committed]
      rcases advance_commits moved committed with
        ⟨here, rfl, after⟩ | ⟨here, rfl, after⟩ | ⟨segment, rest, here, rfl, after⟩ |
          ⟨here, rfl, after⟩
      · rw [empty (by simp [here, CreatePc.early])]
        rcases after with after | after
        all_goals exact ownSide_store (whole here) vm draft (by rw [after])
      · have confirming : CreatePc.confirming run.pc = true := by simp [here, CreatePc.confirming]
        refine side.of_rows vm draft ?_ (fun _ => confirming) fun _ holds => holds.update rfl
        rcases after with after | after <;> rw [after]
      · rw [after]
        exact side.of_rows rfl rfl rfl (fun confirming => by cases confirming)
          fun _ holds => holds.update rfl
      · rw [after]
        exact side.of_rows rfl rfl rfl (fun confirming => by cases confirming)
          fun _ holds => holds.reject run

end

/-! ### Runs -/

section

variable {deployment : Deployment} {state next : State} {action : Action} {id : BookingId}

theorem reserving_initial (capacity : Vm → RegionSchema → SegmentId → Option Nat)
    (users : Vm → DriverId → Option (Option Plate)) :
    Reserving deployment id (.initial capacity users) where
  inv := inv_initial capacity users
  unborn := fun _ => rfl
  own := fun _ found => nomatch found
  peer := fun _ found => nomatch found

theorem Reserving.step (reserving : Reserving deployment id state)
    (stepped : Cluster.step deployment state action = some next) :
    Reserving deployment id next := by
  have inv : Inv deployment next := reserving.inv.step stepped
  cases step_exchange stepped id with
  | moved run answer outcome found moves runs mails rows =>
      have vm : outcome.run.vm = run.vm := (advance_keeps moves).1
      obtain ⟨taken, side, holds⟩ := reserving.peer run found
      refine ⟨inv, fun unborn => by simp [runs] at unborn, ?_, ?_⟩
      · intro after same
        cases runs.symm.trans same
        rw [rows, if_pos rfl, vm]
        refine (reserving.own run found).advance (reserving.inv.booking id run found).early ?_ moves
        intro here
        simp only [PeerSide, here, List.append_nil] at side
        exact side.1
      · intro after same
        cases runs.symm.trans same
        refine ⟨taken, side.advance moves mails, ?_⟩
        rw [rows, if_neg (Vm.peer_ne _), vm, (advance_keeps moves).2]
        exact holds
  | began vm draft fresh runs mails rows =>
      have empty := reserving.inv.unborn id fresh
      refine ⟨inv, fun unborn => by simp [runs] at unborn, ?_, ?_⟩
      · intro after same
        cases runs.symm.trans same
        rw [rows, empty]
        exact ownSide_none rfl
      · intro after same
        cases runs.symm.trans same
        refine ⟨[], ⟨rfl, mails.trans (reserving.unborn fresh), rfl⟩, ?_⟩
        rw [rows, empty]
        exact holds_none
  | crashed run found runs mails rows =>
      obtain ⟨taken, side, holds⟩ := reserving.peer run found
      refine ⟨inv, fun unborn => by simp [runs] at unborn, ?_, ?_⟩
      · intro after same
        cases runs.symm.trans same
        rw [rows]
        exact (reserving.own run found).of_rows rfl rfl rfl (fun confirming => by cases confirming)
          fun _ same => same
      · intro after same
        cases runs.symm.trans same
        refine ⟨taken, ?_, by rw [rows]; exact holds⟩
        rw [mails]
        exact .of_underway (side.underway.of_route rfl rfl rfl) rfl rfl
  | served target driverId segment accepted asked runs mails rows =>
      refine ⟨inv, ?_, ?_, ?_⟩
      · intro unborn
        rw [reserving.unborn (runs ▸ unborn)] at asked
        cases asked
      · intro run found
        rw [runs] at found
        obtain ⟨taken, side, _⟩ := reserving.peer run found
        rw [rows, if_neg]
        · exact reserving.own run found
        · rintro ⟨_, here⟩
          exact Vm.peer_ne run.vm (here.trans (side.serve accepted asked).1).symm
      · intro run found
        rw [runs] at found
        obtain ⟨taken, side, holds⟩ := reserving.peer run found
        obtain ⟨place, driver, after⟩ := side.serve accepted asked
        refine ⟨_, mails ▸ after, ?_⟩
        rw [rows, place]
        cases accepted with
        | true =>
            simp only [and_self, if_true, driver]
            exact holds.peerReserve
        | false => exact holds
  | kept runs mails rows =>
      refine ⟨inv, ?_, ?_, ?_⟩
      · intro unborn
        rw [runs] at unborn
        rw [reserving.unborn unborn] at mails
        exact List.sublist_nil.mp mails
      · intro run found
        rw [runs] at found
        rcases rows run.vm with same | ⟨transaction, updates, same⟩
        · rw [same]
          exact reserving.own run found
        · rw [same]
          exact (reserving.own run found).update updates
      · intro run found
        rw [runs] at found
        obtain ⟨taken, side, holds⟩ := reserving.peer run found
        refine ⟨taken, side.lose mails, ?_⟩
        rcases rows run.vm.peer with same | ⟨transaction, updates, same⟩
        · rw [same]
          exact holds
        · rw [same]
          exact holds.update updates

theorem Reserving.reachable {capacity : Vm → RegionSchema → SegmentId → Option Nat}
    {users : Vm → DriverId → Option (Option Plate)}
    (reached : Lts.Reachable (Cluster.step deployment) (.initial capacity users) state) :
    Reserving deployment id state :=
  reached.invariant (fun _ _ _ reserving stepped => reserving.step stepped)
    (reserving_initial capacity users)

end

/-! ### Exactly the route -/

def reservationsOf (state : State) (id : BookingId) : List (Vm × RegionSchema × Reservation) :=
  [.vm1, .vm2].flatMap fun vm => regionSchemas.flatMap fun schema =>
    ((state.rows vm id).regional schema).map fun row => (vm, schema, asInserted row)

def routeReservations (deployment : Deployment) (id : BookingId) (run : CreateRun) :
    List (Vm × RegionSchema × Reservation) :=
  (CreateRun.path run).map fun segment =>
    (if deployment.isLocal run.vm segment.region then run.vm else run.vm.peer, segment.schema,
      segment.reservation id run.draft.driverId)

section

variable {deployment : Deployment} {state : State} {id : BookingId} {run : CreateRun}

theorem perm_bySchema (segments : List RouteSegment) :
    (regionSchemas.flatMap fun schema =>
      segments.filter fun segment => segment.schema = schema).Perm segments := by
  rw [List.perm_iff_count]
  intro segment
  have among (schema : RegionSchema) :
      (segments.filter fun segment => segment.schema = schema).count segment =
        if segment.schema = schema then segments.count segment else 0 := by
    split
    · next here => exact List.count_filter (by simpa using here)
    · next other => exact List.count_eq_zero_of_not_mem (by simp [other])
  simp only [regionSchemas, List.flatMap_cons, List.flatMap_nil, List.append_nil,
    List.count_append, among]
  cases segment.schema <;> simp

theorem perm_of_holds {vm : Vm} {driverId : DriverId} {segments : List RouteSegment}
    (holds : Holds id driverId segments (state.rows vm id)) :
    (regionSchemas.flatMap fun schema =>
      ((state.rows vm id).regional schema).map fun row => (vm, schema, asInserted row)).Perm
      (segments.map fun segment => (vm, segment.schema, segment.reservation id driverId)) := by
  have listed (schema : RegionSchema) :
      ((state.rows vm id).regional schema).map (fun row => (vm, schema, asInserted row)) =
        (segments.filter fun segment => segment.schema = schema).map fun segment =>
          (vm, segment.schema, segment.reservation id driverId) := by
    calc ((state.rows vm id).regional schema).map (fun row => (vm, schema, asInserted row))
        = (((state.rows vm id).regional schema).map asInserted).map fun row => (vm, schema, row) := by
          rw [List.map_map]
          rfl
      _ = (segments.filter fun segment => segment.schema = schema).map fun segment =>
          (vm, schema, segment.reservation id driverId) := by
          rw [holds schema, List.map_map]
          rfl
      _ = _ := by
          refine List.map_congr_left fun segment member => ?_
          rw [of_decide_eq_true (List.mem_filter.mp member).2]
  simp only [listed, ← List.map_flatMap]
  exact (perm_bySchema segments).map _

theorem reservationsOf_perm {own remote : List RouteSegment}
    (ownHolds : Holds id run.draft.driverId own (state.rows run.vm id))
    (peerHolds : Holds id run.draft.driverId remote (state.rows run.vm.peer id)) :
    (reservationsOf state id).Perm
      (own.map (fun segment =>
          (run.vm, segment.schema, segment.reservation id run.draft.driverId)) ++
        remote.map fun segment =>
          (run.vm.peer, segment.schema, segment.reservation id run.draft.driverId)) := by
  have both : ([.vm1, .vm2] : List Vm).Perm [run.vm, run.vm.peer] := by
    cases run.vm with
    | vm1 => exact List.Perm.refl _
    | vm2 => exact List.Perm.swap ..
  refine (both.flatMap_right _).trans ?_
  rw [List.flatMap_cons, List.flatMap_cons, List.flatMap_nil, List.append_nil]
  exact (perm_of_holds ownHolds).append (perm_of_holds peerHolds)

theorem routeReservations_perm :
    ((localSegments deployment run.vm (CreateRun.path run)).map (fun segment =>
        (run.vm, segment.schema, segment.reservation id run.draft.driverId)) ++
      (remoteSegments deployment run.vm (CreateRun.path run)).map fun segment =>
        (run.vm.peer, segment.schema, segment.reservation id run.draft.driverId)).Perm
      (routeReservations deployment id run) := by
  have own : (localSegments deployment run.vm (CreateRun.path run)).map (fun segment =>
      (run.vm, segment.schema, segment.reservation id run.draft.driverId)) =
      (localSegments deployment run.vm (CreateRun.path run)).map fun segment =>
        (if deployment.isLocal run.vm segment.region then run.vm else run.vm.peer, segment.schema,
          segment.reservation id run.draft.driverId) := by
    refine List.map_congr_left fun segment member => ?_
    rw [if_pos (List.mem_filter.mp member).2]
  have remote : (remoteSegments deployment run.vm (CreateRun.path run)).map (fun segment =>
      (run.vm.peer, segment.schema, segment.reservation id run.draft.driverId)) =
      (remoteSegments deployment run.vm (CreateRun.path run)).map fun segment =>
        (if deployment.isLocal run.vm segment.region then run.vm else run.vm.peer, segment.schema,
          segment.reservation id run.draft.driverId) := by
    refine List.map_congr_left fun segment member => ?_
    rw [if_neg (by simpa using (List.mem_filter.mp member).2)]
  rw [own, remote, ← List.map_append]
  exact (List.filter_append_perm _ _).map _

theorem Underway.taken_prefix {letters : List Msg} {taken : List RouteSegment}
    (underway : Underway deployment id run letters taken) :
    taken <+: remoteSegments deployment run.vm (CreateRun.path run) := by
  rcases underway with ⟨_, begun⟩ | ⟨done, segment, added, rfl, letter, begun⟩
  · exact begun
  · cases letter with
    | asked | refused =>
        rw [List.append_nil]
        exact (List.prefix_append done [segment]).trans begun
    | accepted => exact begun
    | lost added among =>
        rcases List.sublist_singleton.mp among with rfl | rfl
        · rw [List.append_nil]
          exact (List.prefix_append done [segment]).trans begun
        · exact begun

theorem routeReservations_nodup (deployment : Deployment) (id : BookingId) (run : CreateRun) :
    ((routeReservations deployment id run).map fun held => (held.2.1, held.2.2.segmentId)).Nodup := by
  cases found : run.route with
  | none => simp [routeReservations, CreateRun.path, found]
  | some route =>
      have injective : Function.Injective fun place : Region × SegmentId =>
          (regionSchemaMap place.1, place.2) := by
        intro first second same
        simp only [Prod.mk.injEq] at same
        exact Prod.ext (regionSchemaMap_injective same.1) same.2
      have distinct := route.distinct.map injective
      rw [List.map_map] at distinct
      rw [routeReservations, CreateRun.path, found, List.map_map]
      exact distinct

/-- Whatever is lost, late or crashed: a booking never has a reservation that its route does not
ask for, nor one twice, and it has all of them once its saga has committed. -/
theorem reserved_once {capacity : Vm → RegionSchema → SegmentId → Option Nat}
    {users : Vm → DriverId → Option (Option Plate)}
    (reached : Lts.Reachable (step deployment) (.initial capacity users) state)
    (found : state.runs id = some run) :
    (reservationsOf state id).Subperm (routeReservations deployment id run) ∧
      ((reservationsOf state id).map fun held => (held.2.1, held.2.2.segmentId)).Nodup ∧
      (CreatePc.confirming run.pc = true →
        (reservationsOf state id).Perm (routeReservations deployment id run)) := by
  have reserving : Reserving deployment id state := .reachable reached
  obtain ⟨taken, side, peerHolds⟩ := reserving.peer run found
  obtain ⟨stored, complete⟩ := reserving.own run found
  have among : (reservationsOf state id).Subperm (routeReservations deployment id run) := by
    have remote := (side.underway.taken_prefix.sublist.map fun segment : RouteSegment =>
      (run.vm.peer, segment.schema, segment.reservation id run.draft.driverId)).subperm
    refine List.Subperm.trans ?_ routeReservations_perm.subperm
    rcases stored with none | whole
    · refine (reservationsOf_perm none peerHolds).subperm.trans ?_
      exact remote.trans (List.sublist_append_right ..).subperm
    · refine (reservationsOf_perm whole peerHolds).subperm.trans ?_
      exact (List.subperm_append_left _).mpr remote
  refine ⟨among, ?_, ?_⟩
  · obtain ⟨middle, same, sub⟩ := among
    have distinct := routeReservations_nodup deployment id run
    exact (same.map _).nodup_iff.mp (distinct.sublist (sub.map _))
  · intro confirming
    obtain ⟨_, rfl⟩ := side.confirming (.inl confirming)
    exact (reservationsOf_perm (complete confirming) peerHolds).trans routeReservations_perm

def acrossTheBorder (id : BookingId) : List Action :=
  [.createBooking .vm1 id request, .advance id .ok, .advance id (.route crossingRoute),
    .advance id .ok, .serve (.reserve .vm2 id request.driverId ukSegment) true,
    .deliver (.reserved id true), .advance id .ok, .advance id .ok]

theorem reserved_once_acrossTheBorder : ∃ state run,
    Lts.run (step twoVms) emptyState (acrossTheBorder 4) = some state ∧ state.runs 4 = some run ∧
      run.pc = .publishConfirmed ∧
      (reservationsOf state 4).Perm (routeReservations twoVms 4 run) := by
  have observed : (Lts.run (step twoVms) emptyState (acrossTheBorder 4)).bind (fun state =>
      (state.runs 4).map (·.pc)) = some .publishConfirmed := by
    decide +kernel
  obtain ⟨state, executed, observed⟩ := Option.bind_eq_some_iff.mp observed
  obtain ⟨run, found, here⟩ := Option.map_eq_some_iff.mp observed
  exact ⟨state, run, executed, found, here,
    (reserved_once ⟨acrossTheBorder 4, executed⟩ found).2.2 (by rw [here]; rfl)⟩

end

end TrafficService.Cluster
