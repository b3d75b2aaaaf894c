import TrafficService.Convergence

/-!
`public.segment_reservations` beside the regional tables. The saga writes both, and after that
each is cancelled as a whole, by different operations.
-/

namespace TrafficService

def SegmentReservation.sameSlot (row : SegmentReservation) (reservation : Reservation) : Bool :=
  reservation.bookingId = row.bookingId && reservation.segmentId = row.segmentId &&
    reservation.timeSlotStart = row.timeSlotStart

theorem sameSlot_iff {row : SegmentReservation} {reservation : Reservation} :
    row.sameSlot reservation = true ↔ reservation.bookingId = row.bookingId ∧
      reservation.segmentId = row.segmentId ∧ reservation.timeSlotStart = row.timeSlotStart := by
  simp [SegmentReservation.sameSlot, and_assoc]

/-- Each row of `segment_reservations` has one regional row, and is CONFIRMED exactly when that
one is active. -/
def RecordsAgree (db : Database) : Prop :=
  ∀ row ∈ db.segmentReservations, ∃ reservation,
    (db.reservations (regionSchemaMap row.region)).filter row.sameSlot = [reservation] ∧
      (row.status = .confirmed ↔ reservation.status.active = true)

def BookingRows.recordsAgree (rows : BookingRows) : Prop :=
  ∀ row ∈ rows.segments, ∃ reservation,
    (rows.regional (regionSchemaMap row.region)).filter row.sameSlot = [reservation] ∧
      (row.status = .confirmed ↔ reservation.status.active = true)

theorem recordsAgree_iff {db : Database} :
    RecordsAgree db ↔ ∀ id, (db.rowsOf id).recordsAgree := by
  have ofBooking (row : SegmentReservation) (schema : RegionSchema) :
      (db.reservations schema).filter row.sameSlot =
        ((db.rowsOf row.bookingId).regional schema).filter row.sameSlot := by
    rw [Database.rowsOf, List.filter_filter]
    congr 1
    funext reservation
    simp only [SegmentReservation.sameSlot]
    cases decide (reservation.bookingId = row.bookingId) <;> simp
  constructor
  · intro agree id row member
    obtain ⟨stored, rfl⟩ := Database.mem_rowsOf_segments.mp member
    rw [← ofBooking]
    exact agree row stored
  · intro agree row stored
    rw [ofBooking]
    exact agree row.bookingId row (Database.mem_rowsOf_segments.mpr ⟨stored, rfl⟩)

namespace Cluster

def segmentRows (id : BookingId) (route : Route) (status : BookingStatus) :
    List SegmentReservation :=
  route.segments.map fun segment => { segment.segmentReservation id with status }

def regionalRows (id : BookingId) (driverId : DriverId) (route : Route) (schema : RegionSchema)
    (status : BookingStatus) : List Reservation :=
  (route.segments.filter fun segment => segment.schema = schema).map fun segment =>
    { segment.reservation id driverId with status }

/-- Both records of a booking list its route, each table with one status throughout. -/
def WrittenAs (id : BookingId) (run : CreateRun) (status : BookingStatus)
    (regional : RegionSchema → BookingStatus) (rows : BookingRows) : Prop :=
  ∃ route, run.route = some route ∧ rows.segments = segmentRows id route status ∧
    ∀ schema, rows.regional schema =
      regionalRows id run.draft.driverId route schema (regional schema)

def Written (id : BookingId) (run : CreateRun) (rows : BookingRows) : Prop :=
  rows.segments = [] ∨ ∃ status regional, WrittenAs id run status regional rows

/-- `create_booking` does not reject a stored booking that has a CONFIRMED row in
`segment_reservations`. -/
def rejectsUnbacked (state : State) : Action → Bool
  | .advance id answer => (state.runs id).all fun run =>
      match run.pc, answer with
      | .reject, .ok | .reject, .raiseApplied =>
          !run.persistent || !hasConfirmedSegment (state.db run.vm) id
      | _, _ => true
  | _ => true

structure Recorded (id : BookingId) (run : CreateRun) (rows : BookingRows) : Prop where
  written : Written id run rows
  inactive : rows.cancelledOrRejected = true → rows.unbacked

section

variable {id : BookingId} {run : CreateRun} {rows : BookingRows} {status : BookingStatus}
  {regional : RegionSchema → BookingStatus}

theorem Written.update {transaction : Transaction} (written : Written id run rows)
    (updates : transaction.updates = true) : Written id run (transaction.onRows id rows) := by
  rcases written with empty | ⟨status, regional, route, found, segments, reservations⟩
  · exact .inl ((Transaction.onRows_segments_eq_nil updates).mpr empty)
  · have segmentsAfter : ∃ after, (transaction.onRows id rows).segments =
        segmentRows id route after := by
      rcases Transaction.segments_onRows updates with same | cancelled
      · exact ⟨status, same.trans segments⟩
      · refine ⟨.cancelled, cancelled.trans ?_⟩
        rw [segments]
        simp [segmentRows, cancelSegments]
    have regionalAfter : ∀ schema, ∃ after, (transaction.onRows id rows).regional schema =
        regionalRows id run.draft.driverId route schema after := by
      intro schema
      rcases Transaction.regional_onRows updates schema with same | cancelled
      · exact ⟨regional schema, same.trans (reservations schema)⟩
      · refine ⟨.cancelled, cancelled.trans ?_⟩
        rw [reservations]
        simp [regionalRows, cancelAll]
    obtain ⟨after, segmentsAfter⟩ := segmentsAfter
    choose each regionalAfter using regionalAfter
    exact .inr ⟨after, each, route, found, segmentsAfter, regionalAfter⟩

theorem filter_sameSlot (route : Route) {segment : RouteSegment} (member : segment ∈ route.segments)
    (driverId : DriverId) (first second : BookingStatus) :
    (regionalRows id driverId route segment.schema second).filter
      (({ segment.segmentReservation id with status := first } : SegmentReservation).sameSlot) =
      [{ segment.reservation id driverId with status := second }] := by
  have alone : route.segments.filter (fun other =>
      (other.region, other.segmentId) = (segment.region, segment.segmentId)) = [segment] := by
    rw [KeyedTable.filter_rows_key route.distinct,
      KeyedTable.find?_of_mem_rows route.distinct member]
    rfl
  have test (other : RouteSegment) :
      (({ segment.segmentReservation id with status := first } : SegmentReservation).sameSlot
        { other.reservation id driverId with status := second } &&
          decide (other.schema = segment.schema)) =
      (decide (other.slotStart = segment.slotStart) &&
        decide ((other.region, other.segmentId) = (segment.region, segment.segmentId))) := by
    rw [Bool.eq_iff_iff]
    simp only [Bool.and_eq_true, sameSlot_iff, decide_eq_true_eq, Prod.mk.injEq]
    simp only [RouteSegment.reservation, RouteSegment.segmentReservation, RouteSegment.schema,
      regionSchemaMap_injective.eq_iff]
    tauto
  rw [regionalRows, List.filter_map, List.filter_filter]
  simp only [Function.comp_apply, test]
  rw [← List.filter_filter, alone]
  simp

theorem WrittenAs.recordsAgree (written : WrittenAs id run status regional rows)
    (same : ∀ schema, status = .confirmed ↔ (regional schema).active = true) :
    rows.recordsAgree := by
  obtain ⟨route, found, segments, reservations⟩ := written
  intro row member
  rw [segments] at member
  obtain ⟨segment, among, rfl⟩ := List.mem_map.mp member
  refine ⟨{ segment.reservation id run.draft.driverId with status := regional segment.schema }, ?_,
    same segment.schema⟩
  rw [reservations]
  exact filter_sameSlot route among run.draft.driverId status _

/-! ### One booking -/

theorem written_none (run : CreateRun) : Written id run .none := .inl rfl

theorem recorded_none (run : CreateRun) : Recorded id run .none :=
  ⟨written_none run, fun inactive => nomatch inactive⟩

theorem Written.of_route {after : CreateRun} (written : Written id run rows)
    (route : after.route = run.route) (draft : after.draft = run.draft) :
    Written id after rows := by
  refine written.imp_right ?_
  rintro ⟨status, regional, path, found, segments, reservations⟩
  exact ⟨status, regional, path, route.trans found, segments, by rw [draft]; exact reservations⟩

theorem Recorded.of_route {after : CreateRun} (recorded : Recorded id run rows)
    (route : after.route = run.route) (draft : after.draft = run.draft) :
    Recorded id after rows :=
  ⟨recorded.written.of_route route draft, recorded.inactive⟩

theorem Recorded.update {transaction : Transaction} (recorded : Recorded id run rows)
    (updates : transaction.updates = true)
    (inactive : (transaction.onRows id rows).cancelledOrRejected = true →
      (transaction.onRows id rows).unbacked) : Recorded id run (transaction.onRows id rows) :=
  ⟨recorded.written.update updates, inactive⟩

theorem Recorded.unbacked {transaction : Transaction} (recorded : Recorded id run rows)
    (updates : transaction.updates = true) (unbacked : rows.unbacked) :
    Recorded id run (transaction.onRows id rows) :=
  recorded.update updates fun _ => Transaction.unbacked_onRows updates unbacked

theorem Recorded.cancelIn (recorded : Recorded id run rows) (schema : RegionSchema) :
    Recorded id run (rows.cancelIn schema) :=
  @Recorded.update id run rows (.release schema) recorded rfl recorded.inactive

variable {deployment : Deployment} {answer : Answer} {outcome : Outcome}

theorem recorded_saga (follows : FollowsRoute run)
    (single : deployment.peerConfigured run.vm = false) (here : run.pc = .reserve []) :
    Recorded id run ((run.store deployment).onRows id .none) := by
  have whole : run.localReserved deployment = run.reserved := by
    simp [CreateRun.localReserved, Deployment.isLocal, single]
  obtain ⟨route, found, reserved⟩ : ∃ route, run.route = some route ∧
      run.reserved ++ [] = route.segments := by
    simpa only [FollowsRoute, here] using follows
  rw [List.append_nil] at reserved
  refine ⟨.inr ⟨.confirmed, fun _ => .confirmed, route, found, ?_, ?_⟩, by rintro ⟨⟩⟩
  · simp [CreateRun.store, Transaction.onRows, BookingRows.store, BookingRows.none, whole, reserved,
      segmentRows, RouteSegment.segmentReservation]
  · intro schema
    simp [CreateRun.store, Transaction.onRows, BookingRows.store, BookingRows.none, whole, reserved,
      regionalRows, RouteSegment.reservation]

theorem Recorded.advance (recorded : Recorded id run rows) (follows : FollowsRoute run)
    (early : CreatePc.early run.pc = true → rows = .none)
    (absent : run.persistent = false → rows.booking = none → rows = .none)
    (inserted : ∀ transaction, outcome.transaction = some transaction →
      transaction.inserts = true → rows.booking = none)
    (single : deployment.peerConfigured run.vm = false)
    (kept : run.pc = .reject → run.persistent = true → outcome.transaction ≠ none → rows.unbacked)
    (moved : TrafficService.advance deployment id run answer = some outcome) :
    Recorded id outcome.run (Outcome.rowsAfter outcome id rows) := by
  cases committed : outcome.transaction with
  | none =>
      simp only [Outcome.rowsAfter, committed]
      obtain ⟨_, _, route⟩ := advance_quiet_confirm moved committed
      by_cases starting : CreatePc.early run.pc = true
      · rw [early starting]
        exact recorded_none outcome.run
      · exact recorded.of_route (route.resolve_left starting) (advance_keeps moved).2
  | some transaction =>
      simp only [Outcome.rowsAfter, committed]
      rcases advance_commits moved committed with
        ⟨here, rfl, after⟩ | ⟨here, rfl, after⟩ | ⟨segment, rest, here, rfl, after⟩ |
          ⟨here, rfl, after⟩
      · rw [early (by simp [here, CreatePc.early])]
        have stored := @recorded_saga id run deployment follows single here
        rcases after with after | after
        · rw [after]
          exact stored.of_route rfl rfl
        · rw [after]
          exact stored.of_route rfl rfl
      · have confirmed : Recorded id run ((Transaction.confirm run.minutes).onRows id rows) := by
          refine recorded.update rfl ?_
          intro inactive
          simp only [BookingRows.cancelledOrRejected, Transaction.onRows, Option.any_map] at inactive
          obtain ⟨row, _, inactiveRow⟩ := (Option.any_eq_true _ _).mp inactive
          cases inactiveRow
        rcases after with after | after
        · rw [after]
          exact confirmed.of_route rfl rfl
        · rw [after]
          exact confirmed.of_route rfl rfl
      · rw [after]
        exact (recorded.cancelIn segment.schema).of_route rfl rfl
      · rw [after]
        have present : outcome.transaction ≠ none := by simp [committed]
        cases stored : run.persistent with
        | true =>
            rw [CreateRun.rejection, if_pos stored]
            have unbacked := kept here stored present
            have rejected : Recorded id run (Transaction.updateRejected.onRows id rows) :=
              recorded.unbacked rfl unbacked
            exact rejected.of_route rfl rfl
        | false =>
            have rejection : run.rejection = .insertRejected run.draft := by
              simp [CreateRun.rejection, stored]
            have empty := absent stored (inserted _ committed (by rw [rejection]; rfl))
            rw [rejection, empty]
            refine ⟨.inl rfl, ?_⟩
            rintro _ row ⟨⟩

end

/-! ### Runs -/

structure Recording (deployment : Deployment) (state : State) : Prop where
  converging : Converging deployment state
  recorded : ∀ id run, state.runs id = some run → Recorded id run (state.rows run.vm id)

theorem unbacked_iff {db : Database} {id : BookingId} :
    (db.rowsOf id).unbacked ↔ hasConfirmedSegment db id = false := by
  simp [hasConfirmedSegment_eq, BookingRows.unbacked]

section

variable {deployment : Deployment} {state next : State} {action : Action} {id : BookingId}

theorem answer_of_rejection {run : CreateRun} {answer : Answer} {outcome : Outcome}
    (moved : advance deployment id run answer = some outcome) (here : run.pc = .reject)
    (committed : outcome.transaction ≠ none) : answer = .ok ∨ answer = .raiseApplied := by
  revert moved
  fun_cases advance deployment id run answer
  all_goals
    intro moved
    cases moved
  all_goals simp_all

theorem unbacked_of_rejectsUnbacked {run : CreateRun} {answer : Answer} {outcome : Outcome}
    (kept : rejectsUnbacked state action = true) (found : state.runs id = some run)
    (source : action = .advance id answer ∨ run.pc.waits = true)
    (moved : advance deployment id run answer = some outcome) (here : run.pc = .reject)
    (stored : run.persistent = true) (committed : outcome.transaction ≠ none) :
    (state.rows run.vm id).unbacked := by
  have isAdvance : action = .advance id answer := by
    refine source.resolve_right ?_
    simp [here, CreatePc.waits]
  subst isAdvance
  simp only [rejectsUnbacked, found, Option.all_some, here] at kept
  refine unbacked_iff.mpr ?_
  rcases answer_of_rejection moved here committed with rfl | rfl
  · simpa [stored] using kept
  · simpa [stored] using kept

theorem Recording.external (recording : Recording deployment state)
    (single : ∀ vm, deployment.peerConfigured vm = false) {run : CreateRun}
    (found : state.runs id = some run) {transaction : Transaction}
    (source : External state action run.vm id transaction) :
    Recorded id run (transaction.onRows id (state.rows run.vm id)) := by
  have recorded := recording.recorded id run found
  have converging := recording.converging
  rcases converging.inv.external_single single source with
    rfl | rfl | ⟨rfl, passId, pass, row, rest, known, here, vm, rfl⟩ |
      ⟨schema, rfl, passId, pass, rest, schemas, known, here, vm⟩
  · exact recorded.update rfl fun _ => BookingRows.unbacked_cancelSegments _
  · exact recorded.update rfl fun _ => BookingRows.unbacked_cancelSegments _
  · have listed := (converging.passes passId pass known).dangling _ here row List.mem_cons_self
    rw [vm] at listed
    exact recorded.unbacked rfl listed.2
  · exact recorded.cancelIn schema

theorem Recording.recorded_step (recording : Recording deployment state)
    (single : ∀ vm, deployment.peerConfigured vm = false)
    (kept : rejectsUnbacked state action = true)
    (stepped : step deployment state action = some next) {after : CreateRun}
    (found : next.runs id = some after) : Recorded id after (next.rows after.vm id) := by
  have inv := recording.converging.inv
  cases known : state.runs id with
  | some run =>
      obtain ⟨moved, foundMoved, sameVm, ownerStep⟩ := inv.owner_step stepped known
      cases foundMoved.symm.trans found
      rw [sameVm]
      have recorded := recording.recorded id run known
      generalize next.rows run.vm id = rows at ownerStep
      cases ownerStep with
      | unchanged => exact recorded
      | crashed isCrash running => exact recorded.of_route rfl rfl
      | advanced answer outcome source moved inserted =>
          exact recorded.advance (recording.converging.backed id run known).follows
            (inv.early_rows known) (fun _ => (inv.booking id run known).absent) inserted (single _)
            (unbacked_of_rejectsUnbacked kept known source moved) moved
      | external transaction source updates => exact recording.external single known source
  | none =>
      cases step_effect stepped id with
      | unchanged runs rows => exact nomatch (runs.trans known).symm.trans found
      | begun vm draft isBegin fresh runs rows =>
          cases runs.symm.trans found
          rw [rows, inv.unborn id known]
          exact recorded_none _
      | crashed run isCrash before running runs rows => exact nomatch known.symm.trans before
      | advanced run answer outcome source before moved runs rows =>
          exact nomatch known.symm.trans before
      | external vm transaction source runs rows => exact nomatch (runs.trans known).symm.trans found

theorem Recording.step (recording : Recording deployment state)
    (single : ∀ vm, deployment.peerConfigured vm = false)
    (kept : rejectsUnbacked state action = true)
    (stepped : Cluster.step deployment state action = some next) : Recording deployment next where
  converging := recording.converging.step single stepped
  recorded := fun _ _ found => recording.recorded_step single kept stepped found

theorem recording_initial (capacity : Vm → RegionSchema → SegmentId → Option Nat)
    (users : Vm → DriverId → Option (Option Plate)) :
    Recording deployment (.initial capacity users) where
  converging := converging_initial capacity users
  recorded := fun _ _ found => nomatch found

end

/-! ### After a pass -/

section

variable {id : BookingId} {run : CreateRun} {rows : BookingRows} {now : DateTime}

theorem agree_of_unbacked (written : Written id run rows) (unbacked : rows.unbacked) :
    rows.cancelRegional.recordsAgree := by
  rcases written with empty | ⟨status, regional, route, found, segments, reservations⟩
  · intro row member
    change row ∈ rows.segments at member
    rw [empty] at member
    exact nomatch member
  · have unconfirmed : status ≠ .confirmed := by
      obtain ⟨segment, member⟩ := List.exists_mem_of_ne_nil _ route.nonempty
      refine unbacked { segment.segmentReservation id with status } ?_
      rw [segments]
      exact List.mem_map_of_mem member
    have cancelled : WrittenAs id run status (fun _ => .cancelled) rows.cancelRegional := by
      refine ⟨route, found, segments, ?_⟩
      intro schema
      simp [BookingRows.cancelRegional, reservations, regionalRows, cancelAll]
    exact cancelled.recordsAgree fun _ => by simp [unconfirmed, BookingStatus.active]

theorem Recorded.agree (recorded : Recorded id run rows) (backed : Backed id run rows)
    (decided : rows.decided) (absent : rows.booking = none → rows = .none)
    (aged : ∀ booking, rows.booking = some booking → booking.createdAt < now - 2 * minute) :
    (rows.reconcile now).recordsAgree := by
  have written := recorded.written
  cases found : rows.booking with
  | none =>
      rw [BookingRows.reconcile_absent found, absent found]
      rintro row ⟨⟩
  | some booking =>
      cases status : booking.status with
      | pending => exact absurd status (decided booking found)
      | sagaInProgress =>
          have old : booking.createdAt < now - orphanThreshold :=
            Int.lt_of_lt_of_le (aged booking found) (Int.sub_le_sub_left (by decide) now)
          rw [BookingRows.reconcile_inProgress found status old]
          have cancelled : Written id run rows.cancelBooking :=
            @Written.update id run rows .cancel written rfl
          exact agree_of_unbacked cancelled (BookingRows.unbacked_cancelSegments _)
      | confirmed =>
          by_cases dangling : rows.dangling now = true
          · rw [BookingRows.reconcile_dangling found dangling]
            exact agree_of_unbacked written (BookingRows.of_dangling dangling).2
          · rw [BookingRows.reconcile_confirmed found status (by simpa using dangling)]
            have kept : ¬ rows.unbacked := by
              intro unbacked
              apply dangling
              simpa [BookingRows.dangling, found, Booking.confirmedLongAgo, status,
                aged booking found, BookingRows.unbacked] using unbacked
            rcases written with empty | ⟨segmentStatus, _, route, path, segments, _⟩
            · exact absurd (by simp [BookingRows.unbacked, empty]) kept
            · have confirmed : segmentStatus = .confirmed := by
                by_contra other
                refine kept fun row member => ?_
                rw [segments] at member
                obtain ⟨segment, _, rfl⟩ := List.mem_map.mp member
                exact other
              rcases backed.backed (by simp [found]) with (unbacked | ⟨unconfirmed, _⟩) | full
              · exact absurd unbacked kept
              · exact absurd status (unconfirmed booking found)
              · obtain ⟨same, samePath, regional⟩ := full
                cases path.symm.trans samePath
                subst confirmed
                have whole : WrittenAs id run .confirmed (fun _ => .confirmed) rows :=
                  ⟨route, path, segments, regional⟩
                exact whole.recordsAgree fun _ => by simp [BookingStatus.active]
      | rejected | cancelled =>
          have inactive : booking.status.active = false := by simp [status, BookingStatus.active]
          rw [BookingRows.reconcile_inactive found inactive]
          refine agree_of_unbacked written (recorded.inactive ?_)
          simp [BookingRows.cancelledOrRejected, found, inactive]

end

theorem Recording.recordsAgree {deployment : Deployment} {state : State}
    (recording : Recording deployment state) (vm : Vm) {now : DateTime}
    (aged : ∀ booking ∈ (state.db vm).bookings.rows, booking.createdAt < now - 2 * minute) :
    RecordsAgree (runReconciliationOnce (state.db vm) now).db := by
  have inv := recording.converging.inv
  refine recordsAgree_iff.mpr fun id => ?_
  rw [rowsOf_runReconciliationOnce]
  by_cases owned : ((state.db vm).rowsOf id).booking = none
  · -- the booking of another VM, or of none
    have empty : ((state.db vm).rowsOf id).segments = [] := by
      cases found : state.runs id with
      | none => exact congrArg BookingRows.segments (inv.unborn id found vm)
      | some run =>
          have booking := inv.booking id run found
          rcases Vm.eq_or_peer run.vm vm with rfl | rfl
          · exact congrArg BookingRows.segments (booking.absent owned)
          · exact booking.foreign.2
    rw [BookingRows.reconcile_absent owned]
    intro row member
    rw [empty] at member
    exact nomatch member
  · obtain ⟨run, found, rfl⟩ := inv.owner owned
    have booking := inv.booking id run found
    refine (recording.recorded id run found).agree (recording.converging.backed id run found)
      booking.decided booking.absent ?_
    intro row stored
    exact aged row (Database.mem_of_rowsOf stored).1

/-! ### The step that parts the records -/

theorem exists_later (rows : List Booking) :
    ∃ now, ∀ booking ∈ rows, booking.createdAt < now - 2 * minute := by
  induction rows with
  | nil => exact ⟨0, nofun⟩
  | cons first rest ih =>
      obtain ⟨now, later⟩ := ih
      refine ⟨max now (first.createdAt + 2 * minute + 1), ?_⟩
      intro booking member
      rcases List.mem_cons.mp member with rfl | among
      · have bound := Int.le_max_right now (booking.createdAt + 2 * minute + 1)
        exact Int.lt_sub_right_of_add_lt (Int.lt_of_lt_of_le (Int.lt_succ _) bound)
      · have bound := Int.le_max_left now (first.createdAt + 2 * minute + 1)
        exact Int.lt_of_lt_of_le (later booking among) (Int.sub_le_sub_right bound _)

section

variable {deployment : Deployment} {state : State} {id : BookingId} {run : CreateRun}

theorem of_not_rejectsUnbacked {action : Action} (parts : ¬ rejectsUnbacked state action = true) :
    ∃ id answer run, state.runs id = some run ∧ run.pc = .reject ∧ run.persistent = true ∧
      hasConfirmedSegment (state.db run.vm) id = true ∧ (answer = .ok ∨ answer = .raiseApplied) ∧
      action = .advance id answer := by
  cases action with
  | advance id answer =>
      cases found : state.runs id with
      | none => simp [rejectsUnbacked, found] at parts
      | some run =>
          simp only [rejectsUnbacked, found, Option.all_some] at parts
          refine ⟨id, answer, run, found, ?_⟩
          split at parts
          · rename_i here
            simp only [Bool.or_eq_true, Bool.not_eq_true', not_or, Bool.not_eq_false] at parts
            exact ⟨here, parts.1, parts.2, .inl rfl, rfl⟩
          · rename_i here
            simp only [Bool.or_eq_true, Bool.not_eq_true', not_or, Bool.not_eq_false] at parts
            exact ⟨here, parts.1, parts.2, .inr rfl, rfl⟩
          · exact absurd rfl parts
  | _ => exact absurd rfl parts

theorem step_rejection {answer : Answer} (found : state.runs id = some run)
    (here : run.pc = .reject) (stored : run.persistent = true)
    (answers : answer = .ok ∨ answer = .raiseApplied) :
    ∃ next, step deployment state (.advance id answer) = some next ∧
      next.rows run.vm id = (state.rows run.vm id).setStatus .rejected := by
  have moved : advance deployment id run answer =
      some ((run.goto .raised).commits .updateRejected) := by
    have rejection : run.rejection = .updateRejected := by rw [CreateRun.rejection, if_pos stored]
    rw [← rejection]
    unfold advance
    rw [here]
    rcases answers with rfl | rfl
    · rfl
    · rfl
  have own : answer.fromPeer = false := by
    rcases answers with rfl | rfl
    · rfl
    · rfl
  let next : State := { setRun state id { run with pc := .raised } with
    net := state.net ++ []
    events := state.events ++ []
    db := Function.update state.db run.vm ((state.db run.vm).setBookingStatus id .rejected) }
  have stepped : step deployment state (.advance id answer) = some next := by
    simp only [step, own, Bool.false_eq_true, if_false, advanceRun, found, Option.bind_some, moved]
    rfl
  exact ⟨next, stepped, by simp [next, State.rows, rowsOf_setStatus]⟩

/-- The booking is rejected over a CONFIRMED row: Case B cancels its regional rows only. -/
theorem records_part (inv : Inv deployment state) (found : state.runs id = some run)
    (stored : run.persistent = true) (confirmed : hasConfirmedSegment (state.db run.vm) id = true)
    {db : Database} (rejected : db.rowsOf id = (state.rows run.vm id).setStatus .rejected)
    (now : DateTime) : ¬ RecordsAgree (runReconciliationOnce db now).db := by
  intro agree
  have rows := recordsAgree_iff.mp agree id
  obtain ⟨booking, present⟩ := Option.ne_none_iff_exists'.mp ((inv.booking id run found).stored stored)
  have after : (db.rowsOf id).booking = some { booking with status := .rejected } := by
    simp [rejected, BookingRows.setStatus, present]
  rw [rowsOf_runReconciliationOnce, BookingRows.reconcile_inactive after rfl, rejected] at rows
  rw [hasConfirmedSegment_eq, List.any_eq_true] at confirmed
  obtain ⟨row, member, status⟩ := confirmed
  obtain ⟨reservation, alone, same⟩ := rows row member
  have among := List.mem_of_mem_filter (alone ▸ List.mem_singleton_self reservation)
  have cancelled := BookingRows.status_cancelRegional among
  have active := same.mp (by simpa using status)
  simp [cancelled, BookingStatus.active] at active

end

/-- After any history on a VM without peer, a pass leaves the two records of every booking in
agreement, if and only if `create_booking` rejects no stored booking over CONFIRMED rows. -/
theorem recordsAgree_iff_rejectsUnbacked {deployment : Deployment}
    (single : ∀ vm, deployment.peerConfigured vm = false)
    {capacity : Vm → RegionSchema → SegmentId → Option Nat}
    {users : Vm → DriverId → Option (Option Plate)} {actions : List Action} :
    (∀ done, done <+: actions → ∀ state,
      Lts.run (step deployment) (.initial capacity users) done = some state → ∀ vm now,
        (∀ booking ∈ (state.db vm).bookings.rows, booking.createdAt < now - 2 * minute) →
          RecordsAgree (runReconciliationOnce (state.db vm) now).db) ↔
      Lts.Meets (step deployment) (fun state action => rejectsUnbacked state action = true)
        (.initial capacity users) actions := by
  constructor
  · intro agree
    refine .of_reached ?_
    intro done action rest split state executed
    by_contra parts
    obtain ⟨id, answer, run, found, here, stored, confirmed, answers, rfl⟩ :=
      of_not_rejectsUnbacked parts
    have inv : Inv deployment state := .reachable ⟨done, executed⟩
    obtain ⟨next, stepped, rejected⟩ := @step_rejection deployment state id run answer found here
      stored answers
    obtain ⟨now, aged⟩ := exists_later (next.db run.vm).bookings.rows
    have begun : done ++ [.advance id answer] <+: actions := ⟨rest, by simp [split]⟩
    have reached : Lts.run (step deployment) (.initial capacity users) (done ++ [.advance id answer]) =
        some next := by
      rw [Lts.run_append executed]
      exact Lts.run_cons_eq_some.mpr ⟨next, stepped, rfl⟩
    exact records_part inv found stored confirmed rejected now (agree _ begun next reached run.vm now aged)
  · intro meets done begun state executed vm now aged
    have recording : Recording deployment state :=
      Lts.run_invariant (fun _ _ _ recording kept stepped => recording.step single kept stepped)
        (recording_initial capacity users) executed (meets.of_prefix begun)
    exact recording.recordsAgree vm aged

/-! ### A booking whose confirmation is not published -/

def unpublished : List Action :=
  bookAsFar 10 2 ++ [.advance 10 .raise, .advance 10 .ok, .advance 10 .ok, .advance 10 .ok,
    .advance 10 .raise, .advance 10 .ok]

theorem records_unpublished :
    ¬ ∀ (deployment : Deployment) (actions : List Action) (state : State),
      (∀ vm, deployment.peerConfigured vm = false) →
      Lts.run (step deployment) emptyState actions = some state →
      (∀ id run, state.runs id = some run → run.pc.ended = true) → ∀ vm now,
        (∀ booking ∈ (state.db vm).bookings.rows, booking.createdAt < now - 2 * minute) →
          RecordsAgree (runReconciliationOnce (state.db vm) now).db := by
  intro holds
  have observed : (Lts.run (step singleVm) emptyState unpublished).map (fun state =>
      ((state.runs 10).map (·.pc), (state.db .vm1).bookings.rows.map (·.createdAt),
        (runReconciliationOnce (state.db .vm1) hour).db.segmentReservations,
        (runReconciliationOnce (state.db .vm1) hour).db.reservations .regionIreland)) =
      some (some .raised, [0], [{ irishSegment.segmentReservation 10 with status := .confirmed }],
        [{ irishSegment.reservation 10 7 with status := .cancelled }]) := by decide
  obtain ⟨state, executed, outcome⟩ := Option.map_eq_some_iff.mp observed
  simp only [Prod.mk.injEq] at outcome
  obtain ⟨pc, created, segments, regional⟩ := outcome
  have ended : ∀ id run, state.runs id = some run → run.pc.ended = true := by
    intro id run found
    obtain ⟨vm, request, member⟩ := begun_of_run executed rfl found
    simp only [unpublished, bookAsFar, List.replicate, List.cons_append, List.nil_append,
      List.mem_cons, Action.createBooking.injEq, reduceCtorEq, List.not_mem_nil, or_false] at member
    obtain ⟨_, rfl, _⟩ := member
    rw [found, Option.map_some, Option.some.injEq] at pc
    rw [pc]
    rfl
  have aged : ∀ booking ∈ (state.db .vm1).bookings.rows, booking.createdAt < hour - 2 * minute := by
    intro booking member
    have among : booking.createdAt ∈ (state.db .vm1).bookings.rows.map (·.createdAt) :=
      List.mem_map_of_mem member
    rw [created, List.mem_singleton] at among
    rw [among]
    decide
  have agree := holds singleVm unpublished state (fun _ => rfl) executed ended .vm1 hour aged
  obtain ⟨reservation, alone, same⟩ := agree _ (by rw [segments]; exact List.mem_singleton_self _)
  have among := List.mem_of_mem_filter (alone ▸ List.mem_singleton_self reservation)
  rw [show regionSchemaMap _ = RegionSchema.regionIreland from rfl, regional,
    List.mem_singleton] at among
  exact nomatch among ▸ same.mp rfl

theorem recordsAgree_bookedAndCrashed :
    ∃ state, Lts.run (step singleVm) emptyState bookedAndCrashed = some state ∧
      (runReconciliationOnce (state.db .vm1) hour).db.segmentReservations.map (·.status) =
        [.confirmed, .cancelled] ∧
      RecordsAgree (runReconciliationOnce (state.db .vm1) hour).db := by
  have observed : (Lts.run (step singleVm) emptyState bookedAndCrashed).map (fun state =>
      ((state.db .vm1).bookings.rows.all fun booking => booking.createdAt < hour - 2 * minute,
        (runReconciliationOnce (state.db .vm1) hour).db.segmentReservations.map (·.status))) =
      some (true, [.confirmed, .cancelled]) := by decide
  obtain ⟨state, executed, outcome⟩ := Option.map_eq_some_iff.mp observed
  simp only [Prod.mk.injEq, List.all_eq_true, decide_eq_true_eq] at outcome
  have checked : Lts.checks (step singleVm) rejectsUnbacked emptyState bookedAndCrashed = true := by
    decide
  have agree := (@recordsAgree_iff_rejectsUnbacked singleVm (fun _ => rfl) _ _ bookedAndCrashed).mpr
    (Lts.checks_iff_meets.mp checked)
  exact ⟨state, executed, outcome.2,
    agree _ (List.prefix_refl _) state executed .vm1 hour outcome.1⟩

end Cluster

end TrafficService
