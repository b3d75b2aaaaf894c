import TrafficService.DepartureOffsets
import TrafficService.WholeCalls
import TrafficService.BookingInvariant

/-!
The consumer of the verification service raises on a message whose plate is null, and on a
confirmation whose two hours end after the year 9999, and puts it back at the head of its queue.
Every message about a booking carries the plate that `create_booking` resolved, so that one null
plate is enough.
-/

namespace TrafficService.Cluster

def Transaction.draft? : Transaction → Option BookingDraft
  | .saga draft _ | .insertRejected draft => some draft
  | _ => none

def PassPc.listed : PassPc → List Booking
  | .orphans todo | .dangling todo => todo
  | _ => []

structure Carries (plate : Option Plate) (id : BookingId) (state : State) : Prop where
  run : ∀ run, state.runs id = some run → run.draft.plateNumber = plate ∧
    resolvePlateNumber (state.db run.vm) plate run.draft.driverId = plate
  row : ∀ vm row, (state.rows vm id).booking = some row → row.plateNumber = plate ∧
    resolvePlateNumber (state.db vm) plate row.driverId = plate
  snapshot : ∀ passId pass snapshot row, state.passes passId = some pass →
    pass.snapshot = some snapshot → (snapshot.rowsOf id).booking = some row → row.plateNumber = plate
  listed : ∀ passId pass, state.passes passId = some pass → ∀ row ∈ pass.pc.listed, row.id = id →
    row.plateNumber = plate
  events : ∀ event ∈ state.events, event.bookingId = id → event.plateNumber = plate

/-! ### What a step writes -/

theorem booking_onRows {transaction : Transaction} {id : BookingId} {rows : BookingRows}
    {row : Booking} (stored : (transaction.onRows id rows).booking = some row) :
    (∃ before, rows.booking = some before ∧ row.plateNumber = before.plateNumber ∧
        row.driverId = before.driverId) ∨
      ∃ draft, Transaction.draft? transaction = some draft ∧ row.plateNumber = draft.plateNumber ∧
        row.driverId = draft.driverId := by
  cases transaction with
  | saga draft segments | insertRejected draft =>
      cases stored
      exact .inr ⟨draft, rfl, rfl, rfl⟩
  | peerReserve driverId segment | release schema | lingering schema | peerRelease =>
      exact .inl ⟨row, stored, rfl, rfl⟩
  | confirm minutes | updateRejected | cancel | orphan | dangling =>
      obtain ⟨before, found, rfl⟩ := Option.map_eq_some_iff.mp stored
      exact .inl ⟨before, found, rfl, rfl⟩

section

variable {deployment : Deployment} {state next : State} {action : Action} {id : BookingId}
  {run : CreateRun} {answer : Answer} {outcome : Outcome}

theorem advance_draft {transaction : Transaction} {draft : BookingDraft}
    (moved : advance deployment id run answer = some outcome)
    (committed : outcome.transaction = some transaction)
    (inserts : Transaction.draft? transaction = some draft) : draft = run.draft := by
  rcases advance_commits moved committed with
    ⟨_, rfl, _⟩ | ⟨_, rfl, _⟩ | ⟨_, _, _, rfl, _⟩ | ⟨_, rfl, _⟩
  · exact (Option.some.inj inserts).symm
  · cases inserts
  · cases inserts
  · simp only [CreateRun.rejection] at inserts
    split at inserts
    · cases inserts
    · exact (Option.some.inj inserts).symm

theorem advance_plates (moved : advance deployment id run answer = some outcome) :
    ∀ event ∈ outcome.published, event.plateNumber = run.draft.plateNumber := by
  revert moved
  fun_cases advance deployment id run answer
  all_goals
    intro moved
    cases moved
  all_goals
    simp [CreateRun.confirmedEvent, CreateRun.failedEvent, Event.plateNumber]

theorem External.inserts_nothing {vm : Vm} {transaction : Transaction}
    (source : External state action vm id transaction) : Transaction.draft? transaction = none := by
  cases source with
  | _ => rfl

theorem users_step (stepped : step deployment state action = some next) (vm : Vm) :
    (next.db vm).users = (state.db vm).users := by
  have committed {before : State} {place : Vm} {target : BookingId} {transaction : Transaction}
      (done : commit before place target transaction = some next) (same : before.db = state.db) :
      (next.db vm).users = (state.db vm).users := by
    obtain ⟨db, applied, rfl⟩ := Option.map_eq_some_iff.mp done
    by_cases here : vm = place
    · subst here
      simpa [same] using (kept_users (before.db vm).users).apply rfl applied
    · simp [here, same]
  cases step_taken stepped with
  | idle frame => rw [frame.db]
  | began place target request isBegin fresh set => rw [set]; rfl
  | crashed target run isCrash found running set => rw [set]; rfl
  | advanced before target answer run outcome frame source found moved applied =>
      simp only [applyOutcome] at applied
      split at applied
      · cases applied
        exact congrArg (fun db => (db vm).users) frame.db
      · exact committed applied frame.db
  | committed before place target transaction published frame source reports announced done =>
      exact committed done frame.db

theorem step_row (stepped : step deployment state action = some next) {vm : Vm} {row : Booking}
    (stored : (next.rows vm id).booking = some row) :
    (∃ before, (state.rows vm id).booking = some before ∧ row.plateNumber = before.plateNumber ∧
        row.driverId = before.driverId) ∨
      ∃ run, state.runs id = some run ∧ vm = run.vm ∧ row.plateNumber = run.draft.plateNumber ∧
        row.driverId = run.draft.driverId := by
  have kept (same : next.rows vm id = state.rows vm id) :
      ∃ before, (state.rows vm id).booking = some before ∧ row.plateNumber = before.plateNumber ∧
        row.driverId = before.driverId := ⟨row, same ▸ stored, rfl, rfl⟩
  cases step_effect stepped id with
  | unchanged runs rows => exact .inl (kept (rows vm))
  | begun place draft isBegin fresh runs rows => exact .inl (kept (rows vm))
  | crashed run isCrash found running runs rows => exact .inl (kept (rows vm))
  | advanced run answer outcome source found moved runs rows =>
      by_cases here : vm = outcome.run.vm
      · rw [rows, if_pos here] at stored
        cases committed : outcome.transaction with
        | none =>
            rw [Outcome.rowsAfter, committed] at stored
            exact .inl ⟨row, stored, rfl, rfl⟩
        | some transaction =>
            rw [Outcome.rowsAfter, committed] at stored
            rcases booking_onRows stored with old | ⟨draft, inserts, plate, driver⟩
            · exact .inl old
            · cases advance_draft moved committed inserts
              exact .inr ⟨run, found, here.trans (advance_keeps moved).1, plate, driver⟩
      · exact .inl (kept ((rows vm).trans (if_neg here)))
  | external place transaction source runs rows =>
      by_cases here : vm = place
      · rw [rows, if_pos here] at stored
        rcases booking_onRows stored with old | ⟨draft, inserts, _⟩
        · exact .inl old
        · cases source.inserts_nothing.symm.trans inserts
      · exact .inl (kept ((rows vm).trans (if_neg here)))

theorem step_events (stepped : step deployment state action = some next) {event : Event}
    (sent : event ∈ next.events) :
    event ∈ state.events ∨
      (∃ run answer outcome, state.runs event.bookingId = some run ∧
        advance deployment event.bookingId run answer = some outcome ∧
        event ∈ outcome.published ∧ next.runs event.bookingId = some outcome.run) ∨
      Reports state action event.bookingId event := by
  cases step_taken stepped with
  | idle frame =>
      rw [frame.events, List.append_nil] at sent
      exact .inl sent
  | began vm target request isBegin fresh set =>
      subst set
      exact .inl sent
  | crashed target run isCrash found running set =>
      subst set
      exact .inl sent
  | advanced before target answer run outcome frame source found moved applied =>
      rw [(applyOutcome_effect applied).2.2.2.1, frame.events, List.append_nil,
        List.mem_append] at sent
      rcases sent with old | new
      · exact .inl old
      · obtain rfl := advance_published moved event new
        refine .inr (.inl ⟨run, answer, outcome, found, moved, new, ?_⟩)
        rw [(applyOutcome_effect applied).1, Function.update_self]
  | committed before vm target transaction published frame source reports announced done =>
      rw [(frame_commit done).2.2.2, frame.events, List.mem_append] at sent
      rcases sent with old | new
      · exact .inl old
      · have reported := reports event new
        exact .inr (.inr (reported.bookingId ▸ reported))

end

/-! ### The plate of a booking -/

section

variable {deployment : Deployment} {state next : State} {action : Action} {id : BookingId}
  {plate : Option Plate}

theorem resolvePlateNumber_congr {first second : Database} (users : first.users = second.users)
    (plate : Option Plate) (driverId : DriverId) :
    resolvePlateNumber first plate driverId = resolvePlateNumber second plate driverId := by
  have owner : getDriverPlateNumber first driverId = getDriverPlateNumber second driverId := by
    rw [getDriverPlateNumber, getDriverPlateNumber, users]
  unfold resolvePlateNumber
  split
  · exact owner
  · exact owner
  · rfl

theorem Carries.reads (carries : Carries plate id state) {passId : PassId} {pass : Pass}
    (found : state.passes passId = some pass) {row : Booking}
    (stored : ((pass.reads state).rowsOf id).booking = some row) : row.plateNumber = plate := by
  cases opened : pass.snapshot with
  | none =>
      rw [Pass.reads, opened] at stored
      exact (carries.row pass.vm row stored).1
  | some snapshot =>
      rw [Pass.reads, opened] at stored
      exact carries.snapshot passId pass snapshot row found opened stored

theorem Carries.selected (carries : Carries plate id state) {passId : PassId} {pass : Pass}
    (found : state.passes passId = some pass) {test : Booking → Bool} :
    ∀ row ∈ (pass.reads state).bookings.rows.filter test, row.id = id → row.plateNumber = plate := by
  rintro row member rfl
  exact carries.reads found (Database.rowsOf_of_mem (List.mem_of_mem_filter member))

theorem Carries.pass (carries : Carries plate id state) {passId : PassId} {after : Pass}
    (origin : PassOrigin state passId after) :
    (∀ snapshot row, after.snapshot = some snapshot → (snapshot.rowsOf id).booking = some row →
        row.plateNumber = plate) ∧
      ∀ row ∈ after.pc.listed, row.id = id → row.plateNumber = plate := by
  rcases origin with same | ⟨vm, rfl⟩ | ⟨pass, found, move⟩
  · exact ⟨fun snapshot row => carries.snapshot passId after snapshot row same,
      carries.listed passId after same⟩
  · exact ⟨nofun, nofun⟩
  · have opens (snapshot : Database) (row : Booking)
        (opened : some (pass.reads state) = some snapshot)
        (stored : (snapshot.rowsOf id).booking = some row) : row.plateNumber = plate := by
      cases opened
      exact carries.reads found stored
    have before := carries.listed passId pass found
    cases move with
    | selectOrphans now here => exact ⟨opens, carries.selected found⟩
    | nextOrphan row rest here clear =>
        rw [here] at before
        exact ⟨nofun, fun row member => before row (List.mem_cons_of_mem _ member)⟩
    | selectDangling now => exact ⟨opens, carries.selected found⟩
    | nextDangling row rest here =>
        rw [here] at before
        exact ⟨nofun, fun row member => before row (List.mem_cons_of_mem _ member)⟩
    | sweep schemas =>
        exact ⟨fun snapshot row => carries.snapshot passId pass snapshot row found, nofun⟩
    | selectLingering schema schemas => exact ⟨opens, nofun⟩
    | nextLingering schema listed rest schemas here => exact ⟨nofun, nofun⟩

theorem start_of_fresh (stepped : Cluster.step deployment state action = some next)
    (fresh : state.runs id = none) {run : CreateRun} (found : next.runs id = some run) :
    ∃ vm, ∃ request : BookingRequest, run = .start vm (request.draft (state.db vm)) := by
  cases step_effect stepped id with
  | unchanged runs rows => exact nomatch fresh.symm.trans (runs.symm.trans found)
  | begun vm draft isBegin unborn runs rows =>
      obtain ⟨request, rfl⟩ := isBegin
      simp only [Cluster.step, fresh, Option.some.injEq] at stepped
      subst stepped
      refine ⟨vm, request, ?_⟩
      simpa [setRun] using found.symm
  | crashed before isCrash known running runs rows => exact nomatch fresh.symm.trans known
  | advanced before answer outcome source known moved runs rows =>
      exact nomatch fresh.symm.trans known
  | external vm transaction source runs rows =>
      exact nomatch fresh.symm.trans (runs.symm.trans found)

theorem Carries.step (carries : Carries plate id state)
    (stepped : Cluster.step deployment state action = some next)
    (drafted : ∀ run, next.runs id = some run → run.draft.plateNumber = plate) :
    Carries plate id next := by
  have resolved (vm : Vm) (driverId : DriverId) :
      resolvePlateNumber (next.db vm) plate driverId = resolvePlateNumber (state.db vm) plate driverId :=
    resolvePlateNumber_congr (users_step stepped vm) plate driverId
  refine ⟨?_, ?_, ?_, ?_, ?_⟩
  · intro run found
    refine ⟨drafted run found, ?_⟩
    rw [resolved]
    cases known : state.runs id with
    | none =>
        obtain ⟨vm, request, rfl⟩ := start_of_fresh stepped known found
        rw [← drafted _ found]
        exact resolvePlateNumber_idem request.plateNumber
    | some before =>
        obtain ⟨after, kept, vm, draft⟩ := step_keeps_run stepped known
        cases kept.symm.trans found
        rw [vm, draft]
        exact (carries.run before known).2
  · intro vm row stored
    rw [resolved]
    rcases step_row stepped stored with ⟨before, old, same, driver⟩ | ⟨run, found, rfl, same, driver⟩
    · rw [same, driver]
      exact carries.row vm before old
    · rw [same, driver]
      exact carries.run run found
  · intro passId pass snapshot row found opened stored
    exact (carries.pass (step_pass stepped found)).1 snapshot row opened stored
  · intro passId pass found
    exact (carries.pass (step_pass stepped found)).2
  · intro event sent about
    rcases step_events stepped sent with old | ⟨run, answer, outcome, found, moved, new, _⟩ | reported
    · exact carries.events event old about
    · rw [about] at found
      exact (advance_plates moved event new).trans (carries.run run found).1
    · rw [about] at reported
      cases reported with
      | cancel vm _ driverId published booking stored driver =>
          subst driver
          obtain ⟨same, kept⟩ := carries.row vm booking stored
          rw [Event.plateNumber, same, kept]
      | orphan passId now published pass row rest found here =>
          exact carries.listed passId pass found row (by simp [here, PassPc.listed]) rfl
      | dangling passId now published pass row rest found here =>
          exact carries.listed passId pass found row (by simp [here, PassPc.listed]) rfl

def PlatesKept (state : State) : Prop :=
  ∀ id plate, (∀ run, state.runs id = some run → run.draft.plateNumber = plate) →
    Carries plate id state

theorem PlatesKept.step (kept : PlatesKept state)
    (stepped : Cluster.step deployment state action = some next) : PlatesKept next := by
  intro id plate drafted
  refine (kept id plate ?_).step stepped drafted
  intro run found
  obtain ⟨after, still, _, draft⟩ := step_keeps_run stepped found
  rw [← draft]
  exact drafted after still

theorem platesKept_initial (capacity : Vm → RegionSchema → SegmentId → Option Nat)
    (users : Vm → DriverId → Option (Option Plate)) : PlatesKept (.initial capacity users) := by
  intro id plate _
  refine ⟨?_, ?_, ?_, ?_, ?_⟩
  · intro run found
    exact nomatch found
  · intro vm row stored
    exact nomatch stored
  · intro passId pass snapshot row found
    exact nomatch found
  · intro passId pass found
    exact nomatch found
  · intro event sent
    exact nomatch sent

theorem draft_kept {run : CreateRun} (found : state.runs id = some run)
    (reached : Lts.Reachable (Cluster.step deployment) state next) :
    ∃ after, next.runs id = some after ∧ after.draft = run.draft := by
  refine @Lts.Reachable.invariant _ _ _ (fun state => ∃ after, state.runs id = some after ∧
    after.draft = run.draft) ?_ state next reached ⟨run, found, rfl⟩
  rintro before action last ⟨middle, known, same⟩ stepped
  obtain ⟨after, still, _, draft⟩ := step_keeps_run stepped known
  exact ⟨after, still, draft.trans same⟩

end

/-! ### What comes before a confirmation -/

/-- The saga is past `resolve_route` and not yet past its last message. -/
def CreatePc.routed : CreatePc → Bool
  | .reserve _ | .peerWait .. | .publishConfirmed => true
  | _ => false

/-- A booking is confirmed for the departure of its request, and not before it has a route. -/
structure RoutedFirst (id : BookingId) (state : State) : Prop where
  routed : ∀ run, state.runs id = some run → CreatePc.routed run.pc = true → run.route ≠ none
  confirmed : ∀ event ∈ state.events, event.bookingId = id → event.isConfirmed = true →
    ∃ run driverId plate segments, state.runs id = some run ∧ run.route ≠ none ∧
      event = .bookingConfirmed id driverId plate segments run.draft.departureTime

section

variable {deployment : Deployment} {state next : State} {action : Action} {id : BookingId}
  {run : CreateRun} {answer : Answer} {outcome : Outcome}

theorem routed_of_advance (moved : advance deployment id run answer = some outcome) :
    (run.route ≠ none → outcome.run.route ≠ none) ∧
      ((CreatePc.routed run.pc = true → run.route ≠ none) →
        CreatePc.routed outcome.run.pc = true → outcome.run.route ≠ none) := by
  revert moved
  fun_cases advance deployment id run answer
  all_goals
    intro moved
    cases moved
  all_goals
    simp_all [CreatePc.routed]

theorem confirms_of_advance (moved : advance deployment id run answer = some outcome) :
    ∀ event ∈ outcome.published, event.isConfirmed = true →
      run.pc = .publishConfirmed ∧ event = run.confirmedEvent id := by
  revert moved
  fun_cases advance deployment id run answer
  all_goals
    intro moved
    cases moved
  all_goals
    simp_all [CreateRun.failedEvent, Event.isConfirmed]

theorem Reports.unconfirmed {event : Event} (reported : Reports state action id event) :
    event.isConfirmed = false := by
  cases reported with
  | _ => rfl

theorem route_kept {after : CreateRun} (stepped : Cluster.step deployment state action = some next)
    (found : state.runs id = some run) (routed : run.route ≠ none)
    (still : next.runs id = some after) : after.route ≠ none := by
  cases step_effect stepped id with
  | unchanged runs rows | external vm transaction source runs rows =>
      cases found.symm.trans (runs.symm.trans still)
      exact routed
  | begun vm draft isBegin fresh runs rows => exact nomatch fresh.symm.trans found
  | crashed before isCrash known running runs rows =>
      cases known.symm.trans found
      cases runs.symm.trans still
      exact routed
  | advanced before answer outcome source known moved runs rows =>
      cases known.symm.trans found
      cases runs.symm.trans still
      exact (routed_of_advance moved).1 routed

theorem RoutedFirst.step (first : RoutedFirst id state)
    (stepped : Cluster.step deployment state action = some next) : RoutedFirst id next := by
  constructor
  · intro run found
    cases step_effect stepped id with
    | unchanged runs rows | external vm transaction source runs rows =>
        exact first.routed run (runs ▸ found)
    | begun vm draft isBegin fresh runs rows =>
        cases runs.symm.trans found
        exact nofun
    | crashed before isCrash known running runs rows =>
        cases runs.symm.trans found
        exact nofun
    | advanced before answer outcome source known moved runs rows =>
        cases runs.symm.trans found
        exact (routed_of_advance moved).2 (first.routed before known)
  · intro event sent about confirms
    rcases step_events stepped sent with old | ⟨run, answer, outcome, found, moved, new, runs⟩ | told
    · obtain ⟨run, driverId, plate, segments, found, routed, rfl⟩ :=
        first.confirmed event old about confirms
      obtain ⟨after, still, _, draft⟩ := step_keeps_run stepped found
      refine ⟨after, driverId, plate, segments, still, ?_, by rw [draft]⟩
      exact route_kept stepped found routed still
    · rw [about] at found moved runs
      obtain ⟨here, rfl⟩ := confirms_of_advance moved event new confirms
      have routed := first.routed run found (by rw [here]; rfl)
      refine ⟨outcome.run, run.draft.driverId, run.draft.plateNumber,
        run.reserved.map fun segment => (segment.segmentId, segment.region), runs,
        (routed_of_advance moved).1 routed, ?_⟩
      rw [(advance_keeps moved).2]
      rfl
    · exact nomatch told.unconfirmed.symm.trans confirms

theorem routedFirst_initial (capacity : Vm → RegionSchema → SegmentId → Option Nat)
    (users : Vm → DriverId → Option (Option Plate)) (id : BookingId) :
    RoutedFirst id (.initial capacity users) where
  routed := fun _ found => nomatch found
  confirmed := fun _ sent => nomatch sent

end

/-! ### What may be published -/

/-- The route of the request, if it was given one, is one that `resolve_route` lays for its
departure. -/
def RouteLaid (id : BookingId) (state : State) : Prop :=
  ∀ run route, state.runs id = some run → run.route = some route →
    ∃ path, resolveRoute path run.draft.departureTime = some route

/-- The plate is blank, the window ends in time, or a departure in the last hour of the year 9999
gets no route. -/
def Cacheable (casing : CaseTables) (raw : Plate) (departureTime : DateTime) : Prop :=
  casing.normalise raw = "" ∨ departureTime + journeyWindow ≤ datetimeMax ∨
    datetimeMax < hourStart departureTime + hour

theorem processMessage_eq_none {casing : CaseTables} {cache : Cache} {now : DateTime}
    {event : Event} : processMessage casing cache now event = none ↔ event.plateNumber = none ∨
      ∃ id driverId raw segments departure,
        event = .bookingConfirmed id driverId (some raw) segments departure ∧
          casing.normalise raw ≠ "" ∧ datetimeMax < departure + journeyWindow := by
  cases event with
  | bookingFailed | bookingCancelled =>
      simp [processMessage, handleCancelledOrFailed, Event.plateNumber]
  | bookingConfirmed id driverId plate segments departure =>
      cases plate with
      | none => exact iff_of_true rfl (.inl rfl)
      | some raw =>
          simp only [processMessage, handleConfirmed, Option.bind_some, Event.plateNumber,
            reduceCtorEq, false_or, Event.bookingConfirmed.injEq, Option.some.injEq]
          constructor
          · intro raised
            split at raised
            · cases raised
            · next text =>
                have late := addTimedelta_eq_none.mp (Option.map_eq_none_iff.mp raised)
                exact ⟨id, driverId, raw, segments, departure, ⟨rfl, rfl, rfl, rfl, rfl⟩, text, late⟩
          · rintro ⟨_, _, _, _, _, ⟨rfl, rfl, rfl, rfl, rfl⟩, text, late⟩
            rw [if_neg text, addTimedelta_eq_none.mpr late, Option.map_none]

section

variable {deployment : Deployment} {state next : State} {vm : Vm} {id : BookingId}

theorem reaches_quiet (state : State) : Lts.Reachable (step deployment) state { state with net := [] } := by
  obtain ⟨db, runs, passes, net, events⟩ := state
  induction net with
  | nil => exact .refl _
  | cons msg rest ih =>
      have lost : step deployment ⟨db, runs, passes, msg :: rest, events⟩ (.lose msg) =
          some ⟨db, runs, passes, rest, events⟩ := by simp [step]
      exact (Lts.Reachable.single lost).trans ih

/-- Without a route the request is rejected, and its driver may cancel it nevertheless. -/
theorem reaches_cancelled (absent : ((state.db vm).rowsOf id).booking = none)
    (request : BookingRequest) :
    ∃ run : CreateRun, run.route = none ∧ ∃ db, Lts.Reachable (step deployment)
      (state.serving id state.db (.start vm (request.draft (state.db vm))) state.events)
      (state.serving id db run (state.events ++ [.bookingCancelled id request.driverId
        (request.draft (state.db vm)).plateNumber (some request.departureTime)])) := by
  let draft := request.draft (state.db vm)
  let rejected : Tables :=
    Function.update state.db vm (rejectBooking id (state.db vm) draft false)
  have flushed := @reaches_flushed deployment state vm id request
  have unresolved := @reaches_advance deployment state id state.db state.db
    { CreateRun.start vm draft with pc := .resolve } .raise ((CreateRun.start vm draft).goto .reject)
    state.events rfl rfl rfl rfl
  have ended := @reaches_rejected deployment state id state.db (.start vm draft) state.events
    fun _ => absent
  simp only [CreateRun.goto, List.append_nil] at unresolved
  let ending : State := state.serving id rejected { CreateRun.start vm draft with pc := .raised }
    state.events
  have reached : Lts.Reachable (step deployment)
      (state.serving id state.db (.start vm draft) state.events) ending :=
    (flushed.trans unresolved).trans ended
  have row : (ending.db vm).bookings.find? id = some (draft.booking id .rejected) := by
    rw [show ending.db vm = rejectBooking id (state.db vm) draft false from Function.update_self ..]
    exact @booking_rejectBooking id (state.db vm) draft false absent
  have users : (ending.db vm).users = (state.db vm).users :=
    @Lts.Reachable.invariant _ _ _ (fun other => (other.db vm).users = (state.db vm).users)
      (fun _ _ _ same stepped => (users_step stepped vm).trans same) _ _ reached rfl
  have plate : resolvePlateNumber (ending.db vm) draft.plateNumber request.driverId =
      draft.plateNumber :=
    (resolvePlateNumber_congr users _ _).trans (resolvePlateNumber_idem request.plateNumber)
  have cancels : step deployment ending (.cancelBooking vm id request.driverId true) =
      some (state.serving id (Function.update rejected vm (cancelBookingRows (ending.db vm) id))
        { CreateRun.start vm draft with pc := .raised }
        (state.events ++ [.bookingCancelled id request.driverId draft.plateNumber
          (some request.departureTime)])) := by
    have own : (draft.booking id .rejected).driverId = request.driverId := rfl
    have active : (draft.booking id .rejected).status ≠ .cancelled := nofun
    have stored : (draft.booking id .rejected).plateNumber = draft.plateNumber := rfl
    simp only [step, cancelBooking, row, own, active, stored, plate, ne_eq, not_true_eq_false, if_false,
      if_true]
    rfl
  exact ⟨_, rfl, _, reached.tail cancels⟩

/-- The messages under way may be lost, and then the saga has its way. -/
theorem reaches_confirmed (absent : ((state.db vm).rowsOf id).booking = none)
    (request : BookingRequest) (route : Route) :
    ∃ finish run segments, Lts.Reachable (step deployment)
      (state.serving id state.db (.start vm (request.draft (state.db vm))) state.events) finish ∧
      finish.runs id = some run ∧ run.route = some route ∧
      run.draft = request.draft (state.db vm) ∧
      .bookingConfirmed id request.driverId (request.draft (state.db vm)).plateNumber segments
        request.departureTime ∈ finish.events := by
  obtain ⟨session, inserted⟩ : ∃ session, (state.db vm).insertBooking
      ((request.draft (state.db vm)).booking id .sagaInProgress) = some session := by
    refine Option.ne_none_iff_exists'.mp ?_
    rw [Ne, Database.insertBooking_eq_none, not_not]
    exact absent
  let quiet : State := { state with net := [] }
  have lost := @reaches_quiet deployment
    (state.serving id state.db (.start vm (request.draft (state.db vm))) state.events)
  have returned := @reaches_returned deployment quiet vm id rfl request route session inserted
  refine ⟨_, _, route.segments.map fun segment => (segment.segmentId, segment.region),
    lost.trans returned, serving_runs, rfl, rfl, ?_⟩
  exact List.mem_append_right _ (List.mem_singleton_self _)

theorem arrives_of_early {time : Int} (early : hourStart time + hour ≤ datetimeMax) :
    time + (5 : Nat) * minute ≤ datetimeMax := by
  have whole : time - time % 3600000000 + 3600000000 ≤ 253402300799999999 := early
  have soon : time + 5 * 60000000 ≤ 253402300799999999 := by omega
  exact soon

theorem exists_route {departureTime : DateTime}
    (early : hourStart departureTime + hour ≤ datetimeMax) :
    ∃ path route, resolveRoute path departureTime = some route := by
  let path : Path := ⟨[⟨1, .euWestIreland, 5⟩], 0, by decide, by decide⟩
  have laid : layEdges departureTime path.edges = some _ :=
    layEdges_cons.mpr ⟨early, arrives_of_early early, [], rfl, rfl⟩
  exact ⟨path, ⟨_, _, by simp, by simp⟩, resolveRoute_eq_some.mpr ⟨laid, rfl⟩⟩

theorem exists_unprocessed (casing : CaseTables) (absent : ((state.db vm).rowsOf id).booking = none)
    {request : BookingRequest}
    (missing : ∀ raw, resolvePlateNumber (state.db vm) request.plateNumber request.driverId = some raw →
      ¬ Cacheable casing raw request.departureTime) :
    ∃ finish, Lts.Reachable (step deployment)
        (state.serving id state.db (.start vm (request.draft (state.db vm))) state.events) finish ∧
      RouteLaid id finish ∧ ∃ event ∈ finish.events, event.bookingId = id ∧
        ∀ cache now, processMessage casing cache now event = none := by
  cases plate : resolvePlateNumber (state.db vm) request.plateNumber request.driverId with
  | none =>
      obtain ⟨run, unrouted, db, cancels⟩ := @reaches_cancelled deployment state vm id absent request
      refine ⟨_, cancels, ?_, _, List.mem_append_right _ (List.mem_singleton_self _), rfl, ?_⟩
      · intro other route found routed
        cases serving_runs.symm.trans found
        cases unrouted.symm.trans routed
      · exact fun cache now => processMessage_eq_none.mpr (.inl plate)
  | some raw =>
      obtain ⟨text, late, early⟩ := (not_or.mp (missing raw plate)).imp_right not_or.mp
      rw [Int.not_le] at late
      rw [Int.not_lt] at early
      obtain ⟨path, route, resolved⟩ := exists_route early
      obtain ⟨finish, run, segments, confirms, found, routed, draft, sent⟩ :=
        @reaches_confirmed deployment state vm id absent request route
      refine ⟨finish, confirms, ?_, _, sent, rfl, ?_⟩
      · intro other laid known given
        cases known.symm.trans found
        cases given.symm.trans routed
        exact ⟨path, by rw [draft]; exact resolved⟩
      · intro cache now
        refine processMessage_eq_none.mpr (.inr
          ⟨id, request.driverId, raw, segments, request.departureTime, ?_, text, late⟩)
        rw [← plate]
        rfl

theorem processed_of_cacheable {casing : CaseTables} {draft : BookingDraft} {run : CreateRun}
    {raw : Plate} (kept : PlatesKept state) (first : RoutedFirst id state) (laid : RouteLaid id state)
    (found : state.runs id = some run) (same : run.draft = draft)
    (resolved : draft.plateNumber = some raw) (cacheable : Cacheable casing raw draft.departureTime)
    {event : Event} (sent : event ∈ state.events) (about : event.bookingId = id) (cache : Cache)
    (now : DateTime) : processMessage casing cache now event ≠ none := by
  subst same
  intro raised
  have carries : Carries run.draft.plateNumber id state := by
    refine kept id _ ?_
    intro other known
    cases known.symm.trans found
    rfl
  have plate : event.plateNumber = some raw := (carries.events event sent about).trans resolved
  rcases processMessage_eq_none.mp raised with missing | ⟨_, _, given, _, departure, rfl, text, late⟩
  · cases plate.symm.trans missing
  obtain rfl : given = raw := Option.some.inj plate
  obtain ⟨other, _, _, _, known, routed, same⟩ := first.confirmed _ sent about rfl
  cases known.symm.trans found
  obtain ⟨-, -, -, -, rfl⟩ := Event.bookingConfirmed.inj same
  obtain ⟨route, given⟩ := Option.ne_none_iff_exists'.mp routed
  obtain ⟨path, drawn⟩ := laid run route found given
  rcases cacheable with blank | inTime | none
  · exact text blank
  · exact absurd inTime (Int.not_le.mpr late)
  · exact absurd (departure_of_resolved drawn) (Int.not_le.mpr none)

/-- Whatever happens to a booking, the consumer handles all that is published about it, if and
only if `create_booking` has found a plate for it and the window of its confirmation can be
computed, or none is needed. -/
theorem processed_iff_cacheable (casing : CaseTables) {capacity : Vm → RegionSchema → SegmentId → Option Nat}
    {users : Vm → DriverId → Option (Option Plate)} {request : BookingRequest}
    (reached : Lts.Reachable (step deployment) (.initial capacity users) state)
    (begun : step deployment state (.createBooking vm id request) = some next) :
    (∀ finish, Lts.Reachable (step deployment) next finish → RouteLaid id finish →
        ∀ event ∈ finish.events, event.bookingId = id →
          ∀ cache now, processMessage casing cache now event ≠ none) ↔
      ∃ raw, resolvePlateNumber (state.db vm) request.plateNumber request.driverId = some raw ∧
        Cacheable casing raw request.departureTime := by
  have fresh : state.runs id = none := by
    cases found : state.runs id with
    | none => rfl
    | some run => simp [step, found] at begun
  have serving : next = state.serving id state.db (.start vm (request.draft (state.db vm)))
      state.events := by
    simp only [step, fresh, Option.some.injEq] at begun
    exact begun.symm
  have started : next.runs id = some (.start vm (request.draft (state.db vm))) := by
    rw [serving]
    exact serving_runs
  constructor
  · intro handled
    have inv : Inv deployment state :=
      Lts.Reachable.invariant (fun _ _ _ before stepped => before.step stepped) reached
        (inv_initial capacity users)
    have absent : ((state.db vm).rowsOf id).booking = none :=
      congrArg BookingRows.booking (inv.unborn id fresh vm)
    by_contra uncacheable
    obtain ⟨finish, reaches, laid, event, sent, about, raises⟩ :=
      @exists_unprocessed deployment state vm id casing absent request
        fun raw resolved cacheable => uncacheable ⟨raw, resolved, cacheable⟩
    exact handled finish (serving ▸ reaches) laid event sent about (fun _ => none) 0 (raises _ _)
  · rintro ⟨raw, resolved, cacheable⟩ finish later laid event sent about
    have whole := reached.trans ((Lts.Reachable.single begun).trans later)
    have kept : PlatesKept finish :=
      Lts.Reachable.invariant (fun _ _ _ before stepped => before.step stepped) whole
        (platesKept_initial capacity users)
    have first : RoutedFirst id finish :=
      Lts.Reachable.invariant (fun _ _ _ before stepped => before.step stepped) whole
        (routedFirst_initial capacity users id)
    obtain ⟨run, found, draft⟩ := draft_kept started later
    exact processed_of_cacheable kept first laid found draft resolved cacheable sent about

end

/-! ### A driver without a plate -/

def platelessRequest : BookingRequest := { request with plateNumber := none }

def nightSegment : RouteSegment := ⟨1, .euWestIreland, 7200 * second, by decide⟩

/-- The booking is confirmed, and the message that says so is never handled. -/
def platelessBooking : List Action :=
  .createBooking .vm1 1 platelessRequest :: .advance 1 .ok ::
    .advance 1 (.route (.single nightSegment 45)) :: List.replicate 5 (.advance 1 .ok)

theorem unprocessed_platelessBooking :
    ¬ ∀ (deployment : Deployment) (actions : List Action) (state : State) (id : BookingId),
      Lts.run (step deployment) emptyState actions = some state → RouteLaid id state →
        ∀ event ∈ state.events, event.bookingId = id →
          ∀ cache now, processMessage .ascii cache now event ≠ none := by
  intro handled
  have observed : (Lts.run (step singleVm) emptyState platelessBooking).map State.events =
      some [.bookingConfirmed 1 7 none [(1, .euWestIreland)] (7200 * second)] := by decide +kernel
  have served : (Lts.run (step singleVm) emptyState platelessBooking).map (fun state =>
      (state.runs 1).map fun run => (run.draft.departureTime,
        run.route.map fun route => (route.segments, route.estimatedDurationMinutes))) =
      some (some (7200 * second, some ([nightSegment], 45))) := by decide +kernel
  obtain ⟨state, executed, events⟩ := Option.map_eq_some_iff.mp observed
  rw [executed, Option.map_some] at served
  have runs := Option.some.inj served
  have laid : RouteLaid 1 state := by
    intro run route found given
    rw [found, Option.map_some, given, Option.map_some] at runs
    obtain ⟨departure, route⟩ := Prod.mk.inj (Option.some.inj runs)
    obtain ⟨segments, minutes⟩ := Prod.mk.inj (Option.some.inj route)
    refine ⟨oneEdge, resolveRoute_eq_some.mpr ⟨?_, ?_⟩⟩
    · rw [segments, departure]
      decide
    · rw [minutes]
      decide
  have sent : Event.bookingConfirmed 1 7 none [(1, .euWestIreland)] (7200 * second) ∈ state.events := by
    rw [events]
    exact List.mem_singleton_self _
  exact handled singleVm platelessBooking state 1 executed laid _ sent rfl (fun _ => none) 0 rfl

theorem processed_request :
    ∃ next, step singleVm emptyState (.createBooking .vm1 1 request) = some next ∧
      ∀ finish, Lts.Reachable (step singleVm) next finish → RouteLaid 1 finish →
        ∀ event ∈ finish.events, event.bookingId = 1 →
          ∀ cache now, processMessage .ascii cache now event ≠ none := by
  refine ⟨_, rfl, ?_⟩
  exact (processed_iff_cacheable .ascii (.refl emptyState) rfl).mpr
    ⟨"12-D-345", rfl, .inr (.inl (by decide))⟩

end TrafficService.Cluster
