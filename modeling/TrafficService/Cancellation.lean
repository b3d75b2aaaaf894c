import TrafficService.BookingInvariant

/-!
Whether the CANCELLED that `cancel_booking` commits stays: who may still write the booking's
status, and that nobody else ever does.
-/

namespace TrafficService

def BookingRows.inProgress (rows : BookingRows) : Prop :=
  ∃ row, rows.booking = some row ∧ row.status = .sagaInProgress

namespace Cluster

theorem footprint_orphan {before after : BookingRows} :
    footprint .orphan before after = true ↔ before.booking = after.booking ∧
      before.segments = after.segments ∧
      ∀ schema, before.regional schema = after.regional schema := by
  simp only [footprint, Bool.and_eq_true, decide_eq_true_eq, List.all_eq_true, and_assoc]
  constructor
  · rintro ⟨booking, segments, regional⟩
    exact ⟨booking, segments, fun schema => regional schema (mem_regionSchemas schema)⟩
  · rintro ⟨booking, segments, regional⟩
    exact ⟨booking, segments, fun schema _ => regional schema⟩

/-- The pass has listed the booking as orphaned and nothing stops it from getting there. -/
def Pass.willReject (pass : Pass) (state : State) (id : BookingId) : Bool :=
  match pass.pc with
  | .orphans (row :: rest) =>
      id ∈ (row :: rest).map Booking.id &&
        (pass.snapshot.isNone || row.id ≠ id && !conflicts state pass row.id .orphan)
  | _ => false

/-- Someone will write the booking's status after `cancel_booking`: its own `create_booking`,
past the saga's commit, or the orphan reconciler. -/
def PendingWriter (state : State) (vm : Vm) (id : BookingId) : Prop :=
  (∃ run, state.runs id = some run ∧ run.persistent = true ∧ run.pc.ended = false) ∨
    ∃ passId pass, state.passes passId = some pass ∧ pass.vm = vm ∧
      pass.willReject state id = true

inductive Since (before : BookingRows) : BookingRows → Prop
  | decided (rows : BookingRows) (row : Booking) (found : rows.booking = some row)
      (status : row.status ≠ .sagaInProgress) : Since before rows
  | underway (rows : BookingRows) (booking : rows.booking = before.booking)
      (segments : rows.segments = before.segments)
      (regional : ∀ schema, rows.regional schema = before.regional schema ∨
        rows.regional schema = cancelAll (before.regional schema)) : Since before rows

structure Listed (state : State) (pass : Pass) : Prop where
  closed : pass.pc = .start → pass.snapshot = none
  inProgress : ∀ todo snapshot, pass.pc = .orphans todo → pass.snapshot = some snapshot →
    ∀ row ∈ todo, (snapshot.rowsOf row.id).inProgress
  since : ∀ todo snapshot, pass.pc = .orphans todo → pass.snapshot = some snapshot →
    ∀ row ∈ todo, Since (snapshot.rowsOf row.id) (state.rows pass.vm row.id)

section

variable {before rows : BookingRows} {transaction : Transaction} {id : BookingId}

theorem cancelAll_idem (rows : List Reservation) : cancelAll (cancelAll rows) = cancelAll rows := by
  simp [cancelAll, Function.comp_def]

theorem Since.refl (rows : BookingRows) : Since rows rows := .underway rows rfl rfl fun _ => .inl rfl

theorem Since.update (since : Since before rows) (inProgress : before.inProgress)
    (updates : transaction.updates = true) : Since before (transaction.onRows id rows) := by
  obtain ⟨listed, foundBefore, undecided⟩ := inProgress
  obtain ⟨row, found⟩ : ∃ row, rows.booking = some row := by
    cases since with
    | decided row found status => exact ⟨row, found⟩
    | underway booking segments regional => exact ⟨listed, booking.trans foundBefore⟩
  rcases @Transaction.booking_onRows transaction id rows updates with
    ⟨booking, segments⟩ | ⟨change, changed, final⟩
  · cases since with
    | decided row found status => exact .decided _ row (booking.trans found) status
    | underway same sameSegments regional =>
        refine .underway _ (booking.trans same) (segments.trans sameSegments) ?_
        intro schema
        rcases @Transaction.regional_onRows transaction id rows updates schema with kept | cancelled
        · rw [kept]
          exact regional schema
        · right
          rcases regional schema with kept | gone
          · rw [cancelled, kept]
          · rw [cancelled, gone, cancelAll_idem]
  · refine .decided _ (change row) (by rw [changed, found, Option.map_some]) ?_
    intro same
    rcases final row with confirmed | inactive
    · exact nomatch same.symm.trans confirmed
    · simp [same, BookingStatus.active] at inactive

theorem Since.conflict_stays (since : Since before rows) (inProgress : before.inProgress)
    (updates : transaction.updates = true) (moved : footprint .orphan before rows = false) :
    footprint .orphan before (transaction.onRows id rows) = false := by
  obtain ⟨listed, foundBefore, undecided⟩ := inProgress
  have later := @Since.update before rows transaction id since ⟨listed, foundBefore, undecided⟩ updates
  by_contra resolved
  obtain ⟨booking, segments, regional⟩ := footprint_orphan.mp (by simpa using resolved)
  have still : rows.booking = before.booking → rows.segments = before.segments →
      (∀ schema, rows.regional schema = before.regional schema) → False := by
    intro sameBooking sameSegments sameRegional
    have same := footprint_orphan.mpr
      ⟨sameBooking.symm, sameSegments.symm, fun schema => (sameRegional schema).symm⟩
    exact nomatch moved.symm.trans same
  cases since with
  | decided row found status =>
      rcases @Transaction.booking_onRows transaction id rows updates with
        ⟨kept, _⟩ | ⟨change, changed, final⟩
      · cases foundBefore.symm.trans (booking.trans (kept.trans found))
        exact status undecided
      · rw [changed, found, Option.map_some, foundBefore] at booking
        cases booking
        rcases final row with confirmed | inactive
        · exact nomatch undecided.symm.trans confirmed
        · simp [undecided, BookingStatus.active] at inactive
  | underway sameBooking sameSegments sameRegional =>
      refine still sameBooking sameSegments ?_
      intro schema
      rcases @Transaction.regional_onRows transaction id rows updates schema with kept | cancelled
      · rw [← kept, ← regional]
      · rcases sameRegional schema with same | gone
        · exact same
        · rw [gone, regional schema, cancelled, gone, cancelAll_idem]

end

/-! ### What passes have listed -/

section

variable {deployment : Deployment} {state next : State} {action : Action} {id : BookingId} {vm : Vm}

/-- A stored booking changes by updates only. -/
theorem Inv.present_step (inv : Inv deployment state)
    (stepped : Cluster.step deployment state action = some next)
    (present : (state.rows vm id).booking ≠ none) :
    next.rows vm id = state.rows vm id ∨ ∃ transaction : Transaction,
      transaction.updates = true ∧ next.rows vm id = transaction.onRows id (state.rows vm id) := by
  obtain ⟨run, found, rfl⟩ := inv.owner present
  obtain ⟨after, _, _, ownerStep⟩ := inv.owner_step stepped found
  generalize next.rows run.vm id = rows at ownerStep
  cases ownerStep with
  | unchanged => exact .inl rfl
  | crashed isCrash running => exact .inl rfl
  | external transaction source updates => exact .inr ⟨transaction, updates, rfl⟩
  | advanced answer outcome source moved inserted =>
      cases committed : outcome.transaction with
      | none => exact .inl (by simp [Outcome.rowsAfter, committed])
      | some transaction =>
          refine .inr ⟨transaction, ?_, by simp [Outcome.rowsAfter, committed]⟩
          cases inserts : transaction.inserts with
          | true => exact absurd (inserted transaction committed inserts) present
          | false =>
              rcases advance_commits moved committed with
                ⟨_, rfl, _⟩ | ⟨_, rfl, _⟩ | ⟨segment, rest, _, rfl, _⟩ | ⟨_, rfl, _⟩
              · cases inserts
              · rfl
              · rfl
              · by_cases stored : run.persistent = true
                · simp [CreateRun.rejection, stored, Transaction.updates]
                · simp [CreateRun.rejection, stored, Transaction.inserts] at inserts

theorem Since.present {before rows : BookingRows} (since : Since before rows)
    (inProgress : before.inProgress) : rows.booking ≠ none := by
  obtain ⟨listed, foundBefore, _⟩ := inProgress
  cases since with
  | decided row found status => simp [found]
  | underway booking segments regional => simp [booking, foundBefore]

theorem Listed.step {pass : Pass} (listed : Listed state pass) (inv : Inv deployment state)
    (stepped : Cluster.step deployment state action = some next) : Listed next pass where
  closed := listed.closed
  inProgress := listed.inProgress
  since := by
    intro todo snapshot here opened row member
    have inProgress := listed.inProgress todo snapshot here opened row member
    have since := listed.since todo snapshot here opened row member
    rcases inv.present_step stepped (since.present inProgress) with same | ⟨transaction, updates, changed⟩
    · rwa [same]
    · rw [changed]
      exact since.update inProgress updates

theorem Listed.passMove {pass after : Pass} (listed : Listed state pass)
    (move : PassMove state pass after) : Listed state after := by
  have elsewhere (value : Pass) (notStart : value.pc ≠ .start)
      (notOrphans : ∀ todo, value.pc ≠ .orphans todo) : Listed state value :=
    ⟨fun here => absurd here notStart, fun todo _ here => absurd here (notOrphans todo),
      fun todo _ here => absurd here (notOrphans todo)⟩
  cases move with
  | selectOrphans now start =>
      have reads : pass.reads state = state.db pass.vm := by
        simp [Pass.reads, listed.closed start]
      have orphaned : ∀ row ∈ selectOrphans (pass.reads state) now,
          ((pass.reads state).rowsOf row.id).inProgress := by
        intro row member
        obtain ⟨stored, old⟩ := List.mem_filter.mp member
        simp only [Booking.orphaned, Bool.and_eq_true, decide_eq_true_eq] at old
        exact ⟨row, Database.rowsOf_of_mem stored, old.1⟩
      refine ⟨?_, ?_, ?_⟩
      · rintro ⟨⟩
      · rintro todo snapshot ⟨⟩ ⟨⟩
        exact orphaned
      · rintro todo snapshot ⟨⟩ ⟨⟩ row member
        rw [reads]
        exact .refl _
  | nextOrphan row rest here clear =>
      refine ⟨?_, ?_, ?_⟩
      · rintro ⟨⟩
      · rintro _ _ _ ⟨⟩
      · rintro _ _ _ ⟨⟩
  | _ =>
      apply elsewhere
      · rintro ⟨⟩
      · rintro _ ⟨⟩

theorem listed_start (vm : Vm) : Listed state ⟨vm, none, .start⟩ where
  closed := fun _ => rfl
  inProgress := fun _ _ here => nomatch here
  since := fun _ _ here => nomatch here

structure Listing (deployment : Deployment) (state : State) : Prop where
  inv : Inv deployment state
  listed : ∀ passId pass, state.passes passId = some pass → Listed state pass

theorem Listing.step (listing : Listing deployment state)
    (stepped : Cluster.step deployment state action = some next) : Listing deployment next where
  inv := listing.inv.step stepped
  listed := by
    intro passId pass found
    rcases step_pass stepped found with old | ⟨vm, rfl⟩ | ⟨before, known, move⟩
    · exact (listing.listed passId pass old).step listing.inv stepped
    · exact listed_start vm
    · exact ((listing.listed passId before known).passMove move).step listing.inv stepped

theorem Listing.reachable {capacity : Vm → RegionSchema → SegmentId → Option Nat}
    {users : Vm → DriverId → Option (Option Plate)}
    (reached : Lts.Reachable (Cluster.step deployment) (.initial capacity users) state) :
    Listing deployment state :=
  reached.invariant (fun _ _ _ listing stepped => listing.step stepped)
    ⟨inv_initial capacity users, fun _ _ found => nomatch found⟩

/-! ### Nobody writes -/

/-- The pass does not get to the booking: the row at the head of its list has changed. -/
def Blocked (state : State) (pass : Pass) (id : BookingId) : Prop :=
  ∀ row rest, pass.pc = .orphans (row :: rest) → id ∈ (row :: rest).map Booking.id →
    conflicts state pass row.id .orphan = true

structure Final (deployment : Deployment) (vm : Vm) (id : BookingId) (state : State) : Prop where
  listing : Listing deployment state
  cancelled : (state.db vm).status? id = some .cancelled
  ended : ∀ run, state.runs id = some run → run.persistent = true → run.pc.ended = true
  blocked : ∀ passId pass, state.passes passId = some pass → pass.vm = vm → Blocked state pass id

theorem conflicts_step {pass : Pass} {row : Booking} {rest : List Booking}
    (inv : Inv deployment state) (listed : Listed state pass)
    (stepped : Cluster.step deployment state action = some next)
    (here : pass.pc = .orphans (row :: rest))
    (conflict : conflicts state pass row.id .orphan = true) :
    conflicts next pass row.id .orphan = true := by
  simp only [conflicts, Option.any_eq_true, Bool.not_eq_true'] at conflict ⊢
  obtain ⟨snapshot, opened, moved⟩ := conflict
  refine ⟨snapshot, opened, ?_⟩
  have inProgress := listed.inProgress _ snapshot here opened row List.mem_cons_self
  have since := listed.since _ snapshot here opened row List.mem_cons_self
  rcases inv.present_step stepped (since.present inProgress) with same | ⟨transaction, updates, changed⟩
  · rw [State.rows, State.rows] at same
    rwa [same]
  · rw [State.rows] at changed
    rw [changed]
    exact since.conflict_stays inProgress updates moved

theorem Final.blocked_move {pass after : Pass} (final : Final deployment vm id state)
    (listed : Listed state pass) (blocked : Blocked state pass id) (here : pass.vm = vm)
    (move : PassMove state pass after) : Blocked state after id := by
  cases move with
  | selectOrphans now start =>
      rintro row rest listing member
      have selected : id ∈ (selectOrphans (pass.reads state) now).map Booking.id := by
        injection listing with same
        rwa [same]
      simp only [selectOrphans, mem_map_id_filter, Option.any_eq_true] at selected
      obtain ⟨booking, found, orphaned⟩ := selected
      have cancelled := final.cancelled
      simp only [Pass.reads, listed.closed start, Option.getD_none, here] at found
      rw [Database.status?_eq, found, Option.map_some, Option.some_inj] at cancelled
      simp [Booking.orphaned, cancelled] at orphaned
  | nextOrphan row rest listing clear =>
      rintro head tail ⟨⟩ member
      have conflict := blocked row _ listing (List.mem_cons_of_mem row.id member)
      cases clear.symm.trans conflict
  | _ => rintro _ _ ⟨⟩

theorem advance_unstored {run : CreateRun} {answer : Answer} {outcome : Outcome}
    {rows : BookingRows} (booking : BookingInv run fun vm => state.rows vm id)
    (moved : advance deployment id run answer = some outcome)
    (unstored : run.persistent = false) (present : (state.rows run.vm id).booking ≠ none)
    (inserted : ∀ transaction, outcome.transaction = some transaction →
      transaction.inserts = true → (state.rows run.vm id).booking = none) :
    outcome.run.persistent = false ∧ (Outcome.rowsAfter outcome id rows).booking = rows.booking := by
  cases committed : outcome.transaction with
  | none =>
      obtain ⟨same, _, _⟩ := advance_quiet moved committed
      exact ⟨same.trans unstored, by simp [Outcome.rowsAfter, committed]⟩
  | some transaction =>
      have absent := inserted transaction committed
      rcases advance_commits moved committed with
        ⟨_, rfl, _⟩ | ⟨here, rfl, _⟩ | ⟨segment, rest, _, rfl, after⟩ | ⟨_, rfl, _⟩
      · exact absurd (absent rfl) present
      · have stored := booking.confirming (by simp [here, CreatePc.confirming])
        cases unstored.symm.trans stored
      · refine ⟨by simp [after, unstored], ?_⟩
        simp [Outcome.rowsAfter, committed, Transaction.onRows, BookingRows.cancelIn]
      · exact absurd (absent (by simp [CreateRun.rejection, unstored, Transaction.inserts])) present

theorem advance_running {run : CreateRun} {answer : Answer} {outcome : Outcome}
    (moved : advance deployment id run answer = some outcome) : run.pc.ended = false := by
  revert moved
  fun_cases advance deployment id run answer
  all_goals simp_all [CreatePc.ended]

theorem Final.external {transaction : Transaction} (final : Final deployment vm id state)
    (source : External state action vm id transaction) :
    (transaction.onRows id (state.rows vm id)).booking.map (·.status) = some .cancelled := by
  have cancelled : (state.rows vm id).booking.map (·.status) = some .cancelled := final.cancelled
  have written (rows : BookingRows) (same : rows.booking = (state.rows vm id).booking) :
      (rows.setStatus .cancelled).booking.map (·.status) = some .cancelled := by
    obtain ⟨booking, found, _⟩ := Option.map_eq_some_iff.mp cancelled
    simp [BookingRows.setStatus, same, found]
  cases source with
  | serveReserve target id driverId segment sent => exact cancelled
  | serveRelease target id sent => exact cancelled
  | cancel vm id driverId published booking stored uncancelled => exact written _ rfl
  | orphan passId now published pass row rest listed here clear =>
      have conflict := final.blocked passId pass listed rfl row rest here List.mem_cons_self
      cases clear.symm.trans conflict
  | dangling passId now published pass row rest listed here => exact written _ rfl
  | lingering passId now published pass schema id rest schemas listed here => exact cancelled

theorem Final.step (final : Final deployment vm id state)
    (stepped : Cluster.step deployment state action = some next) : Final deployment vm id next := by
  have inv := final.listing.inv
  have cancelled := final.cancelled
  rw [Database.status?_eq] at cancelled
  obtain ⟨booking, found, status⟩ := Option.map_eq_some_iff.mp cancelled
  have present : (state.rows vm id).booking ≠ none := by
    rw [State.rows, found]
    exact Option.some_ne_none booking
  obtain ⟨run, known, rfl⟩ := inv.owner present
  obtain ⟨after, knownAfter, _, ownerStep⟩ := inv.owner_step stepped known
  have kept : (next.rows run.vm id).booking.map (·.status) = some .cancelled ∧
      (after.persistent = true → after.pc.ended = true) := by
    generalize next.rows run.vm id = rows at ownerStep
    have same : ((state.rows run.vm id).booking.map (·.status)) = some .cancelled := cancelled
    cases ownerStep with
    | unchanged => exact ⟨same, final.ended run known⟩
    | crashed isCrash running => exact ⟨same, fun _ => rfl⟩
    | advanced answer outcome source moved inserted =>
        have unstored : run.persistent = false := by
          by_contra stored
          have ended := final.ended run known (by simpa using stored)
          cases (advance_running moved).symm.trans ended
        obtain ⟨still, rowsAfter⟩ :=
          advance_unstored (inv.booking id run known) moved unstored present inserted
        rw [rowsAfter]
        refine ⟨same, fun stored => ?_⟩
        cases still.symm.trans stored
    | external transaction source updates =>
        exact ⟨final.external source, final.ended run known⟩
  refine ⟨final.listing.step stepped, kept.1, ?_, ?_⟩
  · intro other foundOther
    cases knownAfter.symm.trans foundOther
    exact kept.2
  · intro passId pass foundPass here
    have push (pass : Pass) (listed : Listed state pass) (blocked : Blocked state pass id) :
        Blocked next pass id := by
      intro row rest listing member
      exact conflicts_step inv listed stepped listing (blocked row rest listing member)
    rcases step_pass stepped foundPass with old | ⟨vm, rfl⟩ | ⟨before, foundBefore, move⟩
    · exact push pass (final.listing.listed passId pass old) (final.blocked passId pass old here)
    · rintro _ _ ⟨⟩
    · have listed := final.listing.listed passId before foundBefore
      have sameVm : before.vm = run.vm := by
        rw [← here]
        cases move <;> rfl
      exact push pass (listed.passMove move)
        (final.blocked_move listed (final.blocked passId before foundBefore sameVm) sameVm move)

/-! ### Somebody writes -/

def Overwritten (deployment : Deployment) (state : State) (vm : Vm) (id : BookingId) : Prop :=
  ∃ later, Lts.Reachable (step deployment) state later ∧
    (later.db vm).status? id ≠ some .cancelled

theorem Overwritten.of_step (stepped : Cluster.step deployment state action = some next)
    (overwritten : Overwritten deployment next vm id) : Overwritten deployment state vm id := by
  obtain ⟨later, reached, written⟩ := overwritten
  exact ⟨later, (Lts.Reachable.single stepped).trans reached, written⟩

theorem advance_taken {run : CreateRun} {answer : Answer} {outcome : Outcome}
    (found : state.runs id = some run)
    (moved : advance deployment id run answer = some outcome) (quiet : outcome.transaction = none)
    (own : answer.fromPeer = false) :
    ∃ next, step deployment state (.advance id answer) = some next ∧
      next.runs id = some outcome.run := by
  have taken : step deployment state (.advance id answer) = applyOutcome state id outcome := by
    simp [step, own, advanceRun, found, moved]
  refine ⟨_, by rw [taken, applyOutcome, quiet], ?_⟩
  simp [setRun]

theorem overwritten_of_commit {run : CreateRun} {answer : Answer} {outcome : Outcome}
    {transaction : Transaction} {db : Database} (found : state.runs id = some run)
    (moved : advance deployment id run answer = some outcome)
    (committed : outcome.transaction = some transaction) (own : answer.fromPeer = false)
    (here : run.vm = vm) (applied : transaction.apply id (state.db vm) = some db)
    (written : db.status? id ≠ some .cancelled) : Overwritten deployment state vm id := by
  have sameVm := (advance_keeps moved).1.trans here
  have taken : step deployment state (.advance id answer) = applyOutcome state id outcome := by
    simp [step, own, advanceRun, found, moved]
  simp only [applyOutcome, committed, commit, sameVm, setRun, applied, Option.map_some] at taken
  exact .of_step taken ⟨_, .refl _, by simpa using written⟩

theorem overwritten_reject {run : CreateRun} (stored : run.persistent = true)
    (found : state.runs id = some { run with pc := .reject }) :
    Overwritten deployment state run.vm id := by
  have moved : advance deployment id { run with pc := .reject } .ok = some
      (({ run with pc := .reject }.goto .raised).commits (CreateRun.rejection run)) := rfl
  rw [CreateRun.rejection, if_pos stored] at moved
  refine overwritten_of_commit found moved rfl rfl rfl rfl ?_
  rw [Database.status?_eq, rowsOf_setStatus, if_pos rfl]
  simp [BookingRows.setStatus, Option.map_map, Function.comp_def]

theorem overwritten_finalCommit {run : CreateRun}
    (found : state.runs id = some { run with pc := .finalCommit }) :
    Overwritten deployment state run.vm id := by
  have moved : advance deployment id { run with pc := .finalCommit } .ok = some
      (({ run with pc := .finalCommit }.goto .refresh).commits (.confirm run.minutes)) := rfl
  refine overwritten_of_commit found moved rfl rfl rfl rfl ?_
  rw [Database.status?_eq, Database.rowsOf_confirmBooking, if_pos rfl]
  simp [Option.map_map, Function.comp_def]

theorem Overwritten.of_raise {run : CreateRun} {pc handler : CreatePc}
    (found : state.runs id = some { run with pc })
    (raised : advance deployment id { run with pc } .raise = some (run.goto handler))
    (later : ∀ next : State, next.runs id = some { run with pc := handler } →
      Overwritten deployment next run.vm id) : Overwritten deployment state run.vm id := by
  obtain ⟨next, stepped, foundNext⟩ := advance_taken found raised rfl rfl
  exact .of_step stepped (later next foundNext)

theorem overwritten_publishFailed {run : CreateRun} (stored : run.persistent = true)
    (found : state.runs id = some { run with pc := .publishFailed }) :
    Overwritten deployment state run.vm id :=
  .of_raise found rfl fun _ => overwritten_reject stored

theorem overwritten_compensate {run : CreateRun} {todo : List RouteSegment}
    (stored : run.persistent = true)
    (found : state.runs id = some { run with pc := .compensate todo }) :
    Overwritten deployment state run.vm id := by
  induction todo generalizing state with
  | nil =>
      have raised : advance deployment id { run with pc := .compensate [] } .raise =
          some (run.goto .publishFailed) := by
        unfold advance
        dsimp only
        split
        · rename_i impossible
          exact nomatch impossible
        · rfl
      exact .of_raise found raised fun _ => overwritten_publishFailed stored
  | cons segment rest ih => exact .of_raise found rfl fun _ => ih

/-- A request that holds the stored booking still writes its status, wherever it stands. -/
theorem overwritten_of_running (inv : Inv deployment state) {run : CreateRun}
    (found : state.runs id = some run) (stored : run.persistent = true)
    (running : run.pc.ended = false) : Overwritten deployment state run.vm id := by
  have late : CreatePc.early run.pc = false := by
    by_contra early
    have empty := (inv.booking id run found).early (by simpa using early)
    have present := (inv.booking id run found).stored stored
    rw [empty] at present
    exact present rfl
  have at_pc {pc : CreatePc} (here : run.pc = pc) : state.runs id = some { run with pc } := by
    rw [found, ← here]
  cases here : run.pc with
  | flush | resolve => simp [here, CreatePc.early] at late
  | reserve todo => simp [here, CreatePc.early] at late
  | peerWait segment todo => simp [here, CreatePc.early] at late
  | publishConfirmed =>
      exact .of_raise (at_pc here) rfl fun _ rolling =>
        .of_raise rolling rfl fun _ => overwritten_reject stored
  | rollback | refresh => exact .of_raise (at_pc here) rfl fun _ => overwritten_reject stored
  | finalCommit => exact overwritten_finalCommit (at_pc here)
  | compensate todo => exact overwritten_compensate stored (at_pc here)
  | peerReleaseWait => exact .of_raise (at_pc here) rfl fun _ => overwritten_publishFailed stored
  | publishFailed => exact overwritten_publishFailed stored (at_pc here)
  | reject => exact overwritten_reject stored (at_pc here)
  | returned | raised | crashed => simp [here, CreatePc.ended] at running

theorem orphan_taken {passId : PassId} {pass : Pass} {row : Booking} {rest : List Booking}
    (found : state.passes passId = some pass) (here : pass.pc = .orphans (row :: rest))
    (clear : conflicts state pass row.id .orphan = false) :
    ∃ next, step deployment state (.stepPass passId 0 false) = some next ∧
      next.passes passId = some { pass with snapshot := none, pc := .orphans rest } ∧
      next.rows pass.vm row.id = (state.rows pass.vm row.id).rejectOrphan := by
  have taken : step deployment state (.stepPass passId 0 false) =
      passCommit state passId pass row.id .orphan [] (.orphans rest) := by
    simp [step, found, stepPass, here]
  rw [passCommit, clear, if_neg Bool.false_ne_true] at taken
  refine ⟨_, taken, by simp [setPass], ?_⟩
  simp only [State.rows, setPass, Function.update_self]
  rw [rowsOf_rejectOrphan, if_pos rfl]

theorem overwritten_of_orphans {passId : PassId} {pass : Pass} {todo : List Booking}
    (found : state.passes passId = some pass) (here : pass.pc = .orphans todo)
    (closed : pass.snapshot = none) (member : id ∈ todo.map Booking.id) :
    Overwritten deployment state pass.vm id := by
  induction todo generalizing state pass with
  | nil => exact nomatch member
  | cons row rest ih =>
      have clear : conflicts state pass row.id .orphan = false := by simp [conflicts, closed]
      obtain ⟨next, stepped, foundNext, rows⟩ := @orphan_taken deployment _ _ _ _ _ found here clear
      refine .of_step stepped ?_
      rcases List.mem_cons.mp member with rfl | later
      · refine ⟨next, .refl next, ?_⟩
        rw [Database.status?_eq]
        rw [State.rows] at rows
        rw [rows]
        simp [BookingRows.rejectOrphan, BookingRows.setStatus, Option.map_map, Function.comp_def]
      · exact @ih next { pass with snapshot := none, pc := .orphans rest } foundNext rfl rfl later

/-! ### The cancellation -/

theorem cancelBooking_commits {driverId : DriverId} {published : Bool}
    (uncancelled : (state.db vm).status? id ≠ some .cancelled)
    (stepped : Cluster.step deployment state (.cancelBooking vm id driverId published) = some next) :
    next.runs = state.runs ∧ next.passes = state.passes ∧
      (next.db vm).status? id = some .cancelled ∧
      ∀ place other, other ≠ id → next.rows place other = state.rows place other := by
  simp only [step, cancelBooking] at stepped
  split at stepped
  · cases stepped
  · rename_i booking found
    split at stepped
    · cases stepped
    · split at stepped
      · rename_i already
        exact absurd (by simp [Database.status?, found, already]) uncancelled
      · have rows := rows_commit stepped
        refine ⟨(frame_commit stepped).1, (frame_commit stepped).2.1, ?_, ?_⟩
        · have own := rows vm id
          rw [if_pos ⟨rfl, rfl⟩] at own
          have stored : ((state.db vm).rowsOf id).booking = some booking := found
          rw [Database.status?_eq, ← State.rows, own]
          simp [Transaction.onRows, BookingRows.cancelBooking, BookingRows.setStatus,
            BookingRows.cancelSegments, State.rows, stored]
        · intro place other different
          rw [rows, if_neg fun same => different same.1]
          rfl

theorem PendingWriter.overwritten (listing : Listing deployment next) (runs : next.runs = state.runs)
    (passes : next.passes = state.passes)
    (cancelled : (next.db vm).status? id = some .cancelled)
    (others : ∀ place other, other ≠ id → next.rows place other = state.rows place other)
    (pending : PendingWriter state vm id) : Overwritten deployment next vm id := by
  rcases pending with ⟨run, found, stored, running⟩ | ⟨passId, pass, found, rfl, rejects⟩
  · have present : (next.rows vm id).booking ≠ none := by
      obtain ⟨booking, there, _⟩ := Option.map_eq_some_iff.mp cancelled
      exact Option.ne_none_iff_exists'.mpr ⟨booking, there⟩
    obtain ⟨owner, owned, rfl⟩ := listing.inv.owner present
    rw [← runs] at found
    cases found.symm.trans owned
    exact overwritten_of_running listing.inv found stored running
  · rw [← passes] at found
    simp only [Pass.willReject] at rejects
    split at rejects
    · rename_i row rest here
      simp only [Bool.and_eq_true, decide_eq_true_eq, Bool.or_eq_true, Option.isNone_iff_eq_none,
        Bool.not_eq_true'] at rejects
      obtain ⟨member, closed | ⟨other, clear⟩⟩ := rejects
      · exact overwritten_of_orphans found here closed member
      · have same := others pass.vm row.id other
        rw [State.rows, State.rows] at same
        rw [conflicts, ← same, ← conflicts] at clear
        obtain ⟨after, stepped, foundAfter, _⟩ := @orphan_taken deployment _ _ _ _ _ found here clear
        have later := (List.mem_cons.mp member).resolve_left (Ne.symm other)
        have written : Overwritten deployment after pass.vm id :=
          @overwritten_of_orphans deployment after id passId
            { pass with snapshot := none, pc := .orphans rest } rest foundAfter rfl rfl later
        exact .of_step stepped written
    · cases rejects

theorem final_of_settled (listingNext : Listing deployment next)
    (runs : next.runs = state.runs) (passes : next.passes = state.passes)
    (cancelled : (next.db vm).status? id = some .cancelled)
    (others : ∀ place other, other ≠ id → next.rows place other = state.rows place other)
    (settled : ¬PendingWriter state vm id) : Final deployment vm id next := by
  refine ⟨listingNext, cancelled, ?_, ?_⟩
  · intro run found stored
    by_contra running
    rw [runs] at found
    exact settled (.inl ⟨run, found, stored, by simpa using running⟩)
  · intro passId pass found sameVm row rest here member
    have listed := listingNext.listed passId pass found
    rw [passes] at found
    have stuck : pass.willReject state id = false := by
      by_contra rejects
      exact settled (.inr ⟨passId, pass, found, sameVm, by simpa using rejects⟩)
    simp only [Pass.willReject, here, member, decide_true, Bool.true_and, Bool.or_eq_false_iff,
      Bool.and_eq_false_iff, decide_eq_false_iff_not, Bool.not_eq_false', not_not] at stuck
    obtain ⟨opened, headed⟩ := stuck
    by_cases own : row.id = id
    · -- the listed row is the cancelled booking itself
      obtain ⟨snapshot, opened⟩ := Option.isSome_iff_exists.mp (by simpa using opened)
      obtain ⟨before, stored, undecided⟩ :=
        listed.inProgress _ snapshot here opened row List.mem_cons_self
      rw [conflicts, opened, Option.any_some, Bool.not_eq_true']
      by_contra unchanged
      obtain ⟨same, _, _⟩ := footprint_orphan.mp (by simpa using unchanged)
      rw [stored, own, sameVm] at same
      rw [Database.status?_eq, ← same] at cancelled
      exact nomatch undecided.symm.trans (Option.some_inj.mp cancelled)
    · have same := others pass.vm row.id own
      rw [State.rows, State.rows] at same
      rw [conflicts, same, ← conflicts]
      exact headed.resolve_left own

/-- CANCELLED, once `cancel_booking` has committed it, stays whatever happens later if and
only if nobody was still to write the booking's status. -/
theorem cancelled_forever_iff {capacity : Vm → RegionSchema → SegmentId → Option Nat}
    {users : Vm → DriverId → Option (Option Plate)} {driverId : DriverId} {published : Bool}
    (reached : Lts.Reachable (Cluster.step deployment) (.initial capacity users) state)
    (uncancelled : (state.db vm).status? id ≠ some .cancelled)
    (stepped : Cluster.step deployment state (.cancelBooking vm id driverId published) = some next) :
    (∀ later, Lts.Reachable (Cluster.step deployment) next later →
        (later.db vm).status? id = some .cancelled) ↔
      ¬PendingWriter state vm id := by
  have listingNext : Listing deployment next := .reachable (reached.tail stepped)
  obtain ⟨runs, passes, cancelled, others⟩ := cancelBooking_commits uncancelled stepped
  constructor
  · intro forever pending
    obtain ⟨later, reachedLater, changed⟩ :=
      pending.overwritten listingNext runs passes cancelled others
    exact changed (forever later reachedLater)
  · intro settled later reachedLater
    have final := final_of_settled listingNext runs passes cancelled others settled
    have finalLater := reachedLater.invariant (fun _ _ _ final stepped => final.step stepped) final
    exact finalLater.cancelled

end

/-! ### Cancelled while its own request waits to confirm it -/

theorem cancelled_afterReturning :
    ∃ state next, Lts.run (step singleVm) emptyState (bookAsFar 10 5) = some state ∧
      step singleVm state (.cancelBooking .vm1 10 request.driverId true) = some next ∧
      ((∀ later, Lts.Reachable (step singleVm) next later →
          (later.db .vm1).status? 10 = some .cancelled) ↔ ¬PendingWriter state .vm1 10) := by
  have observed : (Lts.run (step singleVm) emptyState (bookAsFar 10 5)).map (fun state =>
      ((state.db .vm1).status? 10,
        (step singleVm state (.cancelBooking .vm1 10 request.driverId true)).isSome)) =
      some (some .confirmed, true) := by decide
  obtain ⟨state, executed, outcome⟩ := Option.map_eq_some_iff.mp observed
  simp only [Prod.mk.injEq] at outcome
  obtain ⟨next, stepped⟩ := Option.isSome_iff_exists.mp outcome.2
  exact ⟨state, next, executed, stepped,
    cancelled_forever_iff ⟨_, executed⟩ (by simp [outcome.1]) stepped⟩

/-- `create_booking` writes CONFIRMED over the CANCELLED the driver was told of. -/
theorem confirmed_afterCancel :
    ¬ ∀ (deployment : Deployment) (capacity : Vm → RegionSchema → SegmentId → Option Nat)
      (users : Vm → DriverId → Option (Option Plate)) (state next later : State) (vm : Vm)
      (id : BookingId) (driverId : DriverId) (published : Bool),
      Lts.Reachable (step deployment) (.initial capacity users) state →
      step deployment state (.cancelBooking vm id driverId published) = some next →
      (next.db vm).status? id = some .cancelled →
      Lts.Reachable (step deployment) next later →
      (later.db vm).status? id = some .cancelled := by
  intro holds
  have observed : (Lts.run (step singleVm) emptyState (bookAsFar 10 2)).bind (fun state =>
      (step singleVm state (.cancelBooking .vm1 10 request.driverId true)).bind fun next =>
        (Lts.run (step singleVm) next [.advance 10 .ok, .advance 10 .ok]).map fun later =>
          ((next.db .vm1).status? 10, (later.db .vm1).status? 10)) =
      some (some .cancelled, some .confirmed) := by decide
  obtain ⟨state, executed, observed⟩ := Option.bind_eq_some_iff.mp observed
  obtain ⟨next, stepped, observed⟩ := Option.bind_eq_some_iff.mp observed
  obtain ⟨later, continued, outcome⟩ := Option.map_eq_some_iff.mp observed
  simp only [Prod.mk.injEq] at outcome
  have kept := holds singleVm _ _ state next later .vm1 10 request.driverId true ⟨_, executed⟩
    stepped outcome.1 ⟨_, continued⟩
  exact nomatch kept.symm.trans outcome.2

end Cluster

end TrafficService
