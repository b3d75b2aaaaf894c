import TrafficService.BookingInvariant

/-!
Single-VM mode: whatever fails and however requests and passes interleave, one undisturbed pass
over the old bookings leaves each of them decided and its reservations in line with its status.
-/

namespace TrafficService

namespace Cluster

def CreatePc.mayConfirm : CreatePc → Bool
  | .publishConfirmed | .finalCommit => true
  | _ => false

def CreatePc.beforeConfirm : CreatePc → Bool
  | .publishConfirmed | .finalCommit | .rollback | .compensate _ | .peerReleaseWait
  | .publishFailed => true
  | _ => false

def FollowsRoute (run : CreateRun) : Prop :=
  match run.pc with
  | .flush | .resolve => run.reserved = []
  | .reserve todo => ∃ route, run.route = some route ∧ run.reserved ++ todo = route.segments
  | .peerWait segment todo =>
      ∃ route, run.route = some route ∧ run.reserved ++ segment :: todo = route.segments
  | _ => True

def GivenUp (run : CreateRun) (rows : BookingRows) : Prop :=
  rows.unbacked ∨ rows.unconfirmed ∧ CreatePc.mayConfirm run.pc = false

def FullyReserved (id : BookingId) (run : CreateRun) (rows : BookingRows) : Prop :=
  ∃ route, run.route = some route ∧ ∀ schema, rows.regional schema =
    (route.segments.filter fun segment => segment.schema = schema).map fun segment =>
      segment.reservation id run.draft.driverId

structure Backed (id : BookingId) (run : CreateRun) (rows : BookingRows) : Prop where
  follows : FollowsRoute run
  backed : rows.booking ≠ none → GivenUp run rows ∨ FullyReserved id run rows
  inactive : rows.cancelledOrRejected = true → GivenUp run rows
  unconfirmed : CreatePc.beforeConfirm run.pc = true → rows.unconfirmed

section

variable {deployment : Deployment} {id : BookingId} {run : CreateRun} {answer : Answer}
  {outcome : Outcome} {rows : BookingRows}

theorem advance_quiet_confirm (moved : advance deployment id run answer = some outcome)
    (quiet : outcome.transaction = none) :
    (CreatePc.mayConfirm outcome.run.pc = true → CreatePc.mayConfirm run.pc = true) ∧
      (CreatePc.beforeConfirm outcome.run.pc = true →
        CreatePc.beforeConfirm run.pc = true ∨ CreatePc.early run.pc = true) ∧
      (CreatePc.early run.pc = true ∨ outcome.run.route = run.route) := by
  revert moved
  fun_cases advance deployment id run answer
  all_goals
    intro moved
    cases moved
  all_goals
    simp_all [CreatePc.mayConfirm, CreatePc.beforeConfirm, CreatePc.early]

theorem FollowsRoute.advance (follows : FollowsRoute run)
    (moved : TrafficService.advance deployment id run answer = some outcome) :
    FollowsRoute outcome.run := by
  revert moved
  fun_cases TrafficService.advance deployment id run answer
  all_goals
    intro moved
    cases moved
  all_goals simp_all [FollowsRoute]

theorem GivenUp.update {transaction : Transaction} (givenUp : GivenUp run rows)
    (updates : transaction.updates = true)
    (notConfirm : ∀ minutes, transaction ≠ .confirm minutes) :
    GivenUp run (transaction.onRows id rows) := by
  rcases givenUp with unbacked | ⟨unconfirmed, settled⟩
  · exact .inl (Transaction.unbacked_onRows updates unbacked)
  · exact .inr ⟨Transaction.unconfirmed_onRows updates notConfirm unconfirmed, settled⟩

theorem Backed.giveUp {transaction : Transaction} (backed : Backed id run rows)
    (updates : transaction.updates = true)
    (notConfirm : ∀ minutes, transaction ≠ .confirm minutes)
    (givenUp : GivenUp run (transaction.onRows id rows)) :
    Backed id run (transaction.onRows id rows) where
  follows := backed.follows
  backed := fun _ => .inl givenUp
  inactive := fun _ => givenUp
  unconfirmed := fun before =>
    Transaction.unconfirmed_onRows updates notConfirm (backed.unconfirmed before)

theorem Backed.cancel (backed : Backed id run rows) :
    Backed id run (Transaction.cancel.onRows id rows) :=
  backed.giveUp rfl (by simp) (.inl (BookingRows.unbacked_cancelSegments _))

theorem Backed.orphan (backed : Backed id run rows) :
    Backed id run (Transaction.orphan.onRows id rows) :=
  backed.giveUp rfl (by simp) (.inl (BookingRows.unbacked_cancelSegments rows.cancelRegional))

theorem Backed.dangling (backed : Backed id run rows) (unbacked : rows.unbacked) :
    Backed id run (Transaction.dangling.onRows id rows) :=
  backed.giveUp rfl (by simp) (.inl unbacked)

theorem Backed.lingering (backed : Backed id run rows) (schema : RegionSchema)
    (givenUp : GivenUp run rows) : Backed id run ((Transaction.lingering schema).onRows id rows) :=
  backed.giveUp rfl (by simp) (givenUp.update rfl (by simp))

theorem backed_none (follows : FollowsRoute run) : Backed id run .none where
  follows := follows
  backed := fun present => absurd rfl present
  inactive := fun inactive => nomatch inactive
  unconfirmed := fun _ _ found => nomatch found

theorem Backed.quiet (backed : Backed id run rows)
    (early : CreatePc.early run.pc = true → rows = .none)
    (moved : advance deployment id run answer = some outcome)
    (quiet : outcome.transaction = none) : Backed id outcome.run rows := by
  have follows : FollowsRoute outcome.run := backed.follows.advance moved
  obtain ⟨mayConfirm, before, route⟩ := advance_quiet_confirm moved quiet
  by_cases starting : CreatePc.early run.pc = true
  · rw [early starting]
    exact backed_none follows
  · have sameRoute : outcome.run.route = run.route := route.resolve_left starting
    have sameDraft : outcome.run.draft = run.draft := (advance_keeps moved).2
    have stable : GivenUp run rows → GivenUp outcome.run rows := by
      rintro (unbacked | ⟨unconfirmed, settled⟩)
      · exact .inl unbacked
      · refine .inr ⟨unconfirmed, ?_⟩
        by_contra may
        rw [Bool.not_eq_false] at may
        exact nomatch settled.symm.trans (mayConfirm may)
    refine ⟨follows, ?_, fun inactive => stable (backed.inactive inactive), ?_⟩
    · intro present
      refine (backed.backed present).imp stable ?_
      rintro ⟨path, found, regional⟩
      exact ⟨path, sameRoute.trans found, by rw [sameDraft]; exact regional⟩
    · intro now
      exact backed.unconfirmed ((before now).resolve_right starting)

theorem backed_saga (backed : Backed id run rows) (empty : rows = .none)
    (single : deployment.peerConfigured run.vm = false) (here : run.pc = .reserve [])
    {after : CreateRun} (sameRoute : after.route = run.route) (sameDraft : after.draft = run.draft)
    (follows : FollowsRoute after) : Backed id after ((run.store deployment).onRows id rows) := by
  have whole : run.localReserved deployment = run.reserved := by
    simp [CreateRun.localReserved, Deployment.isLocal, single]
  obtain ⟨route, found, reserved⟩ : ∃ route, run.route = some route ∧
      run.reserved ++ [] = route.segments := by
    simpa only [FollowsRoute, here] using backed.follows
  rw [List.append_nil] at reserved
  have inProgress : ∀ row, ((run.store deployment).onRows id rows).booking = some row →
      row.status = .sagaInProgress := by
    intro row stored
    cases stored
    rfl
  refine ⟨follows, fun _ => .inr ⟨route, sameRoute.trans found, ?_⟩, ?_, ?_⟩
  · intro schema
    rw [empty, sameDraft]
    simp [CreateRun.store, Transaction.onRows, BookingRows.store, BookingRows.none, whole, reserved]
  · intro inactive
    cases inactive
  · intro _ row stored
    rw [inProgress row stored]
    decide

theorem Backed.confirm (backed : Backed id run rows) (here : run.pc = .finalCommit)
    {after : CreateRun} (sameRoute : after.route = run.route) (sameDraft : after.draft = run.draft)
    (left : CreatePc.beforeConfirm after.pc = false) (follows : FollowsRoute after) :
    Backed id after ((Transaction.confirm run.minutes).onRows id rows) where
  follows := follows
  backed := by
    intro present
    have before : rows.booking ≠ none :=
      mt (Transaction.onRows_booking_eq_none rfl).mpr present
    rcases backed.backed before with givenUp | ⟨route, found, regional⟩
    · rcases givenUp with unbacked | ⟨_, settled⟩
      · exact .inl (.inl unbacked)
      · simp [here, CreatePc.mayConfirm] at settled
    · exact .inr ⟨route, sameRoute.trans found, by rw [sameDraft]; exact regional⟩
  inactive := by
    intro inactive
    simp only [BookingRows.cancelledOrRejected, Transaction.onRows, Option.any_map] at inactive
    obtain ⟨row, _, inactiveRow⟩ := (Option.any_eq_true _ _).mp inactive
    cases inactiveRow
  unconfirmed before := by cases left.symm.trans before

theorem Backed.release (backed : Backed id run rows) {segment : RouteSegment}
    {rest : List RouteSegment} (here : run.pc = .compensate (segment :: rest)) :
    Backed id { run with pc := .compensate rest }
      ((Transaction.release segment.schema).onRows id rows) := by
  have unconfirmed : rows.unconfirmed :=
    backed.unconfirmed (by simp [here, CreatePc.beforeConfirm])
  have givenUp : GivenUp { run with pc := .compensate rest }
      ((Transaction.release segment.schema).onRows id rows) :=
    .inr ⟨Transaction.unconfirmed_onRows rfl (by simp) unconfirmed, rfl⟩
  exact ⟨trivial, fun _ => .inl givenUp, fun _ => givenUp,
    fun _ => Transaction.unconfirmed_onRows rfl (by simp) unconfirmed⟩

theorem status_rejection {row : Booking}
    (stored : (run.rejection.onRows id rows).booking = some row) : row.status = .rejected := by
  simp only [CreateRun.rejection] at stored
  split at stored
  · obtain ⟨before, _, rfl⟩ := Option.map_eq_some_iff.mp stored
    rfl
  · cases stored
    rfl

theorem backed_rejection (run : CreateRun) (rows : BookingRows) :
    Backed id { run with pc := .raised } (run.rejection.onRows id rows) := by
  have givenUp : GivenUp { run with pc := .raised } (run.rejection.onRows id rows) :=
    .inr ⟨fun row stored => by rw [status_rejection stored]; decide, rfl⟩
  exact ⟨trivial, fun _ => .inl givenUp, fun _ => givenUp, fun before => nomatch before⟩

theorem Backed.advance (backed : Backed id run rows)
    (early : CreatePc.early run.pc = true → rows = .none)
    (single : deployment.peerConfigured run.vm = false)
    (moved : TrafficService.advance deployment id run answer = some outcome) :
    Backed id outcome.run (Outcome.rowsAfter outcome id rows) := by
  have follows : FollowsRoute outcome.run := backed.follows.advance moved
  cases committed : outcome.transaction with
  | none =>
      simp only [Outcome.rowsAfter, committed]
      exact backed.quiet early moved committed
  | some transaction =>
      simp only [Outcome.rowsAfter, committed]
      rcases advance_commits moved committed with
        ⟨here, rfl, after⟩ | ⟨here, rfl, after⟩ | ⟨segment, rest, here, rfl, after⟩ |
          ⟨here, rfl, after⟩
      · have empty : rows = .none := early (by simp [here, CreatePc.early])
        rcases after with after | after
        · rw [after] at follows ⊢
          exact backed_saga backed empty single here rfl rfl follows
        · rw [after] at follows ⊢
          exact backed_saga backed empty single here rfl rfl follows
      · rcases after with after | after
        · rw [after] at follows ⊢
          exact backed.confirm here rfl rfl rfl follows
        · rw [after] at follows ⊢
          exact backed.confirm here rfl rfl rfl follows
      · rw [after]
        exact backed.release here
      · rw [after]
        exact backed_rejection run rows

/-- A booking once given up stays so: its request may only write CONFIRMED over rows that
Case A cancels. -/
theorem GivenUp.advance (givenUp : GivenUp run rows) (present : rows.booking ≠ none)
    (early : CreatePc.early run.pc = true → rows = .none)
    (moved : TrafficService.advance deployment id run answer = some outcome) :
    GivenUp outcome.run (Outcome.rowsAfter outcome id rows) := by
  have late : CreatePc.early run.pc = false := by
    by_contra starting
    rw [Bool.not_eq_false] at starting
    exact present (by rw [early starting]; rfl)
  cases committed : outcome.transaction with
  | none =>
      simp only [Outcome.rowsAfter, committed]
      refine givenUp.imp_right ?_
      rintro ⟨unconfirmed, settled⟩
      refine ⟨unconfirmed, ?_⟩
      by_contra may
      rw [Bool.not_eq_false] at may
      cases settled.symm.trans ((advance_quiet_confirm moved committed).1 may)
  | some transaction =>
      simp only [Outcome.rowsAfter, committed]
      rcases advance_commits moved committed with
        ⟨here, rfl, after⟩ | ⟨here, rfl, after⟩ | ⟨segment, rest, here, rfl, after⟩ |
          ⟨here, rfl, after⟩
      · simp [here, CreatePc.early] at late
      · rcases givenUp with unbacked | ⟨_, settled⟩
        · exact .inl (Transaction.unbacked_onRows rfl unbacked)
        · simp [here, CreatePc.mayConfirm] at settled
      · rw [after]
        rcases givenUp with unbacked | ⟨unconfirmed, _⟩
        · exact .inl (Transaction.unbacked_onRows rfl unbacked)
        · exact .inr ⟨Transaction.unconfirmed_onRows rfl (by simp) unconfirmed, rfl⟩
      · rw [after]
        exact .inr ⟨fun row stored => by rw [status_rejection stored]; decide, rfl⟩

theorem unbacked_advance (unbacked : rows.unbacked) (present : rows.booking ≠ none)
    (early : CreatePc.early run.pc = true → rows = .none)
    (moved : TrafficService.advance deployment id run answer = some outcome) :
    (Outcome.rowsAfter outcome id rows).unbacked := by
  cases committed : outcome.transaction with
  | none => simpa only [Outcome.rowsAfter, committed] using unbacked
  | some transaction =>
      simp only [Outcome.rowsAfter, committed]
      rcases advance_commits moved committed with
        ⟨here, rfl, _⟩ | ⟨_, rfl, _⟩ | ⟨_, _, _, rfl, _⟩ | ⟨_, rfl, _⟩
      · have empty : rows = .none := early (by simp [here, CreatePc.early])
        exact absurd (by rw [empty]; rfl) present
      · exact Transaction.unbacked_onRows rfl unbacked
      · exact Transaction.unbacked_onRows rfl unbacked
      · simp only [CreateRun.rejection]
        split
        · exact Transaction.unbacked_onRows rfl unbacked
        · exact unbacked

end

/-! ### Runs -/

def Unbacked (state : State) (vm : Vm) (id : BookingId) : Prop :=
  (state.rows vm id).booking ≠ none ∧ (state.rows vm id).unbacked

def Lost (state : State) (vm : Vm) (id : BookingId) : Prop :=
  (state.rows vm id).booking ≠ none ∧
    ∃ run, state.runs id = some run ∧ run.vm = vm ∧ GivenUp run (state.rows vm id)

/-- What a pass remembers, from its queries and its open snapshot, still holds. -/
structure PassInv (state : State) (pass : Pass) : Prop where
  unbacked : ∀ snapshot, pass.snapshot = some snapshot → ∀ id,
    (snapshot.rowsOf id).booking ≠ none → (snapshot.rowsOf id).unbacked → Unbacked state pass.vm id
  inactive : ∀ snapshot, pass.snapshot = some snapshot → ∀ id,
    (snapshot.rowsOf id).cancelledOrRejected = true → Lost state pass.vm id
  dangling : ∀ todo, pass.pc = .dangling todo → ∀ row ∈ todo, Unbacked state pass.vm row.id
  lingering : ∀ schema todo schemas, pass.pc = .lingering schema todo schemas →
    ∀ id ∈ todo, Lost state pass.vm id

structure Converging (deployment : Deployment) (state : State) : Prop where
  inv : Inv deployment state
  backed : ∀ id run, state.runs id = some run → Backed id run (state.rows run.vm id)
  passes : ∀ passId pass, state.passes passId = some pass → PassInv state pass

section

variable {deployment : Deployment} {state next : State} {action : Action} {vm : Vm}
  {id : BookingId}

theorem Inv.early_rows (inv : Inv deployment state) {run : CreateRun}
    (found : state.runs id = some run) (starting : CreatePc.early run.pc = true) :
    state.rows run.vm id = .none :=
  (inv.booking id run found).early starting

theorem Inv.external_single (inv : Inv deployment state)
    (single : ∀ vm, deployment.peerConfigured vm = false) {transaction : Transaction}
    (source : External state action vm id transaction) :
    transaction = .cancel ∨ transaction = .orphan ∨
    (transaction = .dangling ∧ ∃ passId pass row rest, state.passes passId = some pass ∧
      pass.pc = .dangling (row :: rest) ∧ pass.vm = vm ∧ row.id = id) ∨
    ∃ schema, transaction = .lingering schema ∧ ∃ passId pass rest schemas,
      state.passes passId = some pass ∧ pass.pc = .lingering schema (id :: rest) schemas ∧
        pass.vm = vm := by
  cases source with
  | serveReserve target id driverId segment sent =>
      obtain ⟨run, _, _, configured⟩ := inv.addressed _ _ sent rfl
      exact nomatch (single run.vm).symm.trans configured
  | serveRelease target id sent =>
      obtain ⟨run, _, _, configured⟩ := inv.addressed _ _ sent rfl
      exact nomatch (single run.vm).symm.trans configured
  | cancel vm id driverId published booking found uncancelled => exact .inl rfl
  | orphan passId now published pass row rest found here clear => exact .inr (.inl rfl)
  | dangling passId now published pass row rest found here =>
      exact .inr (.inr (.inl ⟨rfl, passId, pass, row, rest, found, here, rfl, rfl⟩))
  | lingering passId now published pass schema id rest schemas found here =>
      exact .inr (.inr (.inr ⟨schema, rfl, passId, pass, rest, schemas, found, here, rfl⟩))

theorem present_advance {run : CreateRun} {answer : Answer} {outcome : Outcome} {rows : BookingRows}
    (present : rows.booking ≠ none)
    (moved : advance deployment id run answer = some outcome) :
    (Outcome.rowsAfter outcome id rows).booking ≠ none := by
  cases committed : outcome.transaction with
  | none => simpa only [Outcome.rowsAfter, committed] using present
  | some transaction =>
      simp only [Outcome.rowsAfter, committed]
      rcases advance_commits moved committed with
        ⟨_, rfl, _⟩ | ⟨_, rfl, _⟩ | ⟨_, _, _, rfl, _⟩ | ⟨_, rfl, _⟩
      · exact Option.some_ne_none _
      · exact mt (Transaction.onRows_booking_eq_none rfl).mp present
      · exact mt (Transaction.onRows_booking_eq_none rfl).mp present
      · simp only [CreateRun.rejection]
        split
        · exact mt (Transaction.onRows_booking_eq_none rfl).mp present
        · exact Option.some_ne_none _

theorem Unbacked.step (unbacked : Unbacked state vm id) (inv : Inv deployment state)
    (stepped : Cluster.step deployment state action = some next) : Unbacked next vm id := by
  obtain ⟨present, unbacked⟩ := unbacked
  obtain ⟨run, found, rfl⟩ := inv.owner present
  obtain ⟨after, _, _, moved⟩ := inv.owner_step stepped found
  simp only [Unbacked]
  generalize next.rows run.vm id = rows at moved
  cases moved with
  | unchanged => exact ⟨present, unbacked⟩
  | crashed isCrash running => exact ⟨present, unbacked⟩
  | advanced answer outcome source moved =>
      exact ⟨present_advance present moved,
        unbacked_advance unbacked present (inv.early_rows found) moved⟩
  | external transaction source updates =>
      exact ⟨mt (Transaction.onRows_booking_eq_none updates).mp present,
        Transaction.unbacked_onRows updates unbacked⟩

theorem Lost.step (lost : Lost state vm id) (inv : Inv deployment state)
    (stepped : Cluster.step deployment state action = some next) : Lost next vm id := by
  obtain ⟨present, run, found, rfl, givenUp⟩ := lost
  obtain ⟨after, foundAfter, sameVm, moved⟩ := inv.owner_step stepped found
  suffices kept : (next.rows run.vm id).booking ≠ none ∧ GivenUp after (next.rows run.vm id) from
    ⟨kept.1, after, foundAfter, sameVm, kept.2⟩
  generalize next.rows run.vm id = rows at moved
  cases moved with
  | unchanged => exact ⟨present, givenUp⟩
  | crashed isCrash running => exact ⟨present, givenUp.imp_right fun settled => ⟨settled.1, rfl⟩⟩
  | advanced answer outcome source moved =>
      exact ⟨present_advance present moved,
        givenUp.advance present (inv.early_rows found) moved⟩
  | external transaction source updates =>
      exact ⟨mt (Transaction.onRows_booking_eq_none updates).mp present,
        givenUp.update updates source.ne_confirm⟩

/-! ### The invariant of single-VM runs -/

theorem Backed.crash {run : CreateRun} {rows : BookingRows} (backed : Backed id run rows) :
    Backed id { run with pc := .crashed } rows where
  follows := trivial
  backed := fun present =>
    (backed.backed present).imp_left fun givenUp =>
      givenUp.imp_right fun settled => ⟨settled.1, rfl⟩
  inactive := fun inactive =>
    (backed.inactive inactive).imp_right fun settled => ⟨settled.1, rfl⟩
  unconfirmed := fun before => nomatch before

theorem Converging.lost (converging : Converging deployment state)
    (inactive : (state.rows vm id).cancelledOrRejected = true) : Lost state vm id := by
  have present : (state.rows vm id).booking ≠ none := by
    intro gone
    simp [BookingRows.cancelledOrRejected, gone] at inactive
  obtain ⟨run, found, rfl⟩ := converging.inv.owner present
  exact ⟨present, run, found, rfl, (converging.backed id run found).inactive inactive⟩

theorem Converging.backed_external (converging : Converging deployment state)
    (single : ∀ vm, deployment.peerConfigured vm = false) {run : CreateRun}
    (found : state.runs id = some run) {transaction : Transaction}
    (source : External state action run.vm id transaction) :
    Backed id run (transaction.onRows id (state.rows run.vm id)) := by
  have backed := converging.backed id run found
  rcases converging.inv.external_single single source with
    rfl | rfl | ⟨rfl, passId, pass, row, rest, known, here, vm, rfl⟩ |
      ⟨schema, rfl, passId, pass, rest, schemas, known, here, vm⟩
  · exact backed.cancel
  · exact backed.orphan
  · have listed := (converging.passes passId pass known).dangling _ here row List.mem_cons_self
    rw [vm] at listed
    exact backed.dangling listed.2
  · have listed :=
      (converging.passes passId pass known).lingering schema _ schemas here id List.mem_cons_self
    rw [vm] at listed
    obtain ⟨_, owner, owned, _, givenUp⟩ := listed
    cases owned.symm.trans found
    exact backed.lingering schema givenUp

theorem Converging.backed_step (converging : Converging deployment state)
    (single : ∀ vm, deployment.peerConfigured vm = false)
    (stepped : step deployment state action = some next) {after : CreateRun}
    (found : next.runs id = some after) : Backed id after (next.rows after.vm id) := by
  cases known : state.runs id with
  | some run =>
      obtain ⟨moved, foundMoved, sameVm, ownerStep⟩ := converging.inv.owner_step stepped known
      cases foundMoved.symm.trans found
      rw [sameVm]
      have backed := converging.backed id run known
      generalize next.rows run.vm id = rows at ownerStep
      cases ownerStep with
      | unchanged => exact backed
      | crashed isCrash running => exact backed.crash
      | advanced answer outcome source moved =>
          exact backed.advance (converging.inv.early_rows known) (single _) moved
      | external transaction source updates =>
          exact converging.backed_external single known source
  | none =>
      cases step_effect stepped id with
      | unchanged runs rows => exact nomatch (runs.trans known).symm.trans found
      | begun vm draft isBegin fresh runs rows =>
          cases runs.symm.trans found
          rw [rows, converging.inv.unborn id known]
          exact backed_none rfl
      | crashed run isCrash before running runs rows => exact nomatch known.symm.trans before
      | advanced run answer outcome source before moved runs rows =>
          exact nomatch known.symm.trans before
      | external vm transaction source runs rows => exact nomatch (runs.trans known).symm.trans found

theorem PassInv.step {pass : Pass} (passInv : PassInv state pass) (inv : Inv deployment state)
    (stepped : Cluster.step deployment state action = some next) : PassInv next pass where
  unbacked := fun snapshot opened id present unbacked =>
    (passInv.unbacked snapshot opened id present unbacked).step inv stepped
  inactive := fun snapshot opened id inactive =>
    (passInv.inactive snapshot opened id inactive).step inv stepped
  dangling := fun todo here row member => (passInv.dangling todo here row member).step inv stepped
  lingering := fun schema todo schemas here id member =>
    (passInv.lingering schema todo schemas here id member).step inv stepped

theorem Converging.reads (converging : Converging deployment state) {pass : Pass}
    (passInv : PassInv state pass) (id : BookingId) :
    (((pass.reads state).rowsOf id).booking ≠ none → ((pass.reads state).rowsOf id).unbacked →
      Unbacked state pass.vm id) ∧
    (((pass.reads state).rowsOf id).cancelledOrRejected = true → Lost state pass.vm id) := by
  cases opened : pass.snapshot with
  | some snapshot =>
      simp only [Pass.reads, opened, Option.getD_some]
      exact ⟨passInv.unbacked snapshot opened id, passInv.inactive snapshot opened id⟩
  | none =>
      simp only [Pass.reads, opened, Option.getD_none]
      exact ⟨fun present unbacked => ⟨present, unbacked⟩, fun inactive => converging.lost inactive⟩

theorem BookingRows.of_dangling {now : DateTime} {rows : BookingRows}
    (dangling : rows.dangling now = true) : rows.booking ≠ none ∧ rows.unbacked := by
  simp only [BookingRows.dangling, Bool.and_eq_true, Bool.not_eq_true', Option.any_eq_true,
    List.any_eq_false, decide_eq_true_eq] at dangling
  obtain ⟨⟨row, found, _⟩, unbacked⟩ := dangling
  exact ⟨by simp [found], unbacked⟩

theorem Converging.passMove (converging : Converging deployment state) {pass after : Pass}
    (passInv : PassInv state pass) (move : PassMove state pass after) : PassInv state after := by
  have reads := converging.reads passInv
  cases move with
  | selectOrphans now start =>
      refine ⟨?_, ?_, fun _ here => (nomatch here), fun _ _ _ here => (nomatch here)⟩
      · rintro snapshot ⟨⟩ id
        exact (reads id).1
      · rintro snapshot ⟨⟩ id
        exact (reads id).2
  | nextOrphan row rest here clear =>
      exact ⟨fun _ opened => (nomatch opened), fun _ opened => (nomatch opened),
        fun _ here => (nomatch here), fun _ _ _ here => (nomatch here)⟩
  | selectDangling now =>
      refine ⟨?_, ?_, ?_, fun _ _ _ here => (nomatch here)⟩
      · rintro snapshot ⟨⟩ id
        exact (reads id).1
      · rintro snapshot ⟨⟩ id
        exact (reads id).2
      · rintro todo ⟨⟩ row member
        have dangling := mem_selectDangling.mp (List.mem_map_of_mem member)
        obtain ⟨present, unbacked⟩ := BookingRows.of_dangling dangling
        exact (reads row.id).1 present unbacked
  | nextDangling row rest here =>
      refine ⟨fun _ opened => (nomatch opened), fun _ opened => (nomatch opened), ?_,
        fun _ _ _ here => (nomatch here)⟩
      rintro todo ⟨⟩ other member
      exact passInv.dangling _ here other (List.mem_cons_of_mem row member)
  | sweep schemas =>
      exact ⟨passInv.unbacked, passInv.inactive, fun _ here => (nomatch here),
        fun _ _ _ here => (nomatch here)⟩
  | selectLingering schema schemas =>
      refine ⟨?_, ?_, fun _ here => (nomatch here), ?_⟩
      · rintro snapshot ⟨⟩ id
        exact (reads id).1
      · rintro snapshot ⟨⟩ id
        exact (reads id).2
      · rintro place todo more ⟨⟩ id member
        exact (reads id).2 (mem_selectLingering.mp member).2
  | nextLingering schema id rest schemas here =>
      refine ⟨fun _ opened => (nomatch opened), fun _ opened => (nomatch opened),
        fun _ here => (nomatch here), ?_⟩
      rintro place todo more ⟨⟩ other member
      exact passInv.lingering _ _ _ here other (List.mem_cons_of_mem id member)

theorem Converging.step (converging : Converging deployment state)
    (single : ∀ vm, deployment.peerConfigured vm = false)
    (stepped : Cluster.step deployment state action = some next) : Converging deployment next where
  inv := converging.inv.step stepped
  backed := fun _ _ found => converging.backed_step single stepped found
  passes := by
    intro passId pass found
    rcases step_pass stepped found with old | ⟨vm, rfl⟩ | ⟨before, known, move⟩
    · exact (converging.passes passId pass old).step converging.inv stepped
    · exact ⟨fun _ opened => (nomatch opened), fun _ opened => (nomatch opened),
        fun _ here => (nomatch here), fun _ _ _ here => (nomatch here)⟩
    · exact (converging.passMove (converging.passes passId before known) move).step converging.inv
        stepped

theorem converging_initial (capacity : Vm → RegionSchema → SegmentId → Option Nat)
    (users : Vm → DriverId → Option (Option Plate)) :
    Converging deployment (.initial capacity users) where
  inv := inv_initial capacity users
  backed := fun _ _ found => nomatch found
  passes := fun _ _ found => nomatch found

theorem Converging.reachable {capacity : Vm → RegionSchema → SegmentId → Option Nat}
    {users : Vm → DriverId → Option (Option Plate)}
    (single : ∀ vm, deployment.peerConfigured vm = false)
    (reached : Lts.Reachable (Cluster.step deployment) (.initial capacity users) state) :
    Converging deployment state :=
  reached.invariant (fun _ _ _ converging stepped => converging.step single stepped)
    (converging_initial capacity users)

end

/-- What convergence asks of one row of `public.bookings`, with all the rows of
its booking in the same database. -/
def Settled (state : State) (rows : BookingRows) (booking : Booking) : Prop :=
  (booking.status = .confirmed ∧
    ∃ run, state.runs booking.id = some run ∧ FullyReserved booking.id run rows) ∨
  ((booking.status = .rejected ∨ booking.status = .cancelled) ∧
    ∀ schema, ∀ row ∈ rows.regional schema, row.status.active = false)

theorem Backed.settled {state : State} {run : CreateRun} {rows : BookingRows} {now : DateTime}
    {before after : Booking} (backed : Backed after.id run rows) (decided : rows.decided)
    (owner : state.runs after.id = some run) (found : rows.booking = some before)
    (aged : before.createdAt < now - 2 * minute)
    (reconciled : (rows.reconcile now).booking = some after) :
    Settled state (rows.reconcile now) after := by
  have freed (rows : BookingRows) : ∀ schema, ∀ row ∈ rows.cancelRegional.regional schema,
      row.status.active = false := by
    intro schema row member
    rw [BookingRows.status_cancelRegional member]
    rfl
  cases status : before.status with
  | pending => exact absurd status (decided before found)
  | sagaInProgress =>
      have old : before.createdAt < now - orphanThreshold :=
        Int.lt_of_lt_of_le aged (Int.sub_le_sub_left (by decide) now)
      rw [BookingRows.reconcile_inProgress found status old] at reconciled ⊢
      refine .inr ⟨.inl ?_, freed rows⟩
      obtain ⟨_, _, rfl⟩ := Option.map_eq_some_iff.mp reconciled
      rfl
  | confirmed =>
      by_cases dangling : rows.dangling now = true
      · rw [BookingRows.reconcile_dangling found dangling] at reconciled ⊢
        refine .inr ⟨.inr ?_, freed rows⟩
        obtain ⟨_, _, rfl⟩ := Option.map_eq_some_iff.mp reconciled
        rfl
      · rw [BookingRows.reconcile_confirmed found status (by simpa using dangling)] at reconciled ⊢
        cases found.symm.trans reconciled
        refine .inl ⟨status, run, owner, ?_⟩
        refine (backed.backed (by simp [found])).resolve_left ?_
        rintro (unbacked | ⟨unconfirmed, _⟩)
        · apply dangling
          simpa [BookingRows.dangling, found, Booking.confirmedLongAgo, status, aged,
            BookingRows.unbacked] using unbacked
        · exact unconfirmed before found status
  | rejected | cancelled =>
      rw [BookingRows.reconcile_inactive found (by simp [status, BookingStatus.active])]
        at reconciled ⊢
      cases found.symm.trans reconciled
      exact .inr ⟨by simp [status], freed rows⟩

/-- One pass settles every booking of a VM without peer, whatever has happened before. -/
theorem settled_of_reconciliation {deployment : Deployment}
    (single : ∀ vm, deployment.peerConfigured vm = false)
    {capacity : Vm → RegionSchema → SegmentId → Option Nat}
    {users : Vm → DriverId → Option (Option Plate)} {state : State}
    (reached : Lts.Reachable (step deployment) (.initial capacity users) state) (vm : Vm)
    (now : DateTime)
    (aged : ∀ booking ∈ (state.db vm).bookings.rows, booking.createdAt < now - 2 * minute) :
    ∀ booking ∈ (runReconciliationOnce (state.db vm) now).db.bookings.rows,
      Settled state ((runReconciliationOnce (state.db vm) now).db.rowsOf booking.id) booking := by
  intro booking member
  have converging : Converging deployment state := .reachable single reached
  have found := Database.rowsOf_of_mem member
  rw [rowsOf_runReconciliationOnce] at found ⊢
  cases before : ((state.db vm).rowsOf booking.id).booking with
  | none =>
      rw [BookingRows.reconcile_absent before, before] at found
      exact nomatch found
  | some row =>
      have present : (state.rows vm booking.id).booking ≠ none := by
        rw [State.rows, before]
        exact Option.some_ne_none row
      obtain ⟨run, owner, rfl⟩ := converging.inv.owner present
      exact (converging.backed booking.id run owner).settled
        (converging.inv.booking booking.id run owner).decided owner before
        (aged row (Database.mem_of_rowsOf before).1) found

/-! ### A confirmed booking beside one whose request crashed -/

def bookedAndCrashed : List Action := bookAsFar 10 5 ++ bookAsFar 11 2 ++ [.crash 11]

theorem settled_bookedAndCrashed :
    ∃ state, Lts.run (step singleVm) emptyState bookedAndCrashed = some state ∧
      (runReconciliationOnce (state.db .vm1) hour).db.bookings.rows.map (·.status) =
        [.confirmed, .rejected] ∧
      ∀ booking ∈ (runReconciliationOnce (state.db .vm1) hour).db.bookings.rows,
        Settled state ((runReconciliationOnce (state.db .vm1) hour).db.rowsOf booking.id)
          booking := by
  have observed : (Lts.run (step singleVm) emptyState bookedAndCrashed).map (fun state =>
      ((state.db .vm1).bookings.rows.all fun booking => booking.createdAt < hour - 2 * minute,
        (runReconciliationOnce (state.db .vm1) hour).db.bookings.rows.map (·.status))) =
      some (true, [.confirmed, .rejected]) := by decide
  obtain ⟨state, executed, outcome⟩ := Option.map_eq_some_iff.mp observed
  simp only [Prod.mk.injEq, List.all_eq_true, decide_eq_true_eq] at outcome
  exact ⟨state, executed, outcome.2,
    settled_of_reconciliation (fun _ => rfl) ⟨bookedAndCrashed, executed⟩ .vm1 hour outcome.1⟩

end Cluster

end TrafficService
