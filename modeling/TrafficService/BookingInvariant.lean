import TrafficService.Effects

/-!
What holds of every booking at any moment: where its rows can be, and what the position of
its request says about them.
-/

namespace TrafficService.Cluster

def CreatePc.early : CreatePc → Bool
  | .flush | .resolve | .reserve _ | .peerWait _ _ => true
  | _ => false

/-- On the path that follows a saga commit known to have succeeded. -/
def CreatePc.confirming : CreatePc → Bool
  | .publishConfirmed | .finalCommit | .refresh | .returned => true
  | _ => false

section

variable {deployment : Deployment} {id : BookingId} {run : CreateRun} {answer : Answer}
  {outcome : Outcome}

theorem advance_keeps (moved : advance deployment id run answer = some outcome) :
    outcome.run.vm = run.vm ∧ outcome.run.draft = run.draft := by
  revert moved
  fun_cases advance deployment id run answer
  all_goals
    intro moved
    cases moved
  all_goals exact ⟨rfl, rfl⟩

theorem advance_commits {transaction : Transaction}
    (moved : advance deployment id run answer = some outcome)
    (committed : outcome.transaction = some transaction) :
    (run.pc = .reserve [] ∧ transaction = run.store deployment ∧
      (outcome.run = { run with persistent := true, pc := .publishConfirmed } ∨
        outcome.run = { run with pc := .rollback })) ∨
    (run.pc = .finalCommit ∧ transaction = .confirm run.minutes ∧
      (outcome.run = { run with pc := .refresh } ∨ outcome.run = { run with pc := .reject })) ∨
    (∃ segment rest, run.pc = .compensate (segment :: rest) ∧
      transaction = .release segment.schema ∧
      outcome.run = { run with pc := .compensate rest }) ∨
    (run.pc = .reject ∧ transaction = run.rejection ∧
      outcome.run = { run with pc := .raised }) := by
  revert moved
  fun_cases advance deployment id run answer
  all_goals
    intro moved
    cases moved
  all_goals simp_all

theorem advance_quiet (moved : advance deployment id run answer = some outcome)
    (quiet : outcome.transaction = none) :
    outcome.run.persistent = run.persistent ∧
      (CreatePc.early outcome.run.pc = true → CreatePc.early run.pc = true) ∧
      (CreatePc.confirming outcome.run.pc = true → CreatePc.confirming run.pc = true) := by
  revert moved
  fun_cases advance deployment id run answer
  all_goals
    intro moved
    cases moved
  all_goals simp_all [CreatePc.early, CreatePc.confirming]

theorem advance_asks {msg : Msg} {target : Vm}
    (moved : advance deployment id run answer = some outcome) (sent : msg ∈ outcome.sent)
    (asks : msg.asks = some target) :
    target = run.vm.peer ∧ msg.bookingId = id ∧ deployment.peerConfigured run.vm = true ∧
      ∀ driverId segment, msg = .reserve target id driverId segment →
        CreatePc.early outcome.run.pc = true := by
  revert moved
  fun_cases advance deployment id run answer
  all_goals
    intro moved
    cases moved
  all_goals
    simp_all [CreatePc.early, Deployment.isLocal, CreateRun.releasesPeer, Msg.bookingId]
  all_goals
    simp_all [Msg.asks]

end

structure BookingInv (run : CreateRun) (rows : Vm → BookingRows) : Prop where
  early : CreatePc.early run.pc = true → rows run.vm = .none
  stored : run.persistent = true → (rows run.vm).booking ≠ none
  confirming : CreatePc.confirming run.pc = true → run.persistent = true
  absent : (rows run.vm).booking = none → rows run.vm = .none
  foreign : (rows run.vm.peer).booking = none ∧ (rows run.vm.peer).segments = []
  decided : (rows run.vm).decided

structure Inv (deployment : Deployment) (state : State) : Prop where
  unborn : ∀ id, state.runs id = none → ∀ vm, state.rows vm id = .none
  booking : ∀ id run, state.runs id = some run → BookingInv run fun vm => state.rows vm id
  addressed : ∀ msg target, msg ∈ state.net → msg.asks = some target →
    ∃ run, state.runs msg.bookingId = some run ∧ target = run.vm.peer ∧
      deployment.peerConfigured run.vm = true

section

variable {run : CreateRun} {rows next : Vm → BookingRows}

theorem BookingInv.congr (inv : BookingInv run rows) (same : ∀ vm, next vm = rows vm) :
    BookingInv run next := by
  have equal : next = rows := funext same
  rwa [equal]

theorem bookingInv_start {vm : Vm} {draft : BookingDraft} (empty : ∀ place, rows place = .none) :
    BookingInv (.start vm draft) rows where
  early := fun _ => empty vm
  stored := fun persistent => nomatch persistent
  confirming := fun confirming => nomatch confirming
  absent := fun _ => empty vm
  foreign := by simp [empty, BookingRows.none]
  decided := by simp [empty, BookingRows.none, BookingRows.decided]

theorem BookingInv.goto (inv : BookingInv run rows) (pc : CreatePc)
    (late : CreatePc.early pc = false)
    (confirming : CreatePc.confirming pc = true → run.persistent = true) :
    BookingInv { run with pc } rows where
  early := fun early => nomatch late.symm.trans early
  stored := inv.stored
  confirming := confirming
  absent := inv.absent
  foreign := inv.foreign
  decided := inv.decided

theorem BookingInv.update (inv : BookingInv run rows) {transaction : Transaction} {id : BookingId}
    (updates : transaction.updates = true) {vm : Vm}
    (changed : ∀ place, next place =
      if place = vm then transaction.onRows id (rows place) else rows place) :
    BookingInv run next := by
  have booking : ∀ place, (next place).booking = none ↔ (rows place).booking = none := by
    intro place
    rw [changed]
    split
    · exact Transaction.onRows_booking_eq_none updates
    · rfl
  have segments : ∀ place, (next place).segments = [] ↔ (rows place).segments = [] := by
    intro place
    rw [changed]
    split
    · exact Transaction.onRows_segments_eq_nil updates
    · rfl
  have cleared : ∀ place, rows place = .none → next place = .none := by
    intro place empty
    rw [changed, empty]
    split
    · exact Transaction.onRows_none updates
    · rfl
  refine ⟨?_, ?_, inv.confirming, ?_, ?_, ?_⟩
  · intro early
    exact cleared _ (inv.early early)
  · intro persistent
    rw [Ne, booking]
    exact inv.stored persistent
  · intro gone
    exact cleared _ (inv.absent ((booking _).mp gone))
  · exact ⟨(booking _).mpr inv.foreign.1, (segments _).mpr inv.foreign.2⟩
  · rw [changed]
    split
    · exact Transaction.decided_onRows updates inv.decided
    · exact inv.decided

theorem BookingInv.peerReserve (inv : BookingInv run rows) {id : BookingId} {driverId : DriverId}
    {segment : RouteSegment}
    (changed : ∀ place, next place =
      if place = run.vm.peer then (Transaction.peerReserve driverId segment).onRows id (rows place)
      else rows place) : BookingInv run next := by
  have own : next run.vm = rows run.vm := by
    rw [changed, if_neg (Vm.peer_ne run.vm).symm]
  refine ⟨?_, ?_, inv.confirming, ?_, ?_, ?_⟩
  · rw [own]
    exact inv.early
  · rw [own]
    exact inv.stored
  · rw [own]
    exact inv.absent
  · rw [changed, if_pos rfl]
    exact inv.foreign
  · rw [own]
    exact inv.decided

theorem BookingInv.advance {deployment : Deployment} {id : BookingId} {answer : Answer}
    {outcome : Outcome} (inv : BookingInv run rows)
    (moved : TrafficService.advance deployment id run answer = some outcome)
    (changed : ∀ vm, next vm =
      if vm = outcome.run.vm then Outcome.rowsAfter outcome id (rows vm) else rows vm) :
    BookingInv outcome.run next := by
  have sameVm : outcome.run.vm = run.vm := (advance_keeps moved).1
  cases committed : outcome.transaction with
  | none =>
      obtain ⟨persistent, early, confirming⟩ := advance_quiet moved committed
      have same : ∀ vm, next vm = rows vm := by
        intro vm
        rw [changed]
        simp [Outcome.rowsAfter, committed]
      refine BookingInv.congr ⟨?_, ?_, ?_, ?_, ?_, ?_⟩ same
      · rw [sameVm]
        exact fun now => inv.early (early now)
      · rw [sameVm, persistent]
        exact inv.stored
      · rw [persistent]
        exact fun now => inv.confirming (confirming now)
      · rw [sameVm]
        exact inv.absent
      · rw [sameVm]
        exact inv.foreign
      · rw [sameVm]
        exact inv.decided
  | some transaction =>
      have rowsAfter : ∀ vm, next vm =
          if vm = run.vm then transaction.onRows id (rows vm) else rows vm := by
        intro vm
        rw [changed, sameVm]
        simp only [Outcome.rowsAfter, committed]
      have peer : next run.vm.peer = rows run.vm.peer := by
        rw [rowsAfter, if_neg (Vm.peer_ne run.vm)]
      have own : next run.vm = transaction.onRows id (rows run.vm) := by
        rw [rowsAfter, if_pos rfl]
      rcases advance_commits moved committed with
        ⟨here, rfl, after⟩ | ⟨here, rfl, after⟩ | ⟨segment, rest, here, rfl, after⟩ |
          ⟨here, rfl, after⟩
      · -- the saga's commit
        have row : (next run.vm).booking ≠ none := by
          rw [own]
          exact Option.some_ne_none _
        have decided : (next run.vm).decided := by
          rw [own]
          rintro row ⟨⟩ ⟨⟩
        have stored (persistent : Bool) : BookingInv { run with persistent, pc := .rollback } next :=
          ⟨by rintro ⟨⟩, fun _ => row, by rintro ⟨⟩,
            fun gone => absurd gone row, peer ▸ inv.foreign, decided⟩
        rcases after with after | after
        · rw [after]
          exact (stored true).goto .publishConfirmed rfl fun _ => rfl
        · rw [after]
          exact stored run.persistent
      · have persistent : run.persistent = true :=
          inv.confirming (by simp [here, CreatePc.confirming])
        have updated : BookingInv run next := inv.update (by rfl) rowsAfter
        rcases after with after | after
        · rw [after]
          exact updated.goto .refresh rfl fun _ => persistent
        · rw [after]
          exact updated.goto .reject rfl (by rintro ⟨⟩)
      · have updated : BookingInv run next := inv.update (by rfl) rowsAfter
        rw [after]
        exact updated.goto (.compensate rest) rfl (by rintro ⟨⟩)
      · rw [after]
        by_cases stored : run.persistent = true
        · rw [CreateRun.rejection, if_pos stored] at rowsAfter
          have updated : BookingInv run next := inv.update (by rfl) rowsAfter
          exact updated.goto .raised rfl (by rintro ⟨⟩)
        · have row : (next run.vm).booking ≠ none := by
            rw [own, CreateRun.rejection, if_neg stored]
            exact Option.some_ne_none _
          have decided : (next run.vm).decided := by
            rw [own, CreateRun.rejection, if_neg stored]
            rintro row ⟨⟩ ⟨⟩
          exact ⟨by rintro ⟨⟩, fun _ => row, by rintro ⟨⟩,
            fun gone => absurd gone row, peer ▸ inv.foreign, decided⟩

end

/-! ### Every reachable state -/

section

variable {deployment : Deployment} {state next : State}

theorem inv_initial (capacity : Vm → RegionSchema → SegmentId → Option Nat)
    (users : Vm → DriverId → Option (Option Plate)) :
    Inv deployment (.initial capacity users) where
  unborn := fun _ _ vm => Database.rowsOf_unbooked (capacity vm) (users vm)
  booking := fun _ _ found => nomatch found
  addressed := fun _ _ member => nomatch member

/-- A booking of one VM is reached from outside by updates, or by the peer storing a row. -/
theorem Inv.external {action : Action} {vm : Vm} {id : BookingId} {transaction : Transaction}
    (inv : Inv deployment state) (source : External state action vm id transaction) :
    transaction.updates = true ∨ ∃ run driverId segment, state.runs id = some run ∧
      vm = run.vm.peer ∧ transaction = .peerReserve driverId segment := by
  cases source with
  | serveReserve target id driverId segment sent =>
      obtain ⟨run, found, same, _⟩ := inv.addressed _ _ sent rfl
      exact .inr ⟨run, driverId, segment, found, same, rfl⟩
  | _ => exact .inl rfl

theorem step_keeps_run {action : Action} {id : BookingId} {run : CreateRun}
    (stepped : Cluster.step deployment state action = some next) (found : state.runs id = some run) :
    ∃ after, next.runs id = some after ∧ after.vm = run.vm ∧ after.draft = run.draft := by
  cases step_effect stepped id with
  | unchanged runs rows => exact ⟨run, runs ▸ found, rfl, rfl⟩
  | begun vm draft isBegin fresh runs rows => exact nomatch fresh.symm.trans found
  | crashed before isCrash known running runs rows =>
      cases known.symm.trans found
      exact ⟨_, runs, rfl, rfl⟩
  | advanced before answer outcome source known moved runs rows =>
      cases known.symm.trans found
      exact ⟨outcome.run, runs, advance_keeps moved⟩
  | external vm transaction source runs rows => exact ⟨run, runs ▸ found, rfl, rfl⟩

theorem Inv.step {action : Action} (inv : Inv deployment state)
    (stepped : Cluster.step deployment state action = some next) : Inv deployment next := by
  refine ⟨?_, ?_, ?_⟩
  · intro id absent vm
    cases step_effect stepped id with
    | unchanged runs rows =>
        rw [rows]
        exact inv.unborn id (runs ▸ absent) vm
    | begun place draft isBegin fresh runs rows => exact nomatch runs.symm.trans absent
    | crashed run isCrash found running runs rows => exact nomatch runs.symm.trans absent
    | advanced run answer outcome source found moved runs rows =>
        exact nomatch runs.symm.trans absent
    | external place transaction source runs rows =>
        rw [runs] at absent
        have empty := inv.unborn id absent
        rcases inv.external source with updates | ⟨run, _, _, found, _⟩
        · rw [rows, empty]
          split
          · exact Transaction.onRows_none updates
          · rfl
        · exact nomatch found.symm.trans absent
  · intro id run found
    cases step_effect stepped id with
    | unchanged runs rows => exact (inv.booking id run (runs ▸ found)).congr rows
    | begun vm draft isBegin fresh runs rows =>
        cases runs.symm.trans found
        exact bookingInv_start fun vm => by rw [rows, inv.unborn id fresh]
    | crashed before isCrash known running runs rows =>
        cases runs.symm.trans found
        exact ((inv.booking id before known).congr rows).goto .crashed rfl
          fun confirming => nomatch confirming
    | advanced before answer outcome source known moved runs rows =>
        cases runs.symm.trans found
        exact (inv.booking id before known).advance moved rows
    | external vm transaction source runs rows =>
        have known : state.runs id = some run := runs ▸ found
        rcases inv.external source with updates | ⟨owner, driverId, segment, owned, rfl, rfl⟩
        · exact (inv.booking id run known).update updates rows
        · cases owned.symm.trans known
          exact (inv.booking id run known).peerReserve rows
  · intro msg target member asks
    rcases step_sent stepped member asks with old | ⟨id, run, answer, outcome, found, moved, sent, after⟩
    · obtain ⟨run, found, same, configured⟩ := inv.addressed msg target old asks
      obtain ⟨after, foundAfter, sameVm, _⟩ := step_keeps_run stepped found
      exact ⟨after, foundAfter, sameVm ▸ same, sameVm ▸ configured⟩
    · obtain ⟨same, rfl, configured, _⟩ := advance_asks moved sent asks
      have sameVm := (advance_keeps moved).1
      exact ⟨outcome.run, after, sameVm ▸ same, sameVm ▸ configured⟩

theorem Inv.reachable {capacity : Vm → RegionSchema → SegmentId → Option Nat}
    {users : Vm → DriverId → Option (Option Plate)}
    (reached : Lts.Reachable (Cluster.step deployment) (.initial capacity users) state) :
    Inv deployment state :=
  reached.invariant (fun _ _ _ inv stepped => inv.step stepped) (inv_initial capacity users)

/-- The VM that holds the booking's row is the one whose request made it. -/
theorem Inv.owner {vm : Vm} {id : BookingId} (inv : Inv deployment state)
    (present : (state.rows vm id).booking ≠ none) :
    ∃ run, state.runs id = some run ∧ run.vm = vm := by
  cases found : state.runs id with
  | none =>
      rw [inv.unborn id found vm] at present
      exact absurd rfl present
  | some run =>
      refine ⟨run, rfl, ?_⟩
      rcases Vm.eq_or_peer run.vm vm with same | peer
      · exact same.symm
      · exact absurd (inv.booking id run found).foreign.1 (peer ▸ present)

theorem External.ne_confirm {action : Action} {vm : Vm} {id : BookingId} {transaction : Transaction}
    (source : External state action vm id transaction) (minutes : Nat) :
    transaction ≠ .confirm minutes := by
  cases source <;> exact nofun

def Announces (state : State) (action : Action) (id : BookingId) : Prop :=
  ∃ vm transaction, External state action vm id transaction ∧ transaction.announced = true

inductive OwnerStep (deployment : Deployment) (state next : State) (action : Action)
    (id : BookingId) (run : CreateRun) : CreateRun → BookingRows → Prop
  | unchanged (events : ¬Announces state action id → next.published id = state.published id) :
      OwnerStep deployment state next action id run run (state.rows run.vm id)
  | crashed (isCrash : action = .crash id) (running : run.pc.ended = false)
      (events : next.published id = state.published id) :
      OwnerStep deployment state next action id run { run with pc := .crashed }
        (state.rows run.vm id)
  | advanced (answer : Answer) (outcome : Outcome)
      (source : action = .advance id answer ∨ run.pc.waits = true)
      (moved : advance deployment id run answer = some outcome)
      (inserted : ∀ transaction, outcome.transaction = some transaction →
        transaction.inserts = true → (state.rows run.vm id).booking = none)
      (events : next.published id = state.published id ++ outcome.published) :
      OwnerStep deployment state next action id run outcome.run
        (Outcome.rowsAfter outcome id (state.rows run.vm id))
  | external (transaction : Transaction) (source : External state action run.vm id transaction)
      (updates : transaction.updates = true)
      (events : ¬Announces state action id → next.published id = state.published id) :
      OwnerStep deployment state next action id run run
        (transaction.onRows id (state.rows run.vm id))

theorem Inv.owner_step {action : Action} {id : BookingId} {run : CreateRun}
    (inv : Inv deployment state) (stepped : Cluster.step deployment state action = some next)
    (found : state.runs id = some run) :
    ∃ after, next.runs id = some after ∧ after.vm = run.vm ∧
      OwnerStep deployment state next action id run after (next.rows run.vm id) := by
  have same : ∀ transaction vm, External state action vm id transaction →
      transaction.updates = true ∨ vm = run.vm.peer := by
    intro transaction vm source
    rcases inv.external source with updates | ⟨owner, _, _, owned, peer, _⟩
    · exact .inl updates
    · cases owned.symm.trans found
      exact .inr peer
  cases step_effect stepped id with
  | unchanged runs rows events =>
      refine ⟨run, runs ▸ found, rfl, ?_⟩
      rw [rows]
      exact .unchanged fun _ => events
  | begun vm draft isBegin fresh runs rows events => exact nomatch fresh.symm.trans found
  | crashed before isCrash known running runs rows events =>
      cases known.symm.trans found
      refine ⟨_, runs, rfl, ?_⟩
      rw [rows]
      exact .crashed isCrash running events
  | advanced before answer outcome source known moved runs rows inserted events =>
      cases known.symm.trans found
      have sameVm := (advance_keeps moved).1
      rw [sameVm] at rows inserted
      refine ⟨_, runs, sameVm, ?_⟩
      rw [rows, if_pos rfl]
      exact .advanced answer outcome source moved inserted events
  | external vm transaction source runs rows events =>
      have quiet : ¬Announces state action id → next.published id = state.published id := by
        intro unannounced
        apply events
        by_contra announced
        exact unannounced ⟨vm, transaction, source, by simpa using announced⟩
      refine ⟨run, runs ▸ found, rfl, ?_⟩
      rw [rows]
      split
      · rename_i here
        subst here
        rcases same transaction _ source with updates | peer
        · exact .external transaction source updates quiet
        · exact absurd peer.symm (Vm.peer_ne run.vm)
      · exact .unchanged quiet

end

end TrafficService.Cluster
