import TrafficService.OutcomeEvents
import TrafficService.Admission

/-!
Whether a booking that failed still holds capacity on the peer. Other requests, passes and
messages are interleaved in any order.
-/

namespace TrafficService.Cluster

/-! ### One step, seen from one booking -/

def replyTo : Msg → Bool → Msg
  | .reserve _ id _ _, accepted => .reserved id accepted
  | .release _ id, _ => .released id
  | msg, _ => msg

/-- The reply a run waits for, with the answer it is to the await. -/
inductive Replies (id : BookingId) : Msg → Answer → CreatePc → Prop
  | reserved (stored : Bool) (segment : RouteSegment) (todo : List RouteSegment) :
      Replies id (.reserved id stored) (.reserved stored) (.peerWait segment todo)
  | released : Replies id (.released id) .released .peerReleaseWait

def NewMessages (state next : State) (id : BookingId) (sent : Msg → Prop) : Prop :=
  ∀ msg ∈ next.net, msg.bookingId = id → msg ∈ state.net ∨ sent msg

inductive Turn (deployment : Deployment) (state next : State) (action : Action)
    (id : BookingId) : Prop
  | moved (run : CreateRun) (answer : Answer) (outcome : Outcome)
      (source : action = .advance id answer ∨
        ∃ msg ∈ state.net, action = .deliver msg ∧ Replies id msg answer run.pc)
      (found : state.runs id = some run)
      (moves : advance deployment id run answer = some outcome)
      (runs : next.runs id = some outcome.run)
      (net : NewMessages state next id fun msg => msg ∈ outcome.sent)
  | began (vm : Vm) (draft : BookingDraft) (fresh : state.runs id = none)
      (runs : next.runs id = some (.start vm draft))
      (net : NewMessages state next id fun _ => False)
  | crashed (run : CreateRun) (found : state.runs id = some run)
      (runs : next.runs id = some { run with pc := .crashed })
      (net : NewMessages state next id fun _ => False)
  | kept (runs : next.runs id = state.runs id)
      (net : NewMessages state next id fun msg => ∃ ask ∈ state.net, ∃ accepted,
        action = .serve ask accepted ∧ msg = replyTo ask accepted)

section

variable {deployment : Deployment} {state next : State} {action : Action} {id : BookingId}

theorem advance_sent {run : CreateRun} {answer : Answer} {outcome : Outcome} {msg : Msg}
    (moved : advance deployment id run answer = some outcome) (sent : msg ∈ outcome.sent) :
    msg.bookingId = id ∧ ∃ target, msg.asks = some target := by
  revert moved
  fun_cases advance deployment id run answer
  all_goals
    intro moved
    cases moved
  all_goals
    simp_all [Msg.bookingId, Msg.asks]

theorem turn_advanceRun {before : State} {target : BookingId} {answer : Answer}
    (advanced : advanceRun deployment before target answer = some next)
    (runs : before.runs = state.runs) (net : ∀ msg ∈ before.net, msg ∈ state.net)
    (source : ∀ run, target = id → state.runs id = some run → action = .advance id answer ∨
      ∃ msg ∈ state.net, action = .deliver msg ∧ Replies id msg answer run.pc) :
    Turn deployment state next action id := by
  obtain ⟨run, found, advanced⟩ := Option.bind_eq_some_iff.mp advanced
  obtain ⟨outcome, moved, applied⟩ := Option.bind_eq_some_iff.mp advanced
  obtain ⟨changed, _, sent, _, _⟩ := applyOutcome_effect applied
  rw [runs] at found changed
  by_cases own : target = id
  · subst own
    refine .moved run answer outcome (source run rfl found) found moved ?_ ?_
    · rw [changed, Function.update_self]
    · intro msg member _
      rw [sent, List.mem_append] at member
      exact member.imp_left (net msg)
  · refine .kept ?_ ?_
    · rw [changed, Function.update_of_ne (Ne.symm own)]
    · intro msg member ofId
      rw [sent, List.mem_append] at member
      rcases member with old | new
      · exact .inl (net msg old)
      · exact absurd ((advance_sent moved new).1.symm.trans ofId) own

theorem turn_of_same (runs : next.runs = state.runs) (net : ∀ msg ∈ next.net, msg ∈ state.net) :
    Turn deployment state next action id :=
  .kept (by rw [runs]) fun msg member _ => .inl (net msg member)

theorem turn_serve {ask : Msg} {accepted : Bool} (sent : ask ∈ state.net)
    (served : serve state ask accepted = some next) :
    Turn deployment state next (.serve ask accepted) id := by
  have replied (runs : next.runs = state.runs)
      (net : next.net = state.net.erase ask ++ [replyTo ask accepted]) :
      Turn deployment state next (.serve ask accepted) id := by
    refine .kept (by rw [runs]) fun msg member _ => ?_
    rw [net, List.mem_append, List.mem_singleton] at member
    rcases member with old | rfl
    · exact .inl (List.mem_of_mem_erase old)
    · exact .inr ⟨ask, sent, accepted, rfl, rfl⟩
  cases ask with
  | reserve target other driverId segment =>
      simp only [serve] at served
      split at served
      · rename_i yes
        subst yes
        exact replied (frame_commit served).1 (frame_commit served).2.2.1
      · rename_i no
        cases served
        exact replied rfl (by simp [replyTo, no])
  | release target other =>
      simp only [serve] at served
      split at served
      · exact replied (frame_commit served).1 (frame_commit served).2.2.1
      · cases served
        exact replied rfl rfl
  | reserved other stored => cases served
  | released other => cases served

theorem turn_deliver {msg : Msg} (sent : msg ∈ state.net)
    (received : deliver deployment state msg = some next) :
    Turn deployment state next (.deliver msg) id := by
  obtain ⟨run, found, delivered⟩ := Option.bind_eq_some_iff.mp received
  have rest : ∀ other ∈ state.net.erase msg, other ∈ state.net :=
    fun other => List.mem_of_mem_erase
  split at delivered
  case h_1 target stored segment todo here =>
      refine turn_advanceRun delivered rfl rest ?_
      rintro other rfl same
      cases found.symm.trans same
      rw [here]
      exact .inr ⟨_, sent, rfl, .reserved stored segment todo⟩
  case h_2 target here =>
      refine turn_advanceRun delivered rfl rest ?_
      rintro other rfl same
      cases found.symm.trans same
      rw [here]
      exact .inr ⟨_, sent, rfl, .released⟩
  case h_3 => cases delivered

theorem turn_passCommit {passId : PassId} {pass : Pass} {target : BookingId}
    {transaction : Transaction} {published : List Event} {pc : PassPc}
    (committed : passCommit state passId pass target transaction published pc = some next) :
    Turn deployment state next action id := by
  simp only [passCommit] at committed
  split at committed
  · cases committed
    exact turn_of_same rfl fun _ member => member
  · obtain ⟨runs, _, net, _⟩ := frame_commit committed
    exact turn_of_same runs fun msg member => by rwa [net] at member

theorem turn_stepPass {passId : PassId} {pass : Pass} {now : DateTime} {published : Bool}
    (stepped : stepPass state passId pass now published = some next) :
    Turn deployment state next action id := by
  simp only [stepPass] at stepped
  split at stepped
  case h_2 | h_4 | h_8 => exact turn_passCommit stepped
  all_goals
    cases stepped
    exact turn_of_same rfl fun _ member => member

theorem step_turn (stepped : step deployment state action = some next) (id : BookingId) :
    Turn deployment state next action id := by
  cases action with
  | createBooking vm target request =>
      simp only [step] at stepped
      split at stepped
      · cases stepped
      · rename_i fresh
        cases stepped
        by_cases own : target = id
        · subst own
          exact .began vm _ fresh (Function.update_self ..) fun msg member _ => .inl member
        · exact .kept (Function.update_of_ne (Ne.symm own) _ _) fun msg member _ => .inl member
  | advance target answer =>
      simp only [step] at stepped
      split at stepped
      · cases stepped
      · refine turn_advanceRun stepped rfl (fun _ member => member) ?_
        rintro run rfl _
        exact .inl rfl
  | crash target =>
      simp only [step] at stepped
      split at stepped
      · cases stepped
      · rename_i run found
        split at stepped
        · cases stepped
        · cases stepped
          by_cases own : target = id
          · subst own
            exact .crashed run found (Function.update_self ..) fun msg member _ => .inl member
          · exact .kept (Function.update_of_ne (Ne.symm own) _ _) fun msg member _ => .inl member
  | serve msg accepted =>
      simp only [step] at stepped
      split at stepped
      · rename_i sent
        exact turn_serve sent stepped
      · cases stepped
  | deliver msg =>
      simp only [step] at stepped
      split at stepped
      · rename_i sent
        exact turn_deliver sent stepped
      · cases stepped
  | lose msg =>
      cases stepped
      exact turn_of_same rfl fun other => List.mem_of_mem_erase
  | cancelBooking vm target driverId published =>
      simp only [step, cancelBooking] at stepped
      split at stepped
      · cases stepped
      · split at stepped
        · cases stepped
        · split at stepped
          · cases stepped
            exact turn_of_same rfl fun _ member => member
          · obtain ⟨runs, _, net, _⟩ := frame_commit stepped
            exact turn_of_same runs fun msg member => by rwa [net] at member
  | startPass passId vm =>
      simp only [step] at stepped
      split at stepped
      · cases stepped
      · cases stepped
        exact turn_of_same rfl fun _ member => member
  | stepPass passId now published =>
      obtain ⟨pass, _, stepped⟩ := Option.bind_eq_some_iff.mp stepped
      exact turn_stepPass stepped
  | endPass passId =>
      cases stepped
      exact turn_of_same rfl fun _ member => member

end

/-! ### A saga that raises, and how its calls end -/

def Answer.isUnavailable : Answer → Bool
  | .unavailable => true
  | _ => false

def CreatePc.compensated : CreatePc → Bool
  | .publishFailed | .reject | .raised => true
  | _ => false

def raisesInSaga (id : BookingId) (state : State) : Action → Bool
  | .advance target answer => target ≠ id || (state.runs id).all fun run =>
      match run.pc with
      | .finalCommit | .refresh => Answer.isOk answer
      | _ => true
  | _ => true

def rollsBack (id : BookingId) (state : State) : Action → Bool
  | .advance target answer => target ≠ id || (state.runs id).all fun run =>
      match run.pc with
      | .rollback => Answer.isOk answer
      | _ => true
  | _ => true

def reachesPeer (deployment : Deployment) (id : BookingId) (state : State) : Action → Bool
  | .advance target answer => target ≠ id || (state.runs id).all fun run =>
      match run.pc with
      | .compensate [] => !run.releasesPeer deployment || Answer.isOk answer
      | .peerReleaseWait => false
      | _ => true
  | .serve (.release _ target) accepted => target ≠ id || accepted
  | _ => true

/-- No `_peer_reserve` ends in `RegionUnavailableError`, and the peer carries out no reservation
that its caller has given up on once it has released the booking. -/
def callsAnswered (deployment : Deployment) (id : BookingId) (state : State) : Action → Bool
  | .advance target answer => target ≠ id || !Answer.isUnavailable answer ||
      (state.runs id).all fun run =>
        match run.pc with
        | .reserve (segment :: _) => deployment.isLocal run.vm segment.region
        | .peerWait _ _ => false
        | _ => true
  | .serve (.reserve _ target _ _) accepted => target ≠ id || !accepted ||
      (state.runs id).all fun run =>
        !run.peerReserved || !(CreatePc.compensated run.pc || .released id ∈ state.net)
  | _ => true

structure Heeds (deployment : Deployment) (run : CreateRun) (answer : Answer) : Prop where
  saga : run.pc = .finalCommit ∨ run.pc = .refresh → answer = .ok
  rollback : run.pc = .rollback → answer = .ok
  release : run.pc = .compensate [] → run.releasesPeer deployment = true → answer = .ok
  reserve : ∀ segment todo, run.pc = .reserve (segment :: todo) →
    deployment.isLocal run.vm segment.region = false → Answer.isUnavailable answer = false
  wait : ∀ segment todo, run.pc = .peerWait segment todo → Answer.isUnavailable answer = false

def CreatePc.late : CreatePc → Bool
  | .peerReleaseWait | .publishFailed | .reject | .raised | .crashed => true
  | _ => false

section

variable {deployment : Deployment} {run : CreateRun} {answer : Answer} {outcome : Outcome}
  {id : BookingId}

theorem advance_available (moved : advance deployment id run answer = some outcome)
    (heeds : Heeds deployment run answer) (available : run.regionUnavailable = false) :
    outcome.run.regionUnavailable = false := by
  obtain ⟨_, _, _, reserve, wait⟩ := heeds
  revert moved
  fun_cases advance deployment id run answer
  all_goals
    intro moved
    cases moved
  all_goals
    simp_all [Answer.isUnavailable]

theorem advance_late (moved : advance deployment id run answer = some outcome)
    (late : CreatePc.late run.pc = true) :
    CreatePc.late outcome.run.pc = true ∧ outcome.run.peerReserved = run.peerReserved := by
  revert moved
  fun_cases advance deployment id run answer
  all_goals
    intro moved
    cases moved
  all_goals
    simp_all [CreatePc.late]

theorem advance_reserves (moved : advance deployment id run answer = some outcome)
    (reserved : outcome.run.peerReserved = true) :
    run.peerReserved = true ∨ ∃ segment todo, run.pc = .peerWait segment todo := by
  revert moved
  fun_cases advance deployment id run answer
  all_goals
    intro moved
    cases moved
  all_goals
    simp_all

theorem advance_waits (moved : advance deployment id run answer = some outcome)
    {segment : RouteSegment} {todo : List RouteSegment}
    (waits : outcome.run.pc = .peerWait segment todo) :
    deployment.peerConfigured run.vm = true := by
  revert moved
  fun_cases advance deployment id run answer
  all_goals
    intro moved
    cases moved
  all_goals
    simp_all [Deployment.isLocal]

theorem advance_starts (moved : advance deployment id run answer = some outcome)
    (starts : outcome.run.pc = .flush ∨ outcome.run.pc = .resolve) :
    run.pc = .flush ∧ outcome.run.peerReserved = run.peerReserved := by
  revert moved
  fun_cases advance deployment id run answer
  all_goals
    intro moved
    cases moved
  all_goals
    simp_all

theorem advance_asksRelease {target : Vm} (moved : advance deployment id run answer = some outcome)
    (sent : .release target id ∈ outcome.sent) :
    CreatePc.late outcome.run.pc = true ∧ outcome.run.peerReserved = true := by
  revert moved
  fun_cases advance deployment id run answer
  all_goals
    intro moved
    cases moved
  all_goals
    simp_all [CreatePc.late, CreateRun.releasesPeer]

/-- Into the rest of the handler: from before the first reservation, or by way of the peer. -/
theorem advance_compensated (moved : advance deployment id run answer = some outcome)
    (heeds : Heeds deployment run answer) (compensated : CreatePc.compensated outcome.run.pc = true) :
    outcome.run.peerReserved = run.peerReserved ∧
      (CreatePc.compensated run.pc = true ∨ run.pc = .peerReleaseWait ∨
        run.pc = .flush ∨ run.pc = .resolve ∨ run.releasesPeer deployment = false) := by
  obtain ⟨saga, rollback, release, _, _⟩ := heeds
  revert moved
  fun_cases advance deployment id run answer
  all_goals
    intro moved
    cases moved
  all_goals
    simp_all [CreatePc.compensated]

end

/-! ### The run -/

structure Releases (deployment : Deployment) (run : CreateRun) (id : BookingId) (net : List Msg)
    (rows : BookingRows) : Prop where
  available : run.regionUnavailable = false
  unreserved : run.pc = .flush ∨ run.pc = .resolve → run.peerReserved = false
  waiting : ∀ segment todo, run.pc = .peerWait segment todo →
    deployment.peerConfigured run.vm = true
  configured : run.peerReserved = true → deployment.peerConfigured run.vm = true
  asked : ∀ target, .release target id ∈ net →
    CreatePc.late run.pc = true ∧ run.peerReserved = true
  answered : .released id ∈ net →
    CreatePc.late run.pc = true ∧ run.peerReserved = true ∧ rows.inactive
  settled : CreatePc.compensated run.pc = true → run.peerReserved = true → rows.inactive

structure ReleaseInv (deployment : Deployment) (id : BookingId) (state : State) : Prop where
  inv : Inv deployment state
  unborn : state.runs id = none → .released id ∉ state.net
  run : ∀ run, state.runs id = some run →
    Releases deployment run id state.net (state.rows run.vm.peer id)

structure Compensable (deployment : Deployment) (id : BookingId) (state : State)
    (action : Action) : Prop where
  raises : raisesInSaga id state action = true
  rolls : rollsBack id state action = true
  reaches : reachesPeer deployment id state action = true
  answered : callsAnswered deployment id state action = true

section

variable {deployment : Deployment} {state next : State} {action : Action} {id : BookingId}
  {run : CreateRun} {answer : Answer} {outcome : Outcome}

theorem Compensable.heeds {source : Action} (compensable : Compensable deployment id state source)
    (found : state.runs id = some run)
    (own : source = .advance id answer ∨
      ∃ msg ∈ state.net, source = .deliver msg ∧ Replies id msg answer run.pc) :
    Heeds deployment run answer := by
  rcases own with rfl | ⟨msg, _, rfl, replies⟩
  · obtain ⟨raises, rolls, reaches, answered⟩ := compensable
    simp only [raisesInSaga, found, ne_eq, not_true_eq_false, decide_false, Bool.false_or,
      Option.all_some] at raises
    simp only [rollsBack, found, ne_eq, not_true_eq_false, decide_false, Bool.false_or,
      Option.all_some] at rolls
    simp only [reachesPeer, found, ne_eq, not_true_eq_false, decide_false, Bool.false_or,
      Option.all_some] at reaches
    simp only [callsAnswered, found, ne_eq, not_true_eq_false, decide_false, Bool.false_or,
      Option.all_some] at answered
    constructor
    · intro here
      cases answer <;> rcases here with here | here <;> simp_all [Answer.isOk]
    · intro here
      cases answer <;> simp_all [Answer.isOk]
    · intro here releases
      cases answer <;> simp_all [Answer.isOk]
    · intro segment todo here away
      simpa [here, away] using answered
    · intro segment todo here
      simpa [here] using answered
  · generalize pc : run.pc = at_ at replies
    cases replies with
    | reserved stored segment todo =>
        constructor <;> simp [pc, Answer.isUnavailable]
    | released =>
        constructor <;> simp [pc]

/-- Nothing but a reservation makes a row of the peer active. -/
theorem inactive_step (inv : Inv deployment state) (found : state.runs id = some run)
    (stepped : step deployment state action = some next)
    (refused : ∀ target driverId segment, action ≠ .serve (.reserve target id driverId segment) true)
    (inactive : (state.rows run.vm.peer id).inactive) :
    (next.rows run.vm.peer id).inactive := by
  intro schema row member
  cases step_effect stepped id with
  | unchanged runs rows => exact inactive schema row (by rwa [rows] at member)
  | begun vm draft isBegin fresh runs rows => exact inactive schema row (by rwa [rows] at member)
  | crashed before isCrash known running runs rows =>
      exact inactive schema row (by rwa [rows] at member)
  | advanced before answer outcome source known moved runs rows =>
      cases known.symm.trans found
      rw [rows, (advance_keeps moved).1, if_neg (Vm.peer_ne run.vm)] at member
      exact inactive schema row member
  | external vm transaction source runs rows =>
      rw [rows] at member
      split at member
      · rcases inv.external source with updates | ⟨_, driverId, segment, _, _, rfl⟩
        · by_contra active
          have old := Transaction.active_onRows updates member (by simpa using active)
          exact active (inactive schema row old)
        · cases source with
          | serveReserve target id driverId segment sent => exact absurd rfl (refused _ _ _)
      · exact inactive schema row member

theorem inactive_peerRelease {target : Vm}
    (stepped : step deployment state (.serve (.release target id) true) = some next) :
    (next.rows target id).inactive := by
  simp only [step] at stepped
  split at stepped
  · simp only [serve, if_true] at stepped
    intro schema row member
    rw [rows_commit stepped, if_pos ⟨rfl, rfl⟩] at member
    exact inactive_cancelAll member
  · cases stepped

end

section

variable {deployment : Deployment} {state next : State} {action : Action} {id : BookingId}
  {run : CreateRun}

theorem Compensable.refuses (compensable : Compensable deployment id state action)
    (found : state.runs id = some run) (reserved : run.peerReserved = true)
    (through : CreatePc.compensated run.pc = true ∨ .released id ∈ state.net) (target : Vm)
    (driverId : DriverId) (segment : RouteSegment) :
    action ≠ .serve (.reserve target id driverId segment) true := by
  rintro rfl
  have answered := compensable.answered
  simp [callsAnswered, found, reserved] at answered
  rcases through with compensated | released
  · exact Bool.false_ne_true (answered.1.symm.trans compensated)
  · exact answered.2 released

theorem ReleaseInv.release_known (release : ReleaseInv deployment id state) {target : Vm}
    (asked : .release target id ∈ state.net) :
    ∃ run, state.runs id = some run ∧ target = run.vm.peer := by
  obtain ⟨run, found, same, _⟩ := release.inv.addressed _ target asked rfl
  exact ⟨run, found, same⟩

theorem replyTo_eq_released {ask : Msg} {accepted : Bool} (replied : .released id = replyTo ask accepted) :
    ask = .released id ∨ ∃ target, ask = .release target id := by
  cases ask with
  | reserve target other driverId segment => cases replied
  | reserved other stored => cases replied
  | release target other =>
      cases replied
      exact .inr ⟨target, rfl⟩
  | released other =>
      cases replied
      exact .inl rfl

theorem replyTo_eq_release {ask : Msg} {accepted : Bool} {target : Vm}
    (replied : .release target id = replyTo ask accepted) : ask = .release target id := by
  cases ask <;> simp_all [replyTo]

/-- Once the handler is through, or its release is answered, the peer's rows stay inactive. -/
theorem ReleaseInv.stays_inactive (release : ReleaseInv deployment id state)
    (compensable : Compensable deployment id state action)
    (stepped : step deployment state action = some next) (found : state.runs id = some run)
    (reserved : run.peerReserved = true)
    (through : CreatePc.compensated run.pc = true ∨ .released id ∈ state.net)
    (inactive : (state.rows run.vm.peer id).inactive) : (next.rows run.vm.peer id).inactive :=
  inactive_step release.inv found stepped (compensable.refuses found reserved through) inactive

/-- The awaits of the run itself. -/
theorem Releases.moved {answer : Answer} {outcome : Outcome}
    (release : ReleaseInv deployment id state) (compensable : Compensable deployment id state action)
    (stepped : step deployment state action = some next)
    (source : action = .advance id answer ∨
      ∃ msg ∈ state.net, action = .deliver msg ∧ Replies id msg answer run.pc)
    (found : state.runs id = some run) (moves : advance deployment id run answer = some outcome)
    (net : NewMessages state next id fun msg => msg ∈ outcome.sent) :
    Releases deployment outcome.run id next.net (next.rows outcome.run.vm.peer id) := by
  have before := release.run run found
  have heeds := compensable.heeds found source
  have kept := release.stays_inactive compensable stepped found
  rw [(advance_keeps moves).1]
  constructor
  · exact advance_available moves heeds before.available
  · intro starts
    obtain ⟨flushing, same⟩ := advance_starts moves starts
    rw [same]
    exact before.unreserved (.inl flushing)
  · intro segment todo waits
    rw [(advance_keeps moves).1]
    exact advance_waits moves waits
  · intro reserved
    rw [(advance_keeps moves).1]
    rcases advance_reserves moves reserved with earlier | ⟨segment, todo, waits⟩
    · exact before.configured earlier
    · exact before.waiting segment todo waits
  · intro target member
    rcases net _ member rfl with old | new
    · obtain ⟨late, reserved⟩ := before.asked target old
      obtain ⟨still, same⟩ := advance_late moves late
      exact ⟨still, same.trans reserved⟩
    · exact advance_asksRelease moves new
  · intro member
    rcases net _ member rfl with old | new
    · obtain ⟨late, reserved, inactive⟩ := before.answered old
      obtain ⟨still, same⟩ := advance_late moves late
      exact ⟨still, same.trans reserved, kept reserved (.inr old) inactive⟩
    · obtain ⟨_, _, asks⟩ := advance_sent moves new
      cases asks
  · intro compensated reserved
    obtain ⟨same, earlier | waits | flushing | resolving | unreleased⟩ :=
      advance_compensated moves heeds compensated
    · have peer := same.symm.trans reserved
      exact kept peer (.inl earlier) (before.settled earlier peer)
    · rcases source with rfl | ⟨msg, sent, rfl, replies⟩
      · have reaches := compensable.reaches
        simp [reachesPeer, found, waits] at reaches
      · rw [waits] at replies
        cases replies
        obtain ⟨_, peer, inactive⟩ := before.answered sent
        exact kept peer (.inr sent) inactive
    · have none := before.unreserved (.inl flushing)
      rw [same, none] at reserved
      cases reserved
    · have none := before.unreserved (.inr resolving)
      rw [same, none] at reserved
      cases reserved
    · have peer := same.symm.trans reserved
      simp [CreateRun.releasesPeer, peer, before.configured peer, before.available] at unreleased

theorem Releases.began {vm : Vm} {draft : BookingDraft} (release : ReleaseInv deployment id state)
    (fresh : state.runs id = none) (net : NewMessages state next id fun _ => False)
    (rows : BookingRows) :
    Releases deployment (.start vm draft) id next.net rows := by
  refine ⟨rfl, fun _ => rfl, ?_, ?_, ?_, ?_, ?_⟩
  · intro segment todo waits
    cases waits
  · intro reserved
    cases reserved
  · intro target member
    rcases net _ member rfl with old | new
    · obtain ⟨run, found, _⟩ := release.release_known old
      cases fresh.symm.trans found
    · exact new.elim
  · intro member
    rcases net _ member rfl with old | new
    · exact (release.unborn fresh old).elim
    · exact new.elim
  · intro compensated
    cases compensated

theorem Releases.crashed (release : ReleaseInv deployment id state)
    (compensable : Compensable deployment id state action)
    (stepped : step deployment state action = some next) (found : state.runs id = some run)
    (net : NewMessages state next id fun _ => False) :
    Releases deployment { run with pc := .crashed } id next.net (next.rows run.vm.peer id) := by
  have before := release.run run found
  refine ⟨before.available, ?_, ?_, before.configured, ?_, ?_, ?_⟩
  · rintro (starts | starts) <;> cases starts
  · intro segment todo waits
    cases waits
  · intro target member
    rcases net _ member rfl with old | new
    · exact ⟨rfl, (before.asked target old).2⟩
    · exact new.elim
  · intro member
    rcases net _ member rfl with old | new
    · obtain ⟨_, reserved, inactive⟩ := before.answered old
      exact ⟨rfl, reserved,
        release.stays_inactive compensable stepped found reserved (.inr old) inactive⟩
    · exact new.elim
  · intro compensated
    cases compensated

/-- The peer serves a request, or the step is about something else. -/
theorem Releases.kept (release : ReleaseInv deployment id state)
    (compensable : Compensable deployment id state action)
    (stepped : step deployment state action = some next) (found : state.runs id = some run)
    (net : NewMessages state next id fun msg => ∃ ask ∈ state.net, ∃ accepted,
      action = .serve ask accepted ∧ msg = replyTo ask accepted) :
    Releases deployment run id next.net (next.rows run.vm.peer id) := by
  have before := release.run run found
  have kept := release.stays_inactive compensable stepped found
  refine ⟨before.available, before.unreserved, before.waiting, before.configured, ?_, ?_, ?_⟩
  · intro target member
    rcases net _ member rfl with old | ⟨ask, sent, accepted, _, replied⟩
    · exact before.asked target old
    · rw [replyTo_eq_release replied] at sent
      exact before.asked target sent
  · intro member
    have earlier (old : .released id ∈ state.net) : CreatePc.late run.pc = true ∧
        run.peerReserved = true ∧ (next.rows run.vm.peer id).inactive := by
      obtain ⟨late, reserved, inactive⟩ := before.answered old
      exact ⟨late, reserved, kept reserved (.inr old) inactive⟩
    rcases net _ member rfl with old | ⟨ask, sent, accepted, rfl, replied⟩
    · exact earlier old
    · rcases replyTo_eq_released replied with rfl | ⟨target, rfl⟩
      · exact earlier sent
      · obtain ⟨late, reserved⟩ := before.asked target sent
        have carried : accepted = true := by
          simpa [reachesPeer] using compensable.reaches
        subst carried
        obtain ⟨other, same, rfl⟩ := release.release_known sent
        cases found.symm.trans same
        exact ⟨late, reserved, inactive_peerRelease stepped⟩
  · intro compensated reserved
    exact kept reserved (.inl compensated) (before.settled compensated reserved)

theorem ReleaseInv.unborn_next (release : ReleaseInv deployment id state)
    (stepped : step deployment state action = some next) (none : next.runs id = none) :
    .released id ∉ next.net := by
  intro member
  cases step_turn stepped id with
  | moved run answer outcome source found moves runs net => cases none.symm.trans runs
  | began vm draft fresh runs net => cases none.symm.trans runs
  | crashed run found runs net => cases none.symm.trans runs
  | kept runs net =>
      have unborn := runs.symm.trans none
      rcases net _ member rfl with old | ⟨ask, sent, accepted, _, replied⟩
      · exact release.unborn unborn old
      · rcases replyTo_eq_released replied with rfl | ⟨target, rfl⟩
        · exact release.unborn unborn sent
        · obtain ⟨run, found, _⟩ := release.release_known sent
          cases unborn.symm.trans found

theorem ReleaseInv.step (release : ReleaseInv deployment id state)
    (compensable : Compensable deployment id state action)
    (stepped : step deployment state action = some next) : ReleaseInv deployment id next := by
  refine ⟨release.inv.step stepped, release.unborn_next stepped, ?_⟩
  intro after known
  cases step_turn stepped id with
  | moved run answer outcome source found moves runs net =>
      cases runs.symm.trans known
      exact .moved release compensable stepped source found moves net
  | began vm draft fresh runs net =>
      cases runs.symm.trans known
      exact .began release fresh net _
  | crashed run found runs net =>
      cases runs.symm.trans known
      exact .crashed release compensable stepped found net
  | kept runs net => exact .kept release compensable stepped (runs.symm.trans known) net

end

/-! ### Sagas that raise -/

end TrafficService.Cluster
