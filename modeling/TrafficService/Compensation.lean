import TrafficService.UserReplication

/-!
Whether a registration that failed leaves a replicated user behind. Its two messages are
handled concurrently and may be delivered again.
-/

namespace TrafficService.Auth

def HandledBy (vm : Vm) (state : State) : Prop :=
  ∀ message ∈ state.messages, message.delivery = .acked vm

def Concluded (state : State) : Prop :=
  ∀ user, .registered user ∈ state.messages.events →
    Committed state user ∨ ∃ email, .registrationFailed user.id email ∈ state.messages.events

/-- No one logs in with a replicated user that was never stored, and none blocks an email. -/
structure OnlyCommitted (verify : String → String → Bool) (vm : Vm) (state : State) : Prop where
  rows : ∀ row ∈ (state.replica vm).rows, Committed state row
  logins : ∀ email password user,
    authenticateUser verify state vm email password = some user → Committed state user
  blocks : ∀ email row, (state.replica vm).findBy? email = some row → Committed state row

def unresolved (state : State) (vm : Vm) : Delivery HandlingId Vm → Bool
  | .ready => true
  | .delivered holder => (state.handlings holder).all fun handling =>
      handling.vm ≠ vm || handling.phase ≠ .returned
  | .acked place => place ≠ vm

/-- A user that is not stored is inserted only while the failure of the registration, if it has
been reported, is still to be looked up. -/
def compensates (vm : Vm) (state : State) : Action → Bool
  | .insert id _ => (state.handlings id).all fun handling =>
      match handling.event with
      | .registered user => handling.vm ≠ vm || decide (Committed state user) ||
          (state.replica vm).conflicts user || state.messages.all fun message =>
            !message.event.failureOf user.id || unresolved state vm message.delivery
      | .registrationFailed _ _ => true
  | _ => true

def Pending (state : State) (vm : Vm) (id : UserId) : Prop :=
  ∀ message ∈ state.messages, message.event.failureOf id = true →
    unresolved state vm message.delivery = true

def Compensated (vm : Vm) (state : State) : Prop :=
  ∀ row ∈ (state.replica vm).rows, Committed state row ∨ Pending state vm row.id

section

variable {state next : State} {action : Action} {user : User} {vm : Vm}

theorem Committed.moved (committed : Committed state user) (moved : Moved state action next) :
    Committed next user := by
  obtain ⟨home, member⟩ := committed_iff.mp committed
  exact committed_iff.mpr ⟨home, users_kept moved member⟩

theorem unresolved_setHandling {id : HandlingId} {handling : Handling} {phase : Phase}
    {delivery : Delivery HandlingId Vm} (still : unresolved state vm delivery = true)
    (held : delivery = .delivered id → handling.vm ≠ vm ∨ phase ≠ .returned) :
    unresolved (setHandling state id handling phase) vm delivery = true := by
  cases delivery with
  | ready => rfl
  | acked place => exact still
  | delivered holder =>
      by_cases same : holder = id
      · subst same
        simpa [unresolved, setHandling] using held rfl
      · simpa [unresolved, setHandling, Function.update_of_ne same] using still

theorem outdated_returned (place : Vm) (userId : UserId) (handling : Handling) :
    (handling.outdated place userId).phase = .returned ↔ handling.phase = .returned := by
  rw [Handling.outdated]
  split
  · next here => simp [here.2.2]
  · exact Iff.rfl

theorem unresolved_outdated {place : Vm} {userId : UserId} {delivery : Delivery HandlingId Vm}
    (still : unresolved state vm delivery = true) :
    unresolved { state with
      handlings := fun other => (state.handlings other).map (·.outdated place userId) } vm
        delivery = true := by
  cases delivery with
  | ready => rfl
  | acked _ => exact still
  | delivered holder =>
      cases found : state.handlings holder with
      | none => simp [unresolved, found]
      | some handling =>
          simp only [unresolved, found, Option.all_some, Option.map_some, Bool.or_eq_true,
            decide_eq_true_eq, ne_eq, outdated_returned, (outdated_event _ _ _).2] at still ⊢
          exact still

theorem Pending.moved (pending : Pending state vm user.id) (traced : Traced state)
    (fault : faultless state action = true) (moved : Moved state action next)
    (member : user ∈ (next.replica vm).rows) : Pending next vm user.id := by
  intro message queued failure
  have held {id : HandlingId} {handling : Handling} (found : state.handlings id = some handling)
      (known : message ∈ state.messages) (holds : message.delivery = .delivered id) :
      handling.event = message.event := by
    obtain ⟨other, present, event⟩ := traced.current message.event id (by rw [← holds]; exact known)
    rw [found, Option.some.injEq] at present
    rw [present, event]
  cases moved with
  | ticked | started | moved | committed => exact pending message queued failure
  | published _ id registration event pc found publication =>
      rcases MessageQueue.mem_publish.mp queued with known | rfl
      · exact pending message known failure
      · rfl
  | delivered number id place event messages new change =>
      rcases change.members _ queued with known | rfl
      · refine unresolved_setHandling (pending message known failure) ?_
        intro holds
        obtain ⟨other, present, _⟩ := traced.current message.event id (by rw [← holds]; exact known)
        cases new.symm.trans present
      · simp [unresolved, setHandling]
  | requeued number event holder messages change =>
      rcases change.members _ queued with known | rfl
      · exact pending message known failure
      · rfl
  | acknowledged id handling event messages found returned change =>
      rcases change.members _ queued with known | rfl
      · exact pending message known failure
      · have before := pending _ change.source failure
        simpa [unresolved, found, returned] using before
  | inserted id handling other reply found event =>
      refine unresolved_setHandling (pending message queued failure) ?_
      intro holds
      rw [← held found queued holds, event] at failure
      cases failure
  | selected id handling found before =>
      exact unresolved_setHandling (pending message queued failure) fun _ => .inr (by decide)
  | dropped id handling found =>
      exact unresolved_setHandling (pending message queued failure) fun _ => .inr (by decide)
  | absent id handling userId email found event none =>
      refine unresolved_setHandling (pending message queued failure) ?_
      intro holds
      left
      rintro rfl
      rw [← held found queued holds, event, ReplicationEvent.failureOf_failed] at failure
      have missing := KeyedTable.find?_eq_none.mp none
      exact missing (List.mem_map.mpr ⟨user, member, failure.symm⟩)
  | deleted id handling userId email reply found event =>
      refine unresolved_setHandling (unresolved_outdated (pending message queued failure)) ?_
      intro holds
      left
      rintro rfl
      rw [← held found queued holds, event, ReplicationEvent.failureOf_failed] at failure
      simp only [setHandling, setReplica, Function.update_self, IndexedTable.mem_delete] at member
      exact member.2 failure.symm
  | faulted _ id handling found faulty => cases faulty.symm.trans fault

theorem Compensated.moved (compensated : Compensated vm state) (traced : Traced state)
    (allowed : faultless state action = true ∧ compensates vm state action = true)
    (moved : Moved state action next) : Compensated vm next := by
  intro row member
  have settled : Committed state row ∨ Pending state vm row.id := by
    rcases replica_of_moved moved member with old |
        ⟨id, reply, handling, rfl, found, event, rfl, free⟩
    · exact compensated row old
    · have permitted := allowed.2
      simp only [compensates, found, Option.all_some, event, ne_eq, not_true_eq_false,
        decide_false, Bool.false_or, free, Bool.or_false, Bool.or_eq_true, decide_eq_true_eq,
        List.all_eq_true, Bool.not_eq_true'] at permitted
      rcases permitted with committed | pending
      · exact .inl committed
      · right
        intro message queued failure
        exact (pending message queued).resolve_left (by simp [failure])
  rcases settled with committed | pending
  · exact .inl (committed.moved moved)
  · exact .inr (pending.moved traced allowed.1 moved member)

end

section

variable {lower : String → String} {verify : String → String → Bool} {actions : List Action}
  {state : State} {vm : Vm}

theorem compensated_of_run (executed : Lts.run (step lower) .initial actions = some state)
    (faults : Lts.Meets (step lower) (fun state action => faultless state action = true) .initial
      actions)
    (meets : Lts.Meets (step lower) (fun state action => compensates vm state action = true)
      .initial actions) : Compensated vm state := by
  have initial : Compensated vm .initial := fun _ member => nomatch member
  exact invariant_of_run initial
    (fun _ _ _ traced compensated allowed moved => compensated.moved traced allowed moved) executed
    (faults.and meets)

/-- Once a VM has handled every message without database errors, all its replicated users are
stored users, if none was inserted after the failure of its registration was looked up. -/
theorem onlyCommitted_of_compensates
    (executed : Lts.run (step lower) .initial actions = some state)
    (faults : Lts.Meets (step lower) (fun state action => faultless state action = true) .initial
      actions)
    (meets : Lts.Meets (step lower) (fun state action => compensates vm state action = true)
      .initial actions)
    (concluded : Concluded state) (handled : HandledBy vm state) :
    OnlyCommitted verify vm state := by
  have rows : ∀ row ∈ (state.replica vm).rows, Committed state row := by
    intro row member
    rcases compensated_of_run executed faults meets row member with committed | pending
    · exact committed
    · have announced := (Traced.of_run executed).replicated vm row member
      rcases concluded row announced with committed | ⟨email, failed⟩
      · exact committed
      · obtain ⟨delivery, queued⟩ := MessageQueue.mem_events.mp failed
        have waiting := pending _ queued (by simp)
        simp [show delivery = .acked vm from handled _ queued, unresolved] at waiting
  refine ⟨rows, ?_, ?_⟩
  · intro email password user accepted
    have found := (Option.filter_eq_some_iff.mp accepted).1
    simp only [loginRow] at found
    split at found
    · next other known =>
        cases found
        exact committed_iff.mpr ⟨vm, (IndexedTable.findBy?_eq_some known).1⟩
    · exact rows user (IndexedTable.findBy?_eq_some found).1
  · intro email row found
    exact rows row (IndexedTable.findBy?_eq_some found).1

end

/-! ### A registration whose commit fails -/

def failing (vm : Vm) (user : User) : List Action :=
  [.register vm user, .claim user.id .ok, .lookup user.id .ok, .publish user.id .ok,
    .commit user.id .raise, .unlock user.id .ok, .compensate user.id .ok]

def inOrder : List Action :=
  failing .vm1 alice ++ [.deliver 0 0 .vm2, .deliver 1 1 .vm2, .insert 0 .ok, .ack 0, .select 1 .ok,
    .delete 1 .ok, .ack 1]

def overtaken : List Action :=
  failing .vm1 alice ++ [.deliver 0 0 .vm2, .deliver 1 1 .vm2, .select 1 .ok, .insert 0 .ok, .ack 0,
    .ack 1]

def bothHandled : MessageQueue ReplicationEvent HandlingId Vm :=
  [⟨.registered alice, .acked .vm2⟩, ⟨.registrationFailed 0 alice.email, .acked .vm2⟩]

theorem handledBy_bothHandled {state : State} (messages : state.messages = bothHandled) :
    HandledBy .vm2 state ∧ Concluded state := by
  constructor
  · intro message member
    rw [messages] at member
    revert message
    decide
  · intro user announced
    rw [messages] at announced ⊢
    have known : user = alice := by
      simpa [bothHandled, MessageQueue.events] using announced
    subst known
    exact .inr ⟨alice.email, by decide⟩

theorem onlyCommitted_inOrder :
    ∃ state, Lts.run (step id) .initial inOrder = some state ∧
      OnlyCommitted (· = ·) .vm2 state := by
  have observed : (Lts.run (step id) .initial inOrder).map State.messages = some bothHandled := by
    decide +kernel
  obtain ⟨state, executed, messages⟩ := Option.map_eq_some_iff.mp observed
  have faults : Lts.checks (step id) faultless .initial inOrder = true := by decide +kernel
  have checked : Lts.checks (step id) (compensates .vm2) .initial inOrder = true := by
    decide +kernel
  obtain ⟨handled, concluded⟩ := handledBy_bothHandled messages
  exact ⟨state, executed, onlyCommitted_of_compensates executed
    (Lts.checks_iff_meets.mp faults)
    (Lts.checks_iff_meets.mp checked) concluded handled⟩

theorem leftBehind_overtaken :
    ¬ ∀ (lower : String → String) (verify : String → String → Bool) (vm : Vm)
      (actions : List Action) (state : State),
      Lts.run (step lower) .initial actions = some state →
        Lts.Meets (step lower) (fun state action => faultless state action = true) .initial
          actions → Concluded state → HandledBy vm state → OnlyCommitted verify vm state := by
  intro holds
  have observed : (Lts.run (step id) .initial overtaken).map (fun state =>
      (state.messages, (state.replica .vm2).rows,
        (state.users .vm1).rows ++ (state.users .vm2).rows)) =
      some (bothHandled, [alice], []) := by decide +kernel
  obtain ⟨state, executed, outcome⟩ := Option.map_eq_some_iff.mp observed
  simp only [Prod.mk.injEq, List.append_eq_nil_iff] at outcome
  obtain ⟨messages, replica, first, second⟩ := outcome
  have faults : Lts.checks (step id) faultless .initial overtaken = true := by decide +kernel
  obtain ⟨handled, concluded⟩ := handledBy_bothHandled messages
  have only := holds id (· = ·) .vm2 overtaken state executed
    (Lts.checks_iff_meets.mp faults) concluded handled
  have committed := only.rows alice (by rw [replica]; exact List.mem_singleton_self _)
  rcases committed with here | there
  · simp [first] at here
  · simp [second] at there

end TrafficService.Auth
