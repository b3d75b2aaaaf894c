import TrafficService.Registration

/-!
Whether every user who has registered is known on both VMs once the queue is drained. The two
consumers share the queue, so each message reaches one of them only.
-/

namespace TrafficService.Auth

def Drained (state : State) : Prop :=
  ∀ message ∈ state.messages, ∃ vm, message.delivery = .acked vm

structure Replicated (verify : String → String → Bool) (state : State) : Prop where
  present : ∀ user, Committed state user → ∀ vm,
    user ∈ (state.users vm).rows ∨ user ∈ (state.replica vm).rows
  logsIn : ∀ user, Committed state user → ∀ vm password,
    verify password user.passwordHash = true →
      authenticateUser verify state vm user.email password = some user

def Registration.abandoned (state : State) (registration : Registration) : Bool :=
  !registration.pc.running && !decide (Committed state registration.user)

/-- The message about a user goes to the other VM, where no other user has the email; no user
is stored while the other VM has one with the email; and no failure is reported of a user who
is stored. -/
def replicates (state : State) : Action → Bool
  | .ack id => (state.handlings id).all fun handling =>
      match handling.event with
      | .registered user => (state.registrations.find? user.id).all fun registration =>
          registration.abandoned state || handling.vm = registration.vm.peer
      | .registrationFailed _ _ => true
  | .insert id _ => (state.handlings id).all fun handling =>
      match handling.event with
      | .registered user => (state.registrations.find? user.id).all fun registration =>
          registration.abandoned state || (state.replica handling.vm).rows.all fun row =>
            row.email ≠ user.email || row.id = user.id
      | .registrationFailed _ _ => true
  | .commit id _ => (state.registrations.find? id).all fun registration =>
      ((state.users registration.vm.peer).findBy? registration.user.email).isNone
  | .compensate id reply => reply = .raise || (state.registrations.find? id).all fun registration =>
      !decide (Committed state registration.user)
  | _ => true

def Abandoned (state : State) (user : User) : Prop :=
  ∃ registration, state.registrations.find? user.id = some registration ∧
    registration.pc.running = false ∧ ¬ Committed state user

structure Replicating (state : State) : Prop where
  unfailed : ∀ user email, Committed state user →
    .registrationFailed user.id email ∉ state.messages.events
  apart : ∀ vm, ∀ user ∈ (state.users vm).rows, ∀ other ∈ (state.users vm.peer).rows,
    user.email ≠ other.email
  handled : ∀ id handling user, state.handlings id = some handling →
    handling.event = .registered user → handling.phase = .returned →
      user ∈ (state.replica handling.vm).rows ∨ Abandoned state user
  acked : ∀ user vm, ⟨.registered user, .acked vm⟩ ∈ state.messages →
    (user ∈ (state.replica vm).rows ∧ ∃ registration,
      state.registrations.find? user.id = some registration ∧ vm = registration.vm.peer) ∨
        Abandoned state user

section

variable {state next : State} {action : Action} {user : User}

theorem committed_iff : Committed state user ↔ ∃ vm, user ∈ (state.users vm).rows := by
  constructor
  · rintro (first | second)
    · exact ⟨.vm1, first⟩
    · exact ⟨.vm2, second⟩
  · rintro ⟨vm, member⟩
    cases vm with
    | vm1 => exact .inl member
    | vm2 => exact .inr member

theorem committed_moved (moved : Moved state action next) (committed : Committed next user) :
    Committed state user ∨ ∃ id reply registration, action = .commit id reply ∧
      state.registrations.find? id = some registration ∧ registration.user = user ∧
        registration.pc = .committing := by
  obtain ⟨vm, member⟩ := committed_iff.mp committed
  rcases users_of_moved moved member with old |
      ⟨id, reply, registration, same, found, mine, _, here, _⟩
  · exact .inl (committed_iff.mpr ⟨vm, old⟩)
  · exact .inr ⟨id, reply, registration, same, found, mine, here⟩

theorem Abandoned.moved (moved : Moved state action next)
    (abandoned : Abandoned state user) : Abandoned next user := by
  obtain ⟨registration, found, stopped, missing⟩ := abandoned
  obtain ⟨after, present, continues⟩ := registrations_kept moved found
  refine ⟨after, present, by rw [continues.ended stopped, stopped], ?_⟩
  intro committed
  rcases committed_moved moved committed with old | ⟨id, _, other, _, known, rfl, here⟩
  · exact missing old
  · rw [id_of_registration known, known, Option.some.injEq] at found
    simp [← found, here, Pc.running] at stopped

/-- A row that goes is one whose registration has been reported as failed. -/
theorem replica_kept (moved : Moved state action next) {vm : Vm}
    (member : user ∈ (state.replica vm).rows) : user ∈ (next.replica vm).rows ∨
      ∃ id handling email, state.handlings id = some handling ∧
        handling.event = .registrationFailed user.id email := by
  cases moved with
  | inserted id handling other reply found event =>
      left
      by_cases here : vm = handling.vm
      · subst here
        simp only [setHandling, setReplica, Function.update_self,
          IndexedTable.mem_insertOrIgnore]
        exact .inl member
      · simpa only [setHandling, setReplica, Function.update_of_ne here] using member
  | deleted id handling userId email reply found event =>
      by_cases mine : user.id = userId
      · subst mine
        exact .inr ⟨id, handling, email, found, event⟩
      · left
        by_cases here : vm = handling.vm
        · subst here
          simp only [setHandling, setReplica, Function.update_self, IndexedTable.mem_delete]
          exact ⟨member, mine⟩
        · simpa only [setHandling, setReplica, Function.update_of_ne here] using member
  | ticked | started | moved | published | committed | delivered | requeued | selected | absent
  | faulted | acknowledged | dropped => exact .inl member

end

namespace Replicating

variable {state next : State} {action : Action} {user : User}

theorem abandoned_of_failed (replicating : Replicating state) (traced : Traced state) {email : Email}
    (failed : .registrationFailed user.id email ∈ state.messages.events) : Abandoned state user := by
  obtain ⟨registration, found, stopped⟩ := traced.failed user.id email failed
  exact ⟨registration, found, stopped, fun committed => replicating.unfailed user email committed failed⟩

theorem present_moved (replicating : Replicating state) (traced : Traced state)
    (moved : Moved state action next) {vm : Vm}
    (present : user ∈ (state.replica vm).rows ∨ Abandoned state user) :
    user ∈ (next.replica vm).rows ∨ Abandoned next user := by
  rcases present with member | abandoned
  · rcases replica_kept moved member with kept | ⟨id, handling, email, found, event⟩
    · exact .inl kept
    · have failed := traced.received id handling found
      rw [event] at failed
      exact .inr ((replicating.abandoned_of_failed traced failed).moved moved)
  · exact .inr (abandoned.moved moved)

theorem unfailed_moved (replicating : Replicating state) (traced : Traced state)
    (allowed : replicates state action = true) (moved : Moved state action next) {email : Email}
    (committed : Committed next user) :
    .registrationFailed user.id email ∉ next.messages.events := by
  have old (failed : .registrationFailed user.id email ∈ state.messages.events) : False := by
    rcases committed_moved moved committed with known | ⟨id, _, registration, _, found, rfl, here⟩
    · exact replicating.unfailed user email known failed
    · obtain ⟨other, present, stopped⟩ := traced.failed _ email failed
      rw [id_of_registration found, found, Option.some.injEq] at present
      simp [← present, here, Pc.running] at stopped
  intro failed
  rcases events_of_moved moved with same |
      ⟨id, registration, event, pc, found, publication, _, grown⟩
  · exact old (same ▸ failed)
  · rw [grown, List.mem_append, List.mem_singleton] at failed
    rcases failed with known | new
    · exact old known
    · cases publication with
      | registered => cases new
      | failed reply applied here =>
          rcases committed_moved moved committed with known | ⟨_, _, _, same, _⟩
          · have mine : user = registration.user := by
              obtain ⟨vm, member⟩ := committed_iff.mp known
              obtain ⟨other, present, same, _⟩ := traced.stored vm user member
              rw [(ReplicationEvent.registrationFailed.inj new).1, id_of_registration found,
                found, Option.some.injEq] at present
              rw [← same, present]
            simp [replicates, applied, found, ← mine, known] at allowed
          · cases same

theorem apart_moved (replicating : Replicating state) (allowed : replicates state action = true)
    (moved : Moved state action next) {vm : Vm} {other : User}
    (member : user ∈ (next.users vm).rows) (peer : other ∈ (next.users vm.peer).rows) :
    user.email ≠ other.email := by
  rcases users_of_moved moved member with old |
      ⟨id, reply, registration, rfl, found, rfl, rfl, _, _, _⟩
  · rcases users_of_moved moved peer with known |
        ⟨id, reply, registration, rfl, found, rfl, home, _, _, _⟩
    · exact replicating.apart vm user old other known
    · have back : registration.vm.peer = vm := by rw [home]; cases vm <;> rfl
      simp only [replicates, found, Option.all_some, back, Option.isNone_iff_eq_none] at allowed
      exact IndexedTable.findBy?_eq_none allowed old
  · rcases users_of_moved moved peer with known | ⟨_, _, second, same, present, _, home, _, _, _⟩
    · simp only [replicates, found, Option.all_some, Option.isNone_iff_eq_none] at allowed
      exact (IndexedTable.findBy?_eq_none allowed known).symm
    · cases same
      rw [found, Option.some.injEq] at present
      exact (Vm.peer_ne registration.vm (by rw [← home, present])).elim

theorem inserted_row (traced : Traced state) {id : HandlingId} {reply : Reply} {handling : Handling}
    (allowed : replicates state (.insert id reply) = true)
    (found : state.handlings id = some handling) (event : handling.event = .registered user) :
    user ∈ ((state.replica handling.vm).insertOrIgnore user).rows ∨ Abandoned state user := by
  have announced := traced.received id handling found
  rw [event] at announced
  obtain ⟨registration, known, rfl⟩ := traced.announced user announced
  simp only [replicates, found, Option.all_some, event, known, Bool.or_eq_true,
    Registration.abandoned, Bool.and_eq_true, Bool.not_eq_true', decide_eq_false_iff_not,
    List.all_eq_true, decide_eq_true_eq] at allowed
  rcases allowed with abandoned | alone
  · exact .inr ⟨registration, known, abandoned⟩
  · left
    rw [IndexedTable.mem_insertOrIgnore]
    cases taken : (state.replica handling.vm).conflicts registration.user with
    | false => exact .inr ⟨rfl, rfl⟩
    | true =>
        simp only [IndexedTable.conflicts, List.any_eq_true, Bool.or_eq_true,
          decide_eq_true_eq] at taken
        obtain ⟨row, member, clash⟩ := taken
        have same : row.id = registration.user.id := by
          rcases clash with key | email
          · exact key
          · exact (alone row member).resolve_left (fun differ => differ email)
        obtain ⟨other, present, rfl⟩ := traced.announced row (traced.replicated _ row member)
        rw [same, known, Option.some.injEq] at present
        subst present
        exact .inl member

theorem handled_moved (replicating : Replicating state) (traced : Traced state)
    (allowed : faultless state action = true ∧ replicates state action = true)
    (moved : Moved state action next) {id : HandlingId} {handling : Handling}
    (present : next.handlings id = some handling) (event : handling.event = .registered user)
    (returned : handling.phase = .returned) :
    user ∈ (next.replica handling.vm).rows ∨ Abandoned next user := by
  have old (known : state.handlings id = some handling) :
      user ∈ (next.replica handling.vm).rows ∨ Abandoned next user :=
    replicating.present_moved traced moved
      (replicating.handled id handling user known event returned)
  have step := moved
  cases moved with
  | delivered message other vm taken messages new change =>
      rcases handlings_setHandling present with ⟨rfl, rfl⟩ | ⟨_, known⟩
      · cases returned
      · exact old known
  | inserted other mine stored reply found registered =>
      rcases handlings_setHandling present with ⟨rfl, rfl⟩ | ⟨_, known⟩
      · obtain rfl := ReplicationEvent.registered.inj (registered.symm.trans event)
        rcases inserted_row traced allowed.2 found registered with member | abandoned
        · left
          simpa [setHandling, setReplica] using member
        · exact .inr (abandoned.moved step)
      · exact old known
  | selected other mine found _ =>
      rcases handlings_setHandling present with ⟨rfl, rfl⟩ | ⟨_, known⟩
      · cases returned
      · exact old known
  | absent other mine userId email found failed _ =>
      rcases handlings_setHandling present with ⟨rfl, rfl⟩ | ⟨_, known⟩
      · cases failed.symm.trans event
      · exact old known
  | deleted other mine userId email reply found failed =>
      rcases handlings_setHandling present with ⟨rfl, rfl⟩ | ⟨_, known⟩
      · cases failed.symm.trans event
      · obtain ⟨before, earlier, rfl⟩ := Option.map_eq_some_iff.mp known
        have same := outdated_event mine.vm userId before
        rw [same.1] at event
        rw [same.2]
        have phase : before.phase = .returned := by
          rw [Handling.outdated] at returned
          split at returned
          · cases returned
          · exact returned
        exact replicating.present_moved traced step
          (replicating.handled id before user earlier event phase)
  | faulted _ other mine found fault => cases fault.symm.trans allowed.1
  | dropped other mine found =>
      rcases handlings_setHandling present with ⟨rfl, rfl⟩ | ⟨_, known⟩
      · cases returned
      · exact old known
  | ticked | started | moved | published | committed | requeued | acknowledged => exact old present

theorem acked_moved (replicating : Replicating state) (traced : Traced state)
    (allowed : replicates state action = true) (moved : Moved state action next) {vm : Vm}
    (acked : ⟨.registered user, .acked vm⟩ ∈ next.messages) :
    (user ∈ (next.replica vm).rows ∧ ∃ registration,
      next.registrations.find? user.id = some registration ∧ vm = registration.vm.peer) ∨
        Abandoned next user := by
  have kept (reached : (user ∈ (state.replica vm).rows ∧ ∃ registration,
      state.registrations.find? user.id = some registration ∧ vm = registration.vm.peer) ∨
        Abandoned state user) :
      (user ∈ (next.replica vm).rows ∧ ∃ registration,
        next.registrations.find? user.id = some registration ∧ vm = registration.vm.peer) ∨
          Abandoned next user := by
    rcases reached with ⟨member, registration, found, away⟩ | abandoned
    · obtain ⟨after, present, continues⟩ := registrations_kept moved found
      rcases replicating.present_moved traced moved (.inl member) with there | gone
      · exact .inl ⟨there, after, present, by rw [continues.vm, away]⟩
      · exact .inr gone
    · exact .inr (abandoned.moved moved)
  have old (known : ⟨.registered user, .acked vm⟩ ∈ state.messages) :=
    kept (replicating.acked user vm known)
  cases moved with
  | published =>
      rcases MessageQueue.mem_publish.mp acked with known | new
      · exact old known
      · exact nomatch new
  | delivered _ _ _ _ _ _ change | requeued _ _ _ _ change =>
      rcases change.members _ acked with known | now
      · exact old known
      · exact nomatch now
  | acknowledged id handling event messages found returned change =>
      rcases change.members _ acked with known | now
      · exact old known
      · cases now
        refine kept ?_
        obtain ⟨holding, holds, event⟩ := traced.current _ id change.source
        rw [found, Option.some.injEq] at holds
        subst holds
        have announced := traced.received id handling found
        rw [event] at announced
        obtain ⟨registration, known, rfl⟩ := traced.announced user announced
        simp only [replicates, found, Option.all_some, event, known, Bool.or_eq_true,
          Registration.abandoned, Bool.and_eq_true, Bool.not_eq_true', decide_eq_false_iff_not,
          decide_eq_true_eq] at allowed
        rcases allowed with abandoned | away
        · exact .inr ⟨registration, known, abandoned⟩
        · rcases replicating.handled id handling registration.user found event returned with
            member | abandoned
          · exact .inl ⟨member, registration, known, away⟩
          · exact .inr abandoned
  | ticked | started | moved | committed | inserted | selected | absent | deleted | faulted
  | dropped => exact old acked

theorem moved (replicating : Replicating state) (traced : Traced state)
    (allowed : faultless state action = true ∧ replicates state action = true)
    (moved : Moved state action next) : Replicating next where
  unfailed _ _ committed := replicating.unfailed_moved traced allowed.2 moved committed
  apart _ _ member _ peer := replicating.apart_moved allowed.2 moved member peer
  handled _ _ _ present event returned :=
    replicating.handled_moved traced allowed moved present event returned
  acked _ _ acked := replicating.acked_moved traced allowed.2 moved acked

theorem initial : Replicating .initial := by
  constructor <;> simp [State.initial, IndexedTable.empty, KeyedTable.empty, MessageQueue.events]

end Replicating

section

variable {lower : String → String} {verify : String → String → Bool} {actions : List Action}
  {state : State}

theorem replicating_of_run (executed : Lts.run (step lower) .initial actions = some state)
    (faults : Lts.Meets (step lower) (fun state action => faultless state action = true) .initial
      actions)
    (meets : Lts.Meets (step lower) (fun state action => replicates state action = true) .initial
      actions) : Replicating state :=
  invariant_of_run Replicating.initial
    (fun _ _ _ traced replicating allowed moved => replicating.moved traced allowed moved) executed
    (faults.and meets)

theorem present_everywhere (traced : Traced state) (replicating : Replicating state)
    (drained : Drained state) {user : User} (committed : Committed state user) (vm : Vm) :
    user ∈ (state.users vm).rows ∨ user ∈ (state.replica vm).rows := by
  obtain ⟨home, member⟩ := committed_iff.mp committed
  obtain ⟨registration, found, _, rfl, _⟩ := traced.stored home user member
  obtain ⟨delivery, queued⟩ := MessageQueue.mem_events.mp (traced.published _ user member)
  obtain ⟨place, acked⟩ := drained _ queued
  rcases Vm.eq_or_peer registration.vm vm with rfl | rfl
  · exact .inl member
  · right
    rw [show delivery = .acked place from acked] at queued
    rcases replicating.acked user place queued with ⟨there, other, known, rfl⟩ | ⟨_, _, _, missing⟩
    · rw [found, Option.some.injEq] at known
      rw [known]
      exact there
    · exact (missing committed).elim

/-- With no database errors, every user is known on both VMs once the queue is drained, if each
message about a user reaches the VM the user did not register on and finds the email free. -/
theorem replicated_of_replicates (executed : Lts.run (step lower) .initial actions = some state)
    (faults : Lts.Meets (step lower) (fun state action => faultless state action = true) .initial
      actions)
    (meets : Lts.Meets (step lower) (fun state action => replicates state action = true) .initial
      actions) (drained : Drained state) : Replicated verify state := by
  have traced := Traced.of_run executed
  have replicating := replicating_of_run executed faults meets
  have present (user : User) (committed : Committed state user) (vm : Vm) :=
    present_everywhere traced replicating drained committed vm
  refine ⟨present, ?_⟩
  intro user committed vm password verified
  have row : loginRow state vm user.email = some user := by
    rw [loginRow]
    rcases present user committed vm with member | replica
    · rw [IndexedTable.findBy?_of_mem member]
    · cases known : (state.users vm).findBy? user.email with
      | none => exact IndexedTable.findBy?_of_mem replica
      | some other =>
          obtain ⟨listed, same⟩ := IndexedTable.findBy?_eq_some known
          obtain ⟨home, member⟩ := committed_iff.mp committed
          rcases Vm.eq_or_peer home vm with rfl | rfl
          · exact congrArg some (IndexedTable.eq_of_column listed member same)
          · exact (replicating.apart home user member other listed same.symm).elim
  rw [authenticateUser, row, Option.filter_some, if_pos verified]

end

/-! ### One registration and the two consumers -/

def alice : User := ⟨0, "alice@example.com", "hash", "driver", none, none, 0⟩

def registering (vm : Vm) (user : User) : List Action :=
  [.register vm user, .claim user.id .ok, .lookup user.id .ok, .publish user.id .ok,
    .commit user.id .ok, .refresh user.id .ok]

def consuming (vm : Vm) : List Action := [.deliver 0 0 vm, .insert 0 .ok, .ack 0]

theorem replicated_peerConsumer :
    ∃ state, Lts.run (step id) .initial (registering .vm1 alice ++ consuming .vm2) = some state ∧
      Committed state alice ∧ Replicated (· = ·) state := by
  have observed : (Lts.run (step id) .initial (registering .vm1 alice ++ consuming .vm2)).map
      (fun state => ((state.users .vm1).rows, state.messages)) =
      some ([alice], [⟨.registered alice, .acked .vm2⟩]) := by decide +kernel
  obtain ⟨state, executed, outcome⟩ := Option.map_eq_some_iff.mp observed
  simp only [Prod.mk.injEq] at outcome
  obtain ⟨users, messages⟩ := outcome
  have faults : Lts.checks (step id) faultless .initial
      (registering .vm1 alice ++ consuming .vm2) = true := by decide +kernel
  have checked : Lts.checks (step id) replicates .initial
      (registering .vm1 alice ++ consuming .vm2) = true := by decide +kernel
  refine ⟨state, executed, .inl (by rw [users]; exact List.mem_singleton_self _), ?_⟩
  refine replicated_of_replicates executed (Lts.checks_iff_meets.mp faults)
    (Lts.checks_iff_meets.mp checked) ?_
  intro message member
  rw [messages, List.mem_singleton] at member
  exact ⟨.vm2, by rw [member]⟩

/-- The consumer of the VM the user registered on takes the message. -/
theorem unreplicated_ownConsumer :
    ¬ ∀ (lower : String → String) (verify : String → String → Bool) (actions : List Action)
      (state : State), Lts.run (step lower) .initial actions = some state →
        Lts.Meets (step lower) (fun state action => faultless state action = true) .initial
          actions → Drained state → Replicated verify state := by
  intro holds
  have observed : (Lts.run (step id) .initial (registering .vm1 alice ++ consuming .vm1)).map
      (fun state => ((state.users .vm1).rows, (state.users .vm2).rows ++ (state.replica .vm2).rows,
        state.messages)) =
      some ([alice], [], [⟨.registered alice, .acked .vm1⟩]) := by decide +kernel
  obtain ⟨state, executed, outcome⟩ := Option.map_eq_some_iff.mp observed
  simp only [Prod.mk.injEq, List.append_eq_nil_iff] at outcome
  obtain ⟨users, ⟨peers, replica⟩, messages⟩ := outcome
  have faults : Lts.checks (step id) faultless .initial
      (registering .vm1 alice ++ consuming .vm1) = true := by decide +kernel
  have drained : Drained state := by
    intro message member
    rw [messages, List.mem_singleton] at member
    exact ⟨.vm1, by rw [member]⟩
  have replicated := holds id (· = ·) _ state executed
    (Lts.checks_iff_meets.mp faults) drained
  have committed : Committed state alice := .inl (by rw [users]; exact List.mem_singleton_self _)
  rcases replicated.present alice committed .vm2 with local_ | mirrored
  · simp [peers] at local_
  · simp [replica] at mirrored

end TrafficService.Auth
