import TrafficService.CreateBooking
import TrafficService.Lib.Deliveries
import TrafficService.Lib.IndexedTable
import TrafficService.Lib.Leases
import TrafficService.Lib.Lts

/-!
Two auth services: the calls of `register_user`, the shared Redis and broker, and the consumers
that replicate users. Both services consume from the one queue `auth.user_replication`, which
exists before the first registration. Time is in seconds.
-/

namespace TrafficService.Auth

/-- Stands for the UUID a registration draws. -/
abbrev UserId := Nat
abbrev Email := String
abbrev HandlingId := Nat

structure User where
  id : UserId
  email : Email
  passwordHash : String
  role : String
  plateNumber : Option Plate
  region : Option String
  createdAt : DateTime
  deriving DecidableEq, Repr

/-- Both tables declare `email` unique. -/
abbrev UserTable := IndexedTable User.id User.email

inductive ReplicationEvent
  | registered (user : User)
  | registrationFailed (userId : UserId) (email : Email)
  deriving DecidableEq

def ReplicationEvent.failureOf (id : UserId) : ReplicationEvent → Bool
  | .registered _ => false
  | .registrationFailed userId _ => userId = id

@[simp] theorem ReplicationEvent.failureOf_failed {id userId : UserId} {email : Email} :
    (ReplicationEvent.registrationFailed userId email).failureOf id = true ↔ userId = id := by
  simp [ReplicationEvent.failureOf]

inductive Ending
  | returned
  | refused (detail : String)
  | raised
  | crashed
  deriving DecidableEq

inductive Pc
  | claiming
  | looking
  | releasing
  | publishing
  | committing
  | refreshing
  | unlocking
  | compensating
  | ended (ending : Ending)
  deriving DecidableEq

structure Registration where
  vm : Vm
  user : User
  pc : Pc
  deriving DecidableEq

abbrev Registration.id (registration : Registration) : UserId := registration.user.id

/-- How far a handler has come with a message. In `found` it has selected the row to delete;
in `stale` another transaction has deleted that row since. -/
inductive Phase
  | received
  | found
  | stale
  | returned
  | dropped
  deriving DecidableEq

structure Handling where
  message : Nat
  event : ReplicationEvent
  vm : Vm
  phase : Phase
  deriving DecidableEq

structure State where
  now : Nat
  emailKeys : Leases String Unit
  users : Vm → UserTable
  replica : Vm → UserTable
  registrations : KeyedTable UserId Registration Registration.id
  messages : MessageQueue ReplicationEvent HandlingId Vm
  handlings : HandlingId → Option Handling

def State.initial : State where
  now := 0
  emailKeys := fun _ => none
  users := fun _ => .empty
  replica := fun _ => .empty
  registrations := .empty
  messages := []
  handlings := fun _ => none

/-- What an awaited call does: `raiseApplied` takes effect and raises all the same. -/
inductive Reply
  | ok
  | raise
  | raiseApplied
  deriving DecidableEq

def Reply.apply {Value : Type} (reply : Reply) (before after : Value) : Value :=
  match reply with
  | .raise => before
  | .ok | .raiseApplied => after

/-- Where an exception that nothing catches leads. -/
def Reply.orRaise (reply : Reply) (pc : Pc) : Pc :=
  match reply with
  | .ok => pc
  | .raise | .raiseApplied => .ended .raised

inductive Action
  | tick (elapsed : Nat)
  | register (vm : Vm) (user : User)
  | claim (id : UserId) (reply : Reply)
  | lookup (id : UserId) (reply : Reply)
  | release (id : UserId) (reply : Reply)
  | publish (id : UserId) (reply : Reply)
  | commit (id : UserId) (reply : Reply)
  | refresh (id : UserId) (reply : Reply)
  | unlock (id : UserId) (reply : Reply)
  | compensate (id : UserId) (reply : Reply)
  | crash (id : UserId)
  | deliver (message : Nat) (handling : HandlingId) (vm : Vm)
  /-- The broker loses the consumer that holds the message. -/
  | requeue (message : Nat)
  | insert (handling : HandlingId) (reply : Reply)
  | select (handling : HandlingId) (reply : Reply)
  | delete (handling : HandlingId) (reply : Reply)
  | ack (handling : HandlingId)
  | drop (handling : HandlingId)
  deriving DecidableEq

def emailLockTtl : Nat := 86400

def goto (state : State) (id : UserId) (pc : Pc) : State :=
  { state with
    registrations := state.registrations.modify id (fun registration => { registration with pc })
      fun _ => rfl }

/-! ### `register_user` -/

section

variable (lower : String → String)

def Registration.emailKey (registration : Registration) : String := lower registration.user.email

def claimed (email : Email) : String := "Email " ++ email ++ " is already registered."

def replicated (email : Email) : String :=
  "Email " ++ email ++ " is already registered on another regional node."

def claim (state : State) (id : UserId) (registration : Registration) (reply : Reply) :
    Option State :=
  match registration.pc with
  | .claiming =>
      match state.emailKeys.setNx state.now emailLockTtl (registration.emailKey lower) () with
      | none =>
          some (goto state id
            (reply.orRaise (.ended (.refused (claimed registration.user.email)))))
      | some keys =>
          some (goto { state with emailKeys := reply.apply state.emailKeys keys } id
            (reply.orRaise .looking))
  | _ => none

def lookup (state : State) (id : UserId) (registration : Registration) (reply : Reply) :
    Option State :=
  match registration.pc with
  | .looking =>
      match (state.replica registration.vm).findBy? registration.user.email with
      | some _ => some (goto state id (reply.orRaise .releasing))
      | none => some (goto state id (reply.orRaise .publishing))
  | _ => none

def deleteKey (state : State) (registration : Registration) (reply : Reply) : State :=
  { state with
    emailKeys := reply.apply state.emailKeys
      (state.emailKeys.delete (registration.emailKey lower)) }

def release (state : State) (id : UserId) (registration : Registration) (reply : Reply) :
    Option State :=
  match registration.pc with
  | .releasing =>
      some (goto (deleteKey lower state registration reply) id
        (reply.orRaise (.ended (.refused (replicated registration.user.email)))))
  | _ => none

def publishEvent (state : State) (event : ReplicationEvent) (reply : Reply) : State :=
  { state with messages := reply.apply state.messages (state.messages.publish event) }

/-- Outside the `try`: an exception here leaves the key set. -/
def publish (state : State) (id : UserId) (registration : Registration) (reply : Reply) :
    Option State :=
  match registration.pc with
  | .publishing =>
      some (goto (publishEvent state (.registered registration.user) reply) id
        (reply.orRaise .committing))
  | _ => none

/-- A row that is refused raises whatever the reply. -/
def commit (state : State) (id : UserId) (registration : Registration) (reply : Reply) :
    Option State :=
  match registration.pc with
  | .committing =>
      match (state.users registration.vm).insert? registration.user with
      | none => some (goto state id .unlocking)
      | some users =>
          let stored := { state with users := Function.update state.users registration.vm users }
          match reply with
          | .ok => some (goto stored id .refreshing)
          | .raiseApplied => some (goto stored id .unlocking)
          | .raise => some (goto state id .unlocking)
  | _ => none

def refresh (state : State) (id : UserId) (registration : Registration) (reply : Reply) :
    Option State :=
  match registration.pc, reply with
  | .refreshing, .ok => some (goto state id (.ended .returned))
  | .refreshing, _ => some (goto state id .unlocking)
  | _, _ => none

def unlock (state : State) (id : UserId) (registration : Registration) (reply : Reply) :
    Option State :=
  match registration.pc with
  | .unlocking =>
      some (goto (deleteKey lower state registration reply) id
        (reply.orRaise .compensating))
  | _ => none

def compensate (state : State) (id : UserId) (registration : Registration) (reply : Reply) :
    Option State :=
  match registration.pc with
  | .compensating =>
      some (goto (publishEvent state
          (.registrationFailed registration.user.id registration.user.email) reply)
        id (.ended .raised))
  | _ => none

def crash (state : State) (id : UserId) (registration : Registration) : Option State :=
  match registration.pc with
  | .ended _ => none
  | _ => some (goto state id (.ended .crashed))

end

/-! ### `handle_replication_event` -/

def setHandling (state : State) (id : HandlingId) (handling : Handling) (phase : Phase) : State :=
  { state with handlings := Function.update state.handlings id (some { handling with phase }) }

def setReplica (state : State) (vm : Vm) (rows : UserTable) : State :=
  { state with replica := Function.update state.replica vm rows }

def deliver (state : State) (message : Nat) (id : HandlingId) (vm : Vm) : Option State :=
  match state.handlings id with
  | some _ => none
  | none => (state.messages.deliver message id).map fun (event, messages) =>
      setHandling { state with messages } id ⟨message, event, vm, .received⟩ .received

def handleUserRegistered (state : State) (id : HandlingId) (handling : Handling) (reply : Reply) :
    Option State :=
  match handling.event, handling.phase with
  | .registered user, .received =>
      let rows := state.replica handling.vm
      some (setHandling (setReplica state handling.vm (reply.apply rows (rows.insertOrIgnore user)))
        id handling .returned)
  | _, _ => none

def selectFailed (state : State) (id : HandlingId) (handling : Handling) (reply : Reply) :
    Option State :=
  match handling.event, handling.phase with
  | .registrationFailed userId _, .received =>
      match reply, (state.replica handling.vm).find? userId with
      | .ok, some _ => some (setHandling state id handling .found)
      | _, _ => some (setHandling state id handling .returned)
  | _, _ => none

def Handling.outdated (vm : Vm) (userId : UserId) (handling : Handling) : Handling :=
  if handling.vm = vm ∧ handling.event.failureOf userId = true ∧ handling.phase = .found then
    { handling with phase := .stale }
  else handling

/-- Its `DELETE` and commit. At `REPEATABLE READ` a row deleted since cannot be deleted again. -/
def deleteFailed (state : State) (id : HandlingId) (handling : Handling) (reply : Reply) :
    Option State :=
  match handling.event, handling.phase, reply with
  | .registrationFailed _ _, .found, .raise | .registrationFailed _ _, .stale, _ =>
      some (setHandling state id handling .returned)
  | .registrationFailed userId _, .found, _ =>
      let others := { state with
        handlings := fun other => (state.handlings other).map (·.outdated handling.vm userId) }
      some (setHandling (setReplica others handling.vm ((state.replica handling.vm).delete userId))
        id handling .returned)
  | _, _, _ => none

def ack (state : State) (id : HandlingId) (handling : Handling) : Option State :=
  match handling.phase with
  | .returned =>
      (state.messages.acknowledge handling.message id handling.vm).map fun messages =>
        { state with messages }
  | _ => none

def step (lower : String → String) (state : State) : Action → Option State
  | .tick elapsed => some { state with now := state.now + elapsed }
  | .register vm user =>
      (state.registrations.insert? ⟨vm, user, .claiming⟩).map fun registrations =>
        { state with registrations }
  | .claim id reply => (state.registrations.find? id).bind (claim lower state id · reply)
  | .lookup id reply => (state.registrations.find? id).bind (lookup state id · reply)
  | .release id reply => (state.registrations.find? id).bind (release lower state id · reply)
  | .publish id reply => (state.registrations.find? id).bind (publish state id · reply)
  | .commit id reply => (state.registrations.find? id).bind (commit state id · reply)
  | .refresh id reply => (state.registrations.find? id).bind (refresh state id · reply)
  | .unlock id reply => (state.registrations.find? id).bind (unlock lower state id · reply)
  | .compensate id reply => (state.registrations.find? id).bind (compensate state id · reply)
  | .crash id => (state.registrations.find? id).bind (crash state id)
  | .deliver message id vm => deliver state message id vm
  | .requeue message => (state.messages.requeue message).map fun messages => { state with messages }
  | .insert id reply => (state.handlings id).bind (handleUserRegistered state id · reply)
  | .select id reply => (state.handlings id).bind (selectFailed state id · reply)
  | .delete id reply => (state.handlings id).bind (deleteFailed state id · reply)
  | .ack id => (state.handlings id).bind (ack state id)
  | .drop id => (state.handlings id).map fun handling => setHandling state id handling .dropped

/-! ### `authenticate_user` -/

def loginRow (state : State) (vm : Vm) (email : Email) : Option User :=
  match (state.users vm).findBy? email with
  | some user => some user
  | none => (state.replica vm).findBy? email

/-- `none` is `AuthenticationError`. -/
def authenticateUser (verify : String → String → Bool) (state : State) (vm : Vm) (email : Email)
    (password : String) : Option User :=
  (loginRow state vm email).filter fun user => verify password user.passwordHash

def Committed (state : State) (user : User) : Prop :=
  user ∈ (state.users .vm1).rows ∨ user ∈ (state.users .vm2).rows

instance (state : State) (user : User) : Decidable (Committed state user) :=
  inferInstanceAs (Decidable (_ ∨ _))

def faultless (state : State) : Action → Bool
  | .insert _ reply | .select _ reply => reply = .ok
  | .delete id reply => reply = .ok && (state.handlings id).all fun handling =>
      handling.phase ≠ .stale
  | _ => true

/-! ### What a step does -/

def Pc.running : Pc → Bool
  | .ended _ => false
  | _ => true

def Pc.early : Pc → Bool
  | .claiming | .looking | .releasing => true
  | _ => false

inductive Move (state : State) (id : UserId) (registration : Registration) : Action → Pc → Prop
  | ends (action : Action) (ending : Ending) (running : registration.pc.running = true) :
      Move state id registration action (.ended ending)
  | early (action : Action) (pc : Pc) (before : registration.pc.early = true)
      (after : pc.early = true) : Move state id registration action pc
  | passes (before : registration.pc = .looking)
      (absent : (state.replica registration.vm).findBy? registration.user.email = none) :
      Move state id registration (.lookup id .ok) .publishing
  | fails (action : Action) (pc : Pc)
      (before : registration.pc = .committing ∨ registration.pc = .unlocking)
      (after : pc = .unlocking ∨ pc = .compensating) : Move state id registration action pc
  | refreshFails (reply : Reply) (raised : reply ≠ .ok)
      (before : registration.pc = .refreshing) : Move state id registration (.refresh id reply) .unlocking

inductive Publication (id : UserId) (registration : Registration) :
    Action → ReplicationEvent → Pc → Prop
  | registered (reply : Reply) (pc : Pc) (before : registration.pc = .publishing)
      (after : pc = .committing ∨ pc = .ended .raised) :
      Publication id registration (.publish id reply) (.registered registration.user) pc
  | failed (reply : Reply) (applied : reply ≠ .raise) (before : registration.pc = .compensating) :
      Publication id registration (.compensate id reply)
        (.registrationFailed registration.user.id registration.user.email) (.ended .raised)

inductive Moved (state : State) : Action → State → Prop
  | ticked (elapsed : Nat) : Moved state (.tick elapsed) { state with now := state.now + elapsed }
  | started (vm : Vm) (user : User)
      (registrations : KeyedTable UserId Registration Registration.id)
      (inserted : state.registrations.insert? ⟨vm, user, .claiming⟩ = some registrations) :
      Moved state (.register vm user) { state with registrations }
  | moved (action : Action) (id : UserId) (registration : Registration) (pc : Pc)
      (emailKeys : Leases String Unit) (found : state.registrations.find? id = some registration)
      (move : Move state id registration action pc) :
      Moved state action (goto { state with emailKeys } id pc)
  | published (action : Action) (id : UserId) (registration : Registration)
      (event : ReplicationEvent) (pc : Pc) (found : state.registrations.find? id = some registration)
      (publication : Publication id registration action event pc) :
      Moved state action
        (goto { state with messages := state.messages.publish event } id pc)
  | committed (id : UserId) (reply : Reply) (registration : Registration) (users : UserTable)
      (pc : Pc) (found : state.registrations.find? id = some registration)
      (before : registration.pc = .committing)
      (inserted : (state.users registration.vm).insert? registration.user = some users)
      (after : reply = .ok ∧ pc = .refreshing ∨ reply = .raiseApplied ∧ pc = .unlocking) :
      Moved state (.commit id reply)
        (goto { state with users := Function.update state.users registration.vm users }
          id pc)
  | delivered (message : Nat) (id : HandlingId) (vm : Vm) (event : ReplicationEvent)
      (messages : MessageQueue ReplicationEvent HandlingId Vm) (new : state.handlings id = none)
      (change : MessageQueue.Redelivered .ready (.delivered id) event state.messages messages) :
      Moved state (.deliver message id vm)
        (setHandling { state with messages } id ⟨message, event, vm, .received⟩ .received)
  | requeued (message : Nat) (event : ReplicationEvent) (holder : HandlingId)
      (messages : MessageQueue ReplicationEvent HandlingId Vm)
      (change : MessageQueue.Redelivered (.delivered holder) .ready event state.messages messages) :
      Moved state (.requeue message) { state with messages }
  | inserted (id : HandlingId) (handling : Handling) (user : User) (reply : Reply)
      (found : state.handlings id = some handling) (event : handling.event = .registered user) :
      Moved state (.insert id reply) (setHandling (setReplica state handling.vm
        ((state.replica handling.vm).insertOrIgnore user)) id handling .returned)
  | selected (id : HandlingId) (handling : Handling) (found : state.handlings id = some handling)
      (before : handling.phase = .received) :
      Moved state (.select id .ok) (setHandling state id handling .found)
  | absent (id : HandlingId) (handling : Handling) (userId : UserId) (email : Email)
      (found : state.handlings id = some handling)
      (event : handling.event = .registrationFailed userId email)
      (none : (state.replica handling.vm).find? userId = none) :
      Moved state (.select id .ok) (setHandling state id handling .returned)
  | deleted (id : HandlingId) (handling : Handling) (userId : UserId) (email : Email)
      (reply : Reply) (found : state.handlings id = some handling)
      (event : handling.event = .registrationFailed userId email) :
      Moved state (.delete id reply) (setHandling (setReplica { state with
          handlings := fun other => (state.handlings other).map (·.outdated handling.vm userId) }
        handling.vm ((state.replica handling.vm).delete userId)) id handling .returned)
  | faulted (action : Action) (id : HandlingId) (handling : Handling)
      (found : state.handlings id = some handling) (fault : faultless state action = false) :
      Moved state action (setHandling state id handling .returned)
  | acknowledged (id : HandlingId) (handling : Handling) (event : ReplicationEvent)
      (messages : MessageQueue ReplicationEvent HandlingId Vm)
      (found : state.handlings id = some handling) (before : handling.phase = .returned)
      (change : MessageQueue.Redelivered (.delivered id) (.acked handling.vm) event state.messages
        messages) : Moved state (.ack id) { state with messages }
  | dropped (id : HandlingId) (handling : Handling) (found : state.handlings id = some handling) :
      Moved state (.drop id) (setHandling state id handling .dropped)

section

variable {lower : String → String} {state next : State} {id : UserId} {registration : Registration}
  {reply : Reply}

theorem moved_claim (found : state.registrations.find? id = some registration)
    (stepped : claim lower state id registration reply = some next) :
    Moved state (.claim id reply) next := by
  simp only [claim] at stepped
  split at stepped
  · next here =>
      have running : registration.pc.running = true := by rw [here]; rfl
      split at stepped
      · cases stepped
        cases reply with
        | ok | raise | raiseApplied => exact .moved _ id registration _ _ found (.ends _ _ running)
      · cases stepped
        cases reply with
        | ok => exact .moved _ id registration _ _ found (.early _ _ (by rw [here]; rfl) rfl)
        | raise | raiseApplied => exact .moved _ id registration _ _ found (.ends _ _ running)
  · exact nomatch stepped

theorem moved_lookup (found : state.registrations.find? id = some registration)
    (stepped : lookup state id registration reply = some next) :
    Moved state (.lookup id reply) next := by
  simp only [lookup] at stepped
  split at stepped
  · next here =>
      have running : registration.pc.running = true := by rw [here]; rfl
      split at stepped
      · cases stepped
        cases reply with
        | ok => exact .moved _ id registration _ _ found (.early _ _ (by rw [here]; rfl) rfl)
        | raise | raiseApplied => exact .moved _ id registration _ _ found (.ends _ _ running)
      · next absent =>
          cases stepped
          cases reply with
          | ok => exact .moved _ id registration _ _ found (.passes here absent)
          | raise | raiseApplied => exact .moved _ id registration _ _ found (.ends _ _ running)
  · exact nomatch stepped

theorem moved_release (found : state.registrations.find? id = some registration)
    (stepped : release lower state id registration reply = some next) :
    Moved state (.release id reply) next := by
  simp only [release] at stepped
  split at stepped
  · next here =>
      have running : registration.pc.running = true := by rw [here]; rfl
      cases stepped
      cases reply with
      | ok | raise | raiseApplied => exact .moved _ id registration _ _ found (.ends _ _ running)
  · exact nomatch stepped

theorem moved_publish (found : state.registrations.find? id = some registration)
    (stepped : publish state id registration reply = some next) :
    Moved state (.publish id reply) next := by
  simp only [publish] at stepped
  split at stepped
  · next here =>
      have running : registration.pc.running = true := by rw [here]; rfl
      cases stepped
      cases reply with
      | ok => exact .published _ id registration _ _ found (.registered _ _ here (.inl rfl))
      | raise => exact .moved _ id registration _ _ found (.ends _ _ running)
      | raiseApplied => exact .published _ id registration _ _ found (.registered _ _ here (.inr rfl))
  · exact nomatch stepped

theorem moved_commit (found : state.registrations.find? id = some registration)
    (stepped : commit state id registration reply = some next) :
    Moved state (.commit id reply) next := by
  simp only [commit] at stepped
  split at stepped
  · next here =>
      have failed : Moved state (.commit id reply) (goto state id .unlocking) :=
        .moved _ id registration _ _ found (.fails _ _ (.inl here) (.inl rfl))
      split at stepped
      · cases stepped
        exact failed
      · next users inserted =>
          cases reply with
          | ok =>
              cases stepped
              exact .committed id _ registration users _ found here inserted (.inl ⟨rfl, rfl⟩)
          | raise =>
              cases stepped
              exact failed
          | raiseApplied =>
              cases stepped
              exact .committed id _ registration users _ found here inserted (.inr ⟨rfl, rfl⟩)
  · exact nomatch stepped

theorem moved_refresh (found : state.registrations.find? id = some registration)
    (stepped : refresh state id registration reply = some next) :
    Moved state (.refresh id reply) next := by
  simp only [refresh] at stepped
  split at stepped
  · next here =>
      cases stepped
      exact .moved _ id registration _ _ found (.ends _ _ (by rw [here]; rfl))
  · next here other =>
      cases stepped
      exact .moved _ id registration _ _ found (.refreshFails _ other here)
  · exact nomatch stepped

theorem moved_unlock (found : state.registrations.find? id = some registration)
    (stepped : unlock lower state id registration reply = some next) :
    Moved state (.unlock id reply) next := by
  simp only [unlock] at stepped
  split at stepped
  · next here =>
      have running : registration.pc.running = true := by rw [here]; rfl
      cases stepped
      cases reply with
      | ok => exact .moved _ id registration _ _ found (.fails _ _ (.inr here) (.inr rfl))
      | raise | raiseApplied => exact .moved _ id registration _ _ found (.ends _ _ running)
  · exact nomatch stepped

theorem moved_compensate (found : state.registrations.find? id = some registration)
    (stepped : compensate state id registration reply = some next) :
    Moved state (.compensate id reply) next := by
  simp only [compensate] at stepped
  split at stepped
  · next here =>
      have running : registration.pc.running = true := by rw [here]; rfl
      cases stepped
      cases reply with
      | raise => exact .moved _ id registration _ _ found (.ends _ _ running)
      | ok | raiseApplied =>
          exact .published _ id registration _ _ found (.failed _ (by decide) here)
  · exact nomatch stepped

theorem moved_crash (found : state.registrations.find? id = some registration)
    (stepped : crash state id registration = some next) : Moved state (.crash id) next := by
  simp only [crash] at stepped
  split at stepped
  · exact nomatch stepped
  · next running =>
      cases stepped
      refine .moved _ id registration _ _ found (.ends _ _ ?_)
      cases here : registration.pc with
      | ended ending => exact (running ending here).elim
      | _ => rfl

end

section

variable {lower : String → String} {state next : State} {id : HandlingId} {handling : Handling}
  {reply : Reply}

theorem moved_insert (found : state.handlings id = some handling)
    (stepped : handleUserRegistered state id handling reply = some next) :
    Moved state (.insert id reply) next := by
  simp only [handleUserRegistered] at stepped
  split at stepped
  · next user event here =>
      cases stepped
      cases reply with
      | ok | raiseApplied => exact .inserted id handling user _ found event
      | raise =>
          have same : setReplica state handling.vm (state.replica handling.vm) = state := by
            simp [setReplica]
          simp only [Reply.apply, same]
          exact .faulted _ id handling found rfl
  · exact nomatch stepped

theorem moved_select (found : state.handlings id = some handling)
    (stepped : selectFailed state id handling reply = some next) :
    Moved state (.select id reply) next := by
  simp only [selectFailed] at stepped
  split at stepped
  · next userId email event here =>
      cases reply with
      | ok =>
          cases row : (state.replica handling.vm).find? userId with
          | none =>
              simp only [row] at stepped
              cases stepped
              exact .absent id handling userId email found event row
          | some user =>
              simp only [row] at stepped
              cases stepped
              exact .selected id handling found here
      | raise | raiseApplied =>
          cases stepped
          exact .faulted _ id handling found rfl
  · exact nomatch stepped

theorem moved_delete (found : state.handlings id = some handling)
    (stepped : deleteFailed state id handling reply = some next) :
    Moved state (.delete id reply) next := by
  simp only [deleteFailed] at stepped
  split at stepped
  · cases stepped
    exact .faulted _ id handling found rfl
  · next here =>
      cases stepped
      exact .faulted _ id handling found (by simp [faultless, found, here])
  · next userId email event here _ =>
      cases stepped
      exact .deleted id handling userId email _ found event
  · exact nomatch stepped

theorem moved_ack (found : state.handlings id = some handling)
    (stepped : ack state id handling = some next) : Moved state (.ack id) next := by
  simp only [ack] at stepped
  split at stepped
  · next here =>
      obtain ⟨messages, acknowledged, rfl⟩ := Option.map_eq_some_iff.mp stepped
      obtain ⟨event, change⟩ := MessageQueue.acknowledge_eq_some acknowledged
      exact .acknowledged id handling event messages found here change
  · exact nomatch stepped

theorem moved_deliver {message : Nat} {vm : Vm}
    (stepped : deliver state message id vm = some next) : Moved state (.deliver message id vm) next := by
  simp only [deliver] at stepped
  split at stepped
  · exact nomatch stepped
  · next new =>
      obtain ⟨⟨event, messages⟩, taken, rfl⟩ := Option.map_eq_some_iff.mp stepped
      exact .delivered message id vm event messages new (MessageQueue.deliver_eq_some taken)

end

theorem moved_of_step {lower : String → String} {state next : State} {action : Action}
    (stepped : step lower state action = some next) : Moved state action next := by
  cases action with
  | tick elapsed =>
      cases stepped
      exact .ticked elapsed
  | register vm user =>
      obtain ⟨registrations, inserted, rfl⟩ := Option.map_eq_some_iff.mp stepped
      exact .started vm user registrations inserted
  | claim id reply =>
      obtain ⟨registration, found, stepped⟩ := Option.bind_eq_some_iff.mp stepped
      exact moved_claim found stepped
  | lookup id reply =>
      obtain ⟨registration, found, stepped⟩ := Option.bind_eq_some_iff.mp stepped
      exact moved_lookup found stepped
  | release id reply =>
      obtain ⟨registration, found, stepped⟩ := Option.bind_eq_some_iff.mp stepped
      exact moved_release found stepped
  | publish id reply =>
      obtain ⟨registration, found, stepped⟩ := Option.bind_eq_some_iff.mp stepped
      exact moved_publish found stepped
  | commit id reply =>
      obtain ⟨registration, found, stepped⟩ := Option.bind_eq_some_iff.mp stepped
      exact moved_commit found stepped
  | refresh id reply =>
      obtain ⟨registration, found, stepped⟩ := Option.bind_eq_some_iff.mp stepped
      exact moved_refresh found stepped
  | unlock id reply =>
      obtain ⟨registration, found, stepped⟩ := Option.bind_eq_some_iff.mp stepped
      exact moved_unlock found stepped
  | compensate id reply =>
      obtain ⟨registration, found, stepped⟩ := Option.bind_eq_some_iff.mp stepped
      exact moved_compensate found stepped
  | crash id =>
      obtain ⟨registration, found, stepped⟩ := Option.bind_eq_some_iff.mp stepped
      exact moved_crash found stepped
  | deliver message id vm => exact moved_deliver stepped
  | requeue message =>
      obtain ⟨messages, returned, rfl⟩ := Option.map_eq_some_iff.mp stepped
      obtain ⟨event, holder, change⟩ := MessageQueue.requeue_eq_some returned
      exact .requeued message event holder messages change
  | insert id reply =>
      obtain ⟨handling, found, stepped⟩ := Option.bind_eq_some_iff.mp stepped
      exact moved_insert found stepped
  | select id reply =>
      obtain ⟨handling, found, stepped⟩ := Option.bind_eq_some_iff.mp stepped
      exact moved_select found stepped
  | delete id reply =>
      obtain ⟨handling, found, stepped⟩ := Option.bind_eq_some_iff.mp stepped
      exact moved_delete found stepped
  | ack id =>
      obtain ⟨handling, found, stepped⟩ := Option.bind_eq_some_iff.mp stepped
      exact moved_ack found stepped
  | drop id =>
      obtain ⟨handling, found, rfl⟩ := Option.map_eq_some_iff.mp stepped
      exact .dropped id handling found

/-! ### What every run keeps -/

def Pc.announced : Pc → Bool
  | .committing | .refreshing | .unlocking | .compensating => true
  | _ => false

def Pc.late : Pc → Bool
  | .refreshing | .unlocking | .compensating | .ended _ => true
  | _ => false

structure Continues (before after : Registration) : Prop where
  vm : after.vm = before.vm
  user : after.user = before.user
  ended : before.pc.running = false → after = before
  late : before.pc.late = true → after.pc.late = true

theorem Continues.refl (registration : Registration) : Continues registration registration :=
  ⟨rfl, rfl, fun _ => rfl, fun late => late⟩

inductive Change (state next : State) (id : UserId) (before : Registration) : Action → Pc → Prop
  | quiet (action : Action) (pc : Pc) (move : Move state id before action pc) :
      Change state next id before action pc
  | published (action : Action) (event : ReplicationEvent) (pc : Pc)
      (publication : Publication id before action event pc)
      (messages : next.messages = state.messages.publish event) :
      Change state next id before action pc
  | stored (reply : Reply) (users : UserTable) (pc : Pc)
      (committing : before.pc = .committing)
      (inserted : (state.users before.vm).insert? before.user = some users)
      (after : reply = .ok ∧ pc = .refreshing ∨ reply = .raiseApplied ∧ pc = .unlocking) :
      Change state next id before (.commit id reply) pc

section

variable {lower : String → String} {state next : State} {action : Action}

theorem Change.continues {id : UserId} {before : Registration} {pc : Pc}
    (change : Change state next id before action pc) : Continues before { before with pc } := by
  refine ⟨rfl, rfl, ?_, ?_⟩
  · intro stopped
    cases change with
    | quiet _ _ move =>
        cases move with
        | ends _ _ running => exact nomatch stopped.symm.trans running
        | early _ _ early _ => cases here : before.pc <;> simp_all [Pc.running, Pc.early]
        | passes here _ => simp [here, Pc.running] at stopped
        | fails _ _ here _ => rcases here with here | here <;> simp [here, Pc.running] at stopped
        | refreshFails _ _ here => simp [here, Pc.running] at stopped
    | published _ _ _ publication _ =>
        cases publication with
        | registered _ _ here _ | failed _ _ here => simp [here, Pc.running] at stopped
    | stored _ _ _ here _ _ => simp [here, Pc.running] at stopped
  · intro late
    cases change with
    | quiet _ _ move =>
        cases move with
        | ends => rfl
        | early _ _ early _ => cases here : before.pc <;> simp_all [Pc.late, Pc.early]
        | passes here _ => simp [here, Pc.late] at late
        | fails _ _ _ after => rcases after with rfl | rfl <;> rfl
        | refreshFails => rfl
    | published _ _ _ publication _ =>
        cases publication with
        | registered _ _ here _ => simp [here, Pc.late] at late
        | failed => rfl
    | stored _ _ _ _ _ after => rcases after with ⟨_, rfl⟩ | ⟨_, rfl⟩ <;> rfl

theorem id_of_registration {id : UserId} {registration : Registration}
    (found : state.registrations.find? id = some registration) : registration.user.id = id := by
  have key := KeyedTable.key_of_find? found
  exact key

theorem registrations_goto {id other : UserId} {registration after : Registration} {pc : Pc}
    (found : state.registrations.find? id = some registration)
    (present : (goto state id pc).registrations.find? other = some after) :
    (other = id ∧ after = { registration with pc }) ∨
      state.registrations.find? other = some after := by
  simp only [goto, KeyedTable.find?_modify, found, Option.map_some] at present
  split at present
  · next same => exact .inl ⟨same, (Option.some.inj present).symm⟩
  · exact .inr present

theorem registrations_back (moved : Moved state action next) {id : UserId} {after : Registration}
    (present : next.registrations.find? id = some after) :
    state.registrations.find? id = some after ∨ after.pc = .claiming ∨
      ∃ before, state.registrations.find? id = some before ∧ after = { before with pc := after.pc } ∧
        Change state next id before action after.pc := by
  cases moved with
  | started vm user registrations inserted =>
      rw [KeyedTable.find?_insert? id inserted] at present
      split at present
      · cases present
        exact .inr (.inl rfl)
      · exact .inl present
  | moved _ other registration pc emailKeys found move =>
      rcases registrations_goto found present with ⟨rfl, rfl⟩ | old
      · exact .inr (.inr ⟨registration, found, rfl, .quiet _ _ move⟩)
      · exact .inl old
  | published _ other registration event pc found publication =>
      rcases registrations_goto found present with ⟨rfl, rfl⟩ | old
      · exact .inr (.inr ⟨registration, found, rfl, .published _ event _ publication rfl⟩)
      · exact .inl old
  | committed other reply registration users pc found before inserted result =>
      rcases registrations_goto found present with ⟨rfl, rfl⟩ | old
      · exact .inr (.inr ⟨registration, found, rfl,
          .stored _ users _ before inserted result⟩)
      · exact .inl old
  | ticked | delivered | requeued | inserted | selected | absent | deleted | faulted
  | acknowledged | dropped => exact .inl present

theorem goto_kept {id other : UserId} {registration before : Registration} {pc : Pc}
    (found : state.registrations.find? id = some registration)
    (continues : Continues registration { registration with pc })
    (known : state.registrations.find? other = some before) :
    ∃ after, (goto state id pc).registrations.find? other = some after ∧
      Continues before after := by
  simp only [goto, KeyedTable.find?_modify, found, Option.map_some]
  split
  · next same =>
      rw [same, found, Option.some.injEq] at known
      exact ⟨_, rfl, known ▸ continues⟩
  · exact ⟨before, known, .refl before⟩

theorem registrations_kept (moved : Moved state action next) {id : UserId} {before : Registration}
    (known : state.registrations.find? id = some before) :
    ∃ after, next.registrations.find? id = some after ∧ Continues before after := by
  cases moved with
  | started vm user registrations inserted =>
      have fresh : user.id ≠ id := by
        rintro rfl
        have taken : state.registrations.insert? ⟨vm, user, .claiming⟩ = none :=
          KeyedTable.insert?_eq_none.mpr (by simp [known])
        exact nomatch taken.symm.trans inserted
      refine ⟨before, ?_, .refl before⟩
      rw [KeyedTable.find?_insert? id inserted, if_neg fresh, known]
  | moved _ other registration pc emailKeys found move =>
      have change : Change state state other registration action pc := .quiet _ _ move
      exact @goto_kept { state with emailKeys } other id registration before pc found
        change.continues known
  | published _ other registration event pc found publication =>
      have change : Change state { state with messages := state.messages.publish event } other
        registration action pc := .published _ event _ publication rfl
      exact @goto_kept { state with messages := state.messages.publish event } other id registration
        before pc found change.continues known
  | committed other reply registration users pc found committing inserted result =>
      have change : Change state state other registration (.commit other reply) pc :=
        .stored _ users _ committing inserted result
      exact @goto_kept { state with users := Function.update state.users registration.vm users }
        other id registration before pc found change.continues known
  | ticked | delivered | requeued | inserted | selected | absent | deleted | faulted
  | acknowledged | dropped => exact ⟨before, known, .refl before⟩

theorem events_of_moved (moved : Moved state action next) :
    next.messages.events = state.messages.events ∨
      ∃ id registration event pc, state.registrations.find? id = some registration ∧
        Publication id registration action event pc ∧
        next.registrations.find? id = some { registration with pc } ∧
        next.messages.events = state.messages.events ++ [event] := by
  cases moved with
  | published _ id registration event pc found publication =>
      refine .inr ⟨id, registration, event, pc, found, publication, ?_, ?_⟩
      · simp [goto, KeyedTable.find?_modify, found]
      · exact MessageQueue.events_publish
  | delivered _ _ _ _ _ _ change | requeued _ _ _ _ change
  | acknowledged _ _ _ _ _ _ change => exact .inl change.events
  | ticked | started | moved | committed | inserted | selected | absent | deleted | faulted
  | dropped => exact .inl rfl

theorem event_kept (moved : Moved state action next) {event : ReplicationEvent}
    (known : event ∈ state.messages.events) : event ∈ next.messages.events := by
  rcases events_of_moved moved with same | ⟨_, _, _, _, _, _, _, grown⟩
  · rw [same]
    exact known
  · rw [grown]
    exact List.mem_append_left _ known

theorem users_kept (moved : Moved state action next) {vm : Vm} {user : User}
    (member : user ∈ (state.users vm).rows) : user ∈ (next.users vm).rows := by
  cases moved with
  | committed id reply registration users pc found before inserted after =>
      by_cases here : vm = registration.vm
      · subst here
        simp only [goto, Function.update_self, (IndexedTable.insert?_eq_some inserted).2]
        exact List.mem_cons_of_mem _ member
      · simpa only [goto, Function.update_of_ne here] using member
  | ticked | started | moved | published | delivered | requeued | inserted | selected | absent
  | deleted | faulted | acknowledged | dropped => exact member

theorem users_of_moved (moved : Moved state action next) {vm : Vm} {user : User}
    (member : user ∈ (next.users vm).rows) : user ∈ (state.users vm).rows ∨
      ∃ id reply registration, action = .commit id reply ∧
        state.registrations.find? id = some registration ∧ registration.user = user ∧
        registration.vm = vm ∧ registration.pc = .committing ∧
        (state.users vm).conflicts user = false ∧
        ∃ pc, next.registrations.find? id = some { registration with pc } ∧ pc.late = true := by
  cases moved with
  | committed id reply registration users pc found before inserted after =>
      by_cases here : vm = registration.vm
      · subst here
        obtain ⟨free, rows⟩ := IndexedTable.insert?_eq_some inserted
        simp only [goto, Function.update_self, rows, List.mem_cons] at member
        rcases member with rfl | old
        · refine .inr ⟨id, reply, registration, rfl, found, rfl, rfl, before, free, pc, ?_, ?_⟩
          · simp [goto, KeyedTable.find?_modify, found]
          · rcases after with ⟨_, rfl⟩ | ⟨_, rfl⟩ <;> rfl
        · exact .inl old
      · simp only [goto, Function.update_of_ne here] at member
        exact .inl member
  | ticked | started | moved | published | delivered | requeued | inserted | selected | absent
  | deleted | faulted | acknowledged | dropped => exact .inl member

theorem replica_of_moved (moved : Moved state action next) {vm : Vm} {row : User}
    (member : row ∈ (next.replica vm).rows) : row ∈ (state.replica vm).rows ∨
      ∃ id reply handling, action = .insert id reply ∧ state.handlings id = some handling ∧
        handling.event = .registered row ∧ handling.vm = vm ∧
        (state.replica vm).conflicts row = false := by
  cases moved with
  | inserted id handling user reply found event =>
      by_cases here : vm = handling.vm
      · subst here
        simp only [setHandling, setReplica, Function.update_self,
          IndexedTable.mem_insertOrIgnore] at member
        rcases member with old | ⟨rfl, free⟩
        · exact .inl old
        · exact .inr ⟨id, reply, handling, rfl, found, event, rfl, free⟩
      · simp only [setHandling, setReplica, Function.update_of_ne here] at member
        exact .inl member
  | deleted id handling userId email reply found event =>
      by_cases here : vm = handling.vm
      · subst here
        simp only [setHandling, setReplica, Function.update_self, IndexedTable.mem_delete] at member
        exact .inl member.1
      · simp only [setHandling, setReplica, Function.update_of_ne here] at member
        exact .inl member
  | ticked | started | moved | published | committed | delivered | requeued | selected | absent
  | faulted | acknowledged | dropped => exact .inl member

theorem handlings_setHandling {id other : HandlingId} {handling after : Handling} {phase : Phase}
    (present : (setHandling state id handling phase).handlings other = some after) :
    (other = id ∧ after = { handling with phase }) ∨
      (other ≠ id ∧ state.handlings other = some after) := by
  by_cases same : other = id
  · subst same
    simp only [setHandling, Function.update_self, Option.some.injEq] at present
    exact .inl ⟨rfl, present.symm⟩
  · simp only [setHandling, Function.update_of_ne same] at present
    exact .inr ⟨same, present⟩

theorem outdated_event (vm : Vm) (userId : UserId) (handling : Handling) :
    (handling.outdated vm userId).event = handling.event ∧
      (handling.outdated vm userId).vm = handling.vm := by
  rw [Handling.outdated]
  split <;> exact ⟨rfl, rfl⟩

theorem handlings_back (moved : Moved state action next) {id : HandlingId} {after : Handling}
    (present : next.handlings id = some after) :
    (state.handlings id = none ∧ after.event ∈ state.messages.events) ∨
      ∃ before, state.handlings id = some before ∧ after.event = before.event ∧
        after.vm = before.vm := by
  cases moved with
  | delivered message other vm event messages new change =>
      rcases handlings_setHandling present with ⟨rfl, rfl⟩ | ⟨_, old⟩
      · exact .inl ⟨new, MessageQueue.mem_events.mpr ⟨_, change.source⟩⟩
      · exact .inr ⟨after, old, rfl, rfl⟩
  | inserted other handling _ _ found _ | selected other handling found _
  | absent other handling _ _ found _ _ | faulted _ other handling found _
  | dropped other handling found =>
      rcases handlings_setHandling present with ⟨rfl, rfl⟩ | ⟨_, old⟩
      · exact .inr ⟨handling, found, rfl, rfl⟩
      · exact .inr ⟨after, old, rfl, rfl⟩
  | deleted other handling userId email reply found event =>
      rcases handlings_setHandling present with ⟨rfl, rfl⟩ | ⟨_, old⟩
      · exact .inr ⟨handling, found, rfl, rfl⟩
      · obtain ⟨before, known, rfl⟩ := Option.map_eq_some_iff.mp old
        exact .inr ⟨before, known, outdated_event ..⟩
  | ticked | started | moved | published | committed | requeued | acknowledged =>
      exact .inr ⟨after, present, rfl, rfl⟩

theorem setHandling_kept {id other : HandlingId} {handling before : Handling} {phase : Phase}
    (found : state.handlings id = some handling) (known : state.handlings other = some before) :
    ∃ after, (setHandling state id handling phase).handlings other = some after ∧
      after.event = before.event ∧ after.vm = before.vm := by
  by_cases same : other = id
  · subst same
    obtain rfl := Option.some.inj (found.symm.trans known)
    exact ⟨{ handling with phase }, by simp [setHandling], rfl, rfl⟩
  · exact ⟨before, by simp [setHandling, Function.update_of_ne same, known], rfl, rfl⟩

theorem handlings_kept (moved : Moved state action next) {id : HandlingId} {before : Handling}
    (known : state.handlings id = some before) :
    ∃ after, next.handlings id = some after ∧ after.event = before.event ∧
      after.vm = before.vm := by
  cases moved with
  | delivered message other vm event messages new change =>
      have apart : id ≠ other := by
        rintro rfl
        exact nomatch new.symm.trans known
      exact ⟨before, by simp [setHandling, Function.update_of_ne apart, known], rfl, rfl⟩
  | inserted other handling _ _ found _ => exact setHandling_kept found known
  | selected other handling found _ => exact setHandling_kept found known
  | absent other handling _ _ found _ _ => exact setHandling_kept found known
  | faulted _ other handling found _ => exact setHandling_kept found known
  | dropped other handling found => exact setHandling_kept found known
  | deleted other handling userId email reply found event =>
      by_cases same : id = other
      · subst same
        obtain rfl := Option.some.inj (found.symm.trans known)
        exact ⟨{ handling with phase := .returned }, by simp [setHandling], rfl, rfl⟩
      · exact ⟨before.outdated handling.vm userId,
          by simp [setHandling, setReplica, Function.update_of_ne same, known], outdated_event ..⟩
  | ticked | started | moved | published | committed | requeued | acknowledged =>
      exact ⟨before, known, rfl, rfl⟩

end

/-- Users, events and replicated rows go back to registrations. -/
structure Traced (state : State) : Prop where
  announced : ∀ user, .registered user ∈ state.messages.events →
    ∃ registration, state.registrations.find? user.id = some registration ∧ registration.user = user
  announces : ∀ id registration, state.registrations.find? id = some registration →
    registration.pc.announced = true → .registered registration.user ∈ state.messages.events
  failed : ∀ id email, .registrationFailed id email ∈ state.messages.events →
    ∃ registration, state.registrations.find? id = some registration ∧ registration.pc.running = false
  stored : ∀ vm, ∀ user ∈ (state.users vm).rows, ∃ registration,
    state.registrations.find? user.id = some registration ∧ registration.user = user ∧
      registration.vm = vm ∧ registration.pc.late = true
  published : ∀ vm, ∀ user ∈ (state.users vm).rows, .registered user ∈ state.messages.events
  replicated : ∀ vm, ∀ row ∈ (state.replica vm).rows, .registered row ∈ state.messages.events
  received : ∀ id handling, state.handlings id = some handling →
    handling.event ∈ state.messages.events
  current : ∀ event holder, ⟨event, .delivered holder⟩ ∈ state.messages →
    ∃ handling, state.handlings holder = some handling ∧ handling.event = event

theorem traced_initial : Traced .initial := by
  constructor <;>
    simp [State.initial, IndexedTable.empty, KeyedTable.empty, KeyedTable.find?, MessageQueue.events]

namespace Traced

variable {state next : State} {action : Action}

theorem announced_moved (traced : Traced state) (moved : Moved state action next) {user : User}
    (event : .registered user ∈ next.messages.events) :
    ∃ registration, next.registrations.find? user.id = some registration ∧ registration.user = user := by
  have kept (id : UserId) (before : Registration) (known : state.registrations.find? id = some before)
      (same : before.user = user) :
      ∃ registration, next.registrations.find? id = some registration ∧ registration.user = user := by
    obtain ⟨after, present, continues⟩ := registrations_kept moved known
    exact ⟨after, present, continues.user.trans same⟩
  have old (known : .registered user ∈ state.messages.events) :
      ∃ registration, next.registrations.find? user.id = some registration ∧ registration.user = user := by
    obtain ⟨before, found, same⟩ := traced.announced user known
    exact kept user.id before found same
  rcases events_of_moved moved with same | ⟨id, registration, added, pc, found, publication, _, grown⟩
  · exact old (same ▸ event)
  · rw [grown, List.mem_append, List.mem_singleton] at event
    rcases event with known | new
    · exact old known
    · cases publication with
      | registered =>
          cases new
          rw [id_of_registration found]
          exact kept id registration found rfl
      | failed => exact nomatch new

theorem announces_moved (traced : Traced state) (moved : Moved state action next) {id : UserId}
    {registration : Registration} (present : next.registrations.find? id = some registration)
    (announced : registration.pc.announced = true) :
    .registered registration.user ∈ next.messages.events := by
  have old (before : Registration) (known : state.registrations.find? id = some before)
      (out : before.pc.announced = true) (same : registration.user = before.user) :
      .registered registration.user ∈ next.messages.events := by
    rw [same]
    exact event_kept moved (traced.announces id before known out)
  rcases registrations_back moved present with known | starting | ⟨before, known, same, change⟩
  · exact old registration known announced rfl
  · simp [starting, Pc.announced] at announced
  · have user : registration.user = before.user := by rw [same]
    generalize registration.pc = pc at announced change
    cases change with
    | quiet _ _ move =>
        cases move with
        | ends => exact nomatch announced
        | early _ _ _ after =>
            cases pc with
            | claiming | looking | releasing => exact nomatch announced
            | _ => exact nomatch after
        | passes => exact nomatch announced
        | fails _ _ here _ =>
            exact old before known (by rcases here with here | here <;> rw [here] <;> rfl) user
        | refreshFails _ _ here => exact old before known (by rw [here]; rfl) user
    | published _ event _ publication messages =>
        cases publication with
        | registered =>
            rw [messages, MessageQueue.events_publish, user]
            exact List.mem_append_right _ List.mem_cons_self
        | failed => exact nomatch announced
    | stored _ _ _ here _ _ => exact old before known (by rw [here]; rfl) user

theorem failed_moved (traced : Traced state) (moved : Moved state action next) {id : UserId}
    {email : Email} (event : .registrationFailed id email ∈ next.messages.events) :
    ∃ registration, next.registrations.find? id = some registration ∧
      registration.pc.running = false := by
  have old (known : .registrationFailed id email ∈ state.messages.events) :
      ∃ registration, next.registrations.find? id = some registration ∧
        registration.pc.running = false := by
    obtain ⟨before, found, stopped⟩ := traced.failed id email known
    obtain ⟨after, present, continues⟩ := registrations_kept moved found
    exact ⟨after, present, by rw [continues.ended stopped, stopped]⟩
  rcases events_of_moved moved with same | ⟨other, before, added, pc, found, publication, present, grown⟩
  · exact old (same ▸ event)
  · rw [grown, List.mem_append, List.mem_singleton] at event
    rcases event with known | new
    · exact old known
    · cases publication with
      | registered => exact nomatch new
      | failed =>
          cases new
          rw [id_of_registration found]
          exact ⟨_, present, rfl⟩

theorem stored_moved (traced : Traced state) (moved : Moved state action next) {vm : Vm}
    {user : User} (member : user ∈ (next.users vm).rows) :
    (∃ registration, next.registrations.find? user.id = some registration ∧ registration.user = user ∧
      registration.vm = vm ∧ registration.pc.late = true) ∧
      .registered user ∈ next.messages.events := by
  rcases users_of_moved moved member with old |
      ⟨id, reply, registration, rfl, found, rfl, rfl, here, _, pc, present, late⟩
  · obtain ⟨before, found, same, home, late⟩ := traced.stored vm user old
    obtain ⟨after, present, continues⟩ := registrations_kept moved found
    exact ⟨⟨after, present, continues.user.trans same, continues.vm.trans home,
      continues.late late⟩, event_kept moved (traced.published vm user old)⟩
  · have out := traced.announces id registration found (by rw [here]; rfl)
    refine ⟨?_, event_kept moved out⟩
    rw [id_of_registration found]
    exact ⟨_, present, rfl, rfl, late⟩

theorem replicated_moved (traced : Traced state) (moved : Moved state action next) {vm : Vm}
    {row : User} (member : row ∈ (next.replica vm).rows) :
    .registered row ∈ next.messages.events := by
  rcases replica_of_moved moved member with old | ⟨id, reply, handling, _, found, event, _, _⟩
  · exact event_kept moved (traced.replicated vm row old)
  · rw [← event]
    exact event_kept moved (traced.received id handling found)

theorem received_moved (traced : Traced state) (moved : Moved state action next) {id : HandlingId}
    {handling : Handling} (present : next.handlings id = some handling) :
    handling.event ∈ next.messages.events := by
  rcases handlings_back moved present with ⟨_, event⟩ | ⟨before, known, same, _⟩
  · exact event_kept moved event
  · rw [same]
    exact event_kept moved (traced.received id before known)

theorem current_moved (traced : Traced state) (moved : Moved state action next)
    {event : ReplicationEvent} {holder : HandlingId}
    (held : ⟨event, .delivered holder⟩ ∈ next.messages) :
    ∃ handling, next.handlings holder = some handling ∧ handling.event = event := by
  have old (known : ⟨event, .delivered holder⟩ ∈ state.messages) :
      ∃ handling, next.handlings holder = some handling ∧ handling.event = event := by
    obtain ⟨before, found, same⟩ := traced.current event holder known
    obtain ⟨after, present, kept, _⟩ := handlings_kept moved found
    exact ⟨after, present, kept.trans same⟩
  cases moved with
  | published =>
      rcases MessageQueue.mem_publish.mp held with known | new
      · exact old known
      · exact nomatch new
  | delivered message id vm taken messages new change =>
      rcases change.members _ held with known | now
      · exact old known
      · cases now
        exact ⟨⟨message, event, vm, .received⟩, by simp [setHandling], rfl⟩
  | requeued _ _ _ _ change | acknowledged _ _ _ _ _ _ change =>
      rcases change.members _ held with known | now
      · exact old known
      · exact nomatch now
  | ticked | started | moved | committed | inserted | selected | absent | deleted | faulted
  | dropped => exact old held

theorem moved (traced : Traced state) (moved : Moved state action next) : Traced next where
  announced _ := traced.announced_moved moved
  announces _ _ := traced.announces_moved moved
  failed _ _ := traced.failed_moved moved
  stored _ _ member := (traced.stored_moved moved member).1
  published _ _ member := (traced.stored_moved moved member).2
  replicated _ _ := traced.replicated_moved moved
  received _ _ := traced.received_moved moved
  current _ _ := traced.current_moved moved

theorem of_run {lower : String → String} {actions : List Action}
    (executed : Lts.run (step lower) .initial actions = some state) : Traced state :=
  Lts.Reachable.invariant (fun _ _ _ traced stepped => traced.moved (moved_of_step stepped))
    ⟨actions, executed⟩ traced_initial

end Traced

/-- Invariants of runs whose every action meets a condition may rest on `Traced`. -/
theorem invariant_of_run {lower : String → String} {allowed : State → Action → Prop}
    {invariant : State → Prop} (initial : invariant .initial)
    (kept : ∀ state action next, Traced state → invariant state → allowed state action →
      Moved state action next → invariant next) {actions : List Action} {state : State}
    (executed : Lts.run (step lower) .initial actions = some state)
    (meets : Lts.Meets (step lower) allowed .initial actions) : invariant state := by
  have both : Traced state ∧ invariant state := by
    refine @Lts.run_invariant _ _ _ _ (fun state => Traced state ∧ invariant state) ?_ _ _ _
      ⟨traced_initial, initial⟩ executed meets
    rintro before action after ⟨traced, holds⟩ permitted stepped
    have moved := moved_of_step stepped
    exact ⟨traced.moved moved, kept before action after traced holds permitted moved⟩
  exact both.2

end TrafficService.Auth
