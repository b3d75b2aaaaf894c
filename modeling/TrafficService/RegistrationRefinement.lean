import TrafficService.RegistrationCall

/-!
A call of `register_user` with its awaits answered in advance takes the steps that the
transition system of the two services has for it.
-/

namespace TrafficService.Auth

def RegisterError.ending : RegisterError → Ending
  | .valueError detail => .refused detail
  | .hashing | .raised _ => .raised

def CallResult.ending (result : CallResult) : Ending :=
  match result.1 with
  | .ok _ => .returned
  | .error error => error.ending

def Leads (lower : String → String) (vm : Vm) (user : User) (pc : Pc) (state : State)
    (result : CallResult) : Prop :=
  ∀ registrations : KeyedTable UserId Registration Registration.id,
    registrations.find? user.id = some ⟨vm, user, pc⟩ →
      ∃ after, Lts.Reachable (step lower) { state with registrations }
          { result.2 with registrations := after } ∧
        after.find? user.id = some ⟨vm, user, .ended result.ending⟩

section

variable {lower : String → String} {hash : String → Option String} {answers : Await → Reply}
  {state next : State} {vm : Vm} {id : UserId} {createdAt : DateTime} {request : RegisterRequest}
  {user : User} {raised : Await} {pc : Pc} {result : CallResult}

theorem Leads.refl : Leads lower vm user (.ended result.ending) result.2 result := by
  intro registrations stands
  exact ⟨registrations, .refl _, stands⟩

theorem Leads.cons {later : Pc} (action : Action) (rest : Leads lower vm user later next result)
    (stepped : ∀ registrations : KeyedTable UserId Registration Registration.id,
      registrations.find? user.id = some ⟨vm, user, pc⟩ →
        step lower { state with registrations } action =
          some (goto { next with registrations } user.id later)) :
    Leads lower vm user pc state result := by
  intro registrations stands
  have moved : (goto { next with registrations } user.id later).registrations.find? user.id =
      some ⟨vm, user, later⟩ := by
    rw [goto, KeyedTable.find?_modify, if_pos rfl, stands]
    rfl
  obtain ⟨after, reached, ended⟩ := rest _ moved
  exact ⟨after, (Lts.Reachable.single (stepped registrations stands)).trans reached, ended⟩

theorem leads_raised {error : RegisterError} (ends : error.ending = .raised) :
    Leads lower vm user (.ended .raised) state (.error error, state) := by
  have same : CallResult.ending (.error error, state) = .raised := ends
  rw [← same]
  exact Leads.refl

/-! ### One await -/

def State.unset (state : State) (key : String) (reply : Reply) : State :=
  { state with emailKeys := reply.apply state.emailKeys (state.emailKeys.delete key) }

def State.store (state : State) (vm : Vm) (users : UserTable) (reply : Reply) : State :=
  { state with users := reply.apply state.users (Function.update state.users vm users) }

theorem Leads.unlock (reply : Reply) (rest : Leads lower vm user (reply.orRaise .compensating)
    (state.unset (lower user.email) reply) result) :
    Leads lower vm user .unlocking state result := by
  apply Leads.cons (.unlock user.id reply) rest
  intro registrations stands
  exact Option.bind_eq_some_iff.mpr ⟨_, stands, rfl⟩

theorem Leads.compensate (reply : Reply) (rest : Leads lower vm user (.ended .raised)
    (publishEvent state (.registrationFailed user.id user.email) reply) result) :
    Leads lower vm user .compensating state result := by
  apply Leads.cons (.compensate user.id reply) rest
  intro registrations stands
  exact Option.bind_eq_some_iff.mpr ⟨_, stands, rfl⟩

theorem Leads.publish (reply : Reply) (rest : Leads lower vm user (reply.orRaise .committing)
    (publishEvent state (.registered user) reply) result) :
    Leads lower vm user .publishing state result := by
  apply Leads.cons (.publish user.id reply) rest
  intro registrations stands
  exact Option.bind_eq_some_iff.mpr ⟨_, stands, rfl⟩

theorem Leads.commitRefused (taken : (state.users vm).insert? user = none)
    (rest : Leads lower vm user .unlocking state result) :
    Leads lower vm user .committing state result := by
  apply Leads.cons (.commit user.id .raise) rest
  intro registrations stands
  refine Option.bind_eq_some_iff.mpr ⟨_, stands, ?_⟩
  simp only [Auth.commit, taken]

theorem Leads.commit {users : UserTable} (inserted : (state.users vm).insert? user = some users)
    (reply : Reply) (rest : Leads lower vm user (if reply = .ok then .refreshing else .unlocking)
      (state.store vm users reply) result) : Leads lower vm user .committing state result := by
  apply Leads.cons (.commit user.id reply) rest
  intro registrations stands
  refine Option.bind_eq_some_iff.mpr ⟨_, stands, ?_⟩
  simp only [Auth.commit, inserted]
  cases reply with
  | ok | raise | raiseApplied => rfl

theorem Leads.refresh (reply : Reply)
    (rest : Leads lower vm user (if reply = .ok then .ended .returned else .unlocking) state
      result) : Leads lower vm user .refreshing state result := by
  apply Leads.cons (.refresh user.id reply) rest
  intro registrations stands
  refine Option.bind_eq_some_iff.mpr ⟨_, stands, ?_⟩
  cases reply with
  | ok | raise | raiseApplied => rfl

theorem Leads.lookup (reply : Reply) (rest : Leads lower vm user (reply.orRaise
      (if ((state.replica vm).findBy? user.email).isSome then .releasing else .publishing)) state
    result) : Leads lower vm user .looking state result := by
  apply Leads.cons (.lookup user.id reply) rest
  intro registrations stands
  refine Option.bind_eq_some_iff.mpr ⟨_, stands, ?_⟩
  simp only [Auth.lookup]
  cases (state.replica vm).findBy? user.email with
  | some _ | none => rfl

theorem Leads.release (reply : Reply) (rest : Leads lower vm user
      (reply.orRaise (.ended (.refused (replicated user.email))))
      (state.unset (lower user.email) reply) result) :
    Leads lower vm user .releasing state result := by
  apply Leads.cons (.release user.id reply) rest
  intro registrations stands
  exact Option.bind_eq_some_iff.mpr ⟨_, stands, rfl⟩

theorem Leads.claimHeld (reply : Reply)
    (held : (state.emailKeys.get state.now (lower user.email)).isSome = true)
    (rest : Leads lower vm user (reply.orRaise (.ended (.refused (claimed user.email)))) state
      result) : Leads lower vm user .claiming state result := by
  apply Leads.cons (.claim user.id reply) rest
  intro registrations stands
  obtain ⟨_, taken⟩ := Option.isSome_iff_exists.mp held
  refine Option.bind_eq_some_iff.mpr ⟨_, stands, ?_⟩
  simp only [Auth.claim, Registration.emailKey, Leases.setNx, taken]

def State.claim (state : State) (key : String) (reply : Reply) : State :=
  { state with
    emailKeys := reply.apply state.emailKeys
      (Function.update state.emailKeys key (some ⟨(), state.now + emailLockTtl⟩)) }

theorem Leads.claimFree (reply : Reply)
    (free : state.emailKeys.get state.now (lower user.email) = none)
    (rest : Leads lower vm user (reply.orRaise .looking) (state.claim (lower user.email) reply)
      result) : Leads lower vm user .claiming state result := by
  apply Leads.cons (.claim user.id reply) rest
  intro registrations stands
  refine Option.bind_eq_some_iff.mpr ⟨_, stands, ?_⟩
  simp only [Auth.claim, Registration.emailKey, Leases.setNx, free]
  rfl

/-! ### The call -/

/-- A rollback that fails keeps the key, as an unlock that fails does. -/
theorem leads_undo :
    Leads lower vm user .unlocking state (undoRegistration lower answers state user raised) := by
  rw [undoRegistration]
  cases answers .rollback with
  | ok =>
      apply Leads.unlock (answers .unlock)
      cases answers .unlock with
      | ok => exact Leads.compensate (answers .compensate) (leads_raised rfl)
      | raise | raiseApplied => exact leads_raised rfl
  | raise | raiseApplied => exact Leads.unlock .raise (leads_raised rfl)

theorem leads_commit :
    Leads lower vm user .committing state (commitUser lower answers state vm user) := by
  rw [commitUser]
  cases inserted : (state.users vm).insert? user with
  | none => exact Leads.commitRefused inserted leads_undo
  | some users =>
      apply Leads.commit inserted (answers .commit)
      cases answers .commit with
      | ok =>
          apply Leads.refresh (answers .refresh)
          cases answers .refresh with
          | ok => exact @Leads.refl lower vm user (.ok user, state.store vm users .ok)
          | raise | raiseApplied => exact leads_undo
      | raise | raiseApplied => exact leads_undo

theorem leads_publish :
    Leads lower vm user .publishing state (publishUser lower answers state vm user) := by
  apply Leads.publish (answers .publish)
  rw [publishUser]
  cases answers .publish with
  | ok => exact leads_commit
  | raise | raiseApplied => exact leads_raised rfl

theorem leads_refuse : Leads lower vm user .releasing state
    (refuseReplicated lower answers state user.email) := by
  apply Leads.release (answers .release)
  rw [refuseReplicated]
  cases answers .release with
  | ok =>
      exact @Leads.refl lower vm user (.error (.valueError (replicated user.email)),
        state.unset (lower user.email) .ok)
  | raise | raiseApplied => exact leads_raised rfl

def RegisterRequest.wouldStore (request : RegisterRequest) (hash : String → Option String)
    (id : UserId) (createdAt : DateTime) : User :=
  request.user id ((hash (truncatePassword request.password)).getD "") createdAt

/-- A password that cannot be hashed ends the call where a failed publication does. -/
theorem leads_claimed (course : Course lower hash answers state vm id createdAt request result) :
    Leads lower vm (request.wouldStore hash id createdAt) .looking state result := by
  have email : (request.wouldStore hash id createdAt).email = request.email := rfl
  cases course with
  | lookupFails raised =>
      apply Leads.lookup (answers .lookup)
      cases answered : answers .lookup with
      | ok => exact absurd answered raised
      | raise | raiseApplied => exact leads_raised rfl
  | refuses looked found =>
      apply Leads.lookup .ok
      rw [email, if_pos found]
      exact leads_refuse
  | hashFails looked absent failed =>
      apply Leads.lookup .ok
      rw [email, absent]
      exact Leads.publish .raise (leads_raised rfl)
  | publishes hashed looked absent made =>
      have row : request.wouldStore hash id createdAt = request.user id hashed createdAt := by
        rw [RegisterRequest.wouldStore, made]
        rfl
      apply Leads.lookup .ok
      rw [email, absent, row]
      exact leads_publish

variable (answers) in
theorem leads_register : Leads lower vm (request.wouldStore hash id createdAt) .claiming state
    (registerUser lower hash answers state vm id createdAt request) := by
  have email : (request.wouldStore hash id createdAt).email = request.email := rfl
  rw [registerUser, Leases.setNx]
  cases found : state.emailKeys.get state.now (lower request.email) with
  | some _ =>
      apply Leads.claimHeld (answers .claim) (by rw [email, found]; rfl)
      cases answers .claim with
      | ok =>
          exact @Leads.refl lower vm (request.wouldStore hash id createdAt)
            (.error (.valueError (claimed request.email)), state)
      | raise | raiseApplied => exact leads_raised rfl
  | none =>
      apply Leads.claimFree (answers .claim) found
      cases answers .claim with
      | ok => exact leads_claimed registerClaimed_course
      | raise | raiseApplied => exact leads_raised rfl

/-- What a call does is what some steps of the two services do, from its registration on. -/
theorem registerUser_reachable (lower : String → String) (hash : String → Option String)
    (answers : Await → Reply) (state : State) (vm : Vm) (id : UserId) (createdAt : DateTime)
    (request : RegisterRequest) (fresh : state.registrations.find? id = none) :
    ∃ after, Lts.Reachable (step lower) state
        { (registerUser lower hash answers state vm id createdAt request).2 with
          registrations := after } ∧
      after.find? id = some ⟨vm, request.wouldStore hash id createdAt, .ended
        (CallResult.ending (registerUser lower hash answers state vm id createdAt request))⟩ := by
  have new : state.registrations.insert? ⟨vm, request.wouldStore hash id createdAt, .claiming⟩ ≠
      none := by
    intro taken
    exact KeyedTable.insert?_eq_none.mp taken fresh
  obtain ⟨registrations, inserted⟩ := Option.ne_none_iff_exists'.mp new
  have stands : registrations.find? id =
      some ⟨vm, request.wouldStore hash id createdAt, .claiming⟩ :=
    (KeyedTable.find?_insert? id inserted).trans (if_pos rfl)
  have started : step lower state (.register vm (request.wouldStore hash id createdAt)) =
      some { state with registrations } := by
    exact Option.map_eq_some_iff.mpr ⟨registrations, inserted, rfl⟩
  obtain ⟨after, reached, ended⟩ := leads_register answers registrations stands
  exact ⟨after, (Lts.Reachable.single started).trans reached, ended⟩

end

end TrafficService.Auth
