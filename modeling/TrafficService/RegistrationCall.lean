import TrafficService.Registration
import TrafficService.Lib.Utf8

/-!
A call of `register_user` from its first await to its last with nothing in between, each await
answered in advance, and the login that checks what it has stored.
-/

namespace TrafficService.Auth

structure RegisterRequest where
  email : Email
  password : String
  role : String
  plateNumber : Option Plate
  region : Option String
  deriving DecidableEq

inductive Await
  | claim
  | lookup
  | release
  | publish
  | commit
  | refresh
  | rollback
  | unlock
  | compensate
  deriving DecidableEq

inductive RegisterError
  | valueError (detail : String)
  | hashing
  | raised (at_ : Await)
  deriving DecidableEq

def truncatePassword (password : String) : String :=
  String.ofList (Utf8.decodeIgnore ((Utf8.encode password.toList).take 72))

def RegisterRequest.user (request : RegisterRequest) (id : UserId) (hashed : String)
    (createdAt : DateTime) : User where
  id := id
  email := request.email
  passwordHash := hashed
  role := request.role
  plateNumber := request.plateNumber
  region := request.region
  createdAt := createdAt

section

variable (lower : String → String) (hash : String → Option String) (answers : Await → Reply)

abbrev CallResult := Except RegisterError User × State

def undoRegistration (state : State) (user : User) (raised : Await) : CallResult :=
  match answers .rollback with
  | .ok =>
      let unlocked := { state with
        emailKeys := (answers .unlock).apply state.emailKeys
          (state.emailKeys.delete (lower user.email)) }
      match answers .unlock with
      | .ok =>
          (.error (.raised raised),
            publishEvent unlocked (.registrationFailed user.id user.email) (answers .compensate))
      | _ => (.error (.raised .unlock), unlocked)
  | _ => (.error (.raised .rollback), state)

def commitUser (state : State) (vm : Vm) (user : User) : CallResult :=
  match (state.users vm).insert? user with
  | none => undoRegistration lower answers state user .commit
  | some users =>
      let stored := { state with users := Function.update state.users vm users }
      match answers .commit with
      | .ok =>
          match answers .refresh with
          | .ok => (.ok user, stored)
          | _ => undoRegistration lower answers stored user .refresh
      | .raise => undoRegistration lower answers state user .commit
      | .raiseApplied => undoRegistration lower answers stored user .commit

def publishUser (state : State) (vm : Vm) (user : User) : CallResult :=
  let published := publishEvent state (.registered user) (answers .publish)
  match answers .publish with
  | .ok => commitUser lower answers published vm user
  | _ => (.error (.raised .publish), published)

def refuseReplicated (state : State) (email : Email) : CallResult :=
  let released := { state with
    emailKeys := (answers .release).apply state.emailKeys (state.emailKeys.delete (lower email)) }
  match answers .release with
  | .ok => (.error (.valueError (replicated email)), released)
  | _ => (.error (.raised .release), released)

def registerClaimed (state : State) (vm : Vm) (id : UserId) (createdAt : DateTime)
    (request : RegisterRequest) : CallResult :=
  match answers .lookup with
  | .ok =>
      match (state.replica vm).findBy? request.email with
      | some _ => refuseReplicated lower answers state request.email
      | none =>
          match hash (truncatePassword request.password) with
          | none => (.error .hashing, state)
          | some hashed => publishUser lower answers state vm (request.user id hashed createdAt)
  | _ => (.error (.raised .lookup), state)

def registerUser (state : State) (vm : Vm) (id : UserId) (createdAt : DateTime)
    (request : RegisterRequest) : CallResult :=
  match state.emailKeys.setNx state.now emailLockTtl (lower request.email) () with
  | none =>
      match answers .claim with
      | .ok => (.error (.valueError (claimed request.email)), state)
      | _ => (.error (.raised .claim), state)
  | some keys =>
      let tried := { state with emailKeys := (answers .claim).apply state.emailKeys keys }
      match answers .claim with
      | .ok => registerClaimed lower hash answers tried vm id createdAt request
      | _ => (.error (.raised .claim), tried)

end

def login (verify : String → String → Bool) (state : State) (vm : Vm) (email : Email)
    (password : String) : Option User :=
  authenticateUser verify state vm email (truncatePassword password)

/-! ### Passwords -/

theorem truncatePassword_longest (password : String) :
    Utf8.LongestFit 72 password.toList (truncatePassword password).toList := by
  rw [truncatePassword, String.toList_ofList, Utf8.decodeIgnore_encode_take]
  exact Utf8.fitting_longest 72 password.toList

theorem truncatePassword_eq_iff {password attempt : String} :
    truncatePassword password = truncatePassword attempt ↔
      ∃ kept, Utf8.LongestFit 72 password.toList kept ∧ Utf8.LongestFit 72 attempt.toList kept := by
  constructor
  · intro same
    refine ⟨(truncatePassword password).toList, truncatePassword_longest password, ?_⟩
    rw [same]
    exact truncatePassword_longest attempt
  · rintro ⟨kept, first, second⟩
    apply String.toList_injective
    rw [(truncatePassword_longest password).unique first,
      (truncatePassword_longest attempt).unique second]

theorem truncatePassword_idem (password : String) :
    truncatePassword (truncatePassword password) = truncatePassword password := by
  have again := truncatePassword_longest (truncatePassword password)
  apply String.toList_injective
  exact again.unique (truncatePassword_longest password).idem

section

variable {lower : String → String} {hash : String → Option String} {answers : Await → Reply}
  {state after : State} {vm : Vm} {id : UserId} {createdAt : DateTime} {request : RegisterRequest}
  {user : User} {raised : Await}

theorem undoRegistration_fst :
    ∃ last, (undoRegistration lower answers state user raised).1 = .error (.raised last) := by
  rw [undoRegistration]
  cases answers .rollback with
  | ok => cases answers .unlock with
    | ok | raise | raiseApplied => exact ⟨_, rfl⟩
  | raise | raiseApplied => exact ⟨_, rfl⟩

variable (lower) (answers) (state) (vm) (user) in
theorem commitUser_fst :
    ((commitUser lower answers state vm user).1 = .ok user ∧
      user ∈ ((commitUser lower answers state vm user).2.users vm).rows) ∨
    ∃ last, (commitUser lower answers state vm user).1 = .error (.raised last) := by
  simp only [commitUser]
  split
  · exact .inr undoRegistration_fst
  · next users inserted =>
      split
      · split
        · left
          simp [(IndexedTable.insert?_eq_some inserted).2]
        · exact .inr undoRegistration_fst
      · exact .inr undoRegistration_fst
      · exact .inr undoRegistration_fst

variable (lower) (answers) (state) (vm) (user) in
theorem publishUser_cases :
    (answers .publish ≠ .ok ∧ publishUser lower answers state vm user =
      (.error (.raised .publish), publishEvent state (.registered user) (answers .publish))) ∨
    (answers .publish = .ok ∧ publishUser lower answers state vm user =
      commitUser lower answers (publishEvent state (.registered user) .ok) vm user) := by
  rw [publishUser]
  cases answers .publish with
  | ok => exact .inr ⟨rfl, rfl⟩
  | raise | raiseApplied => exact .inl ⟨by simp, rfl⟩

inductive Course (lower : String → String) (hash : String → Option String)
    (answers : Await → Reply) (state : State) (vm : Vm) (id : UserId) (createdAt : DateTime)
    (request : RegisterRequest) : CallResult → Prop
  | lookupFails (raised : answers .lookup ≠ .ok) :
      Course lower hash answers state vm id createdAt request (.error (.raised .lookup), state)
  | refuses (looked : answers .lookup = .ok)
      (found : ((state.replica vm).findBy? request.email).isSome = true) :
      Course lower hash answers state vm id createdAt request
        (refuseReplicated lower answers state request.email)
  | hashFails (looked : answers .lookup = .ok)
      (absent : (state.replica vm).findBy? request.email = none)
      (failed : hash (truncatePassword request.password) = none) :
      Course lower hash answers state vm id createdAt request (.error .hashing, state)
  | publishes (hashed : String) (looked : answers .lookup = .ok)
      (absent : (state.replica vm).findBy? request.email = none)
      (made : hash (truncatePassword request.password) = some hashed) :
      Course lower hash answers state vm id createdAt request
        (publishUser lower answers state vm (request.user id hashed createdAt))

theorem registerClaimed_course : Course lower hash answers state vm id createdAt request
    (registerClaimed lower hash answers state vm id createdAt request) := by
  rw [registerClaimed]
  split
  · next looked =>
      split
      · next found => exact .refuses looked (by rw [found]; rfl)
      · next absent =>
          split
          · next failed => exact .hashFails looked absent failed
          · next hashed made => exact .publishes hashed looked absent made
  · next raised => exact .lookupFails raised

def claimedBy (lower : String → String) (state : State) (email : Email) : State :=
  { state with
    emailKeys := Function.update state.emailKeys (lower email)
      (some ⟨(), state.now + emailLockTtl⟩) }

variable (lower) (hash) (answers) (state) (vm) (id) (createdAt) (request) in
theorem registerUser_cases :
    ((state.emailKeys.get state.now (lower request.email)).isSome = true ∧
      ∃ error, registerUser lower hash answers state vm id createdAt request =
        (.error error, state)) ∨
    (state.emailKeys.get state.now (lower request.email) = none ∧
      ((answers .claim ≠ .ok ∧ ∃ keys, registerUser lower hash answers state vm id createdAt request =
        (.error (.raised .claim), { state with emailKeys := keys })) ∨
      (answers .claim = .ok ∧
        Course lower hash answers (claimedBy lower state request.email) vm id createdAt request
          (registerUser lower hash answers state vm id createdAt request)))) := by
  rw [registerUser, Leases.setNx]
  cases state.emailKeys.get state.now (lower request.email) with
  | some _ =>
      left
      cases answers .claim with
      | ok | raise | raiseApplied => exact ⟨rfl, _, rfl⟩
  | none =>
      right
      refine ⟨rfl, ?_⟩
      cases answers .claim with
      | ok => exact .inr ⟨rfl, registerClaimed_course⟩
      | raise | raiseApplied => exact .inl ⟨by simp, _, rfl⟩

variable (lower) (answers) (state) in
theorem refuseReplicated_fst (email : Email) :
    (refuseReplicated lower answers state email).1 = .error (.valueError (replicated email)) ∨
      (refuseReplicated lower answers state email).1 = .error (.raised .release) := by
  rw [refuseReplicated]
  cases answers .release with
  | ok => exact .inl rfl
  | raise | raiseApplied => exact .inr rfl

/-- How a call ends that has won the claim. -/
theorem Course.ending {result : CallResult}
    (course : Course lower hash answers state vm id createdAt request result) :
    (∃ user, result.1 = .ok user ∧ user ∈ (result.2.users vm).rows ∧ user.email = request.email ∧
      hash (truncatePassword request.password) = some user.passwordHash) ∨
    result.1 = .error (.valueError (replicated request.email)) ∨ result.1 = .error .hashing ∨
      ∃ last, result.1 = .error (.raised last) := by
  cases course with
  | lookupFails => exact .inr (.inr (.inr ⟨_, rfl⟩))
  | refuses =>
      obtain refused | failed := refuseReplicated_fst lower answers state request.email
      · exact .inr (.inl refused)
      · exact .inr (.inr (.inr ⟨_, failed⟩))
  | hashFails => exact .inr (.inr (.inl rfl))
  | publishes hashed _ _ made =>
      obtain ⟨_, failed⟩ | ⟨_, committing⟩ :=
        publishUser_cases lower answers state vm (request.user id hashed createdAt)
      · exact .inr (.inr (.inr ⟨_, by rw [failed]⟩))
      · rw [committing]
        obtain ⟨returned, stored⟩ | failed := commitUser_fst lower answers
          (publishEvent state (.registered (request.user id hashed createdAt)) .ok) vm
          (request.user id hashed createdAt)
        · exact .inl ⟨_, returned, stored, rfl, made⟩
        · exact .inr (.inr (.inr failed))

/-- A registration that returns has stored the hash of the truncated password. -/
theorem registerUser_ok (registered : registerUser lower hash answers state vm id createdAt request =
    (.ok user, after)) : user ∈ (after.users vm).rows ∧ user.email = request.email ∧
      hash (truncatePassword request.password) = some user.passwordHash := by
  obtain ⟨_, _, failed⟩ | ⟨_, ⟨_, _, failed⟩ | ⟨_, course⟩⟩ :=
    registerUser_cases lower hash answers state vm id createdAt request
  · rw [registered] at failed
    cases failed
  · rw [registered] at failed
    cases failed
  · rw [registered] at course
    obtain ⟨stored, same, facts⟩ | failed | failed | ⟨_, failed⟩ := course.ending
    · cases same
      exact facts
    · cases failed
    · cases failed
    · cases failed

theorem login_isSome_iff {verify : String → String → Bool}
    (checks : ∀ password hashed, hash password = some hashed →
      ∀ attempt, verify attempt hashed = true ↔ attempt = password)
    (made : hash (truncatePassword request.password) = some user.passwordHash)
    (row : loginRow state vm user.email = some user) (attempt : String) :
    (login verify state vm user.email attempt).isSome = true ↔
      truncatePassword attempt = truncatePassword request.password := by
  rw [login, authenticateUser, row, ← checks _ _ made, Option.filter_some]
  split
  · next verified => simp [verified]
  · next rejected => simp [rejected]

/-- Both paths keep the longest prefix of at most 72 bytes, and an account is open to the
passwords that share that prefix with its own, on every VM that has its row. -/
theorem login_accepts (lower : String → String) (hash : String → Option String)
    (verify : String → String → Bool)
    (checks : ∀ password hashed, hash password = some hashed →
      ∀ attempt, verify attempt hashed = true ↔ attempt = password) :
    (∀ password : String,
      Utf8.LongestFit 72 password.toList (truncatePassword password).toList ∧
        truncatePassword (truncatePassword password) = truncatePassword password) ∧
    ∀ answers state vm id createdAt request user after,
      registerUser lower hash answers state vm id createdAt request = (.ok user, after) →
      loginRow after vm request.email = some user ∧
      ∀ later at_, loginRow later at_ request.email = some user → ∀ attempt : String,
        (login verify later at_ request.email attempt).isSome = true ↔
          ∃ kept, Utf8.LongestFit 72 request.password.toList kept ∧
            Utf8.LongestFit 72 attempt.toList kept := by
  constructor
  · intro password
    exact ⟨truncatePassword_longest password, truncatePassword_idem password⟩
  · intro answers state vm id createdAt request user after registered
    obtain ⟨stored, email, made⟩ := registerUser_ok registered
    rw [← email]
    constructor
    · rw [loginRow, IndexedTable.findBy?_of_mem stored]
    · intro later at_ row attempt
      rw [login_isSome_iff checks made row, ← truncatePassword_eq_iff, eq_comm]

def ada : RegisterRequest := ⟨"ada@traffic.ie", "swordfish", "DRIVER", none, none⟩

theorem login_accepts_prefixed :
    (login (fun attempt hashed => "$2b$" ++ attempt = hashed)
      (registerUser String.toLower (fun password => some ("$2b$" ++ password)) (fun _ => .ok)
        .initial .vm1 7 0 ada).2 .vm1 ada.email "swordfish").isSome = true := by
  have checks (password hashed : String) (made : some ("$2b$" ++ password) = some hashed)
      (attempt : String) : decide ("$2b$" ++ attempt = hashed) = true ↔ attempt = password := by
    cases made
    simp
  obtain ⟨row, accepts⟩ := (login_accepts String.toLower (fun password => some ("$2b$" ++ password))
    (fun attempt hashed => "$2b$" ++ attempt = hashed) checks).2 (fun _ => .ok) .initial .vm1 7 0
    ada _ _ rfl
  exact (accepts _ .vm1 row "swordfish").mpr
    ⟨_, truncatePassword_longest _, truncatePassword_longest _⟩

/-! ### Errors after the claim -/

/-- What a failed request is to leave: no row, no key, and so nothing that refuses a retry. -/
def Undone (lower : String → String) (hash : String → Option String) (state after : State)
    (email : Email) : Prop :=
  after.users = state.users ∧ after.emailKeys (lower email) = none ∧
    ∀ answers vm id createdAt (retry : RegisterRequest), retry.email = email →
      (registerUser lower hash answers after vm id createdAt retry).1 ≠
        .error (.valueError (claimed email))

/-- The failures that the code undoes: an email found in the replica, and a commit that has
stored nothing, if the rollback goes through. -/
def undoes (hash : String → Option String) (answers : Await → Reply) (state : State) (vm : Vm)
    (id : UserId) (createdAt : DateTime) (request : RegisterRequest) : Bool :=
  answers .lookup = .ok &&
    (((state.replica vm).findBy? request.email).isSome ||
      (hash (truncatePassword request.password)).any fun hashed =>
        answers .publish = .ok && answers .rollback = .ok &&
          (answers .commit = .raise ||
            (state.users vm).conflicts (request.user id hashed createdAt)))

theorem claimed_ne_replicated (email : Email) : claimed email ≠ replicated email := by
  intro same
  have lengths := congrArg String.length same
  rw [claimed, replicated, String.length_append, String.length_append, String.length_append,
    String.length_append, Nat.add_left_cancel_iff] at lengths
  exact absurd lengths (by decide)

theorem registerUser_not_claimed (absent : state.emailKeys (lower request.email) = none) :
    (registerUser lower hash answers state vm id createdAt request).1 ≠
      .error (.valueError (claimed request.email)) := by
  intro refused
  have free : state.emailKeys.get state.now (lower request.email) = none := by
    rw [Leases.get, absent]
  obtain ⟨held, _⟩ | ⟨_, ⟨_, _, failed⟩ | ⟨_, course⟩⟩ :=
    registerUser_cases lower hash answers state vm id createdAt request
  · rw [free] at held
    cases held
  · rw [failed] at refused
    cases refused
  · obtain ⟨_, other, _⟩ | other | other | ⟨_, other⟩ := course.ending
    · rw [refused] at other
      cases other
    · rw [refused, Except.error.injEq, RegisterError.valueError.injEq] at other
      exact claimed_ne_replicated request.email other
    · rw [refused] at other
      cases other
    · rw [refused] at other
      cases other

def Reverted (lower : String → String) (state after : State) (email : Email) : Prop :=
  after.users = state.users ∧ after.emailKeys (lower email) = none

theorem undone_iff {email : Email} :
    Undone lower hash state after email ↔ Reverted lower state after email := by
  constructor
  · rintro ⟨users, absent, _⟩
    exact ⟨users, absent⟩
  · rintro ⟨users, absent⟩
    refine ⟨users, absent, ?_⟩
    rintro answers vm id createdAt retry rfl
    exact registerUser_not_claimed absent

theorem undoRegistration_users :
    (undoRegistration lower answers state user raised).2.users = state.users := by
  rw [undoRegistration]
  cases answers .rollback with
  | ok => cases answers .unlock with
    | ok | raise | raiseApplied => rfl
  | raise | raiseApplied => rfl

theorem undoRegistration_key (unlocked : answers .unlock = .ok)
    (held : state.emailKeys (lower user.email) ≠ none) :
    (undoRegistration lower answers state user raised).2.emailKeys (lower user.email) = none ↔
      answers .rollback = .ok := by
  rw [undoRegistration, unlocked]
  cases answers .rollback with
  | ok => simp [publishEvent, Reply.apply, Leases.delete]
  | raise | raiseApplied => simp [held]

theorem update_ne_of_insert {users : UserTable}
    (inserted : (state.users vm).insert? user = some users) :
    Function.update state.users vm users ≠ state.users := by
  intro same
  have rows := (IndexedTable.insert?_eq_some inserted).2
  rw [← Function.update_self vm users state.users, same] at rows
  exact absurd (congrArg List.length rows) (by simp)

theorem commitUser_reverted (unlocked : answers .unlock = .ok)
    (held : state.emailKeys (lower user.email) ≠ none)
    (failed : ∃ error, (commitUser lower answers state vm user).1 = .error error) :
    Reverted lower state (commitUser lower answers state vm user).2 user.email ↔
      answers .rollback = .ok ∧
        (answers .commit = .raise ∨ (state.users vm).conflicts user = true) := by
  have back : Reverted lower state (undoRegistration lower answers state user .commit).2
      user.email ↔ answers .rollback = .ok := by
    rw [Reverted, undoRegistration_users, undoRegistration_key unlocked held]
    exact and_iff_right rfl
  obtain ⟨error, failed⟩ := failed
  rw [commitUser] at failed ⊢
  cases inserted : (state.users vm).insert? user with
  | none =>
      have taken := IndexedTable.insert?_eq_none.mp inserted
      simp only [back, taken, or_true, and_true]
  | some users =>
      have free := (IndexedTable.insert?_eq_some inserted).1
      have stays (last : Await) : ¬ Reverted lower state (undoRegistration lower answers
          { state with users := Function.update state.users vm users } user last).2 user.email := by
        rintro ⟨unchanged, _⟩
        rw [undoRegistration_users] at unchanged
        exact update_ne_of_insert inserted unchanged
      rw [inserted] at failed
      cases answered : answers .commit with
      | ok =>
          rw [answered] at failed
          cases refreshed : answers .refresh with
          | ok =>
              rw [refreshed] at failed
              cases failed
          | raise | raiseApplied => simp [stays, free]
      | raise => simp only [back, true_or, and_true]
      | raiseApplied => simp [stays, free]

theorem registerClaimed_reverted {result : CallResult}
    (course : Course lower hash answers state vm id createdAt request result)
    (released : answers .release = .ok) (unlocked : answers .unlock = .ok)
    (held : state.emailKeys (lower request.email) ≠ none)
    (failed : ∃ error, result.1 = .error error) :
    Reverted lower state result.2 request.email ↔
      undoes hash answers state vm id createdAt request = true := by
  cases course with
  | lookupFails raised => simp [Reverted, undoes, held, raised]
  | refuses looked found =>
      simp [Reverted, undoes, looked, found, refuseReplicated, released, Reply.apply,
        Leases.delete]
  | hashFails looked absent unhashed => simp [Reverted, undoes, held, absent, unhashed]
  | publishes hashed looked absent made =>
      obtain ⟨raised, failing⟩ | ⟨published, committing⟩ :=
        publishUser_cases lower answers state vm (request.user id hashed createdAt)
      · rw [failing]
        simp [Reverted, undoes, publishEvent, held, raised, absent, made]
      · rw [committing] at failed ⊢
        rw [undoes]
        simp only [looked, absent, made, published, Option.isSome_none, Option.any_some,
          decide_true, Bool.true_and, Bool.false_or, Bool.and_eq_true, Bool.or_eq_true,
          decide_eq_true_eq]
        exact commitUser_reverted unlocked held failed

/-- With Redis up and the claim won, a failed call leaves nothing behind exactly where the
failure is one that the code undoes. -/
theorem registration_undone_iff (lower : String → String) (hash : String → Option String)
    (answers : Await → Reply) (state : State) (vm : Vm) (id : UserId) (createdAt : DateTime)
    (request : RegisterRequest)
    (free : state.emailKeys.get state.now (lower request.email) = none)
    (available : ∀ call ∈ [Await.claim, .release, .unlock], answers call = .ok)
    (failed : ∃ error,
      (registerUser lower hash answers state vm id createdAt request).1 = .error error) :
    Undone lower hash state (registerUser lower hash answers state vm id createdAt request).2
      request.email ↔ undoes hash answers state vm id createdAt request = true := by
  have claims : answers .claim = .ok := available .claim (by simp)
  have held : (claimedBy lower state request.email).emailKeys (lower request.email) ≠ none := by
    simp [claimedBy]
  obtain ⟨taken, _⟩ | ⟨_, ⟨raised, _⟩ | ⟨_, course⟩⟩ :=
    registerUser_cases lower hash answers state vm id createdAt request
  · rw [free] at taken
    cases taken
  · exact absurd claims raised
  · have reverted := registerClaimed_reverted course (available .release (by simp))
      (available .unlock (by simp)) held failed
    rw [undone_iff]
    exact reverted

end

def adaFailing (call : Await) : CallResult :=
  registerUser id some (fun other => if other = call then .raise else .ok) .initial
    .vm1 7 0 ada

theorem registration_undone_commit :
    Undone id some .initial (adaFailing .commit).2 ada.email :=
  (registration_undone_iff id some _ .initial .vm1 7 0 ada rfl (by decide)
    ⟨_, rfl⟩).mpr (by decide)

/-- With the broker down the key stays and refuses a retry. A row that cannot be read back
stays with its key gone. -/
theorem registration_not_undone :
    (adaFailing .publish).1 = .error (.raised .publish) ∧
    ¬ Undone id some .initial (adaFailing .publish).2 ada.email ∧
    (registerUser id some (fun _ => .ok) (adaFailing .publish).2 .vm1 8 0 ada).1 =
      .error (.valueError (claimed ada.email)) ∧
    (adaFailing .refresh).1 = .error (.raised .refresh) ∧
    ¬ Undone id some .initial (adaFailing .refresh).2 ada.email := by
  refine ⟨rfl, ?_, rfl, rfl, ?_⟩
  · rintro ⟨_, absent, _⟩
    cases absent
  · rintro ⟨unchanged, _⟩
    have rows := congrArg (fun users => (users Vm.vm1).rows) unchanged
    cases rows

end TrafficService.Auth
