import TrafficService.RegistrationRefinement
import TrafficService.UserReplication

/-!
The tokens of the auth service: what a login is granted, how long every service accepts it, and
whose profile it opens on either VM.
-/

namespace TrafficService.Auth

def jwtExpiryMinutes : Nat := 60

structure Payload where
  sub : UserId
  role : String
  exp : Nat
  iat : Nat
  email : Email
  deriving DecidableEq

inductive JwtError
  | expiredSignature
  | invalidToken
  deriving DecidableEq

/-- `jwt.encode` and `jwt.decode` under the secret the services share, the latter at a time. -/
structure Jwt where
  Token : Type
  encode : Payload → Token
  decode : Nat → Token → Except JwtError Payload
  decode_encode : ∀ now payload, decode now (encode payload) =
    if now < payload.iat then .error .invalidToken
    else if payload.exp ≤ now then .error .expiredSignature
    else .ok payload

structure HttpException where
  statusCode : Nat
  detail : String
  deriving DecidableEq

structure TokenResponse (Token : Type) where
  accessToken : Token
  userId : UserId
  role : String

structure UserProfile where
  id : UserId
  email : Email
  role : String
  plateNumber : Option Plate
  region : Option String
  deriving DecidableEq

def User.profile (user : User) : UserProfile where
  id := user.id
  email := user.email
  role := user.role
  plateNumber := user.plateNumber
  region := user.region

def User.payload (user : User) (now : Nat) : Payload where
  sub := user.id
  role := user.role
  exp := now + jwtExpiryMinutes * 60
  iat := now
  email := user.email

/-- A local row before a replicated one; `none` is `UserNotFoundError`. -/
def getUserById (state : State) (vm : Vm) (userId : UserId) : Option User :=
  match (state.users vm).find? userId with
  | some user => some user
  | none => (state.replica vm).find? userId

def tokenExpired : HttpException := ⟨401, "Token expired"⟩

def userNotFound (userId : UserId) : HttpException := ⟨404, "User " ++ toString userId ++ " not found"⟩

section

variable (jwt : Jwt)

def createAccessToken (now : Nat) (user : User) : jwt.Token := jwt.encode (user.payload now)

def verifyToken (now : Nat) (token : jwt.Token) : Except HttpException Payload :=
  match jwt.decode now token with
  | .ok payload => .ok payload
  | .error .expiredSignature => .error tokenExpired
  | .error .invalidToken => .error ⟨401, "Invalid token"⟩

def loginEndpoint (verify : String → String → Bool) (state : State) (vm : Vm) (email : Email)
    (password : String) : Except HttpException (TokenResponse jwt.Token) :=
  match login verify state vm email password with
  | none => .error ⟨401, "Invalid email or password"⟩
  | some user => .ok ⟨createAccessToken jwt state.now user, user.id, user.role⟩

/-- `POST /register`, for a call that nothing interrupts; `str` is the text of an exception. -/
def registerEndpoint (lower : String → String) (hash : String → Option String)
    (verify : String → String → Bool) (str : RegisterError → String) (answers : Await → Reply)
    (state : State) (vm : Vm) (id : UserId) (createdAt : DateTime) (request : RegisterRequest) :
    Except HttpException (TokenResponse jwt.Token) × State :=
  match registerUser lower hash answers state vm id createdAt request with
  | (.error error, after) => (.error ⟨400, str error⟩, after)
  | (.ok user, after) =>
      match login verify after vm request.email request.password with
      | none => (.error ⟨400, "Invalid email or password"⟩, after)
      | some found => (.ok ⟨createAccessToken jwt after.now found, user.id, user.role⟩, after)

def profile (state : State) (vm : Vm) (token : jwt.Token) : Except HttpException UserProfile :=
  match verifyToken jwt state.now token with
  | .error error => .error error
  | .ok currentUser =>
      match getUserById state vm currentUser.sub with
      | none => .error (userNotFound currentUser.sub)
      | some user => .ok user.profile

def User.enforces (user : User) : Bool := user.role = "enforcement_agent" || user.role = "admin"

def notEnforcing : HttpException :=
  ⟨403, "Only enforcement agents and admins can verify plate numbers."⟩

def requireEnforcement (now : Nat) (token : jwt.Token) : Except HttpException Payload :=
  match verifyToken jwt now token with
  | .error error => .error error
  | .ok currentUser =>
      if currentUser.role ≠ "enforcement_agent" ∧ currentUser.role ≠ "admin" then
        .error notEnforcing
      else .ok currentUser

end

/-! ### The rows a run can hold -/

def Registered (state : State) (user : User) : Prop :=
  ∃ registration, state.registrations.find? user.id = some registration ∧ registration.user = user

section

variable {lower : String → String} {state next later : State} {action : Action} {user other : User}

theorem Registered.unique (registered : Registered state user) (also : Registered state other)
    (same : other.id = user.id) : other = user := by
  obtain ⟨registration, found, rfl⟩ := registered
  obtain ⟨second, known, rfl⟩ := also
  rw [same, found, Option.some.injEq] at known
  rw [known]

theorem Registered.moved (registered : Registered state user) (moved : Moved state action next) :
    Registered next user := by
  obtain ⟨before, found, same⟩ := registered
  obtain ⟨after, present, continues⟩ := registrations_kept moved found
  exact ⟨after, present, continues.user.trans same⟩

theorem Traced.registered_users (traced : Traced state) {vm : Vm}
    (member : user ∈ (state.users vm).rows) : Registered state user := by
  obtain ⟨registration, found, same, _⟩ := traced.stored vm user member
  exact ⟨registration, found, same⟩

theorem Traced.registered_replica (traced : Traced state) {vm : Vm}
    (member : user ∈ (state.replica vm).rows) : Registered state user :=
  traced.announced user (traced.replicated vm user member)

theorem Traced.registered_found (traced : Traced state) {vm : Vm} {userId : UserId}
    (found : getUserById state vm userId = some user) : Registered state user ∧ user.id = userId := by
  rw [getUserById] at found
  split at found
  · next row known =>
      cases found
      exact ⟨traced.registered_users (KeyedTable.mem_of_find? known), KeyedTable.key_of_find? known⟩
  · exact ⟨traced.registered_replica (KeyedTable.mem_of_find? found), KeyedTable.key_of_find? found⟩

theorem Traced.registered_login (traced : Traced state) {vm : Vm} {email : Email}
    (found : loginRow state vm email = some user) : Registered state user := by
  rw [loginRow] at found
  split at found
  · next row known =>
      cases found
      exact traced.registered_users (IndexedTable.findBy?_eq_some known).1
  · exact traced.registered_replica (IndexedTable.findBy?_eq_some found).1

theorem now_le_moved (moved : Moved state action next) : state.now ≤ next.now := by
  cases moved with
  | ticked elapsed => exact Nat.le_add_right ..
  | _ => exact Nat.le_refl _

/-- What the rest of a run leaves of a login: the clock, the registration and the local rows. -/
structure Outlives (state later : State) : Prop where
  now : state.now ≤ later.now
  registered : ∀ user, Registered state user → Registered later user
  users : ∀ vm, ∀ user ∈ (state.users vm).rows, user ∈ (later.users vm).rows

theorem outlives_of_run {actions : List Action}
    (executed : Lts.run (step lower) state actions = some later) : Outlives state later := by
  refine @Lts.Reachable.invariant _ _ (step lower) (Outlives state) ?_ state later
    ⟨actions, executed⟩ ⟨Nat.le_refl _, fun _ registered => registered, fun _ _ member => member⟩
  intro middle action next outlives stepped
  have moved := moved_of_step stepped
  exact {
    now := Nat.le_trans outlives.now (now_le_moved moved)
    registered := fun user registered => (outlives.registered user registered).moved moved
    users := fun vm user member => users_kept moved (outlives.users vm user member) }

end

/-! ### What a login is granted -/

/-- What a token is good for, from the login on that was granted it with the row of `user`. -/
structure Session (jwt : Jwt) (user : User) (granted : State) (token : jwt.Token) (later : State) :
    Prop where
  /-- Every service accepts it for an hour to the second, and reads the same from it. -/
  accepted : verifyToken jwt later.now token =
    if later.now < granted.now + 3600 then .ok (user.payload granted.now) else .error tokenExpired
  enforcement : requireEnforcement jwt later.now token =
    if later.now < granted.now + 3600 then
      if user.enforces then .ok (user.payload granted.now) else .error notEnforcing
    else .error tokenExpired
  /-- No VM takes its bearer for someone else. -/
  own : ∀ vm, getUserById later vm user.id = none ∨ getUserById later vm user.id = some user
  home : ∀ vm, user ∈ (granted.users vm).rows → getUserById later vm user.id = some user
  profile : ∀ vm, profile jwt later vm token =
    if later.now < granted.now + 3600 then
      if getUserById later vm user.id = none then .error (userNotFound user.id)
      else .ok user.profile
    else .error tokenExpired

section

variable {jwt : Jwt} {lower : String → String} {verify : String → String → Bool}
  {state later : State} {user : User} {vm : Vm} {email : Email} {password : String}

theorem verifyToken_granted (outlives : Outlives state later) :
    verifyToken jwt later.now (createAccessToken jwt state.now user) =
      if later.now < state.now + 3600 then .ok (user.payload state.now)
      else .error tokenExpired := by
  have issued : ¬ later.now < (user.payload state.now).iat := Nat.not_lt.mpr outlives.now
  have expiry : (user.payload state.now).exp = state.now + 3600 := rfl
  rw [verifyToken, createAccessToken, jwt.decode_encode, if_neg issued, expiry]
  by_cases valid : later.now < state.now + 3600
  · rw [if_neg (Nat.not_le.mpr valid), if_pos valid]
  · rw [if_pos (Nat.not_lt.mp valid), if_neg valid]

theorem getUserById_later (traced : Traced later) (outlives : Outlives state later)
    (registered : Registered state user) (vm : Vm) :
    getUserById later vm user.id = none ∨ getUserById later vm user.id = some user := by
  cases found : getUserById later vm user.id with
  | none => exact .inl rfl
  | some row =>
      obtain ⟨known, same⟩ := traced.registered_found found
      rw [(outlives.registered user registered).unique known same]
      exact .inr rfl

theorem getUserById_home (member : user ∈ (later.users vm).rows) :
    getUserById later vm user.id = some user := by
  have row : (later.users vm).find? user.id = some user := KeyedTable.find?_of_mem member
  rw [getUserById, row]

theorem requireEnforcement_granted (outlives : Outlives state later) :
    requireEnforcement jwt later.now (createAccessToken jwt state.now user) =
      if later.now < state.now + 3600 then
        if user.enforces then .ok (user.payload state.now) else .error notEnforcing
      else .error tokenExpired := by
  have role : (user.payload state.now).role = user.role := rfl
  rw [requireEnforcement, verifyToken_granted outlives]
  by_cases valid : later.now < state.now + 3600
  · rw [if_pos valid, if_pos valid]
    simp only [role, User.enforces, Bool.or_eq_true, decide_eq_true_eq]
    by_cases agent : user.role = "enforcement_agent"
    · simp [agent]
    · by_cases admin : user.role = "admin" <;> simp [agent, admin]
  · rw [if_neg valid, if_neg valid]

theorem session_of_outlives (traced : Traced later) (outlives : Outlives state later)
    (registered : Registered state user) :
    Session jwt user state (createAccessToken jwt state.now user) later := by
  have accepted := @verifyToken_granted jwt state later user outlives
  have own := getUserById_later traced outlives registered
  refine ⟨accepted, requireEnforcement_granted outlives, own, ?_, ?_⟩
  · intro vm member
    exact getUserById_home (outlives.users vm user member)
  intro vm
  rw [Auth.profile, accepted]
  by_cases valid : later.now < state.now + 3600
  · rw [if_pos valid, if_pos valid]
    rcases own vm with missing | found
    · rw [if_pos missing]
      simp only [User.payload, missing]
    · rw [if_neg (by simp [found])]
      simp only [User.payload, found]
  · rw [if_neg valid, if_neg valid]

theorem loginEndpoint_eq_ok {response : TokenResponse jwt.Token}
    (granted : loginEndpoint jwt verify state vm email password = .ok response) :
    ∃ user, login verify state vm email password = some user ∧
      response = ⟨createAccessToken jwt state.now user, user.id, user.role⟩ := by
  rw [loginEndpoint] at granted
  split at granted
  · cases granted
  · next user found =>
      cases granted
      exact ⟨user, found, rfl⟩

/-- Whatever registrations, replications and compensations go on after a login, its token opens
what it was granted for and expires after an hour, on every VM. -/
theorem login_session {before after : List Action} {response : TokenResponse jwt.Token}
    (executed : Lts.run (step lower) .initial before = some state)
    (continued : Lts.run (step lower) state after = some later)
    (granted : loginEndpoint jwt verify state vm email password = .ok response) :
    ∃ user, login verify state vm email password = some user ∧ response.userId = user.id ∧
      response.role = user.role ∧ Session jwt user state response.accessToken later := by
  obtain ⟨user, found, rfl⟩ := loginEndpoint_eq_ok granted
  have row : loginRow state vm email = some user := (Option.filter_eq_some_iff.mp found).1
  have registered := (Traced.of_run executed).registered_login row
  have whole : Lts.run (step lower) .initial (before ++ after) = some later :=
    (Lts.run_append executed).trans continued
  exact ⟨user, found, rfl, rfl,
    session_of_outlives (Traced.of_run whole) (outlives_of_run continued) registered⟩

def plainJwt : Jwt where
  Token := Payload
  encode payload := payload
  decode now payload :=
    if now < payload.iat then .error .invalidToken
    else if payload.exp ≤ now then .error .expiredSignature
    else .ok payload
  decode_encode _ _ := rfl

/-- A user registered on the first VM logs in on the second, and is let in for another hour. -/
theorem login_session_replicated : ∃ state later,
    Lts.run (step id) .initial (registering .vm1 alice ++ consuming .vm2) = some state ∧
    Lts.run (step id) state [.tick 3599] = some later ∧
    profile plainJwt later .vm2 (alice.payload state.now) = .ok alice.profile ∧
    Session plainJwt alice state (alice.payload state.now) later := by
  have ran : (Lts.run (step id) .initial (registering .vm1 alice ++ consuming .vm2)).any
      (fun state => loginRow state .vm2 alice.email = some alice ∧
        getUserById state .vm2 alice.id = some alice) = true := by
    decide +kernel
  obtain ⟨state, executed, outcome⟩ := (Option.any_eq_true ..).mp ran
  obtain ⟨row, found⟩ := of_decide_eq_true outcome
  have password : truncatePassword "hash" = "hash" := by decide +kernel
  have login : login (· = ·) state .vm2 alice.email "hash" = some alice := by
    rw [Auth.login, authenticateUser, row, password]
    rfl
  have granted : loginEndpoint plainJwt (· = ·) state .vm2 alice.email "hash" =
      .ok ⟨alice.payload state.now, alice.id, alice.role⟩ := by
    rw [loginEndpoint, login]
    rfl
  have continued : Lts.run (step id) state [.tick 3599] =
      some { state with now := state.now + 3599 } := rfl
  obtain ⟨user, same, _, _, session⟩ := login_session executed continued granted
  cases login.symm.trans same
  have still : getUserById { state with now := state.now + 3599 } .vm2 alice.id = some alice := found
  refine ⟨state, _, executed, continued, ?_, session⟩
  rw [session.profile .vm2, still, if_pos (Nat.add_lt_add_left (by decide) _), if_neg (by simp)]

theorem registerEndpoint_eq_ok {hash : String → Option String} {str : RegisterError → String}
    {answers : Await → Reply} {after : State} {id : UserId} {createdAt : DateTime}
    {request : RegisterRequest} {response : TokenResponse jwt.Token}
    (answered : registerEndpoint jwt lower hash verify str answers state vm id createdAt request =
      (.ok response, after)) :
    ∃ user, registerUser lower hash answers state vm id createdAt request = (.ok user, after) ∧
      user ∈ (after.users vm).rows ∧
      response = ⟨createAccessToken jwt after.now user, user.id, user.role⟩ := by
  rw [registerEndpoint] at answered
  split at answered
  · cases answered
  · next user stored registered =>
      obtain ⟨member, email, _⟩ := registerUser_ok registered
      have row : loginRow stored vm request.email = some user := by
        rw [loginRow, ← email, IndexedTable.findBy?_of_mem member]
      split at answered
      · cases answered
      · next found accepted =>
          have same : loginRow stored vm request.email = some found :=
            (Option.filter_eq_some_iff.mp accepted).1
          cases row.symm.trans same
          cases answered
          exact ⟨user, registered, member, rfl⟩

/-- The token a registration is answered with is that of the row it has stored, and the VM that
has stored it knows its bearer from then on. -/
theorem registered_session {hash : String → Option String} {str : RegisterError → String}
    {answers : Await → Reply} {before : List Action} {after : State} {id : UserId}
    {createdAt : DateTime} {request : RegisterRequest} {response : TokenResponse jwt.Token}
    (executed : Lts.run (step lower) .initial before = some state)
    (fresh : state.registrations.find? id = none)
    (answered : registerEndpoint jwt lower hash verify str answers state vm id createdAt request =
      (.ok response, after)) :
    ∃ user ∈ (after.users vm).rows, user.email = request.email ∧ response.userId = user.id ∧
      ∃ registrations, Lts.Reachable (step lower) state { after with registrations } ∧
        ∀ actions later, Lts.run (step lower) { after with registrations } actions = some later →
          Session jwt user { after with registrations } response.accessToken later ∧
            getUserById later vm user.id = some user := by
  obtain ⟨user, registered, member, rfl⟩ := registerEndpoint_eq_ok answered
  obtain ⟨registrations, reached, _⟩ :=
    registerUser_reachable lower hash answers state vm id createdAt request fresh
  rw [registered] at reached
  obtain ⟨actions, calling⟩ := reached
  refine ⟨user, member, (registerUser_ok registered).2.1, rfl, registrations, ⟨actions, calling⟩, ?_⟩
  intro rest later continued
  have stored : user ∈ (({ after with registrations } : State).users vm).rows := member
  have begun := (Lts.run_append executed).trans calling
  have known := (Traced.of_run begun).registered_users stored
  have traced := Traced.of_run ((Lts.run_append begun).trans continued)
  have session := @session_of_outlives jwt _ later user traced (outlives_of_run continued) known
  exact ⟨session, session.home vm stored⟩

def registeringAda : Except HttpException (TokenResponse Payload) × State :=
  registerEndpoint plainJwt id (fun password => some ("$2b$" ++ password))
    (fun attempt hashed => "$2b$" ++ attempt = hashed) (fun _ => "") (fun _ => .ok) .initial .vm1 7
    0 ada

theorem registered_session_ada : ∃ response, registeringAda.1 = .ok response ∧
    ∃ user ∈ (registeringAda.2.users .vm1).rows, user.email = "ada@traffic.ie" ∧
      response.userId = user.id ∧
      ∃ registrations,
        Lts.Reachable (step id) .initial { registeringAda.2 with registrations } ∧
        ∀ actions later,
          Lts.run (step id) { registeringAda.2 with registrations } actions = some later →
            Session plainJwt user { registeringAda.2 with registrations } response.accessToken
                later ∧
              getUserById later .vm1 user.id = some user := by
  have answered : registeringAda.1.toOption.isSome = true := by decide +kernel
  cases outcome : registeringAda.1 with
  | error error =>
      rw [outcome] at answered
      cases answered
  | ok response =>
      exact ⟨response, rfl,
        registered_session (rfl : Lts.run (step id) .initial [] = some .initial) rfl
          (Prod.ext outcome rfl)⟩

end

end TrafficService.Auth
