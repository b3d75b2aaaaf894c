import TrafficService.Sessions

/-!
The session of the frontend: the token and the user a browser keeps over sign-ins, sign-ups,
reloads and answers in any order, and the pages it then shows. One tab is assumed: all tabs of a
browser share its `localStorage`, and another one would write to what this one keeps.
-/

namespace TrafficService.AuthContext

open Auth

inductive UserRole
  | driver
  | enforcement
  | admin
  deriving DecidableEq

inductive Region
  | ie
  | gb
  | fr
  deriving DecidableEq

/-- What a key of an object literal finds: a value of the literal, a member that every object
inherits, or what JSON leaves of such a member, an empty object or nothing. -/
inductive Entry (α : Type)
  | own (value : α)
  | inherited (key : String)
  | emptyObject
  | undefined
  deriving DecidableEq

def objectPrototype : List String := [
  "constructor", "__defineGetter__", "__defineSetter__", "hasOwnProperty", "__lookupGetter__",
  "__lookupSetter__", "isPrototypeOf", "propertyIsEnumerable", "toString", "valueOf", "__proto__",
  "toLocaleString"]

section

variable {α : Type}

/-- `literal[key] ?? fallback`. Nothing that is inherited is null. -/
def Entry.lookup (literal : List (String × α)) (key : String) (fallback : α) : Entry α :=
  match literal.lookup key with
  | some value => .own value
  | none => if key ∈ objectPrototype then .inherited key else .own fallback

theorem Entry.lookup_own {literal : List (String × α)} {key : String} {value : α}
    (found : literal.lookup key = some value) (fallback : α) :
    Entry.lookup literal key fallback = .own value := by
  rw [Entry.lookup, found]

/-- An entry that has been through `JSON.stringify` and `JSON.parse`. Functions are left out. -/
def Entry.reparsed : Entry α → Entry α
  | .own value => .own value
  | .inherited key => if key = "__proto__" then .emptyObject else .undefined
  | .emptyObject => .emptyObject
  | .undefined => .undefined

theorem Entry.reparsed_reparsed (entry : Entry α) : entry.reparsed.reparsed = entry.reparsed := by
  cases entry with
  | inherited key => by_cases proto : key = "__proto__" <;> simp [reparsed, proto]
  | own | emptyObject | undefined => rfl

@[simp] theorem Entry.reparsed_eq_own {entry : Entry α} {value : α} :
    entry.reparsed = .own value ↔ entry = .own value := by
  cases entry with
  | inherited key =>
      simp only [reparsed]
      split <;> simp
  | own | emptyObject | undefined => simp [reparsed]

end

def regionMap : List (String × Region) := [
  ("EU_WEST_IRELAND", .ie),
  ("EU_WEST_UK", .gb),
  ("EU_WEST_FRANCE", .fr),
  ("IE", .ie), ("GB", .gb), ("FR", .fr)]

def roleMap : List (String × UserRole) := [
  ("driver", .driver),
  ("enforcement_agent", .enforcement),
  ("admin", .admin)]

def regionToBackend : Region → String
  | .ie => "EU_WEST_IRELAND"
  | .gb => "EU_WEST_UK"
  | .fr => "EU_WEST_FRANCE"

def backendRole : UserRole → String
  | .driver => "driver"
  | .enforcement => "enforcement_agent"
  | .admin => "admin"

theorem roleMap_backendRole (role : UserRole) :
    roleMap.lookup (backendRole role) = some role := by
  cases role <;> rfl

example : Entry.lookup roleMap "constructor" .driver = .inherited "constructor" := by decide

theorem regionMap_regionToBackend (region : Region) :
    regionMap.lookup (regionToBackend region) = some region := by
  cases region <;> rfl

structure User where
  id : UserId
  email : Email
  role : Entry UserRole
  region : Entry Region
  plateNumber : Option Plate
  deriving DecidableEq

def User.reparsed (user : User) : User :=
  { user with role := user.role.reparsed, region := user.region.reparsed }

theorem User.reparsed_reparsed (user : User) : user.reparsed.reparsed = user.reparsed := by
  simp only [User.reparsed, Entry.reparsed_reparsed]

structure SignUp where
  email : Email
  password : String
  role : UserRole
  region : Region
  plateNumber : Option Plate
  deriving DecidableEq

def SignUp.payload (form : SignUp) : RegisterRequest where
  email := form.email
  password := form.password
  role := backendRole form.role
  plateNumber := form.plateNumber.filter (· ≠ "")
  region := some (regionToBackend form.region)

section

variable {Token : Type}

def signInData (email : Email) (response : TokenResponse Token) (profile : UserProfile) : User where
  id := response.userId
  email := email
  role := .lookup roleMap response.role .driver
  region := .lookup regionMap (profile.region.getD "") .ie
  plateNumber := profile.plateNumber

def signUpData (form : SignUp) (response : TokenResponse Token) : User where
  id := response.userId
  email := form.email
  role := .own form.role
  region := .own form.region
  plateNumber := form.plateNumber

inductive Call (Token : Type)
  | loggingIn (email : Email) (password : String)
  | profiling (email : Email) (response : TokenResponse Token)
  | registering (form : SignUp)

/-- What `localStorage` holds, the user as a page reads it back, the default header of the client,
the user that is shown, and the calls under way. -/
structure Page (Token : Type) where
  token : Option Token
  stored : Option User
  authorization : Option Token
  user : Option User
  calls : List (Call Token)

def signedOut : Page Token := ⟨none, none, none, none, []⟩

/-- The bearer of the next request: the token of `localStorage` before the default header. -/
def Page.bearer (page : Page Token) : Option Token := page.token.or page.authorization

/-- A page that is opened anew. Nothing comes of the calls of the one before. -/
def Page.reload (page : Page Token) : Page Token :=
  match page.token, page.stored with
  | some token, some stored =>
      { page with authorization := some token, user := some stored, calls := [] }
  | _, _ => { page with authorization := none, user := none, calls := [] }

/-- The interceptor of the answers. A 401 clears the session and leaves for the sign-in page. -/
def Page.rejected (page : Page Token) (error : Option HttpException) : Page Token :=
  if error.any (·.statusCode = 401) then signedOut else page

inductive Event (Token : Type)
  | reload
  | signIn (email : Email) (password : String)
  | signUp (form : SignUp)
  | signOut
  /-- A request of one of the pages is answered with a 401. -/
  | unauthorized
  | loginAnswered (index : Nat) (answer : Except (Option HttpException) (TokenResponse Token))
  | profileAnswered (index : Nat) (answer : Except (Option HttpException) UserProfile)
  | registerAnswered (index : Nat) (answer : Except (Option HttpException) (TokenResponse Token))

/-- Who is signed in is led away from the two forms, and who is not sees nothing else. The form for
drivers requires a plate, the other sends none. -/
def step (page : Page Token) : Event Token → Option (Page Token)
  | .reload => some page.reload
  | .signIn email password =>
      if page.user = none then
        some { page with calls := page.calls ++ [.loggingIn email password] }
      else none
  | .signUp form =>
      if page.user = none ∧ form.plateNumber ≠ some "" then
        some { page with calls := page.calls ++ [.registering form] }
      else none
  | .signOut =>
      if page.user = none then none else some { (signedOut : Page Token) with calls := page.calls }
  | .unauthorized => some signedOut
  | .loginAnswered index answer =>
      match page.calls[index]?, answer with
      | some (.loggingIn email _), .ok response =>
          some { page with
            token := some response.accessToken
            authorization := some response.accessToken
            calls := page.calls.set index (.profiling email response) }
      | some (.loggingIn _ _), .error error =>
          some ({ page with calls := page.calls.eraseIdx index }.rejected error)
      | _, _ => none
  | .profileAnswered index answer =>
      match page.calls[index]?, answer with
      | some (.profiling email response), .ok profile =>
          some { page with
            stored := some (signInData email response profile).reparsed
            user := some (signInData email response profile)
            calls := page.calls.eraseIdx index }
      | some (.profiling _ _), .error error =>
          some ({ page with calls := page.calls.eraseIdx index }.rejected error)
      | _, _ => none
  | .registerAnswered index answer =>
      match page.calls[index]?, answer with
      | some (.registering form), .ok response =>
          some {
            token := some response.accessToken
            stored := some (signUpData form response).reparsed
            authorization := some response.accessToken
            user := some (signUpData form response)
            calls := page.calls.eraseIdx index }
      | some (.registering _), .error error =>
          some ({ page with calls := page.calls.eraseIdx index }.rejected error)
      | _, _ => none

/-! ### The pages -/

inductive Shown
  | children
  | navigate (path : String)
  deriving DecidableEq

def defaultRedirect : Entry UserRole → String
  | .own .enforcement => "/verify"
  | .own .admin => "/dashboard"
  | _ => "/book"

def roleGuard (user : Option User) (roles : List UserRole) : Shown :=
  match user with
  | none => .navigate "/signin"
  | some user =>
      if user.role ∈ roles.map .own then .children else .navigate (defaultRedirect user.role)

theorem roleGuard_some {user : User} {roles : List UserRole} :
    roleGuard (some user) roles = .children ↔ ∃ role ∈ roles, user.role = .own role := by
  have member : user.role ∈ roles.map .own ↔ ∃ role ∈ roles, user.role = .own role := by
    simp [eq_comm]
  rw [← member, roleGuard]
  by_cases allowed : user.role ∈ roles.map .own
  · rw [if_pos allowed, eq_self, true_iff]
    exact allowed
  · rw [if_neg allowed]
    exact iff_of_false (by simp) allowed

def guarded : List (String × List UserRole) := [
  ("/book", [.driver, .admin]),
  ("/journeys", [.driver, .admin]),
  ("/verify", [.enforcement, .admin]),
  ("/dashboard", [.admin]),
  ("/notifications", [.driver, .enforcement, .admin])]

/-- Nobody but those without a role of the frontend is sent on from the page they are sent to. -/
theorem defaultRedirect_shown (user : User) : ∃ roles,
    (defaultRedirect user.role, roles) ∈ guarded ∧
      (roleGuard (some user) roles = .children ↔ ∃ role, user.role = .own role) := by
  simp only [roleGuard_some]
  cases user.role with
  | own role =>
      cases role with
      | driver => exact ⟨[.driver, .admin], by decide, by simp⟩
      | enforcement => exact ⟨[.enforcement, .admin], by decide, by simp⟩
      | admin => exact ⟨[.admin], by decide, by simp⟩
  | inherited | emptyObject | undefined =>
      exact ⟨[.driver, .admin], by simp [defaultRedirect, guarded], by simp⟩

/-! ### What an event does -/

inductive Effect (page : Page Token) : Event Token → Page Token → Prop
  | reloaded : Effect page .reload page.reload
  | signedIn (email : Email) (password : String) (none : page.user = none) :
      Effect page (.signIn email password)
        { page with calls := page.calls ++ [.loggingIn email password] }
  | signedUp (form : SignUp) (none : page.user = none) (plate : form.plateNumber ≠ some "") :
      Effect page (.signUp form) { page with calls := page.calls ++ [.registering form] }
  | left (some : page.user ≠ none) :
      Effect page .signOut { (signedOut : Page Token) with calls := page.calls }
  | cleared (event : Event Token) : Effect page event signedOut
  | failed (event : Event Token) (index : Nat) :
      Effect page event { page with calls := page.calls.eraseIdx index }
  | granted (index : Nat) (email : Email) (password : String) (response : TokenResponse Token)
      (waiting : page.calls[index]? = some (.loggingIn email password)) :
      Effect page (.loginAnswered index (.ok response)) { page with
        token := some response.accessToken
        authorization := some response.accessToken
        calls := page.calls.set index (.profiling email response) }
  | profiled (index : Nat) (email : Email) (response : TokenResponse Token) (profile : UserProfile)
      (waiting : page.calls[index]? = some (.profiling email response)) :
      Effect page (.profileAnswered index (.ok profile)) { page with
        stored := some (signInData email response profile).reparsed
        user := some (signInData email response profile)
        calls := page.calls.eraseIdx index }
  | registered (index : Nat) (form : SignUp) (response : TokenResponse Token)
      (waiting : page.calls[index]? = some (.registering form)) :
      Effect page (.registerAnswered index (.ok response)) {
        token := some response.accessToken
        stored := some (signUpData form response).reparsed
        authorization := some response.accessToken
        user := some (signUpData form response)
        calls := page.calls.eraseIdx index }

variable {page next : Page Token} {event : Event Token}

theorem effect_rejected (event : Event Token) (index : Nat) (error : Option HttpException) :
    Effect page event ({ page with calls := page.calls.eraseIdx index }.rejected error) := by
  rw [Page.rejected]
  split
  · exact .cleared event
  · exact .failed event index

theorem effect_of_step (stepped : step page event = some next) : Effect page event next := by
  cases event with
  | reload =>
      cases stepped
      exact .reloaded
  | signIn email password =>
      obtain ⟨none, same⟩ := Option.ite_none_right_eq_some.mp stepped
      cases same
      exact .signedIn email password none
  | signUp form =>
      obtain ⟨⟨none, plate⟩, same⟩ := Option.ite_none_right_eq_some.mp stepped
      cases same
      exact .signedUp form none plate
  | signOut =>
      obtain ⟨some, same⟩ := Option.ite_none_left_eq_some.mp stepped
      cases same
      exact .left some
  | unauthorized =>
      cases stepped
      exact .cleared .unauthorized
  | loginAnswered index answer =>
      simp only [step] at stepped
      split at stepped
      · next email password response waiting =>
          cases stepped
          exact .granted index email password response waiting
      · cases stepped
        exact effect_rejected _ index _
      · cases stepped
  | profileAnswered index answer =>
      simp only [step] at stepped
      split at stepped
      · next email response profile waiting =>
          cases stepped
          exact .profiled index email response profile waiting
      · cases stepped
        exact effect_rejected _ index _
      · cases stepped
  | registerAnswered index answer =>
      simp only [step] at stepped
      split at stepped
      · next form response waiting =>
          cases stepped
          exact .registered index form response waiting
      · cases stepped
        exact effect_rejected _ index _
      · cases stepped

end

/-! ### What the auth service has to do with it -/

def shown (row : Auth.User) : User where
  id := row.id
  email := row.email
  role := .lookup roleMap row.role .driver
  region := .lookup regionMap (row.region.getD "") .ie
  plateNumber := row.plateNumber

/-- An account as a page shows it, after a sign-in or read back. -/
def ShownAs (row : Auth.User) (user : User) : Prop := user = shown row ∨ user = (shown row).reparsed

theorem ShownAs.reparsed {row : Auth.User} {user : User} (same : ShownAs row user) :
    ShownAs row user.reparsed := by
  rcases same with rfl | rfl
  · exact .inr rfl
  · exact .inr (shown row).reparsed_reparsed

def Passed (lower : String → String) (state last : State) : Prop :=
  Lts.Reachable (Auth.step lower) .initial state ∧ Lts.Reachable (Auth.step lower) state last

def Registers (jwt : Jwt) (state : State) (request : RegisterRequest)
    (response : TokenResponse jwt.Token) : Prop :=
  ∃ vm id hashed createdAt, request.user id hashed createdAt ∈ (state.users vm).rows ∧
    response = ⟨createAccessToken jwt state.now (request.user id hashed createdAt), id,
      request.role⟩

section

variable (jwt : Jwt) (lower : String → String) (verify : String → String → Bool) (last : State)

/-- The auth service answers, on either VM and in any state up to the last. The profile is asked
for with the token that the login has just brought. -/
def Answers (page : Page jwt.Token) : Event jwt.Token → Prop
  | .loginAnswered index (.ok response) => ∀ email password,
      page.calls[index]? = some (.loggingIn email password) → ∃ state vm,
        Passed lower state last ∧ loginEndpoint jwt verify state vm email password = .ok response
  | .profileAnswered index (.ok data) => ∀ email response,
      page.calls[index]? = some (.profiling email response) → ∃ state vm,
        Passed lower state last ∧ profile jwt state vm response.accessToken = .ok data
  | .registerAnswered index (.ok response) => ∀ form,
      page.calls[index]? = some (.registering form) → ∃ state,
        Passed lower state last ∧ Registers jwt state form.payload response
  | _ => True

structure Bears (row : Auth.User) (granted : State) (token : jwt.Token) : Prop where
  passed : Passed lower granted last
  registered : Registered granted row
  token : token = createAccessToken jwt granted.now row

structure Granted (row : Auth.User) (response : TokenResponse jwt.Token) : Prop where
  bears : ∃ granted, Bears jwt lower last row granted response.accessToken
  userId : response.userId = row.id
  role : response.role = row.role

end

section

variable {jwt : Jwt} {lower : String → String} {verify : String → String → Bool}
  {last state : State} {row other : Auth.User}

theorem Passed.traced (passed : Passed lower state last) : Traced state := by
  obtain ⟨⟨actions, executed⟩, _⟩ := passed
  exact .of_run executed

theorem Passed.traced_last (passed : Passed lower state last) : Traced last := by
  obtain ⟨actions, executed⟩ := passed.1.trans passed.2
  exact .of_run executed

theorem Passed.outlives (passed : Passed lower state last) : Outlives state last := by
  obtain ⟨_, _, executed⟩ := passed
  exact outlives_of_run executed

theorem Bears.still {granted : State} {token : jwt.Token}
    (bears : Bears jwt lower last row granted token) : Registered last row :=
  bears.passed.outlives.registered row bears.registered

theorem Bears.session {granted : State} {token : jwt.Token}
    (bears : Bears jwt lower last row granted token) : Session jwt row granted token last := by
  rw [bears.token]
  exact session_of_outlives bears.passed.traced_last bears.passed.outlives bears.registered

theorem granted_of_login {vm : Vm} {email : Email} {password : String}
    {response : TokenResponse jwt.Token} (passed : Passed lower state last)
    (answered : loginEndpoint jwt verify state vm email password = .ok response) :
    ∃ row, Granted jwt lower last row response ∧ row.email = email := by
  obtain ⟨row, found, rfl⟩ := loginEndpoint_eq_ok answered
  have known : loginRow state vm email = some row := (Option.filter_eq_some_iff.mp found).1
  have registered := passed.traced.registered_login known
  refine ⟨row, ⟨⟨state, passed, registered, rfl⟩, rfl, rfl⟩, ?_⟩
  rw [loginRow] at known
  split at known
  · next local_ isLocal =>
      cases known
      exact (IndexedTable.findBy?_eq_some isLocal).2
  · exact (IndexedTable.findBy?_eq_some known).2

theorem granted_of_registers {request : RegisterRequest} {response : TokenResponse jwt.Token}
    (passed : Passed lower state last) (registers : Registers jwt state request response) :
    ∃ row, Granted jwt lower last row response ∧ row.email = request.email ∧
      row.role = request.role ∧ row.plateNumber = request.plateNumber ∧
      row.region = request.region := by
  obtain ⟨vm, id, hashed, createdAt, member, rfl⟩ := registers
  exact ⟨_, ⟨⟨state, passed, passed.traced.registered_users member, rfl⟩, rfl, rfl⟩,
    rfl, rfl, rfl, rfl⟩

/-- The profile that a token opens is that of its own account. -/
theorem profile_of_bears {vm : Vm} {granted : State} {token : jwt.Token} {data : UserProfile}
    (bears : Bears jwt lower last row granted token) (passed : Passed lower state last)
    (answered : Auth.profile jwt state vm token = .ok data) : data = row.profile := by
  rw [Auth.profile, verifyToken, bears.token, createAccessToken, jwt.decode_encode] at answered
  by_cases issued : state.now < (row.payload granted.now).iat
  · simp [issued] at answered
  by_cases expired : (row.payload granted.now).exp ≤ state.now
  · simp [issued, expired] at answered
  rw [if_neg issued, if_neg expired] at answered
  simp only at answered
  split at answered
  · cases answered
  · next found isFound =>
      obtain ⟨registered, same⟩ := passed.traced.registered_found isFound
      have known := passed.outlives.registered found registered
      cases bears.still.unique known same
      cases answered
      rfl

theorem registerUser_stores {hash : String → Option String} {answers : Await → Reply} {vm : Vm}
    {id : UserId} {createdAt : DateTime} {request : RegisterRequest} {user : Auth.User}
    {after : State} (registered : registerUser lower hash answers state vm id createdAt request =
      (.ok user, after)) : ∃ hashed, user = request.user id hashed createdAt := by
  obtain ⟨_, _, failed⟩ | ⟨_, ⟨_, _, failed⟩ | ⟨_, course⟩⟩ :=
    registerUser_cases lower hash answers state vm id createdAt request
  · rw [registered] at failed
    cases failed
  · rw [registered] at failed
    cases failed
  rw [registered] at course
  generalize returned : ((.ok user, after) : CallResult) = result at course
  have first : result.1 = .ok user := by rw [← returned]
  cases course with
  | lookupFails | hashFails => cases first
  | refuses =>
      rcases refuseReplicated_fst lower answers (claimedBy lower state request.email) request.email
        with refused | failed
      · cases refused.symm.trans first
      · cases failed.symm.trans first
  | publishes hashed =>
      obtain ⟨_, failed⟩ | ⟨_, committing⟩ := publishUser_cases lower answers
        (claimedBy lower state request.email) vm (request.user id hashed createdAt)
      · rw [failed] at first
        cases first
      · rw [committing] at first
        obtain ⟨stores, _⟩ | ⟨_, failed⟩ := commitUser_fst lower answers (Auth.publishEvent
          (claimedBy lower state request.email) (.registered (request.user id hashed createdAt)) .ok)
          vm (request.user id hashed createdAt)
        · cases stores.symm.trans first
          exact ⟨hashed, rfl⟩
        · cases failed.symm.trans first

theorem registers_of_endpoint {hash : String → Option String} {str : RegisterError → String}
    {answers : Await → Reply} {vm : Vm} {id : UserId} {createdAt : DateTime}
    {request : RegisterRequest} {response : TokenResponse jwt.Token} {after : State}
    (answered : registerEndpoint jwt lower hash verify str answers state vm id createdAt request =
      (.ok response, after)) : Registers jwt after request response := by
  obtain ⟨user, registered, member, rfl⟩ := registerEndpoint_eq_ok answered
  obtain ⟨hashed, rfl⟩ := registerUser_stores registered
  exact ⟨vm, id, hashed, createdAt, member, rfl⟩

/-! ### The account behind the user that is shown -/

theorem signInData_shown {response : TokenResponse jwt.Token}
    (granted : Granted jwt lower last row response) :
    signInData row.email response row.profile = shown row := by
  simp [signInData, shown, granted.userId, granted.role, Auth.User.profile]

theorem signUpData_shown {form : SignUp} {response : TokenResponse jwt.Token}
    (granted : Granted jwt lower last row response) (plate : form.plateNumber ≠ some "")
    (email : row.email = form.payload.email) (role : row.role = form.payload.role)
    (plateNumber : row.plateNumber = form.payload.plateNumber)
    (region : row.region = form.payload.region) : signUpData form response = shown row := by
  have kept : form.plateNumber.filter (· ≠ "") = form.plateNumber := by
    cases given : form.plateNumber with
    | none => rfl
    | some text =>
        have filled : text ≠ "" := fun empty => plate (by rw [given, empty])
        simp [filled]
  simp only [signUpData, shown, email, role, plateNumber, region, granted.userId, SignUp.payload,
    kept, Option.getD_some, Entry.lookup_own (roleMap_backendRole _),
    Entry.lookup_own (regionMap_regionToBackend _)]

structure Known (jwt : Jwt) (lower : String → String) (last : State) (page : Page jwt.Token) :
    Prop where
  held : ∀ user, page.user = some user ∨ page.stored = some user →
    ∃ row, Registered last row ∧ ShownAs row user
  profiling : ∀ email response, .profiling email response ∈ page.calls →
    ∃ row, Granted jwt lower last row response ∧ row.email = email
  plates : ∀ form, .registering form ∈ page.calls → form.plateNumber ≠ some ""

variable {page next : Page jwt.Token} {event : Event jwt.Token}

theorem known_signedOut : Known jwt lower last signedOut where
  held := by simp [signedOut]
  profiling := by simp [signedOut]
  plates := by simp [signedOut]

theorem Known.of_calls (known : Known jwt lower last page)
    (held : ∀ user, next.user = some user ∨ next.stored = some user →
      ∃ row, Registered last row ∧ ShownAs row user)
    (fewer : ∀ call ∈ next.calls, call ∈ page.calls) : Known jwt lower last next where
  held := held
  profiling email response member := known.profiling email response (fewer _ member)
  plates form member := known.plates form (fewer _ member)

theorem Known.reload (known : Known jwt lower last page) : Known jwt lower last page.reload := by
  rw [Page.reload]
  split
  · next token user isToken isStored =>
      refine known.of_calls ?_ (by simp)
      intro other held
      refine known.held other (.inr ?_)
      rw [isStored]
      simpa [isStored] using held
  · refine known.of_calls ?_ (by simp)
    intro other held
    exact known.held other (.inr (by simpa using held))

theorem Known.holds {user : User} (known : Known jwt lower last page)
    (registered : Registered last row) (same : user = shown row) (now : next.user = some user)
    (stored : next.stored = some user.reparsed) (fewer : ∀ call ∈ next.calls, call ∈ page.calls) :
    Known jwt lower last next := by
  have shownAs : ShownAs row user := .inl same
  refine known.of_calls ?_ fewer
  intro other held
  rw [now, stored, Option.some.injEq, Option.some.injEq] at held
  rcases held with rfl | rfl
  · exact ⟨row, registered, shownAs⟩
  · exact ⟨row, registered, shownAs.reparsed⟩

theorem Known.step (known : Known jwt lower last page)
    (answers : Answers jwt lower verify last page event)
    (stepped : AuthContext.step page event = some next) : Known jwt lower last next := by
  cases effect_of_step stepped with
  | reloaded => exact known.reload
  | cleared => exact known_signedOut
  | failed event index =>
      exact known.of_calls known.held fun _ => List.mem_of_mem_eraseIdx
  | left => exact known.of_calls (by simp [signedOut]) fun _ member => member
  | signedIn email password none =>
      refine ⟨known.held, ?_, ?_⟩
      · intro email response member
        simp only [List.mem_append, List.mem_singleton, reduceCtorEq, or_false] at member
        exact known.profiling email response member
      · intro form member
        simp only [List.mem_append, List.mem_singleton, reduceCtorEq, or_false] at member
        exact known.plates form member
  | signedUp form none plate =>
      refine ⟨known.held, ?_, ?_⟩
      · intro email response member
        simp only [List.mem_append, List.mem_singleton, reduceCtorEq, or_false] at member
        exact known.profiling email response member
      · intro other member
        simp only [List.mem_append, List.mem_singleton, Call.registering.injEq] at member
        rcases member with old | rfl
        · exact known.plates other old
        · exact plate
  | granted index email password response waiting =>
      obtain ⟨state, vm, passed, answered⟩ := answers email password waiting
      refine ⟨known.held, ?_, ?_⟩
      · intro email' response' member
        rcases List.mem_or_eq_of_mem_set member with old | new
        · exact known.profiling email' response' old
        · cases new
          exact granted_of_login passed answered
      · intro form member
        rcases List.mem_or_eq_of_mem_set member with old | new
        · exact known.plates form old
        · cases new
  | profiled index email response data waiting =>
      obtain ⟨row, granted, rfl⟩ := known.profiling email response (List.mem_of_getElem? waiting)
      obtain ⟨granting, bears⟩ := granted.bears
      obtain ⟨state, vm, passed, answered⟩ := answers row.email response waiting
      cases profile_of_bears bears passed answered
      exact known.holds bears.still (signInData_shown granted) rfl rfl
        fun _ => List.mem_of_mem_eraseIdx
  | registered index form response waiting =>
      obtain ⟨state, passed, registers⟩ := answers form waiting
      obtain ⟨row, granted, email, role, plateNumber, region⟩ :=
        granted_of_registers passed registers
      obtain ⟨granting, bears⟩ := granted.bears
      have plate := known.plates form (List.mem_of_getElem? waiting)
      exact known.holds bears.still
        (signUpData_shown granted plate email role plateNumber region) rfl rfl
        fun _ => List.mem_of_mem_eraseIdx

theorem known_of_run {events : List (Event jwt.Token)}
    (executed : Lts.run AuthContext.step signedOut events = some page)
    (answers : Lts.Meets AuthContext.step (Answers jwt lower verify last) signedOut events) :
    Known jwt lower last page :=
  Lts.run_invariant (fun _ _ _ known answers stepped => known.step answers stepped)
    known_signedOut executed answers

/-- Every user the browser keeps or shows is an account of the auth service, and the only one with
that id. -/
theorem signedIn_registered {events : List (Event jwt.Token)} {user : User}
    (executed : Lts.run AuthContext.step signedOut events = some page)
    (answers : Lts.Meets AuthContext.step (Answers jwt lower verify last) signedOut events)
    (held : page.user = some user ∨ page.stored = some user) :
    ∃ row, Registered last row ∧ ShownAs row user ∧
      ∀ other, Registered last other → other.id = user.id → other = row := by
  obtain ⟨row, registered, same⟩ := (known_of_run executed answers).held user held
  have id : user.id = row.id := by rcases same with rfl | rfl <;> rfl
  refine ⟨row, registered, same, ?_⟩
  intro other known sameId
  exact registered.unique known (sameId.trans id)

def bobSigningUp : SignUp := ⟨"bob@example.com", "swordfish", .enforcement, .gb, none⟩

def bob : Auth.User := bobSigningUp.payload.user 1 "hash" 0

/-- While the first sign-in waits for its profile, somebody signs up and out again. -/
def overlapping : List (Event Payload) := [
  .signIn alice.email "hash",
  .loginAnswered 0 (.ok ⟨alice.payload 0, alice.id, alice.role⟩),
  .signUp bobSigningUp,
  .registerAnswered 1 (.ok ⟨bob.payload 0, bob.id, bob.role⟩),
  .signOut,
  .profileAnswered 0 (.ok alice.profile)]

structure Stored (state : State) : Prop where
  now : state.now = 0
  login : login (· = ·) state .vm1 alice.email "hash" = some alice
  found : getUserById state .vm1 alice.id = some alice
  member : bob ∈ (state.users .vm1).rows
  passed : Passed id state state

theorem exists_stored : ∃ state, Stored state := by
  have ran : (Lts.run (Auth.step id) .initial (registering .vm1 alice ++ registering .vm1 bob)).any
      (fun state => state.now = 0 ∧ loginRow state .vm1 alice.email = some alice ∧
        getUserById state .vm1 alice.id = some alice ∧ bob ∈ (state.users .vm1).rows) = true := by
    decide +kernel
  obtain ⟨state, executed, outcome⟩ := (Option.any_eq_true ..).mp ran
  obtain ⟨now, row, found, member⟩ := of_decide_eq_true outcome
  have password : truncatePassword "hash" = "hash" := by decide +kernel
  refine ⟨state, now, ?_, found, member, ⟨_, executed⟩, .refl state⟩
  rw [login, authenticateUser, row, password]
  rfl

theorem Stored.loggedIn (stored : Stored state) :
    loginEndpoint plainJwt (· = ·) state .vm1 alice.email "hash" =
      .ok ⟨alice.payload 0, alice.id, alice.role⟩ := by
  rw [loginEndpoint, stored.login]
  simp only [createAccessToken, stored.now]
  rfl

theorem Stored.profile (stored : Stored state) :
    Auth.profile plainJwt state .vm1 (alice.payload 0) = .ok alice.profile := by
  have accepted : verifyToken plainJwt state.now (alice.payload 0) = .ok (alice.payload 0) := by
    rw [stored.now]
    rfl
  have found : getUserById state .vm1 (alice.payload 0).sub = some alice := stored.found
  unfold Auth.profile
  rw [accepted]
  simp only [found]

theorem Stored.registers (stored : Stored state) :
    Registers plainJwt state bobSigningUp.payload ⟨bob.payload 0, bob.id, bob.role⟩ := by
  refine ⟨.vm1, 1, "hash", 0, stored.member, ?_⟩
  rw [stored.now]
  rfl

theorem signedIn_registered_overlapping : ∃ state page,
    Lts.run AuthContext.step signedOut overlapping = some page ∧ page.token = none ∧
    page.user = some (shown alice) ∧
    ∃ row, Registered state row ∧ ShownAs row (shown alice) ∧
      ∀ other, Registered state other → other.id = (shown alice).id → other = row := by
  obtain ⟨state, stored⟩ := exists_stored
  have answers : Lts.Meets AuthContext.step (Answers plainJwt id (· = ·) state) signedOut
      overlapping := by
    refine ⟨trivial, fun _ stepped => ?_⟩
    cases stepped
    refine ⟨?_, fun _ stepped => ?_⟩
    · intro email password waiting
      cases waiting
      exact ⟨state, .vm1, stored.passed, stored.loggedIn⟩
    cases stepped
    refine ⟨trivial, fun _ stepped => ?_⟩
    cases stepped
    refine ⟨?_, fun _ stepped => ?_⟩
    · intro form waiting
      cases waiting
      exact ⟨state, stored.passed, stored.registers⟩
    cases stepped
    refine ⟨trivial, fun _ stepped => ?_⟩
    cases stepped
    refine ⟨?_, fun _ _ => trivial⟩
    intro email response waiting
    cases waiting
    exact ⟨state, .vm1, stored.passed, stored.profile⟩
  exact ⟨state, _, rfl, rfl, rfl, signedIn_registered rfl answers (.inl rfl)⟩

/-! ### The token of the user that is shown -/

def Alone (page : Page jwt.Token) : Event jwt.Token → Prop
  | .signIn .. | .signUp _ => page.calls = []
  | _ => True

structure Own (jwt : Jwt) (lower : String → String) (last : State) (page : Page jwt.Token) :
    Prop where
  single : page.calls.length ≤ 1
  signing : page.calls ≠ [] → page.user = none
  stored : page.stored = page.user.map User.reparsed
  authorization : page.authorization = none ∨ page.authorization = page.token
  held : ∀ user, page.user = some user → ∃ row granted token, page.token = some token ∧
    Bears jwt lower last row granted token ∧ ShownAs row user
  profiling : ∀ email response, .profiling email response ∈ page.calls →
    page.token = some response.accessToken

theorem own_signedOut : Own jwt lower last signedOut := by
  constructor <;> simp [signedOut]

theorem Own.only {index : Nat} {call : Call jwt.Token} (own : Own jwt lower last page)
    (waiting : page.calls[index]? = some call) : page.calls = [call] ∧ index = 0 := by
  have single := own.single
  cases calls : page.calls with
  | nil => simp [calls] at waiting
  | cons first rest =>
      rw [calls] at waiting single
      cases rest with
      | nil =>
          cases index with
          | zero =>
              cases waiting
              exact ⟨rfl, rfl⟩
          | succ => simp at waiting
      | cons => simp at single

theorem Own.reload (own : Own jwt lower last page) : Own jwt lower last page.reload := by
  rw [Page.reload]
  split
  · next token user isToken isStored =>
      obtain ⟨before, isUser, rfl⟩ := Option.map_eq_some_iff.mp (own.stored.symm.trans isStored)
      refine ⟨by simp, by simp, ?_, .inr isToken.symm, ?_, by simp⟩
      · rw [Option.map_some, User.reparsed_reparsed]
        exact isStored
      · intro other same
        cases same
        obtain ⟨row, granted, token, kept, bears, same⟩ := own.held before isUser
        exact ⟨row, granted, token, kept, bears, same.reparsed⟩
  · next missing =>
      refine ⟨by simp, by simp, ?_, .inl rfl, by simp, by simp⟩
      cases isStored : page.stored with
      | none => rfl
      | some user =>
          obtain ⟨before, isUser, _⟩ := Option.map_eq_some_iff.mp (own.stored.symm.trans isStored)
          obtain ⟨_, _, token, isToken, _⟩ := own.held before isUser
          exact absurd isStored (missing token user isToken)

theorem Own.step (own : Own jwt lower last page) (known : Known jwt lower last page)
    (alone : Alone page event) (answers : Answers jwt lower verify last page event)
    (stepped : AuthContext.step page event = some next) : Own jwt lower last next := by
  cases effect_of_step stepped with
  | reloaded => exact own.reload
  | cleared => exact own_signedOut
  | failed event index =>
      refine ⟨Nat.le_trans (List.length_eraseIdx_le ..) own.single, ?_, own.stored, own.authorization,
        own.held, fun email response member => own.profiling email response
          (List.mem_of_mem_eraseIdx member)⟩
      intro left
      refine own.signing ?_
      intro none
      exact left (by simp [none])
  | left some =>
      have idle : page.calls = [] := by_contra fun busy => some (own.signing busy)
      constructor <;> simp [signedOut, idle]
  | signedIn email password none =>
      have idle : page.calls = [] := alone
      refine ⟨by simp [idle], fun _ => none, own.stored, own.authorization, own.held, ?_⟩
      simp [idle]
  | signedUp form none plate =>
      have idle : page.calls = [] := alone
      refine ⟨by simp [idle], fun _ => none, own.stored, own.authorization, own.held, ?_⟩
      simp [idle]
  | granted index email password response waiting =>
      obtain ⟨calls, rfl⟩ := own.only waiting
      have none : page.user = none := own.signing (by simp [calls])
      refine ⟨by simp [calls], fun _ => none, own.stored, .inr rfl, ?_, ?_⟩
      · intro user some
        cases none.symm.trans some
      · intro email' response' member
        simp only [calls, List.set_cons_zero, List.mem_singleton, Call.profiling.injEq] at member
        rw [member.2]
  | profiled index email response data waiting =>
      have member := List.mem_of_getElem? waiting
      obtain ⟨row, granted, rfl⟩ := known.profiling email response member
      obtain ⟨granting, bears⟩ := granted.bears
      obtain ⟨state, vm, passed, answered⟩ := answers row.email response waiting
      cases profile_of_bears bears passed answered
      obtain ⟨calls, rfl⟩ := own.only waiting
      refine ⟨by simp [calls], by simp [calls], rfl, own.authorization, ?_, by simp [calls]⟩
      intro user same
      cases same
      exact ⟨row, granting, _, own.profiling _ response member, bears,
        .inl (signInData_shown granted)⟩
  | registered index form response waiting =>
      obtain ⟨state, passed, registers⟩ := answers form waiting
      obtain ⟨row, granted, email, role, plateNumber, region⟩ :=
        granted_of_registers passed registers
      obtain ⟨granting, bears⟩ := granted.bears
      have plate := known.plates form (List.mem_of_getElem? waiting)
      obtain ⟨calls, rfl⟩ := own.only waiting
      refine ⟨by simp [calls], by simp [calls], rfl, .inr rfl, ?_, by simp [calls]⟩
      intro user same
      cases same
      exact ⟨row, granting, _, rfl, bears,
        .inl (signUpData_shown granted plate email role plateNumber region)⟩

theorem lookup_roleMap_enforces (row : Auth.User) :
    (∃ role ∈ [UserRole.enforcement, .admin], .lookup roleMap row.role .driver = Entry.own role) ↔
      row.enforces = true := by
  simp only [Auth.User.enforces, Bool.or_eq_true, decide_eq_true_eq]
  by_cases driver : row.role = "driver"
  · simp [driver, Entry.lookup, roleMap]
  by_cases agent : row.role = "enforcement_agent"
  · simp [agent, Entry.lookup, roleMap, List.lookup_cons]
  by_cases admin : row.role = "admin"
  · simp [admin, Entry.lookup, roleMap, List.lookup_cons]
  have missing : roleMap.lookup row.role = none := by
    simp [roleMap, List.lookup_cons, beq_eq_false_iff_ne.mpr driver,
      beq_eq_false_iff_ne.mpr agent, beq_eq_false_iff_ne.mpr admin]
  simp only [Entry.lookup, missing, agent, admin, or_self, iff_false]
  split <;> simp

theorem ShownAs.guarded {user : User} (same : ShownAs row user) :
    roleGuard (some user) [.enforcement, .admin] = .children ↔ row.enforces = true := by
  rw [roleGuard_some, ← lookup_roleMap_enforces]
  rcases same with rfl | rfl
  · rfl
  · simp only [User.reparsed, Entry.reparsed_eq_own]
    rfl

theorem own_of_run {events : List (Event jwt.Token)}
    (executed : Lts.run AuthContext.step signedOut events = some page)
    (answers : Lts.Meets AuthContext.step (Answers jwt lower verify last) signedOut events)
    (alone : Lts.Meets AuthContext.step Alone signedOut events) : Own jwt lower last page := by
  have kept (page : Page jwt.Token) (event : Event jwt.Token) (next : Page jwt.Token)
      (holds : Known jwt lower last page ∧ Own jwt lower last page)
      (meets : Answers jwt lower verify last page event ∧ Alone page event)
      (stepped : AuthContext.step page event = some next) :
      Known jwt lower last next ∧ Own jwt lower last next :=
    ⟨holds.1.step meets.1 stepped, holds.2.step holds.1 meets.2 meets.1 stepped⟩
  exact (Lts.run_invariant kept ⟨known_signedOut, own_signedOut⟩ executed
    (answers.and alone)).2

theorem Own.bearer (own : Own jwt lower last page) : page.bearer = page.token := by
  rw [Page.bearer]
  rcases own.authorization with none | same
  · rw [none, Option.or_none]
  · rw [same, Option.or_self]

/-- As long as sign-ins do not overlap, the requests of whoever is shown bear a token of their own
account, and whoever is shown the page for checks is let in by the verification service until it
expires. -/
theorem signedIn_session {events : List (Event jwt.Token)} {user : User}
    (executed : Lts.run AuthContext.step signedOut events = some page)
    (answers : Lts.Meets AuthContext.step (Answers jwt lower verify last) signedOut events)
    (alone : Lts.Meets AuthContext.step Alone signedOut events) (signed : page.user = some user) :
    ∃ row granted token, ShownAs row user ∧ page.bearer = some token ∧
      Session jwt row granted token last ∧
      ∀ roles, ("/verify", roles) ∈ guarded →
        (roleGuard page.user roles = .children ↔ row.enforces = true) := by
  have own := own_of_run executed answers alone
  obtain ⟨row, granted, token, kept, bears, same⟩ := own.held user signed
  refine ⟨row, granted, token, same, own.bearer.trans kept, bears.session, ?_⟩
  intro roles listed
  have known : roles = [.enforcement, .admin] := by simpa [guarded] using listed
  rw [signed, known]
  exact same.guarded

def reloaded : List (Event Payload) := [
  .signUp bobSigningUp,
  .registerAnswered 0 (.ok ⟨bob.payload 0, bob.id, bob.role⟩),
  .reload]

theorem signedIn_session_reloaded : ∃ state page,
    Lts.run AuthContext.step signedOut reloaded = some page ∧
    roleGuard page.user [.enforcement, .admin] = .children ∧
    ∃ row granted token, ShownAs row (shown bob) ∧ page.bearer = some token ∧
      Session plainJwt row granted token state ∧
      ∀ roles, ("/verify", roles) ∈ guarded →
        (roleGuard page.user roles = .children ↔ row.enforces = true) := by
  obtain ⟨state, stored⟩ := exists_stored
  have answers : Lts.Meets AuthContext.step (Answers plainJwt id (· = ·) state) signedOut
      reloaded := by
    refine ⟨trivial, fun _ stepped => ?_⟩
    cases stepped
    refine ⟨?_, fun _ _ => ⟨trivial, fun _ _ => trivial⟩⟩
    intro form waiting
    cases waiting
    exact ⟨state, stored.passed, stored.registers⟩
  have alone : Lts.Meets AuthContext.step Alone (signedOut : Page plainJwt.Token) reloaded :=
    ⟨rfl, fun _ _ => ⟨trivial, fun _ _ => ⟨trivial, fun _ _ => trivial⟩⟩⟩
  exact ⟨state, _, rfl, rfl, signedIn_session rfl answers alone rfl⟩

end

end TrafficService.AuthContext
