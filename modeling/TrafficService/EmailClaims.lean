import TrafficService.UserReplication

/-!
Whether two accounts can share an email up to case. The key in Redis is lower-cased and
expires, the replica lags behind and is searched by the exact email, and so is each VM's
unique column.
-/

namespace TrafficService.Auth

def UniqueEmails (lower : String → String) (state : State) : Prop :=
  ∀ first, ∀ user ∈ (state.users first).rows, ∀ second, ∀ other ∈ (state.users second).rows,
    lower user.email = lower other.email → first = second ∧ user = other

def Registration.admitted (state : State) (registration : Registration) : Bool :=
  registration.pc = .publishing || registration.pc = .committing ||
    decide (Committed state registration.user)

/-- A call that finds its email free in the replica has no rival, except one that the unique
column of its own VM will refuse. -/
def uncontested (lower : String → String) (state : State) : Action → Bool
  | .lookup id .ok => (state.registrations.find? id).all fun registration =>
      ((state.replica registration.vm).findBy? registration.user.email).isSome ||
        state.registrations.rows.all fun other =>
          other.id = id || !other.admitted state ||
            lower other.user.email ≠ lower registration.user.email ||
              (other.vm = registration.vm && other.user.email = registration.user.email)
  | _ => true

/-- Rivals that are admitted are on one VM, under one spelling. -/
def Claimed (lower : String → String) (state : State) : Prop :=
  ∀ firstId secondId first second, state.registrations.find? firstId = some first →
    state.registrations.find? secondId = some second → firstId ≠ secondId →
      first.admitted state = true → second.admitted state = true →
        lower first.user.email = lower second.user.email →
          first.vm = second.vm ∧ first.user.email = second.user.email

section

variable {lower : String → String} {state next : State} {action : Action}

theorem admitted_iff {registration : Registration} : registration.admitted state = true ↔
    (registration.pc = .publishing ∨ registration.pc = .committing) ∨
      Committed state registration.user := by
  simp [Registration.admitted]

theorem admitted_back (traced : Traced state) (moved : Moved state action next) {id : UserId}
    {after : Registration} (present : next.registrations.find? id = some after)
    (admitted : after.admitted next = true) :
    ∃ before, state.registrations.find? id = some before ∧ after.user = before.user ∧
      after.vm = before.vm ∧ (before.admitted state = true ∨ action = .lookup id .ok ∧
        (state.replica before.vm).findBy? before.user.email = none) := by
  have kept (before : Registration) (found : state.registrations.find? id = some before)
      (known : before.admitted state = true) :
      ∃ before, state.registrations.find? id = some before ∧ after.user = before.user ∧
        after.vm = before.vm ∧ (before.admitted state = true ∨ action = .lookup id .ok ∧
          (state.replica before.vm).findBy? before.user.email = none) := by
    obtain ⟨other, there, continues⟩ := registrations_kept moved found
    rw [present, Option.some.injEq] at there
    subst there
    exact ⟨before, found, continues.user, continues.vm, .inl known⟩
  rcases admitted_iff.mp admitted with going | committed
  · rcases registrations_back moved present with old | starting | ⟨before, found, same, change⟩
    · exact kept after old (admitted_iff.mpr (.inl going))
    · simp [starting] at going
    · generalize after.pc = pc at going change
      cases change with
      | quiet _ _ move =>
          cases move with
          | ends => simp at going
          | early _ _ _ early => rcases going with rfl | rfl <;> exact nomatch early
          | passes looking absent =>
              rw [same]
              exact ⟨before, found, rfl, rfl, .inr ⟨rfl, absent⟩⟩
          | fails _ _ _ unlocking => rcases unlocking with rfl | rfl <;> simp at going
          | refreshFails => simp at going
      | published _ event _ publication _ =>
          cases publication with
          | registered _ _ publishing _ =>
              exact kept before found (admitted_iff.mpr (.inl (.inl publishing)))
          | failed => simp at going
      | stored _ _ _ committing _ _ =>
          exact kept before found (admitted_iff.mpr (.inl (.inr committing)))
  · rcases committed_moved moved committed with old | ⟨other, _, before, _, found, mine, committing⟩
    · obtain ⟨home, member⟩ := committed_iff.mp old
      obtain ⟨before, found, mine, _⟩ := traced.stored home after.user member
      rw [id_of_registration present] at found
      exact kept before found (admitted_iff.mpr (.inr (mine ▸ old)))
    · have same : other = id := by
        rw [← id_of_registration found, mine, id_of_registration present]
      exact kept before (same ▸ found) (admitted_iff.mpr (.inl (.inr committing)))

theorem Claimed.moved (claimed : Claimed lower state) (traced : Traced state)
    (allowed : uncontested lower state action = true) (moved : Moved state action next) :
    Claimed lower next := by
  have rival (id other : UserId) (before rival : Registration)
      (found : state.registrations.find? id = some before)
      (known : state.registrations.find? other = some rival) (apart : id ≠ other)
      (looked : action = .lookup id .ok)
      (absent : (state.replica before.vm).findBy? before.user.email = none)
      (admitted : rival.admitted state = true)
      (same : lower before.user.email = lower rival.user.email) :
      before.vm = rival.vm ∧ before.user.email = rival.user.email := by
    simp only [looked, uncontested, found, Option.all_some, absent, Option.isSome_none,
      Bool.false_or, List.all_eq_true, Bool.or_eq_true, decide_eq_true_eq, Bool.not_eq_true',
      Bool.and_eq_true] at allowed
    rcases allowed rival (KeyedTable.mem_of_find? known) with ((mine | out) | differ) | twin
    · exact (apart (mine.symm.trans (KeyedTable.key_of_find? known))).elim
    · cases out.symm.trans admitted
    · exact (differ same.symm).elim
    · exact ⟨twin.1.symm, twin.2.symm⟩
  intro firstId secondId first second foundFirst foundSecond apart firstIn secondIn same
  obtain ⟨one, oneFound, oneUser, oneVm, oneIn⟩ :=
    admitted_back traced moved foundFirst firstIn
  obtain ⟨two, twoFound, twoUser, twoVm, twoIn⟩ :=
    admitted_back traced moved foundSecond secondIn
  rw [oneUser, twoUser] at same ⊢
  rw [oneVm, twoVm]
  rcases oneIn with known | ⟨looked, absent⟩
  · rcases twoIn with also | ⟨looked, absent⟩
    · exact claimed firstId secondId one two oneFound twoFound apart known also same
    · obtain ⟨vm, email⟩ := rival secondId firstId two one twoFound oneFound apart.symm looked absent
        known same.symm
      exact ⟨vm.symm, email.symm⟩
  · rcases twoIn with also | ⟨other, _⟩
    · exact rival firstId secondId one two oneFound twoFound apart looked absent also same
    · cases looked.symm.trans other
      exact (apart rfl).elim

theorem Claimed.uniqueEmails (claimed : Claimed lower state) (traced : Traced state) :
    UniqueEmails lower state := by
  intro first user member second other listed same
  obtain ⟨one, found, rfl, rfl, _⟩ := traced.stored first user member
  obtain ⟨two, known, rfl, rfl, _⟩ := traced.stored second other listed
  have firstIn : one.admitted state = true :=
    admitted_iff.mpr (.inr (committed_iff.mpr ⟨one.vm, member⟩))
  have secondIn : two.admitted state = true :=
    admitted_iff.mpr (.inr (committed_iff.mpr ⟨two.vm, listed⟩))
  by_cases ids : one.user.id = two.user.id
  · rw [ids, known, Option.some.injEq] at found
    rw [found]
    exact ⟨rfl, rfl⟩
  · obtain ⟨vm, email⟩ := claimed _ _ one two found known ids firstIn secondIn same
    refine ⟨vm, ?_⟩
    rw [vm] at member
    exact IndexedTable.eq_of_column member listed email

/-- No two stored users share an email up to case, if no call passes its lookup while a rival on
the other VM, or under another spelling, is stored or still to be stored. -/
theorem uniqueEmails_of_uncontested {actions : List Action}
    (executed : Lts.run (step lower) .initial actions = some state)
    (meets : Lts.Meets (step lower) (fun state action => uncontested lower state action = true)
      .initial actions) : UniqueEmails lower state := by
  have initial : Claimed lower .initial := fun _ _ _ _ found => nomatch found
  have claimed : Claimed lower state := invariant_of_run initial
    (fun _ _ _ traced claimed allowed moved => claimed.moved traced allowed moved) executed meets
  exact claimed.uniqueEmails (Traced.of_run executed)

end

/-! ### A second registration a day later -/

def asciiLower (text : String) : String := String.ofList (text.toList.map Char.toLower)

def refusedElsewhere : List Action :=
  registering .vm1 alice ++ consuming .vm2 ++
    [.tick 86400, .register .vm2 { alice with id := 1 }, .claim 1 .ok, .lookup 1 .ok, .release 1 .ok]

def capitalised : User := { alice with id := 1, email := "Alice@example.com" }

theorem uniqueEmails_refusedElsewhere :
    ∃ state, Lts.run (step asciiLower) .initial refusedElsewhere = some state ∧
      (state.users .vm1).rows = [alice] ∧ UniqueEmails asciiLower state := by
  have observed : (Lts.run (step asciiLower) .initial refusedElsewhere).map
      (fun state => (state.users .vm1).rows) = some [alice] := by decide +kernel
  obtain ⟨state, executed, users⟩ := Option.map_eq_some_iff.mp observed
  have checked : Lts.checks (step asciiLower) (uncontested asciiLower) .initial
      refusedElsewhere = true := by decide +kernel
  exact ⟨state, executed, users, uniqueEmails_of_uncontested executed
    (Lts.checks_iff_meets.mp checked)⟩

/-- The same VM, another spelling, and the key has expired. -/
theorem twoAccounts_capitalised :
    ¬ ∀ (lower : String → String) (actions : List Action) (state : State),
      Lts.run (step lower) .initial actions = some state → UniqueEmails lower state := by
  intro holds
  have observed : (Lts.run (step asciiLower) .initial
      (registering .vm1 alice ++ .tick emailLockTtl :: registering .vm1 capitalised)).map
      (fun state => (state.users .vm1).rows) = some [capitalised, alice] := by decide +kernel
  obtain ⟨state, executed, users⟩ := Option.map_eq_some_iff.mp observed
  have same := holds asciiLower _ state executed .vm1 alice (by simp [users]) .vm1 capitalised
    (by simp [users]) (by decide +kernel)
  exact absurd same.2 (by decide)

end TrafficService.Auth
