import TrafficService.ReservationRuns
import TrafficService.Lib.Leases

/-!
`segment_lock`: `SET NX PX`, the critical section, and the release as a `GET` and a `DELETE` of
their own. Any number of clients, any keys, time in milliseconds.
-/

namespace TrafficService.SegmentLock

open ReservationRuns (LockKey)

/-- One call of `segment_lock`. Its number stands for the token it draws. -/
abbrev ClientId := Nat

def lockTimeoutMs : Nat := 5000

/-- `since` is the time of the `SET` that succeeded. In `matched` the `GET` has returned the
client's own token. -/
inductive Pc
  | starting
  | inside (since : Nat)
  | leaving (since : Nat)
  | matched (since : Nat)
  | done
  deriving DecidableEq

def Pc.since : Pc → Option Nat
  | .inside since | .leaving since | .matched since => some since
  | .starting | .done => none

structure Client where
  key : LockKey
  pc : Pc
  deriving DecidableEq

structure State where
  now : Nat
  keys : Leases LockKey ClientId
  clients : ClientId → Option Client

def State.initial (now : Nat) : State := ⟨now, fun _ => none, fun _ => none⟩

inductive Action
  | tick (elapsed : Nat)
  | arrive (id : ClientId) (key : LockKey)
  | set (id : ClientId)
  /-- The `SET` takes effect and its answer is lost. -/
  | setThenRaise (id : ClientId)
  | leave (id : ClientId)
  | get (id : ClientId)
  | delete (id : ClientId)
  /-- The client dies, or its call to Redis fails. -/
  | abandon (id : ClientId)

def goto (state : State) (id : ClientId) (client : Client) (pc : Pc) : State :=
  { state with clients := Function.update state.clients id (some { client with pc }) }

def acquire (state : State) (id : ClientId) (client : Client) (acquired : Pc) : Option State :=
  match client.pc with
  | .starting =>
      match state.keys.setNx state.now lockTimeoutMs client.key id with
      | none => some (goto state id client .done)
      | some keys => some (goto { state with keys } id client acquired)
  | _ => none

def leave (state : State) (id : ClientId) (client : Client) : Option State :=
  match client.pc with
  | .inside since => some (goto state id client (.leaving since))
  | _ => none

def get (state : State) (id : ClientId) (client : Client) : Option State :=
  match client.pc with
  | .leaving since =>
      if state.keys.get state.now client.key = some id then
        some (goto state id client (.matched since))
      else some (goto state id client .done)
  | _ => none

def delete (state : State) (id : ClientId) (client : Client) : Option State :=
  match client.pc with
  | .matched _ => some (goto { state with keys := state.keys.delete client.key } id client .done)
  | _ => none

def step (state : State) : Action → Option State
  | .tick elapsed => some { state with now := state.now + elapsed }
  | .arrive id key =>
      match state.clients id with
      | some _ => none
      | none => some (goto state id ⟨key, .starting⟩ .starting)
  | .set id => (state.clients id).bind fun client => acquire state id client (.inside state.now)
  | .setThenRaise id => (state.clients id).bind fun client => acquire state id client .done
  | .leave id => (state.clients id).bind (leave state id)
  | .get id => (state.clients id).bind (get state id)
  | .delete id => (state.clients id).bind (delete state id)
  | .abandon id => (state.clients id).map fun client => goto state id client .done

def Exclusive (state : State) : Prop :=
  ∀ first second one other since later, state.clients first = some one →
    state.clients second = some other → one.key = other.key → one.pc.since = some since →
    other.pc.since = some later → state.now < since + lockTimeoutMs →
    state.now < later + lockTimeoutMs → first = second

/-- A release finds its own token, or no key at all. -/
def removesOwn (state : State) : Action → Bool
  | .delete id => (state.clients id).all fun client =>
      match client.pc with
      | .matched _ => (state.keys.get state.now client.key).all fun token => token = id
      | _ => true
  | _ => true

/-- A release comes before the client's own key has expired, or while the key is free. -/
def timely (state : State) : Action → Bool
  | .delete id => (state.clients id).all fun client =>
      match client.pc with
      | .matched since => state.now < since + lockTimeoutMs ||
          (state.keys.get state.now client.key).isNone
      | _ => true
  | _ => true

/-- A client within its timeout owns the key, and its key lives as long as that. -/
structure Guarded (state : State) : Prop where
  owned : ∀ id client since, state.clients id = some client → client.pc.since = some since →
    state.now < since + lockTimeoutMs →
    state.keys client.key = some ⟨id, since + lockTimeoutMs⟩
  dated : ∀ key lease client since, state.keys key = some lease →
    state.clients lease.value = some client → client.key = key → client.pc.since = some since →
    lease.expiresAt = since + lockTimeoutMs

section

variable {state next : State} {id : ClientId} {client : Client}

theorem Guarded.exclusive (guarded : Guarded state) : Exclusive state := by
  intro first second one other since later found known same acquired held fresh recent
  have left := guarded.owned first one since found acquired fresh
  have right := guarded.owned second other later known held recent
  rw [same] at left
  have leases := Option.some.inj (left.symm.trans right)
  exact congrArg Lease.value leases

theorem timely_iff (guarded : Guarded state) (action : Action) :
    timely state action = true ↔ removesOwn state action = true := by
  cases action with
  | delete id =>
      cases found : state.clients id with
      | none => simp [timely, removesOwn, found]
      | some client =>
          cases here : client.pc with
          | matched since =>
              simp only [timely, removesOwn, found, here, Option.all_some, Bool.or_eq_true,
                decide_eq_true_eq]
              have acquired : client.pc.since = some since := by rw [here]; rfl
              cases stored : state.keys.get state.now client.key with
              | none => simp
              | some token =>
                  simp only [Option.isNone_some, Bool.false_eq_true, or_false, Option.all_some,
                    decide_eq_true_eq]
                  constructor
                  · intro fresh
                    have owned := guarded.owned id client since found acquired fresh
                    have live := Leases.get_of_live owned fresh
                    exact Option.some.inj (stored.symm.trans live)
                  · rintro rfl
                    obtain ⟨lease, kept, rfl, live⟩ := Leases.get_eq_some stored
                    have dated := guarded.dated client.key lease client since kept found rfl acquired
                    omega
          | _ => simp [timely, removesOwn, found, here]
  | _ => rfl

theorem Guarded.goto (guarded : Guarded state) (found : state.clients id = some client) {pc : Pc}
    (kept : ∀ since, pc.since = some since → client.pc.since = some since) :
    Guarded (SegmentLock.goto state id client pc) := by
  have known (other : ClientId) (after : Client)
      (present : (SegmentLock.goto state id client pc).clients other = some after) :
      ∃ before, state.clients other = some before ∧ before.key = after.key ∧
        ∀ since, after.pc.since = some since → before.pc.since = some since := by
    by_cases same : other = id
    · subst same
      simp only [SegmentLock.goto, Function.update_self, Option.some.injEq] at present
      subst present
      exact ⟨client, found, rfl, kept⟩
    · simp only [SegmentLock.goto, Function.update_of_ne same] at present
      exact ⟨after, present, rfl, fun _ held => held⟩
  constructor
  · intro other after since present acquired fresh
    obtain ⟨before, earlier, sameKey, held⟩ := known other after present
    rw [← sameKey]
    exact guarded.owned other before since earlier (held since acquired) fresh
  · intro key lease after since stored present sameKey acquired
    obtain ⟨before, earlier, keys, held⟩ := known lease.value after present
    exact guarded.dated key lease before since stored earlier (keys.trans sameKey)
      (held since acquired)

theorem Guarded.arrive (guarded : Guarded state) (key : LockKey) (new : state.clients id = none) :
    Guarded (SegmentLock.goto state id ⟨key, .starting⟩ .starting) := by
  have known (other : ClientId) (after : Client) (since : Nat)
      (present : (SegmentLock.goto state id ⟨key, .starting⟩ .starting).clients other = some after)
      (acquired : after.pc.since = some since) : state.clients other = some after := by
    by_cases same : other = id
    · subst same
      simp only [SegmentLock.goto, Function.update_self, Option.some.injEq] at present
      subst present
      exact nomatch acquired
    · simpa only [SegmentLock.goto, Function.update_of_ne same] using present
  constructor
  · intro other after since present acquired fresh
    exact guarded.owned other after since (known other after since present acquired) acquired fresh
  · intro place lease after since stored present sameKey acquired
    exact guarded.dated place lease after since stored (known _ after since present acquired)
      sameKey acquired

theorem Guarded.acquired (guarded : Guarded state) (found : state.clients id = some client)
    {keys : Leases LockKey ClientId} {pc : Pc}
    (set : state.keys.setNx state.now lockTimeoutMs client.key id = some keys)
    (since : ∀ since, pc.since = some since → since = state.now) :
    Guarded (SegmentLock.goto { state with keys } id client pc) := by
  have written := (Leases.setNx_eq_some set).2
  constructor
  · intro other after at_ present acquired fresh
    by_cases same : other = id
    · subst same
      simp only [SegmentLock.goto, Function.update_self, Option.some.injEq] at present
      subst present
      rw [since at_ acquired]
      simp [SegmentLock.goto, written]
    · simp only [SegmentLock.goto, Function.update_of_ne same] at present
      exact (Leases.setNx_keeps set (guarded.owned other after at_ present acquired fresh) fresh).2
  · intro key lease after at_ stored present sameKey acquired
    simp only [SegmentLock.goto, written] at stored present
    by_cases here : key = client.key
    · subst here
      rw [Function.update_self] at stored
      cases stored
      rw [Function.update_self] at present
      cases present
      rw [since at_ acquired]
    · rw [Function.update_of_ne here] at stored
      have other : lease.value ≠ id := by
        intro same
        rw [same, Function.update_self] at present
        cases present
        exact here sameKey.symm
      rw [Function.update_of_ne other] at present
      exact guarded.dated key lease after at_ stored present sameKey acquired

theorem Guarded.acquire (guarded : Guarded state) (found : state.clients id = some client) {pc : Pc}
    (since : ∀ since, pc.since = some since → since = state.now)
    (stepped : SegmentLock.acquire state id client pc = some next) : Guarded next := by
  simp only [SegmentLock.acquire] at stepped
  split at stepped
  · split at stepped
    · cases stepped
      exact guarded.goto found fun _ acquired => nomatch acquired
    · rename_i keys set
      cases stepped
      exact guarded.acquired found set since
  · exact nomatch stepped

theorem Guarded.delete (guarded : Guarded state) (found : state.clients id = some client)
    (own : removesOwn state (.delete id) = true)
    (stepped : SegmentLock.delete state id client = some next) : Guarded next := by
  simp only [SegmentLock.delete] at stepped
  split at stepped
  · rename_i since here
    cases stepped
    have done : Guarded (SegmentLock.goto state id client .done) :=
      guarded.goto found fun _ acquired => nomatch acquired
    constructor
    · intro other after at_ present acquired fresh
      have owned := done.owned other after at_ present acquired fresh
      have apart : after.key ≠ client.key := by
        intro same
        have live := Leases.get_of_live owned fresh
        rw [same] at live
        simp only [removesOwn, found, here, Option.all_some] at own
        rw [show state.keys.get state.now client.key = some other from live] at own
        have mine : other = id := by simpa using own
        subst mine
        simp only [SegmentLock.goto, Function.update_self, Option.some.injEq] at present
        subst present
        exact nomatch acquired
      exact (Leases.delete_of_ne apart).trans owned
    · intro key lease after at_ stored present sameKey acquired
      have kept : state.keys key = some lease := by
        by_cases same : key = client.key
        · subst same
          simp [SegmentLock.goto, Leases.delete] at stored
        · simpa only [SegmentLock.goto, Leases.delete_of_ne same] using stored
      exact done.dated key lease after at_ kept present sameKey acquired
  · exact nomatch stepped

theorem Guarded.step {action : Action} (guarded : Guarded state)
    (own : removesOwn state action = true) (stepped : SegmentLock.step state action = some next) :
    Guarded next := by
  cases action with
  | tick elapsed =>
      cases stepped
      exact ⟨fun id client since found acquired fresh =>
        guarded.owned id client since found acquired (Nat.lt_of_le_of_lt (Nat.le_add_right _ _) fresh),
        guarded.dated⟩
  | arrive id key =>
      simp only [SegmentLock.step] at stepped
      split at stepped
      · exact nomatch stepped
      · rename_i new
        cases stepped
        exact guarded.arrive key new
  | set id =>
      obtain ⟨client, found, stepped⟩ := Option.bind_eq_some_iff.mp stepped
      refine guarded.acquire found ?_ stepped
      rintro since ⟨⟩
      rfl
  | setThenRaise id =>
      obtain ⟨client, found, stepped⟩ := Option.bind_eq_some_iff.mp stepped
      refine guarded.acquire found ?_ stepped
      rintro since ⟨⟩
  | leave id =>
      obtain ⟨client, found, stepped⟩ := Option.bind_eq_some_iff.mp stepped
      simp only [SegmentLock.leave] at stepped
      split at stepped
      · rename_i since here
        cases stepped
        exact guarded.goto found fun _ acquired => by rw [here]; exact acquired
      · exact nomatch stepped
  | get id =>
      obtain ⟨client, found, stepped⟩ := Option.bind_eq_some_iff.mp stepped
      simp only [SegmentLock.get] at stepped
      split at stepped
      · rename_i since here
        split at stepped
        · cases stepped
          exact guarded.goto found fun _ acquired => by rw [here]; exact acquired
        · cases stepped
          exact guarded.goto found fun _ acquired => nomatch acquired
      · exact nomatch stepped
  | delete id =>
      obtain ⟨client, found, stepped⟩ := Option.bind_eq_some_iff.mp stepped
      exact guarded.delete found own stepped
  | abandon id =>
      obtain ⟨client, found, rfl⟩ := Option.map_eq_some_iff.mp stepped
      exact guarded.goto found fun _ acquired => nomatch acquired

theorem guarded_initial (now : Nat) : Guarded (.initial now) :=
  ⟨fun _ _ _ found => (nomatch found), fun _ _ _ _ stored => (nomatch stored)⟩

end

/-- No release removes another client's key, and the lock is exclusive at all times, if and
only if no `DELETE` comes so late that the key has passed to another client. -/
theorem exclusive_iff_timely {now : Nat} {actions : List Action} :
    (Lts.Meets step (fun state action => removesOwn state action = true) (.initial now) actions ∧
      ∀ done, done <+: actions → ∀ state, Lts.run step (.initial now) done = some state →
        Exclusive state) ↔
      Lts.Meets step (fun state action => timely state action = true) (.initial now) actions := by
  have kept : ∀ state action next, Guarded state → removesOwn state action = true →
      step state action = some next → Guarded next :=
    fun _ _ _ guarded own stepped => guarded.step own stepped
  constructor
  · rintro ⟨own, _⟩
    exact own.imp kept (fun _ action guarded removes => (timely_iff guarded action).mpr removes)
      (guarded_initial now)
  · intro inTime
    have own : Lts.Meets step (fun state action => removesOwn state action = true) (.initial now)
        actions := by
      refine inTime.imp ?_ ?_ (guarded_initial now)
      · intro state action next guarded early stepped
        exact guarded.step ((timely_iff guarded action).mp early) stepped
      · exact fun _ action guarded early => (timely_iff guarded action).mp early
    refine ⟨own, ?_⟩
    intro done begun state executed
    have guarded : Guarded state :=
      Lts.run_invariant kept (guarded_initial now) executed (own.of_prefix begun)
    exact guarded.exclusive

/-! ### A release that comes too late -/

def contestedKey : LockKey := (1, 0)

def lateRelease : List Action :=
  [.arrive 0 contestedKey, .arrive 1 contestedKey, .arrive 2 contestedKey, .set 0, .leave 0,
    .tick 4999, .get 0, .tick 1, .set 1, .delete 0, .set 2]

theorem shared_lateRelease :
    ¬ Lts.Meets step (fun state action => removesOwn state action = true) (.initial 0)
        lateRelease ∧
      ∃ state, Lts.run step (.initial 0) lateRelease = some state ∧ ¬ Exclusive state := by
  have removed : Lts.checks step removesOwn (.initial 0) lateRelease = false := by decide
  have observed : (Lts.run step (.initial 0) lateRelease).map (fun state =>
      (state.now, state.clients 1, state.clients 2)) =
      some (5000, some ⟨contestedKey, .inside 5000⟩, some ⟨contestedKey, .inside 5000⟩) := by decide
  obtain ⟨state, executed, outcome⟩ := Option.map_eq_some_iff.mp observed
  simp only [Prod.mk.injEq] at outcome
  obtain ⟨time, one, two⟩ := outcome
  refine ⟨?_, state, executed, ?_⟩
  · intro own
    exact nomatch removed.symm.trans (Lts.checks_iff_meets.mpr own)
  · intro exclusive
    have same := exclusive 1 2 _ _ 5000 5000 one two rfl rfl rfl (by rw [time]; decide)
      (by rw [time]; decide)
    exact absurd same (by decide)

end TrafficService.SegmentLock
