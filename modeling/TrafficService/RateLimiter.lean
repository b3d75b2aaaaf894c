import TrafficService.Lib.Counters
import TrafficService.Lib.Lts
import Mathlib.Data.List.Basic

/-!
`rate_limit_middleware`: the requests of any number of workers, each at its `INCR` or its
`EXPIRE`, and the counters in Redis. Time is in milliseconds.
-/

namespace TrafficService.RateLimiter

abbrev RequestId := Nat

abbrev Client := String

def rateLimit : Nat := 100

def window : Nat := 60 * 1000

inductive Phase
  | counting
  | expiring
  deriving DecidableEq

structure Request where
  client : Client
  phase : Phase
  deriving DecidableEq

structure Counted where
  client : Client
  time : Nat
  refused : Bool
  deriving DecidableEq

structure State where
  now : Nat
  counters : Counters Client
  requests : RequestId → Option Request
  /-- The latest first. -/
  history : List Counted
  /-- When the client's counter was last begun. -/
  startedAt : Client → Nat

def State.initial : State where
  now := 0
  counters := fun _ => none
  requests := fun _ => none
  history := []
  startedAt := fun _ => 0

/-- What a call of Redis does: `raiseApplied` takes effect and raises all the same. -/
inductive Reply
  | ok
  | raise
  | raiseApplied
  deriving DecidableEq

inductive Action
  | tick (elapsed : Nat)
  | arrive (id : RequestId) (host : Option String)
  | incr (id : RequestId) (reply : Reply)
  | expire (id : RequestId) (reply : Reply)
  /-- The worker is gone, and the request with it. -/
  | crash (id : RequestId)
  deriving DecidableEq

def State.setRequest (state : State) (id : RequestId) (request : Option Request) : State :=
  { state with requests := Function.update state.requests id request }

def State.count (state : State) (client : Client) (refused : Bool) : State :=
  { state with
    counters := state.counters.incr state.now client
    history := ⟨client, state.now, refused⟩ :: state.history
    startedAt :=
      if (state.counters.next state.now client).count = 1 then
        Function.update state.startedAt client state.now
      else state.startedAt }

def State.setExpiry (state : State) (client : Client) : State :=
  { state with counters := state.counters.expire state.now window client }

/-- An exception of Redis lets the request through. One that began its counter is below the
limit, so it can be let through or not before its `EXPIRE`. -/
def incr (state : State) (id : RequestId) (request : Request) (reply : Reply) : Option State :=
  match request.phase with
  | .counting =>
      match reply with
      | .raise => some (state.setRequest id none)
      | .raiseApplied => some ((state.count request.client false).setRequest id none)
      | .ok =>
          let current := (state.counters.next state.now request.client).count
          let counted := state.count request.client (current > rateLimit)
          if current = 1 then some (counted.setRequest id (some { request with phase := .expiring }))
          else some (counted.setRequest id none)
  | .expiring => none

def expire (state : State) (id : RequestId) (request : Request) (reply : Reply) : Option State :=
  match request.phase with
  | .counting => none
  | .expiring =>
      match reply with
      | .raise => some (state.setRequest id none)
      | .ok | .raiseApplied => some ((state.setExpiry request.client).setRequest id none)

def step (state : State) : Action → Option State
  | .tick elapsed => some { state with now := state.now + elapsed }
  | .arrive id host =>
      match state.requests id with
      | some _ => none
      | none => some (state.setRequest id (some ⟨host.getD "unknown", .counting⟩))
  | .incr id reply => (state.requests id).bind (incr state id · reply)
  | .expire id reply => (state.requests id).bind (expire state id · reply)
  | .crash id => (state.requests id).map fun _ => state.setRequest id none

/-! ### The law -/

def recent (history : List Counted) (client : Client) (time : Nat) : Nat :=
  history.countP fun entry => entry.client = client && time < entry.time + window

def Caused (history : List Counted) : Prop :=
  ∀ entry earlier, entry :: earlier <:+ history → entry.refused = true →
    rateLimit ≤ recent earlier entry.client entry.time

/-- No request is refused by a counter that was begun a window ago or earlier. -/
def prompt (state : State) : Action → Bool
  | .incr id _ => (state.requests id).all fun request =>
      (state.counters.get state.now request.client).all fun counter =>
        counter.count < rateLimit || state.now < state.startedAt request.client + window
  | _ => true

structure Tallied (state : State) : Prop where
  started : ∀ client, state.startedAt client ≤ state.now
  counts : ∀ client counter, state.counters client = some counter →
    counter.count ≤ state.history.countP fun entry =>
      entry.client = client && state.startedAt client ≤ entry.time
  caused : Caused state.history

section

variable {state next : State} {action : Action} {id : RequestId} {request : Request}
  {client : Client} {refused : Bool} {reply : Reply} {history : List Counted} {entry : Counted}

theorem prompt_incr : prompt state (.incr id reply) = true ↔
    ∀ request, state.requests id = some request →
      ∀ counter, state.counters.get state.now request.client = some counter →
        counter.count < rateLimit ∨ state.now < state.startedAt request.client + window := by
  simp only [prompt, Option.all_eq_true, Bool.or_eq_true, decide_eq_true_eq]

theorem caused_cons (caused : Caused history)
    (limit : entry.refused = true → rateLimit ≤ recent history entry.client entry.time) :
    Caused (entry :: history) := by
  intro other earlier suffix isRefused
  rcases List.suffix_cons_iff.mp suffix with same | before
  · cases same
    exact limit isRefused
  · exact caused other earlier before isRefused

theorem silent_admitted (caused : Caused history) {earlier : List Counted}
    (suffix : entry :: earlier <:+ history)
    (silent : ∀ other ∈ earlier, other.client = entry.client → other.time + window ≤ entry.time) :
    entry.refused = false := by
  by_contra isRefused
  have limit := caused entry earlier suffix (by simpa using isRefused)
  have none : recent earlier entry.client entry.time = 0 := by
    rw [recent, List.countP_eq_zero]
    intro other member counted
    simp only [Bool.and_eq_true, decide_eq_true_eq] at counted
    have quiet := silent other member counted.1
    omega
  rw [none] at limit
  exact absurd limit (by decide)

/-- A counter begun within the window has counted nothing from before it. -/
theorem Tallied.recent (tallied : Tallied state) {counter : Counter}
    (stored : state.counters client = some counter)
    (young : state.now < state.startedAt client + window) :
    counter.count ≤ recent state.history client state.now := by
  refine Nat.le_trans (tallied.counts client counter stored) ?_
  apply List.countP_mono_left
  intro entry _ counted
  simp only [Bool.and_eq_true, decide_eq_true_eq] at counted ⊢
  exact ⟨counted.1, by omega⟩

theorem startedAt_count_of_ne (refused : Bool) {other : Client} (apart : other ≠ client) :
    (state.count client refused).startedAt other = state.startedAt other := by
  simp only [State.count]
  split
  · rw [Function.update_of_ne apart]
  · rfl

theorem startedAt_count_begun (refused : Bool)
    (begun : (state.counters.next state.now client).count = 1) :
    (state.count client refused).startedAt client = state.now := by
  simp only [State.count, begun, if_true, Function.update_self]

theorem startedAt_count_continued (refused : Bool)
    (continued : (state.counters.next state.now client).count ≠ 1) :
    (state.count client refused).startedAt client = state.startedAt client := by
  simp only [State.count, continued, if_false]

theorem Tallied.startedAt_count (tallied : Tallied state) (other : Client) :
    (state.count client refused).startedAt other ≤ state.now := by
  have before := tallied.started other
  by_cases same : other = client
  · subst same
    by_cases begun : (state.counters.next state.now other).count = 1
    · exact Nat.le_of_eq (startedAt_count_begun refused begun)
    · rw [startedAt_count_continued refused begun]
      exact before
  · rw [startedAt_count_of_ne refused same]
    exact before

theorem Tallied.count (tallied : Tallied state)
    (limit : refused = true → rateLimit ≤ RateLimiter.recent state.history client state.now) :
    Tallied (state.count client refused) where
  started := tallied.startedAt_count
  counts := by
    intro other counter stored
    have history : (state.count client refused).history =
        ⟨client, state.now, refused⟩ :: state.history := rfl
    rw [history, List.countP_cons]
    rcases Counters.incr_cases stored with ⟨rfl, rfl⟩ | ⟨apart, before⟩
    · have own : (decide (other = other) && decide
          ((state.count other refused).startedAt other ≤ state.now)) = true := by
        simp [tallied.startedAt_count other]
      rw [if_pos own]
      by_cases begun : (state.counters.next state.now other).count = 1
      · omega
      · cases found : state.counters.get state.now other with
        | none =>
            rw [Counters.next_of_absent found] at begun
            exact absurd rfl begun
        | some before =>
            have counts := tallied.counts other before (Counters.get_eq_some.mp found).1
            rw [startedAt_count_continued refused begun, Counters.next_of_get found]
            exact Nat.add_le_add_right counts 1
    · rw [startedAt_count_of_ne refused apart]
      exact Nat.le_trans (tallied.counts other counter before) (Nat.le_add_right _ _)
  caused := caused_cons tallied.caused limit

theorem Tallied.setRequest {changed : Option Request} (tallied : Tallied state) :
    Tallied (state.setRequest id changed) :=
  ⟨tallied.started, tallied.counts, tallied.caused⟩

theorem Tallied.setExpiry (tallied : Tallied state) : Tallied (state.setExpiry client) := by
  refine ⟨tallied.started, ?_, tallied.caused⟩
  intro other counter stored
  rcases Counters.expire_cases stored with before | ⟨before, rfl, found, rfl⟩
  · exact tallied.counts other counter before
  · exact tallied.counts other before found

theorem Tallied.incr (tallied : Tallied state)
    (young : ∀ counter, state.counters.get state.now request.client = some counter →
      counter.count < rateLimit ∨ state.now < state.startedAt request.client + window)
    (stepped : RateLimiter.incr state id request reply = some next) : Tallied next := by
  have limit (above : decide ((state.counters.next state.now request.client).count > rateLimit) =
      true) : rateLimit ≤ RateLimiter.recent state.history request.client state.now := by
    rw [decide_eq_true_eq] at above
    cases found : state.counters.get state.now request.client with
    | none =>
        rw [Counters.next_of_absent found] at above
        exact absurd above (by decide)
    | some counter =>
        rw [Counters.next_of_get found] at above
        rcases young counter found with below | young
        · simp only at above
          omega
        · have counted := tallied.recent (Counters.get_eq_some.mp found).1 young
          simp only at above
          omega
  simp only [RateLimiter.incr] at stepped
  split at stepped
  · split at stepped
    · cases stepped
      exact tallied.setRequest
    · cases stepped
      exact (tallied.count (by simp)).setRequest
    · have counted := tallied.count limit
      split at stepped
      · cases stepped
        exact counted.setRequest
      · cases stepped
        exact counted.setRequest
  · cases stepped

theorem Tallied.expire (tallied : Tallied state)
    (stepped : RateLimiter.expire state id request reply = some next) : Tallied next := by
  simp only [RateLimiter.expire] at stepped
  split at stepped
  · cases stepped
  · split at stepped
    · cases stepped
      exact tallied.setRequest
    · cases stepped
      exact tallied.setExpiry.setRequest
    · cases stepped
      exact tallied.setExpiry.setRequest

theorem Tallied.step (tallied : Tallied state) (young : prompt state action = true)
    (stepped : step state action = some next) : Tallied next := by
  cases action with
  | tick elapsed =>
      cases stepped
      refine ⟨?_, tallied.counts, tallied.caused⟩
      intro client
      exact Nat.le_trans (tallied.started client) (Nat.le_add_right _ _)
  | arrive id host =>
      simp only [RateLimiter.step] at stepped
      split at stepped
      · cases stepped
      · cases stepped
        exact tallied.setRequest
  | incr id reply =>
      obtain ⟨request, found, moved⟩ := Option.bind_eq_some_iff.mp stepped
      exact tallied.incr (prompt_incr.mp young request found) moved
  | expire id reply =>
      obtain ⟨request, found, moved⟩ := Option.bind_eq_some_iff.mp stepped
      exact tallied.expire moved
  | crash id =>
      obtain ⟨request, found, rfl⟩ := Option.map_eq_some_iff.mp stepped
      exact tallied.setRequest

theorem tallied_initial : Tallied .initial where
  started := fun _ => Nat.le_refl 0
  counts := by
    intro client counter stored
    cases stored
  caused := by
    intro entry earlier suffix
    cases List.suffix_nil.mp suffix

/-! ### Without faults -/

/-- No `INCR` takes effect unanswered, and the `EXPIRE` of a counter is applied at once. -/
def Timely (state : State) : Action → Prop
  | .tick _ => ∀ id request, state.requests id = some request → request.phase = .counting
  | .arrive _ _ => True
  | .incr _ reply => reply ≠ .raiseApplied
  | .expire _ reply => reply ≠ .raise
  | .crash id => ∀ request, state.requests id = some request → request.phase = .counting

def Request.waits (client : Client) : Request := ⟨client, .expiring⟩

/-- A counter has an expiry, or was begun just now by a request that will set one. -/
structure Bounded (state : State) : Prop where
  waiting : ∀ id client, state.requests id = some (.waits client) →
    state.startedAt client = state.now
  expires : ∀ client counter, state.counters client = some counter →
    (∃ expiry, counter.expiresAt = some expiry ∧ expiry ≤ state.startedAt client + window) ∨
      ∃ id, state.requests id = some (.waits client)

theorem Bounded.prompt (bounded : Bounded state) : prompt state action = true := by
  cases action with
  | incr id reply =>
      rw [prompt_incr]
      intro request found counter lives
      right
      obtain ⟨stored, fresh⟩ := Counters.get_eq_some.mp lives
      rcases bounded.expires _ counter stored with ⟨expiry, expires, bound⟩ | ⟨id, waits⟩
      · exact Nat.lt_of_lt_of_le (fresh expiry expires) bound
      · rw [bounded.waiting id _ waits]
        exact Nat.lt_add_of_pos_right (by decide)
  | tick | arrive | expire | crash => rfl

theorem waits_setRequest {changed : Option Request} {other : RequestId} {client : Client} :
    (state.setRequest id changed).requests other = some (.waits client) ↔
      (other = id ∧ changed = some (.waits client)) ∨
        (other ≠ id ∧ state.requests other = some (.waits client)) := by
  by_cases same : other = id
  · subst same
    simp [State.setRequest]
  · simp [State.setRequest, same]

theorem waits_kept {changed : Option Request} {other : RequestId} {client : Client}
    (before : ∀ client, state.requests id ≠ some (.waits client))
    (waits : state.requests other = some (.waits client)) :
    (state.setRequest id changed).requests other = some (.waits client) := by
  refine waits_setRequest.mpr (.inr ⟨?_, waits⟩)
  rintro rfl
  exact before client waits

/-- A request that does not wait for an `EXPIRE` comes or goes. -/
theorem Bounded.setRequest {changed : Option Request} (bounded : Bounded state)
    (before : ∀ client, state.requests id ≠ some (.waits client))
    (after : ∀ client, changed ≠ some (.waits client)) : Bounded (state.setRequest id changed) where
  waiting := by
    intro other client waits
    rcases waits_setRequest.mp waits with ⟨_, new⟩ | ⟨_, there⟩
    · exact absurd new (after client)
    · exact bounded.waiting other client there
  expires := by
    intro client counter stored
    rcases bounded.expires client counter stored with bound | ⟨other, waits⟩
    · exact .inl bound
    · exact .inr ⟨other, waits_kept before waits⟩

theorem Bounded.begin (refused : Bool) (bounded : Bounded state)
    (before : ∀ client, state.requests id ≠ some (.waits client))
    (begun : (state.counters.next state.now client).count = 1) :
    Bounded ((state.count client refused).setRequest id (some (.waits client))) where
  waiting := by
    intro other waiter waits
    by_cases own : waiter = client
    · subst own
      exact startedAt_count_begun refused begun
    · rcases waits_setRequest.mp waits with ⟨_, new⟩ | ⟨_, there⟩
      · cases new
        exact absurd rfl own
      · exact (startedAt_count_of_ne refused own).trans (bounded.waiting other waiter there)
  expires := by
    intro other counter stored
    rcases Counters.incr_cases stored with ⟨rfl, _⟩ | ⟨apart, there⟩
    · exact .inr ⟨id, waits_setRequest.mpr (.inl ⟨rfl, rfl⟩)⟩
    · rcases bounded.expires other counter there with ⟨expiry, expires, bound⟩ | ⟨waiter, waits⟩
      · refine .inl ⟨expiry, expires, ?_⟩
        rw [← startedAt_count_of_ne refused apart] at bound
        exact bound
      · exact .inr ⟨waiter, waits_kept before waits⟩

theorem Bounded.continue (refused : Bool) (bounded : Bounded state)
    (continued : (state.counters.next state.now client).count ≠ 1) :
    Bounded (state.count client refused) where
  waiting := by
    intro other waiter waits
    have started := bounded.waiting other waiter waits
    by_cases own : waiter = client
    · subst own
      exact (startedAt_count_continued refused continued).trans started
    · exact (startedAt_count_of_ne refused own).trans started
  expires := by
    intro other counter stored
    rcases Counters.incr_cases stored with ⟨rfl, rfl⟩ | ⟨apart, there⟩
    · cases found : state.counters.get state.now other with
      | none =>
          rw [Counters.next_of_absent found] at continued
          exact absurd rfl continued
      | some before =>
          rw [startedAt_count_continued refused continued, Counters.next_of_get found]
          exact bounded.expires other before (Counters.get_eq_some.mp found).1
    · rw [startedAt_count_of_ne refused apart]
      exact bounded.expires other counter there

/-- The counter it waits for was begun just now, or is gone already. -/
theorem Bounded.setExpiry (bounded : Bounded state)
    (waits : state.requests id = some (.waits client)) :
    Bounded ((state.setExpiry client).setRequest id none) where
  waiting := by
    intro other waiter still
    rcases waits_setRequest.mp still with ⟨_, new⟩ | ⟨_, there⟩
    · cases new
    · exact bounded.waiting other waiter there
  expires := by
    intro other counter stored
    have started : ((state.setExpiry client).setRequest id none).startedAt = state.startedAt := rfl
    rw [started]
    by_cases own : other = client
    · subst own
      left
      rw [bounded.waiting id other waits]
      cases found : state.counters.get state.now other with
      | some before =>
          have changed : (state.setExpiry other).counters other =
              some { before with expiresAt := some (state.now + window) } := by
            simp only [State.setExpiry, Counters.expire, found, Function.update_self]
          cases changed.symm.trans stored
          exact ⟨_, rfl, Nat.le_refl _⟩
      | none =>
          rw [State.setRequest, State.setExpiry, Counters.expire, found] at stored
          have dead : ¬ Counters.Live state.now counter := by
            intro live
            have lives := Counters.get_eq_some.mpr ⟨stored, live⟩
            cases found.symm.trans lives
          simp only [Counters.Live, not_forall] at dead
          obtain ⟨expiry, expires, passed⟩ := dead
          exact ⟨expiry, expires, by omega⟩
    · rcases Counters.expire_cases stored with there | ⟨_, same, _⟩
      · rcases bounded.expires other counter there with bound | ⟨waiter, waiting⟩
        · exact .inl bound
        · refine .inr ⟨waiter, waits_setRequest.mpr (.inr ⟨?_, waiting⟩)⟩
          rintro rfl
          cases waits.symm.trans waiting
          exact own rfl
      · exact absurd same own

theorem ne_waits (found : state.requests id = some request) (counting : request.phase = .counting)
    (client : Client) : state.requests id ≠ some (.waits client) := by
  intro waits
  cases found.symm.trans waits
  cases counting

theorem Bounded.incr (bounded : Bounded state) (found : state.requests id = some request)
    (answered : reply ≠ .raiseApplied)
    (stepped : RateLimiter.incr state id request reply = some next) : Bounded next := by
  simp only [RateLimiter.incr] at stepped
  split at stepped
  · next counting =>
      have before := ne_waits found counting
      split at stepped
      · cases stepped
        exact bounded.setRequest before (by simp)
      · exact absurd rfl answered
      · split at stepped
        · next begun =>
            cases stepped
            exact bounded.begin _ before begun
        · next continued =>
            cases stepped
            exact (bounded.continue _ continued).setRequest before (by simp)
  · cases stepped

theorem Bounded.expire (bounded : Bounded state) (found : state.requests id = some request)
    (applied : reply ≠ .raise)
    (stepped : RateLimiter.expire state id request reply = some next) : Bounded next := by
  simp only [RateLimiter.expire] at stepped
  split at stepped
  · cases stepped
  · next expiring =>
      have waits : state.requests id = some (.waits request.client) := by
        rw [found, Request.waits, ← expiring]
      split at stepped
      · exact absurd rfl applied
      · cases stepped
        exact bounded.setExpiry waits
      · cases stepped
        exact bounded.setExpiry waits

theorem Bounded.step (bounded : Bounded state) (timely : Timely state action)
    (stepped : step state action = some next) : Bounded next := by
  cases action with
  | tick elapsed =>
      cases stepped
      have idle (id : RequestId) (client : Client) : state.requests id ≠ some (.waits client) := by
        intro waits
        cases timely id _ waits
      constructor
      · intro id client waits
        exact absurd waits (idle id client)
      · intro client counter stored
        rcases bounded.expires client counter stored with bound | ⟨id, waits⟩
        · exact .inl bound
        · exact absurd waits (idle id client)
  | arrive id host =>
      simp only [RateLimiter.step] at stepped
      split at stepped
      · cases stepped
      · next free =>
          cases stepped
          apply bounded.setRequest
          · simp [free]
          · simp [Request.waits]
  | incr id reply =>
      obtain ⟨request, found, moved⟩ := Option.bind_eq_some_iff.mp stepped
      exact bounded.incr found timely moved
  | expire id reply =>
      obtain ⟨request, found, moved⟩ := Option.bind_eq_some_iff.mp stepped
      exact bounded.expire found timely moved
  | crash id =>
      obtain ⟨request, found, rfl⟩ := Option.map_eq_some_iff.mp stepped
      exact bounded.setRequest (ne_waits found (timely request found)) (by simp)

theorem bounded_initial : Bounded .initial where
  waiting := by
    intro id client waits
    cases waits
  expires := by
    intro client counter stored
    cases stored

/-- Only a lost or late `EXPIRE`, or an `INCR` that takes effect unanswered, lets a counter
outlive its window. -/
theorem prompt_of_timely {actions : List Action}
    (timely : Lts.Meets step Timely .initial actions) :
    Lts.Meets step (fun state action => prompt state action = true) .initial actions :=
  Lts.Meets.imp (fun _ _ _ bounded timely stepped => bounded.step timely stepped)
    (fun _ _ bounded _ => bounded.prompt) bounded_initial timely

/-- In a run where only counters younger than the window refuse, every refusal has its cause,
and a client that was silent for the window is admitted. -/
theorem refused_with_cause {actions : List Action}
    (executed : Lts.run step .initial actions = some state)
    (young : Lts.Meets step (fun state action => prompt state action = true) .initial actions) :
    Caused state.history ∧ ∀ entry earlier, entry :: earlier <:+ state.history →
      (∀ other ∈ earlier, other.client = entry.client → other.time + window ≤ entry.time) →
        entry.refused = false := by
  have tallied : Tallied state :=
    Lts.run_invariant (fun _ _ _ tallied young stepped => tallied.step young stepped)
      tallied_initial executed young
  refine ⟨tallied.caused, ?_⟩
  intro entry earlier suffix silent
  exact silent_admitted tallied.caused suffix silent

end

/-! ### An expiry that is lost -/

def ask (expiry : Option Reply) : List Action :=
  [.arrive 0 (some "10.0.0.7"), .incr 0 .ok] ++ (expiry.map (.expire 0)).toList

def hundred (expiry : Reply) : List Action :=
  ask (some expiry) ++ (List.replicate 99 (ask none)).flatten ++ [.tick window] ++
    ask (match expiry with | .raise => none | _ => some .ok)

theorem admitted_after_silence : ∃ state, Lts.run step .initial (hundred .ok) = some state ∧
    Caused state.history := by
  have ran : (Lts.run step .initial (hundred .ok)).isSome = true := by decide +kernel
  have young : Lts.checks step prompt .initial (hundred .ok) = true := by decide +kernel
  obtain ⟨state, executed⟩ := Option.isSome_iff_exists.mp ran
  exact ⟨state, executed, (refused_with_cause executed (Lts.checks_iff_meets.mp young)).1⟩

theorem refused_after_silence : ¬ ∀ actions state,
    Lts.run step .initial actions = some state → Caused state.history := by
  intro holds
  have ran : (Lts.run step .initial (hundred .raise)).map (fun state => (state.history.head?,
      recent state.history.tail "10.0.0.7" window)) = some (some ⟨"10.0.0.7", window, true⟩, 0) := by
    decide +kernel
  obtain ⟨state, executed, observed⟩ := Option.map_eq_some_iff.mp ran
  simp only [Prod.mk.injEq] at observed
  obtain ⟨latest, none⟩ := observed
  have split : state.history = ⟨"10.0.0.7", window, true⟩ :: state.history.tail := by
    rw [List.cons_head?_tail latest]
  have caused := holds _ state executed ⟨"10.0.0.7", window, true⟩ state.history.tail
    (split ▸ List.suffix_refl _) rfl
  rw [none] at caused
  exact absurd caused (by decide)

end TrafficService.RateLimiter
