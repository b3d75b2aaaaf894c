import TrafficService.Lib.FixedWindow
import TrafficService.RateLimiter

/-!
How many requests the limiter lets through in a window, and that it limits every client by itself.
-/

namespace TrafficService.RateLimiter

open FixedWindow

/-- No `INCR` raises: a request that is let through has been counted. -/
def Answered (_ : State) : Action → Prop
  | .incr _ reply => reply = .ok
  | _ => True

instance (state : State) (action : Action) : Decidable (Answered state action) := by
  cases action <;> unfold Answered <;> infer_instance

def admitted (history : List Counted) (client : Client) : List Nat :=
  (history.filter fun entry => entry.client = client && !entry.refused).map Counted.time

structure Windowed (client : Client) (state : State) : Prop where
  started : state.startedAt client ≤ state.now
  past : ∀ time ∈ admitted state.history client, time ≤ state.now
  absent : state.counters client = none → admitted state.history client = []
  counted : ∀ counter, state.counters client = some counter →
    since (admitted state.history client) (state.startedAt client) ≤ counter.count ∧
      since (admitted state.history client) (state.startedAt client + 1) < counter.count
  expires : ∀ counter expiry, state.counters client = some counter →
    counter.expiresAt = some expiry → state.startedAt client + window ≤ expiry ∧
      ∀ time ∈ admitted state.history client, time < expiry
  limited : Limited rateLimit window (admitted state.history client) (state.startedAt client)

section

variable {state next : State} {action : Action} {id : RequestId} {request : Request}
  {client other : Client} {refused : Bool} {reply : Reply}

theorem admitted_count_self : admitted (state.count client refused).history client =
    if refused then admitted state.history client
    else state.now :: admitted state.history client := by
  cases refused with
  | true => simp [admitted, State.count]
  | false => simp [admitted, State.count]

theorem admitted_count_of_ne (apart : client ≠ other) :
    admitted (state.count other refused).history client = admitted state.history client := by
  simp [admitted, State.count, Ne.symm apart]

theorem counters_count_self :
    (state.count client refused).counters client = some (state.counters.next state.now client) := by
  simp [State.count, Counters.incr]

theorem counters_count_of_ne (apart : client ≠ other) :
    (state.count other refused).counters client = state.counters client := by
  simp [State.count, Counters.incr, apart]

theorem counters_setExpiry_of_ne (apart : client ≠ other) :
    (state.setExpiry other).counters client = state.counters client := by
  simp only [State.setExpiry, Counters.expire]
  cases state.counters.get state.now other with
  | none => rfl
  | some counter => exact Function.update_of_ne apart ..

theorem Windowed.congr (windowed : Windowed client state) (now : next.now = state.now)
    (counters : next.counters client = state.counters client)
    (started : next.startedAt client = state.startedAt client)
    (history : admitted next.history client = admitted state.history client) :
    Windowed client next := by
  constructor
  · rw [started, now]
    exact windowed.started
  · rw [history, now]
    exact windowed.past
  · rw [counters, history]
    exact windowed.absent
  · rw [counters, started, history]
    exact windowed.counted
  · rw [counters, started, history]
    exact windowed.expires
  · rw [started, history]
    exact windowed.limited

theorem Windowed.setRequest {changed : Option Request} (windowed : Windowed client state) :
    Windowed client (state.setRequest id changed) :=
  windowed.congr rfl rfl rfl rfl

theorem Windowed.count_of_ne (windowed : Windowed client state) (apart : client ≠ other) :
    Windowed client (state.count other refused) :=
  windowed.congr rfl (counters_count_of_ne apart) (startedAt_count_of_ne refused apart)
    (admitted_count_of_ne apart)

theorem Windowed.tick (windowed : Windowed client state) (elapsed : Nat) :
    Windowed client { state with now := state.now + elapsed } where
  started := Nat.le_trans windowed.started (Nat.le_add_right _ _)
  past := fun time member => Nat.le_trans (windowed.past time member) (Nat.le_add_right _ _)
  absent := windowed.absent
  counted := windowed.counted
  expires := windowed.expires
  limited := windowed.limited

/-- A counter that is gone counted for the length of the window at least. -/
theorem Windowed.begin (windowed : Windowed client state)
    (gone : state.counters.get state.now client = none) :
    Windowed client (state.count client false) := by
  have fresh := Counters.next_of_absent gone
  have started : (state.count client false).startedAt client = state.now :=
    startedAt_count_begun false (by rw [fresh])
  have history : admitted (state.count client false).history client =
      state.now :: admitted state.history client := admitted_count_self
  have earlier : ∀ time ∈ admitted state.history client, time < state.now := by
    intro time member
    cases stored : state.counters client with
    | none =>
        rw [windowed.absent stored] at member
        cases member
    | some counter =>
        obtain ⟨expiry, expires, passed⟩ := Counters.expired_of_get gone stored
        exact Nat.lt_of_lt_of_le ((windowed.expires counter expiry stored expires).2 time member)
          passed
  have limited : Limited rateLimit window (state.now :: admitted state.history client)
      state.now := by
    cases stored : state.counters client with
    | none =>
        rw [windowed.absent stored]
        exact limited_singleton (by decide)
    | some counter =>
        obtain ⟨expiry, expires, passed⟩ := Counters.expired_of_get gone stored
        have ended := (windowed.expires counter expiry stored expires).1
        exact windowed.limited.next (Nat.le_trans ended passed) earlier
  constructor
  · rw [started]
    exact Nat.le_refl _
  · intro time member
    rw [history, List.mem_cons] at member
    rcases member with rfl | old
    · exact Nat.le_refl _
    · exact windowed.past time old
  · intro absent
    rw [counters_count_self] at absent
    cases absent
  · intro counter stored
    rw [counters_count_self, fresh] at stored
    cases stored
    rw [started, history, since_cons, since_cons, if_pos (Nat.le_refl _), since_eq_zero earlier,
      if_neg (by omega), since_eq_zero fun time member => Nat.lt_succ_of_lt (earlier time member)]
    decide
  · intro counter expiry stored expires
    rw [counters_count_self, fresh] at stored
    cases stored
    cases expires
  · rw [started, history]
    exact limited

/-- One more request of a live counter, which is refused where that counter is full. -/
theorem Windowed.continue (windowed : Windowed client state) {counter : Counter}
    (lives : state.counters.get state.now client = some counter)
    (room : refused = false → counter.count < rateLimit) :
    Windowed client (state.count client refused) := by
  obtain ⟨stored, live⟩ := Counters.get_eq_some.mp lives
  obtain ⟨current, later⟩ := windowed.counted counter stored
  have after : (state.count client refused).counters client =
      some { counter with count := counter.count + 1 } := by
    rw [counters_count_self, Counters.next_of_get lives]
  have started : (state.count client refused).startedAt client = state.startedAt client := by
    apply startedAt_count_continued
    rw [Counters.next_of_get lives]
    exact Nat.succ_ne_succ_iff.mpr (Nat.ne_of_gt (Nat.zero_lt_of_lt later))
  have history := @admitted_count_self state client refused
  have members : ∀ time ∈ admitted (state.count client refused).history client,
      time = state.now ∨ time ∈ admitted state.history client := by
    intro time member
    rw [history] at member
    split at member
    · exact .inr member
    · exact List.mem_cons.mp member
  constructor
  · rw [started]
    exact windowed.started
  · intro time member
    rcases members time member with rfl | old
    · exact Nat.le_refl _
    · exact windowed.past time old
  · intro absent
    cases after.symm.trans absent
  · intro other known
    cases after.symm.trans known
    rw [started, history]
    cases refused with
    | true => exact ⟨Nat.le_succ_of_le current, Nat.lt_succ_of_lt later⟩
    | false =>
        rw [if_neg Bool.false_ne_true, since_cons, since_cons, if_pos windowed.started]
        refine ⟨Nat.succ_le_succ current, ?_⟩
        simp only
        split <;> omega
  · intro other expiry known expires
    cases after.symm.trans known
    obtain ⟨long, before⟩ := windowed.expires counter expiry stored expires
    rw [started]
    refine ⟨long, ?_⟩
    intro time member
    rcases members time member with rfl | old
    · exact live expiry expires
    · exact before time old
  · rw [started, history]
    cases refused with
    | true => exact windowed.limited
    | false =>
        have free := room rfl
        exact windowed.limited.add windowed.started (by omega) (by omega)

theorem Windowed.setExpiry (windowed : Windowed client state) :
    Windowed client (state.setExpiry client) where
  started := windowed.started
  past := windowed.past
  absent := by
    intro absent
    apply windowed.absent
    cases lives : state.counters.get state.now client with
    | none =>
        simp only [State.setExpiry, Counters.expire, lives] at absent
        exact absent
    | some counter =>
        simp only [State.setExpiry, Counters.expire, lives, Function.update_self] at absent
        cases absent
  counted := by
    intro counter stored
    rcases Counters.expire_cases stored with same | ⟨before, _, found, rfl⟩
    · exact windowed.counted counter same
    · exact windowed.counted before found
  expires := by
    intro counter expiry stored expires
    rcases Counters.expire_cases stored with same | ⟨before, _, found, rfl⟩
    · exact windowed.expires counter expiry same expires
    · cases expires
      refine ⟨Nat.add_le_add_right windowed.started window, ?_⟩
      intro time member
      exact Nat.lt_of_le_of_lt (windowed.past time member)
        (Nat.lt_add_of_pos_right (by decide))
  limited := windowed.limited

theorem Windowed.setExpiry_of_ne (windowed : Windowed client state) (apart : client ≠ other) :
    Windowed client (state.setExpiry other) :=
  windowed.congr rfl (counters_setExpiry_of_ne apart) rfl rfl

theorem Windowed.counted_as (windowed : Windowed client state) : Windowed client
    (state.count other (decide ((state.counters.next state.now other).count > rateLimit))) := by
  by_cases own : client = other
  · subst own
    cases lives : state.counters.get state.now client with
    | none =>
        have first : decide ((state.counters.next state.now client).count > rateLimit) = false := by
          rw [Counters.next_of_absent lives]
          rfl
        rw [first]
        exact windowed.begin lives
    | some counter =>
        apply windowed.continue lives
        intro admits
        rw [Counters.next_of_get lives, decide_eq_false_iff_not] at admits
        exact Nat.lt_of_succ_le (Nat.le_of_not_lt admits)
  · exact windowed.count_of_ne own

theorem Windowed.incr (windowed : Windowed client state) (answered : reply = .ok)
    (stepped : RateLimiter.incr state id request reply = some next) : Windowed client next := by
  subst answered
  simp only [RateLimiter.incr] at stepped
  split at stepped
  · have counted := @Windowed.counted_as state client request.client windowed
    split at stepped
    · cases stepped
      exact counted.setRequest
    · cases stepped
      exact counted.setRequest
  · cases stepped

theorem Windowed.expire (windowed : Windowed client state)
    (stepped : RateLimiter.expire state id request reply = some next) : Windowed client next := by
  have set : Windowed client (state.setExpiry request.client) := by
    by_cases own : client = request.client
    · subst own
      exact windowed.setExpiry
    · exact windowed.setExpiry_of_ne own
  simp only [RateLimiter.expire] at stepped
  split at stepped
  · cases stepped
  · split at stepped
    · cases stepped
      exact windowed.setRequest
    · cases stepped
      exact set.setRequest
    · cases stepped
      exact set.setRequest

theorem Windowed.step (windowed : Windowed client state) (answered : Answered state action)
    (stepped : step state action = some next) : Windowed client next := by
  cases action with
  | tick elapsed =>
      cases stepped
      exact windowed.tick elapsed
  | arrive id host =>
      simp only [RateLimiter.step] at stepped
      split at stepped
      · cases stepped
      · cases stepped
        exact windowed.setRequest
  | incr id reply =>
      obtain ⟨request, _, moved⟩ := Option.bind_eq_some_iff.mp stepped
      exact windowed.incr answered moved
  | expire id reply =>
      obtain ⟨request, _, moved⟩ := Option.bind_eq_some_iff.mp stepped
      exact windowed.expire moved
  | crash id =>
      obtain ⟨request, _, rfl⟩ := Option.map_eq_some_iff.mp stepped
      exact windowed.setRequest

theorem windowed_initial (client : Client) : Windowed client .initial where
  started := Nat.le_refl 0
  past := by
    intro time member
    cases member
  absent := fun _ => rfl
  counted := by
    intro counter stored
    cases stored
  expires := by
    intro counter expiry stored
    cases stored
  limited := limited_nil (by decide)

/-- Whatever becomes of the `EXPIRE`s, no window of a minute sees twice the limit let through. -/
theorem admitted_in_window {actions : List Action}
    (executed : Lts.run RateLimiter.step .initial actions = some state)
    (answered : Lts.Meets RateLimiter.step Answered .initial actions) (client : Client)
    (start : Nat) :
    within (admitted state.history client) start (start + window) ≤ 2 * rateLimit - 1 := by
  have windowed : Windowed client state :=
    Lts.run_invariant (fun _ _ _ windowed answered stepped => windowed.step answered stepped)
      (windowed_initial client) executed answered
  exact Nat.le_sub_one_of_lt (windowed.limited.bound start)

end

def aroundTheTurn : List Action :=
  ask (some .ok) ++ [.tick (window - 1)] ++ (List.replicate 99 (ask none)).flatten ++
    [.tick 1] ++ ask (some .ok) ++ (List.replicate 99 (ask none)).flatten

theorem admitted_aroundTheTurn : ∃ state, Lts.run step .initial aroundTheTurn = some state ∧
    within (admitted state.history "10.0.0.7") 1 (1 + window) = 2 * rateLimit - 1 ∧
    ∀ start, within (admitted state.history "10.0.0.7") start (start + window) ≤
      2 * rateLimit - 1 := by
  have ran : (Lts.run step .initial aroundTheTurn).map (fun state =>
      within (admitted state.history "10.0.0.7") 1 (1 + window)) = some (2 * rateLimit - 1) := by
    decide +kernel
  have answered : Lts.checks step (fun state action => decide (Answered state action)) .initial
      aroundTheTurn = true := by decide +kernel
  obtain ⟨state, executed, observed⟩ := Option.map_eq_some_iff.mp ran
  refine ⟨state, executed, observed, ?_⟩
  apply admitted_in_window executed
  exact Lts.meets_of_checks (fun _ _ holds => of_decide_eq_true holds) answered

/-! ### One client beside the others -/

def concerns (client : Client) (state : State) : Action → Bool
  | .tick _ => true
  | .arrive _ host => host.getD "unknown" = client
  | .incr id _ | .expire id _ | .crash id =>
      (state.requests id).any fun request => request.client = client

/-- The other state has what the client can see of the first, and nothing else. -/
structure Sees (client : Client) (state other : State) : Prop where
  now : other.now = state.now
  counter : other.counters client = state.counters client
  started : other.startedAt client = state.startedAt client
  history : other.history = state.history.filter fun entry => entry.client = client
  requests : ∀ id, other.requests id =
    (state.requests id).filter fun request => request.client = client

section

variable {state other next : State} {client foreign : Client} {id : RequestId} {request : Request}
  {reply : Reply} {changed : Option Request}

theorem Sees.next_eq (sees : Sees client state other) :
    other.counters.next other.now client = state.counters.next state.now client := by
  rw [Counters.next, Counters.next, Counters.get, Counters.get, sees.now, sees.counter]

theorem Sees.setRequest (sees : Sees client state other)
    (own : ∀ request, changed = some request → request.client = client) :
    Sees client (state.setRequest id changed) (other.setRequest id changed) := by
  refine ⟨sees.now, sees.counter, sees.started, sees.history, ?_⟩
  intro place
  by_cases here : place = id
  · subst here
    simp only [State.setRequest, Function.update_self]
    cases changed with
    | none => rfl
    | some request => rw [Option.filter_some, if_pos (decide_eq_true (own request rfl))]
  · simp only [State.setRequest, Function.update_of_ne here]
    exact sees.requests place

theorem Sees.setForeign (sees : Sees client state other)
    (absent : (state.requests id).filter (fun request => request.client = client) = none)
    (strange : ∀ request, changed = some request → request.client ≠ client) :
    Sees client (state.setRequest id changed) other := by
  refine ⟨sees.now, sees.counter, sees.started, sees.history, ?_⟩
  intro place
  rw [sees.requests]
  by_cases here : place = id
  · subst here
    simp only [State.setRequest, Function.update_self]
    rw [absent]
    cases changed with
    | none => rfl
    | some request => rw [Option.filter_some, if_neg (by simpa using strange request rfl)]
  · simp only [State.setRequest, Function.update_of_ne here]

theorem Sees.count (sees : Sees client state other) (refused : Bool) :
    Sees client (state.count client refused) (other.count client refused) where
  now := sees.now
  counter := by
    rw [counters_count_self, counters_count_self, sees.next_eq]
  started := by
    by_cases begun : (state.counters.next state.now client).count = 1
    · rw [startedAt_count_begun refused begun, startedAt_count_begun refused (sees.next_eq ▸ begun),
        sees.now]
    · rw [startedAt_count_continued refused begun,
        startedAt_count_continued refused (sees.next_eq ▸ begun), sees.started]
  history := by
    simp [State.count, sees.history, sees.now]
  requests := sees.requests

theorem Sees.countForeign (sees : Sees client state other) (apart : client ≠ foreign)
    (refused : Bool) : Sees client (state.count foreign refused) other where
  now := sees.now
  counter := by
    rw [counters_count_of_ne apart, sees.counter]
  started := by
    rw [startedAt_count_of_ne refused apart, sees.started]
  history := by
    simp [State.count, sees.history, Ne.symm apart]
  requests := sees.requests

theorem Sees.setExpiry (sees : Sees client state other) :
    Sees client (state.setExpiry client) (other.setExpiry client) where
  now := sees.now
  counter := by
    have same : other.counters.get state.now client = state.counters.get state.now client := by
      rw [Counters.get, Counters.get, sees.counter]
    cases lives : state.counters.get state.now client with
    | none =>
        rw [lives] at same
        simp only [State.setExpiry, Counters.expire, sees.now, lives, same]
        exact sees.counter
    | some counter =>
        rw [lives] at same
        simp only [State.setExpiry, Counters.expire, sees.now, lives, same, Function.update_self]
  started := sees.started
  history := sees.history
  requests := sees.requests

theorem Sees.setExpiryForeign (sees : Sees client state other) (apart : client ≠ foreign) :
    Sees client (state.setExpiry foreign) other where
  now := sees.now
  counter := by
    rw [counters_setExpiry_of_ne apart, sees.counter]
  started := sees.started
  history := sees.history
  requests := sees.requests

theorem Sees.found (sees : Sees client state other) (found : state.requests id = some request)
    (own : request.client = client) : other.requests id = some request := by
  rw [sees.requests, found]
  simp [own]

theorem Sees.incr (sees : Sees client state other) (own : request.client = client)
    (stepped : RateLimiter.incr state id request reply = some next) :
    ∃ after, RateLimiter.incr other id request reply = some after ∧ Sees client next after := by
  subst own
  simp only [RateLimiter.incr] at stepped ⊢
  split at stepped
  · cases reply with
    | raise =>
        cases stepped
        exact ⟨_, rfl, sees.setRequest (by simp)⟩
    | raiseApplied =>
        cases stepped
        exact ⟨_, rfl, (sees.count false).setRequest (by simp)⟩
    | ok =>
        simp only [sees.next_eq] at stepped ⊢
        split at stepped
        · next begun =>
            cases stepped
            rw [if_pos begun]
            exact ⟨_, rfl, (sees.count _).setRequest (by simp)⟩
        · next continued =>
            cases stepped
            rw [if_neg continued]
            exact ⟨_, rfl, (sees.count _).setRequest (by simp)⟩
  · cases stepped

theorem Sees.expire (sees : Sees client state other) (own : request.client = client)
    (stepped : RateLimiter.expire state id request reply = some next) :
    ∃ after, RateLimiter.expire other id request reply = some after ∧ Sees client next after := by
  subst own
  simp only [RateLimiter.expire] at stepped ⊢
  split at stepped
  · cases stepped
  · cases reply with
    | raise =>
        cases stepped
        exact ⟨_, rfl, sees.setRequest (by simp)⟩
    | ok | raiseApplied =>
        cases stepped
        exact ⟨_, rfl, sees.setExpiry.setRequest (by simp)⟩

theorem Sees.incrForeign (sees : Sees client state other) (apart : client ≠ request.client)
    (found : state.requests id = some request)
    (stepped : RateLimiter.incr state id request reply = some next) : Sees client next other := by
  have absent : (state.requests id).filter (fun request => request.client = client) = none := by
    rw [found, Option.filter_some, if_neg (by simpa using Ne.symm apart)]
  simp only [RateLimiter.incr] at stepped
  split at stepped
  · cases reply with
    | raise =>
        cases stepped
        exact sees.setForeign absent (by simp)
    | raiseApplied =>
        cases stepped
        exact (sees.countForeign apart false).setForeign absent (by simp)
    | ok =>
        have counted := sees.countForeign apart
          (decide ((state.counters.next state.now request.client).count > rateLimit))
        simp only at stepped
        split at stepped
        · cases stepped
          apply counted.setForeign absent
          intro changed same
          cases same
          exact Ne.symm apart
        · cases stepped
          exact counted.setForeign absent (by simp)
  · cases stepped

theorem Sees.expireForeign (sees : Sees client state other) (apart : client ≠ request.client)
    (found : state.requests id = some request)
    (stepped : RateLimiter.expire state id request reply = some next) : Sees client next other := by
  have absent : (state.requests id).filter (fun request => request.client = client) = none := by
    rw [found, Option.filter_some, if_neg (by simpa using Ne.symm apart)]
  simp only [RateLimiter.expire] at stepped
  split at stepped
  · cases stepped
  · cases reply with
    | raise =>
        cases stepped
        exact sees.setForeign absent (by simp)
    | ok | raiseApplied =>
        cases stepped
        exact (sees.setExpiryForeign apart).setForeign absent (by simp)

theorem concerns_found (found : state.requests id = some request) :
    ((state.requests id).any fun request => request.client = client) =
      decide (request.client = client) := by
  rw [found, Option.any_some]

theorem Sees.kept {action : Action} (sees : Sees client state other)
    (stepped : step state action = some next) (own : concerns client state action = true) :
    ∃ after, step other action = some after ∧ Sees client next after := by
  cases action with
  | tick elapsed =>
      cases stepped
      refine ⟨_, rfl, ?_, sees.counter, sees.started, sees.history, sees.requests⟩
      rw [sees.now]
  | arrive id host =>
      simp only [step] at stepped
      split at stepped
      · cases stepped
      · next free =>
          cases stepped
          have free' : other.requests id = none := by
            rw [sees.requests, free]
            rfl
          refine ⟨other.setRequest id (some ⟨host.getD "unknown", .counting⟩), ?_, ?_⟩
          · simp only [step, free']
          apply sees.setRequest
          intro request new
          cases new
          exact of_decide_eq_true own
  | incr id reply =>
      obtain ⟨request, found, moved⟩ := Option.bind_eq_some_iff.mp stepped
      rw [concerns, concerns_found found, decide_eq_true_eq] at own
      obtain ⟨after, counted, still⟩ := sees.incr own moved
      exact ⟨after, Option.bind_eq_some_iff.mpr ⟨request, sees.found found own, counted⟩, still⟩
  | expire id reply =>
      obtain ⟨request, found, moved⟩ := Option.bind_eq_some_iff.mp stepped
      rw [concerns, concerns_found found, decide_eq_true_eq] at own
      obtain ⟨after, expiring, still⟩ := sees.expire own moved
      exact ⟨after, Option.bind_eq_some_iff.mpr ⟨request, sees.found found own, expiring⟩, still⟩
  | crash id =>
      obtain ⟨request, found, rfl⟩ := Option.map_eq_some_iff.mp stepped
      rw [concerns, concerns_found found, decide_eq_true_eq] at own
      exact ⟨_, Option.map_eq_some_iff.mpr ⟨request, sees.found found own, rfl⟩,
        sees.setRequest (by simp)⟩

theorem Sees.dropped {action : Action} (sees : Sees client state other)
    (stepped : step state action = some next) (strange : concerns client state action = false) :
    Sees client next other := by
  cases action with
  | tick elapsed => cases strange
  | arrive id host =>
      simp only [step] at stepped
      split at stepped
      · cases stepped
      · next free =>
          cases stepped
          apply sees.setForeign (by rw [free]; rfl)
          intro request new
          cases new
          exact of_decide_eq_false strange
  | incr id reply =>
      obtain ⟨request, found, moved⟩ := Option.bind_eq_some_iff.mp stepped
      rw [concerns, concerns_found found, decide_eq_false_iff_not] at strange
      exact sees.incrForeign (Ne.symm strange) found moved
  | expire id reply =>
      obtain ⟨request, found, moved⟩ := Option.bind_eq_some_iff.mp stepped
      rw [concerns, concerns_found found, decide_eq_false_iff_not] at strange
      exact sees.expireForeign (Ne.symm strange) found moved
  | crash id =>
      obtain ⟨request, found, rfl⟩ := Option.map_eq_some_iff.mp stepped
      rw [concerns, concerns_found found, decide_eq_false_iff_not] at strange
      apply sees.setForeign _ (by simp)
      rw [found, Option.filter_some, if_neg (by simpa using strange)]

theorem sees_initial (client : Client) : Sees client .initial .initial :=
  ⟨rfl, rfl, rfl, rfl, fun _ => rfl⟩

/-- What a client is answered is what it would be answered were it alone. -/
theorem answered_alone {actions : List Action} (client : Client)
    (executed : Lts.run step .initial actions = some state) :
    ∃ alone, Lts.run step .initial (Lts.keep step (concerns client) .initial actions) =
        some alone ∧
      alone.history = state.history.filter fun entry => entry.client = client := by
  obtain ⟨alone, ran, sees⟩ := @Lts.run_keep State Action step (concerns client) (Sees client)
    (fun _ _ _ _ sees stepped own => sees.kept stepped own)
    (fun _ _ _ _ sees stepped strange => sees.dropped stepped strange)
    _ _ _ _ (sees_initial client) executed
  exact ⟨alone, ran, sees.history⟩

def twoClients : List Action :=
  [.arrive 0 (some "10.0.0.7"), .arrive 1 (some "10.0.0.8"), .incr 1 .ok, .incr 0 .ok,
    .expire 1 .raise, .tick 5, .expire 0 .ok, .arrive 1 (some "10.0.0.7"), .incr 1 .ok]

theorem answered_alone_twoClients :
    ∃ alone, Lts.run step .initial
        (Lts.keep step (concerns "10.0.0.7") .initial twoClients) = some alone ∧
      alone.history = [⟨"10.0.0.7", 5, false⟩, ⟨"10.0.0.7", 0, false⟩] := by
  have ran : (Lts.run step .initial twoClients).map (fun state =>
      state.history.filter fun entry => entry.client = "10.0.0.7") =
        some [⟨"10.0.0.7", 5, false⟩, ⟨"10.0.0.7", 0, false⟩] := by decide +kernel
  obtain ⟨state, executed, observed⟩ := Option.map_eq_some_iff.mp ran
  obtain ⟨alone, other, same⟩ := answered_alone "10.0.0.7" executed
  exact ⟨alone, other, same.trans observed⟩

end

end TrafficService.RateLimiter
