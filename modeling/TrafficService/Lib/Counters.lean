import Mathlib.Logic.Function.Basic

/-!
Counters that may expire, as `INCR` and `EXPIRE` see them. `INCR` begins a counter that is
absent or has expired at one and gives it no expiry.
-/

structure Counter where
  count : Nat
  expiresAt : Option Nat
  deriving DecidableEq

abbrev Counters (Key : Type) := Key → Option Counter

namespace Counters

variable {Key : Type} [DecidableEq Key]

def Live (now : Nat) (counter : Counter) : Prop := ∀ expiry ∈ counter.expiresAt, now < expiry

instance (now : Nat) (counter : Counter) : Decidable (Live now counter) :=
  inferInstanceAs (Decidable (∀ expiry ∈ counter.expiresAt, now < expiry))

omit [DecidableEq Key] in
def get (counters : Counters Key) (now : Nat) (key : Key) : Option Counter :=
  (counters key).filter fun counter => Live now counter

def next (counters : Counters Key) (now : Nat) (key : Key) : Counter :=
  match counters.get now key with
  | none => ⟨1, none⟩
  | some counter => { counter with count := counter.count + 1 }

def incr (counters : Counters Key) (now : Nat) (key : Key) : Counters Key :=
  Function.update counters key (some (counters.next now key))

def expire (counters : Counters Key) (now ttl : Nat) (key : Key) : Counters Key :=
  match counters.get now key with
  | none => counters
  | some counter =>
      Function.update counters key (some { counter with expiresAt := some (now + ttl) })

section

variable {counters : Counters Key} {now ttl : Nat} {key other : Key} {counter : Counter}

omit [DecidableEq Key] in
theorem get_eq_some : counters.get now key = some counter ↔
    counters key = some counter ∧ Live now counter := by
  simp [get, Option.filter_eq_some_iff]

omit [DecidableEq Key] in
theorem expired_of_get (absent : counters.get now key = none) (stored : counters key = some counter) :
    ∃ expiry, counter.expiresAt = some expiry ∧ expiry ≤ now := by
  have dead : ¬ Live now counter := by
    intro live
    cases absent.symm.trans (get_eq_some.mpr ⟨stored, live⟩)
  simp only [Live, Option.mem_def, not_forall] at dead
  obtain ⟨expiry, expires, passed⟩ := dead
  exact ⟨expiry, expires, Nat.le_of_not_lt passed⟩

omit [DecidableEq Key] in
theorem next_of_get (found : counters.get now key = some counter) :
    counters.next now key = { counter with count := counter.count + 1 } := by
  rw [next, found]

omit [DecidableEq Key] in
theorem next_of_absent (absent : counters.get now key = none) :
    counters.next now key = ⟨1, none⟩ := by
  rw [next, absent]

theorem incr_cases (stored : counters.incr now key other = some counter) :
    (other = key ∧ counter = counters.next now key) ∨ (other ≠ key ∧ counters other = some counter) := by
  by_cases same : other = key
  · subst same
    rw [incr, Function.update_self] at stored
    exact .inl ⟨rfl, (Option.some.inj stored).symm⟩
  · rw [incr, Function.update_of_ne same] at stored
    exact .inr ⟨same, stored⟩

theorem expire_cases (stored : counters.expire now ttl key other = some counter) :
    counters other = some counter ∨ ∃ before, other = key ∧ counters key = some before ∧
      counter = { before with expiresAt := some (now + ttl) } := by
  cases found : counters.get now key with
  | none =>
      simp only [expire, found] at stored
      exact .inl stored
  | some before =>
      simp only [expire, found] at stored
      by_cases same : other = key
      · subst same
        rw [Function.update_self] at stored
        exact .inr ⟨before, rfl, (get_eq_some.mp found).1, (Option.some.inj stored).symm⟩
      · rw [Function.update_of_ne same] at stored
        exact .inl stored

end

end Counters
