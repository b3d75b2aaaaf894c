/-!
Counting in fixed windows. Windows of one length are opened one after another, each when the one
before is over, and each takes a limited number of events. An interval as long as a window may
meet two of them, and then misses the event that opened the first.
-/

namespace FixedWindow

def within (times : List Nat) (start stop : Nat) : Nat :=
  times.countP fun time => start ≤ time && time < stop

def since (times : List Nat) (start : Nat) : Nat := times.countP fun time => start ≤ time

/-- What is known of the events taken so far, the last window having been opened at `start`. -/
structure Limited (limit length : Nat) (times : List Nat) (start : Nat) : Prop where
  current : since times start ≤ limit
  later : since times (start + 1) < limit
  before : ∀ first, start < first + length → within times first start < limit
  bound : ∀ first, within times first (first + length) < 2 * limit

section

variable {limit length start now first stop : Nat} {times : List Nat}

theorem since_cons (time : Nat) :
    since (time :: times) start = since times start + if start ≤ time then 1 else 0 := by
  simp [since, List.countP_cons]

theorem within_cons (time : Nat) : within (time :: times) start stop =
    within times start stop + if start ≤ time ∧ time < stop then 1 else 0 := by
  simp [within, List.countP_cons]

theorem within_le_since (later : start ≤ first) : within times first stop ≤ since times start := by
  apply List.countP_mono_left
  intro time _ counted
  simp only [Bool.and_eq_true, decide_eq_true_eq] at counted ⊢
  omega

theorem since_eq_zero (past : ∀ time ∈ times, time < start) : since times start = 0 := by
  rw [since, List.countP_eq_zero]
  intro time member counted
  have earlier := past time member
  simp only [decide_eq_true_eq] at counted
  omega

theorem within_split (middle : Nat) :
    within times first stop ≤ within times first middle + since times middle := by
  induction times with
  | nil => exact Nat.le_refl _
  | cons time times ih =>
      rw [within_cons, within_cons, since_cons]
      split <;> split <;> split <;> omega

theorem limited_nil (positive : 0 < limit) : Limited limit length [] start where
  current := Nat.zero_le _
  later := positive
  before := fun _ _ => positive
  bound := fun _ => Nat.mul_pos (by decide) positive

/-- One more event in the window that is open. -/
theorem Limited.add (limited : Limited limit length times start) (opened : start ≤ now)
    (room : since times start < limit) (roomLater : since times (start + 1) + 1 < limit) :
    Limited limit length (now :: times) start where
  current := by
    rw [since_cons, if_pos opened]
    exact room
  later := by
    rw [since_cons]
    split <;> omega
  before := by
    intro first near
    have outside : ¬ (first ≤ now ∧ now < start) := by omega
    rw [within_cons, if_neg outside]
    exact limited.before first near
  bound := by
    intro first
    rw [within_cons]
    by_cases inside : first ≤ now ∧ now < first + length
    · rw [if_pos inside]
      by_cases both : first ≤ start
      · have earlier := limited.before first (by omega)
        have split := @within_split first (first + length) times start
        omega
      · have own := @within_le_since (start + 1) first (first + length) times (by omega)
        omega
    · rw [if_neg inside]
      exact limited.bound first

/-- The window is over, and an event opens the next. -/
theorem Limited.next (limited : Limited limit length times start) (ended : start + length ≤ now)
    (past : ∀ time ∈ times, time < now) : Limited limit length (now :: times) now where
  current := by
    have later := limited.later
    rw [since_cons, if_pos (Nat.le_refl _), since_eq_zero past]
    omega
  later := by
    have later := limited.later
    rw [since_cons, if_neg (by omega), since_eq_zero fun time member =>
      Nat.lt_succ_of_lt (past time member)]
    omega
  before := by
    intro first near
    have own := @within_le_since (start + 1) first now times (by omega)
    have later := limited.later
    rw [within_cons, if_neg (by omega)]
    omega
  bound := by
    intro first
    rw [within_cons]
    by_cases inside : first ≤ now ∧ now < first + length
    · have own := @within_le_since (start + 1) first (first + length) times (by omega)
      have later := limited.later
      rw [if_pos inside]
      omega
    · rw [if_neg inside]
      exact limited.bound first

/-- The first window. -/
theorem limited_singleton (several : 1 < limit) : Limited limit length [now] now where
  current := by
    rw [since_cons, if_pos (Nat.le_refl _)]
    exact Nat.le_of_lt several
  later := by
    rw [since_cons, if_neg (by omega)]
    exact Nat.lt_of_succ_lt several
  before := by
    intro first _
    rw [within_cons, if_neg (by omega)]
    exact Nat.lt_of_succ_lt several
  bound := by
    intro first
    have none : within [] first (first + length) = 0 := rfl
    rw [within_cons, none]
    split <;> omega

end

end FixedWindow
