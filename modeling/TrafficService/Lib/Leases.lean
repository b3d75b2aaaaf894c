import Mathlib.Logic.Function.Basic

/-!
Keys with a time to live, as `SET NX` with an expiry, `GET` and `DEL` see them. Time is a
number the caller passes in, and a key is gone from the moment it expires.
-/

structure Lease (Value : Type) where
  value : Value
  expiresAt : Nat
  deriving DecidableEq

abbrev Leases (Key Value : Type) := Key → Option (Lease Value)

namespace Leases

variable {Key Value : Type} [DecidableEq Key]

def get (leases : Leases Key Value) (now : Nat) (key : Key) : Option Value :=
  match leases key with
  | none => none
  | some lease => if now < lease.expiresAt then some lease.value else none

def setNx (leases : Leases Key Value) (now ttl : Nat) (key : Key) (value : Value) :
    Option (Leases Key Value) :=
  match leases.get now key with
  | some _ => none
  | none => some (Function.update leases key (some ⟨value, now + ttl⟩))

def delete (leases : Leases Key Value) (key : Key) : Leases Key Value :=
  Function.update leases key none

section

variable {leases next : Leases Key Value} {now later ttl : Nat} {key other : Key} {value : Value}

omit [DecidableEq Key] in
theorem get_of_live {lease : Lease Value} (stored : leases key = some lease)
    (live : now < lease.expiresAt) : leases.get now key = some lease.value := by
  simp [get, stored, live]

omit [DecidableEq Key] in
theorem get_eq_some (found : leases.get now key = some value) :
    ∃ lease, leases key = some lease ∧ lease.value = value ∧ now < lease.expiresAt := by
  simp only [get] at found
  split at found
  · exact nomatch found
  · rename_i lease stored
    split at found
    · rename_i live
      exact ⟨lease, stored, Option.some.inj found, live⟩
    · exact nomatch found

theorem setNx_eq_some (set : leases.setNx now ttl key value = some next) :
    leases.get now key = none ∧ next = Function.update leases key (some ⟨value, now + ttl⟩) := by
  simp only [setNx] at set
  split at set
  · exact nomatch set
  · rename_i free
    exact ⟨free, (Option.some.inj set).symm⟩

theorem setNx_keeps {lease : Lease Value} (set : leases.setNx now ttl other value = some next)
    (stored : leases key = some lease) (live : now < lease.expiresAt) :
    key ≠ other ∧ next key = some lease := by
  obtain ⟨free, rfl⟩ := setNx_eq_some set
  have apart : key ≠ other := by
    rintro rfl
    exact nomatch (get_of_live stored live).symm.trans free
  exact ⟨apart, by rw [Function.update_of_ne apart, stored]⟩

theorem delete_of_ne (apart : key ≠ other) : leases.delete other key = leases key :=
  Function.update_of_ne apart ..

end

end Leases
