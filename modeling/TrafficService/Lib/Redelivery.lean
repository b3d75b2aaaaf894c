import TrafficService.Lib.Lts
import Mathlib.Data.Multiset.Bind
import Mathlib.Tactic.Abel

/-!
A queue whose messages are handed out again until a handling of them is acknowledged, and
handlers that commit the effects of a message one at a time.
-/

namespace Redelivery

/-- One handling of a message; `done` of its effects are committed. -/
structure Attempt (Message : Type) where
  message : Message
  done : Nat
  deriving DecidableEq

/-- `returned`: handlings that still run although their message is back in the queue. -/
structure State (Message Effect : Type) where
  ready : Multiset Message
  running : Multiset (Attempt Message)
  returned : Multiset (Attempt Message)
  table : List Effect

inductive Action (Message : Type)
  | deliver (message : Message)
  | commit (attempt : Attempt Message)
  | acknowledge (attempt : Attempt Message)
  /-- The handler raises, its process dies or its connection is lost. -/
  | cutOff (attempt : Attempt Message)
  | commitReturned (attempt : Attempt Message)

variable {Message Effect : Type}

def State.start (messages : List Message) : State Message Effect := ⟨messages, 0, 0, []⟩

def State.finished (state : State Message Effect) : Prop :=
  state.ready = 0 ∧ state.running = 0

namespace Attempt

variable (effects : Message → List Effect) (attempt : Attempt Message)

def committed : List Effect := (effects attempt.message).take attempt.done

def next? : Option Effect := (effects attempt.message)[attempt.done]?

def advanced : Attempt Message := { attempt with done := attempt.done + 1 }

end Attempt

/-- Neither handed back nor committed by a handling that was. -/
def Action.once : Action Message → Bool
  | .deliver _ | .commit _ | .acknowledge _ => true
  | .cutOff _ | .commitReturned _ => false

/-- The committed effects an action leaves to be committed again. -/
def Action.repeated (effects : Message → List Effect) : Action Message → List Effect
  | .cutOff attempt => attempt.committed effects
  | .commitReturned attempt => (attempt.next? effects).toList
  | _ => []

theorem Action.repeated_of_once {effects : Message → List Effect} {action : Action Message}
    (once : action.once = true) : action.repeated effects = [] := by
  cases action with
  | deliver message => rfl
  | commit attempt => rfl
  | acknowledge attempt => rfl
  | cutOff attempt => cases once
  | commitReturned attempt => cases once

theorem Attempt.committed_advanced {effects : Message → List Effect} {attempt : Attempt Message}
    {effect : Effect} (next : attempt.next? effects = some effect) :
    attempt.advanced.committed effects = attempt.committed effects ++ [effect] := by
  simp only [Attempt.next?] at next
  simp only [Attempt.committed, Attempt.advanced, List.take_add_one, next, Option.toList_some]

variable [DecidableEq Message]

def step (effects : Message → List Effect) (state : State Message Effect) :
    Action Message → Option (State Message Effect)
  | .deliver message =>
      if message ∈ state.ready then
        some { state with
          ready := state.ready.erase message
          running := ⟨message, 0⟩ ::ₘ state.running }
      else none
  | .commit attempt =>
      if attempt ∈ state.running then
        (attempt.next? effects).map fun effect =>
          { state with
            running := attempt.advanced ::ₘ state.running.erase attempt
            table := state.table ++ [effect] }
      else none
  | .acknowledge attempt =>
      if attempt ∈ state.running ∧ attempt.next? effects = none then
        some { state with running := state.running.erase attempt }
      else none
  | .cutOff attempt =>
      if attempt ∈ state.running then
        some { state with
          ready := attempt.message ::ₘ state.ready
          running := state.running.erase attempt
          returned := attempt ::ₘ state.returned }
      else none
  | .commitReturned attempt =>
      if attempt ∈ state.returned then
        (attempt.next? effects).map fun effect =>
          { state with
            returned := attempt.advanced ::ₘ state.returned.erase attempt
            table := state.table ++ [effect] }
      else none

/-- Every message is acknowledged, being handled or ready, and the table holds what these
handlings have committed and what is repeated. -/
def Accounts (effects : Message → List Effect) (messages : List Message) (repeats : List Effect)
    (state : State Message Effect) : Prop :=
  ∃ acknowledged : Multiset Message,
    ↑messages = acknowledged + state.ready + state.running.map Attempt.message ∧
      (state.table : Multiset Effect) =
        (acknowledged.bind fun message => (effects message : Multiset Effect)) +
        (state.running.bind fun attempt => (attempt.committed effects : Multiset Effect)) + repeats

section

variable {effects : Message → List Effect} {messages : List Message} {repeats : List Effect}
  {state next : State Message Effect} {action : Action Message}

omit [DecidableEq Message] in
theorem accounts_start (effects : Message → List Effect) (messages : List Message) :
    Accounts effects messages [] (.start messages) :=
  ⟨0, by simp [State.start], by simp [State.start]⟩

theorem Accounts.step (accounts : Accounts effects messages repeats state)
    (stepped : step effects state action = some next) :
    Accounts effects messages (repeats ++ action.repeated effects) next := by
  obtain ⟨acknowledged, held, stored⟩ := accounts
  cases action with
  | deliver message =>
      simp only [Redelivery.step] at stepped
      split at stepped
      · rename_i member
        cases stepped
        obtain ⟨rest, same⟩ := Multiset.exists_cons_of_mem member
        refine ⟨acknowledged, ?_, ?_⟩
        · simp [held, same]
        · simp [stored, Action.repeated, Attempt.committed]
      · cases stepped
  | commit attempt =>
      simp only [Redelivery.step] at stepped
      split at stepped
      · rename_i member
        obtain ⟨effect, next, rfl⟩ := Option.map_eq_some_iff.mp stepped
        obtain ⟨rest, same⟩ := Multiset.exists_cons_of_mem member
        refine ⟨acknowledged, ?_, ?_⟩
        · simp [held, same, Attempt.advanced]
        · simp only [← Multiset.coe_add, stored, same, Multiset.cons_bind, Multiset.erase_cons_head,
            Attempt.committed_advanced next, Action.repeated, Multiset.coe_nil]
          abel
      · cases stepped
  | acknowledge attempt =>
      simp only [Redelivery.step] at stepped
      split at stepped
      · rename_i ended
        cases stepped
        obtain ⟨rest, same⟩ := Multiset.exists_cons_of_mem ended.1
        have whole : attempt.committed effects = effects attempt.message :=
          List.take_of_length_le (List.getElem?_eq_none_iff.mp ended.2)
        refine ⟨attempt.message ::ₘ acknowledged, ?_, ?_⟩
        · simp [held, same]
        · simp only [stored, same, Multiset.cons_bind, Multiset.erase_cons_head, whole,
            Action.repeated, List.append_nil]
          abel
      · cases stepped
  | cutOff attempt =>
      simp only [Redelivery.step] at stepped
      split at stepped
      · rename_i member
        cases stepped
        obtain ⟨rest, same⟩ := Multiset.exists_cons_of_mem member
        refine ⟨acknowledged, ?_, ?_⟩
        · simp [held, same]
        · simp only [stored, same, Multiset.cons_bind, Multiset.erase_cons_head, Action.repeated,
            ← Multiset.coe_add]
          abel
      · cases stepped
  | commitReturned attempt =>
      simp only [Redelivery.step] at stepped
      split at stepped
      · obtain ⟨effect, next, rfl⟩ := Option.map_eq_some_iff.mp stepped
        refine ⟨acknowledged, held, ?_⟩
        simp only [Action.repeated, next, Option.toList_some, ← Multiset.coe_add, stored]
        abel
      · cases stepped

theorem Accounts.run {finish : State Message Effect} {actions : List (Action Message)}
    (accounts : Accounts effects messages repeats state)
    (executed : Lts.run (Redelivery.step effects) state actions = some finish) :
    Accounts effects messages (repeats ++ actions.flatMap (Action.repeated effects)) finish := by
  induction actions generalizing state repeats with
  | nil =>
      cases executed
      simpa using accounts
  | cons action rest ih =>
      obtain ⟨next, stepped, remaining⟩ := Lts.run_cons_eq_some.mp executed
      have later := ih (accounts.step stepped) remaining
      rwa [List.append_assoc] at later

omit [DecidableEq Message] in
theorem Accounts.table_perm (accounts : Accounts effects messages repeats state)
    (finished : state.finished) : state.table.Perm (messages.flatMap effects ++ repeats) := by
  obtain ⟨acknowledged, held, stored⟩ := accounts
  obtain ⟨none, idle⟩ := finished
  simp only [none, idle, add_zero, Multiset.map_zero, Multiset.zero_bind] at held stored
  rw [← Multiset.coe_eq_coe, stored, ← held, ← Multiset.coe_add]
  simp

/-- What a finished run has stored: each message once, and what its actions repeat. -/
theorem table_of_run {actions : List (Action Message)} {finish : State Message Effect}
    (executed : Lts.run (Redelivery.step effects) (.start messages) actions = some finish)
    (finished : finish.finished) :
    finish.table.Perm (messages.flatMap effects ++ actions.flatMap (Action.repeated effects)) :=
  ((accounts_start effects messages).run executed).table_perm finished

theorem table_once_iff {actions : List (Action Message)} {finish : State Message Effect}
    (executed : Lts.run (Redelivery.step effects) (.start messages) actions = some finish)
    (finished : finish.finished) :
    finish.table.Perm (messages.flatMap effects) ↔
      ∀ action ∈ actions, action.repeated effects = [] := by
  have stored := table_of_run executed finished
  constructor
  · intro once
    have lengths := (once.symm.trans stored).length_eq
    rw [List.length_append] at lengths
    exact List.flatMap_eq_nil_iff.mp (List.eq_nil_of_length_eq_zero (by omega))
  · intro none
    rwa [List.flatMap_eq_nil_iff.mpr none, List.append_nil] at stored

end

end Redelivery
