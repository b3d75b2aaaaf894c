import Mathlib.Data.List.Basic

/-!
A queue that delivers at least once: a message is handed to one handling at a time, goes back
to the queue when its consumer is lost, and stays until the handling that holds it
acknowledges it.
-/

inductive Delivery (Handling Consumer : Type)
  | ready
  | delivered (holder : Handling)
  | acked (consumer : Consumer)
  deriving DecidableEq

structure QueuedMessage (Event Handling Consumer : Type) where
  event : Event
  delivery : Delivery Handling Consumer
  deriving DecidableEq

abbrev MessageQueue (Event Handling Consumer : Type) := List (QueuedMessage Event Handling Consumer)

namespace MessageQueue

variable {Event Handling Consumer : Type} [DecidableEq Handling]

def events (queue : MessageQueue Event Handling Consumer) : List Event :=
  queue.map QueuedMessage.event

def publish (queue : MessageQueue Event Handling Consumer) (event : Event) :
    MessageQueue Event Handling Consumer :=
  queue ++ [⟨event, .ready⟩]

def setDelivery (queue : MessageQueue Event Handling Consumer) (message : Nat) (event : Event)
    (delivery : Delivery Handling Consumer) : MessageQueue Event Handling Consumer :=
  queue.set message ⟨event, delivery⟩

def deliver (queue : MessageQueue Event Handling Consumer) (message : Nat) (handling : Handling) :
    Option (Event × MessageQueue Event Handling Consumer) :=
  match queue[message]? with
  | some ⟨event, .ready⟩ => some (event, queue.setDelivery message event (.delivered handling))
  | _ => none

def requeue (queue : MessageQueue Event Handling Consumer) (message : Nat) :
    Option (MessageQueue Event Handling Consumer) :=
  match queue[message]? with
  | some ⟨event, .delivered _⟩ => some (queue.setDelivery message event .ready)
  | _ => none

def acknowledge (queue : MessageQueue Event Handling Consumer) (message : Nat)
    (handling : Handling) (consumer : Consumer) : Option (MessageQueue Event Handling Consumer) :=
  match queue[message]? with
  | some ⟨event, .delivered holder⟩ =>
      if holder = handling then some (queue.setDelivery message event (.acked consumer)) else none
  | _ => none

/-- The delivery of one message has changed. -/
structure Redelivered (before after : Delivery Handling Consumer) (event : Event)
    (queue next : MessageQueue Event Handling Consumer) : Prop where
  events : next.events = queue.events
  source : ⟨event, before⟩ ∈ queue
  members : ∀ message ∈ next, message ∈ queue ∨ message = ⟨event, after⟩

section

variable {queue next : MessageQueue Event Handling Consumer} {message : Nat} {event : Event}
  {handling : Handling} {consumer : Consumer}

omit [DecidableEq Handling]

@[simp] theorem events_publish : (queue.publish event).events = queue.events ++ [event] := by
  simp [events, publish]

theorem mem_publish {other : QueuedMessage Event Handling Consumer} :
    other ∈ queue.publish event ↔ other ∈ queue ∨ other = ⟨event, .ready⟩ := by
  simp [publish]

theorem mem_events : event ∈ queue.events ↔ ∃ delivery, ⟨event, delivery⟩ ∈ queue := by
  simp only [events, List.mem_map]
  constructor
  · rintro ⟨message, member, rfl⟩
    exact ⟨message.delivery, member⟩
  · rintro ⟨delivery, member⟩
    exact ⟨_, member, rfl⟩

theorem redelivered_of_set {before : Delivery Handling Consumer}
    (found : queue[message]? = some ⟨event, before⟩) (after : Delivery Handling Consumer) :
    Redelivered before after event queue (queue.setDelivery message event after) := by
  refine ⟨?_, List.mem_of_getElem? found, ?_⟩
  · obtain ⟨inside, here⟩ := List.getElem?_eq_some_iff.mp found
    simp only [events, setDelivery, List.map_set]
    apply List.ext_getElem
    · simp
    · intro index _ _
      by_cases same : message = index
      · subst same
        simp [here]
      · simp [List.getElem_set_ne same]
  · intro other member
    exact List.mem_or_eq_of_mem_set member

theorem deliver_eq_some (taken : queue.deliver message handling = some (event, next)) :
    Redelivered .ready (.delivered handling) event queue next := by
  simp only [deliver] at taken
  split at taken
  · next found =>
      cases taken
      exact redelivered_of_set found _
  · exact nomatch taken

theorem requeue_eq_some (returned : queue.requeue message = some next) :
    ∃ event holder, Redelivered (.delivered holder) .ready event queue next := by
  simp only [requeue] at returned
  split at returned
  · next event holder found =>
      cases returned
      exact ⟨event, holder, redelivered_of_set found _⟩
  · exact nomatch returned

end

theorem acknowledge_eq_some {queue next : MessageQueue Event Handling Consumer} {message : Nat}
    {handling : Handling} {consumer : Consumer}
    (acknowledged : queue.acknowledge message handling consumer = some next) :
    ∃ event, Redelivered (.delivered handling) (.acked consumer) event queue next := by
  simp only [acknowledge] at acknowledged
  split at acknowledged
  · next event holder found =>
      split at acknowledged
      · next same =>
          subst same
          cases acknowledged
          exact ⟨event, redelivered_of_set found _⟩
      · exact nomatch acknowledged
  · exact nomatch acknowledged

end MessageQueue
