import TrafficService.Announcements

/-!
What messages and Redis entries say about `public.bookings`, and when an entry of a cancelled
booking is still going to be evicted.
-/

namespace TrafficService

def Event.cancels (id : BookingId) (event : Event) : Bool :=
  event.isCancelled && event.bookingId = id

def Booking.wasConfirmed (row : Booking) : Prop := row.status = .confirmed ∨ row.status = .cancelled

/-- What a message says is so, at least since it was published. -/
def Event.truthful (db : Database) : Event → Prop
  | .bookingConfirmed id _ plate _ departure => ∃ row, (db.rowsOf id).booking = some row ∧
      row.wasConfirmed ∧ plateOf db row = plate ∧ row.departureTime = departure
  | .bookingCancelled id _ plate _ => ∃ row, (db.rowsOf id).booking = some row ∧
      row.status = .cancelled ∧ plateOf db row = plate
  | .bookingFailed .. => True

def entryKey (casing : CaseTables) (db : Database) (row : Booking) : String :=
  cacheKey casing (casing.normalise ((plateOf db row).getD ""))

def CacheEntry.genuine (casing : CaseTables) (db : Database) (key : String) (entry : CacheEntry) :
    Prop :=
  ∃ row, (db.rowsOf entry.bookingId).booking = some row ∧ row.wasConfirmed ∧
    row.departureTime = entry.departureTime ∧
    entry.journeyWindowEnd = entry.departureTime + journeyWindow ∧ key = entryKey casing db row

structure Traced (casing : CaseTables) (db : Database) (messages : List Event) (cache : Cache) :
    Prop where
  resolved : db.resolved
  truthful : ∀ event ∈ messages, event.truthful db
  genuine : ∀ key item, cache key = some item → item.entry.genuine casing db key

/-- An entry of a cancelled booking waits for the message that evicts it. No message evicts
what is stored for the empty plate. -/
def Pending (casing : CaseTables) (db : Database) (messages : List Event) (cache : Cache)
    (id : BookingId) : Prop :=
  ∀ key item, cache key = some item → item.entry.bookingId = id → key ≠ cacheKey casing "" →
    db.status? id = some .cancelled → ∃ event ∈ messages, event.cancels id = true

section

variable {casing : CaseTables} {db before after : Database} {messages rest events : List Event}
  {cache next : Cache} {id : BookingId} {up : Bool} {now : DateTime} {event : Event}

theorem plateOf_congr (users : after.users = before.users) (row : Booking) :
    plateOf after row = plateOf before row := by
  simp only [plateOf, resolvePlateNumber, getDriverPlateNumber, users]

/-- No announced change forgets a booking, moves it or takes a cancellation back. -/
theorem Announced.persists (announced : Announced up before after events) {row : Booking}
    (found : (before.rowsOf id).booking = some row) :
    ∃ next, (after.rowsOf id).booking = some next ∧ plateOf after next = plateOf before row ∧
      next.departureTime = row.departureTime ∧ (row.wasConfirmed → next.wasConfirmed) ∧
      (row.status = .cancelled → next.status = .cancelled) := by
  have told := announced.told id
  rw [found] at told
  generalize (after.rowsOf id).booking = now at told ⊢
  generalize events.filter (fun event => event.bookingId = id) = own at told
  cases told with
  | unchanged =>
      exact ⟨row, rfl, plateOf_congr announced.users row, rfl, fun was => was, fun was => was⟩
  | orphaned row own status failed =>
      refine ⟨_, rfl, plateOf_congr announced.users _, rfl, ?_, ?_⟩
      · intro was
        simp [Booking.wasConfirmed, status] at was
      · intro cancelled
        exact nomatch status.symm.trans cancelled
  | cancelled row driverId departure active =>
      exact ⟨_, rfl, plateOf_congr announced.users _, rfl, fun _ => .inr rfl, fun _ => rfl⟩

theorem Announced.resolved (announced : Announced up before after events)
    (resolved : before.resolved) : after.resolved := by
  intro id row found
  rw [plateOf_congr announced.users]
  have told := announced.told id
  have earlier := resolved id
  rw [found] at told
  generalize (before.rowsOf id).booking = old at told earlier
  generalize events.filter (fun event => event.bookingId = id) = own at told
  cases told with
  | unchanged => exact earlier row rfl
  | rejected row own status resolved failed => exact resolved
  | orphaned row own status failed => exact earlier row rfl
  | confirmed row segments status resolved => exact resolved
  | cancelled row driverId departure active => exact earlier row rfl

theorem Event.truthful.persist (announced : Announced up before after events)
    (said : event.truthful before) : event.truthful after := by
  cases event with
  | bookingFailed => trivial
  | bookingConfirmed id driverId plate segments departure =>
      obtain ⟨row, found, was, samePlate, sameTime⟩ := said
      obtain ⟨now, kept, plateKept, timeKept, still, _⟩ := announced.persists found
      exact ⟨now, kept, still was, plateKept.trans samePlate, timeKept.trans sameTime⟩
  | bookingCancelled id driverId plate departure =>
      obtain ⟨row, found, was, samePlate⟩ := said
      obtain ⟨now, kept, plateKept, _, _, still⟩ := announced.persists found
      exact ⟨now, kept, still was, plateKept.trans samePlate⟩

theorem CacheEntry.genuine.persist {key : String} {entry : CacheEntry}
    (announced : Announced up before after events) (stored : entry.genuine casing before key) :
    entry.genuine casing after key := by
  obtain ⟨row, found, was, sameTime, window, place⟩ := stored
  obtain ⟨now, kept, plateKept, timeKept, still, _⟩ := announced.persists found
  refine ⟨now, kept, still was, timeKept.trans sameTime, window, ?_⟩
  rw [place, entryKey, entryKey, plateKept]

theorem truthful_of_isFailed (failed : event.isFailed = true) : event.truthful db := by
  cases event with
  | bookingFailed => trivial
  | _ => exact nomatch failed

theorem Announced.truthful (announced : Announced up before after events)
    (member : event ∈ events) : event.truthful after := by
  have told := announced.told event.bookingId
  have listed : event ∈ events.filter fun other => other.bookingId = event.bookingId :=
    List.mem_filter.mpr ⟨member, by simp⟩
  generalize events.filter (fun other => other.bookingId = event.bookingId) = own at told listed
  generalize previous : (before.rowsOf event.bookingId).booking = old at told
  generalize current : (after.rowsOf event.bookingId).booking = new at told
  cases told with
  | unchanged => exact nomatch listed
  | rejected row own status resolved failed => exact truthful_of_isFailed (failed event listed)
  | orphaned row own status failed => exact truthful_of_isFailed (failed event listed)
  | confirmed row segments status resolved =>
      have same := List.mem_singleton.mp listed
      generalize event.bookingId = id at same current
      subst same
      exact ⟨row, current, .inl status, (plateOf_congr announced.users row).trans resolved, rfl⟩
  | cancelled row driverId departure active =>
      split at listed
      · have same := List.mem_singleton.mp listed
        generalize event.bookingId = id at same current
        subst same
        exact ⟨_, current, rfl, plateOf_congr announced.users _⟩
      · exact nomatch listed

/-! ### Messages and entries stay true -/

theorem Traced.announce (traced : Traced casing before messages cache)
    (announced : Announced up before after events) :
    Traced casing after (messages ++ events) cache := by
  refine ⟨announced.resolved traced.resolved, ?_, ?_⟩
  · intro event member
    rcases List.mem_append.mp member with old | new
    · exact (traced.truthful event old).persist announced
    · exact announced.truthful new
  · intro key item stored
    exact (traced.genuine key item stored).persist announced

theorem Traced.receive (traced : Traced casing db messages cache)
    (fewer : ∀ event ∈ rest, event ∈ messages) : Traced casing db rest cache :=
  ⟨traced.resolved, fun event member => traced.truthful event (fewer event member), traced.genuine⟩

theorem Traced.evict (traced : Traced casing db messages cache) (plate : Plate) :
    Traced casing db messages (invalidateBooking casing cache plate) := by
  refine ⟨traced.resolved, traced.truthful, ?_⟩
  intro key item stored
  exact traced.genuine key item (stored_of_invalidate stored).2

theorem Traced.store (traced : Traced casing db messages cache) {plate : Plate} {entry : CacheEntry}
    (genuine : entry.genuine casing db (cacheKey casing plate)) :
    Traced casing db messages (cacheActiveBooking casing cache plate entry now) := by
  refine ⟨traced.resolved, traced.truthful, ?_⟩
  intro key item stored
  rcases stored_of_cacheActive stored with ⟨rfl, rfl⟩ | ⟨_, before⟩
  · exact genuine
  · exact traced.genuine key item before

theorem Traced.handle (traced : Traced casing db messages cache) (member : event ∈ messages)
    (handled : Handled casing cache now event next) : Traced casing db messages next := by
  have said := traced.truthful event member
  cases handled with
  | skipped event raw named blank => exact traced
  | evicted event raw named other => exact traced.evict _
  | stored id driverId raw segments departure text =>
      obtain ⟨row, found, was, plate, time⟩ := said
      refine traced.store ⟨row, found, was, time, rfl, ?_⟩
      rw [entryKey, plate]
      rfl

theorem genuine_warmEntry {raw : Plate} {row : Booking}
    (found : lookupRow casing db (casing.normalise raw) now = some row) :
    (warmEntry row).genuine casing db (cacheKey casing (casing.normalise raw)) := by
  obtain ⟨member, verifiable⟩ := lookupRow_spec found
  obtain ⟨plate, status, _⟩ := verifiable_iff.mp verifiable
  refine ⟨row, Database.rowsOf_of_mem member, .inl status, rfl, rfl, ?_⟩
  rw [entryKey, CaseTables.normalise_of_sqlUpper casing plate]

/-! ### Entries of cancelled bookings -/

theorem Announced.cancels (announced : Announced true before after events)
    (cancelled : after.status? id = some .cancelled) :
    before.status? id = some .cancelled ∨ ∃ event ∈ events, event.cancels id = true := by
  have told := announced.told id
  rw [Database.status?_eq] at cancelled ⊢
  generalize published : events.filter (fun event => event.bookingId = id) = own at told
  generalize (before.rowsOf id).booking = old at told ⊢
  generalize (after.rowsOf id).booking = new at told cancelled
  cases told with
  | unchanged => exact .inl cancelled
  | rejected row own status resolved failed => simp [status] at cancelled
  | orphaned row own status failed => simp at cancelled
  | confirmed row segments status resolved => simp [status] at cancelled
  | cancelled row driverId departure active =>
      right
      refine ⟨.bookingCancelled id driverId (plateOf before row) departure, ?_, by simp [Event.cancels,
        Event.isCancelled, Event.bookingId]⟩
      apply List.mem_of_mem_filter
      rw [published, if_pos rfl]
      exact List.mem_singleton_self _

theorem Pending.announce (pending : Pending casing before messages cache id)
    (published : after.status? id = some .cancelled →
      before.status? id = some .cancelled ∨ ∃ event ∈ events, event.cancels id = true) :
    Pending casing after (messages ++ events) cache id := by
  intro key item stored own named cancelled
  rcases published cancelled with already | ⟨event, member, cancels⟩
  · obtain ⟨event, member, cancels⟩ := pending key item stored own named already
    exact ⟨event, List.mem_append_left events member, cancels⟩
  · exact ⟨event, List.mem_append_right messages member, cancels⟩

theorem Pending.evict (pending : Pending casing db messages cache id) (plate : Plate) :
    Pending casing db messages (invalidateBooking casing cache plate) id := by
  intro key item stored own named cancelled
  exact pending key item (stored_of_invalidate stored).2 own named cancelled

theorem Pending.store (pending : Pending casing db messages cache id) {plate : Plate}
    {entry : CacheEntry}
    (safe : entry.bookingId = id → db.status? id = some .cancelled →
      ∃ event ∈ messages, event.cancels id = true) :
    Pending casing db messages (cacheActiveBooking casing cache plate entry now) id := by
  intro key item stored own named cancelled
  rcases stored_of_cacheActive stored with ⟨_, rfl⟩ | ⟨_, before⟩
  · exact safe own cancelled
  · exact pending key item before own named cancelled

theorem key_of_cancels {entry : CacheEntry} {key : String}
    (stored : entry.genuine casing db key) (said : event.truthful db)
    (cancels : event.cancels entry.bookingId = true) :
    key = cacheKey casing (casing.normalise (event.plateNumber.getD "")) := by
  obtain ⟨row, found, _, _, _, place⟩ := stored
  simp only [Event.cancels, Bool.and_eq_true, decide_eq_true_eq] at cancels
  cases event with
  | bookingCancelled told driverId plate departure =>
      obtain ⟨same, present, _, rfl⟩ := said
      have ofEntry : told = entry.bookingId := cancels.2
      rw [ofEntry, found] at present
      cases present
      exact place
  | _ => exact nomatch cancels.1

/-- A message that is no cancellation of the booking, or one of an entry stored elsewhere,
is not the one the entry waits for. -/
theorem Pending.waits (pending : Pending casing db messages cache id)
    (traced : Traced casing db messages cache) (member : event ∈ messages)
    (others : ∀ other ∈ messages, other ≠ event → other ∈ rest) {key : String} {item : CacheItem}
    (stored : cache key = some item) (own : item.entry.bookingId = id)
    (named : key ≠ cacheKey casing "") (cancelled : db.status? id = some .cancelled)
    (elsewhere : event.cancels id = true →
      key ≠ cacheKey casing (casing.normalise (event.plateNumber.getD ""))) :
    ∃ other ∈ rest, other.cancels id = true := by
  obtain ⟨other, listed, cancels⟩ := pending key item stored own named cancelled
  refine ⟨other, others other listed ?_, cancels⟩
  rintro rfl
  have key := key_of_cancels (traced.genuine key item stored) (traced.truthful other member)
    (by rwa [own])
  exact elsewhere cancels key

theorem Pending.handle (pending : Pending casing db messages cache id)
    (traced : Traced casing db messages cache) (member : event ∈ messages)
    (others : ∀ other ∈ messages, other ≠ event → other ∈ rest)
    (safe : ∀ raw, event.plateNumber = some raw → casing.normalise raw ≠ "" →
      event.isConfirmed = true → event.bookingId = id → db.status? id = some .cancelled →
      ∃ other ∈ messages, other.cancels id = true)
    (handled : Handled casing cache now event next) : Pending casing db rest next id := by
  cases handled with
  | skipped event raw named blank =>
      intro key item stored own text cancelled
      refine pending.waits traced member others stored own text cancelled ?_
      intro _
      rw [named, Option.getD_some, blank]
      exact text
  | evicted event raw named other =>
      intro key item stored own text cancelled
      obtain ⟨here, before⟩ := stored_of_invalidate stored
      refine pending.waits traced member others before own text cancelled ?_
      intro _
      rw [named, Option.getD_some]
      exact here
  | stored name driverId raw segments departure text =>
      have kept : Pending casing db rest cache id := by
        intro key item stored own text cancelled
        exact pending.waits traced member others stored own text cancelled nofun
      refine kept.store ?_
      intro own cancelled
      obtain ⟨other, listed, cancels⟩ := safe raw rfl text rfl own cancelled
      refine ⟨other, others other listed ?_, cancels⟩
      rintro rfl
      exact nomatch cancels

theorem Pending.raise (pending : Pending casing db messages cache id)
    (traced : Traced casing db messages cache) (member : event ∈ messages)
    (others : ∀ other ∈ messages, other ≠ event → other ∈ rest)
    (unnamed : event.plateNumber = none ∨ event.isConfirmed = true) :
    Pending casing db rest cache id := by
  intro key item stored own text cancelled
  refine pending.waits traced member others stored own text cancelled ?_
  intro cancels
  rcases unnamed with missing | confirmed
  · rw [missing, Option.getD_none, CaseTables.normalise_empty]
    exact text
  · cases event with
    | bookingConfirmed => exact nomatch cancels
    | bookingFailed | bookingCancelled => exact nomatch confirmed

end

end TrafficService
