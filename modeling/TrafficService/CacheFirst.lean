import TrafficService.CacheCoherence
import TrafficService.Lib.Lts

/-!
One VM's bookings, its messages consumed in the order of their publication, and `verify_plate`
at any time in between.
-/

namespace TrafficService.CacheFirst

structure State where
  tables : Tables
  queue : List Event
  cache : Cache

def State.initial (tables : Tables) : State := ⟨tables, [], fun _ => none⟩

inductive Action
  | call (peerUp : Bool) (served : Call)
  | reconcile (now : DateTime)
  | consume (now : DateTime)
  | verify (plateNumber : Plate) (now : DateTime)

def step (deployment : Deployment) (casing : CaseTables) (vm : Vm) (state : State) :
    Action → Option State
  | .call peerUp served =>
      let response := served.perform deployment ⟨true, peerUp⟩ state.tables
      some { state with
        tables := response.tables
        queue := state.queue ++ if vm = served.vm then response.events else [] }
  | .reconcile now =>
      let report := runReconciliationOnce (state.tables vm) now
      some { state with
        tables := Function.update state.tables vm report.db
        queue := state.queue ++ report.events }
  | .consume now =>
      match state.queue with
      | [] => none
      | event :: rest =>
          -- a message whose handler raises comes back for ever, each time without an effect
          some { state with
            queue := rest
            cache := (processMessage casing state.cache now event).getD state.cache }
  | .verify plateNumber now =>
      let verified := verifyPlate casing (state.tables vm) state.cache
        (casing.normalise plateNumber) now
      some { state with cache := verified.2 }

def Backed (casing : CaseTables) (db : Database) (plate : Plate) (now : DateTime)
    (result : VerificationResult) : Prop :=
  result.isAuthorized = true → ∃ row ∈ db.bookings.rows, result.bookingId = some row.id ∧
    row.status = .confirmed ∧ sqlPlate casing db row = plate ∧
    row.departureTime ≤ now ∧ now ≤ row.departureTime + journeyWindow

/-- The usable entry, if there is one, is not of a journey still to come, nor of a plate that
PostgreSQL and Python normalise differently, nor what a cancellation without a plate left. -/
def Trustworthy (casing : CaseTables) (db : Database) (cache : Cache) (plate : Plate)
    (now : DateTime) : Prop :=
  ∀ entry, usableEntry casing cache plate now = some entry →
    entry.departureTime ≤ now ∧ ∀ row, (db.rowsOf entry.bookingId).booking = some row →
      sqlPlate casing db row = plate ∧ (plate = "" → row.status ≠ .cancelled)

/-- A cancelled booking's entry waits in front of its cancellation, which is behind its
confirmation. -/
structure Coherent (casing : CaseTables) (vm : Vm) (state : State) : Prop where
  traced : Traced casing (state.tables vm) state.queue state.cache
  pending : ∀ id, Pending casing (state.tables vm) state.queue state.cache id
  follows : ∀ id, (state.tables vm).status? id = some .cancelled →
    (∃ event ∈ state.queue, event.isConfirmed = true ∧ event.bookingId = id) →
    ∃ event ∈ state.queue, event.cancels id = true
  ordered : state.queue.Pairwise fun first second =>
    first.isCancelled = true → second.isConfirmed = true → first.bookingId ≠ second.bookingId

section

variable {deployment : Deployment} {casing : CaseTables} {vm : Vm} {state next : State}
  {action : Action} {before after : Database} {events : List Event} {event : Event}

theorem confirmed_of_announced (announced : Announced true before after events)
    (member : event ∈ events) (confirmed : event.isConfirmed = true) :
    (before.rowsOf event.bookingId).booking = none ∧
      after.status? event.bookingId = some .confirmed := by
  have told := announced.told event.bookingId
  have listed : event ∈ events.filter fun other => other.bookingId = event.bookingId :=
    List.mem_filter.mpr ⟨member, by simp⟩
  rw [Database.status?_eq]
  generalize (before.rowsOf event.bookingId).booking = old at told ⊢
  generalize (after.rowsOf event.bookingId).booking = new at told ⊢
  generalize events.filter (fun other => other.bookingId = event.bookingId) = own at told listed
  have notFailed (failed : event.isFailed = true) : False := by
    cases event with
    | bookingConfirmed => exact nomatch failed
    | _ => exact nomatch confirmed
  cases told with
  | unchanged => exact nomatch listed
  | rejected row own status resolved failed => exact (notFailed (failed event listed)).elim
  | orphaned row own status failed => exact (notFailed (failed event listed)).elim
  | confirmed row segments status resolved => exact ⟨rfl, congrArg some status⟩
  | cancelled row driverId departure active =>
      rw [if_pos rfl] at listed
      rw [List.mem_singleton.mp listed] at confirmed
      exact nomatch confirmed

theorem status_of_isCancelled (said : event.truthful before) (cancelled : event.isCancelled = true) :
    before.status? event.bookingId = some .cancelled := by
  cases event with
  | bookingCancelled id driverId plate departure =>
      obtain ⟨row, found, status, _⟩ := said
      rw [Database.status?_eq, Event.bookingId, found, Option.map_some, status]
  | _ => cases cancelled

theorem Coherent.announce (coherent : Coherent casing vm state)
    (announced : Announced true (state.tables vm) (next.tables vm) events)
    (queue : next.queue = state.queue ++ events) (cache : next.cache = state.cache) :
    Coherent casing vm next := by
  obtain ⟨traced, pending, follows, ordered⟩ := coherent
  have tracedNext := traced.announce announced
  rw [← queue, ← cache] at tracedNext
  refine ⟨tracedNext, ?_, ?_, ?_⟩
  · intro id
    rw [queue, cache]
    exact (pending id).announce announced.cancels
  · rintro id cancelled ⟨event, member, confirmed, own⟩
    rw [queue] at member ⊢
    have queued : event ∈ state.queue := by
      rcases List.mem_append.mp member with old | new
      · exact old
      · have status := (confirmed_of_announced announced new confirmed).2
        rw [own] at status
        exact nomatch status.symm.trans cancelled
    rcases announced.cancels cancelled with already | ⟨other, listed, cancels⟩
    · obtain ⟨other, listed, cancels⟩ := follows id already ⟨event, queued, confirmed, own⟩
      exact ⟨other, List.mem_append_left events listed, cancels⟩
    · exact ⟨other, List.mem_append_right state.queue listed, cancels⟩
  · rw [queue]
    refine List.pairwise_append.mpr ⟨ordered, ?_, ?_⟩
    · apply List.pairwise_of_forall_mem_list
      intro first member second later cancelled confirmed same
      have first := status_of_isCancelled (announced.truthful member) cancelled
      have second := (confirmed_of_announced announced later confirmed).2
      rw [← same] at second
      exact nomatch first.symm.trans second
    · intro first member second later cancelled confirmed same
      have first := status_of_isCancelled (traced.truthful first member) cancelled
      have second := (confirmed_of_announced announced later confirmed).1
      rw [same, Database.status?_eq, second] at first
      exact nomatch first

theorem Coherent.consume {event : Event} {rest : List Event} {now : DateTime}
    (coherent : Coherent casing vm state) (queue : state.queue = event :: rest) :
    Coherent casing vm { state with
      queue := rest
      cache := (processMessage casing state.cache now event).getD state.cache } := by
  obtain ⟨traced, pending, follows, ordered⟩ := coherent
  rw [queue] at traced pending follows ordered
  have head : event ∈ event :: rest := List.mem_cons_self
  have others : ∀ other ∈ event :: rest, other ≠ event → other ∈ rest := by
    intro other member different
    exact (List.mem_cons.mp member).resolve_left different
  have fewer : ∀ other ∈ rest, other ∈ event :: rest := fun other member =>
    List.mem_cons_of_mem event member
  refine ⟨?_, ?_, ?_, (List.pairwise_cons.mp ordered).2⟩
  · cases processed : processMessage casing state.cache now event with
    | none => exact traced.receive fewer
    | some next => exact (traced.handle head (handled_of_processMessage processed)).receive fewer
  · intro id
    cases processed : processMessage casing state.cache now event with
    | none => exact (pending id).raise traced head others (unnamed_of_raised processed)
    | some next =>
        refine (pending id).handle traced head others ?_ (handled_of_processMessage processed)
        intro raw _ _ confirmed own cancelled
        exact follows id cancelled ⟨event, head, confirmed, own⟩
  · rintro id cancelled ⟨confirmation, member, confirmed, own⟩
    obtain ⟨other, listed, cancels⟩ := follows id cancelled
      ⟨confirmation, fewer confirmation member, confirmed, own⟩
    refine ⟨other, others other listed ?_, cancels⟩
    rintro rfl
    -- a cancellation at the head has no confirmation behind it
    simp only [Event.cancels, Bool.and_eq_true, decide_eq_true_eq] at cancels
    have apart := (List.pairwise_cons.mp ordered).1 confirmation member cancels.1 confirmed
    exact apart (cancels.2.trans own.symm)

theorem Coherent.verify {plateNumber : Plate} {now : DateTime} (coherent : Coherent casing vm state) :
    Coherent casing vm { state with
      cache := (verifyPlate casing (state.tables vm) state.cache
        (casing.normalise plateNumber) now).2 } := by
  obtain ⟨traced, pending, follows, ordered⟩ := coherent
  have kept : Traced casing (state.tables vm) state.queue (verifyPlate casing (state.tables vm)
      state.cache (casing.normalise plateNumber) now).2 ∧
      ∀ id, Pending casing (state.tables vm) state.queue (verifyPlate casing (state.tables vm)
        state.cache (casing.normalise plateNumber) now).2 id := by
    refine @verifyPlate_keeps casing (state.tables vm) state.cache (casing.normalise plateNumber) now
      (fun cache => Traced casing (state.tables vm) state.queue cache ∧
        ∀ id, Pending casing (state.tables vm) state.queue cache id) ?_ ?_ ⟨traced, pending⟩
    · rintro cache ⟨traced, pending⟩
      exact ⟨traced.evict _, fun id => (pending id).evict _⟩
    · rintro cache row ⟨traced, pending⟩ found
      refine ⟨traced.store (genuine_warmEntry found), fun id => (pending id).store ?_⟩
      intro own cancelled
      obtain ⟨member, verifiable⟩ := lookupRow_spec found
      have status := (verifiable_iff.mp verifiable).2.1
      have present : ((state.tables vm).rowsOf id).booking = some row :=
        own ▸ Database.rowsOf_of_mem member
      rw [Database.status?_eq, present, Option.map_some, status] at cancelled
      exact nomatch cancelled
  exact ⟨kept.1, kept.2, follows, ordered⟩

theorem Coherent.step (coherent : Coherent casing vm state)
    (stepped : step deployment casing vm state action = some next) : Coherent casing vm next := by
  cases action with
  | call peerUp served =>
      cases stepped
      have announced := @announced_at deployment ⟨true, peerUp⟩ state.tables vm served
      exact coherent.announce announced rfl rfl
  | reconcile now =>
      cases stepped
      refine coherent.announce ?_ rfl rfl
      simp only [Function.update_self]
      exact announced_runReconciliationOnce coherent.traced.resolved
  | consume now =>
      simp only [CacheFirst.step] at stepped
      split at stepped
      · exact nomatch stepped
      · rename_i event rest queue
        cases stepped
        exact coherent.consume queue
  | verify plateNumber now =>
      cases stepped
      exact coherent.verify

theorem coherent_initial {tables : Tables} (unbooked : ∀ id, ((tables vm).rowsOf id).booking = none) :
    Coherent casing vm (.initial tables) := by
  constructor
  · refine ⟨?_, nofun, nofun⟩
    intro id row found
    exact nomatch (unbooked id).symm.trans found
  · intro id key item stored
    exact nomatch stored
  · rintro id _ ⟨event, member, _⟩
    exact nomatch member
  · exact .nil

theorem coherent_of_run {tables : Tables} {actions : List Action}
    (unbooked : ∀ id, ((tables vm).rowsOf id).booking = none)
    (executed : Lts.run (step deployment casing vm) (.initial tables) actions = some state) :
    Coherent casing vm state :=
  Lts.Reachable.invariant (fun _ _ _ coherent stepped => coherent.step stepped) ⟨actions, executed⟩
    (coherent_initial unbooked)

theorem lookupRow_of_backed {db : Database} {plate : Plate} {now : DateTime}
    {result : VerificationResult} (backed : Backed casing db plate now result)
    (authorized : result.isAuthorized = true) : lookupRow casing db plate now ≠ none := by
  obtain ⟨row, member, _, status, same, begun, open_⟩ := backed authorized
  exact lookupRow_ne_none member (verifiable_iff.mpr ⟨same, status, begun, open_⟩)

/-- With every message consumed, an authorisation is backed by the database if and only if it
does not come from an untrustworthy entry. -/
theorem backed_iff_trustworthy {tables : Tables} {actions : List Action}
    (unbooked : ∀ id, ((tables vm).rowsOf id).booking = none)
    (executed : Lts.run (step deployment casing vm) (.initial tables) actions = some state)
    (consumed : state.queue = []) (plateNumber : Plate) (now : DateTime) :
    Backed casing (state.tables vm) (casing.normalise plateNumber) now
        (verifyPlate casing (state.tables vm) state.cache (casing.normalise plateNumber) now).1 ↔
      Trustworthy casing (state.tables vm) state.cache (casing.normalise plateNumber) now := by
  have coherent := coherent_of_run unbooked executed
  cases usable : usableEntry casing state.cache (casing.normalise plateNumber) now with
  | none =>
      constructor
      · intro _ entry found
        exact nomatch usable.symm.trans found
      · intro _ authorized
        rw [verifyPlate_of_unusable usable] at authorized ⊢
        cases found : lookupRow casing (state.tables vm) (casing.normalise plateNumber) now with
        | none => simp [found, notFoundResult] at authorized
        | some row =>
            obtain ⟨member, verifiable⟩ := lookupRow_spec found
            obtain ⟨plate, status, begun, open_⟩ := verifiable_iff.mp verifiable
            exact ⟨row, member, rfl, status, plate, begun, open_⟩
  | some entry =>
      obtain ⟨item, stored, rfl, window⟩ := item_of_usableEntry usable
      obtain ⟨row, found, was, time, ends, place⟩ := coherent.traced.genuine _ item stored
      rw [verifyPlate_of_usable usable]
      constructor
      · intro backed other same
        cases usable.symm.trans same
        obtain ⟨source, member, named, status, plate, begun, _⟩ := backed rfl
        have sameRow : source = row := by
          have present := Database.rowsOf_of_mem member
          rw [← Option.some.inj named] at present
          exact Option.some.inj (present.symm.trans found)
        subst sameRow
        refine ⟨time ▸ begun, ?_⟩
        intro other present
        cases present.symm.trans found
        refine ⟨plate, fun _ cancelled => ?_⟩
        exact nomatch status.symm.trans cancelled
      · intro trustworthy _
        obtain ⟨begun, rest⟩ := trustworthy item.entry usable
        obtain ⟨plate, blank⟩ := rest row found
        obtain ⟨member, ofEntry⟩ := Database.mem_of_rowsOf found
        have confirmed : row.status = .confirmed := by
          refine was.resolve_right ?_
          intro cancelled
          by_cases empty : casing.normalise plateNumber = ""
          · exact blank empty cancelled
          · have status : (state.tables vm).status? item.entry.bookingId = some .cancelled := by
              rw [Database.status?_eq, found, Option.map_some, cancelled]
            obtain ⟨event, member, _⟩ :=
              coherent.pending item.entry.bookingId _ item stored rfl (cacheKey_ne_blank empty) status
            rw [consumed] at member
            exact nomatch member
        refine ⟨row, member, congrArg some ofEntry.symm, confirmed, plate, time ▸ begun, ?_⟩
        rw [time, ← ends]
        exact window

end

/-! ### One booking, confirmed and announced two hours before it departs -/

def emptyTables : Tables := fun _ => .unbooked (fun _ _ => some 100) fun _ => none

def bookAhead : List Action :=
  [.call true (.createBooking .vm1 10 request (some (.single irishSegment 45))), .consume 0]

/-- Asked for in time, its entry is trustworthy. -/
theorem backed_afterDeparture : ∃ state,
    Lts.run (step singleVm .ascii .vm1) (.initial emptyTables) bookAhead = some state ∧
      Backed .ascii (state.tables .vm1) (CaseTables.ascii.normalise "12-d-345") (7200 * second)
        (verifyPlate .ascii (state.tables .vm1) state.cache (CaseTables.ascii.normalise "12-d-345")
          (7200 * second)).1 := by
  have ran : (Lts.run (step singleVm .ascii .vm1) (.initial emptyTables) bookAhead).map
      (fun state => (state.queue,
        (usableEntry .ascii state.cache (CaseTables.ascii.normalise "12-d-345") (7200 * second)).map
          fun entry => (entry.bookingId, entry.departureTime),
        ((state.tables .vm1).rowsOf 10).booking.map fun row =>
          (sqlPlate .ascii (state.tables .vm1) row, row.status))) =
      some ([], some (10, 7200 * second), some ("12-D-345", .confirmed)) := by decide +kernel
  obtain ⟨state, executed, observed⟩ := Option.map_eq_some_iff.mp ran
  simp only [Prod.mk.injEq, Option.map_eq_some_iff] at observed
  obtain ⟨consumed, ⟨entry, usable, ofEntry, departure⟩, row, found, plate, status⟩ := observed
  refine ⟨state, executed, ?_⟩
  refine (backed_iff_trustworthy (fun _ => rfl) executed consumed "12-d-345" (7200 * second)).mpr ?_
  intro other same
  cases usable.symm.trans same
  refine ⟨Int.le_of_eq departure, ?_⟩
  intro other present
  rw [ofEntry, found] at present
  cases present
  refine ⟨plate, fun _ cancelled => ?_⟩
  exact nomatch status.symm.trans cancelled

/-- Asked for an hour too early, it is authorised all the same. -/
theorem unbacked_beforeDeparture :
    ¬ ∀ (deployment : Deployment) (casing : CaseTables) (vm : Vm) (tables : Tables)
      (actions : List Action) (state : State),
      (∀ id, ((tables vm).rowsOf id).booking = none) →
      Lts.run (step deployment casing vm) (.initial tables) actions = some state →
      state.queue = [] → ∀ (plateNumber : Plate) (now : DateTime),
        Backed casing (state.tables vm) (casing.normalise plateNumber) now
          (verifyPlate casing (state.tables vm) state.cache (casing.normalise plateNumber) now).1 := by
  intro holds
  have ran : (Lts.run (step singleVm .ascii .vm1) (.initial emptyTables) bookAhead).map
      (fun state => (state.queue,
        (usableEntry .ascii state.cache (CaseTables.ascii.normalise "12-D-345") (3600 * second)).map
          CacheEntry.bookingId,
        (state.tables .vm1).bookings.rows.map Booking.departureTime)) =
      some ([], some 10, [7200 * second]) := by decide +kernel
  obtain ⟨state, executed, observed⟩ := Option.map_eq_some_iff.mp ran
  simp only [Prod.mk.injEq, Option.map_eq_some_iff] at observed
  obtain ⟨consumed, ⟨entry, usable, _⟩, departures⟩ := observed
  have authorized : (verifyPlate .ascii (state.tables .vm1) state.cache
      (CaseTables.ascii.normalise "12-D-345") (3600 * second)).1.isAuthorized = true := by
    rw [verifyPlate_of_usable usable]
    rfl
  obtain ⟨row, member, _, _, _, begun, _⟩ := holds singleVm .ascii .vm1 emptyTables bookAhead state
    (fun _ => rfl) executed consumed "12-D-345" (3600 * second) authorized
  have departure : row.departureTime ∈ (state.tables .vm1).bookings.rows.map Booking.departureTime :=
    List.mem_map_of_mem member
  rw [departures] at departure
  rw [List.mem_singleton.mp departure] at begun
  exact absurd begun (by decide)

end TrafficService.CacheFirst
