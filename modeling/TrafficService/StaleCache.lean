import TrafficService.CacheCoherence
import TrafficService.Lib.Lts

/-!
One VM's bookings while any number of `verify_plate` calls are in flight, each at its cache
read, its eviction, its database read or its cache write, and messages are handled in any order
and any number of times.
-/

namespace TrafficService.Enforcement

abbrev CallId := Nat

inductive VerifyPc
  | readCache
  | evict
  | readDb
  | warm (row : Booking) (checkedAt : DateTime)
  deriving DecidableEq

structure VerifyCall where
  plate : Plate
  startedAt : DateTime
  pc : VerifyPc
  deriving DecidableEq

structure State where
  tables : Tables
  /-- Published and not yet acknowledged. -/
  messages : List Event
  cache : Cache
  calls : CallId → Option VerifyCall
  results : List VerificationResult

def State.initial (tables : Tables) : State where
  tables := tables
  messages := []
  cache := fun _ => none
  calls := fun _ => none
  results := []

inductive Action
  | call (environment : Environment) (served : Call)
  /-- A message is handled; unless the handling is acknowledged, it will be again. -/
  | handle (event : Event) (now : DateTime) (acknowledged : Bool)
  | verify (call : CallId) (plateNumber : Plate) (now : DateTime)
  | advance (call : CallId) (now : DateTime)
  | abort (call : CallId)

def State.goto (state : State) (id : CallId) (call : VerifyCall) (pc : VerifyPc) : State :=
  { state with calls := Function.update state.calls id (some { call with pc }) }

def State.finish (state : State) (id : CallId) (result : VerificationResult) : State :=
  { state with
    calls := Function.update state.calls id none
    results := state.results ++ [result] }

def advance (casing : CaseTables) (vm : Vm) (state : State) (id : CallId) (call : VerifyCall)
    (now : DateTime) : State :=
  match call.pc with
  | .readCache =>
      match getCachedBooking casing state.cache call.plate now with
      | none => state.goto id call .readDb
      | some entry =>
          if call.startedAt > entry.journeyWindowEnd then state.goto id call .evict
          else state.finish id (cachedResult call.plate entry call.startedAt)
  | .evict =>
      { state with cache := invalidateBooking casing state.cache call.plate }.goto id call .readDb
  | .readDb =>
      match lookupRow casing (state.tables vm) call.plate now with
      | none => state.finish id (notFoundResult call.plate call.startedAt)
      -- for `checked_at` the source reads the clock again once the query has returned
      | some row => state.goto id call (.warm row now)
  | .warm row checkedAt =>
      { state with
        cache := cacheActiveBooking casing state.cache call.plate (warmEntry row) now }.finish id
          (buildAuthorizedResult call.plate row checkedAt)

def step (deployment : Deployment) (casing : CaseTables) (vm : Vm) (state : State) :
    Action → Option State
  | .call environment served =>
      let response := served.perform deployment environment state.tables
      some { state with
        tables := response.tables
        messages := state.messages ++ if vm = served.vm then response.events else [] }
  | .handle event now acknowledged =>
      if event ∈ state.messages then
        match processMessage casing state.cache now event with
        | none => some state
        | some cache =>
            some { state with
              cache
              messages := if acknowledged then state.messages.erase event else state.messages }
      else none
  | .verify id plateNumber now =>
      match state.calls id with
      | some _ => none
      | none =>
          some { state with
            calls := Function.update state.calls id
              (some ⟨casing.normalise plateNumber, now, .readCache⟩) }
  | .advance id now => (state.calls id).map fun call => advance casing vm state id call now
  | .abort id => some { state with calls := Function.update state.calls id none }

section
variable {deployment : Deployment} {casing : CaseTables} {vm : Vm} {state : State} {callId : CallId}

/-- A call that nothing interrupts is `verify_plate` in one step. -/
theorem verifyPlate_undisturbed (idle : state.calls callId = none) (plateNumber : Plate)
    (now : DateTime) : ∃ steps,
    Lts.run (step deployment casing vm) state
        (.verify callId plateNumber now :: List.replicate steps (.advance callId now)) =
      some { state with
        cache := (verifyPlate casing (state.tables vm) state.cache
          (casing.normalise plateNumber) now).2
        results := state.results ++ [(verifyPlate casing (state.tables vm) state.cache
          (casing.normalise plateNumber) now).1] } := by
  have ended : Function.update state.calls callId none = state.calls := by
    rw [← idle, Function.update_eq_self]
  cases cached : getCachedBooking casing state.cache (casing.normalise plateNumber) now with
  | none =>
      cases found : lookupRow casing (state.tables vm) (casing.normalise plateNumber) now with
      | none =>
          refine ⟨2, ?_⟩
          simp [Lts.run, step, idle, advance, cached, found, State.goto, State.finish, verifyPlate,
            lookupDb, ended]
      | some row =>
          refine ⟨3, ?_⟩
          simp [Lts.run, step, idle, advance, cached, found, State.goto, State.finish, verifyPlate,
            lookupDb, ended]
  | some entry =>
      by_cases passed : now > entry.journeyWindowEnd
      · cases found : lookupRow casing (state.tables vm) (casing.normalise plateNumber) now with
        | none =>
            refine ⟨3, ?_⟩
            simp [Lts.run, step, idle, advance, cached, passed, found, State.goto, State.finish,
              verifyPlate, lookupDb, ended]
        | some row =>
            refine ⟨4, ?_⟩
            simp [Lts.run, step, idle, advance, cached, passed, found, State.goto, State.finish,
              verifyPlate, lookupDb, ended]
      · refine ⟨1, ?_⟩
        simp [Lts.run, step, idle, advance, cached, passed, State.goto, State.finish, verifyPlate,
          ended]

end
structure Settled (vm : Vm) (id : BookingId) (state : State) : Prop where
  cancelled : (state.tables vm).status? id = some .cancelled
  handled : ∀ event ∈ state.messages, event.bookingId ≠ id
  idle : ∀ call, state.calls call = none

/-- Redis does not hold the booking, and whatever happens next, no call answers with it. -/
def Forgotten (deployment : Deployment) (casing : CaseTables) (vm : Vm) (id : BookingId)
    (state : State) : Prop :=
  (∀ key item, state.cache key = some item → item.entry.bookingId ≠ id) ∧
    ∀ actions later, Lts.run (step deployment casing vm) state actions = some later →
      ∃ fresh, later.results = state.results ++ fresh ∧
        ∀ result ∈ fresh, result.bookingId ≠ some id

/-! ### The condition -/

/-- If the booking is cancelled, the message that evicts it is still to be handled. -/
def Evictable (vm : Vm) (id : BookingId) (state : State) : Prop :=
  (state.tables vm).status? id = some .cancelled →
    ∃ event ∈ state.messages, event.cancels id = true

def stores (casing : CaseTables) (id : BookingId) (event : Event) : Bool :=
  event.isConfirmed && event.bookingId = id &&
    event.plateNumber.any fun raw => casing.normalise raw ≠ ""

/-- The booking's cancellation is published, and its entry is written only under a plate and
only while it will be evicted. -/
def Careful (casing : CaseTables) (vm : Vm) (id : BookingId) (state : State) : Action → Prop
  | .call environment served =>
      commitsCancellation (state.tables vm) vm id served = true → environment.brokerUp = true
  | .handle event _ _ => stores casing id event = true → Evictable vm id state
  | .advance call _ => ∀ plate startedAt row checkedAt,
      state.calls call = some ⟨plate, startedAt, .warm row checkedAt⟩ → row.id = id →
        plate ≠ "" ∧ Evictable vm id state
  | .verify .. | .abort _ => True

/-! ### What careful runs keep -/

def VerifyCall.genuine (casing : CaseTables) (db : Database) (call : VerifyCall) : Prop :=
  (∃ raw, call.plate = casing.normalise raw) ∧ ∀ row checkedAt, call.pc = .warm row checkedAt →
    (warmEntry row).genuine casing db (cacheKey casing call.plate)

structure Guarded (casing : CaseTables) (vm : Vm) (id : BookingId) (state : State) : Prop where
  traced : Traced casing (state.tables vm) state.messages state.cache
  calls : ∀ callId call, state.calls callId = some call → call.genuine casing (state.tables vm)
  pending : Pending casing (state.tables vm) state.messages state.cache id
  named : ∀ key item, state.cache key = some item → item.entry.bookingId = id →
    key ≠ cacheKey casing ""

section

variable {deployment : Deployment} {environment : Environment} {casing : CaseTables} {vm : Vm}
  {id : BookingId} {state next : State} {action : Action} {tables : Tables} {cache : Cache}
  {messages : List Event} {callId : CallId} {call : VerifyCall} {now : DateTime}

theorem Guarded.gone (guarded : Guarded casing vm id state) (settled : Settled vm id state)
    (key : String) (item : CacheItem) (stored : state.cache key = some item) :
    item.entry.bookingId ≠ id := by
  intro own
  obtain ⟨event, member, cancels⟩ :=
    guarded.pending key item stored own (guarded.named key item stored own) settled.cancelled
  simp only [Event.cancels, Bool.and_eq_true, decide_eq_true_eq] at cancels
  exact settled.handled event member cancels.2

theorem calls_update {property : VerifyCall → Prop} {calls : CallId → Option VerifyCall}
    {changed : Option VerifyCall} (all : ∀ callId call, calls callId = some call → property call)
    (new : ∀ call, changed = some call → property call) (other : CallId) (call : VerifyCall)
    (found : Function.update calls callId changed other = some call) : property call := by
  by_cases here : other = callId
  · subst here
    rw [Function.update_self] at found
    exact new call found
  · rw [Function.update_of_ne here] at found
    exact all other call found

theorem Guarded.handle {event : Event} {acknowledged : Bool} (guarded : Guarded casing vm id state)
    (member : event ∈ state.messages) (careful : stores casing id event = true → Evictable vm id state)
    (processed : processMessage casing state.cache now event = some cache) :
    Guarded casing vm id { state with
      cache
      messages := if acknowledged then state.messages.erase event else state.messages } := by
  obtain ⟨traced, calls, pending, named⟩ := guarded
  have handled := handled_of_processMessage processed
  have fewer : ∀ other ∈ if acknowledged then state.messages.erase event else state.messages,
      other ∈ state.messages := by
    intro other listed
    split at listed
    · exact List.mem_of_mem_erase listed
    · exact listed
  have others : ∀ other ∈ state.messages, other ≠ event →
      other ∈ if acknowledged then state.messages.erase event else state.messages := by
    intro other listed different
    split
    · exact (List.mem_erase_of_ne different).mpr listed
    · exact listed
  refine ⟨(traced.handle member handled).receive fewer, calls, ?_, ?_⟩
  · refine pending.handle traced member others ?_ handled
    intro raw plate text confirmed own cancelled
    refine careful ?_ cancelled
    simp [stores, confirmed, own, plate, text]
  · intro key item stored own
    cases handled with
    | skipped event raw plate blank => exact named key item stored own
    | evicted event raw plate other => exact named key item (stored_of_invalidate stored).2 own
    | stored other driverId raw segments departure text =>
        rcases stored_of_cacheActive stored with ⟨rfl, _⟩ | ⟨_, before⟩
        · exact cacheKey_ne_blank text
        · exact named key item before own

theorem Guarded.goto (guarded : Guarded casing vm id state) {pc : VerifyPc}
    (genuine : VerifyCall.genuine casing (state.tables vm) { call with pc }) :
    Guarded casing vm id (state.goto callId call pc) := by
  refine ⟨guarded.traced, calls_update guarded.calls ?_, guarded.pending, guarded.named⟩
  intro moved changed
  exact Option.some.inj changed ▸ genuine

theorem Guarded.finish (guarded : Guarded casing vm id state) (result : VerificationResult) :
    Guarded casing vm id (state.finish callId result) :=
  ⟨guarded.traced, calls_update guarded.calls nofun, guarded.pending, guarded.named⟩

theorem Guarded.evict (guarded : Guarded casing vm id state) (plate : Plate) :
    Guarded casing vm id { state with cache := invalidateBooking casing state.cache plate } := by
  refine ⟨guarded.traced.evict plate, guarded.calls, guarded.pending.evict plate, ?_⟩
  intro key item stored own
  exact guarded.named key item (stored_of_invalidate stored).2 own

theorem Guarded.warm {raw : Plate} {row : Booking} (guarded : Guarded casing vm id state)
    (genuine : (warmEntry row).genuine casing (state.tables vm)
      (cacheKey casing (casing.normalise raw)))
    (careful : row.id = id → casing.normalise raw ≠ "" ∧ Evictable vm id state) :
    Guarded casing vm id { state with
      cache := cacheActiveBooking casing state.cache (casing.normalise raw) (warmEntry row) now } := by
  refine ⟨guarded.traced.store genuine, guarded.calls, guarded.pending.store ?_, ?_⟩
  · intro own
    exact (careful own).2
  · intro key item stored own
    rcases stored_of_cacheActive stored with ⟨rfl, warmed⟩ | ⟨_, before⟩
    · rw [warmed] at own
      exact cacheKey_ne_blank (careful own).1
    · exact guarded.named key item before own

theorem Guarded.advance (guarded : Guarded casing vm id state) (found : state.calls callId = some call)
    (careful : ∀ plate startedAt row checkedAt,
      state.calls callId = some ⟨plate, startedAt, .warm row checkedAt⟩ → row.id = id →
        plate ≠ "" ∧ Evictable vm id state) :
    Guarded casing vm id (advance casing vm state callId call now) := by
  obtain ⟨⟨raw, normal⟩, warmed⟩ := guarded.calls callId call found
  obtain ⟨plate, startedAt, pc⟩ := call
  subst normal
  have moves (pc : VerifyPc) (apart : ∀ row checkedAt, pc ≠ .warm row checkedAt) :
      VerifyCall.genuine casing (state.tables vm) ⟨casing.normalise raw, startedAt, pc⟩ :=
    ⟨⟨raw, rfl⟩, fun row checkedAt same => absurd same (apart row checkedAt)⟩
  cases pc with
  | readCache =>
      simp only [Enforcement.advance]
      split
      · exact guarded.goto (moves .readDb nofun)
      · split
        · exact guarded.goto (moves .evict nofun)
        · exact guarded.finish _
  | evict => exact (guarded.evict (casing.normalise raw)).goto (moves .readDb nofun)
  | readDb =>
      simp only [Enforcement.advance]
      split
      · exact guarded.finish _
      · rename_i row listed
        refine guarded.goto ⟨⟨raw, rfl⟩, ?_⟩
        intro other checkedAt same
        cases same
        exact genuine_warmEntry listed
  | warm row checkedAt =>
      refine (guarded.warm (warmed row checkedAt rfl) ?_).finish _
      exact careful _ startedAt row checkedAt found

theorem Guarded.serve {served : Call} (guarded : Guarded casing vm id state)
    (careful : commitsCancellation (state.tables vm) vm id served = true →
      environment.brokerUp = true) :
    Guarded casing vm id { state with
      tables := (served.perform deployment environment state.tables).tables
      messages := state.messages ++ if vm = served.vm then
        (served.perform deployment environment state.tables).events else [] } := by
  have announced := @announced_at deployment environment state.tables vm served
  refine ⟨guarded.traced.announce announced, ?_, guarded.pending.announce ?_, guarded.named⟩
  · intro callId call found
    obtain ⟨normal, warmed⟩ := guarded.calls callId call found
    exact ⟨normal, fun row checkedAt at_ => (warmed row checkedAt at_).persist announced⟩
  · intro cancelled
    cases commits : commitsCancellation (state.tables vm) vm id served with
    | false => exact .inl (cancelled_of_perform commits cancelled)
    | true =>
        rw [careful commits] at announced
        exact announced.cancels cancelled

theorem Guarded.step (guarded : Guarded casing vm id state)
    (careful : Careful casing vm id state action)
    (stepped : step deployment casing vm state action = some next) : Guarded casing vm id next := by
  cases action with
  | call environment served =>
      cases stepped
      exact guarded.serve careful
  | handle event now acknowledged =>
      simp only [Enforcement.step] at stepped
      split at stepped
      · rename_i member
        split at stepped
        · cases stepped
          exact guarded
        · rename_i cache processed
          cases stepped
          exact guarded.handle member careful processed
      · exact nomatch stepped
  | verify callId plateNumber now =>
      simp only [Enforcement.step] at stepped
      split at stepped
      · exact nomatch stepped
      · cases stepped
        refine ⟨guarded.traced, calls_update guarded.calls ?_, guarded.pending, guarded.named⟩
        intro call started
        rw [← Option.some.inj started]
        exact ⟨⟨plateNumber, rfl⟩, nofun⟩
  | advance callId now =>
      obtain ⟨call, found, rfl⟩ := Option.map_eq_some_iff.mp stepped
      exact guarded.advance found careful
  | abort callId =>
      cases stepped
      exact ⟨guarded.traced, calls_update guarded.calls nofun, guarded.pending, guarded.named⟩

theorem guarded_initial (unbooked : ∀ id, ((tables vm).rowsOf id).booking = none) :
    Guarded casing vm id (.initial tables) := by
  have empty : ∀ key item, (State.initial tables).cache key ≠ some item := fun _ _ => nofun
  constructor
  · refine ⟨?_, nofun, fun key item stored => absurd stored (empty key item)⟩
    intro id row found
    exact nomatch (unbooked id).symm.trans found
  · intro callId call found
    exact nomatch found
  · intro key item stored
    exact absurd stored (empty key item)
  · intro key item stored
    exact absurd stored (empty key item)

/-! ### A forgotten booking stays forgotten -/

def VerifyCall.avoids (id : BookingId) (call : VerifyCall) : Prop :=
  ∀ row checkedAt, call.pc = .warm row checkedAt → row.id ≠ id

structure Gone (vm : Vm) (id : BookingId) (state : State) : Prop where
  cancelled : (state.tables vm).status? id = some .cancelled
  handled : ∀ event ∈ state.messages, event.bookingId ≠ id
  evicted : ∀ key item, state.cache key = some item → item.entry.bookingId ≠ id
  unread : ∀ callId call, state.calls callId = some call → call.avoids id

def Fresh (id : BookingId) (before after : List VerificationResult) : Prop :=
  ∃ fresh, after = before ++ fresh ∧ ∀ result ∈ fresh, result.bookingId ≠ some id

theorem Fresh.refl (results : List VerificationResult) : Fresh id results results :=
  ⟨[], by simp, by simp⟩

theorem Fresh.single {results : List VerificationResult} {result : VerificationResult}
    (other : result.bookingId ≠ some id) : Fresh id results (results ++ [result]) := by
  refine ⟨[result], rfl, ?_⟩
  intro added member
  rwa [List.mem_singleton.mp member]

theorem Fresh.trans {first second third : List VerificationResult} (before : Fresh id first second)
    (after : Fresh id second third) : Fresh id first third := by
  obtain ⟨earlier, rfl, apart⟩ := before
  obtain ⟨later, rfl, apartLater⟩ := after
  refine ⟨earlier ++ later, by simp, ?_⟩
  intro result member
  rcases List.mem_append.mp member with old | new
  · exact apart result old
  · exact apartLater result new

theorem Gone.serve {served : Call} (gone : Gone vm id state) :
    Gone vm id { state with
      tables := (served.perform deployment environment state.tables).tables
      messages := state.messages ++ if vm = served.vm then
        (served.perform deployment environment state.tables).events else [] } := by
  have announced := @announced_at deployment environment state.tables vm served
  have silent : ((served.perform deployment environment state.tables).tables vm).status? id =
        some .cancelled ∧ (if vm = served.vm then
          (served.perform deployment environment state.tables).events else []).filter
        (fun event => event.bookingId = id) = [] := by
    obtain ⟨row, found, status⟩ := Option.map_eq_some_iff.mp gone.cancelled
    have present : ((state.tables vm).rowsOf id).booking = some row := found
    have told := announced.told id
    rw [present] at told
    rw [Database.status?_eq]
    generalize ((served.perform deployment environment state.tables).tables vm).rowsOf id = rows
      at told ⊢
    generalize (if vm = served.vm then
      (served.perform deployment environment state.tables).events else []).filter
      (fun event => event.bookingId = id) = own at told ⊢
    generalize rows.booking = after at told ⊢
    cases told with
    | unchanged => exact ⟨congrArg some status, rfl⟩
    | orphaned row events inProgress failed => exact nomatch status.symm.trans inProgress
    | cancelled row driverId departure active => exact absurd status active
  refine ⟨silent.1, ?_, gone.evicted, gone.unread⟩
  intro event member own
  rcases List.mem_append.mp member with old | new
  · exact gone.handled event old own
  · have apart := List.filter_eq_nil_iff.mp silent.2 event new
    exact apart (decide_eq_true own)

theorem Gone.handle {event : Event} {acknowledged : Bool} (gone : Gone vm id state)
    (member : event ∈ state.messages)
    (processed : processMessage casing state.cache now event = some cache) :
    Gone vm id { state with
      cache
      messages := if acknowledged then state.messages.erase event else state.messages } := by
  refine ⟨gone.cancelled, ?_, ?_, gone.unread⟩
  · intro other listed
    refine gone.handled other ?_
    split at listed
    · exact List.mem_of_mem_erase listed
    · exact listed
  · intro key item stored
    have other := gone.handled event member
    cases handled_of_processMessage processed with
    | skipped event raw plate blank => exact gone.evicted key item stored
    | evicted event raw plate unconfirmed =>
        exact gone.evicted key item (stored_of_invalidate stored).2
    | stored booking driverId raw segments departure text =>
        rcases stored_of_cacheActive stored with ⟨_, new⟩ | ⟨_, before⟩
        · rw [new]
          exact other
        · exact gone.evicted key item before

theorem Gone.goto {pc : VerifyPc} (gone : Gone vm id state)
    (avoids : VerifyCall.avoids id { call with pc }) : Gone vm id (state.goto callId call pc) := by
  refine ⟨gone.cancelled, gone.handled, gone.evicted, calls_update gone.unread ?_⟩
  intro moved changed
  exact Option.some.inj changed ▸ avoids

theorem Gone.finish {result : VerificationResult} (gone : Gone vm id state)
    (other : result.bookingId ≠ some id) :
    Gone vm id (state.finish callId result) ∧
      Fresh id state.results (state.finish callId result).results :=
  ⟨⟨gone.cancelled, gone.handled, gone.evicted, calls_update gone.unread nofun⟩, .single other⟩

theorem Gone.advance (gone : Gone vm id state) (found : state.calls callId = some call) :
    Gone vm id (advance casing vm state callId call now) ∧
      Fresh id state.results (advance casing vm state callId call now).results := by
  obtain ⟨plate, startedAt, pc⟩ := call
  cases pc with
  | readCache =>
      simp only [Enforcement.advance]
      split
      · exact ⟨gone.goto nofun, .refl _⟩
      · rename_i entry cached
        split
        · exact ⟨gone.goto nofun, .refl _⟩
        · refine gone.finish ?_
          obtain ⟨item, stored, rfl⟩ := item_of_getCachedBooking cached
          intro same
          exact gone.evicted _ item stored (Option.some.inj same)
  | evict =>
      have evicted : Gone vm id { state with cache := invalidateBooking casing state.cache plate } := by
        refine ⟨gone.cancelled, gone.handled, ?_, gone.unread⟩
        intro key item stored
        exact gone.evicted key item (stored_of_invalidate stored).2
      exact ⟨evicted.goto nofun, .refl _⟩
  | readDb =>
      simp only [Enforcement.advance]
      split
      · exact gone.finish nofun
      · rename_i row listed
        refine ⟨gone.goto ?_, .refl _⟩
        intro other checkedAt same own
        cases same
        obtain ⟨member, verifiable⟩ := lookupRow_spec listed
        have confirmed := (verifiable_iff.mp verifiable).2.1
        have present := Database.rowsOf_of_mem member
        have cancelled := gone.cancelled
        rw [Database.status?_eq, ← own, present, Option.map_some, confirmed] at cancelled
        exact nomatch cancelled
  | warm row checkedAt =>
      have other : row.id ≠ id := gone.unread callId _ found row checkedAt rfl
      have warmed : Gone vm id { state with
          cache := cacheActiveBooking casing state.cache plate (warmEntry row) now } := by
        refine ⟨gone.cancelled, gone.handled, ?_, gone.unread⟩
        intro key item stored
        rcases stored_of_cacheActive stored with ⟨_, new⟩ | ⟨_, before⟩
        · rw [new]
          exact other
        · exact gone.evicted key item before
      refine warmed.finish ?_
      intro same
      exact other (Option.some.inj same)

theorem Gone.step (gone : Gone vm id state)
    (stepped : step deployment casing vm state action = some next) :
    Gone vm id next ∧ Fresh id state.results next.results := by
  cases action with
  | call environment served =>
      cases stepped
      exact ⟨gone.serve, .refl _⟩
  | handle event now acknowledged =>
      simp only [Enforcement.step] at stepped
      split at stepped
      · rename_i member
        split at stepped
        · cases stepped
          exact ⟨gone, .refl _⟩
        · rename_i cache processed
          cases stepped
          exact ⟨gone.handle member processed, .refl _⟩
      · exact nomatch stepped
  | verify callId plateNumber now =>
      simp only [Enforcement.step] at stepped
      split at stepped
      · exact nomatch stepped
      · cases stepped
        have begun := @Gone.goto vm id state callId ⟨casing.normalise plateNumber, now, .readCache⟩
          .readCache gone nofun
        exact ⟨begun, .refl _⟩
  | advance callId now =>
      obtain ⟨call, found, rfl⟩ := Option.map_eq_some_iff.mp stepped
      exact gone.advance found
  | abort callId =>
      cases stepped
      exact ⟨⟨gone.cancelled, gone.handled, gone.evicted, calls_update gone.unread nofun⟩, .refl _⟩

theorem Gone.run {actions : List Action} (gone : Gone vm id state)
    (executed : Lts.run (Enforcement.step deployment casing vm) state actions = some next) :
    Fresh id state.results next.results := by
  induction actions generalizing state with
  | nil =>
      cases executed
      exact .refl _
  | cons action rest ih =>
      obtain ⟨middle, stepped, remaining⟩ := Lts.run_cons_eq_some.mp executed
      obtain ⟨still, fresh⟩ := gone.step stepped
      exact fresh.trans (ih still remaining)

/-- In a run that writes the booking's entry only while it will be evicted, nobody is
authorised by the booking once its cancellation has settled. -/
theorem forgotten_of_careful {actions : List Action}
    (unbooked : ∀ id, ((tables vm).rowsOf id).booking = none)
    (executed : Lts.run (Enforcement.step deployment casing vm) (.initial tables) actions = some state)
    (careful : Lts.Meets (Enforcement.step deployment casing vm) (Careful casing vm id)
      (.initial tables) actions)
    (settled : Settled vm id state) : Forgotten deployment casing vm id state := by
  have guarded : Guarded casing vm id state :=
    Lts.run_invariant (fun _ _ _ guarded careful stepped => guarded.step careful stepped)
      (guarded_initial unbooked) executed careful
  have gone : Gone vm id state := by
    refine ⟨settled.cancelled, settled.handled, guarded.gone settled, ?_⟩
    intro callId call found
    exact nomatch (settled.idle callId).symm.trans found
  refine ⟨gone.evicted, ?_⟩
  intro later next executed
  exact gone.run executed

end

/-! ### One booking and its cancellation -/

def emptyTables : Tables := fun _ => .unbooked (fun _ _ => some 100) fun _ => none

def book : Action :=
  .call .faultless (.createBooking .vm1 10 request (some (.single irishSegment 45)))

def cancel : Action := .call .faultless (.cancelBooking .vm1 10 7)

def confirmation : Event :=
  .bookingConfirmed 10 7 (some "12-D-345") [(1, .euWestIreland)] (7200 * second)

def cancellation : Event := .bookingCancelled 10 7 (some "12-D-345") (some (7200 * second))

def inOrder : List Action :=
  [book, .handle confirmation 0 true, cancel, .handle cancellation 0 true]

def reordered : List Action :=
  [book, cancel, .handle cancellation 0 true, .handle confirmation 0 true]

theorem forgotten_inOrder : ∃ state,
    Lts.run (step singleVm .ascii .vm1) (.initial emptyTables) inOrder = some state ∧
      Forgotten singleVm .ascii .vm1 10 state := by
  have ran : (Lts.run (step singleVm .ascii .vm1) (.initial emptyTables) inOrder).map
      (fun state => ((state.tables .vm1).status? 10, state.messages, state.calls)) =
      some (some .cancelled, [], fun _ => none) := by rfl
  obtain ⟨state, executed, observed⟩ := Option.map_eq_some_iff.mp ran
  simp only [Prod.mk.injEq] at observed
  obtain ⟨cancelled, messages, calls⟩ := observed
  refine ⟨state, executed, forgotten_of_careful (fun _ => rfl) executed ?_ ⟨cancelled, ?_, ?_⟩⟩
  · -- the confirmation is handled before there is a cancellation, the cancellation stores nothing
    refine ⟨fun _ => rfl, fun first booked => ?_⟩
    cases booked
    refine ⟨fun _ cancelled => absurd cancelled (by decide), fun second warmed => ?_⟩
    cases warmed
    refine ⟨fun _ => rfl, fun third committed => ?_⟩
    cases committed
    exact ⟨fun stored => absurd stored (by decide), fun _ _ => trivial⟩
  · rw [messages]
    exact nofun
  · rw [calls]
    exact fun _ => rfl

theorem remembered_reordered :
    ¬ ∀ (deployment : Deployment) (casing : CaseTables) (vm : Vm) (id : BookingId)
      (tables : Tables) (actions : List Action) (state : State),
      (∀ id, ((tables vm).rowsOf id).booking = none) →
      Lts.run (step deployment casing vm) (.initial tables) actions = some state →
      Settled vm id state → Forgotten deployment casing vm id state := by
  intro holds
  have ran : (Lts.run (step singleVm .ascii .vm1) (.initial emptyTables) reordered).map
      (fun state => ((state.tables .vm1).status? 10, state.messages, state.calls,
        (state.cache "active_booking:12-D-345").map fun item => item.entry.bookingId)) =
      some (some .cancelled, [], fun _ => none, some 10) := by rfl
  obtain ⟨state, executed, observed⟩ := Option.map_eq_some_iff.mp ran
  simp only [Prod.mk.injEq, Option.map_eq_some_iff] at observed
  obtain ⟨cancelled, messages, calls, item, stored, own⟩ := observed
  have settled : Settled .vm1 10 state := by
    refine ⟨cancelled, ?_, ?_⟩
    · rw [messages]
      exact nofun
    · rw [calls]
      exact fun _ => rfl
  have forgotten := holds singleVm .ascii .vm1 10 emptyTables reordered state (fun _ => rfl)
    executed settled
  exact forgotten.1 _ item stored own

end TrafficService.Enforcement
