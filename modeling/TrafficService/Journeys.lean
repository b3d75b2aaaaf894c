import TrafficService.BookingInvariant
import TrafficService.History

/-!
The list `GET /bookings/my/journeys` answers a driver with, through any run of the cluster, and
who can have cancelled a booking of it.
-/

namespace TrafficService

open Table

structure BookingOut where
  bookingId : BookingId
  status : BookingStatus
  estimatedDurationMinutes : Option Nat
  createdAt : DateTime
  deriving DecidableEq

def Booking.out (row : Booking) : BookingOut where
  bookingId := row.id
  status := row.status
  estimatedDurationMinutes := row.estimatedDurationMinutes
  createdAt := row.createdAt

/-- The order in which a `SELECT` without `ORDER BY` returns its rows. -/
structure RowOrder where
  arrange : List Booking → List Booking
  same : ∀ rows, (arrange rows).Perm rows

def getDriverBookings (order : RowOrder) (db : Database) (driverId : DriverId) : List Booking :=
  order.arrange (db.bookings.rows.filter fun row => row.driverId = driverId)

def myJourneys (order : RowOrder) (db : Database) (driverId : DriverId) : List BookingOut :=
  (getDriverBookings order db driverId).map Booking.out

def Booking.draft (row : Booking) : BookingDraft where
  driverId := row.driverId
  plateNumber := row.plateNumber
  departureTime := row.departureTime
  createdAt := row.createdAt

theorem mem_getDriverBookings {order : RowOrder} {db : Database} {driverId : DriverId}
    {row : Booking} : row ∈ getDriverBookings order db driverId ↔
      row ∈ db.bookings.rows ∧ row.driverId = driverId := by
  rw [getDriverBookings, (order.same _).mem_iff, List.mem_filter, decide_eq_true_eq]

theorem ids_myJourneys (order : RowOrder) (db : Database) (driverId : DriverId) :
    ((myJourneys order db driverId).map BookingOut.bookingId).Perm
      (db.bookings.rows.filterMap fun row => if row.driverId = driverId then some row.id else none) := by
  rw [myJourneys, getDriverBookings, List.map_map]
  refine ((order.same _).map _).trans (.of_eq ?_)
  induction db.bookings.rows with
  | nil => rfl
  | cons row rest ih =>
      by_cases own : row.driverId = driverId
      · rw [List.filter_cons_of_pos (by simpa using own), List.filterMap_cons, if_pos own,
          List.map_cons, ih]
        rfl
      · rw [List.filter_cons_of_neg (by simpa using own), List.filterMap_cons, if_neg own, ih]

theorem nodup_myJourneys (order : RowOrder) (db : Database) (driverId : DriverId) :
    ((myJourneys order db driverId).map BookingOut.bookingId).Nodup := by
  rw [myJourneys, List.map_map, getDriverBookings, ((order.same _).map _).nodup_iff]
  exact ((List.filter_sublist (p := fun row : Booking => row.driverId = driverId)).map
    Booking.id).nodup db.bookings.unique

theorem myJourneys_grow {db next : Database} (recorded : Recorded db next) (driverId : DriverId)
    (order later : RowOrder) : ((myJourneys order db driverId).map BookingOut.bookingId).Subperm
      ((myJourneys later next driverId).map BookingOut.bookingId) := by
  rw [(ids_myJourneys order db driverId).subperm_right, (ids_myJourneys later next driverId).subperm_left]
  refine recorded.bookings.filterMap ?_
  intro before after revised
  rw [← revised.same]

section

variable {transaction : Transaction} {id : BookingId} {rows : BookingRows} {before : Booking}

/-- What a transaction that inserts no booking does to the one that is there. -/
theorem Transaction.booking_kept (inserts : transaction.inserts = false)
    (found : rows.booking = some before) :
    ∃ after, (transaction.onRows id rows).booking = some after ∧ after.draft = before.draft ∧
      (after.status = .cancelled →
        before.status = .cancelled ∨ transaction = .cancel ∨ transaction = .dangling) := by
  have same : ∃ after, rows.booking = some after ∧ after.draft = before.draft ∧
      (after.status = .cancelled →
        before.status = .cancelled ∨ transaction = .cancel ∨ transaction = .dangling) :=
    ⟨before, found, rfl, .inl⟩
  have set (status : BookingStatus) :
      rows.booking.map (fun row => { row with status }) = some { before with status } :=
    congrArg (Option.map fun row : Booking => { row with status }) found
  cases transaction with
  | saga draft segments | insertRejected draft => cases inserts
  | confirm minutes =>
      have confirmed : rows.booking.map (fun row =>
            { row with status := .confirmed, estimatedDurationMinutes := some minutes }) =
          some { before with status := .confirmed, estimatedDurationMinutes := some minutes } := by
        rw [found, Option.map_some]
      exact ⟨_, confirmed, rfl, fun cancelled => by cases cancelled⟩
  | updateRejected | orphan =>
      exact ⟨_, set .rejected, rfl, fun cancelled => by cases cancelled⟩
  | cancel => exact ⟨_, set .cancelled, rfl, fun _ => .inr (.inl rfl)⟩
  | dangling => exact ⟨_, set .cancelled, rfl, fun _ => .inr (.inr rfl)⟩
  | release schema | lingering schema | peerReserve driverId segment | peerRelease => exact same

/-- The transactions that write a booking where there is none. -/
theorem Transaction.booking_new {row : Booking} (absent : rows.booking = none)
    (present : (transaction.onRows id rows).booking = some row) :
    (∃ segments, transaction = .saga row.draft segments) ∨
      transaction = .insertRejected row.draft := by
  cases updates : transaction.updates with
  | true =>
      have still := (@Transaction.onRows_booking_eq_none transaction id rows updates).mpr absent
      cases still.symm.trans present
  | false =>
      cases transaction with
      | saga draft segments =>
          cases present
          exact .inl ⟨segments, rfl⟩
      | insertRejected draft =>
          cases present
          exact .inr rfl
      | peerReserve driverId segment =>
          have still : rows.booking = some row := present
          cases absent.symm.trans still
      | _ => cases updates

end

namespace Cluster

section

variable {deployment : Deployment} {state next : State} {action : Action} {id : BookingId} {vm : Vm}

theorem cancelBooking_driver {driverId : DriverId} {published : Bool} {row : Booking}
    (cancelled : cancelBooking state vm id driverId published = some next)
    (found : (state.rows vm id).booking = some row) : row.driverId = driverId := by
  have known : (state.db vm).bookings.find? id = some row := found
  by_contra other
  simp only [cancelBooking, known, ne_eq, other, not_false_eq_true, if_true] at cancelled
  cases cancelled

/-- The request of a booking never cancels it. -/
theorem own_cancels {run : CreateRun} {answer : Answer} {outcome : Outcome}
    {transaction : Transaction} (moved : advance deployment id run answer = some outcome)
    (committed : outcome.transaction = some transaction) :
    transaction ≠ .cancel ∧ transaction ≠ .dangling := by
  rcases advance_commits moved committed with
    ⟨_, rfl, _⟩ | ⟨_, rfl, _⟩ | ⟨_, _, _, rfl, _⟩ | ⟨_, rfl, _⟩
  · constructor <;> exact fun same => by cases same
  · constructor <;> exact fun same => by cases same
  · constructor <;> exact fun same => by cases same
  · rw [CreateRun.rejection]
    split <;> constructor <;> exact fun same => by cases same

/-- What a step does to a booking whose row is there. -/
theorem present_step {before : Booking} (stepped : step deployment state action = some next)
    (found : (state.rows vm id).booking = some before) :
    ∃ after, (next.rows vm id).booking = some after ∧ after.draft = before.draft ∧
      (after.status = .cancelled → before.status = .cancelled ∨
        (∃ published, action = .cancelBooking vm id before.driverId published) ∨
        ∃ pass now published, action = .stepPass pass now published) := by
  cases step_effect stepped id with
  | unchanged runs rows | begun _ _ _ _ runs rows | crashed _ _ _ _ runs rows =>
      exact ⟨before, (rows vm).symm ▸ found, rfl, .inl⟩
  | advanced run answer outcome source known moved runs rows inserted =>
      rw [rows]
      split
      · next here =>
          subst here
          cases committed : outcome.transaction with
          | none =>
              simp only [Outcome.rowsAfter, committed]
              exact ⟨before, found, rfl, .inl⟩
          | some transaction =>
              have present : transaction.inserts = false := by
                by_contra inserts
                have absent := inserted transaction committed (by simpa using inserts)
                exact absurd (absent.symm.trans found) (by simp)
              obtain ⟨after, kept, same, cancels⟩ :=
                @Transaction.booking_kept transaction id _ before present found
              simp only [Outcome.rowsAfter, committed]
              refine ⟨after, kept, same, ?_⟩
              intro cancelled
              have own := own_cancels moved committed
              rcases cancels cancelled with already | isCancel | isDangling
              · exact .inl already
              · exact absurd isCancel own.1
              · exact absurd isDangling own.2
      · exact ⟨before, found, rfl, .inl⟩
  | external place transaction source runs rows =>
      rw [rows]
      split
      · next here =>
          subst here
          have present : transaction.inserts = false := by cases source <;> rfl
          obtain ⟨after, kept, same, cancels⟩ :=
            @Transaction.booking_kept transaction id _ before present found
          refine ⟨after, kept, same, ?_⟩
          intro cancelled
          rcases cancels cancelled with already | rfl | rfl
          · exact .inl already
          · cases source with
            | cancel _ _ driverId published =>
                have driver := cancelBooking_driver stepped found
                exact .inr (.inl ⟨published, driver ▸ rfl⟩)
          · cases source with
            | dangling passId now published => exact .inr (.inr ⟨passId, now, published, rfl⟩)
      · exact ⟨before, found, rfl, .inl⟩

/-- A booking that is cancelled in the course of a run was cancelled by its own driver or by the
reconciler; whatever else is booked, cancelled, lost or crashes, it is not cancelled by others. -/
theorem cancelled_by_driver {start finish : State} {actions : List Action} {before after : Booking}
    (executed : Lts.run (step deployment) start actions = some finish)
    (found : (start.rows vm id).booking = some before) (uncancelled : before.status ≠ .cancelled)
    (ended : (finish.rows vm id).booking = some after) (cancelled : after.status = .cancelled) :
    (∃ published, .cancelBooking vm id before.driverId published ∈ actions) ∨
      ∃ pass now published, .stepPass pass now published ∈ actions := by
  induction actions generalizing start before with
  | nil =>
      simp only [Lts.run_nil, Option.some.injEq] at executed
      subst executed
      cases found.symm.trans ended
      exact absurd cancelled uncancelled
  | cons action rest ih =>
      obtain ⟨middle, stepped, remaining⟩ := Lts.run_cons_eq_some.mp executed
      obtain ⟨row, present, same, cancels⟩ := present_step stepped found
      by_cases still : row.status = .cancelled
      · rcases cancels still with already | ⟨published, rfl⟩ | ⟨pass, now, published, rfl⟩
        · exact absurd already uncancelled
        · exact .inl ⟨published, List.mem_cons_self⟩
        · exact .inr ⟨pass, now, published, List.mem_cons_self⟩
      · have driver : row.driverId = before.driverId := congrArg BookingDraft.driverId same
        rcases ih remaining present still with ⟨published, member⟩ | ⟨pass, now, published, member⟩
        · rw [driver] at member
          exact .inl ⟨published, List.mem_cons_of_mem _ member⟩
        · exact .inr ⟨pass, now, published, List.mem_cons_of_mem _ member⟩

theorem cancelled_by_driver_own : ∃ booked finish before after,
    Lts.run (step singleVm) emptyState (bookAsFar 10 5) = some booked ∧
      Lts.run (step singleVm) booked [.cancelBooking .vm1 10 7 true] = some finish ∧
      (booked.rows .vm1 10).booking = some before ∧ before.status = .confirmed ∧
      (finish.rows .vm1 10).booking = some after ∧ after.status = .cancelled ∧
      ((∃ published, Action.cancelBooking .vm1 10 before.driverId published ∈
          [Action.cancelBooking .vm1 10 7 true]) ∨
        ∃ pass now published, Action.stepPass pass now published ∈
          [Action.cancelBooking .vm1 10 7 true]) := by
  have observed : (Lts.run (step singleVm) emptyState (bookAsFar 10 5)).bind (fun booked =>
      (Lts.run (step singleVm) booked [.cancelBooking .vm1 10 7 true]).map fun finish =>
        ((booked.rows .vm1 10).booking.map (·.status),
          (finish.rows .vm1 10).booking.map (·.status))) =
      some (some .confirmed, some .cancelled) := by decide
  obtain ⟨booked, first, observed⟩ := Option.bind_eq_some_iff.mp observed
  obtain ⟨finish, second, outcome⟩ := Option.map_eq_some_iff.mp observed
  simp only [Prod.mk.injEq] at outcome
  obtain ⟨before, found, confirmed⟩ := Option.map_eq_some_iff.mp outcome.1
  obtain ⟨after, ended, cancelled⟩ := Option.map_eq_some_iff.mp outcome.2
  refine ⟨booked, finish, before, after, first, second, found, confirmed, ended, cancelled, ?_⟩
  exact cancelled_by_driver second found (by rw [confirmed]; decide) ended cancelled

def Faithful (state : State) : Prop :=
  ∀ id run row, state.runs id = some run → (state.rows run.vm id).booking = some row →
    row.draft = run.draft

theorem new_step {run : CreateRun} {row : Booking}
    (stepped : step deployment state action = some next) (found : state.runs id = some run)
    (absent : (state.rows vm id).booking = none) (present : (next.rows vm id).booking = some row) :
    row.draft = run.draft := by
  cases step_effect stepped id with
  | unchanged runs rows | begun _ _ _ _ runs rows | crashed _ _ _ _ runs rows =>
      rw [rows] at present
      cases absent.symm.trans present
  | advanced before answer outcome source known moved runs rows inserted =>
      cases known.symm.trans found
      rw [rows] at present
      split at present
      · simp only [Outcome.rowsAfter] at present
        split at present
        · cases absent.symm.trans present
        · next transaction committed =>
            have wrote := Transaction.booking_new absent present
            rcases advance_commits moved committed with
              ⟨_, rfl, _⟩ | ⟨_, rfl, _⟩ | ⟨_, _, _, rfl, _⟩ | ⟨_, rfl, _⟩
            · rcases wrote with ⟨segments, same⟩ | same
              · exact (Transaction.saga.inj same).1.symm
              · cases same
            · rcases wrote with ⟨segments, same⟩ | same <;> cases same
            · rcases wrote with ⟨segments, same⟩ | same <;> cases same
            · rw [CreateRun.rejection] at wrote
              split at wrote
              · rcases wrote with ⟨segments, same⟩ | same <;> cases same
              · rcases wrote with ⟨segments, same⟩ | same
                · cases same
                · exact (Transaction.insertRejected.inj same).symm
      · cases absent.symm.trans present
  | external place transaction source runs rows =>
      rw [rows] at present
      split at present
      · rcases Transaction.booking_new absent present with ⟨segments, rfl⟩ | rfl <;> cases source
      · cases absent.symm.trans present

theorem Faithful.step (faithful : Faithful state) (inv : Inv deployment state)
    (stepped : Cluster.step deployment state action = some next) : Faithful next := by
  intro id run row found present
  cases known : state.runs id with
  | none =>
      -- the request has only begun
      cases step_effect stepped id with
      | unchanged runs rows => cases (runs.trans known).symm.trans found
      | begun _ _ _ _ runs rows =>
          rw [rows, inv.unborn id known] at present
          cases present
      | crashed before _ running _ runs rows => cases known.symm.trans running
      | advanced before answer outcome source running => cases known.symm.trans running
      | external _ _ _ runs => cases (runs.trans known).symm.trans found
  | some before =>
      obtain ⟨after, same, vm, draft⟩ := step_keeps_run stepped known
      cases same.symm.trans found
      rw [draft]
      cases old : (state.rows run.vm id).booking with
      | none => exact new_step stepped known old present
      | some stored =>
          obtain ⟨kept, now, identity, _⟩ := present_step stepped old
          cases now.symm.trans present
          rw [identity]
          exact faithful id before stored known (vm ▸ old)

structure OwnJourneys (order : RowOrder) (state : State) (vm : Vm) (driverId : DriverId) :
    Prop where
  /-- Only bookings the driver has asked this VM for. -/
  own : ∀ out ∈ myJourneys order (state.db vm) driverId, ∃ run, state.runs out.bookingId = some run ∧
    run.vm = vm ∧ run.draft.driverId = driverId ∧ run.draft.createdAt = out.createdAt
  /-- Every one whose saga has committed. -/
  listed : ∀ id run, state.runs id = some run → run.vm = vm → run.draft.driverId = driverId →
    run.persistent = true → ∃ out ∈ myJourneys order (state.db vm) driverId, out.bookingId = id
  once : ((myJourneys order (state.db vm) driverId).map BookingOut.bookingId).Nodup

theorem ownJourneys (faithful : Faithful state) (inv : Inv deployment state) (order : RowOrder)
    (vm : Vm) (driverId : DriverId) : OwnJourneys order state vm driverId := by
  refine ⟨?_, ?_, nodup_myJourneys ..⟩
  · intro out member
    obtain ⟨row, listed, rfl⟩ := List.mem_map.mp member
    obtain ⟨stored, own⟩ := mem_getDriverBookings.mp listed
    have present : (state.rows vm row.id).booking = some row := Database.rowsOf_of_mem stored
    obtain ⟨run, found, rfl⟩ := inv.owner (by rw [present]; simp)
    have same := faithful row.id run row found present
    refine ⟨run, found, rfl, ?_, ?_⟩
    · rw [← same]
      exact own
    · rw [← same]
      rfl
  · rintro id run found rfl own persistent
    obtain ⟨row, present⟩ :=
      Option.ne_none_iff_exists'.mp ((inv.booking id run found).stored persistent)
    have same := faithful id run row found present
    have stored : row ∈ (state.db run.vm).bookings.rows ∧ row.id = id :=
      Database.mem_of_rowsOf present
    refine ⟨row.out, List.mem_map_of_mem (mem_getDriverBookings.mpr ⟨stored.1, ?_⟩), stored.2⟩
    have driver : row.driverId = run.draft.driverId := congrArg BookingDraft.driverId same
    rw [driver, own]

/-- In every run a driver's list shows exactly the bookings the driver has made on the VM, each
once and in some order, and whatever it shows it shows in the rest of the run too. -/
theorem my_journeys_run {capacity : Vm → RegionSchema → SegmentId → Option Nat}
    {users : Vm → DriverId → Option (Option Plate)} {before after : List Action} {finish : State}
    (executed : Lts.run (step deployment) (.initial capacity users) before = some state)
    (continued : Lts.run (step deployment) state after = some finish) (vm : Vm)
    (driverId : DriverId) (order later : RowOrder) : OwnJourneys order state vm driverId ∧
      ((myJourneys order (state.db vm) driverId).map BookingOut.bookingId).Subperm
        ((myJourneys later (finish.db vm) driverId).map BookingOut.bookingId) := by
  constructor
  · have both : Inv deployment state ∧ Faithful state := by
      refine @Lts.Reachable.invariant _ _ (step deployment)
        (fun state => Inv deployment state ∧ Faithful state) ?_ _ _ ⟨before, executed⟩
        ⟨inv_initial capacity users, fun _ _ _ found => by cases found⟩
      rintro middle action next ⟨inv, faithful⟩ stepped
      exact ⟨inv.step stepped, faithful.step inv stepped⟩
    exact ownJourneys both.2 both.1 order vm driverId
  · exact myJourneys_grow (recorded_of_run continued vm) driverId order later

def oldestFirst : RowOrder := ⟨fun rows => rows, List.Perm.refl⟩

def newestFirst : RowOrder := ⟨List.reverse, fun rows => rows.reverse_perm⟩

theorem my_journeys_run_cancelling : ∃ booked finish,
    Lts.run (step singleVm) emptyState (bookAsFar 10 5) = some booked ∧
      Lts.run (step singleVm) booked [.cancelBooking .vm1 10 7 true] = some finish ∧
      myJourneys oldestFirst (booked.db .vm1) 7 = [⟨10, .confirmed, some 45, 0⟩] ∧
      OwnJourneys oldestFirst booked .vm1 7 ∧
      ((myJourneys oldestFirst (booked.db .vm1) 7).map BookingOut.bookingId).Subperm
        ((myJourneys newestFirst (finish.db .vm1) 7).map BookingOut.bookingId) := by
  have observed : (Lts.run (step singleVm) emptyState (bookAsFar 10 5)).bind (fun booked =>
      (Lts.run (step singleVm) booked [.cancelBooking .vm1 10 7 true]).map fun _ =>
        myJourneys oldestFirst (booked.db .vm1) 7) = some [⟨10, .confirmed, some 45, 0⟩] := by decide
  obtain ⟨booked, first, observed⟩ := Option.bind_eq_some_iff.mp observed
  obtain ⟨finish, second, listed⟩ := Option.map_eq_some_iff.mp observed
  exact ⟨booked, finish, first, second, listed,
    my_journeys_run first second .vm1 7 oldestFirst newestFirst⟩

end

end Cluster

end TrafficService
