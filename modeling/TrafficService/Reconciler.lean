import TrafficService.Transactions
import TrafficService.Events
import Mathlib.Data.List.Dedup

/-! `reconciler.py`, one pass without interference, and what it does to one booking. -/

namespace TrafficService

open Table

def orphanThreshold : Int := 60 * second

def Booking.orphaned (now : DateTime) (row : Booking) : Bool :=
  row.status = .sagaInProgress && row.createdAt < now - orphanThreshold

def Booking.confirmedLongAgo (now : DateTime) (row : Booking) : Bool :=
  row.status = .confirmed && row.createdAt < now - 2 * minute

def selectOrphans (db : Database) (now : DateTime) : List Booking :=
  db.bookings.rows.filter fun row => row.orphaned now

def hasConfirmedSegment (db : Database) (id : BookingId) : Bool :=
  db.segmentReservations.any fun row => row.bookingId = id && row.status = .confirmed

def selectDangling (db : Database) (now : DateTime) : List Booking :=
  db.bookings.rows.filter fun row =>
    row.confirmedLongAgo now && !hasConfirmedSegment db row.id

def selectLingering (db : Database) (schema : RegionSchema) : List BookingId :=
  (((db.reservations schema).filter fun row =>
    row.status ≠ .cancelled &&
      (db.bookings.find? row.bookingId).any fun booking => !booking.status.active).map
    (·.bookingId)).dedup

structure Reconciled where
  db : Database
  corrections : Nat
  events : List Event

def reconcileOrphanedSagas (db : Database) (now : DateTime) : Reconciled :=
  let orphans := selectOrphans db now
  { db := orphans.foldl (fun db row => rejectOrphan db row.id) db
    corrections := orphans.length
    events := orphans.map fun row => .bookingFailed row.id row.driverId row.plateNumber }

def cancelDanglingConfirmed (db : Database) (now : DateTime) : Reconciled :=
  let dangling := selectDangling db now
  { db := dangling.foldl (fun db row => cancelDangling db row.id) db
    corrections := dangling.length
    events := dangling.map fun row => .bookingCancelled row.id row.driverId row.plateNumber none }

def cleanLingering (pass : Reconciled) (schema : RegionSchema) : Reconciled :=
  let lingering := selectLingering pass.db schema
  { pass with
    db := lingering.foldl (fun db id => cancelLingering db schema id) pass.db
    corrections := pass.corrections + lingering.length }

def reconcilePartitionInconsistencies (db : Database) (now : DateTime) : Reconciled :=
  regionSchemas.foldl cleanLingering (cancelDanglingConfirmed db now)

structure ReconciliationReport where
  db : Database
  orphanedSagasFixed : Nat
  partitionInconsistenciesFixed : Nat
  events : List Event

def runReconciliationOnce (db : Database) (now : DateTime) : ReconciliationReport :=
  let orphans := reconcileOrphanedSagas db now
  let partitions := reconcilePartitionInconsistencies orphans.db now
  { db := partitions.db
    orphanedSagasFixed := orphans.corrections
    partitionInconsistenciesFixed := partitions.corrections
    events := orphans.events ++ partitions.events }

/-! ### One booking's rows -/

def BookingRows.dangling (now : DateTime) (rows : BookingRows) : Bool :=
  rows.booking.any (·.confirmedLongAgo now) && !rows.segments.any (·.status = .confirmed)

def BookingRows.cancelledOrRejected (rows : BookingRows) : Bool :=
  rows.booking.any fun row => !row.status.active

def BookingRows.reconcileOrphan (now : DateTime) (rows : BookingRows) : BookingRows :=
  if rows.booking.any (·.orphaned now) then rows.rejectOrphan else rows

def BookingRows.reconcileDangling (now : DateTime) (rows : BookingRows) : BookingRows :=
  if rows.dangling now then rows.cancelDangling else rows

def BookingRows.reconcileLingering (rows : BookingRows) : BookingRows :=
  if rows.cancelledOrRejected then rows.cancelRegional else rows

def BookingRows.reconcile (now : DateTime) (rows : BookingRows) : BookingRows :=
  ((rows.reconcileOrphan now).reconcileDangling now).reconcileLingering

theorem hasConfirmedSegment_eq (db : Database) (id : BookingId) :
    hasConfirmedSegment db id = (db.rowsOf id).segments.any (·.status = .confirmed) := by
  simp [hasConfirmedSegment, Database.rowsOf, List.any_filter]

theorem rowsOf_foldl (transaction : Database → BookingId → Database)
    (change : BookingRows → BookingRows)
    (one : ∀ db id other, (transaction db id).rowsOf other =
      if other = id then change (db.rowsOf other) else db.rowsOf other)
    (ids : List BookingId) (distinct : ids.Nodup) (db : Database) (other : BookingId) :
    (ids.foldl transaction db).rowsOf other =
      if other ∈ ids then change (db.rowsOf other) else db.rowsOf other := by
  induction ids generalizing db with
  | nil => simp
  | cons id rest ih =>
      rw [List.nodup_cons] at distinct
      rw [List.foldl_cons, ih distinct.2, one]
      by_cases same : other = id
      · subst same
        simp [distinct.1]
      · simp [same]

theorem mem_map_id_filter {db : Database} {id : BookingId} {test : Booking → Bool} :
    id ∈ (db.bookings.rows.filter test).map Booking.id ↔ (db.rowsOf id).booking.any test = true := by
  simp only [Database.rowsOf, Option.any_eq_true, List.mem_map, List.mem_filter]
  constructor
  · rintro ⟨row, ⟨member, selected⟩, rfl⟩
    exact ⟨row, KeyedTable.find?_of_mem member, selected⟩
  · rintro ⟨row, found, selected⟩
    exact ⟨row, ⟨KeyedTable.mem_of_find? found, selected⟩, KeyedTable.key_of_find? found⟩

theorem nodup_map_id_filter (db : Database) (test : Booking → Bool) :
    ((db.bookings.rows.filter test).map Booking.id).Nodup :=
  db.bookings.unique.sublist (List.filter_sublist.map _)

theorem rowsOf_reconcileOrphanedSagas (db : Database) (now : DateTime) (id : BookingId) :
    (reconcileOrphanedSagas db now).db.rowsOf id = (db.rowsOf id).reconcileOrphan now := by
  have folded := rowsOf_foldl rejectOrphan BookingRows.rejectOrphan rowsOf_rejectOrphan
    ((selectOrphans db now).map Booking.id)
    (nodup_map_id_filter db _) db id
  rw [List.foldl_map] at folded
  rw [reconcileOrphanedSagas, folded, BookingRows.reconcileOrphan]
  simp only [selectOrphans, mem_map_id_filter]

theorem mem_selectDangling {db : Database} {now : DateTime} {id : BookingId} :
    id ∈ (selectDangling db now).map Booking.id ↔ (db.rowsOf id).dangling now = true := by
  rw [selectDangling, mem_map_id_filter, BookingRows.dangling, ← hasConfirmedSegment_eq]
  cases found : (db.rowsOf id).booking with
  | none => simp
  | some row =>
      have ofId : row.id = id := KeyedTable.key_of_find? found
      simp [ofId]

theorem rowsOf_cancelDanglingConfirmed (db : Database) (now : DateTime) (id : BookingId) :
    (cancelDanglingConfirmed db now).db.rowsOf id = (db.rowsOf id).reconcileDangling now := by
  have folded := rowsOf_foldl cancelDangling BookingRows.cancelDangling rowsOf_cancelDangling
    ((selectDangling db now).map Booking.id)
    (nodup_map_id_filter db _) db id
  rw [List.foldl_map] at folded
  rw [cancelDanglingConfirmed, folded, BookingRows.reconcileDangling]
  simp only [mem_selectDangling]

theorem mem_selectLingering {db : Database} {schema : RegionSchema} {id : BookingId} :
    id ∈ selectLingering db schema ↔
      (∃ row ∈ (db.rowsOf id).regional schema, row.status ≠ .cancelled) ∧
        (db.rowsOf id).cancelledOrRejected = true := by
  simp only [selectLingering, List.mem_dedup, List.mem_map, List.mem_filter, Bool.and_eq_true,
    decide_eq_true_eq, BookingRows.cancelledOrRejected, Database.rowsOf]
  constructor
  · rintro ⟨row, ⟨member, uncancelled, inactive⟩, rfl⟩
    exact ⟨⟨row, ⟨member, rfl⟩, uncancelled⟩, inactive⟩
  · rintro ⟨⟨row, ⟨member, rfl⟩, uncancelled⟩, inactive⟩
    exact ⟨row, ⟨member, uncancelled, inactive⟩, rfl⟩

theorem rowsOf_cleanLingering (pass : Reconciled) (schema : RegionSchema) (id : BookingId) :
    (cleanLingering pass schema).db.rowsOf id =
      if (pass.db.rowsOf id).cancelledOrRejected then (pass.db.rowsOf id).cancelIn schema
      else pass.db.rowsOf id := by
  have folded := rowsOf_foldl (fun db id => cancelLingering db schema id)
    (fun rows => rows.cancelIn schema) (fun db id other => rowsOf_cancelLingering db id other schema)
    (selectLingering pass.db schema) (List.nodup_dedup _) pass.db id
  rw [cleanLingering, folded]
  simp only [mem_selectLingering]
  by_cases inactive : (pass.db.rowsOf id).cancelledOrRejected = true
  · by_cases lingers : ∃ row ∈ (pass.db.rowsOf id).regional schema, row.status ≠ .cancelled
    · simp [inactive, lingers]
    · have cancelled : ∀ row ∈ (pass.db.rowsOf id).regional schema, row.status = .cancelled := by
        intro row member
        by_contra uncancelled
        exact lingers ⟨row, member, uncancelled⟩
      rw [BookingRows.cancelIn_eq_self cancelled]
      simp
  · simp [inactive]

theorem rowsOf_foldl_cleanLingering (schemas : List RegionSchema) (pass : Reconciled)
    (id : BookingId) :
    (schemas.foldl cleanLingering pass).db.rowsOf id =
      if (pass.db.rowsOf id).cancelledOrRejected then
        schemas.foldl (fun rows schema => rows.cancelIn schema) (pass.db.rowsOf id)
      else pass.db.rowsOf id := by
  induction schemas generalizing pass with
  | nil => simp
  | cons schema rest ih =>
      rw [List.foldl_cons, ih, rowsOf_cleanLingering]
      by_cases inactive : (pass.db.rowsOf id).cancelledOrRejected = true
      · have still : ((pass.db.rowsOf id).cancelIn schema).cancelledOrRejected = true := inactive
        simp [inactive, still]
      · simp [inactive]

theorem rowsOf_reconcilePartitionInconsistencies (db : Database) (now : DateTime)
    (id : BookingId) :
    (reconcilePartitionInconsistencies db now).db.rowsOf id =
      ((db.rowsOf id).reconcileDangling now).reconcileLingering := by
  rw [reconcilePartitionInconsistencies, rowsOf_foldl_cleanLingering,
    rowsOf_cancelDanglingConfirmed, cancelIn_all, BookingRows.reconcileLingering]

theorem rowsOf_runReconciliationOnce (db : Database) (now : DateTime) (id : BookingId) :
    (runReconciliationOnce db now).db.rowsOf id = (db.rowsOf id).reconcile now := by
  rw [runReconciliationOnce, rowsOf_reconcilePartitionInconsistencies,
    rowsOf_reconcileOrphanedSagas, BookingRows.reconcile]

/-! ### By status -/

section

variable {rows : BookingRows} {row : Booking} {now : DateTime}

theorem BookingRows.cancelRegional_idem (rows : BookingRows) :
    rows.cancelRegional.cancelRegional = rows.cancelRegional := by
  simp [BookingRows.cancelRegional, cancelAll, Function.comp_def]

/-- A pass leaves the rows of bookings made on the other VM alone. -/
theorem BookingRows.reconcile_absent (absent : rows.booking = Option.none) :
    rows.reconcile now = rows := by
  simp [BookingRows.reconcile, BookingRows.reconcileOrphan, BookingRows.reconcileDangling,
    BookingRows.reconcileLingering, BookingRows.dangling, BookingRows.cancelledOrRejected, absent]

theorem BookingRows.reconcile_inProgress (found : rows.booking = some row)
    (status : row.status = .sagaInProgress) (old : row.createdAt < now - orphanThreshold) :
    rows.reconcile now = rows.rejectOrphan := by
  have orphaned : rows.booking.any (·.orphaned now) = true := by
    simp [found, Booking.orphaned, status, old]
  have rejected : rows.rejectOrphan.booking = some { row with status := .rejected } := by
    simp [BookingRows.rejectOrphan, BookingRows.setStatus, BookingRows.cancelSegments,
      BookingRows.cancelRegional, found]
  have kept : rows.rejectOrphan.dangling now = false := by
    simp [BookingRows.dangling, rejected, Booking.confirmedLongAgo]
  have inactive : rows.rejectOrphan.cancelledOrRejected = true := by
    simp [BookingRows.cancelledOrRejected, rejected, BookingStatus.active]
  rw [BookingRows.reconcile, BookingRows.reconcileOrphan, if_pos orphaned,
    BookingRows.reconcileDangling, kept, if_neg Bool.false_ne_true,
    BookingRows.reconcileLingering, if_pos inactive]
  exact congrArg (fun rows => rows.cancelSegments.setStatus .rejected) rows.cancelRegional_idem

theorem BookingRows.reconcileOrphan_decided (found : rows.booking = some row)
    (status : row.status ≠ .sagaInProgress) : rows.reconcileOrphan now = rows := by
  simp [BookingRows.reconcileOrphan, found, Booking.orphaned, status]

theorem BookingRows.reconcile_dangling (found : rows.booking = some row)
    (dangling : rows.dangling now = true) : rows.reconcile now = rows.cancelDangling := by
  have status : row.status = .confirmed := by
    simp only [BookingRows.dangling, found, Option.any_some, Booking.confirmedLongAgo,
      Bool.and_eq_true, decide_eq_true_eq] at dangling
    exact dangling.1.1
  have inactive : rows.cancelDangling.cancelledOrRejected = true := by
    simp [BookingRows.cancelDangling, BookingRows.cancelledOrRejected, BookingRows.setStatus,
      BookingRows.cancelRegional, found, BookingStatus.active]
  rw [BookingRows.reconcile, reconcileOrphan_decided found (by simp [status]),
    BookingRows.reconcileDangling, if_pos dangling, BookingRows.reconcileLingering,
    if_pos inactive]
  exact congrArg (fun rows => rows.setStatus .cancelled) rows.cancelRegional_idem

theorem BookingRows.reconcile_confirmed (found : rows.booking = some row)
    (status : row.status = .confirmed) (kept : rows.dangling now = false) :
    rows.reconcile now = rows := by
  have active : rows.cancelledOrRejected = false := by
    simp [BookingRows.cancelledOrRejected, found, status, BookingStatus.active]
  rw [BookingRows.reconcile, reconcileOrphan_decided found (by simp [status]),
    BookingRows.reconcileDangling, kept, if_neg Bool.false_ne_true,
    BookingRows.reconcileLingering, active, if_neg Bool.false_ne_true]

theorem BookingRows.reconcile_inactive (found : rows.booking = some row)
    (inactive : row.status.active = false) : rows.reconcile now = rows.cancelRegional := by
  have undecided : row.status ≠ .sagaInProgress := by
    intro same
    simp [same, BookingStatus.active] at inactive
  have kept : rows.dangling now = false := by
    have unconfirmed : row.status ≠ .confirmed := by
      intro same
      simp [same, BookingStatus.active] at inactive
    simp [BookingRows.dangling, found, Booking.confirmedLongAgo, unconfirmed]
  have listed : rows.cancelledOrRejected = true := by
    simp [BookingRows.cancelledOrRejected, found, inactive]
  rw [BookingRows.reconcile, reconcileOrphan_decided found undecided,
    BookingRows.reconcileDangling, kept, if_neg Bool.false_ne_true,
    BookingRows.reconcileLingering, if_pos listed]

theorem BookingRows.status_cancelRegional {schema : RegionSchema} {row : Reservation}
    (member : row ∈ rows.cancelRegional.regional schema) : row.status = .cancelled := by
  obtain ⟨before, _, rfl⟩ := List.mem_map.mp member
  rfl

end

end TrafficService
