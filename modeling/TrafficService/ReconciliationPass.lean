import TrafficService.Reconciler

/-!
One reconciliation pass on arbitrary tables: which rows it touches, what it makes of them, and
that it leaves nothing for a second pass to do.
-/

namespace TrafficService

open Table

def BookingRows.inconsistent (now : DateTime) (rows : BookingRows) : Bool :=
  rows.booking.any fun booking =>
    booking.orphaned now ||
    (booking.confirmedLongAgo now && !rows.segments.any (·.status = .confirmed)) ||
    (!booking.status.active &&
      regionSchemas.any fun schema => (rows.regional schema).any (·.status ≠ .cancelled))

structure Repaired (now : DateTime) (db : Database) : Prop where
  decided : ∀ row ∈ db.bookings.rows, row.status = .sagaInProgress →
    now - orphanThreshold ≤ row.createdAt
  backed : ∀ row ∈ db.bookings.rows, row.status = .confirmed → row.createdAt < now - 2 * minute →
    ∃ segment ∈ db.segmentReservations, segment.bookingId = row.id ∧ segment.status = .confirmed
  released : ∀ row ∈ db.bookings.rows, row.status = .cancelled ∨ row.status = .rejected →
    ∀ schema, ∀ reservation ∈ db.reservations schema, reservation.bookingId = row.id →
      reservation.status = .cancelled

/-- Row by row, in place: rows of consistent bookings are as before, the others are at most
rejected or cancelled. -/
structure OnlyRepairs (now : DateTime) (before after : Database) : Prop where
  bookings : List.Forall₂ (fun row next => next = row ∨
      (before.rowsOf row.id).inconsistent now = true ∧
        (next = { row with status := .rejected } ∨ next = { row with status := .cancelled }))
    before.bookings.rows after.bookings.rows
  segments : List.Forall₂ (fun row next => next = row ∨
      (before.rowsOf row.bookingId).inconsistent now = true ∧
        next = { row with status := .cancelled })
    before.segmentReservations after.segmentReservations
  regional : ∀ schema, List.Forall₂ (fun row next => next = row ∨
      (before.rowsOf row.bookingId).inconsistent now = true ∧
        next = { row with status := .cancelled })
    (before.reservations schema) (after.reservations schema)

/-! ### One booking -/

section

variable {rows : BookingRows} {row : Booking} {now : DateTime}

theorem BookingRows.inconsistent_of_orphaned (found : rows.booking = some row)
    (orphaned : row.orphaned now = true) : rows.inconsistent now = true := by
  simp [BookingRows.inconsistent, found, orphaned]

theorem BookingRows.inconsistent_of_dangling (dangling : rows.dangling now = true) :
    rows.inconsistent now = true := by
  simp only [BookingRows.dangling, Bool.and_eq_true] at dangling
  obtain ⟨row, found, old⟩ := (Option.any_eq_true _ _).mp dangling.1
  simp only [BookingRows.inconsistent, found, Option.any_some, old, Bool.true_and, dangling.2,
    Bool.or_true, Bool.true_or]

theorem BookingRows.cancelRegional_eq_self
    (cancelled : ∀ schema, ∀ row ∈ rows.regional schema, row.status = .cancelled) :
    rows.cancelRegional = rows := by
  ext1
  · rfl
  · rfl
  · funext schema
    have unchanged : ∀ row ∈ rows.regional schema, { row with status := .cancelled } = row :=
      fun row member => Reservation.cancel_of_cancelled (cancelled schema row member)
    change cancelAll (rows.regional schema) = rows.regional schema
    rw [cancelAll, List.map_congr_left unchanged, List.map_id']

theorem BookingRows.cancelled_of_consistent (found : rows.booking = some row)
    (inactive : row.status.active = false) (consistent : rows.inconsistent now = false)
    (schema : RegionSchema) : ∀ reservation ∈ rows.regional schema,
      reservation.status = .cancelled := by
  intro reservation member
  by_contra uncancelled
  simp only [BookingRows.inconsistent, found, Option.any_some, inactive, Bool.or_eq_false_iff,
    Bool.not_false, Bool.true_and, List.any_eq_false] at consistent
  have listed : ∀ row ∈ rows.regional schema, row.status = .cancelled := by
    simpa using consistent.2 schema (mem_regionSchemas schema)
  exact uncancelled (listed reservation member)

/-- A pass leaves a consistent booking alone. -/
theorem BookingRows.reconcile_consistent (consistent : rows.inconsistent now = false) :
    rows.reconcile now = rows := by
  cases found : rows.booking with
  | none => exact BookingRows.reconcile_absent found
  | some row =>
      have young : row.orphaned now = false := by
        by_contra orphaned
        have selected := BookingRows.inconsistent_of_orphaned found (by simpa using orphaned)
        exact Bool.false_ne_true (consistent.symm.trans selected)
      have backed : rows.dangling now = false := by
        by_contra dangling
        have selected := BookingRows.inconsistent_of_dangling (by simpa using dangling)
        exact Bool.false_ne_true (consistent.symm.trans selected)
      have kept : rows.reconcileOrphan now = rows := by
        simp [BookingRows.reconcileOrphan, found, young]
      rw [BookingRows.reconcile, kept, BookingRows.reconcileDangling, backed,
        if_neg Bool.false_ne_true, BookingRows.reconcileLingering]
      split
      · rename_i inactive
        refine BookingRows.cancelRegional_eq_self fun schema => ?_
        refine BookingRows.cancelled_of_consistent found ?_ consistent schema
        simpa [BookingRows.cancelledOrRejected, found] using inactive
      · rfl

/-- What a pass makes of an inconsistent one. -/
theorem BookingRows.reconcile_inconsistent (inconsistent : rows.inconsistent now = true) :
    ∃ row, rows.booking = some row ∧
      (rows.reconcile now = rows.rejectOrphan ∨ rows.reconcile now = rows.cancelDangling ∨
        row.status.active = false ∧ rows.reconcile now = rows.cancelRegional) := by
  obtain ⟨row, found, selected⟩ := (Option.any_eq_true _ _).mp inconsistent
  refine ⟨row, found, ?_⟩
  simp only [Bool.or_eq_true] at selected
  rcases selected with (orphaned | dangling) | lingering
  · simp only [Booking.orphaned, Bool.and_eq_true, decide_eq_true_eq] at orphaned
    exact .inl (BookingRows.reconcile_inProgress found orphaned.1 orphaned.2)
  · refine .inr (.inl (BookingRows.reconcile_dangling found ?_))
    simpa [BookingRows.dangling, found] using dangling
  · simp only [Bool.and_eq_true, Bool.not_eq_true'] at lingering
    exact .inr (.inr ⟨lingering.1, BookingRows.reconcile_inactive found lingering.1⟩)

theorem BookingRows.consistent_reconcile (rows : BookingRows) :
    (rows.reconcile now).inconsistent now = false := by
  cases before : rows.inconsistent now with
  | false => rw [BookingRows.reconcile_consistent before, before]
  | true =>
      obtain ⟨row, found, rejected | cancelled | ⟨inactive, cleaned⟩⟩ :=
        BookingRows.reconcile_inconsistent before
      · rw [rejected]
        simp [BookingRows.inconsistent, BookingRows.rejectOrphan, BookingRows.setStatus,
          BookingRows.cancelSegments, BookingRows.cancelRegional, found, Booking.orphaned,
          Booking.confirmedLongAgo, cancelAll]
      · rw [cancelled]
        simp [BookingRows.inconsistent, BookingRows.cancelDangling, BookingRows.setStatus,
          BookingRows.cancelRegional, found, Booking.orphaned, Booking.confirmedLongAgo, cancelAll]
      · have undecided : row.status ≠ .sagaInProgress := by
          intro same
          simp [same, BookingStatus.active] at inactive
        have unconfirmed : row.status ≠ .confirmed := by
          intro same
          simp [same, BookingStatus.active] at inactive
        rw [cleaned]
        simp [BookingRows.inconsistent, BookingRows.cancelRegional, found, Booking.orphaned,
          Booking.confirmedLongAgo, cancelAll, undecided, unconfirmed]

end

/-! ### The fixed point -/

section

variable {db : Database} {now : DateTime}

theorem selectOrphans_of_consistent (consistent : ∀ id, (db.rowsOf id).inconsistent now = false) :
    selectOrphans db now = [] := by
  rw [selectOrphans, List.filter_eq_nil_iff]
  intro row member orphaned
  have selected := BookingRows.inconsistent_of_orphaned (Database.rowsOf_of_mem member) orphaned
  exact Bool.false_ne_true ((consistent row.id).symm.trans selected)

theorem selectDangling_of_consistent (consistent : ∀ id, (db.rowsOf id).inconsistent now = false) :
    selectDangling db now = [] := by
  rw [← List.map_eq_nil_iff (f := Booking.id), List.eq_nil_iff_forall_not_mem]
  intro id member
  have selected := BookingRows.inconsistent_of_dangling (mem_selectDangling.mp member)
  exact Bool.false_ne_true ((consistent id).symm.trans selected)

theorem selectLingering_of_consistent
    (consistent : ∀ id, (db.rowsOf id).inconsistent now = false) (schema : RegionSchema) :
    selectLingering db schema = [] := by
  rw [List.eq_nil_iff_forall_not_mem]
  intro id member
  obtain ⟨⟨row, present, uncancelled⟩, inactive⟩ := mem_selectLingering.mp member
  obtain ⟨booking, found, ended⟩ := (Option.any_eq_true _ _).mp inactive
  refine uncancelled (BookingRows.cancelled_of_consistent found ?_ (consistent id) schema row present)
  simpa using ended

theorem cleanLingering_of_consistent {events : List Event}
    (consistent : ∀ id, (db.rowsOf id).inconsistent now = false) (schemas : List RegionSchema) :
    schemas.foldl cleanLingering ⟨db, 0, events⟩ = ⟨db, 0, events⟩ := by
  induction schemas with
  | nil => rfl
  | cons schema rest ih =>
      have idle : cleanLingering ⟨db, 0, events⟩ schema = ⟨db, 0, events⟩ := by
        simp [cleanLingering, selectLingering_of_consistent consistent]
      rw [List.foldl_cons, idle, ih]

theorem runReconciliationOnce_of_consistent
    (consistent : ∀ id, (db.rowsOf id).inconsistent now = false) :
    runReconciliationOnce db now = ⟨db, 0, 0, []⟩ := by
  have undecided : reconcileOrphanedSagas db now = ⟨db, 0, []⟩ := by
    simp [reconcileOrphanedSagas, selectOrphans_of_consistent consistent]
  have unbacked : cancelDanglingConfirmed db now = ⟨db, 0, []⟩ := by
    simp [cancelDanglingConfirmed, selectDangling_of_consistent consistent]
  rw [runReconciliationOnce, undecided]
  simp only [reconcilePartitionInconsistencies, unbacked,
    cleanLingering_of_consistent consistent, List.append_nil]

theorem repaired_of_consistent (consistent : ∀ id, (db.rowsOf id).inconsistent now = false) :
    Repaired now db where
  decided := by
    intro row member status
    by_contra old
    have orphaned : row.orphaned now = true := by
      simp only [Booking.orphaned, status, decide_true, Bool.true_and, decide_eq_true_eq]
      exact Int.not_le.mp old
    have selected := BookingRows.inconsistent_of_orphaned (Database.rowsOf_of_mem member) orphaned
    exact Bool.false_ne_true ((consistent row.id).symm.trans selected)
  backed := by
    intro row member status old
    by_contra unbacked
    have dangling : (db.rowsOf row.id).dangling now = true := by
      simp only [BookingRows.dangling, Database.rowsOf_of_mem member, Option.any_some,
        Booking.confirmedLongAgo, status, old, decide_true, Bool.true_and, Bool.not_eq_true',
        List.any_eq_false, decide_eq_true_eq]
      intro segment present confirmed
      obtain ⟨stored, own⟩ := Database.mem_rowsOf_segments.mp present
      exact unbacked ⟨segment, stored, own, confirmed⟩
    have selected := BookingRows.inconsistent_of_dangling dangling
    exact Bool.false_ne_true ((consistent row.id).symm.trans selected)
  released := by
    intro row member ended schema reservation present own
    have inactive : row.status.active = false := by
      rcases ended with status | status <;> rw [status] <;> rfl
    refine BookingRows.cancelled_of_consistent (Database.rowsOf_of_mem member) inactive
      (consistent row.id) schema reservation ?_
    exact Database.mem_rowsOf_regional.mpr ⟨present, own⟩

/-- After a pass on any tables nothing is left to repair, and a second pass at the same time
is idle. -/
theorem reconciliation_reaches_fixed_point (db : Database) (now : DateTime) :
    Repaired now (runReconciliationOnce db now).db ∧
      runReconciliationOnce (runReconciliationOnce db now).db now =
        ⟨(runReconciliationOnce db now).db, 0, 0, []⟩ := by
  have consistent : ∀ id,
      ((runReconciliationOnce db now).db.rowsOf id).inconsistent now = false := by
    intro id
    rw [rowsOf_runReconciliationOnce]
    exact BookingRows.consistent_reconcile _
  exact ⟨repaired_of_consistent consistent, runReconciliationOnce_of_consistent consistent⟩

end

/-! ### Row by row -/

/-- The rows are the same, in the same order, up to the columns an `UPDATE` sets. -/
structure SameRows (db next : Database) : Prop where
  bookings : next.bookings.rows.map Booking.id = db.bookings.rows.map Booking.id
  segments : next.segmentReservations.map SegmentReservation.bookingId =
    db.segmentReservations.map SegmentReservation.bookingId
  regional : ∀ schema, (next.reservations schema).map Reservation.bookingId =
    (db.reservations schema).map Reservation.bookingId

namespace SameRows

variable {db next last : Database}

theorem refl (db : Database) : SameRows db db := ⟨rfl, rfl, fun _ => rfl⟩

theorem trans (first : SameRows db next) (second : SameRows next last) : SameRows db last where
  bookings := second.bookings.trans first.bookings
  segments := second.segments.trans first.segments
  regional := fun schema => (second.regional schema).trans (first.regional schema)

theorem foldl {Input : Type} {transaction : Database → Input → Database}
    (one : ∀ db input, SameRows db (transaction db input)) (inputs : List Input)
    (db : Database) : SameRows db (inputs.foldl transaction db) := by
  induction inputs generalizing db with
  | nil => exact refl db
  | cons input rest ih => exact (one db input).trans (ih (transaction db input))

theorem setBookingStatus (db : Database) (id : BookingId) (status : BookingStatus) :
    SameRows db (db.setBookingStatus id status) where
  bookings := map_updateWhere (by intro row; rfl) db.bookings.rows
  segments := rfl
  regional := fun _ => rfl

theorem updateSegmentReservations (db : Database) (condition : SegmentReservation → Bool)
    (status : BookingStatus) : SameRows db (db.updateSegmentReservations condition status) where
  bookings := rfl
  segments := map_updateWhere (by intro row; rfl) db.segmentReservations
  regional := fun _ => rfl

theorem updateReservations (db : Database) (schema : RegionSchema)
    (condition : Reservation → Bool) (status : BookingStatus) :
    SameRows db (db.updateReservations schema condition status) where
  bookings := rfl
  segments := rfl
  regional := by
    intro place
    by_cases here : place = schema
    · subst here
      simp only [Database.updateReservations, Function.update_self]
      exact map_updateWhere (by intro row; rfl) (db.reservations place)
    · simp [Database.updateReservations, here]

theorem cancelReservations (db : Database) (id : BookingId) :
    SameRows db (TrafficService.cancelReservations db id) :=
  foldl (fun db schema => updateReservations db schema _ .cancelled) regionSchemas db

theorem rejectOrphan (db : Database) (id : BookingId) :
    SameRows db (TrafficService.rejectOrphan db id) :=
  ((cancelReservations db id).trans (updateSegmentReservations _ _ .cancelled)).trans
    (setBookingStatus _ id .rejected)

theorem cancelDangling (db : Database) (id : BookingId) :
    SameRows db (TrafficService.cancelDangling db id) :=
  (cancelReservations db id).trans (setBookingStatus _ id .cancelled)

theorem cleanLingering (schemas : List RegionSchema) (pass : Reconciled) :
    SameRows pass.db (schemas.foldl TrafficService.cleanLingering pass).db := by
  induction schemas generalizing pass with
  | nil => exact refl pass.db
  | cons schema rest ih =>
      have one : SameRows pass.db (TrafficService.cleanLingering pass schema).db :=
        foldl (fun db id => updateReservations db schema _ .cancelled) _ pass.db
      exact one.trans (ih _)

theorem reconcileOrphanedSagas (db : Database) (now : DateTime) :
    SameRows db (TrafficService.reconcileOrphanedSagas db now).db := by
  have one (db : Database) (row : Booking) : SameRows db (TrafficService.rejectOrphan db row.id) :=
    rejectOrphan db row.id
  exact foldl one (selectOrphans db now) db

theorem reconcilePartitionInconsistencies (db : Database) (now : DateTime) :
    SameRows db (TrafficService.reconcilePartitionInconsistencies db now).db := by
  have one (db : Database) (row : Booking) : SameRows db (TrafficService.cancelDangling db row.id) :=
    cancelDangling db row.id
  have dangling : SameRows db (cancelDanglingConfirmed db now).db :=
    foldl one (selectDangling db now) db
  exact dangling.trans (cleanLingering regionSchemas (cancelDanglingConfirmed db now))

theorem runReconciliationOnce (db : Database) (now : DateTime) :
    SameRows db (TrafficService.runReconciliationOnce db now).db := by
  have orphans := reconcileOrphanedSagas db now
  have partitions := reconcilePartitionInconsistencies
    (TrafficService.reconcileOrphanedSagas db now).db now
  simp only [TrafficService.runReconciliationOnce]
  exact orphans.trans partitions

end SameRows

section

variable {rows : BookingRows} {now : DateTime} {id : BookingId}

theorem BookingRows.booking_reconcile (ofId : ∀ row ∈ rows.booking, row.id = id) :
    List.Forall₂ (fun row next => next = row ∨ row.id = id ∧ rows.inconsistent now = true ∧
        (next = { row with status := .rejected } ∨ next = { row with status := .cancelled }))
      rows.booking.toList (rows.reconcile now).booking.toList := by
  cases consistent : rows.inconsistent now with
  | false =>
      rw [BookingRows.reconcile_consistent consistent, List.forall₂_same]
      exact fun row _ => .inl rfl
  | true =>
      obtain ⟨row, found, changed⟩ := BookingRows.reconcile_inconsistent consistent
      have own : row.id = id := ofId row found
      rcases changed with rejected | cancelled | ⟨_, cleaned⟩
      · rw [rejected]
        simp [BookingRows.rejectOrphan, BookingRows.setStatus, BookingRows.cancelSegments,
          BookingRows.cancelRegional, found, own]
      · rw [cancelled]
        simp [BookingRows.cancelDangling, BookingRows.setStatus, BookingRows.cancelRegional, found,
          own]
      · rw [cleaned]
        simp [BookingRows.cancelRegional, found]

theorem BookingRows.segments_reconcile (ofId : ∀ row ∈ rows.segments, row.bookingId = id) :
    List.Forall₂ (fun row next => next = row ∨ row.bookingId = id ∧ rows.inconsistent now = true ∧
        next = { row with status := .cancelled })
      rows.segments (rows.reconcile now).segments := by
  cases consistent : rows.inconsistent now with
  | false =>
      rw [BookingRows.reconcile_consistent consistent, List.forall₂_same]
      exact fun row _ => .inl rfl
  | true =>
      obtain ⟨row, _, rejected | cancelled | ⟨_, cleaned⟩⟩ :=
        BookingRows.reconcile_inconsistent consistent
      · rw [rejected]
        refine List.forall₂_map_right_iff.mpr (List.forall₂_same.mpr ?_)
        exact fun row member => .inr ⟨ofId row member, rfl, rfl⟩
      · rw [cancelled]
        exact List.forall₂_same.mpr fun row _ => .inl rfl
      · rw [cleaned]
        exact List.forall₂_same.mpr fun row _ => .inl rfl

theorem BookingRows.regional_reconcile {schema : RegionSchema}
    (ofId : ∀ row ∈ rows.regional schema, row.bookingId = id) :
    List.Forall₂ (fun row next => next = row ∨ row.bookingId = id ∧ rows.inconsistent now = true ∧
        next = { row with status := .cancelled })
      (rows.regional schema) ((rows.reconcile now).regional schema) := by
  cases consistent : rows.inconsistent now with
  | false =>
      rw [BookingRows.reconcile_consistent consistent, List.forall₂_same]
      exact fun row _ => .inl rfl
  | true =>
      have cancelled : (rows.reconcile now).regional schema = cancelAll (rows.regional schema) := by
        obtain ⟨row, _, rejected | cancelled | ⟨_, cleaned⟩⟩ :=
          BookingRows.reconcile_inconsistent consistent
        · rw [rejected]
          rfl
        · rw [cancelled]
          rfl
        · rw [cleaned]
          rfl
      rw [cancelled]
      refine List.forall₂_map_right_iff.mpr (List.forall₂_same.mpr ?_)
      exact fun row member => .inr ⟨ofId row member, rfl, rfl⟩

end

theorem OnlyRepairs.of_rowsOf {now : DateTime} {before after : Database}
    (same : SameRows before after)
    (rows : ∀ id, after.rowsOf id = (before.rowsOf id).reconcile now) :
    OnlyRepairs now before after where
  bookings := by
    refine forall₂_of_filter same.bookings.symm fun id => ?_
    have reconciled : after.bookings.find? id = ((before.rowsOf id).reconcile now).booking :=
      congrArg BookingRows.booking (rows id)
    have ofId : ∀ row ∈ (before.rowsOf id).booking, row.id = id :=
      fun row found => (Database.mem_of_rowsOf found).2
    rw [KeyedTable.filter_key, KeyedTable.filter_key, reconciled]
    refine (BookingRows.booking_reconcile ofId).imp ?_
    rintro row next (kept | ⟨rfl, selected, changed⟩)
    · exact .inl kept
    · exact .inr ⟨selected, changed⟩
  segments := by
    refine forall₂_of_filter same.segments.symm fun id => ?_
    have reconciled : after.segmentReservations.filter (fun row => row.bookingId = id) =
        ((before.rowsOf id).reconcile now).segments := congrArg BookingRows.segments (rows id)
    have ofId : ∀ row ∈ (before.rowsOf id).segments, row.bookingId = id :=
      fun row member => (Database.mem_rowsOf_segments.mp member).2
    rw [reconciled]
    refine (BookingRows.segments_reconcile ofId).imp ?_
    rintro row next (kept | ⟨rfl, selected, changed⟩)
    · exact .inl kept
    · exact .inr ⟨selected, changed⟩
  regional := by
    intro schema
    refine forall₂_of_filter (same.regional schema).symm fun id => ?_
    have reconciled : (after.reservations schema).filter (fun row => row.bookingId = id) =
        ((before.rowsOf id).reconcile now).regional schema :=
      congrArg (fun rows => rows.regional schema) (rows id)
    have ofId : ∀ row ∈ (before.rowsOf id).regional schema, row.bookingId = id :=
      fun row member => (Database.mem_rowsOf_regional.mp member).2
    rw [reconciled]
    refine (BookingRows.regional_reconcile ofId).imp ?_
    rintro row next (kept | ⟨rfl, selected, changed⟩)
    · exact .inl kept
    · exact .inr ⟨selected, changed⟩

theorem OnlyRepairs.bookedCount_le {now : DateTime} {before after : Database}
    (repairs : OnlyRepairs now before after) (schema : RegionSchema) (segmentId : SegmentId)
    (slot : DateTime) :
    bookedCount after schema segmentId slot ≤ bookedCount before schema segmentId slot := by
  refine countP_le_of_forall₂ (repairs.regional schema) ?_
  rintro row next (rfl | ⟨_, rfl⟩) counted
  · exact counted
  · rw [Reservation.occupies_cancelled] at counted
    exact absurd counted Bool.false_ne_true

structure NothingConfirmed (before after : Database) : Prop where
  bookings : List.Forall₂ (fun row next => next.status = .confirmed → next = row)
    before.bookings.rows after.bookings.rows
  segments : List.Forall₂ (fun row next => next.status = .confirmed → next = row)
    before.segmentReservations after.segmentReservations
  regional : ∀ schema, List.Forall₂ (fun row next => next.status = .confirmed → next = row)
    (before.reservations schema) (after.reservations schema)

theorem OnlyRepairs.nothingConfirmed {now : DateTime} {before after : Database}
    (repairs : OnlyRepairs now before after) : NothingConfirmed before after where
  bookings := by
    refine repairs.bookings.imp ?_
    rintro row next (same | ⟨_, rfl | rfl⟩) confirmed
    · exact same
    · cases confirmed
    · cases confirmed
  segments := by
    refine repairs.segments.imp ?_
    rintro row next (same | ⟨_, rfl⟩) confirmed
    · exact same
    · cases confirmed
  regional := by
    intro schema
    refine (repairs.regional schema).imp ?_
    rintro row next (same | ⟨_, rfl⟩) confirmed
    · exact same
    · cases confirmed

/-- A pass changes the rows of inconsistent bookings alone, in place, confirms none and never
raises a capacity count. -/
theorem reconciliation_only_repairs (db : Database) (now : DateTime) :
    OnlyRepairs now db (runReconciliationOnce db now).db ∧
      (∀ id, (db.rowsOf id).inconsistent now = false →
        (runReconciliationOnce db now).db.rowsOf id = db.rowsOf id) ∧
      NothingConfirmed db (runReconciliationOnce db now).db ∧
      ∀ schema segmentId slot, bookedCount (runReconciliationOnce db now).db schema segmentId slot ≤
        bookedCount db schema segmentId slot := by
  have repairs : OnlyRepairs now db (runReconciliationOnce db now).db :=
    .of_rowsOf (SameRows.runReconciliationOnce db now) (rowsOf_runReconciliationOnce db now)
  refine ⟨repairs, fun id consistent => ?_, repairs.nothingConfirmed, repairs.bookedCount_le⟩
  rw [rowsOf_runReconciliationOnce, BookingRows.reconcile_consistent consistent]

end TrafficService
