import TrafficService.ReconciliationPass

/-!
Whether a booking that survives a pass has road capacity behind it. Case A asks the mirror in
`public.segment_reservations`; the capacity is in the regional tables.
-/

namespace TrafficService

def BookingRows.hasCapacity (rows : BookingRows) : Prop :=
  ∃ schema, ∃ reservation ∈ rows.regional schema, reservation.status = .confirmed

def HasCapacity (db : Database) (id : BookingId) : Prop :=
  ∃ schema, ∃ reservation ∈ db.reservations schema,
    reservation.bookingId = id ∧ reservation.status = .confirmed

/-- Every booking confirmed more than two minutes ago has capacity. -/
def Backed (now : DateTime) (db : Database) : Prop :=
  ∀ row ∈ db.bookings.rows, row.status = .confirmed → row.createdAt < now - 2 * minute →
    HasCapacity db row.id

def Mirrored (now : DateTime) (db : Database) : Prop :=
  ∀ row ∈ db.bookings.rows, row.status = .confirmed → row.createdAt < now - 2 * minute →
    (∃ segment ∈ db.segmentReservations, segment.bookingId = row.id ∧
      segment.status = .confirmed) → HasCapacity db row.id

section

variable {db : Database} {now : DateTime} {rows : BookingRows} {row : Booking} {id : BookingId}

theorem hasCapacity_rowsOf : (db.rowsOf id).hasCapacity ↔ HasCapacity db id := by
  simp only [BookingRows.hasCapacity, HasCapacity, Database.mem_rowsOf_regional, and_assoc]

theorem BookingRows.dangling_iff (found : rows.booking = some row)
    (status : row.status = .confirmed) (old : row.createdAt < now - 2 * minute) :
    rows.dangling now = false ↔ ∃ segment ∈ rows.segments, segment.status = .confirmed := by
  simp [BookingRows.dangling, found, Booking.confirmedLongAgo, status, old]

/-- A pass does not touch what is confirmed after it. -/
theorem BookingRows.reconcile_survivor (survives : (rows.reconcile now).booking = some row)
    (status : row.status = .confirmed) : rows.reconcile now = rows := by
  cases consistent : rows.inconsistent now with
  | false => exact BookingRows.reconcile_consistent consistent
  | true =>
      obtain ⟨before, found, changed⟩ := BookingRows.reconcile_inconsistent consistent
      exfalso
      rcases changed with rejected | cancelled | ⟨inactive, cleaned⟩
      · rw [rejected] at survives
        simp only [BookingRows.rejectOrphan, BookingRows.setStatus, BookingRows.cancelSegments,
          BookingRows.cancelRegional, found, Option.map_some, Option.some.injEq] at survives
        subst survives
        cases status
      · rw [cancelled] at survives
        simp only [BookingRows.cancelDangling, BookingRows.setStatus, BookingRows.cancelRegional,
          found, Option.map_some, Option.some.injEq] at survives
        subst survives
        cases status
      · rw [cleaned] at survives
        simp only [BookingRows.cancelRegional, found, Option.some.injEq] at survives
        subst survives
        rw [status] at inactive
        cases inactive

/-- What survives a pass is what the mirror vouched for, with its regional rows as they were. -/
theorem survivor_iff (status : row.status = .confirmed) (old : row.createdAt < now - 2 * minute) :
    row ∈ (runReconciliationOnce db now).db.bookings.rows ↔ row ∈ db.bookings.rows ∧
      ∃ segment ∈ db.segmentReservations, segment.bookingId = row.id ∧
        segment.status = .confirmed := by
  have vouched (found : (db.rowsOf row.id).booking = some row) :
      (db.rowsOf row.id).dangling now = false ↔ ∃ segment ∈ db.segmentReservations,
        segment.bookingId = row.id ∧ segment.status = .confirmed := by
    rw [BookingRows.dangling_iff found status old]
    simp only [Database.mem_rowsOf_segments, and_assoc]
  constructor
  · intro member
    have survives := Database.rowsOf_of_mem member
    rw [rowsOf_runReconciliationOnce] at survives
    have kept := BookingRows.reconcile_survivor survives status
    rw [kept] at survives
    refine ⟨(Database.mem_of_rowsOf survives).1, (vouched survives).mp ?_⟩
    by_contra dangling
    have cancelled := BookingRows.reconcile_dangling survives (by simpa using dangling)
    have same := congrArg BookingRows.booking (kept.symm.trans cancelled)
    simp only [BookingRows.cancelDangling, BookingRows.setStatus, BookingRows.cancelRegional,
      survives, Option.map_some, Option.some.injEq] at same
    rw [same] at status
    cases status
  · rintro ⟨member, mirrored⟩
    have found := Database.rowsOf_of_mem member
    have kept := BookingRows.reconcile_confirmed found status ((vouched found).mpr mirrored)
    have after : ((runReconciliationOnce db now).db.rowsOf row.id).booking = some row := by
      rw [rowsOf_runReconciliationOnce, kept, found]
    exact (Database.mem_of_rowsOf after).1

theorem capacity_survivor (status : row.status = .confirmed)
    (member : row ∈ (runReconciliationOnce db now).db.bookings.rows) :
    HasCapacity (runReconciliationOnce db now).db row.id ↔ HasCapacity db row.id := by
  have survives := Database.rowsOf_of_mem member
  rw [rowsOf_runReconciliationOnce] at survives
  rw [← hasCapacity_rowsOf, ← hasCapacity_rowsOf, rowsOf_runReconciliationOnce,
    BookingRows.reconcile_survivor survives status]

end

/-- After a pass the survivors have capacity exactly if, before it, no booking had a confirmed
row in the mirror and none in the regional tables. -/
theorem backed_iff_mirrored (db : Database) (now : DateTime) :
    Backed now (runReconciliationOnce db now).db ↔ Mirrored now db := by
  constructor
  · intro backed row member status old mirrored
    have survives := (survivor_iff status old).mpr ⟨member, mirrored⟩
    exact (capacity_survivor status survives).mp (backed row survives status old)
  · intro mirrored row member status old
    obtain ⟨before, vouched⟩ := (survivor_iff status old).mp member
    exact (capacity_survivor status member).mpr (mirrored row before status old vouched)

def halfLost : Database where
  bookings := ⟨[⟨10, 7, none, 7200 * second, .confirmed, some 45, 0⟩], by decide⟩
  segmentReservations := [⟨10, 1, .euWestIreland, 2 * hour, 3 * hour, .confirmed⟩]
  reservations := fun _ => []
  maxCapacityPerSlot := fun _ _ => some 100
  users := fun _ => none

theorem not_backed_halfLost :
    ¬ Backed (10 * minute) (runReconciliationOnce halfLost (10 * minute)).db := by
  intro backed
  have survives : ⟨10, 7, none, 7200 * second, .confirmed, some 45, 0⟩ ∈
      (runReconciliationOnce halfLost (10 * minute)).db.bookings.rows :=
    (survivor_iff rfl (by decide)).mpr
      ⟨by decide, _, List.mem_singleton.mpr rfl, rfl, rfl⟩
  obtain ⟨_, _, member, _⟩ := (capacity_survivor rfl survives).mp (backed _ survives rfl (by decide))
  cases member

end TrafficService
