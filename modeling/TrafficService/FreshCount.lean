import TrafficService.NoOverbooking
import TrafficService.Lib.RowPositions

/-!
What the capacity count misses of the reservations committed before its run took the lock. A
peer request opens its snapshot under the lock, a saga long before.
-/

namespace TrafficService.ReservationRuns

open Table

def occupied (db : Database) (segment : RouteSegment) : Finset Nat :=
  positions (fun row => row.occupies segment.segmentId segment.slotStart)
    (db.reservations segment.schema)

def Pc.ahead : Pc → List RouteSegment
  | .loop todo => todo
  | .locked _ rest | .admitted _ rest | .inserted _ rest => rest
  | _ => []

def committedBy (state : State) : Action → List RouteSegment
  | .proceed id => (state.runs id).elim [] fun run =>
      match run.kind, run.pc with
      | _, .loop [] | .peerReserve, .inserted _ _ => ownWrites id state.uncommitted
      | _, _ => []
  | .commitThenRaise id => ownWrites id state.uncommitted
  | _ => []

def awaits (state : State) (id : RunId) (segment : RouteSegment) : Bool :=
  (state.runs id).any fun run => run.snapshot.isSome && segment ∈ run.pc.ahead

/-- No reservation of the slot is committed between the snapshot of the run and its lock. -/
def leavesSnapshotFresh (id : RunId) (segment : RouteSegment) (state : State) (action : Action) :
    Bool :=
  !(awaits state id segment && (committedBy state action).any fun write =>
    write.occupies segment.schema segment.segmentId segment.slotStart)

/-! ### The tables -/

section

variable {db : Database} {segment : RouteSegment} {index : Nat}

theorem bookedCount_eq_card (db : Database) (segment : RouteSegment) :
    bookedCount db segment.schema segment.segmentId segment.slotStart = (occupied db segment).card :=
  (card_positions _ _).symm

theorem reservations_writeSegment (run : Run) (db : Database) (write : RouteSegment) :
    (writeSegment run db write).reservations =
      Function.update db.reservations write.schema
        (db.reservations write.schema ++ [write.reservation run.bookingId run.driverId]) := by
  simp only [writeSegment]
  split <;> rfl

theorem occupied_writeSegment (run : Run) (write : RouteSegment)
    (member : index ∈ occupied (writeSegment run db write) segment) :
    index ∈ occupied db segment ∨
      index = (db.reservations segment.schema).length ∧
        write.occupies segment.schema segment.segmentId segment.slotStart = true := by
  rw [occupied, reservations_writeSegment] at member
  by_cases here : write.schema = segment.schema
  · rw [here, Function.update_self, positions_append_singleton] at member
    split at member
    · rename_i occupies
      rcases Finset.mem_insert.mp member with last | old
      · refine .inr ⟨last, ?_⟩
        simpa [RouteSegment.occupies, here] using occupies
      · exact .inl old
    · exact .inl member
  · rw [Function.update_of_ne (Ne.symm here)] at member
    exact .inl member

theorem length_writeSegment_le (run : Run) (db : Database) (write : RouteSegment)
    (schema : RegionSchema) :
    (db.reservations schema).length ≤ ((writeSegment run db write).reservations schema).length := by
  rw [reservations_writeSegment]
  by_cases here : schema = write.schema
  · subst here
    simp
  · simp [here]

theorem occupied_foldl_writeSegment (run : Run) (writes : List RouteSegment)
    (member : index ∈ occupied (writes.foldl (writeSegment run) db) segment) :
    index ∈ occupied db segment ∨
      (db.reservations segment.schema).length ≤ index ∧ ∃ write ∈ writes,
        write.occupies segment.schema segment.segmentId segment.slotStart = true := by
  induction writes generalizing db with
  | nil => exact .inl member
  | cons write rest ih =>
      have longer := length_writeSegment_le run db write segment.schema
      rcases ih member with earlier | ⟨beyond, other, among, occupies⟩
      · rcases occupied_writeSegment run write earlier with old | ⟨rfl, occupies⟩
        · exact .inl old
        · exact .inr ⟨Nat.le_refl _, write, List.mem_cons_self, occupies⟩
      · exact .inr ⟨by omega, other, List.mem_cons_of_mem write among, occupies⟩

theorem length_foldl_writeSegment_le (run : Run) (writes : List RouteSegment) (db : Database)
    (schema : RegionSchema) : (db.reservations schema).length ≤
      ((writes.foldl (writeSegment run) db).reservations schema).length := by
  induction writes generalizing db with
  | nil => exact Nat.le_refl _
  | cons write rest ih => exact (length_writeSegment_le run db write schema).trans (ih _)

theorem occupied_releaseSegment (schema : RegionSchema) (id : BookingId) :
    occupied (releaseSegment db schema id) segment ⊆ occupied db segment := by
  simp only [occupied, releaseSegment, Database.updateReservations]
  by_cases here : segment.schema = schema
  · subst here
    rw [Function.update_self]
    exact positions_updateWhere fun row => row.occupies_cancelled _ _
  · rw [Function.update_of_ne here]

theorem length_releaseSegment (schema place : RegionSchema) (id : BookingId) :
    ((releaseSegment db schema id).reservations place).length = (db.reservations place).length := by
  simp only [releaseSegment, Database.updateReservations]
  by_cases here : place = schema
  · subst here
    simp [updateWhere]
  · simp [here]

end

/-! ### One step -/

inductive Writes (state next : State) (action : Action) : Prop
  | none (db : next.db = state.db)
  | commit (id : RunId) (run : Run) (writes : committedBy state action = ownWrites id state.uncommitted)
      (db : next.db = (ownWrites id state.uncommitted).foldl (writeSegment run) state.db)
  | release (schema : RegionSchema) (id : BookingId) (db : next.db = releaseSegment state.db schema id)

inductive Moves (state next : State) (id : RunId) : Prop
  | same (runs : next.runs id = state.runs id)
  | began (run : Run) (fresh : state.runs id = none) (set : next.runs id = some run)
      (snapshot : ∀ snapshot, run.snapshot = some snapshot → snapshot = next.db)
  | moved (run after : Run) (found : state.runs id = some run) (set : next.runs id = some after)
      (ahead : after.pc.ahead ⊆ run.pc.ahead)
      (snapshot : after.snapshot = run.snapshot ∨ after.snapshot = some next.db)

section

variable {state next : State} {action : Action} {id : RunId} {run : Run}

@[simp] theorem unlock_db (state : State) (id : RunId) (segment : RouteSegment) :
    (state.unlock id segment).db = state.db := by
  simp only [State.unlock]
  split <;> rfl

@[simp] theorem unlock_runs (state : State) (id : RunId) (segment : RouteSegment) :
    (state.unlock id segment).runs = state.runs := by
  simp only [State.unlock]
  split <;> rfl

theorem writes_proceed (found : state.runs id = some run)
    (stepped : proceed state id run = some next) : Writes state next (.proceed id) := by
  simp only [proceed] at stepped
  split at stepped
  case h_1 here =>
      cases stepped
      exact .commit id run (by simp [committedBy, found, here]) rfl
  case h_5 segment rest here =>
      split at stepped
      · cases stepped
        exact .none (by simp)
      · rename_i peer
        cases stepped
        exact .commit id run (by simp [committedBy, found, here, peer]) rfl
  case h_11 segment rest here =>
      cases stepped
      exact .release segment.schema run.bookingId rfl
  all_goals
    repeat' split at stepped
    all_goals
      cases stepped
  all_goals exact .none (by simp [State.lock, State.insert, State.rollback])

theorem writes_commitThenRaise (stepped : commitThenRaise state id run = some next) :
    Writes state next (.commitThenRaise id) := by
  simp only [commitThenRaise] at stepped
  split at stepped
  · cases stepped
    exact .commit id run rfl rfl
  · cases stepped
    exact .commit id run rfl rfl
  · cases stepped

theorem db_raise (stepped : raise state id run = some next) : next.db = state.db := by
  simp only [raise] at stepped
  repeat' split at stepped
  all_goals
    cases stepped
  all_goals rfl

theorem step_writes (stepped : step state action = some next) : Writes state next action := by
  cases action with
  | createBooking id bookingId driverId route | peerReserve id bookingId driverId segment =>
      simp only [step, begin] at stepped
      split at stepped
      · cases stepped
      · cases stepped
        exact .none rfl
  | proceed id =>
      obtain ⟨run, found, moved⟩ := Option.bind_eq_some_iff.mp stepped
      exact writes_proceed found moved
  | raise id =>
      obtain ⟨run, _, moved⟩ := Option.bind_eq_some_iff.mp stepped
      exact .none (db_raise moved)
  | commitThenRaise id =>
      obtain ⟨run, _, moved⟩ := Option.bind_eq_some_iff.mp stepped
      exact writes_commitThenRaise moved
  | crash id =>
      obtain ⟨run, _, rfl⟩ := Option.map_eq_some_iff.mp stepped
      exact .none rfl
  | expire key =>
      cases stepped
      exact .none rfl

theorem moves_goto {before : State} {after : Run} {pc : Pc} (found : state.runs id = some run)
    (runs : before.runs = state.runs) (ahead : pc.ahead ⊆ run.pc.ahead)
    (snapshot : after.snapshot = run.snapshot ∨ after.snapshot = some before.db) (other : RunId) :
    Moves state (before.goto id after pc) other := by
  by_cases own : other = id
  · subst own
    exact .moved run { after with pc } found (by simp) ahead snapshot
  · exact .same (by simp [own, runs])

theorem moves_proceed (found : state.runs id = some run)
    (stepped : proceed state id run = some next) (other : RunId) : Moves state next other := by
  simp only [proceed] at stepped
  repeat' split at stepped
  all_goals
    cases stepped
  all_goals
    refine moves_goto found ?_ ?_ ?_ other
  all_goals
    simp_all [Pc.ahead, State.lock, State.insert, State.rollback, State.commit, State.release]

theorem moves_raise (found : state.runs id = some run) (stepped : raise state id run = some next)
    (other : RunId) : Moves state next other := by
  simp only [raise] at stepped
  repeat' split at stepped
  all_goals
    cases stepped
  all_goals
    refine moves_goto found ?_ ?_ (.inl rfl) other
  all_goals
    simp [Pc.ahead, State.rollback]

theorem moves_begin (opened : ∀ snapshot, run.snapshot = some snapshot → snapshot = state.db)
    (begun : begin state id run = some next) (other : RunId) : Moves state next other := by
  simp only [begin] at begun
  split at begun
  · cases begun
  · rename_i fresh
    cases begun
    by_cases own : other = id
    · subst own
      exact .began run fresh (by simp) opened
    · exact .same (by simp [own])

theorem step_moves (stepped : step state action = some next) (other : RunId) :
    Moves state next other := by
  cases action with
  | createBooking id bookingId driverId route =>
      exact moves_begin (by simp [eq_comm]) stepped other
  | peerReserve id bookingId driverId segment => exact moves_begin (by simp) stepped other
  | proceed id =>
      obtain ⟨run, found, moved⟩ := Option.bind_eq_some_iff.mp stepped
      exact moves_proceed found moved other
  | raise id =>
      obtain ⟨run, found, moved⟩ := Option.bind_eq_some_iff.mp stepped
      exact moves_raise found moved other
  | commitThenRaise id =>
      obtain ⟨run, found, moved⟩ := Option.bind_eq_some_iff.mp stepped
      simp only [commitThenRaise] at moved
      split at moved
      · cases moved
        refine moves_goto found ?_ ?_ (.inl rfl) other
        · rfl
        · simp [Pc.ahead]
      · cases moved
        refine moves_goto found ?_ ?_ (.inl rfl) other
        · rfl
        · simp [Pc.ahead]
      · cases moved
  | crash id =>
      obtain ⟨run, found, rfl⟩ := Option.map_eq_some_iff.mp stepped
      refine moves_goto found ?_ ?_ (.inl rfl) other
      · rfl
      · simp [Pc.ahead]
  | expire key =>
      cases stepped
      exact .same rfl

end

/-! ### The snapshot and the tables -/

section

variable {state next : State} {action : Action} {id : RunId} {segment : RouteSegment} {index : Nat}

theorem length_step_le (stepped : step state action = some next) (schema : RegionSchema) :
    (state.db.reservations schema).length ≤ (next.db.reservations schema).length := by
  cases step_writes stepped with
  | none db => rw [db]
  | commit id run writes db =>
      rw [db]
      exact length_foldl_writeSegment_le run _ _ schema
  | release place id db => rw [db, length_releaseSegment]

/-- A row that counts after a step did so before, or the step has committed it. -/
theorem occupied_step (stepped : step state action = some next)
    (member : index ∈ occupied next.db segment) :
    index ∈ occupied state.db segment ∨
      (state.db.reservations segment.schema).length ≤ index ∧ ∃ write ∈ committedBy state action,
        write.occupies segment.schema segment.segmentId segment.slotStart = true := by
  cases step_writes stepped with
  | none db => exact .inl (db ▸ member)
  | commit id run writes db =>
      rw [db] at member
      rw [writes]
      exact occupied_foldl_writeSegment run _ member
  | release schema id db =>
      rw [db] at member
      exact .inl (occupied_releaseSegment schema id member)

def Current (id : RunId) (segment : RouteSegment) (state : State) : Prop :=
  ∀ run snapshot, state.runs id = some run → run.snapshot = some snapshot →
    segment ∈ run.pc.ahead → occupied state.db segment ⊆ occupied snapshot segment

theorem Current.step (current : Current id segment state)
    (fresh : leavesSnapshotFresh id segment state action = true)
    (stepped : ReservationRuns.step state action = some next) : Current id segment next := by
  -- rows only join while nobody holds a snapshot with the segment ahead
  have shrinks {run : Run} (found : state.runs id = some run) (opened : run.snapshot.isSome)
      (ahead : segment ∈ run.pc.ahead) : occupied next.db segment ⊆ occupied state.db segment := by
    intro index member
    rcases occupied_step stepped member with old | ⟨_, write, committed, occupies⟩
    · exact old
    · have awaited : awaits state id segment = true := by
        simp [awaits, found, opened, ahead]
      simp only [leavesSnapshotFresh, awaited, Bool.true_and, Bool.not_eq_true',
        List.any_eq_false] at fresh
      exact absurd occupies (fresh write committed)
  intro run snapshot found opened ahead
  cases step_moves stepped id with
  | same runs =>
      have before := runs.symm.trans found
      exact (shrinks before (by simp [opened]) ahead).trans (current run snapshot before opened ahead)
  | began run fresh set begun =>
      cases set.symm.trans found
      rw [begun snapshot opened]
  | moved before after known set within source =>
      cases set.symm.trans found
      rcases source with kept | taken
      · rw [opened] at kept
        exact (shrinks known (by simp [← kept]) (within ahead)).trans
          (current before snapshot known kept.symm (within ahead))
      · cases opened.symm.trans taken
        exact Finset.Subset.refl _

/-- The rows up to `bound` that count are counted in the snapshot of the run, if it is open. -/
structure Counted (bound : Nat) (id : RunId) (segment : RouteSegment) (state : State) : Prop where
  length : bound ≤ (state.db.reservations segment.schema).length
  started : state.runs id ≠ none
  within : ∀ run snapshot, state.runs id = some run → run.snapshot = some snapshot →
    ∀ index ∈ occupied state.db segment, index < bound → index ∈ occupied snapshot segment

theorem Counted.step {bound : Nat} (counted : Counted bound id segment state)
    (stepped : ReservationRuns.step state action = some next) : Counted bound id segment next := by
  have old {index : Nat} (member : index ∈ occupied next.db segment) (before : index < bound) :
      index ∈ occupied state.db segment := by
    rcases occupied_step stepped member with old | ⟨beyond, _⟩
    · exact old
    · have := counted.length
      omega
  refine ⟨counted.length.trans (length_step_le stepped _), ?_, ?_⟩
  · cases step_moves stepped id with
    | same runs =>
        rw [runs]
        exact counted.started
    | began run fresh set begun => simp [set]
    | moved before after known set within source => simp [set]
  · intro run snapshot found opened index member before
    cases step_moves stepped id with
    | same runs =>
        exact counted.within run snapshot (runs.symm.trans found) opened index (old member before)
          before
    | began run fresh set begun => exact absurd fresh counted.started
    | moved earlier after known set within source =>
        cases set.symm.trans found
        rcases source with kept | taken
        · exact counted.within earlier snapshot known (kept.symm.trans opened) index
            (old member before) before
        · cases opened.symm.trans taken
          exact member

end

/-- The count a run makes under the lock includes every row that counts and was committed before
it took the lock, if none of them was committed after the run had fixed its snapshot. -/
theorem count_includes_committed (db : Database) (before after : List Action)
    (atLock acquired atCheck : State) (id : RunId) (waiting checking : Run)
    (segment : RouteSegment) (rest : List RouteSegment) (snapshot : Database) (capacity : Capacity)
    (started : Lts.run step (.idle db) before = some atLock)
    (found : atLock.runs id = some waiting) (next : waiting.pc = .loop (segment :: rest))
    (free : atLock.locks (lockKey segment) = none)
    (locks : step atLock (.proceed id) = some acquired)
    (continued : Lts.run step acquired after = some atCheck)
    (inside : atCheck.runs id = some checking) (opened : checking.snapshot = some snapshot)
    (checked : checkCapacity (visible atCheck id checking snapshot) segment.schema
      segment.segmentId segment.slotStart = .ok capacity)
    (fresh : Lts.Meets step (fun state action => leavesSnapshotFresh id segment state action)
      (.idle db) before) :
    capacity.booked = (occupied snapshot segment).card +
        (ownWrites id atCheck.uncommitted).countP (fun write =>
          write.occupies segment.schema segment.segmentId segment.slotStart) ∧
      ∀ index ∈ occupied atCheck.db segment,
        index < (atLock.db.reservations segment.schema).length → index ∈ occupied snapshot segment := by
  have current : Current id segment atLock := by
    refine Lts.run_invariant (fun _ _ _ current fresh stepped => current.step fresh stepped) ?_
      started fresh
    intro run snapshot found
    cases found
  have counted : Counted (atLock.db.reservations segment.schema).length id segment acquired := by
    simp only [step, found, Option.bind_some, proceed, next, free, Option.some_inj] at locks
    subst locks
    refine ⟨Nat.le_refl _, by simp, ?_⟩
    intro run snapshot set opened index member _
    simp only [State.goto_runs, Function.update_self, Option.some_inj] at set
    subst set
    exact current waiting snapshot found opened (by simp [next, Pc.ahead]) member
  have later : Counted (atLock.db.reservations segment.schema).length id segment atCheck :=
    Lts.run_invariant (fun _ _ _ counted _ stepped => counted.step stepped) counted continued
      (Lts.meets_true acquired after)
  constructor
  · have booked := (checkCapacity_ok checked).2
    rw [segment.aligned, visible, bookedCount_foldl_writeSegment, bookedCount_eq_card] at booked
    exact booked
  · exact later.within checking snapshot inside opened

def oneAfterOther : List Action := booking 0 :: proceeds 0 5 ++ [booking 1]

def oneDuringOther : List Action := booking 0 :: booking 1 :: proceeds 0 5

def onlySegment : RouteSegment := ⟨1, .euWestIreland, 0, hourStart_zero⟩

theorem count_includes_oneAfterOther : ∃ atLock acquired checking snapshot capacity,
    Lts.run step (.idle oneVehicle) oneAfterOther = some atLock ∧
      step atLock (.proceed 1) = some acquired ∧
      acquired.runs 1 = some checking ∧ checking.snapshot = some snapshot ∧
      checkCapacity (visible acquired 1 checking snapshot) .regionIreland 1 0 = .ok capacity ∧
      ∀ index ∈ occupied acquired.db onlySegment,
        index < (atLock.db.reservations .regionIreland).length →
        index ∈ occupied snapshot onlySegment :=
  ⟨_, _, _, _, _, rfl, rfl, rfl, rfl, rfl, (count_includes_committed oneVehicle oneAfterOther []
    _ _ _ 1 _ _ onlySegment [] _ _ rfl rfl rfl rfl rfl rfl rfl rfl rfl
    (Lts.checks_iff_meets.mp (by decide +kernel))).2⟩

/-- The reservation of the first booking is not in the count of the second. -/
theorem count_misses_committed :
    ¬ ∀ (db : Database) (before after : List Action) (atLock acquired atCheck : State) (id : RunId)
      (waiting checking : Run) (segment : RouteSegment) (rest : List RouteSegment)
      (snapshot : Database) (capacity : Capacity),
      Lts.run step (.idle db) before = some atLock →
      atLock.runs id = some waiting → waiting.pc = .loop (segment :: rest) →
      atLock.locks (lockKey segment) = none → step atLock (.proceed id) = some acquired →
      Lts.run step acquired after = some atCheck → atCheck.runs id = some checking →
      checking.pc = .locked segment rest → atCheck.locks (lockKey segment) = some id →
      checking.snapshot = some snapshot →
      checkCapacity (visible atCheck id checking snapshot) segment.schema segment.segmentId
        segment.slotStart = .ok capacity →
      capacity.booked = (occupied snapshot segment).card +
          (ownWrites id atCheck.uncommitted).countP (fun write =>
            write.occupies segment.schema segment.segmentId segment.slotStart) ∧
        ∀ index ∈ occupied atCheck.db segment,
          index < (atLock.db.reservations segment.schema).length →
          index ∈ occupied snapshot segment := by
  intro includes
  have counted := (includes oneVehicle oneDuringOther [] _ _ _ 1 _ _ onlySegment [] _ _ rfl rfl rfl
    rfl rfl rfl rfl rfl rfl rfl rfl).2
  have missed := counted 0 (by decide +kernel) (by decide +kernel)
  exact absurd missed (by decide +kernel)

end TrafficService.ReservationRuns
