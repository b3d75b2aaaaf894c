import TrafficService.ReservationRuns

/-!
No slot of a VM holds more reservations than its road segment allows, in every run in which
a slot that is full once the concurrent reservations are counted is not read as free.
-/

namespace TrafficService.ReservationRuns

/-! ### What a step does to the counts -/

section

variable (state : State) (id : RunId) (run : Run) (schema : RegionSchema) (segmentId : SegmentId)
  (slot : DateTime)

@[simp] theorem heldCount_goto (pc : Pc) :
    heldCount (state.goto id run pc) schema segmentId slot = heldCount state schema segmentId slot :=
  rfl

@[simp] theorem heldCount_unlock (segment : RouteSegment) :
    heldCount (state.unlock id segment) schema segmentId slot =
      heldCount state schema segmentId slot := by
  simp only [State.unlock]
  split <;> rfl

theorem countP_own_add_others (uncommitted : List (RunId × RouteSegment)) :
    (ownWrites id uncommitted).countP (fun segment => segment.occupies schema segmentId slot) +
        (othersWrites id uncommitted).countP (fun write => write.2.occupies schema segmentId slot) =
      uncommitted.countP fun write => write.2.occupies schema segmentId slot := by
  induction uncommitted with
  | nil => rfl
  | cons write rest ih =>
      simp only [ownWrites, othersWrites] at ih ⊢
      by_cases own : write.1 = id
      · simp only [own, List.filter_cons, decide_true, if_true, List.map_cons, List.countP_cons,
          ne_eq, not_true_eq_false, decide_false, Bool.false_eq_true, if_false] at ih ⊢
        omega
      · simp only [own, List.filter_cons, decide_false, Bool.false_eq_true, if_false,
          List.countP_cons, ne_eq, not_false_eq_true, decide_true, if_true] at ih ⊢
        omega

theorem heldCount_commit :
    heldCount (state.commit id run) schema segmentId slot = heldCount state schema segmentId slot := by
  have split := countP_own_add_others id schema segmentId slot state.uncommitted
  simp only [heldCount, State.commit, bookedCount_foldl_writeSegment]
  omega

theorem heldCount_rollback_le :
    heldCount (state.rollback id) schema segmentId slot ≤ heldCount state schema segmentId slot := by
  have split := countP_own_add_others id schema segmentId slot state.uncommitted
  simp only [heldCount, State.rollback]
  omega

theorem heldCount_release_le (segment : RouteSegment) :
    heldCount (state.release run segment) schema segmentId slot ≤
      heldCount state schema segmentId slot := by
  have freed := bookedCount_releaseSegment_le state.db segment.schema schema run.bookingId
    segmentId slot
  simp only [heldCount, State.release]
  omega

theorem heldCount_insert (segment : RouteSegment) :
    heldCount (state.insert id segment) schema segmentId slot =
      heldCount state schema segmentId slot +
        if segment.occupies schema segmentId slot = true then 1 else 0 := by
  simp only [heldCount, State.insert, List.countP_append, List.countP_singleton]
  omega

end

theorem maxCapacity_commit (state : State) (id : RunId) (run : Run) :
    (state.commit id run).db.maxCapacityPerSlot = state.db.maxCapacityPerSlot :=
  maxCapacity_foldl_writeSegment run _ _

/-! ### The invariant -/

structure Serialised (state : State) : Prop where
  within : ∀ schema segmentId slot max,
    state.db.maxCapacityPerSlot schema segmentId = some max →
      heldCount state schema segmentId slot ≤ max
  /-- Between its count and its insert, a run has room for the row it is about to write. -/
  room : ∀ id run segment rest, state.runs id = some run → run.pc = .admitted segment rest →
    ∀ max, state.db.maxCapacityPerSlot segment.schema segment.segmentId = some max →
      heldCount state segment.schema segment.segmentId segment.slotStart < max
  exclusive : ∀ id run key, state.runs id = some run → run.pc.holds = some key →
    state.locks key = some id
  sameRoads : ∀ id run snapshot, state.runs id = some run → run.snapshot = some snapshot →
    snapshot.maxCapacityPerSlot = state.db.maxCapacityPerSlot

/-- No lock expires under a run that is still inside its scope. -/
def LockOutlivesHolder (state : State) : Action → Prop
  | .expire key => ∀ id run, state.runs id = some run → run.pc.holds ≠ some key
  | _ => True

/-- A slot read below its capacity is not already full with the reservations that the reader's
snapshot misses: those committed since it was taken and those of transactions still open. -/
def countMissesNoFullSlot (state : State) (id : RunId) (run : Run) : Bool :=
  match run.pc, run.snapshot with
  | .locked segment _, some snapshot =>
      (state.db.maxCapacityPerSlot segment.schema segment.segmentId).all fun max =>
        bookedCount (visible state id run snapshot) segment.schema segment.segmentId
          segment.slotStart < max →
        heldCount state segment.schema segment.segmentId segment.slotStart < max
  | _, _ => true

def missesNoFullSlot (state : State) : Action → Bool
  | .proceed id => (state.runs id).all (countMissesNoFullSlot state id)
  | _ => true

theorem serialised_idle {db : Database} (within : WithinCapacity db) : Serialised (.idle db) where
  within := within
  room := fun _ _ _ _ found => nomatch found
  exclusive := fun _ _ _ found => nomatch found
  sameRoads := fun _ _ _ found => nomatch found

theorem Serialised.withinCapacity {state : State} (serialised : Serialised state) :
    WithinCapacity state.db := by
  intro schema segmentId slot max known
  have bound := serialised.within schema segmentId slot max known
  simp only [heldCount] at bound
  omega

theorem Serialised.moved {state next : State} {id : RunId} {run : Run}
    (serialised : Serialised state)
    (runs : next.runs = Function.update state.runs id (some run))
    (capacity : next.db.maxCapacityPerSlot = state.db.maxCapacityPerSlot)
    (held : ∀ schema segmentId slot,
      heldCount next schema segmentId slot ≤ heldCount state schema segmentId slot)
    (others : ∀ key other, other ≠ id → state.locks key = some other → next.locks key = some other)
    (own : ∀ key, run.pc.holds = some key → next.locks key = some id)
    (room : ∀ segment rest, run.pc = .admitted segment rest → ∀ max,
      state.db.maxCapacityPerSlot segment.schema segment.segmentId = some max →
        heldCount state segment.schema segment.segmentId segment.slotStart < max)
    (sameRoads : ∀ snapshot, run.snapshot = some snapshot →
      snapshot.maxCapacityPerSlot = state.db.maxCapacityPerSlot) :
    Serialised next := by
  refine ⟨?_, ?_, ?_, ?_⟩
  · intro schema segmentId slot max known
    rw [capacity] at known
    exact Nat.le_trans (held schema segmentId slot) (serialised.within schema segmentId slot max known)
  · intro other mover segment rest found here max known
    rw [capacity] at known
    refine Nat.lt_of_le_of_lt (held _ _ _) ?_
    rw [runs] at found
    by_cases same : other = id
    · subst same
      rw [Function.update_self, Option.some.injEq] at found
      subst found
      exact room segment rest here max known
    · rw [Function.update_of_ne same] at found
      exact serialised.room other mover segment rest found here max known
  · intro other mover key found holds
    rw [runs] at found
    by_cases same : other = id
    · subst same
      rw [Function.update_self, Option.some.injEq] at found
      subst found
      exact own key holds
    · rw [Function.update_of_ne same] at found
      exact others key other same (serialised.exclusive other mover key found holds)
  · intro other mover snapshot found opened
    rw [capacity]
    rw [runs] at found
    by_cases same : other = id
    · subst same
      rw [Function.update_self, Option.some.injEq] at found
      subst found
      exact sameRoads snapshot opened
    · rw [Function.update_of_ne same] at found
      exact serialised.sameRoads other mover snapshot found opened

section

variable {state : State} {id : RunId} {run : Run}

theorem Serialised.goto (serialised : Serialised state) (found : state.runs id = some run) (pc : Pc)
    (holds : ∀ key, pc.holds = some key → run.pc.holds = some key)
    (room : ∀ segment rest, pc = .admitted segment rest → ∀ max,
      state.db.maxCapacityPerSlot segment.schema segment.segmentId = some max →
        heldCount state segment.schema segment.segmentId segment.slotStart < max) :
    Serialised (state.goto id run pc) := by
  refine serialised.moved rfl rfl (fun _ _ _ => Nat.le_refl _) (fun _ _ _ owned => owned) ?_ room
    (fun snapshot => serialised.sameRoads id run snapshot found)
  intro key held
  exact serialised.exclusive id run key found (holds key held)

theorem Serialised.openSnapshot (serialised : Serialised state) (found : state.runs id = some run)
    {segment : RouteSegment} {rest : List RouteSegment} (here : run.pc = .locked segment rest) :
    Serialised (state.goto id { run with snapshot := some state.db } (.locked segment rest)) := by
  refine serialised.moved rfl rfl (fun _ _ _ => Nat.le_refl _) (fun _ _ _ owned => owned) ?_
    (by simp) (by simp)
  intro key held
  exact serialised.exclusive id run key found (by simpa [here] using held)

theorem Serialised.acquire (serialised : Serialised state) (found : state.runs id = some run)
    (segment : RouteSegment) (rest : List RouteSegment) (free : state.locks (lockKey segment) = none) :
    Serialised ((state.lock id segment).goto id run (.locked segment rest)) := by
  refine serialised.moved rfl rfl (fun _ _ _ => Nat.le_refl _) ?_ ?_ (by simp)
    (fun snapshot => serialised.sameRoads id run snapshot found)
  · intro key other _ owned
    by_cases same : key = lockKey segment
    · rw [same, free] at owned
      exact nomatch owned
    · simpa [State.lock, same] using owned
  · intro key held
    simp only [Pc.holds, Option.some.injEq] at held
    simp [State.lock, held]

theorem Serialised.unlock (serialised : Serialised state) (found : state.runs id = some run)
    (segment : RouteSegment) {after : Run} {pc : Pc} (outside : pc.holds = none)
    (same : after.snapshot = run.snapshot) :
    Serialised ((state.unlock id segment).goto id after pc) := by
  have kept : ∀ key other, other ≠ id → state.locks key = some other →
      (state.unlock id segment).locks key = some other := by
    intro key other different owned
    simp only [State.unlock]
    split
    · rename_i own
      have elsewhere : key ≠ lockKey segment := by
        rintro rfl
        rw [owned, Option.some.injEq] at own
        exact different own
      simpa [elsewhere] using owned
    · exact owned
  have frame : (state.unlock id segment).db = state.db ∧
      (state.unlock id segment).runs = state.runs := by
    simp only [State.unlock]
    split <;> exact ⟨rfl, rfl⟩
  refine serialised.moved (by rw [State.goto_runs, frame.2]) ?_ ?_ kept ?_ ?_ ?_
  · rw [State.goto_db, frame.1]
  · intro schema segmentId slot
    simp
  · intro key held
    simp [outside] at held
  · rintro segment rest rfl
    simp [Pc.holds] at outside
  · intro snapshot opened
    exact serialised.sameRoads id run snapshot found (same ▸ opened)

theorem Serialised.commit (serialised : Serialised state) (found : state.runs id = some run) (pc : Pc)
    (holds : ∀ key, pc.holds = some key → run.pc.holds = some key)
    (elsewhere : ∀ segment rest, pc ≠ .admitted segment rest) :
    Serialised ((state.commit id run).goto id run pc) := by
  refine serialised.moved rfl (maxCapacity_commit state id run) ?_ (fun _ _ _ owned => owned) ?_ ?_
    (fun snapshot => serialised.sameRoads id run snapshot found)
  · intro schema segmentId slot
    exact Nat.le_of_eq (by rw [heldCount_goto, heldCount_commit])
  · intro key held
    exact serialised.exclusive id run key found (holds key held)
  · intro segment rest here
    exact absurd here (elsewhere segment rest)

theorem Serialised.rollback (serialised : Serialised state) (found : state.runs id = some run)
    (pc : Pc) (outside : pc.holds = none) :
    Serialised ((state.rollback id).goto id run pc) := by
  refine serialised.moved rfl rfl ?_ (fun _ _ _ owned => owned) ?_ ?_
    (fun snapshot => serialised.sameRoads id run snapshot found)
  · intro schema segmentId slot
    exact heldCount_rollback_le state id schema segmentId slot
  · intro key held
    simp [outside] at held
  · rintro segment rest rfl
    simp [Pc.holds] at outside

theorem Serialised.release (serialised : Serialised state) (found : state.runs id = some run)
    (segment : RouteSegment) (rest : List RouteSegment) :
    Serialised ((state.release run segment).goto id run (.releasing rest)) := by
  refine serialised.moved rfl rfl ?_ (fun _ _ _ owned => owned) (by simp [Pc.holds]) (by simp)
    (fun snapshot => serialised.sameRoads id run snapshot found)
  intro schema segmentId slot
  exact heldCount_release_le state run schema segmentId slot segment

/-- The insert uses the room its count found: no other run has counted the same slot since. -/
theorem Serialised.insert (serialised : Serialised state) (found : state.runs id = some run)
    {segment : RouteSegment} {rest : List RouteSegment} (here : run.pc = .admitted segment rest) :
    Serialised ((state.insert id segment).goto id run (.inserted segment rest)) := by
  have owns : state.locks (lockKey segment) = some id :=
    serialised.exclusive id run _ found (by simp [here, Pc.holds])
  refine ⟨?_, ?_, ?_, ?_⟩
  · intro schema segmentId slot max known
    rw [heldCount_goto, heldCount_insert]
    split
    · rename_i occupied
      simp only [RouteSegment.occupies, Bool.and_eq_true, decide_eq_true_eq] at occupied
      obtain ⟨⟨rfl, rfl⟩, rfl⟩ := occupied
      exact serialised.room id run segment rest found here max known
    · exact serialised.within schema segmentId slot max known
  · intro other mover place more moved admitted max known
    have different : other ≠ id := by
      rintro rfl
      rw [State.goto_runs, Function.update_self, Option.some.injEq] at moved
      simp [← moved] at admitted
    rw [State.goto_runs, Function.update_of_ne different] at moved
    have apart : segment.occupies place.schema place.segmentId place.slotStart = false := by
      by_contra occupied
      simp only [RouteSegment.occupies, Bool.not_eq_false, Bool.and_eq_true,
        decide_eq_true_eq] at occupied
      have sameKey : lockKey segment = lockKey place := by
        simp [lockKey, occupied.1.2, occupied.2]
      have alsoOwns := serialised.exclusive other mover (lockKey place) moved
        (by simp [admitted, Pc.holds])
      rw [← sameKey, owns, Option.some.injEq] at alsoOwns
      exact different alsoOwns.symm
    rw [heldCount_goto, heldCount_insert, apart]
    exact serialised.room other mover place more moved admitted max known
  · intro other mover key moved holds
    by_cases same : other = id
    · subst same
      rw [State.goto_runs, Function.update_self, Option.some.injEq] at moved
      subst moved
      exact serialised.exclusive other run key found (by simpa [here, Pc.holds] using holds)
    · rw [State.goto_runs, Function.update_of_ne same] at moved
      exact serialised.exclusive other mover key moved holds
  · intro other mover snapshot moved opened
    by_cases same : other = id
    · subst same
      rw [State.goto_runs, Function.update_self, Option.some.injEq] at moved
      subst moved
      exact serialised.sameRoads other run snapshot found opened
    · rw [State.goto_runs, Function.update_of_ne same] at moved
      exact serialised.sameRoads other mover snapshot moved opened

theorem Serialised.begin {next : State} (serialised : Serialised state)
    (outside : run.pc.holds = none)
    (opened : ∀ snapshot, run.snapshot = some snapshot → snapshot = state.db)
    (begun : ReservationRuns.begin state id run = some next) : Serialised next := by
  simp only [ReservationRuns.begin] at begun
  split at begun
  · exact nomatch begun
  · cases begun
    refine serialised.moved rfl rfl (fun _ _ _ => Nat.le_refl _) (fun _ _ _ owned => owned) ?_ ?_ ?_
    · intro key held
      simp [outside] at held
    · intro segment rest here
      simp [here, Pc.holds] at outside
    · intro snapshot taken
      rw [opened snapshot taken]

theorem Serialised.expire {key : LockKey} (serialised : Serialised state)
    (outlives : LockOutlivesHolder state (.expire key)) :
    Serialised { state with locks := Function.update state.locks key none } := by
  refine ⟨serialised.within, serialised.room, ?_, serialised.sameRoads⟩
  intro id run held found holds
  have different : held ≠ key := by
    rintro rfl
    exact outlives id run found holds
  simpa [different] using serialised.exclusive id run held found holds

theorem Serialised.proceed {next : State} (serialised : Serialised state)
    (found : state.runs id = some run) (fresh : countMissesNoFullSlot state id run = true)
    (stepped : ReservationRuns.proceed state id run = some next) : Serialised next := by
  simp only [ReservationRuns.proceed] at stepped
  split at stepped
  case h_1 here =>
      cases stepped
      exact serialised.commit found _ (by simp [Pc.holds]) (by simp)
  case h_2 segment rest here =>
      split at stepped
      · cases stepped
        exact serialised.goto found _ (by simp [Pc.holds]) (by simp)
      · rename_i free
        cases stepped
        exact serialised.acquire found segment rest free
  case h_3 segment rest here =>
      have refuses : Serialised (state.goto id run (.refused segment)) :=
        serialised.goto found _ (by simp [here, Pc.holds]) (by simp)
      split at stepped
      · cases stepped
        exact serialised.openSnapshot found here
      · rename_i snapshot opened
        have roads : (visible state id run snapshot).maxCapacityPerSlot =
            state.db.maxCapacityPerSlot := by
          rw [visible, maxCapacity_foldl_writeSegment]
          exact serialised.sameRoads id run snapshot found opened
        split at stepped
        · rename_i capacity checked
          obtain ⟨known, counted⟩ := checkCapacity_ok checked
          rw [segment.aligned] at counted
          rw [roads] at known
          split at stepped
          · cases stepped
            exact refuses
          · rename_i below
            cases stepped
            refine serialised.goto found _ (by simp [here, Pc.holds]) ?_
            intro place more moved max placeKnown
            cases moved
            rw [known, Option.some.injEq] at placeKnown
            subst placeKnown
            simp only [countMissesNoFullSlot, here, opened, known, Option.all_some,
              decide_eq_true_eq] at fresh
            exact fresh (by omega)
        · rename_i missing
          have unknown := checkCapacity_error missing
          rw [roads] at unknown
          split at stepped
          · cases stepped
            refine serialised.goto found _ (by simp [here, Pc.holds]) ?_
            intro place more moved max placeKnown
            cases moved
            simp [unknown] at placeKnown
          · cases stepped
            exact refuses
  case h_4 segment rest here =>
      split at stepped
      · cases stepped
        exact serialised.goto found _ (by simp [here, Pc.holds]) (by simp)
      · cases stepped
        exact serialised.insert found here
  case h_5 segment rest here =>
      split at stepped
      · cases stepped
        exact serialised.unlock found segment rfl rfl
      · cases stepped
        exact serialised.commit found _ (by simp [here, Pc.holds]) (by simp)
  case h_6 segment here =>
      cases stepped
      exact serialised.unlock found segment rfl rfl
  case h_7 segment here =>
      cases stepped
      exact serialised.unlock found segment rfl rfl
  case h_8 here =>
      cases stepped
      exact serialised.goto found _ (by simp [Pc.holds]) (by simp)
  case h_9 here =>
      cases stepped
      exact serialised.rollback found _ rfl
  case h_10 here =>
      cases stepped
      exact serialised.goto found _ (by simp [Pc.holds]) (by simp)
  case h_11 segment rest here =>
      cases stepped
      exact serialised.release found segment rest
  case h_12 here => exact nomatch stepped

theorem Serialised.raise {next : State} (serialised : Serialised state)
    (found : state.runs id = some run) (stepped : ReservationRuns.raise state id run = some next) :
    Serialised next := by
  have moves (pc : Pc) (outside : pc.holds = none) : Serialised (state.goto id run pc) := by
    refine serialised.goto found pc (by simp [outside]) ?_
    rintro segment rest rfl
    simp [Pc.holds] at outside
  have refuses (segment : RouteSegment) (inside : run.pc.holds = some (lockKey segment)) :
      Serialised (state.goto id run (.refused segment)) :=
    serialised.goto found _ (fun key held => inside.trans held) (by simp)
  simp only [ReservationRuns.raise] at stepped
  cases here : run.pc with
  | loop todo | publishing | stored segment | refused segment =>
      simp only [here, Option.some.injEq] at stepped
      exact stepped ▸ moves .failed rfl
  | locked segment rest | admitted segment rest =>
      simp only [here, Option.some.injEq] at stepped
      exact stepped ▸ refuses segment (by simp [here, Pc.holds])
  | inserted segment rest =>
      simp only [here] at stepped
      split at stepped
      · cases stepped
        exact moves .failed rfl
      · cases stepped
        exact refuses segment (by simp [here, Pc.holds])
  | failed =>
      simp only [here, Option.some.injEq] at stepped
      exact stepped ▸ serialised.rollback found .finished rfl
  | releasing todo =>
      cases todo with
      | nil =>
          simp only [here, Option.some.injEq] at stepped
          exact stepped ▸ moves .finished rfl
      | cons segment rest =>
          simp only [here, Option.some.injEq] at stepped
          exact stepped ▸ moves (.releasing rest) rfl
  | finished => simp [here] at stepped

theorem Serialised.commitThenRaise {next : State} (serialised : Serialised state)
    (found : state.runs id = some run)
    (stepped : ReservationRuns.commitThenRaise state id run = some next) : Serialised next := by
  simp only [ReservationRuns.commitThenRaise] at stepped
  split at stepped
  · cases stepped
    exact serialised.commit found .failed (by simp [Pc.holds]) (by simp)
  · rename_i segment rest kind here
    cases stepped
    exact serialised.commit found (.refused segment) (by simp [here, Pc.holds]) (by simp)
  · exact nomatch stepped

end

theorem Serialised.step {state next : State} {action : Action} (serialised : Serialised state)
    (outlives : LockOutlivesHolder state action) (fresh : missesNoFullSlot state action = true)
    (stepped : ReservationRuns.step state action = some next) : Serialised next := by
  cases action with
  | createBooking id bookingId driverId route =>
      exact serialised.begin rfl (by simp [eq_comm]) stepped
  | peerReserve id bookingId driverId segment =>
      exact serialised.begin rfl (by simp) stepped
  | proceed id =>
      obtain ⟨run, found, moved⟩ := Option.bind_eq_some_iff.mp stepped
      simp only [missesNoFullSlot, found, Option.all_some] at fresh
      exact serialised.proceed found fresh moved
  | raise id =>
      obtain ⟨run, found, moved⟩ := Option.bind_eq_some_iff.mp stepped
      exact serialised.raise found moved
  | commitThenRaise id =>
      obtain ⟨run, found, moved⟩ := Option.bind_eq_some_iff.mp stepped
      exact serialised.commitThenRaise found moved
  | crash id =>
      obtain ⟨run, found, rfl⟩ := Option.map_eq_some_iff.mp stepped
      exact serialised.rollback found .finished rfl
  | expire key =>
      cases stepped
      exact serialised.expire outlives

/-- Overbooking needs a slot that was full, and read as free from a snapshot that predates
the lock. -/
theorem withinCapacity_of_missesNoFullSlot {db : Database} (within : WithinCapacity db)
    {actions : List Action} {final : State}
    (executed : Lts.run step (.idle db) actions = some final)
    (meets : Lts.Meets step (fun state action =>
      LockOutlivesHolder state action ∧ missesNoFullSlot state action = true) (.idle db) actions) :
    WithinCapacity final.db := by
  have serialised : Serialised final :=
    Lts.run_invariant (fun _ _ _ holds allowed stepped => holds.step allowed.1 allowed.2 stepped)
      (serialised_idle within) executed meets
  exact serialised.withinCapacity

/-! ### Two bookings of one slot -/

def lastSlot : Route := .single ⟨1, .euWestIreland, 0, hourStart_zero⟩ 45

def oneVehicle : Database :=
  .unbooked (fun schema segmentId =>
    if schema = .regionIreland ∧ segmentId = 1 then some 1 else none) fun _ => none

theorem withinCapacity_oneVehicle : WithinCapacity oneVehicle := by
  intro schema segmentId slot max _
  exact Nat.zero_le max

def booking (id : RunId) : Action := .createBooking id (10 + id) 7 lastSlot

def proceeds (id : RunId) (times : Nat) : List Action := List.replicate times (.proceed id)

def inTurn : List Action := booking 0 :: proceeds 0 5 ++ booking 1 :: proceeds 1 2

def atOnce : List Action := booking 0 :: booking 1 :: proceeds 0 5 ++ proceeds 1 5

def noExpiry : Action → Bool
  | .expire _ => false
  | _ => true

theorem lockOutlivesHolder_of_noExpiry (state : State) (action : Action)
    (tested : noExpiry action = true) : LockOutlivesHolder state action := by
  cases action with
  | expire key => simp [noExpiry] at tested
  | _ => trivial

theorem withinCapacity_inTurn :
    ∃ final, Lts.run step (.idle oneVehicle) inTurn = some final ∧
      bookedCount final.db .regionIreland 1 0 = 1 ∧ WithinCapacity final.db := by
  have counted : (Lts.run step (.idle oneVehicle) inTurn).map
      (fun final => bookedCount final.db .regionIreland 1 0) = some 1 := by decide
  obtain ⟨final, executed, one⟩ := Option.map_eq_some_iff.mp counted
  refine ⟨final, executed, one, ?_⟩
  refine withinCapacity_of_missesNoFullSlot withinCapacity_oneVehicle executed ?_
  have checked : Lts.checks step (fun state action =>
      noExpiry action && missesNoFullSlot state action) (.idle oneVehicle) inTurn = true := by
    decide
  refine Lts.meets_of_checks ?_ checked
  intro state action tested
  rw [Bool.and_eq_true] at tested
  exact ⟨lockOutlivesHolder_of_noExpiry state action tested.1, tested.2⟩

theorem overbooked_atOnce :
    ¬ ∀ (db : Database) (actions : List Action) (final : State), WithinCapacity db →
      (∀ action ∈ actions, ∀ id bookingId driverId segment,
        action ≠ .peerReserve id bookingId driverId segment) →
      Lts.run step (.idle db) actions = some final →
      Lts.Meets step LockOutlivesHolder (.idle db) actions → WithinCapacity final.db := by
  intro holds
  have counted : (Lts.run step (.idle oneVehicle) atOnce).map (fun final =>
      (bookedCount final.db .regionIreland 1 0, final.db.maxCapacityPerSlot .regionIreland 1)) =
      some (2, some 1) := by decide
  obtain ⟨final, executed, overbooked⟩ := Option.map_eq_some_iff.mp counted
  simp only [Prod.mk.injEq] at overbooked
  have onlySagas : ∀ action ∈ atOnce, ∀ id bookingId driverId segment,
      action ≠ .peerReserve id bookingId driverId segment := by
    simp [atOnce, booking, proceeds, List.replicate]
  have checked : Lts.checks step (fun _ => noExpiry) (.idle oneVehicle) atOnce = true := by decide
  have bound := holds oneVehicle atOnce final withinCapacity_oneVehicle onlySagas executed
    (Lts.meets_of_checks lockOutlivesHolder_of_noExpiry checked) .regionIreland 1 0 1 overbooked.2
  omega

end TrafficService.ReservationRuns
