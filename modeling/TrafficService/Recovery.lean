import TrafficService.BookingInvariant

/-!
Two VMs under crashes, lost messages and partitions: which reservations a pass on each VM
can still account for once everything has come to rest.
-/

namespace TrafficService.Cluster

/-- A VM holds capacity for the booking of the other VM, or is about to. -/
def peerHolds (state : State) (vm : Vm) (id : BookingId) : Bool :=
  (regionSchemas.any fun schema => ((state.db vm).reservations schema).any fun row =>
      row.bookingId = id && row.status.active) ||
    state.net.any fun msg =>
      match msg with
      | .reserve _ booking _ _ => booking = id
      | _ => false

/-- The booking a step gives up: its request crashes or ends in an exception, or a
transaction writes CANCELLED or REJECTED. -/
def givesUp (state : State) : Action → Option (Vm × BookingId)
  | .crash id => (state.runs id).map fun run => (run.vm, id)
  | .advance id _ => (state.runs id).bind fun run =>
      match run.pc with
      | .flush | .reject => some (run.vm, id)
      | _ => none
  | .cancelBooking vm id _ _ => some (vm, id)
  | .stepPass passId _ _ => (state.passes passId).bind fun pass =>
      match pass.pc with
      | .orphans (row :: _) | .dangling (row :: _) => some (pass.vm, row.id)
      | _ => none
  | _ => none

def releasesFirst (state : State) (action : Action) : Bool :=
  (givesUp state action).all fun given => !peerHolds state given.1.peer given.2

def CreatePc.undecided : CreatePc → Bool
  | .refresh | .returned | .raised | .crashed => false
  | _ => true

def BookingRows.confirmed (rows : BookingRows) : Prop :=
  ∃ row, rows.booking = some row ∧ row.status = .confirmed

/-- Someone still answers for the capacity the peer holds. -/
def Kept (run : CreateRun) (rows : BookingRows) : Prop :=
  CreatePc.undecided run.pc = true ∨ BookingRows.confirmed rows

structure Accounted (deployment : Deployment) (state : State) : Prop where
  inv : Inv deployment state
  kept : ∀ id run, state.runs id = some run → peerHolds state run.vm.peer id = true →
    Kept run (state.rows run.vm id)

section

variable {deployment : Deployment} {state next : State} {id : BookingId} {vm : Vm}

theorem peerHolds_iff : peerHolds state vm id = true ↔
    (∃ schema, ∃ row ∈ (state.rows vm id).regional schema, row.status.active = true) ∨
      ∃ target driverId segment, Msg.reserve target id driverId segment ∈ state.net := by
  simp only [peerHolds, Bool.or_eq_true, List.any_eq_true, Bool.and_eq_true, decide_eq_true_eq]
  refine or_congr ?_ ?_
  · constructor
    · rintro ⟨schema, _, row, member, rfl, active⟩
      exact ⟨schema, row, Database.mem_rowsOf_regional.mpr ⟨member, rfl⟩, active⟩
    · rintro ⟨schema, row, member, active⟩
      obtain ⟨member, ofId⟩ := Database.mem_rowsOf_regional.mp member
      exact ⟨schema, mem_regionSchemas schema, row, member, ofId, active⟩
  · constructor
    · rintro ⟨msg, member, sent⟩
      cases msg with
      | reserve target booking driverId segment =>
          simp only [decide_eq_true_eq] at sent
          subst sent
          exact ⟨target, driverId, segment, member⟩
      | _ => exact nomatch sent
    · rintro ⟨target, driverId, segment, member⟩
      exact ⟨_, member, by simp⟩

/-- Capacity on the peer is asked for by a request still in its reservation loop only. -/
theorem peerHolds_step {action : Action} {run : CreateRun} (inv : Inv deployment state)
    (stepped : step deployment state action = some next) (found : state.runs id = some run)
    (holds : peerHolds next run.vm.peer id = true) :
    peerHolds state run.vm.peer id = true ∨
      ∃ after, next.runs id = some after ∧ CreatePc.early after.pc = true := by
  rcases peerHolds_iff.mp holds with ⟨schema, row, member, active⟩ | ⟨target, driverId, segment, sent⟩
  · left
    have kept (old : row ∈ (state.rows run.vm.peer id).regional schema) :
        peerHolds state run.vm.peer id = true :=
      peerHolds_iff.mpr (.inl ⟨schema, row, old, active⟩)
    cases step_effect stepped id with
    | unchanged runs rows => exact kept (by rwa [rows] at member)
    | begun vm draft isBegin fresh runs rows => exact kept (by rwa [rows] at member)
    | crashed before isCrash known running runs rows => exact kept (by rwa [rows] at member)
    | advanced before answer outcome source known moved runs rows =>
        cases known.symm.trans found
        rw [rows, (advance_keeps moved).1, if_neg (Vm.peer_ne run.vm)] at member
        exact kept member
    | external vm transaction source runs rows =>
        rw [rows] at member
        split at member
        · rcases inv.external source with updates | ⟨_, driverId, segment, _, _, rfl⟩
          · exact kept (Transaction.active_onRows updates member active)
          · cases source with
            | serveReserve target id driverId segment sent =>
                exact peerHolds_iff.mpr (.inr ⟨_, driverId, segment, sent⟩)
        · exact kept member
  · rcases step_sent stepped sent rfl with old | ⟨other, asker, answer, outcome, known, moved, member, after⟩
    · exact .inl (peerHolds_iff.mpr (.inr ⟨target, driverId, segment, old⟩))
    · obtain ⟨_, same, _, early⟩ := advance_asks moved member rfl
      cases same
      exact .inr ⟨outcome.run, after, early driverId segment rfl⟩

theorem advance_undecided {run : CreateRun} {answer : Answer} {outcome : Outcome}
    (moved : advance deployment id run answer = some outcome) :
    CreatePc.undecided outcome.run.pc = true ∨ run.pc = .flush ∨ run.pc = .reject ∨
      (run.pc = .refresh ∧ outcome.transaction = none) ∨
      (run.pc = .finalCommit ∧ outcome.transaction = some (.confirm run.minutes)) := by
  revert moved
  fun_cases advance deployment id run answer
  all_goals
    intro moved
    cases moved
  all_goals simp_all [CreatePc.undecided]

theorem early_undecided {pc : CreatePc} (early : CreatePc.early pc = true) :
    CreatePc.undecided pc = true := by
  cases pc <;> first | rfl | exact nomatch early

theorem releasesFirst_free {action : Action} (releases : releasesFirst state action = true)
    (given : givesUp state action = some (vm, id)) : peerHolds state vm.peer id = false := by
  simpa [releasesFirst, given] using releases

theorem External.gives_up_or_keeps {action : Action} {transaction : Transaction}
    (source : External state action vm id transaction) :
    givesUp state action = some (vm, id) ∨
      (transaction.onRows id (state.rows vm id)).booking = (state.rows vm id).booking := by
  cases source with
  | serveReserve target id driverId segment sent => exact .inr rfl
  | serveRelease target id sent => exact .inr rfl
  | cancel vm id driverId published booking stored uncancelled => exact .inl rfl
  | orphan passId now published pass row rest known here clear =>
      exact .inl (by simp [givesUp, known, here])
  | dangling passId now published pass row rest known here =>
      exact .inl (by simp [givesUp, known, here])
  | lingering passId now published pass schema id rest schemas known here => exact .inr rfl

theorem Accounted.step {action : Action} (accounted : Accounted deployment state)
    (releases : releasesFirst state action = true)
    (stepped : Cluster.step deployment state action = some next) : Accounted deployment next := by
  have inv := accounted.inv
  refine ⟨inv.step stepped, ?_⟩
  intro id after foundAfter holdsAfter
  cases found : state.runs id with
  | none =>
      cases step_effect stepped id with
      | unchanged runs rows => exact nomatch (runs.trans found).symm.trans foundAfter
      | begun vm draft isBegin fresh runs rows =>
          cases runs.symm.trans foundAfter
          exact .inl rfl
      | crashed run isCrash known running runs rows => exact nomatch found.symm.trans known
      | advanced run answer outcome source known moved runs rows =>
          exact nomatch found.symm.trans known
      | external vm transaction source runs rows =>
          exact nomatch (runs.trans found).symm.trans foundAfter
  | some run =>
      obtain ⟨moved, foundMoved, sameVm, ownerStep⟩ := inv.owner_step stepped found
      cases foundMoved.symm.trans foundAfter
      rw [sameVm] at holdsAfter ⊢
      rcases peerHolds_step inv stepped found holdsAfter with holds | ⟨_, same, early⟩
      · have kept := accounted.kept id run found holds
        have held (given : givesUp state action = some (run.vm, id)) : False :=
          nomatch (releasesFirst_free releases given).symm.trans holds
        have stored := (inv.booking id run found).stored
        have confirming := (inv.booking id run found).confirming
        generalize next.rows run.vm id = rows at ownerStep
        cases ownerStep with
        | unchanged => exact kept
        | crashed isCrash running =>
            subst isCrash
            exact (held (by simp [givesUp, found])).elim
        | advanced answer outcome source moved =>
            rcases advance_undecided moved with
              undecided | here | here | ⟨here, quiet⟩ | ⟨here, committed⟩
            · exact .inl undecided
            · rcases source with rfl | waits
              · exact (held (by simp [givesUp, found, here])).elim
              · simp [here, CreatePc.waits] at waits
            · rcases source with rfl | waits
              · exact (held (by simp [givesUp, found, here])).elim
              · simp [here, CreatePc.waits] at waits
            · simp only [Outcome.rowsAfter, quiet]
              exact .inr (kept.resolve_left (by simp [here, CreatePc.undecided]))
            · simp only [Outcome.rowsAfter, committed]
              have persistent := confirming (by simp [here, CreatePc.confirming])
              obtain ⟨row, present⟩ := Option.ne_none_iff_exists'.mp (stored persistent)
              exact .inr ⟨_, by simp only [Transaction.onRows, present, Option.map_some]; rfl, rfl⟩
        | external transaction source updates =>
            rcases source.gives_up_or_keeps with given | same
            · exact (held given).elim
            · refine kept.imp_right ?_
              rintro ⟨row, present, status⟩
              exact ⟨row, same.trans present, status⟩
      · cases same.symm.trans foundAfter
        exact .inl (early_undecided early)

theorem accounted_initial (capacity : Vm → RegionSchema → SegmentId → Option Nat)
    (users : Vm → DriverId → Option (Option Plate)) :
    Accounted deployment (.initial capacity users) where
  inv := inv_initial capacity users
  kept := fun _ _ found => nomatch found

/-! ### The final passes -/

def passGivesUp (db : Database) (now : DateTime) : List BookingId :=
  (selectOrphans db now).map Booking.id ++
    (selectDangling (reconcileOrphanedSagas db now).db now).map Booking.id

def reconciled (state : State) (now : Vm → DateTime) (vm : Vm) : Database :=
  (runReconciliationOnce (state.db vm) (now vm)).db

def Quiet (state : State) : Prop :=
  state.net = [] ∧ ∀ id run, state.runs id = some run → run.pc.ended = true

/-- Every active reservation of either VM belongs to a booking that is CONFIRMED where it
was made. -/
def NothingLeaked (state : State) (tables : Vm → Database) : Prop :=
  ∀ vm schema, ∀ row ∈ (tables vm).reservations schema, row.status.active = true →
    ∃ run, state.runs row.bookingId = some run ∧
      (tables run.vm).status? row.bookingId = some .confirmed

theorem Quiet.confirmed {run : CreateRun} {rows : BookingRows} (quiet : Quiet state)
    (found : state.runs id = some run) (kept : Kept run rows) : BookingRows.confirmed rows := by
  refine kept.resolve_left ?_
  have ended := quiet.2 id run found
  intro undecided
  cases pc : run.pc <;> simp_all [CreatePc.ended, CreatePc.undecided]

theorem status?_reconciled {now : Vm → DateTime} {row : Booking}
    (present : (state.rows vm id).booking = some row) (status : row.status = .confirmed)
    (kept : id ∉ passGivesUp (state.db vm) (now vm)) :
    (reconciled state now vm).status? id = some .confirmed := by
  rw [State.rows] at present
  have notDangling : ((state.db vm).rowsOf id).dangling (now vm) = false := by
    by_contra dangling
    rw [Bool.not_eq_false] at dangling
    refine kept (List.mem_append_right _ (mem_selectDangling.mpr ?_))
    rw [rowsOf_reconcileOrphanedSagas,
      BookingRows.reconcileOrphan_decided present (by simp [status])]
    exact dangling
  rw [Database.status?_eq, reconciled, rowsOf_runReconciliationOnce]
  rw [BookingRows.reconcile_confirmed present status notDangling, present, Option.map_some, status]

/-- After a pass, a reservation of a VM's own booking is active only if that is CONFIRMED. -/
theorem confirmed_of_active {rows : BookingRows} {schema : RegionSchema} {row : Reservation}
    {booking : Booking} {now : DateTime} (present : rows.booking = some booking)
    (decided : rows.decided) (aged : booking.createdAt < now - orphanThreshold)
    (member : row ∈ (rows.reconcile now).regional schema) (active : row.status.active = true) :
    ((rows.reconcile now).booking.map (·.status)) = some .confirmed := by
  have cancelled (rows : BookingRows) (member : row ∈ rows.cancelRegional.regional schema) :
      False := by
    rw [BookingRows.status_cancelRegional member] at active
    exact nomatch active
  cases status : booking.status with
  | pending => exact absurd status (decided booking present)
  | sagaInProgress =>
      rw [BookingRows.reconcile_inProgress present status aged] at member
      exact (cancelled rows member).elim
  | confirmed =>
      by_cases dangling : rows.dangling now = true
      · rw [BookingRows.reconcile_dangling present dangling] at member
        exact (cancelled rows member).elim
      · rw [BookingRows.reconcile_confirmed present status (by simpa using dangling), present,
          Option.map_some, status]
  | rejected | cancelled =>
      rw [BookingRows.reconcile_inactive present (by simp [status, BookingStatus.active])] at member
      exact (cancelled rows member).elim

theorem Accounted.nothingLeaked (accounted : Accounted deployment state) (quiet : Quiet state)
    {now : Vm → DateTime}
    (aged : ∀ vm, ∀ booking ∈ (state.db vm).bookings.rows,
      booking.createdAt < now vm - orphanThreshold)
    (released : ∀ vm, ∀ id ∈ passGivesUp (state.db vm) (now vm),
      peerHolds state vm.peer id = false) :
    NothingLeaked state (reconciled state now) := by
  intro vm schema row member active
  have listed := Database.mem_rowsOf_regional.mpr ⟨member, rfl⟩
  rw [reconciled, rowsOf_runReconciliationOnce] at listed
  cases found : state.runs row.bookingId with
  | none =>
      have empty := accounted.inv.unborn row.bookingId found vm
      rw [State.rows] at empty
      rw [empty, BookingRows.reconcile_absent rfl] at listed
      cases listed
  | some run =>
      refine ⟨run, rfl, ?_⟩
      have booking := accounted.inv.booking row.bookingId run found
      rcases Vm.eq_or_peer run.vm vm with rfl | rfl
      · -- made on this VM: the pass has seen the booking itself
        cases present : ((state.db run.vm).rowsOf row.bookingId).booking with
        | none =>
            have empty := booking.absent present
            rw [State.rows] at empty
            rw [empty, BookingRows.reconcile_absent rfl] at listed
            cases listed
        | some stored =>
            rw [Database.status?_eq, reconciled, rowsOf_runReconciliationOnce]
            exact confirmed_of_active present booking.decided
              (aged run.vm stored (Database.mem_of_rowsOf present).1) listed active
      · -- made on the other VM: this pass cannot see the booking and leaves its rows
        have absent : ((state.db run.vm.peer).rowsOf row.bookingId).booking = none :=
          booking.foreign.1
        rw [BookingRows.reconcile_absent absent] at listed
        have holds : peerHolds state run.vm.peer row.bookingId = true :=
          peerHolds_iff.mpr (.inl ⟨schema, row, listed, active⟩)
        obtain ⟨stored, present, status⟩ :=
          quiet.confirmed found (accounted.kept row.bookingId run found holds)
        refine status?_reconciled present status ?_
        intro given
        cases (released run.vm row.bookingId given).symm.trans holds

/-- Nothing leaks from a run in which no booking is given up while the other VM holds
capacity for it, the final passes included. -/
theorem nothingLeaked_of_releasesFirst
    {capacity : Vm → RegionSchema → SegmentId → Option Nat}
    {users : Vm → DriverId → Option (Option Plate)} {actions : List Action} {now : Vm → DateTime}
    (executed : Lts.run (step deployment) (.initial capacity users) actions = some state)
    (releases : Lts.Meets (step deployment) (fun state action => releasesFirst state action = true)
      (.initial capacity users) actions)
    (quiet : Quiet state)
    (aged : ∀ vm, ∀ booking ∈ (state.db vm).bookings.rows,
      booking.createdAt < now vm - orphanThreshold)
    (released : ∀ vm, ∀ id ∈ passGivesUp (state.db vm) (now vm),
      peerHolds state vm.peer id = false) :
    NothingLeaked state (reconciled state now) := by
  have accounted : Accounted deployment state :=
    Lts.run_invariant (fun _ _ _ accounted releases stepped => accounted.step releases stepped)
      (accounted_initial capacity users) executed releases
  exact accounted.nothingLeaked quiet aged released

end

/-! ### A cross-region booking and its crash -/

def askPeer (id : BookingId) (accepted : Bool) : List Action :=
  let ask := Msg.reserve .vm2 id request.driverId ukSegment
  [.createBooking .vm1 id request, .advance id .ok, .advance id (.route crossingRoute),
    .advance id .ok, .serve ask accepted, .deliver (.reserved id accepted)]

def bookAcross : List Action :=
  askPeer 10 true ++ List.replicate 5 (.advance 10 .ok) ++ askPeer 11 false ++
    List.replicate 4 (.advance 11 .ok)

def crashAcross : List Action := askPeer 10 true ++ [.crash 10]

def hoursLater : Vm → DateTime := fun _ => hour

theorem quiet_of_two {state : State} {actions : List Action}
    (executed : Lts.run (step twoVms) emptyState actions = some state)
    (only : ∀ vm id request, Action.createBooking vm id request ∈ actions → id = 10 ∨ id = 11)
    (net : state.net = []) (first : (state.runs 10).all (·.pc.ended) = true)
    (second : (state.runs 11).all (·.pc.ended) = true) : Quiet state := by
  refine ⟨net, ?_⟩
  intro id run found
  obtain ⟨vm, request, begun⟩ := begun_of_run executed rfl found
  rcases only vm id request begun with rfl | rfl
  · simpa [found] using first
  · simpa [found] using second

theorem aged_of_all {state : State} {now : Vm → DateTime}
    (first : (state.db .vm1).bookings.rows.all
      (fun booking => booking.createdAt < now .vm1 - orphanThreshold) = true)
    (second : (state.db .vm2).bookings.rows.all
      (fun booking => booking.createdAt < now .vm2 - orphanThreshold) = true) :
    ∀ vm, ∀ booking ∈ (state.db vm).bookings.rows,
      booking.createdAt < now vm - orphanThreshold := by
  intro vm booking member
  cases vm with
  | vm1 => simpa using List.all_eq_true.mp first booking member
  | vm2 => simpa using List.all_eq_true.mp second booking member

def atRest (state : State) : Bool :=
  state.net.isEmpty && (state.runs 10).all (·.pc.ended) && (state.runs 11).all (·.pc.ended) &&
    ((state.db .vm1).bookings.rows ++ (state.db .vm2).bookings.rows).all fun booking =>
      booking.createdAt < hour - orphanThreshold

theorem atRest_sound {state : State} {actions : List Action} (rest : atRest state = true)
    (executed : Lts.run (step twoVms) emptyState actions = some state)
    (only : ∀ vm id request, Action.createBooking vm id request ∈ actions → id = 10 ∨ id = 11) :
    Quiet state ∧ ∀ vm, ∀ booking ∈ (state.db vm).bookings.rows,
      booking.createdAt < hoursLater vm - orphanThreshold := by
  simp only [atRest, Bool.and_eq_true, List.isEmpty_iff, List.all_append] at rest
  obtain ⟨⟨⟨net, first⟩, second⟩, old⟩ := rest
  exact ⟨quiet_of_two executed only net first second, aged_of_all old.1 old.2⟩

theorem nothingLeaked_bookAcross :
    ∃ state, Lts.run (step twoVms) emptyState bookAcross = some state ∧
      bookedCount (state.db .vm2) .regionUk 2 0 = 1 ∧
      NothingLeaked state (reconciled state hoursLater) := by
  have observed : (Lts.run (step twoVms) emptyState bookAcross).map (fun state =>
      (atRest state, bookedCount (state.db .vm2) .regionUk 2 0,
        [Vm.vm1, .vm2].all fun vm => (passGivesUp (state.db vm) hour).all fun id =>
          !peerHolds state vm.peer id)) = some (true, 1, true) := by decide
  obtain ⟨state, executed, outcome⟩ := Option.map_eq_some_iff.mp observed
  simp only [Prod.mk.injEq, List.all_cons, List.all_nil, Bool.and_true, Bool.and_eq_true] at outcome
  obtain ⟨rest, stored, releasedFirst, releasedSecond⟩ := outcome
  have only : ∀ vm id request, Action.createBooking vm id request ∈ bookAcross →
      id = 10 ∨ id = 11 := by
    intro vm id request member
    simp [bookAcross, askPeer, List.replicate] at member
    rcases member with ⟨_, rfl, _⟩ | ⟨_, rfl, _⟩
    · exact .inl rfl
    · exact .inr rfl
  obtain ⟨quiet, aged⟩ := atRest_sound rest executed only
  have checked : Lts.checks (step twoVms) releasesFirst emptyState bookAcross = true := by decide
  refine ⟨state, executed, stored, nothingLeaked_of_releasesFirst executed
    (Lts.checks_iff_meets.mp checked) quiet aged ?_⟩
  intro vm id given
  cases vm with
  | vm1 => simpa using List.all_eq_true.mp releasedFirst id given
  | vm2 => simpa using List.all_eq_true.mp releasedSecond id given

theorem leaked_crashAcross :
    ¬ ∀ (deployment : Deployment) (capacity : Vm → RegionSchema → SegmentId → Option Nat)
      (users : Vm → DriverId → Option (Option Plate)) (actions : List Action) (state : State)
      (now : Vm → DateTime),
      Lts.run (step deployment) (.initial capacity users) actions = some state → Quiet state →
      (∀ vm, ∀ booking ∈ (state.db vm).bookings.rows,
        booking.createdAt < now vm - orphanThreshold) →
      NothingLeaked state (reconciled state now) := by
  intro holds
  have observed : (Lts.run (step twoVms) emptyState crashAcross).map (fun state =>
      (atRest state, (reconciled state hoursLater .vm2).reservations .regionUk,
        (state.runs 10).map (·.vm), (reconciled state hoursLater .vm1).status? 10)) =
      some (true, [ukSegment.reservation 10 7], some .vm1, none) := by decide
  obtain ⟨state, executed, outcome⟩ := Option.map_eq_some_iff.mp observed
  simp only [Prod.mk.injEq] at outcome
  obtain ⟨rest, leaked, owner, vanished⟩ := outcome
  have only : ∀ vm id request, Action.createBooking vm id request ∈ crashAcross →
      id = 10 ∨ id = 11 := by
    intro vm id request member
    simp [crashAcross, askPeer] at member
    exact .inl member.2.1
  obtain ⟨quiet, aged⟩ := atRest_sound rest executed only
  obtain ⟨run, found, confirmed⟩ := holds twoVms _ _ crashAcross state hoursLater executed quiet aged
    .vm2 .regionUk (ukSegment.reservation 10 7) (by simp [leaked]) rfl
  have made : run.vm = .vm1 := by
    have known : state.runs 10 = some run := found
    simpa [known] using owner
  rw [made] at confirmed
  exact nomatch vanished.symm.trans confirmed

end TrafficService.Cluster
