import TrafficService.Cluster

/-! What one step of the cluster does to one booking: to its run, to its rows on either VM
and to the messages about it. The invariants are derived from this alone. -/

namespace TrafficService.Cluster

def State.rows (state : State) (vm : Vm) (id : BookingId) : BookingRows := (state.db vm).rowsOf id

def State.published (state : State) (id : BookingId) : List Event :=
  state.events.filter fun event => event.bookingId = id

def Outcome.rowsAfter (outcome : Outcome) (id : BookingId) (rows : BookingRows) : BookingRows :=
  match outcome.transaction with
  | none => rows
  | some transaction => transaction.onRows id rows

inductive External (state : State) : Action → Vm → BookingId → Transaction → Prop
  | serveReserve (target : Vm) (id : BookingId) (driverId : DriverId) (segment : RouteSegment)
      (sent : Msg.reserve target id driverId segment ∈ state.net) :
      External state (.serve (.reserve target id driverId segment) true) target id
        (.peerReserve driverId segment)
  | serveRelease (target : Vm) (id : BookingId) (sent : Msg.release target id ∈ state.net) :
      External state (.serve (.release target id) true) target id .peerRelease
  | cancel (vm : Vm) (id : BookingId) (driverId : DriverId) (published : Bool) (booking : Booking)
      (found : (state.rows vm id).booking = some booking) (uncancelled : booking.status ≠ .cancelled) :
      External state (.cancelBooking vm id driverId published) vm id .cancel
  | orphan (passId : PassId) (now : DateTime) (published : Bool) (pass : Pass) (row : Booking)
      (rest : List Booking) (found : state.passes passId = some pass)
      (here : pass.pc = .orphans (row :: rest))
      (clear : conflicts state pass row.id .orphan = false) :
      External state (.stepPass passId now published) pass.vm row.id .orphan
  | dangling (passId : PassId) (now : DateTime) (published : Bool) (pass : Pass) (row : Booking)
      (rest : List Booking) (found : state.passes passId = some pass)
      (here : pass.pc = .dangling (row :: rest)) :
      External state (.stepPass passId now published) pass.vm row.id .dangling
  | lingering (passId : PassId) (now : DateTime) (published : Bool) (pass : Pass)
      (schema : RegionSchema) (id : BookingId) (rest : List BookingId)
      (schemas : List RegionSchema) (found : state.passes passId = some pass)
      (here : pass.pc = .lingering schema (id :: rest) schemas) :
      External state (.stepPass passId now published) pass.vm id (.lingering schema)
inductive PassMove (state : State) (pass : Pass) : Pass → Prop
  | selectOrphans (now : DateTime) (here : pass.pc = .start) : PassMove state pass
      { pass with
        snapshot := some (pass.reads state)
        pc := .orphans (selectOrphans (pass.reads state) now) }
  | nextOrphan (row : Booking) (rest : List Booking) (here : pass.pc = .orphans (row :: rest))
      (clear : conflicts state pass row.id .orphan = false) :
      PassMove state pass { pass with snapshot := none, pc := .orphans rest }
  | selectDangling (now : DateTime) : PassMove state pass
      { pass with
        snapshot := some (pass.reads state)
        pc := .dangling (selectDangling (pass.reads state) now) }
  | nextDangling (row : Booking) (rest : List Booking) (here : pass.pc = .dangling (row :: rest)) :
      PassMove state pass { pass with snapshot := none, pc := .dangling rest }
  | sweep (schemas : List RegionSchema) : PassMove state pass { pass with pc := .sweep schemas }
  | selectLingering (schema : RegionSchema) (schemas : List RegionSchema) : PassMove state pass
      { pass with
        snapshot := some (pass.reads state)
        pc := .lingering schema (selectLingering (pass.reads state) schema) schemas }
  | nextLingering (schema : RegionSchema) (id : BookingId) (rest : List BookingId)
      (schemas : List RegionSchema) (here : pass.pc = .lingering schema (id :: rest) schemas) :
      PassMove state pass { pass with snapshot := none, pc := .lingering schema rest schemas }
def PassOrigin (state : State) (passId : PassId) (after : Pass) : Prop :=
  state.passes passId = some after ∨ (∃ vm, after = ⟨vm, none, .start⟩) ∨
    ∃ pass, state.passes passId = some pass ∧ PassMove state pass after

inductive Reports (state : State) : Action → BookingId → Event → Prop
  | cancel (vm : Vm) (id : BookingId) (driverId : DriverId) (published : Bool) (booking : Booking)
      (found : (state.rows vm id).booking = some booking) (driver : booking.driverId = driverId) :
      Reports state (.cancelBooking vm id driverId published) id
        (.bookingCancelled id driverId
          (resolvePlateNumber (state.db vm) booking.plateNumber driverId) (some booking.departureTime))
  | orphan (passId : PassId) (now : DateTime) (published : Bool) (pass : Pass) (row : Booking)
      (rest : List Booking) (found : state.passes passId = some pass)
      (here : pass.pc = .orphans (row :: rest)) :
      Reports state (.stepPass passId now published) row.id
        (.bookingFailed row.id row.driverId row.plateNumber)
  | dangling (passId : PassId) (now : DateTime) (published : Bool) (pass : Pass) (row : Booking)
      (rest : List Booking) (found : state.passes passId = some pass)
      (here : pass.pc = .dangling (row :: rest)) :
      Reports state (.stepPass passId now published) row.id
        (.bookingCancelled row.id row.driverId row.plateNumber none)

/-- The part of a step that leaves the runs and the tables alone. Messages may be lost and
replies sent, requests are not. -/
structure Frame (state before : State) (published : List Event) : Prop where
  runs : before.runs = state.runs
  db : before.db = state.db
  events : before.events = state.events ++ published
  passes : ∀ passId after, before.passes passId = some after → PassOrigin state passId after
  net : ∀ msg ∈ before.net, msg.asks ≠ none → msg ∈ state.net

inductive Taken (deployment : Deployment) (state next : State) (action : Action) : Prop
  | idle (frame : Frame state next [])
  | began (vm : Vm) (id : BookingId) (request : BookingRequest)
      (isBegin : action = .createBooking vm id request) (fresh : state.runs id = none)
      (set : next = setRun state id (.start vm (request.draft (state.db vm))))
  | crashed (id : BookingId) (run : CreateRun) (isCrash : action = .crash id)
      (found : state.runs id = some run) (running : run.pc.ended = false)
      (set : next = setRun state id { run with pc := .crashed })
  | advanced (before : State) (id : BookingId) (answer : Answer) (run : CreateRun)
      (outcome : Outcome) (frame : Frame state before [])
      (source : action = .advance id answer ∨ run.pc.waits = true)
      (found : state.runs id = some run) (moved : advance deployment id run answer = some outcome)
      (applied : applyOutcome before id outcome = some next)
  | committed (before : State) (vm : Vm) (id : BookingId) (transaction : Transaction)
      (published : List Event) (frame : Frame state before published)
      (source : External state action vm id transaction)
      (reports : ∀ event ∈ published, Reports state action id event)
      (announced : transaction.announced = false → published = [])
      (done : commit before vm id transaction = some next)

inductive Effect (deployment : Deployment) (state next : State) (action : Action)
    (id : BookingId) : Prop
  | unchanged (runs : next.runs id = state.runs id)
      (rows : ∀ vm, next.rows vm id = state.rows vm id)
      (events : next.published id = state.published id)
  | begun (vm : Vm) (draft : BookingDraft) (isBegin : ∃ request, action = .createBooking vm id request)
      (fresh : state.runs id = none)
      (runs : next.runs id = some (.start vm draft))
      (rows : ∀ vm, next.rows vm id = state.rows vm id)
      (events : next.published id = state.published id)
  | crashed (run : CreateRun) (isCrash : action = .crash id) (found : state.runs id = some run)
      (running : run.pc.ended = false) (runs : next.runs id = some { run with pc := .crashed })
      (rows : ∀ vm, next.rows vm id = state.rows vm id)
      (events : next.published id = state.published id)
  | advanced (run : CreateRun) (answer : Answer) (outcome : Outcome)
      (source : action = .advance id answer ∨ run.pc.waits = true)
      (found : state.runs id = some run) (moved : advance deployment id run answer = some outcome)
      (runs : next.runs id = some outcome.run)
      (rows : ∀ vm, next.rows vm id =
        if vm = outcome.run.vm then Outcome.rowsAfter outcome id (state.rows vm id)
        else state.rows vm id)
      (inserted : ∀ transaction, outcome.transaction = some transaction →
        transaction.inserts = true → (state.rows outcome.run.vm id).booking = none)
      (events : next.published id = state.published id ++ outcome.published)
  | external (vm : Vm) (transaction : Transaction)
      (source : External state action vm id transaction)
      (runs : next.runs id = state.runs id)
      (rows : ∀ place, next.rows place id =
        if place = vm then transaction.onRows id (state.rows place id) else state.rows place id)
      (events : transaction.announced = false → next.published id = state.published id)
section

variable {state next : State}

theorem rows_commit {vm : Vm} {id : BookingId} {transaction : Transaction}
    (committed : commit state vm id transaction = some next) (place : Vm) (other : BookingId) :
    next.rows place other =
      if other = id ∧ place = vm then transaction.onRows id (state.rows place other)
      else state.rows place other := by
  obtain ⟨db, applied, rfl⟩ := Option.map_eq_some_iff.mp committed
  simp only [State.rows]
  by_cases here : place = vm
  · subst here
    simp [Transaction.rowsOf_apply applied]
  · simp [here]

theorem frame_commit {vm : Vm} {id : BookingId} {transaction : Transaction}
    (committed : commit state vm id transaction = some next) :
    next.runs = state.runs ∧ next.passes = state.passes ∧ next.net = state.net ∧
      next.events = state.events := by
  obtain ⟨db, applied, rfl⟩ := Option.map_eq_some_iff.mp committed
  exact ⟨rfl, rfl, rfl, rfl⟩

theorem applyOutcome_effect {id : BookingId} {outcome : Outcome}
    (applied : applyOutcome state id outcome = some next) :
    next.runs = Function.update state.runs id (some outcome.run) ∧
      next.passes = state.passes ∧ next.net = state.net ++ outcome.sent ∧
      next.events = state.events ++ outcome.published ∧
      ∀ vm other, next.rows vm other =
        if other = id ∧ vm = outcome.run.vm then Outcome.rowsAfter outcome id (state.rows vm other)
        else state.rows vm other := by
  simp only [applyOutcome] at applied
  split at applied
  · rename_i none
    cases applied
    refine ⟨rfl, rfl, rfl, rfl, ?_⟩
    intro vm other
    simp [Outcome.rowsAfter, none, State.rows, setRun]
  · rename_i transaction some
    obtain ⟨runs, passes, net, events⟩ := frame_commit applied
    refine ⟨runs, passes, net, events, ?_⟩
    intro vm other
    rw [rows_commit applied]
    simp only [Outcome.rowsAfter, some]
    rfl

theorem applyOutcome_inserts {id : BookingId} {outcome : Outcome} {transaction : Transaction}
    (applied : applyOutcome state id outcome = some next)
    (committed : outcome.transaction = some transaction) (inserts : transaction.inserts = true) :
    (state.rows outcome.run.vm id).booking = none := by
  simp only [applyOutcome, committed] at applied
  obtain ⟨db, applied, _⟩ := Option.map_eq_some_iff.mp applied
  exact Transaction.absent_of_apply applied inserts
theorem Reports.bookingId {action : Action} {id : BookingId} {event : Event}
    (reports : Reports state action id event) : event.bookingId = id := by
  cases reports with
  | _ => rfl

/-! ### The forms of a step -/

theorem Frame.refl (state : State) : Frame state state [] :=
  ⟨rfl, rfl, (List.append_nil _).symm, fun _ _ => .inl, fun _ sent _ => sent⟩

theorem Frame.reply {msg reply : Msg} (answers : reply.asks = none) :
    Frame state { state with net := state.net.erase msg ++ [reply] } [] := by
  refine ⟨rfl, rfl, (List.append_nil _).symm, fun _ _ => .inl, ?_⟩
  intro sent member asks
  rcases List.mem_append.mp member with kept | last
  · exact List.mem_of_mem_erase kept
  · rw [List.mem_singleton.mp last] at asks
    exact absurd answers asks

theorem Frame.receive (msg : Msg) : Frame state { state with net := state.net.erase msg } [] :=
  ⟨rfl, rfl, (List.append_nil _).symm, fun _ _ => .inl,
    fun _ sent _ => List.mem_of_mem_erase sent⟩

theorem Frame.setPass {passId : PassId} {value : Option Pass}
    (origin : ∀ after, value = some after → PassOrigin state passId after) :
    Frame state (setPass state passId value) [] := by
  refine ⟨rfl, rfl, (List.append_nil _).symm, ?_, fun _ sent _ => sent⟩
  intro other after found
  by_cases same : other = passId
  · subst same
    exact origin after (by simpa [Cluster.setPass] using found)
  · exact .inl (by simpa [Cluster.setPass, same] using found)

theorem Frame.publish {before : State} (frame : Frame state before []) (published : List Event) :
    Frame state { before with events := before.events ++ published } published :=
  ⟨frame.runs, frame.db, by rw [frame.events, List.append_nil], frame.passes, frame.net⟩

section

variable {deployment : Deployment} {action : Action}

theorem Taken.advance {before : State} {id : BookingId} {answer : Answer}
    (frame : Frame state before [])
    (source : ∀ run, state.runs id = some run →
      action = .advance id answer ∨ run.pc.waits = true)
    (advanced : advanceRun deployment before id answer = some next) :
    Taken deployment state next action := by
  obtain ⟨run, found, advanced⟩ := Option.bind_eq_some_iff.mp advanced
  obtain ⟨outcome, moved, applied⟩ := Option.bind_eq_some_iff.mp advanced
  rw [frame.runs] at found
  exact .advanced before id answer run outcome frame (source run found) found moved applied

theorem Taken.serve {msg : Msg} {accepted : Bool} (sent : msg ∈ state.net)
    (served : Cluster.serve state msg accepted = some next) :
    Taken deployment state next (.serve msg accepted) := by
  cases msg with
  | reserve target id driverId segment =>
      simp only [Cluster.serve] at served
      split at served
      · rename_i yes
        subst yes
        exact .committed _ target id _ [] (.reply rfl) (.serveReserve target id driverId segment sent)
          (by simp) (fun _ => rfl) served
      · cases served
        exact .idle (.reply rfl)
  | release target id =>
      simp only [Cluster.serve] at served
      split at served
      · rename_i yes
        subst yes
        exact .committed _ target id _ [] (.reply rfl) (.serveRelease target id sent) (by simp)
          (fun _ => rfl) served
      · cases served
        exact .idle (.reply rfl)
  | reserved id stored => exact nomatch served
  | released id => exact nomatch served

theorem Taken.deliver {msg : Msg} (received : Cluster.deliver deployment state msg = some next) :
    Taken deployment state next action := by
  obtain ⟨run, found, delivered⟩ := Option.bind_eq_some_iff.mp received
  have waiting (pc : run.pc.waits = true) (other : CreateRun)
      (same : state.runs msg.bookingId = some other) : other.pc.waits = true := by
    cases found.symm.trans same
    exact pc
  split at delivered
  case h_1 segment todo here =>
      have waits : run.pc.waits = true := by simp [here, CreatePc.waits]
      exact .advance (.receive _) (fun other same => .inr (waiting waits other same)) delivered
  case h_2 here =>
      have waits : run.pc.waits = true := by simp [here, CreatePc.waits]
      exact .advance (.receive _) (fun other same => .inr (waiting waits other same)) delivered
  case h_3 => exact nomatch delivered

theorem Taken.passCommit {passId : PassId} {pass : Pass} {target : BookingId}
    {transaction : Transaction} {published : List Event} {pc : PassPc}
    (found : state.passes passId = some pass)
    (committed : Cluster.passCommit state passId pass target transaction published pc = some next)
    (source : conflicts state pass target transaction = false →
      External state action pass.vm target transaction)
    (move : conflicts state pass target transaction = false →
      PassMove state pass { pass with snapshot := none, pc })
    (reports : ∀ event ∈ published, Reports state action target event)
    (announced : transaction.announced = false → published = []) :
    Taken deployment state next action := by
  simp only [Cluster.passCommit] at committed
  split at committed
  · cases committed
    exact .idle (.setPass nofun)
  · rename_i conflict
    have clear : conflicts state pass target transaction = false := by simpa using conflict
    have frame : Frame state (setPass state passId (some { pass with snapshot := none, pc })) [] := by
      refine .setPass ?_
      rintro after ⟨⟩
      exact .inr (.inr ⟨pass, found, move clear⟩)
    exact .committed _ pass.vm target transaction published (frame.publish published) (source clear)
      reports announced committed

theorem Reports.of_mem_ite {event sent : Event} {published : Bool} {id : BookingId}
    (reports : Reports state action id event)
    (member : sent ∈ (if published then [event] else [])) : Reports state action id sent := by
  split at member
  · cases List.mem_singleton.mp member
    exact reports
  · exact nomatch member

theorem Taken.stepPass {passId : PassId} {pass : Pass} {now : DateTime} {published : Bool}
    (found : state.passes passId = some pass)
    (stepped : Cluster.stepPass state passId pass now published = some next) :
    Taken deployment state next (.stepPass passId now published) := by
  have queried (after : Pass) (move : PassMove state pass after) :
      Taken deployment state (setPass state passId (some after)) (.stepPass passId now published) := by
    refine .idle (.setPass ?_)
    rintro value ⟨⟩
    exact .inr (.inr ⟨pass, found, move⟩)
  simp only [Cluster.stepPass] at stepped
  split at stepped
  case h_1 here =>
      cases stepped
      exact queried _ (.selectOrphans now here)
  case h_2 row rest here =>
      exact .passCommit found stepped
        (fun clear => .orphan passId now published pass row rest found here clear)
        (.nextOrphan row rest here)
        (fun _ => (Reports.orphan passId now published pass row rest found here).of_mem_ite) nofun
  case h_3 =>
      cases stepped
      exact queried _ (.selectDangling now)
  case h_4 row rest here =>
      exact .passCommit found stepped
        (fun _ => .dangling passId now published pass row rest found here)
        (fun _ => .nextDangling row rest here)
        (fun _ => (Reports.dangling passId now published pass row rest found here).of_mem_ite) nofun
  case h_5 =>
      cases stepped
      exact queried _ (.sweep regionSchemas)
  case h_6 schema schemas here =>
      cases stepped
      exact queried _ (.selectLingering schema schemas)
  case h_7 =>
      cases stepped
      exact .idle (.setPass nofun)
  case h_8 schema listed rest schemas here =>
      exact .passCommit found stepped
        (fun _ => .lingering passId now published pass schema listed rest schemas found here)
        (fun _ => .nextLingering schema listed rest schemas here) (by simp) (fun _ => rfl)
  case h_9 schema schemas here =>
      cases stepped
      exact queried _ (.sweep schemas)

theorem step_taken (stepped : step deployment state action = some next) :
    Taken deployment state next action := by
  cases action with
  | createBooking vm target request =>
      simp only [step] at stepped
      split at stepped
      · exact nomatch stepped
      · rename_i fresh
        cases stepped
        exact .began vm target request rfl fresh rfl
  | advance target answer =>
      simp only [step] at stepped
      split at stepped
      · exact nomatch stepped
      · exact .advance (.refl state) (fun _ _ => .inl rfl) stepped
  | crash target =>
      simp only [step] at stepped
      split at stepped
      · exact nomatch stepped
      · rename_i run found
        split at stepped
        · exact nomatch stepped
        · rename_i running
          cases stepped
          exact .crashed target run rfl found (by simpa using running) rfl
  | serve msg accepted =>
      simp only [step] at stepped
      split at stepped
      · rename_i sent
        exact .serve sent stepped
      · exact nomatch stepped
  | deliver msg =>
      simp only [step] at stepped
      split at stepped
      · exact .deliver stepped
      · exact nomatch stepped
  | lose msg =>
      cases stepped
      exact .idle (.receive msg)
  | cancelBooking vm target driverId published =>
      simp only [step, cancelBooking] at stepped
      split at stepped
      · exact nomatch stepped
      · rename_i booking found
        split at stepped
        · exact nomatch stepped
        · rename_i driver
          split at stepped
          · cases stepped
            exact .idle (.refl state)
          · rename_i uncancelled
            exact .committed _ vm target .cancel _ ((Frame.refl state).publish _)
              (.cancel vm target driverId published booking found uncancelled)
              (fun _ => (Reports.cancel vm target driverId published booking found
                (not_not.mp driver)).of_mem_ite)
              nofun stepped
  | startPass passId vm =>
      simp only [step] at stepped
      split at stepped
      · exact nomatch stepped
      · cases stepped
        refine .idle (.setPass ?_)
        rintro after ⟨⟩
        exact .inr (.inl ⟨vm, rfl⟩)
  | stepPass passId now published =>
      obtain ⟨pass, found, stepped⟩ := Option.bind_eq_some_iff.mp stepped
      exact .stepPass found stepped
  | endPass passId =>
      cases stepped
      exact .idle (.setPass nofun)

end

/-! ### Rows, runs and events of one booking -/

theorem published_append {before : State} {events : List Event} {target : BookingId}
    (appended : before.events = state.events ++ events)
    (ofTarget : ∀ event ∈ events, event.bookingId = target) (id : BookingId) :
    before.published id = state.published id ++ if id = target then events else [] := by
  rw [State.published, appended, List.filter_append]
  split
  · rename_i same
    subst same
    have all : (events.filter fun event => event.bookingId = id) = events :=
      List.filter_eq_self.mpr fun event member => by simp [ofTarget event member]
    rw [all]
    rfl
  · rename_i other
    have foreign : (events.filter fun event => event.bookingId = id) = [] := by
      refine List.filter_eq_nil_iff.mpr ?_
      intro event member
      simp [ofTarget event member, Ne.symm other]
    rw [foreign]
    rfl

theorem advance_published {deployment : Deployment} {id : BookingId} {run : CreateRun}
    {answer : Answer} {outcome : Outcome} (moved : advance deployment id run answer = some outcome) :
    ∀ event ∈ outcome.published, event.bookingId = id := by
  revert moved
  fun_cases advance deployment id run answer
  all_goals
    intro moved
    cases moved
  all_goals
    simp [CreateRun.confirmedEvent, CreateRun.failedEvent, Event.bookingId]
theorem step_effect {deployment : Deployment} {action : Action}
    (stepped : step deployment state action = some next) (id : BookingId) :
    Effect deployment state next action id := by
  have same {before : State} (db : before.db = state.db) (vm : Vm) (other : BookingId) :
      before.rows vm other = state.rows vm other := by
    rw [State.rows, db]
    rfl
  cases step_taken stepped with
  | idle frame =>
      refine .unchanged (by rw [frame.runs]) (fun vm => same frame.db vm id) ?_
      rw [State.published, frame.events, List.append_nil]
      rfl
  | began vm target request isBegin fresh set =>
      subst set
      by_cases own : id = target
      · subst own
        exact .begun vm (request.draft (state.db vm)) ⟨request, isBegin⟩ fresh (by simp [setRun])
          (fun _ => rfl) rfl
      · exact .unchanged (by simp [setRun, own]) (fun _ => rfl) rfl
  | crashed target run isCrash found running set =>
      subst set
      by_cases own : id = target
      · subst own
        exact .crashed run isCrash found running (by simp [setRun]) (fun _ => rfl) rfl
      · exact .unchanged (by simp [setRun, own]) (fun _ => rfl) rfl
  | advanced before target answer run outcome frame source found moved applied =>
      obtain ⟨runs, _, _, events, rows⟩ := applyOutcome_effect applied
      rw [frame.events, List.append_nil] at events
      have published := published_append events (advance_published moved) id
      by_cases own : id = target
      · subst own
        refine .advanced run answer outcome source found moved ?_ ?_ ?_ ?_
        · rw [runs, Function.update_self]
        · intro place
          rw [rows, same frame.db]
          simp
        · intro transaction committed inserts
          rw [← same frame.db]
          exact applyOutcome_inserts applied committed inserts
        · rw [published, if_pos rfl]
      · refine .unchanged ?_ ?_ ?_
        · rw [runs, Function.update_of_ne own, frame.runs]
        · intro place
          rw [rows, same frame.db]
          simp [own]
        · rw [published, if_neg own, List.append_nil]
  | committed before vm target transaction events frame source reports announced done =>
      obtain ⟨runs, _, _, after⟩ := frame_commit done
      rw [frame.events] at after
      have published := published_append after (fun event member => (reports event member).bookingId) id
      have rows := rows_commit done
      by_cases own : id = target
      · subst own
        refine .external vm transaction source ?_ ?_ ?_
        · rw [runs, frame.runs]
        · intro place
          rw [rows, same frame.db]
          simp
        · intro silent
          rw [published, announced silent, ite_self, List.append_nil]
      · refine .unchanged ?_ ?_ ?_
        · rw [runs, frame.runs]
        · intro place
          rw [rows, same frame.db]
          simp [own]
        · rw [published, if_neg own, List.append_nil]

/-- Only `create_booking` starts a run. -/
theorem begun_of_run {deployment : Deployment} {start finish : State} {actions : List Action}
    {id : BookingId} {run : CreateRun}
    (executed : Lts.run (step deployment) start actions = some finish)
    (fresh : start.runs id = none) (found : finish.runs id = some run) :
    ∃ vm request, Action.createBooking vm id request ∈ actions := by
  induction actions generalizing start with
  | nil =>
      cases executed
      exact nomatch fresh.symm.trans found
  | cons action rest ih =>
      obtain ⟨middle, stepped, remaining⟩ := Lts.run_cons_eq_some.mp executed
      have later (still : middle.runs id = none) :
          ∃ vm request, Action.createBooking vm id request ∈ action :: rest := by
        obtain ⟨vm, request, member⟩ := ih remaining still
        exact ⟨vm, request, List.mem_cons_of_mem action member⟩
      cases step_effect stepped id with
      | unchanged runs rows => exact later (runs.trans fresh)
      | begun vm draft isBegin fresh runs rows =>
          obtain ⟨request, rfl⟩ := isBegin
          exact ⟨vm, request, List.mem_cons_self⟩
      | crashed before isCrash known running runs rows => exact nomatch fresh.symm.trans known
      | advanced before answer outcome source known moved runs rows =>
          exact nomatch fresh.symm.trans known
      | external vm transaction source runs rows => exact later (runs.trans fresh)
/-! ### Passes -/

theorem step_pass {deployment : Deployment} {action : Action} {passId : PassId} {after : Pass}
    (stepped : step deployment state action = some next)
    (found : next.passes passId = some after) : PassOrigin state passId after := by
  cases step_taken stepped with
  | idle frame => exact frame.passes passId after found
  | began vm id request isBegin fresh set =>
      subst set
      exact .inl found
  | crashed id run isCrash known running set =>
      subst set
      exact .inl found
  | advanced before id answer run outcome frame source known moved applied =>
      rw [(applyOutcome_effect applied).2.1] at found
      exact frame.passes passId after found
  | committed before vm id transaction published frame source reports announced done =>
      rw [(frame_commit done).2.1] at found
      exact frame.passes passId after found

/-! ### Messages -/

def Sent (deployment : Deployment) (state next : State) (msg : Msg) : Prop :=
  msg ∈ state.net ∨ ∃ id run answer outcome, state.runs id = some run ∧
    advance deployment id run answer = some outcome ∧ msg ∈ outcome.sent ∧
    next.runs id = some outcome.run
theorem step_sent {deployment : Deployment} {action : Action} {msg : Msg} {target : Vm}
    (stepped : step deployment state action = some next) (member : msg ∈ next.net)
    (asks : msg.asks = some target) : Sent deployment state next msg := by
  have request : msg.asks ≠ none := by simp [asks]
  cases step_taken stepped with
  | idle frame => exact .inl (frame.net msg member request)
  | began vm id draft isBegin fresh set =>
      subst set
      exact .inl member
  | crashed id run isCrash found running set =>
      subst set
      exact .inl member
  | advanced before id answer run outcome frame source found moved applied =>
      obtain ⟨runs, _, net, _, _⟩ := applyOutcome_effect applied
      rw [net, List.mem_append] at member
      rcases member with old | sent
      · exact .inl (frame.net msg old request)
      · exact .inr ⟨id, run, answer, outcome, found, moved, sent, by
          rw [runs, Function.update_self]⟩
  | committed before vm id transaction published frame source reports announced done =>
      rw [(frame_commit done).2.2.1] at member
      exact .inl (frame.net msg member request)

end

end TrafficService.Cluster
