import TrafficService.PeerCompensation

/-!
The reservations a request asks of the peer, one at a time: what is in flight, what the peer has
stored and where the request stands, after any loss, delay or crash.
-/

namespace TrafficService.Cluster

/-! ### Requests of a reservation and the answers to them -/

def ofReservation (id : BookingId) : Msg → Bool
  | .reserve _ other _ _ | .reserved other _ => other = id
  | .release .. | .released _ => false

/-- What is in flight of the reservations a booking asks of the peer. -/
def mail (id : BookingId) (net : List Msg) : List Msg := net.filter (ofReservation id)

/-- What is left of the mail once the answer is taken out, with what the step sends. -/
def Receives (id : BookingId) (answer : Answer) (letters after sent : List Msg) : Prop :=
  (∀ stored, answer ≠ .reserved stored) ∧ after = letters ++ mail id sent ∨
    ∃ stored, answer = .reserved stored ∧ .reserved id stored ∈ letters ∧
      after = letters.erase (.reserved id stored) ++ mail id sent

/-- One step, seen from one booking: its run, that mail, and its rows. -/
inductive Exchange (deployment : Deployment) (state next : State) (id : BookingId) : Prop
  | moved (run : CreateRun) (answer : Answer) (outcome : Outcome)
      (found : state.runs id = some run) (moves : advance deployment id run answer = some outcome)
      (runs : next.runs id = some outcome.run)
      (mails : Receives id answer (mail id state.net) (mail id next.net) outcome.sent)
      (rows : ∀ vm, next.rows vm id =
        if vm = outcome.run.vm then Outcome.rowsAfter outcome id (state.rows vm id)
        else state.rows vm id)
  | began (vm : Vm) (draft : BookingDraft) (fresh : state.runs id = none)
      (runs : next.runs id = some (.start vm draft)) (mails : mail id next.net = mail id state.net)
      (rows : ∀ vm, next.rows vm id = state.rows vm id)
  | crashed (run : CreateRun) (found : state.runs id = some run)
      (runs : next.runs id = some { run with pc := .crashed })
      (mails : mail id next.net = mail id state.net)
      (rows : ∀ vm, next.rows vm id = state.rows vm id)
  | served (target : Vm) (driverId : DriverId) (segment : RouteSegment) (accepted : Bool)
      (asked : .reserve target id driverId segment ∈ mail id state.net)
      (runs : next.runs id = state.runs id)
      (mails : mail id next.net = (mail id state.net).erase (.reserve target id driverId segment) ++
        [.reserved id accepted])
      (rows : ∀ vm, next.rows vm id =
        if accepted ∧ vm = target then
          (Transaction.peerReserve driverId segment).onRows id (state.rows vm id)
        else state.rows vm id)
  | kept (runs : next.runs id = state.runs id)
      (mails : (mail id next.net).Sublist (mail id state.net))
      (rows : ∀ vm, next.rows vm id = state.rows vm id ∨ ∃ transaction : Transaction,
        transaction.updates = true ∧ next.rows vm id = transaction.onRows id (state.rows vm id))

section

variable {deployment : Deployment} {state next : State} {action : Action} {id target : BookingId}

theorem mail_append (first second : List Msg) :
    mail id (first ++ second) = mail id first ++ mail id second := List.filter_append ..

theorem mail_erase (net : List Msg) (msg : Msg) : mail id (net.erase msg) = (mail id net).erase msg :=
  List.erase_filter.symm

theorem mail_erase_of_not {msg : Msg} (net : List Msg) (foreign : ofReservation id msg = false) :
    mail id (net.erase msg) = mail id net := by
  rw [mail_erase]
  apply List.erase_of_not_mem
  intro member
  exact absurd (List.mem_filter.mp member).2 (by rw [foreign]; exact Bool.false_ne_true)

theorem mail_singleton_of_not {msg : Msg} (foreign : ofReservation id msg = false) : mail id [msg] = [] := by
  simp [mail, foreign]

theorem mem_mail {msg : Msg} {net : List Msg} (ours : ofReservation id msg = true) (member : msg ∈ net) :
    msg ∈ mail id net := List.mem_filter.mpr ⟨member, ours⟩

theorem mail_sent {run : CreateRun} {answer : Answer} {outcome : Outcome} (apart : target ≠ id)
    (moved : advance deployment target run answer = some outcome) : mail id outcome.sent = [] := by
  rw [mail, List.filter_eq_nil_iff]
  intro msg sent ours
  have own := (advance_sent moved sent).1
  cases msg with
  | reserve | reserved => exact apart (own.symm.trans (of_decide_eq_true ours))
  | release | released => cases ours

theorem exchange_of_same (runs : next.runs = state.runs) (db : next.db = state.db)
    (net : (mail id next.net).Sublist (mail id state.net)) : Exchange deployment state next id :=
  .kept (by rw [runs]) net fun vm => .inl (by rw [State.rows, db]; rfl)

theorem exchange_of_commit {before : State} {vm : Vm} {transaction : Transaction}
    (committed : commit before vm target transaction = some next)
    (updates : transaction.updates = true) (runs : before.runs = state.runs)
    (db : before.db = state.db) (net : (mail id before.net).Sublist (mail id state.net)) :
    Exchange deployment state next id := by
  obtain ⟨sameRuns, _, sameNet, _⟩ := frame_commit committed
  refine .kept (by rw [sameRuns, runs]) (by rwa [sameNet]) ?_
  intro place
  have same : before.rows place id = state.rows place id := by rw [State.rows, db]; rfl
  rw [rows_commit committed, same]
  split
  · next own => exact .inr ⟨transaction, updates, by rw [own.1]⟩
  · exact .inl rfl

theorem exchange_advanceRun {before : State} {answer : Answer}
    (advanced : advanceRun deployment before target answer = some next)
    (runs : before.runs = state.runs) (db : before.db = state.db)
    (net : target ≠ id → (mail id before.net).Sublist (mail id state.net))
    (own : target = id → (∀ stored, answer ≠ .reserved stored) ∧
        mail id before.net = mail id state.net ∨
      ∃ stored, answer = .reserved stored ∧ .reserved id stored ∈ mail id state.net ∧
        mail id before.net = (mail id state.net).erase (.reserved id stored)) :
    Exchange deployment state next id := by
  obtain ⟨run, found, advanced⟩ := Option.bind_eq_some_iff.mp advanced
  obtain ⟨outcome, moves, applied⟩ := Option.bind_eq_some_iff.mp advanced
  obtain ⟨changed, _, sent, _, rows⟩ := applyOutcome_effect applied
  have same (vm : Vm) (other : BookingId) : before.rows vm other = state.rows vm other := by
    rw [State.rows, db]
    rfl
  rw [runs] at found changed
  by_cases ours : target = id
  · subst ours
    refine .moved run answer outcome found moves (by rw [changed, Function.update_self]) ?_ ?_
    · rw [sent, mail_append]
      rcases own rfl with ⟨other, kept⟩ | ⟨stored, answered, arrived, kept⟩
      · exact .inl ⟨other, by rw [kept]⟩
      · exact .inr ⟨stored, answered, arrived, by rw [kept]⟩
    · intro vm
      rw [rows, same]
      simp
  · refine .kept (by rw [changed, Function.update_of_ne (Ne.symm ours)]) ?_ ?_
    · rw [sent, mail_append, mail_sent ours moves, List.append_nil]
      exact net ours
    · intro vm
      rw [rows, same]
      simp [Ne.symm ours]

theorem exchange_serve {msg : Msg} {accepted : Bool} (sent : msg ∈ state.net)
    (served : serve state msg accepted = some next) : Exchange deployment state next id := by
  cases msg with
  | reserve place other driverId segment =>
      have replied (runs : next.runs = state.runs) (net : next.net =
          state.net.erase (.reserve place other driverId segment) ++ [.reserved other accepted])
          (rows : ∀ vm, next.rows vm id = if accepted ∧ id = other ∧ vm = place then
            (Transaction.peerReserve driverId segment).onRows id (state.rows vm id)
            else state.rows vm id) : Exchange deployment state next id := by
        by_cases ours : other = id
        · subst ours
          refine .served place driverId segment accepted (mem_mail (by simp [ofReservation]) sent)
            (by rw [runs]) ?_ ?_
          · rw [net, mail_append, mail_erase]
            simp [mail, ofReservation]
          · intro vm
            rw [rows]
            simp
        · refine .kept (by rw [runs]) ?_ ?_
          · rw [net, mail_append, mail_erase_of_not _ (by simp [ofReservation, ours]),
              mail_singleton_of_not (by simp [ofReservation, ours]), List.append_nil]
          · intro vm
            rw [rows, if_neg (fun both => ours both.2.1.symm)]
            exact .inl rfl
      simp only [serve] at served
      cases accepted with
      | true =>
          rw [if_pos rfl] at served
          obtain ⟨runs, _, net, _⟩ := frame_commit served
          refine replied runs net ?_
          intro vm
          rw [rows_commit served]
          by_cases ours : id = other
          · subst ours
            simp [State.rows]
          · simp [State.rows, ours]
      | false =>
          cases served
          refine replied rfl rfl ?_
          intro vm
          simp [State.rows]
  | release place other =>
      have quiet : mail id (state.net.erase (.release place other) ++ [.released other]) =
          mail id state.net := by
        rw [mail_append, mail_erase_of_not _ rfl, mail_singleton_of_not rfl, List.append_nil]
      simp only [serve] at served
      split at served
      · exact exchange_of_commit served rfl rfl rfl (by rw [quiet])
      · cases served
        exact exchange_of_same rfl rfl (by rw [quiet])
  | reserved other stored => cases served
  | released other => cases served

theorem exchange_deliver {msg : Msg} (sent : msg ∈ state.net)
    (received : deliver deployment state msg = some next) : Exchange deployment state next id := by
  obtain ⟨run, found, delivered⟩ := Option.bind_eq_some_iff.mp received
  have fewer : (mail id (state.net.erase msg)).Sublist (mail id state.net) := by
    rw [mail_erase]
    exact List.erase_sublist
  split at delivered
  case h_1 other stored segment todo here =>
      refine exchange_advanceRun delivered rfl rfl (fun _ => fewer) ?_
      rintro rfl
      exact .inr ⟨stored, rfl, mem_mail (by simp [ofReservation]) sent, mail_erase ..⟩
  case h_2 other here =>
      refine exchange_advanceRun delivered rfl rfl (fun _ => fewer) ?_
      rintro rfl
      refine .inl ⟨?_, mail_erase_of_not _ rfl⟩
      intro stored same
      cases same
  case h_3 => cases delivered

theorem exchange_passCommit {passId : PassId} {pass : Pass} {transaction : Transaction}
    {published : List Event} {pc : PassPc} (updates : transaction.updates = true)
    (committed : passCommit state passId pass target transaction published pc = some next) :
    Exchange deployment state next id := by
  simp only [passCommit] at committed
  split at committed
  · cases committed
    exact exchange_of_same rfl rfl (List.Sublist.refl _)
  · exact exchange_of_commit committed updates rfl rfl (List.Sublist.refl _)

theorem exchange_stepPass {passId : PassId} {pass : Pass} {now : DateTime} {published : Bool}
    (stepped : stepPass state passId pass now published = some next) :
    Exchange deployment state next id := by
  simp only [stepPass] at stepped
  split at stepped
  case h_2 | h_4 | h_8 => exact exchange_passCommit rfl stepped
  all_goals
    cases stepped
    exact exchange_of_same rfl rfl (List.Sublist.refl _)

theorem step_exchange (stepped : step deployment state action = some next) (id : BookingId) :
    Exchange deployment state next id := by
  cases action with
  | createBooking vm target request =>
      simp only [step] at stepped
      split at stepped
      · cases stepped
      · next fresh =>
          cases stepped
          by_cases own : target = id
          · subst own
            exact .began vm _ fresh (Function.update_self ..) rfl fun _ => rfl
          · exact .kept (Function.update_of_ne (Ne.symm own) _ _) (List.Sublist.refl _)
              fun _ => .inl rfl
  | advance target answer =>
      simp only [step] at stepped
      split at stepped
      · cases stepped
      · next asked =>
          refine exchange_advanceRun stepped rfl rfl (fun _ => List.Sublist.refl _) ?_
          intro _
          refine .inl ⟨?_, rfl⟩
          rintro stored rfl
          exact asked rfl
  | crash target =>
      simp only [step] at stepped
      split at stepped
      · cases stepped
      · next run found =>
          split at stepped
          · cases stepped
          · cases stepped
            by_cases own : target = id
            · subst own
              exact .crashed run found (Function.update_self ..) rfl fun _ => rfl
            · exact .kept (Function.update_of_ne (Ne.symm own) _ _) (List.Sublist.refl _)
                fun _ => .inl rfl
  | serve msg accepted =>
      simp only [step] at stepped
      split at stepped
      · next sent => exact exchange_serve sent stepped
      · cases stepped
  | deliver msg =>
      simp only [step] at stepped
      split at stepped
      · next sent => exact exchange_deliver sent stepped
      · cases stepped
  | lose msg =>
      cases stepped
      refine exchange_of_same rfl rfl ?_
      rw [mail_erase]
      exact List.erase_sublist
  | cancelBooking vm target driverId published =>
      simp only [step, cancelBooking] at stepped
      split at stepped
      · cases stepped
      · split at stepped
        · cases stepped
        · split at stepped
          · cases stepped
            exact exchange_of_same rfl rfl (List.Sublist.refl _)
          · exact exchange_of_commit stepped rfl rfl rfl (List.Sublist.refl _)
  | startPass passId vm =>
      simp only [step] at stepped
      split at stepped
      · cases stepped
      · cases stepped
        exact exchange_of_same rfl rfl (List.Sublist.refl _)
  | stepPass passId now published =>
      obtain ⟨pass, _, stepped⟩ := Option.bind_eq_some_iff.mp stepped
      exact exchange_stepPass stepped
  | endPass passId =>
      cases stepped
      exact exchange_of_same rfl rfl (List.Sublist.refl _)

end

/-! ### The exchange with the peer -/

def CreateRun.path (run : CreateRun) : List RouteSegment := (run.route.map (·.segments)).getD []

/-- What can be in flight about a segment, beside what the peer has stored for it. -/
inductive Letter (run : CreateRun) (id : BookingId) (segment : RouteSegment) :
    List Msg → List RouteSegment → Prop
  | asked : Letter run id segment [.reserve run.vm.peer id run.draft.driverId segment] []
  | accepted : Letter run id segment [.reserved id true] [segment]
  | refused : Letter run id segment [.reserved id false] []
  | lost (added : List RouteSegment) (among : added.Sublist [segment]) :
      Letter run id segment [] added

/-- The peer has stored a prefix of its segments, and may still be asked for the next one. -/
def Underway (deployment : Deployment) (id : BookingId) (run : CreateRun) (letters : List Msg)
    (taken : List RouteSegment) : Prop :=
  (letters = [] ∧ taken <+: remoteSegments deployment run.vm (CreateRun.path run)) ∨
    ∃ done segment added, taken = done ++ added ∧ Letter run id segment letters added ∧
      done ++ [segment] <+: remoteSegments deployment run.vm (CreateRun.path run)

/-- Where the request stands, against what is in flight and what the peer has stored. -/
def PeerSide (deployment : Deployment) (id : BookingId) (run : CreateRun) (letters : List Msg)
    (taken : List RouteSegment) : Prop :=
  match run.pc with
  | .flush | .resolve => run.reserved = [] ∧ letters = [] ∧ taken = []
  | .reserve todo => run.reserved ++ todo = CreateRun.path run ∧ letters = [] ∧
      taken = remoteSegments deployment run.vm run.reserved
  | .peerWait segment todo => run.reserved ++ segment :: todo = CreateRun.path run ∧
      deployment.isLocal run.vm segment.region = false ∧
      ∃ added, Letter run id segment letters added ∧
        taken = remoteSegments deployment run.vm run.reserved ++ added
  | .publishConfirmed | .finalCommit | .refresh | .returned =>
      letters = [] ∧ taken = remoteSegments deployment run.vm (CreateRun.path run)
  | _ => Underway deployment id run letters taken

section

variable {deployment : Deployment} {id : BookingId} {run : CreateRun} {answer : Answer}
  {outcome : Outcome} {segment : RouteSegment} {letters fewer : List Msg}
  {taken added : List RouteSegment}

theorem remoteSegments_append (vm : Vm) (first second : List RouteSegment) :
    remoteSegments deployment vm (first ++ second) =
      remoteSegments deployment vm first ++ remoteSegments deployment vm second :=
  List.filter_append ..

theorem Letter.lose (letter : Letter run id segment letters added) (sub : fewer.Sublist letters) :
    Letter run id segment fewer added := by
  cases letter with
  | asked =>
      rcases List.sublist_singleton.mp sub with rfl | rfl
      · exact .lost [] (List.nil_sublist _)
      · exact .asked
  | accepted =>
      rcases List.sublist_singleton.mp sub with rfl | rfl
      · exact .lost [segment] (List.Sublist.refl _)
      · exact .accepted
  | refused =>
      rcases List.sublist_singleton.mp sub with rfl | rfl
      · exact .lost [] (List.nil_sublist _)
      · exact .refused
  | lost added among =>
      rw [List.sublist_nil.mp sub]
      exact .lost added among

theorem Letter.serve {target : Vm} {driverId : DriverId} {other : RouteSegment} (accepted : Bool)
    (letter : Letter run id segment letters added)
    (asked : .reserve target id driverId other ∈ letters) :
    target = run.vm.peer ∧ driverId = run.draft.driverId ∧ other = segment ∧ added = [] ∧
      Letter run id segment (letters.erase (.reserve target id driverId other) ++
        [.reserved id accepted]) (if accepted then [segment] else []) := by
  cases letter with
  | asked =>
      cases List.mem_singleton.mp asked
      refine ⟨rfl, rfl, rfl, rfl, ?_⟩
      rw [List.erase_cons_head, List.nil_append]
      cases accepted with
      | true => exact .accepted
      | false => exact .refused
  | accepted | refused => cases List.mem_singleton.mp asked
  | lost => cases asked

theorem Letter.receive {stored : Bool} (letter : Letter run id segment letters added)
    (arrived : .reserved id stored ∈ letters) :
    letters.erase (.reserved id stored) = [] ∧ added = if stored then [segment] else [] := by
  cases letter with
  | asked => cases List.mem_singleton.mp arrived
  | accepted =>
      cases List.mem_singleton.mp arrived
      exact ⟨List.erase_cons_head .., rfl⟩
  | refused =>
      cases List.mem_singleton.mp arrived
      exact ⟨List.erase_cons_head .., rfl⟩
  | lost => cases arrived

theorem Underway.lose (underway : Underway deployment id run letters taken)
    (sub : fewer.Sublist letters) : Underway deployment id run fewer taken := by
  rcases underway with ⟨rfl, begun⟩ | ⟨done, segment, added, same, letter, begun⟩
  · exact .inl ⟨List.sublist_nil.mp sub, begun⟩
  · exact .inr ⟨done, segment, added, same, letter.lose sub, begun⟩

theorem advance_givesUp (moved : advance deployment id run answer = some outcome)
    (late : CreatePc.early outcome.run.pc = false)
    (unconfirmed : CreatePc.confirming outcome.run.pc = false) :
    outcome.run.route = run.route ∧ mail id outcome.sent = [] := by
  revert moved
  fun_cases advance deployment id run answer
  all_goals
    intro moved
    cases moved
  all_goals
    simp_all [CreatePc.early, CreatePc.confirming, mail, ofReservation]

theorem advance_onward (moved : advance deployment id run answer = some outcome)
    (confirming : CreatePc.confirming outcome.run.pc = true) :
    (CreatePc.confirming run.pc = true ∨ run.pc = .reserve []) ∧ outcome.run.route = run.route ∧
      mail id outcome.sent = [] := by
  revert moved
  fun_cases advance deployment id run answer
  all_goals
    intro moved
    cases moved
  all_goals
    simp_all [CreatePc.confirming, mail]

inductive LoopStep (deployment : Deployment) (id : BookingId) (run : CreateRun) (answer : Answer) :
    Outcome → Prop
  | flushed (here : run.pc = .flush) : LoopStep deployment id run answer (run.goto .resolve)
  | resolved (here : run.pc = .resolve) (route : Route) : LoopStep deployment id run answer
      ({ run with route := some route }.goto (.reserve route.segments))
  | reserved (segment : RouteSegment) (rest : List RouteSegment)
      (here : run.pc = .reserve (segment :: rest))
      (own : deployment.isLocal run.vm segment.region = true) :
      LoopStep deployment id run answer
        ({ run with reserved := run.reserved ++ [segment] }.goto (.reserve rest))
  | asked (segment : RouteSegment) (rest : List RouteSegment)
      (here : run.pc = .reserve (segment :: rest))
      (remote : deployment.isLocal run.vm segment.region = false) :
      LoopStep deployment id run answer ((run.goto (.peerWait segment rest)).sends
        (.reserve run.vm.peer id run.draft.driverId segment))
  | accepted (segment : RouteSegment) (rest : List RouteSegment)
      (here : run.pc = .peerWait segment rest) (answered : answer = .reserved true) :
      LoopStep deployment id run answer
        ({ run with reserved := run.reserved ++ [segment], peerReserved := true }.goto
          (.reserve rest))

theorem loopStep_of_early (moved : advance deployment id run answer = some outcome)
    (early : CreatePc.early outcome.run.pc = true) : LoopStep deployment id run answer outcome := by
  revert moved
  fun_cases advance deployment id run answer
  all_goals
    intro moved
    cases moved
  case case1 here => exact .flushed here
  case case3 here route => exact .resolved here route
  case case8 segment rest here own => exact .reserved segment rest here own
  case case10 segment rest here remote => exact .asked segment rest here (by simpa using remote)
  case case13 segment rest here => exact .accepted segment rest here rfl
  all_goals cases early

theorem remoteSegments_cons_of_remote {vm : Vm} {rest : List RouteSegment}
    (remote : deployment.isLocal vm segment.region = false) :
    remoteSegments deployment vm (segment :: rest) = segment :: remoteSegments deployment vm rest := by
  simp [remoteSegments, remote]

theorem PeerSide.underway (side : PeerSide deployment id run letters taken) :
    Underway deployment id run letters taken := by
  simp only [PeerSide] at side
  split at side
  · obtain ⟨_, rfl, rfl⟩ := side
    exact .inl ⟨rfl, List.nil_prefix⟩
  · obtain ⟨_, rfl, rfl⟩ := side
    exact .inl ⟨rfl, List.nil_prefix⟩
  · next todo here =>
      obtain ⟨route, rfl, rfl⟩ := side
      refine .inl ⟨rfl, ?_⟩
      rw [← route, remoteSegments_append]
      exact List.prefix_append ..
  · next segment todo here =>
      obtain ⟨route, remote, added, letter, rfl⟩ := side
      refine .inr ⟨_, segment, added, rfl, letter, ?_⟩
      rw [← route, remoteSegments_append, remoteSegments_cons_of_remote remote]
      exact ⟨_, by rw [List.append_assoc, List.singleton_append]⟩
  case h_5 | h_6 | h_7 | h_8 =>
      obtain ⟨rfl, rfl⟩ := side
      exact .inl ⟨rfl, List.prefix_refl _⟩
  · exact side

/-- Outside the loop and the way to CONFIRMED nothing more is known. -/
theorem PeerSide.of_underway (underway : Underway deployment id run letters taken)
    (late : CreatePc.early run.pc = false) (unconfirmed : CreatePc.confirming run.pc = false) :
    PeerSide deployment id run letters taken := by
  rw [PeerSide]
  split
  case h_1 here | h_2 here | h_3 here | h_4 here => simp [here, CreatePc.early] at late
  case h_5 here | h_6 here | h_7 here | h_8 here =>
      simp [here, CreatePc.confirming] at unconfirmed
  case h_9 => exact underway

theorem PeerSide.confirming (side : PeerSide deployment id run letters taken)
    (confirming : CreatePc.confirming run.pc = true ∨ run.pc = .reserve []) :
    letters = [] ∧ taken = remoteSegments deployment run.vm (CreateRun.path run) := by
  simp only [PeerSide] at side
  split at side
  case h_5 | h_6 | h_7 | h_8 => exact side
  case h_3 todo here =>
      simp only [here, CreatePc.confirming, Bool.false_eq_true, false_or, CreatePc.reserve.injEq]
        at confirming
      subst confirming
      obtain ⟨route, empty, same⟩ := side
      rw [List.append_nil] at route
      exact ⟨empty, by rw [same, route]⟩
  all_goals simp_all [CreatePc.confirming]

theorem PeerSide.of_confirming (empty : letters = [])
    (same : taken = remoteSegments deployment run.vm (CreateRun.path run))
    (confirming : CreatePc.confirming run.pc = true) : PeerSide deployment id run letters taken := by
  rw [PeerSide]
  split
  case h_5 | h_6 | h_7 | h_8 => exact ⟨empty, same⟩
  all_goals simp_all [CreatePc.confirming]

theorem PeerSide.lose (side : PeerSide deployment id run letters taken)
    (sub : fewer.Sublist letters) : PeerSide deployment id run fewer taken := by
  have none (empty : letters = []) : fewer = [] := List.sublist_nil.mp (empty ▸ sub)
  simp only [PeerSide] at side ⊢
  split at side
  · exact ⟨side.1, none side.2.1, side.2.2⟩
  · exact ⟨side.1, none side.2.1, side.2.2⟩
  · exact ⟨side.1, none side.2.1, side.2.2⟩
  · obtain ⟨route, remote, added, letter, same⟩ := side
    exact ⟨route, remote, added, letter.lose sub, same⟩
  case h_5 | h_6 | h_7 | h_8 => exact ⟨none side.1, side.2⟩
  · exact Underway.lose side sub

/-- The peer serves only the request in flight, and stores its segment if it accepts. -/
theorem PeerSide.serve {target : Vm} {driverId : DriverId} {other : RouteSegment} (accepted : Bool)
    (side : PeerSide deployment id run letters taken)
    (asked : .reserve target id driverId other ∈ letters) :
    target = run.vm.peer ∧ driverId = run.draft.driverId ∧
      PeerSide deployment id run
        (letters.erase (.reserve target id driverId other) ++ [.reserved id accepted])
        (if accepted then taken ++ [other] else taken) := by
  have more (done : List RouteSegment) : (if accepted then done ++ [other] else done) =
      done ++ if accepted then [other] else [] := by cases accepted <;> simp
  by_cases early : CreatePc.early run.pc = true
  · simp only [PeerSide] at side ⊢
    split at side
    case h_4 segment todo here =>
        obtain ⟨route, remote, added, letter, rfl⟩ := side
        obtain ⟨place, driver, rfl, rfl, replied⟩ := letter.serve accepted asked
        rw [List.append_nil]
        exact ⟨place, driver, route, remote, _, replied, more _⟩
    all_goals
      simp_all [CreatePc.early]
  · rcases side.underway with ⟨rfl, _⟩ | ⟨done, segment, added, rfl, letter, begun⟩
    · cases asked
    · obtain ⟨place, driver, rfl, rfl, replied⟩ := letter.serve accepted asked
      refine ⟨place, driver, .of_underway (.inr ⟨done, other, _, ?_, replied, begun⟩) ?_ ?_⟩
      · rw [List.append_nil]
        exact more done
      · simpa using early
      · by_contra confirming
        rw [(side.confirming (.inl (by simpa using confirming))).1] at asked
        cases asked

theorem Underway.of_route {after : CreateRun} (underway : Underway deployment id run letters taken)
    (vm : after.vm = run.vm) (draft : after.draft = run.draft) (route : after.route = run.route) :
    Underway deployment id after letters taken := by
  have path : CreateRun.path after = CreateRun.path run := by rw [CreateRun.path, route]; rfl
  rcases underway with ⟨empty, begun⟩ | ⟨done, segment, added, same, letter, begun⟩
  · exact .inl ⟨empty, by rwa [vm, path]⟩
  · refine .inr ⟨done, segment, added, same, ?_, by rwa [vm, path]⟩
    cases letter with
    | asked =>
        rw [← vm, ← draft]
        exact .asked
    | accepted => exact .accepted
    | refused => exact .refused
    | lost added among => exact .lost added among

theorem Receives.sublist {after sent : List Msg} (receives : Receives id answer letters after sent)
    (quiet : mail id sent = []) : after.Sublist letters := by
  rcases receives with ⟨_, rfl⟩ | ⟨stored, _, _, rfl⟩
  · rw [quiet, List.append_nil]
  · rw [quiet, List.append_nil]
    exact List.erase_sublist

theorem Receives.of_empty {after sent : List Msg} (receives : Receives id answer [] after sent) :
    after = mail id sent := by
  rcases receives with ⟨_, rfl⟩ | ⟨stored, _, arrived, _⟩
  · rfl
  · cases arrived

theorem PeerSide.advance {after : List Msg} (side : PeerSide deployment id run letters taken)
    (moved : TrafficService.advance deployment id run answer = some outcome)
    (receives : Receives id answer letters after outcome.sent) :
    PeerSide deployment id outcome.run after taken := by
  obtain ⟨vm, draft⟩ := advance_keeps moved
  by_cases early : CreatePc.early outcome.run.pc = true
  · cases loopStep_of_early moved early with
    | flushed here =>
        simp only [PeerSide, here] at side
        obtain ⟨none, rfl, rfl⟩ := side
        exact ⟨none, receives.of_empty, rfl⟩
    | resolved here route =>
        simp only [PeerSide, here] at side
        obtain ⟨none, rfl, rfl⟩ := side
        refine ⟨?_, receives.of_empty, ?_⟩
        · simp [none, CreateRun.path]
        · simp [none, remoteSegments]
    | reserved segment rest here own =>
        simp only [PeerSide, here] at side
        obtain ⟨route, rfl, rfl⟩ := side
        refine ⟨?_, receives.of_empty, ?_⟩
        · simpa [CreateRun.path] using route
        · simp [remoteSegments, own]
    | asked segment rest here remote =>
        simp only [PeerSide, here] at side
        obtain ⟨route, rfl, rfl⟩ := side
        have sent := receives.of_empty
        rw [show mail id _ = [.reserve run.vm.peer id run.draft.driverId segment] by
          simp [mail, ofReservation]] at sent
        refine ⟨route, remote, [], ?_, (List.append_nil _).symm⟩
        rw [sent]
        exact .asked
    | accepted segment rest here answered =>
        simp only [PeerSide, here] at side
        obtain ⟨route, remote, added, letter, rfl⟩ := side
        rcases receives with ⟨other, _⟩ | ⟨stored, same, arrived, rfl⟩
        · exact absurd answered (other true)
        · cases answered.symm.trans same
          obtain ⟨empty, rfl⟩ := letter.receive arrived
          refine ⟨?_, ?_, ?_⟩
          · simpa [CreateRun.path] using route
          · simp [empty, mail]
          · simp [remoteSegments, remote]
  · rw [Bool.not_eq_true] at early
    by_cases confirming : CreatePc.confirming outcome.run.pc = true
    · obtain ⟨before, route, quiet⟩ := advance_onward moved confirming
      obtain ⟨rfl, rfl⟩ := side.confirming before
      refine .of_confirming ?_ ?_ confirming
      · rw [receives.of_empty, quiet]
      · rw [vm, CreateRun.path, CreateRun.path, route]
    · rw [Bool.not_eq_true] at confirming
      obtain ⟨route, quiet⟩ := advance_givesUp moved early confirming
      have lost := side.underway.lose (receives.sublist quiet)
      exact .of_underway (lost.of_route vm draft route) early confirming

end

end TrafficService.Cluster
