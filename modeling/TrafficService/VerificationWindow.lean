import TrafficService.StaleCache

/-!
`verify_plate` against the journey window: nobody with an active booking is refused, and nobody
is let through by one whose window has passed, whatever Redis holds and however calls overlap.
-/

namespace TrafficService

def Active (casing : CaseTables) (db : Database) (plate : Plate) (now : DateTime) : Prop :=
  ∃ row ∈ db.bookings.rows, sqlPlate casing db row = plate ∧ row.status = .confirmed ∧
    row.departureTime ≤ now ∧ now ≤ row.departureTime + journeyWindow

/-- An answer that lets a vehicle through names a window that is still open. -/
def VerificationResult.Covered (result : VerificationResult) (now : DateTime) : Prop :=
  result.isAuthorized = true →
    ∃ windowEnd, result.journeyWindowEnd = some windowEnd ∧ now ≤ windowEnd

section

variable {casing : CaseTables} {db : Database} {cache : Cache} {plate : Plate} {now : DateTime}

theorem active_iff : Active casing db plate now ↔ lookupRow casing db plate now ≠ none := by
  constructor
  · rintro ⟨row, member, facts⟩
    exact lookupRow_ne_none member (verifiable_iff.mpr facts)
  · intro found
    obtain ⟨row, listed⟩ := Option.ne_none_iff_exists'.mp found
    obtain ⟨member, verifiable⟩ := lookupRow_spec listed
    exact ⟨row, member, verifiable_iff.mp verifiable⟩

theorem covered_cachedResult {entry : CacheEntry} {startedAt : DateTime}
    (inside : now ≤ entry.journeyWindowEnd) :
    (cachedResult plate entry startedAt).Covered now := by
  intro _
  exact ⟨entry.journeyWindowEnd, rfl, inside⟩

theorem covered_notFound {startedAt : DateTime} : (notFoundResult plate startedAt).Covered now := by
  intro authorized
  cases authorized

theorem covered_lookup {row : Booking} {checkedAt : DateTime}
    (listed : lookupRow casing db plate now = some row) :
    (buildAuthorizedResult plate row checkedAt).Covered now := by
  intro _
  exact ⟨row.departureTime + journeyWindow, rfl,
    (verifiable_iff.mp (lookupRow_spec listed).2).2.2.2⟩

theorem authorized_of_active (active : Active casing db plate now) :
    (verifyPlate casing db cache plate now).1.isAuthorized = true := by
  cases usable : usableEntry casing cache plate now with
  | some entry =>
      rw [verifyPlate_of_usable usable]
      rfl
  | none =>
      obtain ⟨row, listed⟩ := Option.ne_none_iff_exists'.mp (active_iff.mp active)
      rw [verifyPlate_of_unusable usable, listed]
      rfl

theorem covered_verifyPlate : (verifyPlate casing db cache plate now).1.Covered now := by
  cases usable : usableEntry casing cache plate now with
  | some entry =>
      obtain ⟨_, _, _, inside⟩ := item_of_usableEntry usable
      rw [verifyPlate_of_usable usable]
      exact covered_cachedResult inside
  | none =>
      rw [verifyPlate_of_unusable usable]
      cases listed : lookupRow casing db plate now with
      | some row => exact covered_lookup listed
      | none => exact covered_notFound

end

namespace Enforcement

structure Covering (state : State) : Prop where
  results : ∀ result ∈ state.results, result.Covered result.checkedAt
  calls : ∀ id call, state.calls id = some call → ∀ row checkedAt, call.pc = .warm row checkedAt →
    (buildAuthorizedResult call.plate row checkedAt).Covered checkedAt

section

variable {deployment : Deployment} {casing : CaseTables} {vm : Vm} {state next : State}
  {action : Action} {callId : CallId} {call : VerifyCall} {now : DateTime} {pc : VerifyPc}
  {result : VerificationResult}

theorem Covering.goto (covering : Covering state)
    (covered : ∀ row checkedAt, pc = .warm row checkedAt →
      (buildAuthorizedResult call.plate row checkedAt).Covered checkedAt) :
    Covering (state.goto callId call pc) := by
  refine ⟨covering.results, calls_update covering.calls ?_⟩
  intro moved changed
  cases changed
  exact covered

theorem Covering.finish (covering : Covering state) (covered : result.Covered result.checkedAt) :
    Covering (state.finish callId result) := by
  constructor
  · intro other member
    rcases List.mem_append.mp member with before | new
    · exact covering.results other before
    · exact List.mem_singleton.mp new ▸ covered
  · apply calls_update covering.calls
    intro moved changed
    cases changed

theorem Covering.advance (covering : Covering state) (found : state.calls callId = some call) :
    Covering (advance casing vm state callId call now) := by
  have warmed := covering.calls callId call found
  have apart {pc : VerifyPc} (other : ∀ row checkedAt, pc ≠ .warm row checkedAt) :
      ∀ row checkedAt, pc = .warm row checkedAt →
        (buildAuthorizedResult call.plate row checkedAt).Covered checkedAt :=
    fun row checkedAt same => absurd same (other row checkedAt)
  rw [Enforcement.advance]
  split
  · split
    · exact covering.goto (apart (by simp))
    · split
      · exact covering.goto (apart (by simp))
      · next inside => exact covering.finish (covered_cachedResult (Int.not_lt.mp inside))
  · exact Covering.goto ⟨covering.results, covering.calls⟩ (apart (by simp))
  · split
    · exact covering.finish covered_notFound
    · next row listed =>
        apply covering.goto
        intro other checkedAt same
        cases same
        exact covered_lookup listed
  · next row checkedAt here =>
      exact Covering.finish ⟨covering.results, covering.calls⟩ (warmed row checkedAt here)

theorem Covering.step (covering : Covering state)
    (stepped : step deployment casing vm state action = some next) : Covering next := by
  obtain ⟨results, calls⟩ := covering
  cases action with
  | call environment served =>
      cases stepped
      exact ⟨results, calls⟩
  | handle event now acknowledged =>
      simp only [Enforcement.step] at stepped
      split at stepped
      · split at stepped
        · cases stepped
          exact ⟨results, calls⟩
        · cases stepped
          exact ⟨results, calls⟩
      · cases stepped
  | verify callId plateNumber now =>
      simp only [Enforcement.step] at stepped
      split at stepped
      · cases stepped
      · cases stepped
        refine ⟨results, calls_update calls ?_⟩
        intro call changed row checkedAt same
        have begun : VerifyPc.readCache = call.pc := congrArg VerifyCall.pc (Option.some.inj changed)
        rw [same] at begun
        cases begun
  | advance callId now =>
      obtain ⟨call, found, rfl⟩ := Option.map_eq_some_iff.mp stepped
      exact Covering.advance ⟨results, calls⟩ found
  | abort callId =>
      cases stepped
      refine ⟨results, calls_update calls ?_⟩
      intro call changed
      cases changed

/-- A call refuses only where it reads the database, and only what is not active there. -/
theorem inactive_of_refused
    (finished : (advance casing vm state callId call now).results = state.results ++ [result])
    (refused : result.isAuthorized = false) :
    call.pc = .readDb ∧ ¬ Active casing (state.tables vm) call.plate now := by
  have stays {later : State} (kept : later.results = state.results)
      (same : later.results = state.results ++ [result]) : False := by
    rw [kept] at same
    exact absurd same (by simp)
  rw [Enforcement.advance] at finished
  split at finished
  · split at finished
    · exact (stays rfl finished).elim
    · split at finished
      · exact (stays rfl finished).elim
      · cases List.append_cancel_left finished
        cases refused
  · exact (stays rfl finished).elim
  · next here =>
      split at finished
      · next absent =>
          refine ⟨here, ?_⟩
          rw [active_iff, absent]
          exact not_not.mpr rfl
      · exact (stays rfl finished).elim
  · cases List.append_cancel_left finished
    cases refused

/-- Whatever Redis holds, an active booking is let through and every answer that lets a vehicle
through names an open window. So it is for a call in one piece, and for calls in pieces between
which bookings are made and cancelled, messages handled and other calls answered. -/
theorem verification_window (deployment : Deployment) (casing : CaseTables) (vm : Vm) :
    (∀ db cache plate now,
      (Active casing db plate now →
        (verifyPlate casing db cache plate now).1.isAuthorized = true) ∧
      (verifyPlate casing db cache plate now).1.Covered now) ∧
    ∀ tables actions state,
      Lts.run (step deployment casing vm) (.initial tables) actions = some state →
      (∀ result ∈ state.results, result.Covered result.checkedAt) ∧
      ∀ callId call now result, state.calls callId = some call →
        (advance casing vm state callId call now).results = state.results ++ [result] →
        result.isAuthorized = false → ¬ Active casing (state.tables vm) call.plate now := by
  constructor
  · intro db cache plate now
    exact ⟨authorized_of_active, covered_verifyPlate⟩
  · intro tables actions state executed
    have initial : Covering (.initial tables) := by
      constructor
      · intro result member
        cases member
      · intro id call found
        cases found
    have covering : Covering state := Lts.Reachable.invariant
      (fun _ _ _ covering stepped => covering.step stepped) ⟨actions, executed⟩ initial
    refine ⟨covering.results, ?_⟩
    intro callId call now result _ finished refused
    exact (inactive_of_refused finished refused).2

end

def booked : Tables :=
  ((Call.createBooking .vm1 10 request (some (.single irishSegment 45))).perform singleVm
    .faultless emptyTables).tables

/-- The last moment of the window, from the database. -/
theorem verification_window_last :
    (verifyPlate .ascii (booked .vm1) (fun _ => none) "12-D-345"
      (7200 * second + journeyWindow)).1.isAuthorized = true := by
  have active : Active .ascii (booked .vm1) "12-D-345" (7200 * second + journeyWindow) :=
    active_iff.mpr (by decide)
  exact ((verification_window singleVm .ascii .vm1).1 _ _ _ _).1 active

end Enforcement

end TrafficService
