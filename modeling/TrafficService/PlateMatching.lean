import TrafficService.Announcements
import TrafficService.Verification

/-!
One booking's plate through the consumer, the cache key, the routes and the `WHERE` clause of
`_lookup_db`: the first three strip it, the last does not.
-/

namespace TrafficService

section

variable (casing : CaseTables)

/-- The plate condition of the `WHERE` clause, for the plate the routes make of a query. -/
def Booking.matchesPlate (db : Database) (query : String) (row : Booking) : Bool :=
  sqlPlate casing db row = casing.normalise query

def cacheHits (cache : Cache) (query : String) (id : BookingId) (now : DateTime) : Bool :=
  (getCachedBooking casing cache (casing.normalise query) now).any fun entry =>
    entry.bookingId = id

/-- Before the message is handled the booking has no entry, except under its own plate. -/
def KnownByPlate (cache : Cache) (id : BookingId) (plate : Plate) : Prop :=
  ∀ key item, cache key = some item → item.entry.bookingId = id →
    casing.normalise plate ≠ "" ∧ key = cacheKey casing (casing.normalise plate)

/-- For a request and a query: once `booking.confirmed` has been handled, for any departure, and
while its entry lives, the cache hits the booking if and only if the `WHERE` clause matches it, and a
blank query matches nothing. -/
structure SamePlates (db : Database) (request : BookingRequest) (query : String) : Prop where
  agree : ∀ id cache segments (departure handled later : DateTime) next,
    KnownByPlate casing cache id ((request.draft db).plateNumber.getD "") →
      processMessage casing cache handled (.bookingConfirmed id request.driverId
        (request.draft db).plateNumber segments departure) = some next →
      later < handled + timeToLive (departure + journeyWindow) handled * second →
        (cacheHits casing next query id later = true ↔
          ((request.draft db).booking id .confirmed).matchesPlate casing db query = true)
  blank : casing.normalise query = "" → ∀ id,
    ((request.draft db).booking id .confirmed).matchesPlate casing db query = false

end

section

variable {casing : CaseTables} {db : Database} {request : BookingRequest} {query : String}

theorem matchesPlate_draft {id : BookingId} :
    ((request.draft db).booking id .confirmed).matchesPlate casing db query = true ↔
      casing.sqlUpper ((request.draft db).plateNumber.getD "") = casing.normalise query := by
  have resolved : plateOf db ((request.draft db).booking id .confirmed) =
      (request.draft db).plateNumber := resolvePlateNumber_idem request.plateNumber
  rw [Booking.matchesPlate, sqlPlate, resolved, decide_eq_true_eq]

theorem cacheHits_confirmed {cache next : Cache} {id : BookingId} {raw : Plate}
    {segments : List (SegmentId × Region)} {driverId : DriverId} {departure handled later : DateTime}
    (known : KnownByPlate casing cache id raw)
    (processed : processMessage casing cache handled
      (.bookingConfirmed id driverId (some raw) segments departure) = some next)
    (live : later < handled + timeToLive (departure + journeyWindow) handled * second) :
    cacheHits casing next query id later = true ↔
      casing.normalise raw ≠ "" ∧ casing.normalise raw = casing.normalise query := by
  have elsewhere (apart : casing.normalise raw = "" ∨
      cacheKey casing (casing.normalise query) ≠ cacheKey casing (casing.normalise raw)) :
      cacheHits casing cache query id later = false := by
    simp only [cacheHits]
    cases found : getCachedBooking casing cache (casing.normalise query) later with
    | none => rfl
    | some entry =>
        obtain ⟨item, stored, rfl⟩ := item_of_getCachedBooking found
        simp only [Option.any_some, decide_eq_false_iff_not]
        intro mine
        obtain ⟨text, key⟩ := known _ item stored mine
        rcases apart with blank | differ
        · exact text blank
        · exact differ key
  simp only [processMessage, handleConfirmed, Option.bind_some] at processed
  by_cases text : casing.normalise raw = ""
  · rw [if_pos text] at processed
    cases processed
    simp only [text, elsewhere (.inl text), Bool.false_eq_true, ne_eq, not_true_eq_false, false_and]
  · rw [if_neg text] at processed
    obtain ⟨windowEnd, fits, rfl⟩ := Option.map_eq_some_iff.mp processed
    obtain ⟨_, rfl⟩ := addTimedelta_eq_some.mp fits
    by_cases same : casing.normalise raw = casing.normalise query
    · refine iff_of_true ?_ ⟨text, same⟩
      simp [cacheHits, getCachedBooking, cacheActiveBooking, ← same, live]
    · have keys : cacheKey casing (casing.normalise query) ≠ cacheKey casing (casing.normalise raw) :=
        fun keys => same (cacheKey_injective keys).symm
      have untouched := elsewhere (.inr keys)
      simp only [same, and_false, iff_false, Bool.not_eq_true]
      simpa only [cacheHits, getCachedBooking, cacheActiveBooking, Function.update_of_ne keys]
        using untouched

/-- What `SELECT` matches by `UPPER` alone is the query up to case and surrounding space. -/
theorem eq_of_matchesPlate {id : BookingId}
    (matched : ((request.draft db).booking id .confirmed).matchesPlate casing db query = true) :
    casing.normalise ((request.draft db).plateNumber.getD "") = casing.normalise query :=
  casing.normalise_of_sqlUpper (matchesPlate_draft.mp matched)

/-- Cache and database agree on a query unless it asks for the booking's own plate, and then if
and only if the plate is not blank and needs no stripping, or is blank but not empty. -/
theorem samePlates_iff_unpadded :
    SamePlates casing db request query ↔
      (casing.normalise ((request.draft db).plateNumber.getD "") = casing.normalise query →
        (casing.normalise ((request.draft db).plateNumber.getD "") ≠ "" ↔
          casing.sqlUpper ((request.draft db).plateNumber.getD "") =
            casing.normalise ((request.draft db).plateNumber.getD ""))) := by
  constructor
  · intro same own
    cases resolved : (request.draft db).plateNumber with
    | none =>
        rw [resolved] at own
        have missed := same.blank own.symm 0
        have matched : ((request.draft db).booking 0 .confirmed).matchesPlate casing db query =
            true := by
          rw [matchesPlate_draft, resolved, ← own]
          rfl
        exact nomatch missed.symm.trans matched
    | some raw =>
        have known : KnownByPlate casing (fun _ => none) 0 raw := fun _ _ stored => nomatch stored
        have live : (0 : DateTime) < 0 + timeToLive (0 + journeyWindow) 0 * second := by decide
        obtain ⟨next, processed⟩ : ∃ next, processMessage casing (fun _ => none) 0
            (.bookingConfirmed 0 request.driverId (some raw) [] 0) = some next := by
          have fits : addTimedelta 0 journeyWindow = some journeyWindow := by decide
          simp only [processMessage, handleConfirmed, Option.bind_some, fits, Option.map_some]
          split <;> exact ⟨_, rfl⟩
        have agree := same.agree 0 (fun _ => none) [] 0 0 0 next (by rw [resolved]; exact known)
          (by rw [resolved]; exact processed) live
        rw [resolved] at own
        rw [cacheHits_confirmed known processed live, matchesPlate_draft, resolved, ← own] at agree
        simpa only [Option.getD_some, and_true] using agree
  · intro unpadded
    constructor
    · intro id cache segments departure handled later next known processed live
      cases resolved : (request.draft db).plateNumber with
      | none => simp [resolved, processMessage, handleConfirmed] at processed
      | some raw =>
          rw [resolved] at known processed unpadded
          rw [cacheHits_confirmed known processed live]
          constructor
          · rintro ⟨text, own⟩
            rw [matchesPlate_draft, resolved, ← own]
            exact (unpadded own).mp text
          · intro matched
            have own := eq_of_matchesPlate matched
            rw [resolved] at own
            rw [matchesPlate_draft, resolved, ← own] at matched
            exact ⟨(unpadded own).mpr matched, own⟩
    · intro blank id
      rw [Bool.eq_false_iff]
      intro matched
      have own := eq_of_matchesPlate matched
      rw [matchesPlate_draft, ← own] at matched
      exact (unpadded own).mpr matched (own.trans blank)

end

/-! ### A plate entered with a space before it -/

def paddedRequest : BookingRequest := { request with plateNumber := some " 12-D-345" }

def noTables : Database := .unbooked (fun _ _ => none) fun _ => none

theorem plates_padded :
    ¬ ∀ (casing : CaseTables) (db : Database) (request : BookingRequest) (query : String),
      SamePlates casing db request query := by
  intro holds
  have same := holds .ascii noTables paddedRequest "12-D-345"
  obtain ⟨next, processed, hit⟩ : ∃ next, processMessage .ascii (fun _ => none) 0
      (.bookingConfirmed 0 paddedRequest.driverId (paddedRequest.draft noTables).plateNumber []
        paddedRequest.departureTime) = some next ∧
      cacheHits .ascii next "12-D-345" 0 0 = true := ⟨_, rfl, by decide +kernel⟩
  have matched := (same.agree 0 (fun _ => none) [] paddedRequest.departureTime 0 0 next (fun _ _ stored => nomatch stored)
    processed (by decide +kernel)).mp hit
  have missed : ((paddedRequest.draft noTables).booking 0 .confirmed).matchesPlate .ascii noTables
      "12-D-345" = false := by decide +kernel
  exact nomatch missed.symm.trans matched

end TrafficService
