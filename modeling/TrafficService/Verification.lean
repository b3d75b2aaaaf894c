import TrafficService.CreateBooking
import TrafficService.Lib.CaseTables
import Mathlib.Data.List.Basic

/-!
The verification service: its Redis entries, the consumer that warms and evicts them, and
`verify_plate`, which reads them before it reads `public.bookings`.
-/

namespace TrafficService

def journeyWindow : Int := 2 * hour

structure CacheEntry where
  bookingId : BookingId
  driverId : DriverId
  status : BookingStatus
  departureTime : DateTime
  journeyWindowEnd : DateTime
  segments : List Region
  deriving DecidableEq, Repr

structure CacheItem where
  entry : CacheEntry
  expiresAt : DateTime
  deriving DecidableEq, Repr

abbrev Cache := String → Option CacheItem

inductive Source
  | cache
  | database
  | notFound
  deriving DecidableEq, Repr

structure VerificationResult where
  plateNumber : Plate
  isAuthorized : Bool
  bookingId : Option BookingId
  driverId : Option DriverId
  status : Option BookingStatus
  departureTime : Option DateTime
  journeyWindowEnd : Option DateTime
  segments : List Region
  message : String
  source : Source
  checkedAt : DateTime
  deriving DecidableEq, Repr

section

variable (casing : CaseTables)

def cacheKey (plate : Plate) : String := "active_booking:" ++ casing.upper plate

/-- In seconds: until five minutes after the window, or an hour if that has passed. -/
def timeToLive (windowEnd now : DateTime) : Int :=
  let remaining := (windowEnd - now).tdiv second
  if remaining > 0 then remaining + 300 else 3600

def cacheActiveBooking (cache : Cache) (plate : Plate) (entry : CacheEntry) (now : DateTime) :
    Cache :=
  Function.update cache (cacheKey casing plate)
    (some ⟨entry, now + timeToLive entry.journeyWindowEnd now * second⟩)

def getCachedBooking (cache : Cache) (plate : Plate) (now : DateTime) : Option CacheEntry :=
  match cache (cacheKey casing plate) with
  | none => none
  | some item => if now < item.expiresAt then some item.entry else none

def invalidateBooking (cache : Cache) (plate : Plate) : Cache :=
  Function.update cache (cacheKey casing plate) none

/-- `none`: `payload["plate_number"]` is null, which has no `upper`, or the window ends after the
year 9999. -/
def handleConfirmed (cache : Cache) (now : DateTime) (id : BookingId) (driverId : DriverId)
    (plateNumber : Option Plate) (segments : List (SegmentId × Region)) (departure : DateTime) :
    Option Cache :=
  plateNumber.bind fun raw =>
    let plate := casing.normalise raw
    if plate = "" then some cache
    else
      (addTimedelta departure journeyWindow).map fun windowEnd =>
        cacheActiveBooking casing cache plate
          { bookingId := id
            driverId := driverId
            status := .confirmed
            departureTime := departure
            journeyWindowEnd := windowEnd
            segments := segments.map Prod.snd } now

def handleCancelledOrFailed (cache : Cache) (plateNumber : Option Plate) : Option Cache :=
  plateNumber.map fun raw =>
    let plate := casing.normalise raw
    if plate = "" then cache else invalidateBooking casing cache plate

/-- `none` when the handler raises, which requeues the message. -/
def processMessage (cache : Cache) (now : DateTime) : Event → Option Cache
  | .bookingConfirmed id driverId plateNumber segments departure =>
      handleConfirmed casing cache now id driverId plateNumber segments departure
  | .bookingFailed _ _ plateNumber | .bookingCancelled _ _ plateNumber _ =>
      handleCancelledOrFailed casing cache plateNumber

def plateOf (db : Database) (row : Booking) : Option Plate :=
  resolvePlateNumber db row.plateNumber row.driverId

def sqlPlate (db : Database) (row : Booking) : Plate := casing.sqlUpper ((plateOf db row).getD "")

def Booking.verifiable (db : Database) (plate : Plate) (now : DateTime) (row : Booking) : Bool :=
  sqlPlate casing db row = plate && row.status = .confirmed &&
    row.departureTime ≥ now - journeyWindow && row.departureTime ≤ now

def latest : List Booking → Option Booking
  | [] => none
  | row :: rest =>
      match latest rest with
      | none => some row
      | some other => if other.departureTime > row.departureTime then some other else some row

def lookupRow (db : Database) (plate : Plate) (now : DateTime) : Option Booking :=
  latest (db.bookings.rows.filter fun row => row.verifiable casing db plate now)

def buildAuthorizedResult (plate : Plate) (row : Booking) (now : DateTime) :
    VerificationResult where
  plateNumber := plate
  isAuthorized := true
  bookingId := some row.id
  driverId := some row.driverId
  status := some row.status
  departureTime := some row.departureTime
  journeyWindowEnd := some (row.departureTime + journeyWindow)
  segments := []
  message := "Active booking found (database)"
  source := .database
  checkedAt := now

def warmEntry (row : Booking) : CacheEntry where
  bookingId := row.id
  driverId := row.driverId
  status := row.status
  departureTime := row.departureTime
  journeyWindowEnd := row.departureTime + journeyWindow
  segments := []

def cachedResult (plate : Plate) (entry : CacheEntry) (now : DateTime) : VerificationResult where
  plateNumber := plate
  isAuthorized := true
  bookingId := some entry.bookingId
  driverId := some entry.driverId
  status := some entry.status
  departureTime := some entry.departureTime
  journeyWindowEnd := some entry.journeyWindowEnd
  segments := entry.segments
  message := "Active booking found (cache)"
  source := .cache
  checkedAt := now

def notFoundResult (plate : Plate) (now : DateTime) : VerificationResult where
  plateNumber := plate
  isAuthorized := false
  bookingId := none
  driverId := none
  status := none
  departureTime := none
  journeyWindowEnd := none
  segments := []
  message := "No active booking found for this vehicle"
  source := .notFound
  checkedAt := now

def lookupDb (db : Database) (cache : Cache) (plate : Plate) (now : DateTime) :
    Option (VerificationResult × Cache) :=
  (lookupRow casing db plate now).map fun row =>
    (buildAuthorizedResult plate row now, cacheActiveBooking casing cache plate (warmEntry row) now)

def verifyPlate (db : Database) (cache : Cache) (plate : Plate) (now : DateTime) :
    VerificationResult × Cache :=
  let fallBack (cache : Cache) : VerificationResult × Cache :=
    (lookupDb casing db cache plate now).getD (notFoundResult plate now, cache)
  match getCachedBooking casing cache plate now with
  | none => fallBack cache
  | some entry =>
      if now > entry.journeyWindowEnd then fallBack (invalidateBooking casing cache plate)
      else (cachedResult plate entry now, cache)

end

section

variable {casing : CaseTables} {db : Database} {cache : Cache} {plate : Plate} {now : DateTime}

theorem cacheKey_injective {first second : String}
    (same : cacheKey casing (casing.normalise first) = cacheKey casing (casing.normalise second)) :
    casing.normalise first = casing.normalise second := by
  rw [cacheKey, cacheKey, CaseTables.upper_normalise, CaseTables.upper_normalise] at same
  have lists := congrArg String.toList same
  rw [String.toList_append, String.toList_append] at lists
  exact String.toList_injective (List.append_cancel_left lists)

theorem cacheKey_ne_blank {raw : String} (text : casing.normalise raw ≠ "") :
    cacheKey casing (casing.normalise raw) ≠ cacheKey casing "" := by
  intro same
  rw [← CaseTables.normalise_empty casing] at same
  exact text ((cacheKey_injective same).trans (CaseTables.normalise_empty casing))

theorem verifiable_iff {row : Booking} : row.verifiable casing db plate now = true ↔
    sqlPlate casing db row = plate ∧ row.status = .confirmed ∧
      row.departureTime ≤ now ∧ now ≤ row.departureTime + journeyWindow := by
  have shift : row.departureTime ≥ now - journeyWindow ↔ now ≤ row.departureTime + journeyWindow :=
    ⟨Int.le_add_of_sub_right_le, Int.sub_right_le_of_le_add⟩
  simp only [Booking.verifiable, Bool.and_eq_true, decide_eq_true_eq, shift]
  tauto

theorem latest_eq_none {rows : List Booking} : latest rows = none ↔ rows = [] := by
  cases rows with
  | nil => simp [latest]
  | cons row rest =>
      simp only [latest]
      split
      · simp
      · split <;> simp

theorem mem_of_latest {rows : List Booking} {row : Booking} (found : latest rows = some row) :
    row ∈ rows := by
  induction rows with
  | nil => exact nomatch found
  | cons first rest ih =>
      simp only [latest] at found
      split at found
      · rw [Option.some.inj found]
        exact List.mem_cons_self
      · rename_i other later
        split at found
        · exact List.mem_cons_of_mem first (ih (later.trans found))
        · rw [Option.some.inj found]
          exact List.mem_cons_self

theorem lookupRow_spec {row : Booking} (found : lookupRow casing db plate now = some row) :
    row ∈ db.bookings.rows ∧ row.verifiable casing db plate now = true :=
  List.mem_filter.mp (mem_of_latest found)

theorem lookupRow_ne_none {row : Booking} (member : row ∈ db.bookings.rows)
    (verifiable : row.verifiable casing db plate now = true) :
    lookupRow casing db plate now ≠ none := by
  intro missing
  have empty := latest_eq_none.mp missing
  have listed := List.mem_filter.mpr ⟨member, verifiable⟩
  simp [empty] at listed

theorem stored_of_invalidate {key : String} {item : CacheItem}
    (stored : invalidateBooking casing cache plate key = some item) :
    key ≠ cacheKey casing plate ∧ cache key = some item := by
  by_cases here : key = cacheKey casing plate
  · simp [invalidateBooking, here] at stored
  · rw [invalidateBooking, Function.update_of_ne here] at stored
    exact ⟨here, stored⟩

theorem stored_of_cacheActive {key : String} {item : CacheItem} {entry : CacheEntry}
    (stored : cacheActiveBooking casing cache plate entry now key = some item) :
    (key = cacheKey casing plate ∧ item.entry = entry) ∨
      (key ≠ cacheKey casing plate ∧ cache key = some item) := by
  by_cases here : key = cacheKey casing plate
  · subst here
    rw [cacheActiveBooking, Function.update_self] at stored
    cases stored
    exact .inl ⟨rfl, rfl⟩
  · rw [cacheActiveBooking, Function.update_of_ne here] at stored
    exact .inr ⟨here, stored⟩

def usableEntry (casing : CaseTables) (cache : Cache) (plate : Plate) (now : DateTime) :
    Option CacheEntry :=
  (getCachedBooking casing cache plate now).filter fun entry => now ≤ entry.journeyWindowEnd

theorem item_of_getCachedBooking {entry : CacheEntry}
    (live : getCachedBooking casing cache plate now = some entry) :
    ∃ item, cache (cacheKey casing plate) = some item ∧ item.entry = entry := by
  simp only [getCachedBooking] at live
  split at live
  · exact nomatch live
  · rename_i item stored
    split at live
    · exact ⟨item, stored, Option.some.inj live⟩
    · exact nomatch live

theorem item_of_usableEntry {entry : CacheEntry}
    (usable : usableEntry casing cache plate now = some entry) :
    ∃ item, cache (cacheKey casing plate) = some item ∧ item.entry = entry ∧
      now ≤ entry.journeyWindowEnd := by
  simp only [usableEntry, Option.filter_eq_some_iff, decide_eq_true_eq] at usable
  obtain ⟨item, stored, same⟩ := item_of_getCachedBooking usable.1
  exact ⟨item, stored, same, usable.2⟩

theorem verifyPlate_of_usable {entry : CacheEntry}
    (usable : usableEntry casing cache plate now = some entry) :
    verifyPlate casing db cache plate now = (cachedResult plate entry now, cache) := by
  simp only [usableEntry, Option.filter_eq_some_iff, decide_eq_true_eq] at usable
  have inside : ¬ now > entry.journeyWindowEnd := Int.not_lt.mpr usable.2
  simp only [verifyPlate, usable.1, inside, if_false]

theorem verifyPlate_of_unusable (unusable : usableEntry casing cache plate now = none) :
    (verifyPlate casing db cache plate now).1 =
      ((lookupRow casing db plate now).map fun row => buildAuthorizedResult plate row now).getD
        (notFoundResult plate now) := by
  have answer (cache : Cache) : ((lookupDb casing db cache plate now).getD
      (notFoundResult plate now, cache)).1 =
      ((lookupRow casing db plate now).map fun row => buildAuthorizedResult plate row now).getD
        (notFoundResult plate now) := by
    rw [lookupDb]
    cases lookupRow casing db plate now <;> rfl
  simp only [verifyPlate]
  split
  · exact answer cache
  · rename_i entry live
    split
    · exact answer _
    · rename_i inside
      have usable : usableEntry casing cache plate now = some entry := by
        simp only [usableEntry, live, Option.filter_eq_some_iff, decide_eq_true_eq]
        exact ⟨trivial, Int.not_lt.mp inside⟩
      exact nomatch usable.symm.trans unusable

theorem verifyPlate_keeps {property : Cache → Prop}
    (evicts : ∀ cache, property cache → property (invalidateBooking casing cache plate))
    (warms : ∀ cache row, property cache → lookupRow casing db plate now = some row →
      property (cacheActiveBooking casing cache plate (warmEntry row) now))
    (holds : property cache) : property (verifyPlate casing db cache plate now).2 := by
  have fallBack (cache : Cache) (holds : property cache) :
      property ((lookupDb casing db cache plate now).getD (notFoundResult plate now, cache)).2 := by
    rw [lookupDb]
    cases found : lookupRow casing db plate now with
    | none => exact holds
    | some row => exact warms cache row holds found
  simp only [verifyPlate]
  split
  · exact fallBack cache holds
  · split
    · exact fallBack _ (evicts cache holds)
    · exact holds

inductive Handled (casing : CaseTables) (cache : Cache) (now : DateTime) : Event → Cache → Prop
  | skipped (event : Event) (raw : Plate) (named : event.plateNumber = some raw)
      (blank : casing.normalise raw = "") : Handled casing cache now event cache
  | stored (id : BookingId) (driverId : DriverId) (raw : Plate) (segments : List (SegmentId × Region))
      (departure : DateTime) (text : casing.normalise raw ≠ "") :
      Handled casing cache now (.bookingConfirmed id driverId (some raw) segments departure)
        (cacheActiveBooking casing cache (casing.normalise raw)
          ⟨id, driverId, .confirmed, departure, departure + journeyWindow, segments.map Prod.snd⟩ now)
  | evicted (event : Event) (raw : Plate) (named : event.plateNumber = some raw)
      (other : event.isConfirmed = false) :
      Handled casing cache now event (invalidateBooking casing cache (casing.normalise raw))

theorem handled_of_processMessage {event : Event} {next : Cache}
    (processed : processMessage casing cache now event = some next) :
    Handled casing cache now event next := by
  cases event with
  | bookingConfirmed id driverId plateNumber segments departure =>
      obtain ⟨raw, rfl, handled⟩ := Option.bind_eq_some_iff.mp processed
      dsimp only at handled
      split at handled
      · next blank =>
          cases handled
          exact .skipped _ raw rfl blank
      · next text =>
          obtain ⟨windowEnd, fits, rfl⟩ := Option.map_eq_some_iff.mp handled
          obtain ⟨_, rfl⟩ := addTimedelta_eq_some.mp fits
          exact .stored id driverId raw segments departure text
  | bookingFailed id driverId plateNumber =>
      obtain ⟨raw, rfl, rfl⟩ := Option.map_eq_some_iff.mp processed
      dsimp only
      split
      · exact .skipped _ raw rfl ‹_›
      · exact .evicted _ raw rfl rfl
  | bookingCancelled id driverId plateNumber departure =>
      obtain ⟨raw, rfl, rfl⟩ := Option.map_eq_some_iff.mp processed
      dsimp only
      split
      · exact .skipped _ raw rfl ‹_›
      · exact .evicted _ raw rfl rfl

/-- Only a confirmation has a window that may be too late. -/
theorem unnamed_of_raised {event : Event} (raised : processMessage casing cache now event = none) :
    event.plateNumber = none ∨ event.isConfirmed = true := by
  cases event with
  | bookingConfirmed => exact .inr rfl
  | bookingFailed | bookingCancelled => exact .inl (Option.map_eq_none_iff.mp raised)

end

end TrafficService
