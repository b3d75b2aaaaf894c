import TrafficService.RoutePreview
import TrafficService.Lib.Lts

/-!
The booking page of the frontend: what it asks the server, in whatever order the answers come
back, and when it lets a booking be sent. Events are taken while React has nothing left to do: a
change, the render after it, the effect it sets off and the updates the effect makes are one step.
-/

namespace TrafficService.BookJourney

open Routing

structure Waypoint where
  id : String
  region : Region
  lat : ℚ
  lng : ℚ
  deriving DecidableEq

def waypoints : List Waypoint := [
  ⟨"dublin", .euWestIreland, 53.3498, -6.2603⟩,
  ⟨"cork", .euWestIreland, 51.8985, -8.4756⟩,
  ⟨"galway", .euWestIreland, 53.2707, -9.0568⟩,
  ⟨"limerick", .euWestIreland, 52.6638, -8.6267⟩,
  ⟨"belfast", .euWestUk, 54.5973, -5.9301⟩,
  ⟨"holyhead", .euWestUk, 53.3083, -4.6325⟩,
  ⟨"london", .euWestUk, 51.5074, -0.1278⟩,
  ⟨"birmingham", .euWestUk, 52.4862, -1.8904⟩,
  ⟨"manchester", .euWestUk, 53.4808, -2.2426⟩,
  ⟨"paris", .euWestFrance, 48.8566, 2.3522⟩,
  ⟨"lyon", .euWestFrance, 45.7640, 4.8357⟩,
  ⟨"marseille", .euWestFrance, 43.2965, 5.3698⟩,
  ⟨"bordeaux", .euWestFrance, 44.8378, -0.5792⟩,
  ⟨"calais", .euWestFrance, 50.9513, 1.8587⟩]

def waypointById (id : String) : Option Waypoint := waypoints.find? fun point => point.id = id

structure RoutePreset where
  id : String
  originId : String
  destinationId : String
  deriving DecidableEq

def routePresets : List RoutePreset := [
  ⟨"ie-dublin-cork", "dublin", "cork"⟩,
  ⟨"ie-dublin-birmingham", "dublin", "birmingham"⟩,
  ⟨"gb-london-manchester", "london", "manchester"⟩,
  ⟨"fr-paris-lyon", "paris", "lyon"⟩,
  ⟨"fr-paris-marseille", "paris", "marseille"⟩]

/-- The dates and strings of the browser; `new Date(text).toISOString()` raises a `RangeError`
where `toISOString` is `none`. -/
structure Browser where
  toISOString : String → Option String
  toUpperCase : String → String
  toLowerCase : String → String

def includes (text searched : String) : Bool :=
  decide (List.IsInfix searched.toList text.toList)

def orElse (text : Option String) (fallback : String) : String :=
  match text with
  | none | some "" => fallback
  | some text => text

structure RoutePreviewPayload where
  originLat : ℚ
  originLng : ℚ
  destinationLat : ℚ
  destinationLng : ℚ
  departureTime : String
  deriving DecidableEq

structure BookingPayload extends RoutePreviewPayload where
  plateNumber : Option String
  deriving DecidableEq

structure BookingOut where
  bookingId : BookingId
  status : BookingStatus
  estimatedDurationMinutes : Option Nat
  deriving DecidableEq

structure ErrorResponse where
  status : Nat
  detail : Option String
  deriving DecidableEq

structure RequestError where
  code : Option String
  message : Option String
  response : Option ErrorResponse
  deriving DecidableEq

def RequestError.detail (err : RequestError) : Option String := err.response.bind (·.detail)

def bookingError (browser : Browser) (err : RequestError) : String :=
  let status := err.response.map (·.status)
  let detail := orElse err.detail ""
  let isTimeout := err.code = some "ECONNABORTED" ∨ err.message.any (includes · "timeout")
  if isTimeout ∨ err.response = none then
    "A regional node appears to be down. The service is partially available — try booking within a single region (e.g. London → Manchester or Dublin → Cork)."
  else if status = some 503 ∨ status = some 502 then
    "A regional node is currently unavailable. Try a same-region journey — cross-region bookings are temporarily suspended."
  else if status = some 409 then
    if includes (browser.toLowerCase detail) "peer" ∨ includes (browser.toLowerCase detail) "saga" ∨
        includes (browser.toLowerCase detail) "rollback" then
      "Cross-region SAGA failed — the peer regional node could not be reached. Your reservations have been rolled back automatically. Try a same-region journey or retry later."
    else "Capacity full for this time slot. Please try a different departure time."
  else if detail ≠ "" then detail
  else "Booking request failed. Please try again."

structure Check where
  payload : RoutePreviewPayload
  cancelled : Bool
  deriving DecidableEq

/-- The state of the page with the requests that are under way; `sent` is every booking request
it has made. -/
structure Form where
  selectedRoute : String
  originId : String
  destinationId : String
  datetime : String
  plateNumber : String
  routePreview : Option RoutePreviewOut
  checkingRoute : Bool
  previewError : String
  loading : Bool
  result : Option BookingOut
  error : String
  checks : List Check
  bookings : List BookingPayload
  sent : List BookingPayload
  deriving DecidableEq

structure Inputs where
  origin : Option Waypoint
  destination : Option Waypoint
  datetime : String
  deriving DecidableEq

def Form.inputs (form : Form) : Inputs where
  origin := if form.originId = "" then none else waypointById form.originId
  destination := if form.destinationId = "" then none else waypointById form.destinationId
  datetime := form.datetime

section

variable (browser : Browser)

/-- `none` where the departure cannot be written as an ISO string. -/
def journey (origin destination : Waypoint) (datetime : String) : Option RoutePreviewPayload :=
  (browser.toISOString datetime).map fun departureTime => {
    originLat := origin.lat
    originLng := origin.lng
    destinationLat := destination.lat
    destinationLng := destination.lng
    departureTime }

def Form.checkRoute (form : Form) : Form :=
  match form.inputs.origin, form.inputs.destination with
  | some origin, some destination =>
      if form.datetime = "" then { form with routePreview := none, previewError := "" }
      else match journey browser origin destination form.datetime with
        | none => { form with
            checkingRoute := false
            routePreview := none
            previewError := "Could not validate route right now." }
        | some payload => { form with
            checkingRoute := true
            previewError := ""
            checks := form.checks ++ [⟨payload, false⟩] }
  | _, _ => { form with routePreview := none, previewError := "" }

def Form.cancelChecks (form : Form) : Form :=
  { form with checks := form.checks.map fun check => { check with cancelled := true } }

/-- The render after a change: the effect runs again where what it depends on has changed. -/
def Form.render (before form : Form) : Form :=
  if form.inputs = before.inputs then form else form.cancelChecks.checkRoute browser

def Form.handleRouteSelect (form : Form) (route : RoutePreset) : Form :=
  { form with
    selectedRoute := route.id
    originId := route.originId
    destinationId := route.destinationId
    result := none
    error := "" }

def Form.handleMapPointClick (form : Form) (id : String) : Form :=
  let cleared := { form with selectedRoute := "", result := none, error := "" }
  if form.originId = "" then { cleared with originId := id }
  else if form.originId = id then { cleared with originId := "", destinationId := "" }
  else if form.destinationId = "" then { cleared with destinationId := id }
  else if form.destinationId = id then { cleared with destinationId := "" }
  else { cleared with destinationId := id }

def Form.routeAvailable (form : Form) : Bool := form.routePreview.any (·.routeAvailable)

def Form.canSubmit (form : Form) : Bool :=
  form.inputs.origin.isSome && form.inputs.destination.isSome && form.datetime ≠ "" &&
    form.routeAvailable && !form.checkingRoute

def Form.handleSubmit (form : Form) : Form :=
  match form.inputs.origin, form.inputs.destination with
  | some origin, some destination =>
      if !form.routeAvailable then
        { form with
            error :=
              orElse (some form.previewError) "No valid path found between origin and destination." }
      else match journey browser origin destination form.datetime with
        | none => { form with
            loading := false
            result := none
            error := bookingError browser ⟨none, some "Invalid time value", none⟩ }
        | some payload =>
            let booking : BookingPayload := {
              toRoutePreviewPayload := payload
              plateNumber :=
                if form.plateNumber = "" then none else some (browser.toUpperCase form.plateNumber) }
            { form with
              loading := true
              error := ""
              result := none
              bookings := form.bookings ++ [booking]
              sent := form.sent ++ [booking] }
  | _, _ => { form with error := "Select origin and destination from the map first." }

def Form.checked (form : Form) : Except RequestError RoutePreviewOut → Form
  | .ok data => { form with
      routePreview := some data
      checkingRoute := false
      previewError :=
        if data.routeAvailable then form.previewError
        else orElse data.reason "No valid path found between origin and destination." }
  | .error err => { form with
      routePreview := none
      checkingRoute := false
      previewError := orElse err.detail "Could not validate route right now." }

def Form.booked (form : Form) : Except RequestError BookingOut → Form
  | .ok data => { form with result := some data, loading := false }
  | .error err => { form with error := bookingError browser err, loading := false }

inductive Event
  | routeSelect (route : RoutePreset)
  | mapPointClick (point : Waypoint)
  | datetimeChange (text : String)
  | plateNumberChange (text : String)
  | submit
  | previewAnswered (index : Nat) (answer : Except RequestError RoutePreviewOut)
  | bookingAnswered (index : Nat) (answer : Except RequestError BookingOut)

/-- Once there is a result, it is shown in place of the form. -/
def step (form : Form) : Event → Option Form
  | .routeSelect route =>
      if form.result = none ∧ route ∈ routePresets then
        some (form.render browser (form.handleRouteSelect route))
      else none
  | .mapPointClick point =>
      if form.result = none ∧ point ∈ waypoints then
        some (form.render browser (form.handleMapPointClick point.id))
      else none
  | .datetimeChange text =>
      if form.result = none then some (form.render browser { form with datetime := text })
      else none
  | .plateNumberChange text =>
      if form.result = none then some { form with plateNumber := browser.toUpperCase text }
      else none
  | .submit =>
      -- the button is disabled otherwise, and with it the form
      if form.result = none ∧ form.loading = false ∧ form.canSubmit = true then
        some (form.handleSubmit browser)
      else none
  | .previewAnswered index answer =>
      match form.checks[index]? with
      | none => none
      | some check =>
          let form := { form with checks := form.checks.eraseIdx index }
          some (if check.cancelled then form else form.checked answer)
  | .bookingAnswered index answer =>
      match form.bookings[index]? with
      | none => none
      | some _ =>
          some ({ form with bookings := form.bookings.eraseIdx index }.booked browser answer)

def mount (defaultDeparture : String) (plateNumber : Option String) : Form :=
  Form.checkRoute browser {
    selectedRoute := ""
    originId := "dublin"
    destinationId := "cork"
    datetime := defaultDeparture
    plateNumber := orElse plateNumber ""
    routePreview := none
    checkingRoute := false
    previewError := ""
    loading := false
    result := none
    error := ""
    checks := []
    bookings := []
    sent := [] }

end

/-! ### What the page knows of the journey in its fields -/

section

variable {browser : Browser} {serves : RoutePreviewPayload → RoutePreviewOut → Prop}

def Inputs.Asks (browser : Browser) (inputs : Inputs) (payload : RoutePreviewPayload) : Prop :=
  ∃ origin ∈ inputs.origin, ∃ destination ∈ inputs.destination, inputs.datetime ≠ "" ∧
    journey browser origin destination inputs.datetime = some payload

/-- Of the requests under way at most one still counts, and it is for what is in the fields; and so
is the preview that is shown, unless one is being waited for. -/
structure Current (browser : Browser) (serves : RoutePreviewPayload → RoutePreviewOut → Prop)
    (form : Form) : Prop where
  single : (form.checks.countP fun check => !check.cancelled) ≤ if form.checkingRoute then 1 else 0
  asked : ∀ check ∈ form.checks, check.cancelled = false →
    form.inputs.Asks browser check.payload
  shown : form.checkingRoute = false → ∀ data ∈ form.routePreview,
    ∃ payload, form.inputs.Asks browser payload ∧ serves payload data
  sent : ∀ booking ∈ form.sent, ∃ data, serves booking.toRoutePreviewPayload data ∧
    data.routeAvailable = true

def Answers (serves : RoutePreviewPayload → RoutePreviewOut → Prop) (form : Form) : Event → Prop
  | .previewAnswered index (.ok data) => ∀ check ∈ form.checks[index]?, serves check.payload data
  | _ => True

instance [∀ payload data, Decidable (serves payload data)] (form : Form) (event : Event) :
    Decidable (Answers serves form event) :=
  match event with
  | .previewAnswered index (.ok data) =>
      inferInstanceAs (Decidable (∀ check ∈ form.checks[index]?, serves check.payload data))
  | .previewAnswered _ (.error _) | .routeSelect _ | .mapPointClick _ | .datetimeChange _
  | .plateNumberChange _ | .submit | .bookingAnswered _ _ => .isTrue trivial

theorem answered_of_checks [∀ payload data, Decidable (serves payload data)] {start : Form}
    {events : List Event}
    (checked : Lts.checks (step browser) (fun form event => decide (Answers serves form event))
      start events = true) : Lts.Meets (step browser) (Answers serves) start events :=
  Lts.meets_of_checks (fun _ _ => of_decide_eq_true) checked

theorem checkRoute_cases (browser : Browser) (form : Form) :
    (form.checkRoute browser = { form with routePreview := none, previewError := "" }) ∨
    (form.checkRoute browser = { form with
      checkingRoute := false
      routePreview := none
      previewError := "Could not validate route right now." }) ∨
    ∃ payload, form.inputs.Asks browser payload ∧
      form.checkRoute browser = { form with
        checkingRoute := true
        previewError := ""
        checks := form.checks ++ [⟨payload, false⟩] } := by
  rw [Form.checkRoute]
  split
  · next origin destination isOrigin isDestination =>
      split
      · exact .inl rfl
      · next given =>
          split
          · exact .inr (.inl rfl)
          · next payload made =>
              refine .inr (.inr ⟨payload, ?_, rfl⟩)
              exact ⟨origin, isOrigin, destination, isDestination, given, made⟩
  · exact .inl rfl

theorem Current.checkRoute {form : Form}
    (cancelled : ∀ check ∈ form.checks, check.cancelled = true)
    (sent : ∀ booking ∈ form.sent, ∃ data, serves booking.toRoutePreviewPayload data ∧
      data.routeAvailable = true) : Current browser serves (form.checkRoute browser) := by
  have none_live : (form.checks.countP fun check => !check.cancelled) = 0 := by
    rw [List.countP_eq_zero]
    intro check member
    simp [cancelled check member]
  have dead : ∀ check ∈ form.checks, check.cancelled = false →
      form.inputs.Asks browser check.payload := by
    intro check member live
    cases (cancelled check member).symm.trans live
  rcases checkRoute_cases browser form with same | same | ⟨payload, asks, same⟩
  · rw [same]
    refine ⟨none_live.trans_le (Nat.zero_le _), dead, ?_, sent⟩
    intro _ data shown
    cases shown
  · rw [same]
    refine ⟨none_live.trans_le (Nat.zero_le _), dead, ?_, sent⟩
    intro _ data shown
    cases shown
  · rw [same]
    refine ⟨?_, ?_, ?_, sent⟩
    · simp [none_live]
    · intro check member live
      rcases List.mem_append.mp member with old | new
      · exact dead check old live
      · rw [List.mem_singleton.mp new]
        exact asks
    · intro settled
      cases settled

theorem Current.render {before form : Form} (current : Current browser serves before)
    (checks : form.checks = before.checks) (checking : form.checkingRoute = before.checkingRoute)
    (preview : form.routePreview = before.routePreview) (sent : form.sent = before.sent) :
    Current browser serves (before.render browser form) := by
  rw [Form.render]
  split
  · next same =>
      constructor
      · rw [checks, checking]
        exact current.single
      · rw [checks, same]
        exact current.asked
      · rw [checking, preview, same]
        exact current.shown
      · rw [sent]
        exact current.sent
  · refine .checkRoute ?_ ?_
    · intro check member
      obtain ⟨old, _, rfl⟩ := List.mem_map.mp member
      rfl
    · intro booking member
      refine current.sent booking ?_
      rw [← sent]
      exact member

theorem submittable {form : Form} (current : Current browser serves form)
    (can : form.canSubmit = true) : ∃ payload data, form.inputs.Asks browser payload ∧
      form.routePreview = some data ∧ serves payload data ∧ data.routeAvailable = true := by
  simp only [Form.canSubmit, Bool.and_eq_true, Bool.not_eq_true', Form.routeAvailable,
    Option.any_eq_true] at can
  obtain ⟨⟨_, data, shown, available⟩, settled⟩ := can
  obtain ⟨payload, asks, served⟩ := current.shown settled data shown
  exact ⟨payload, data, asks, shown, served, available⟩

theorem handleSubmit_eq {form : Form} {payload : RoutePreviewPayload} {data : RoutePreviewOut}
    (asks : form.inputs.Asks browser payload) (shown : form.routePreview = some data)
    (available : data.routeAvailable = true) :
    ∃ booking : BookingPayload, booking.toRoutePreviewPayload = payload ∧
      form.handleSubmit browser = { form with
        loading := true
        error := ""
        result := none
        bookings := form.bookings ++ [booking]
        sent := form.sent ++ [booking] } := by
  obtain ⟨origin, isOrigin, destination, isDestination, _, made⟩ := asks
  have known : form.inputs.origin = some origin := isOrigin
  have reached : form.inputs.destination = some destination := isDestination
  have made : journey browser origin destination form.datetime = some payload := made
  refine ⟨⟨payload, if form.plateNumber = "" then none
    else some (browser.toUpperCase form.plateNumber)⟩, rfl, ?_⟩
  simp only [Form.handleSubmit, known, reached, Form.routeAvailable, shown, Option.any_some,
    available, made, Bool.not_true, Bool.false_eq_true, if_false]

theorem Current.handleSubmit {form : Form} (current : Current browser serves form)
    (can : form.canSubmit = true) : Current browser serves (form.handleSubmit browser) := by
  obtain ⟨payload, data, asks, shown, served, available⟩ := submittable current can
  obtain ⟨booking, rfl, same⟩ := handleSubmit_eq asks shown available
  rw [same]
  refine ⟨current.single, current.asked, current.shown, ?_⟩
  intro other member
  rcases List.mem_append.mp member with old | new
  · exact current.sent other old
  · rw [List.mem_singleton.mp new]
    exact ⟨data, served, available⟩

theorem Current.previewAnswered {form : Form} {index : Nat} {check : Check}
    (current : Current browser serves form) (found : form.checks[index]? = some check)
    {answer : Except RequestError RoutePreviewOut}
    (served : ∀ data, answer = .ok data → serves check.payload data) :
    Current browser serves
      (if check.cancelled then { form with checks := form.checks.eraseIdx index }
        else ({ form with checks := form.checks.eraseIdx index } : Form).checked answer) := by
  obtain ⟨bound, rfl⟩ := List.getElem?_eq_some_iff.mp found
  have split := (List.getElem_cons_eraseIdx_perm bound).countP_eq fun check => !check.cancelled
  rw [List.countP_cons] at split
  have left : ∀ check ∈ form.checks.eraseIdx index, check.cancelled = false →
      form.inputs.Asks browser check.payload :=
    fun check member live => current.asked check (List.mem_of_mem_eraseIdx member) live
  have fewer : (form.checks.eraseIdx index).countP (fun check => !check.cancelled) ≤
      if form.checkingRoute then 1 else 0 :=
    Nat.le_trans (split ▸ Nat.le_add_right ..) current.single
  cases live : form.checks[index].cancelled with
  | true => exact ⟨fewer, left, current.shown, current.sent⟩
  | false =>
      have asks := current.asked _ (List.getElem_mem bound) live
      -- the answered request was the only one that still counted
      have rest : (form.checks.eraseIdx index).countP (fun check => !check.cancelled) = 0 := by
        have single := current.single
        rw [live] at split
        simp only [Bool.not_false, if_true] at split
        split at single <;> omega
      cases answer with
      | ok data =>
          refine ⟨rest.trans_le (Nat.zero_le _), left, ?_, current.sent⟩
          intro _ shown same
          cases same
          exact ⟨_, asks, served data rfl⟩
      | error err =>
          refine ⟨rest.trans_le (Nat.zero_le _), left, ?_, current.sent⟩
          intro _ shown same
          cases same

structure Untouched (form after : Form) : Prop where
  checks : after.checks = form.checks
  checkingRoute : after.checkingRoute = form.checkingRoute
  routePreview : after.routePreview = form.routePreview
  bookings : after.bookings = form.bookings
  sent : after.sent = form.sent
  loading : after.loading = form.loading
  result : after.result = form.result

theorem untouched_mapPointClick {form : Form} (blank : form.result = none) (id : String) :
    Untouched form (form.handleMapPointClick id) := by
  rw [Form.handleMapPointClick]
  split_ifs <;> exact ⟨rfl, rfl, rfl, rfl, rfl, rfl, blank.symm⟩

inductive Effect (browser : Browser) (form : Form) : Event → Form → Prop
  | changed (event : Event) (after : Form) (untouched : Untouched form after)
      (own : ∀ index answer, event ≠ .bookingAnswered index answer) :
      Effect browser form event (form.render browser after)
  | plated (text : String) : Effect browser form (.plateNumberChange text)
      { form with plateNumber := browser.toUpperCase text }
  | submitted (blank : form.result = none) (idle : form.loading = false)
      (can : form.canSubmit = true) : Effect browser form .submit (form.handleSubmit browser)
  | checked (index : Nat) (answer : Except RequestError RoutePreviewOut) (check : Check)
      (found : form.checks[index]? = some check) : Effect browser form (.previewAnswered index answer)
        (if check.cancelled then { form with checks := form.checks.eraseIdx index }
          else ({ form with checks := form.checks.eraseIdx index } : Form).checked answer)
  | booked (index : Nat) (answer : Except RequestError BookingOut)
      (bound : index < form.bookings.length) : Effect browser form (.bookingAnswered index answer)
        (({ form with bookings := form.bookings.eraseIdx index } : Form).booked browser answer)

theorem effect_of_step {form next : Form} {event : Event}
    (stepped : step browser form event = some next) : Effect browser form event next := by
  cases event with
  | routeSelect route =>
      obtain ⟨⟨blank, _⟩, same⟩ := Option.ite_none_right_eq_some.mp stepped
      cases same
      exact .changed _ _ ⟨rfl, rfl, rfl, rfl, rfl, rfl, blank.symm⟩ (by simp)
  | mapPointClick point =>
      obtain ⟨⟨blank, _⟩, same⟩ := Option.ite_none_right_eq_some.mp stepped
      cases same
      exact .changed _ _ (untouched_mapPointClick blank point.id) (by simp)
  | datetimeChange text =>
      obtain ⟨_, same⟩ := Option.ite_none_right_eq_some.mp stepped
      cases same
      exact .changed _ _ ⟨rfl, rfl, rfl, rfl, rfl, rfl, rfl⟩ (by simp)
  | plateNumberChange text =>
      obtain ⟨_, same⟩ := Option.ite_none_right_eq_some.mp stepped
      cases same
      exact .plated text
  | submit =>
      obtain ⟨⟨blank, idle, can⟩, same⟩ := Option.ite_none_right_eq_some.mp stepped
      cases same
      exact .submitted blank idle can
  | previewAnswered index answer =>
      rw [BookJourney.step] at stepped
      split at stepped
      · cases stepped
      · next check found =>
          cases stepped
          exact .checked index answer check found
  | bookingAnswered index answer =>
      rw [BookJourney.step] at stepped
      split at stepped
      · cases stepped
      · next found =>
          cases stepped
          exact .booked index answer (List.getElem?_eq_some_iff.mp found).1

theorem Current.step {form next : Form} {event : Event} (current : Current browser serves form)
    (answers : Answers serves form event) (stepped : step browser form event = some next) :
    Current browser serves next := by
  cases effect_of_step stepped with
  | changed event after untouched =>
      exact current.render untouched.checks untouched.checkingRoute untouched.routePreview
        untouched.sent
  | plated => exact ⟨current.single, current.asked, current.shown, current.sent⟩
  | submitted _ _ can => exact current.handleSubmit can
  | checked index answer check found =>
      refine current.previewAnswered found ?_
      rintro data rfl
      exact answers check found
  | booked index answer =>
      cases answer <;> exact ⟨current.single, current.asked, current.shown, current.sent⟩

theorem Current.mount (browser : Browser) (serves : RoutePreviewPayload → RoutePreviewOut → Prop)
    (defaultDeparture : String) (plateNumber : Option String) :
    Current browser serves (mount browser defaultDeparture plateNumber) := by
  refine .checkRoute ?_ ?_ <;>
    · intro _ member
      cases member

theorem current_run {defaultDeparture : String} {plateNumber : Option String}
    {events : List Event} {form : Form}
    (executed : Lts.run (step browser) (mount browser defaultDeparture plateNumber) events =
      some form)
    (answered : Lts.Meets (step browser) (Answers serves)
      (mount browser defaultDeparture plateNumber) events) : Current browser serves form :=
  Lts.run_invariant (fun _ _ _ current answers stepped => current.step answers stepped)
    (Current.mount browser serves defaultDeparture plateNumber) executed answered

/-- However late and in whatever order the server's answers come: where the page lets a booking be
sent, it shows the server's answer for the journey in its fields, and that answer has a route. So
has the answer for every journey it has sent. -/
theorem sent_previewed {defaultDeparture : String} {plateNumber : Option String}
    {events : List Event} {form : Form}
    (executed : Lts.run (step browser) (mount browser defaultDeparture plateNumber) events =
      some form)
    (answered : Lts.Meets (step browser) (Answers serves)
      (mount browser defaultDeparture plateNumber) events) :
    (form.canSubmit = true → ∃ payload data, form.inputs.Asks browser payload ∧
      form.routePreview = some data ∧ serves payload data ∧ data.routeAvailable = true) ∧
    ∀ booking ∈ form.sent, ∃ data, serves booking.toRoutePreviewPayload data ∧
      data.routeAvailable = true := by
  have current := current_run executed answered
  exact ⟨submittable current, current.sent⟩

/-- Writes the `Z` of the ISO form; its strings are in upper case already. -/
def plainBrowser : Browser where
  toISOString text := if text = "" then none else some (text ++ ":00.000Z")
  toUpperCase text := text
  toLowerCase text := text

def noRoute : RoutePreviewOut where
  routeAvailable := false
  reason := some "No valid path found between origin and destination"
  estimatedDurationMinutes := none
  regionChain := []
  segments := []

def someRoute : RoutePreviewOut where
  routeAvailable := true
  reason := none
  estimatedDurationMinutes := some 60
  regionChain := [.euWestIreland]
  segments := []

def roadToBirmingham (payload : RoutePreviewPayload) : RoutePreviewOut :=
  if payload.destinationLat = 52.4862 then someRoute else noRoute

/-- The answer for Cork comes when Birmingham has been selected, and that for Birmingham last. -/
def overtaken : List Event := [
  .routeSelect ⟨"ie-dublin-birmingham", "dublin", "birmingham"⟩,
  .datetimeChange "2026-04-01T10:00",
  .previewAnswered 1 (.ok someRoute),
  .previewAnswered 0 (.ok noRoute),
  .previewAnswered 0 (.ok someRoute),
  .submit]

theorem sent_previewed_overtaken : ∃ form,
    Lts.run (step plainBrowser) (mount plainBrowser "2026-04-01T09:00" none) overtaken =
      some form ∧
    form.canSubmit = true ∧ form.sent.map (·.departureTime) = ["2026-04-01T10:00:00.000Z"] ∧
    (form.canSubmit = true → ∃ payload data, form.inputs.Asks plainBrowser payload ∧
      form.routePreview = some data ∧ roadToBirmingham payload = data ∧
      data.routeAvailable = true) ∧
    ∀ booking ∈ form.sent, ∃ data, roadToBirmingham booking.toRoutePreviewPayload = data ∧
      data.routeAvailable = true := by
  have ran : (Lts.run (step plainBrowser) (mount plainBrowser "2026-04-01T09:00" none)
      overtaken).any (fun form => form.canSubmit = true ∧
        form.sent.map (·.departureTime) = ["2026-04-01T10:00:00.000Z"]) = true := by
    decide +kernel
  obtain ⟨form, executed, outcome⟩ := (Option.any_eq_true ..).mp ran
  obtain ⟨can, times⟩ := of_decide_eq_true outcome
  refine ⟨form, executed, can, times, ?_⟩
  refine @sent_previewed plainBrowser (fun payload data => roadToBirmingham payload = data)
    "2026-04-01T09:00" none overtaken form executed ?_
  exact answered_of_checks (by decide +kernel)

end

/-! ### Booking requests -/

def Event.failed : Event → Bool
  | .bookingAnswered _ (.error _) => true
  | _ => false

structure Accounted (failures : Nat) (form : Form) : Prop where
  single : form.bookings.length = if form.loading then 1 else 0
  settled : form.result ≠ none → form.loading = false
  sent : form.sent.length = failures + (if form.loading then 1 else 0) +
    (if form.result = none then 0 else 1)

section

variable {browser : Browser} {failures : Nat} {form : Form}

theorem Accounted.checkRoute (accounted : Accounted failures form) :
    Accounted failures (form.checkRoute browser) := by
  rcases checkRoute_cases browser form with same | same | ⟨_, _, same⟩ <;>
    · rw [same]
      exact ⟨accounted.single, accounted.settled, accounted.sent⟩

theorem Accounted.render {before : Form} (accounted : Accounted failures before)
    (bookings : form.bookings = before.bookings) (loading : form.loading = before.loading)
    (result : form.result = before.result) (sent : form.sent = before.sent) :
    Accounted failures (before.render browser form) := by
  have kept : Accounted failures form := by
    constructor
    · rw [bookings, loading]
      exact accounted.single
    · rw [result, loading]
      exact accounted.settled
    · rw [sent, loading, result]
      exact accounted.sent
  rw [Form.render]
  split
  · exact kept
  · exact .checkRoute ⟨kept.single, kept.settled, kept.sent⟩

theorem Accounted.handleSubmit (accounted : Accounted failures form) (blank : form.result = none)
    (idle : form.loading = false) : Accounted failures (form.handleSubmit browser) := by
  obtain ⟨single, settled, sent⟩ := accounted
  simp only [blank, idle, Bool.false_eq_true, if_false, if_true, Nat.add_zero] at single sent
  rw [Form.handleSubmit]
  split
  · split
    · constructor <;> simp [blank, idle, single, sent]
    · split <;> constructor <;> simp [single, sent]
  · constructor <;> simp [blank, idle, single, sent]

theorem Accounted.bookingAnswered {index : Nat} (accounted : Accounted failures form)
    (bound : index < form.bookings.length) (answer : Except RequestError BookingOut) :
    Accounted (failures + if (Event.bookingAnswered index answer).failed then 1 else 0)
      (({ form with bookings := form.bookings.eraseIdx index } : Form).booked browser answer) := by
  obtain ⟨single, settled, sent⟩ := accounted
  have loading : form.loading = true := by
    by_contra idle
    rw [if_neg idle] at single
    omega
  have blank : form.result = none := by
    by_contra shown
    cases loading.symm.trans (settled shown)
  simp only [loading, blank, if_true, Nat.add_zero] at single sent
  have left : (form.bookings.eraseIdx index).length = 0 := by
    rw [List.length_eraseIdx_of_lt bound, single]
  cases answer with
  | ok data => constructor <;> simp [Form.booked, Event.failed, left, sent]
  | error err => constructor <;> simp [Form.booked, Event.failed, left, blank, sent]

theorem Accounted.step {next : Form} {event : Event} (accounted : Accounted failures form)
    (stepped : step browser form event = some next) :
    Accounted (failures + if event.failed then 1 else 0) next := by
  cases effect_of_step stepped with
  | changed event after untouched own =>
      have silent : event.failed = false := by
        cases event with
        | bookingAnswered index answer => exact absurd rfl (own index answer)
        | _ => rfl
      rw [silent]
      exact accounted.render untouched.bookings untouched.loading untouched.result untouched.sent
  | plated => exact ⟨accounted.single, accounted.settled, accounted.sent⟩
  | submitted blank idle => exact accounted.handleSubmit blank idle
  | checked index answer check =>
      cases check.cancelled <;> cases answer <;>
        exact ⟨accounted.single, accounted.settled, accounted.sent⟩
  | booked index answer bound => exact accounted.bookingAnswered bound answer

theorem Accounted.mount (browser : Browser) (defaultDeparture : String)
    (plateNumber : Option String) :
    Accounted 0 (mount browser defaultDeparture plateNumber) :=
  .checkRoute ⟨rfl, fun shown => absurd rfl shown, rfl⟩

/-- Of the booking requests a page has sent each has failed but at most one, which is under way or
has brought the result; with the result no other is under way. -/
theorem sent_accounted {defaultDeparture : String} {plateNumber : Option String}
    {events : List Event}
    (executed : Lts.run (step browser) (mount browser defaultDeparture plateNumber) events =
      some form) : Accounted (events.countP Event.failed) form := by
  have counted := @Lts.run_counting _ _ (step browser) Event.failed Accounted
    (fun _ _ _ _ accounted stepped => accounted.step stepped) _ form events 0
    (Accounted.mount browser defaultDeparture plateNumber) executed
  rw [Nat.zero_add] at counted
  exact counted

def resent : List Event := [
  .previewAnswered 0 (.ok someRoute),
  .submit,
  .bookingAnswered 0 (.error ⟨some "ECONNABORTED", some "timeout of 15000ms exceeded", none⟩),
  .submit,
  .bookingAnswered 0 (.ok ⟨7, .confirmed, some 60⟩)]

theorem sent_accounted_resent : ∃ form,
    Lts.run (step plainBrowser) (mount plainBrowser "2026-04-01T09:00" none) resent = some form ∧
    form.sent.length = 2 ∧ form.result ≠ none ∧ Accounted 1 form := by
  have ran : (Lts.run (step plainBrowser) (mount plainBrowser "2026-04-01T09:00" none)
      resent).any (fun form => form.sent.length = 2 ∧ form.result ≠ none) = true := by
    decide +kernel
  obtain ⟨form, executed, outcome⟩ := (Option.any_eq_true ..).mp ran
  obtain ⟨twice, shown⟩ := of_decide_eq_true outcome
  exact ⟨form, executed, twice, shown, sent_accounted executed⟩

end

/-! ### The page before the booking service -/

def RoutePreviewPayload.request (parse : String → Timestamp) (payload : RoutePreviewPayload) :
    RoutePreviewRequest where
  originLat := payload.originLat
  originLng := payload.originLng
  destinationLat := payload.destinationLat
  destinationLng := payload.destinationLng
  departureTime := parse payload.departureTime

section

variable (haversine : Haversine) (network : RoadNetwork) (names : SegmentNames)
  (parse : String → Timestamp)

def ServedBy (payload : RoutePreviewPayload) (data : RoutePreviewOut) : Prop :=
  previewRouteEndpoint haversine network names (payload.request parse) = .ok data

instance (payload : RoutePreviewPayload) (data : RoutePreviewOut) :
    Decidable (ServedBy haversine network names parse payload data) :=
  inferInstanceAs (Decidable (_ = _))

variable {haversine network names parse} {browser : Browser}

theorem route_of_available {payload : RoutePreviewPayload} {data : RoutePreviewOut}
    (served : ServedBy haversine network names parse payload data)
    (available : data.routeAvailable = true) : ∃ route,
      (payload.request parse).bookedRoute haversine network = some route ∧
        Previewed names (.ok data) (some route) := by
  have shown := @previewed haversine network names (payload.request parse)
  rw [served] at shown
  cases found : (payload.request parse).bookedRoute haversine network with
  | none =>
      rw [found] at shown
      cases shown
      cases available
  | some route =>
      rw [found] at shown
      exact ⟨route, rfl, shown⟩

/-- In front of the booking service, the page sends only bookings that find a route; where it lets
one be sent, it shows the segments and the minutes of the very route that will be booked. -/
theorem sent_resolves {defaultDeparture : String} {plateNumber : Option String}
    {events : List Event} {form : Form}
    (executed : Lts.run (step browser) (mount browser defaultDeparture plateNumber) events =
      some form)
    (answered : Lts.Meets (step browser) (Answers (ServedBy haversine network names parse))
      (mount browser defaultDeparture plateNumber) events) :
    (form.canSubmit = true → ∃ payload data route, form.inputs.Asks browser payload ∧
      form.routePreview = some data ∧
      (payload.request parse).bookedRoute haversine network = some route ∧
      Previewed names (.ok data) (some route)) ∧
    ∀ booking ∈ form.sent, ∃ route,
      (booking.toRoutePreviewPayload.request parse).bookedRoute haversine network =
        some route := by
  have current := current_run executed answered
  constructor
  · intro can
    obtain ⟨payload, data, asks, shown, served, available⟩ := submittable current can
    obtain ⟨route, found, same⟩ := route_of_available served available
    exact ⟨payload, data, route, asks, shown, found, same⟩
  · intro booking member
    obtain ⟨data, served, available⟩ := current.sent booking member
    obtain ⟨route, found, _⟩ := route_of_available served available
    exact ⟨route, found⟩

def northPreview : RoutePreviewOut where
  routeAvailable := true
  reason := none
  estimatedDurationMinutes := some 169
  regionChain := [.euWestIreland]
  segments := [⟨1, "M1", .euWestIreland, 11119 / 100, 74, 10 * hour, 11 * hour, 53, -6, 54, -6⟩]

/-- The check for Cork gets no answer; the road to Belfast is shown and booked. -/
def northwards : List Event := [
  .previewAnswered 0 (.error ⟨none, some "Network Error", none⟩),
  .mapPointClick ⟨"belfast", .euWestUk, 54.5973, -5.9301⟩,
  .previewAnswered 0 (.ok northPreview),
  .submit]

theorem sent_resolves_northwards : ∃ form,
    Lts.run (step plainBrowser) (mount plainBrowser "2026-04-01T10:00" none) northwards =
      some form ∧
    form.sent.length = 1 ∧
    ∀ booking ∈ form.sent, ∃ route,
      (booking.toRoutePreviewPayload.request fun _ => .naive (10 * hour)).bookedRoute meridian
        northRoad = some route := by
  have ran : (Lts.run (step plainBrowser) (mount plainBrowser "2026-04-01T10:00" none)
      northwards).any (fun form => form.sent.length = 1) = true := by
    decide +kernel
  obtain ⟨form, executed, outcome⟩ := (Option.any_eq_true ..).mp ran
  refine ⟨form, executed, of_decide_eq_true outcome, ?_⟩
  refine (@sent_resolves meridian northRoad namedRoads (fun _ => .naive (10 * hour)) plainBrowser
    "2026-04-01T10:00" none northwards form executed ?_).2
  exact answered_of_checks (by decide +kernel)

end

end TrafficService.BookJourney
