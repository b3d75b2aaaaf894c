import TrafficService.Events
import TrafficService.Lib.Redelivery

/-!
The consumers of the analytics and notification services. A handler commits its rows one by one,
and a message whose handling does not end in its acknowledgement is handled again from the start.
-/

namespace TrafficService

inductive EventType
  | bookingConfirmed
  | bookingFailed
  | bookingCancelled
  deriving DecidableEq, Repr

namespace Event

def eventType : Event → EventType
  | .bookingConfirmed .. => .bookingConfirmed
  | .bookingFailed .. => .bookingFailed
  | .bookingCancelled .. => .bookingCancelled

def driverId : Event → DriverId
  | .bookingConfirmed _ driverId .. | .bookingFailed _ driverId _ | .bookingCancelled _ driverId .. =>
      driverId

def segments : Event → List (SegmentId × Region)
  | .bookingConfirmed _ _ _ segments _ => segments
  | .bookingFailed .. | .bookingCancelled .. => []

end Event

/-! ### The analytics service -/

structure BookingEvent where
  bookingId : BookingId
  driverId : DriverId
  eventType : EventType
  region : Option Region
  segmentId : Option SegmentId
  deriving DecidableEq, Repr

def recordEvent (eventType : EventType) (bookingId : BookingId) (driverId : DriverId)
    (region : Option Region) (segmentId : Option SegmentId) : BookingEvent where
  bookingId := bookingId
  driverId := driverId
  eventType := eventType
  region := region
  segmentId := segmentId

def Analytics.handleEvent (event : Event) : List BookingEvent :=
  match event.segments with
  | [] => [recordEvent event.eventType event.bookingId event.driverId none none]
  | segments => segments.map fun (segmentId, region) =>
      recordEvent event.eventType event.bookingId event.driverId (some region) (some segmentId)

/-! ### The notification service -/

inductive Channel
  | email
  | push
  | sms
  deriving DecidableEq, Repr

structure Notification where
  userId : DriverId
  bookingId : BookingId
  eventType : EventType
  channel : Channel
  message : String
  deriving DecidableEq, Repr

def Notification.subject (notification : Notification) : BookingId × EventType × Channel :=
  (notification.bookingId, notification.eventType, notification.channel)

def send (_ : Channel) (_ : DriverId) (_ : String) : Bool := true

def sendAndStore (channel : Channel) (userId : DriverId) (message : String)
    (bookingId : BookingId) (eventType : EventType) : List Notification :=
  if send channel userId message then [⟨userId, bookingId, eventType, channel, message⟩] else []

def Notifications.handleEvent (event : Event) : List Notification :=
  let bookingId := event.bookingId
  let store (channel : Channel) (message : String) : List Notification :=
    sendAndStore channel event.driverId message bookingId event.eventType
  match event.eventType with
  | .bookingConfirmed =>
      let msg := s!"Your booking {bookingId} is confirmed."
      store .push msg ++ store .sms msg ++ store .email msg
  | .bookingFailed =>
      let msg := s!"Booking {bookingId} could not be confirmed. Please try again."
      store .push msg ++ store .email msg
  | .bookingCancelled =>
      let msg := s!"Your booking {bookingId} was cancelled."
      store .push msg ++ store .sms msg

/-! ### Handled again -/

theorem perm_of_filter_subject {first second : List Notification}
    (same : ∀ subject, (first.filter fun row => row.subject = subject).Perm
      (second.filter fun row => row.subject = subject)) : first.Perm second := by
  refine List.perm_iff_count.mpr fun row => ?_
  have counts := (same row.subject).count_eq row
  rwa [List.count_filter (by simp), List.count_filter (by simp)] at counts

/-- The tables of both consumers come out as if each event had been handled once exactly when no
handling that is cut off commits a row, before or after. -/
theorem consumed_once_iff (events : List Event)
    (recording telling : List (Redelivery.Action Event))
    (analytics : Redelivery.State Event BookingEvent)
    (notifications : Redelivery.State Event Notification)
    (recorded : Lts.run (Redelivery.step Analytics.handleEvent) (.start events) recording =
      some analytics)
    (told : Lts.run (Redelivery.step Notifications.handleEvent) (.start events) telling =
      some notifications)
    (allRecorded : analytics.finished) (allTold : notifications.finished) :
    (analytics.table.Perm (events.flatMap Analytics.handleEvent) ∧
        ∀ subject, (notifications.table.filter fun row => row.subject = subject).Perm
          ((events.flatMap Notifications.handleEvent).filter fun row => row.subject = subject)) ↔
      (∀ action ∈ recording, action.repeated Analytics.handleEvent = []) ∧
        ∀ action ∈ telling, action.repeated Notifications.handleEvent = [] := by
  refine and_congr (Redelivery.table_once_iff recorded allRecorded) ?_
  rw [← Redelivery.table_once_iff told allTold]
  exact ⟨perm_of_filter_subject, fun same subject => same.filter _⟩

def confirmedAbroad : Event :=
  .bookingConfirmed 4 7 (some "12-D-345") [(2, .euWestUk), (1, .euWestIreland)] (7200 * second)

def handledThrough (event : Event) (commits : Nat) : List (Redelivery.Action Event) :=
  .deliver event :: (List.range commits).map (fun done => .commit ⟨event, done⟩) ++
    [.acknowledge ⟨event, commits⟩]

def cutOffAfter (rows : Nat) (event : Event) (commits : Nat) : List (Redelivery.Action Event) :=
  .deliver event :: (List.range rows).map (fun done => .commit ⟨event, done⟩) ++
    .cutOff ⟨event, rows⟩ :: handledThrough event commits

theorem consumed_once_confirmedAbroad : ∃ analytics notifications,
    Lts.run (Redelivery.step Analytics.handleEvent) (.start [confirmedAbroad])
        (cutOffAfter 0 confirmedAbroad 2) = some analytics ∧
      Lts.run (Redelivery.step Notifications.handleEvent) (.start [confirmedAbroad])
        (handledThrough confirmedAbroad 3) = some notifications ∧
      analytics.table.Perm ([confirmedAbroad].flatMap Analytics.handleEvent) :=
  ⟨_, _, rfl, rfl, ((consumed_once_iff [confirmedAbroad] (cutOffAfter 0 confirmedAbroad 2)
    (handledThrough confirmedAbroad 3) _ _ rfl rfl ⟨rfl, rfl⟩ ⟨rfl, rfl⟩).mpr
      ⟨by decide, by decide⟩).1⟩

/-- A row committed before the failure is there twice. -/
theorem recorded_twice :
    ¬ ∀ (events : List Event) (recording telling : List (Redelivery.Action Event))
      (analytics : Redelivery.State Event BookingEvent)
      (notifications : Redelivery.State Event Notification),
      Lts.run (Redelivery.step Analytics.handleEvent) (.start events) recording = some analytics →
      Lts.run (Redelivery.step Notifications.handleEvent) (.start events) telling =
        some notifications →
      analytics.finished → notifications.finished →
      analytics.table.Perm (events.flatMap Analytics.handleEvent) ∧
        ∀ subject, (notifications.table.filter fun row => row.subject = subject).Perm
          ((events.flatMap Notifications.handleEvent).filter fun row => row.subject = subject) := by
  intro once
  have recorded := (once [confirmedAbroad] (cutOffAfter 1 confirmedAbroad 2)
    (handledThrough confirmedAbroad 3) _ _ rfl rfl ⟨rfl, rfl⟩ ⟨rfl, rfl⟩).1
  exact absurd recorded.length_eq (by decide)

end TrafficService
