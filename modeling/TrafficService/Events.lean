import TrafficService.Database

/-! The messages the booking service publishes, under their routing keys. -/

namespace TrafficService

/-- `departure_time` is absent from the reconciler's `booking.cancelled`. -/
inductive Event
  | bookingConfirmed (bookingId : BookingId) (driverId : DriverId) (plateNumber : Option Plate)
      (segments : List (SegmentId × Region)) (departureTime : DateTime)
  | bookingFailed (bookingId : BookingId) (driverId : DriverId) (plateNumber : Option Plate)
  | bookingCancelled (bookingId : BookingId) (driverId : DriverId) (plateNumber : Option Plate)
      (departureTime : Option DateTime)
  deriving DecidableEq, Repr

def Event.bookingId : Event → BookingId
  | .bookingConfirmed id .. | .bookingFailed id .. | .bookingCancelled id .. => id

def Event.plateNumber : Event → Option Plate
  | .bookingConfirmed _ _ plate _ _ | .bookingFailed _ _ plate | .bookingCancelled _ _ plate _ => plate

def Event.isConfirmed : Event → Bool
  | .bookingConfirmed .. => true
  | _ => false

def Event.isFailed : Event → Bool
  | .bookingFailed .. => true
  | _ => false

def Event.isCancelled : Event → Bool
  | .bookingCancelled .. => true
  | _ => false

end TrafficService
