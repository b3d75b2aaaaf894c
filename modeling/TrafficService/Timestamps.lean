import TrafficService.Database

/-! `datetime` values as a request carries them, naive or with a UTC offset. -/

namespace TrafficService

/-- `wall` is what the fields of the `datetime` show. `utcoffset` is `none` for a naive one. -/
structure Timestamp where
  wall : DateTime
  utcoffset : Option Int
  deriving DecidableEq, Repr

def Timestamp.naive (wall : DateTime) : Timestamp := ⟨wall, none⟩

/-- The value of a `TIMESTAMP` parameter. The driver refuses an offset-aware one. -/
def Timestamp.parameter? (timestamp : Timestamp) : Option DateTime :=
  match timestamp.utcoffset with
  | none => some timestamp.wall
  | some _ => none

end TrafficService
