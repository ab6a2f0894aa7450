/-!
# Timestamps

A point in time, in milliseconds since 1970-01-01T00:00:00Z. The epoch itself is the blank
timestamp: a filter field that holds it counts as not set.
-/

namespace Sift

structure Timestamp where
  millis : Int64
  deriving DecidableEq, Repr, Inhabited

namespace Timestamp

/-- The timestamp of a field that is not set. -/
def blank : Timestamp := ⟨0⟩

def isBlank (t : Timestamp) : Bool := t == blank

def compare (a b : Timestamp) : Ordering := Ord.compare a.millis.toInt b.millis.toInt

/-- The nearest 64-bit integer to any integer. -/
def clamp (n : Int) : Int64 :=
  Int64.ofInt (max (-9223372036854775808) (min 9223372036854775807 n))

/-- Whole seconds since the epoch; a time too far away to be counted in milliseconds becomes the
    first or the last timestamp. -/
def ofSeconds (s : Int64) : Timestamp := ⟨clamp (s.toInt * 1000)⟩

end Timestamp

end Sift
