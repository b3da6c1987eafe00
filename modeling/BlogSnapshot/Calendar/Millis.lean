import BlogSnapshot.Calendar.Moment
import BlogSnapshot.Number.Binary64

/-! Milliseconds since the epoch, computed through doubles: seconds are rounded to a double,
multiplied by 1000 with another rounding, and cut to a whole number.
-/

namespace BlogSnapshot.Calendar

/-- Milliseconds from microseconds since the epoch; moments before the epoch count as zero. -/
def millisOfMicros (micros : Int) : Nat :=
  let seconds := Binary64.ofRatio false micros.toNat microsPerSecond
  (seconds.mul (Binary64.ofNat 1000)).floorNat

end BlogSnapshot.Calendar

namespace BlogSnapshot.Moment

/-- Milliseconds since the epoch, never negative. -/
def millis (m : Moment) : Nat :=
  Calendar.millisOfMicros (m.instant - epoch)

end BlogSnapshot.Moment
