/-
**Numbers of ticks:** of 100 ns each, since 1601.

* `checkedTicks_of_within` — up to the end of 9999 a number of ticks stays as it is.
-/

import Mathlib.Data.Int.Notation

namespace AsyncOpcua.Types

/-- `DateTime::endtimes_ticks`: the end of 9999. -/
def endtimesTicks : ℤ := 2650467743990000000

/-- `DateTime::checked_ticks`. -/
def checkedTicks (ticks : ℤ) : ℤ :=
  if ticks < 0 then 0 else if endtimesTicks < ticks then 9223372036854775807 else ticks

theorem checkedTicks_of_within {ticks : ℤ} (least : 0 ≤ ticks) (most : ticks ≤ endtimesTicks) :
    checkedTicks ticks = ticks := by
  rw [checkedTicks, if_neg (by omega), if_neg (by omega)]

end AsyncOpcua.Types
