/-
**Lengths of time: seconds in 64 bits, and nanoseconds.**

* `asMillis` — rounded down;
* `saturatingMul` — a product that is too long is the longest length of time.
-/

import Mathlib.Order.Lattice
import Mathlib.Algebra.Group.Nat.Defs

namespace AsyncOpcua.Types

/-- **A length of time.** -/
structure Duration where
  nanos : ℕ
  fits : nanos < 2 ^ 64 * 1000000000
  deriving DecidableEq

namespace Duration

theorem nanos_injective : Function.Injective nanos := by
  rintro ⟨first, _⟩ ⟨second, _⟩ same
  cases same
  rfl

instance : LinearOrder Duration := LinearOrder.lift' nanos nanos_injective

def zero : Duration := ⟨0, by decide⟩

/-- The longest. -/
def max : Duration := ⟨2 ^ 64 * 1000000000 - 1, by decide⟩

/-- Milliseconds in 64 bits. -/
def fromMillis (millis : UInt64) : Duration where
  nanos := millis.toNat * 1000000
  fits := by
    have := millis.toNat_lt
    omega

def asMillis (d : Duration) : ℕ := d.nanos / 1000000

def isZero (d : Duration) : Bool := d.nanos == 0

def checkedMul (d : Duration) (count : UInt32) : Option Duration :=
  if fits : d.nanos * count.toNat < 2 ^ 64 * 1000000000 then some ⟨d.nanos * count.toNat, fits⟩
  else none

end Duration

end AsyncOpcua.Types
