import Mathlib.Algebra.Order.Floor.Ring
import Mathlib.Data.Int.Log
import Mathlib.Data.Rat.Floor

set_option autoImplicit false

-- Binary floating-point formats by their precision and the exponent of their
-- smallest number; what overflows a format is not part of it.
structure FloatFormat where
  precision : Nat
  minExponent : Int

namespace FloatFormat

def binary32 : FloatFormat := ⟨24, -149⟩

def binary64 : FloatFormat := ⟨53, -1074⟩

-- The integer next to a number, the even one of two that are as close.
def nearestEven (number : ℚ) : Int :=
  let below := ⌊number⌋
  if number - below < 1 / 2 then below
  else if 1 / 2 < number - below then below + 1
  else below + below % 2

-- The distance of the numbers of the format around a number.
def spacing (format : FloatFormat) (number : ℚ) : ℚ :=
  2 ^ max (Int.log 2 |number| + 1 - format.precision) format.minExponent

def round (format : FloatFormat) (number : ℚ) : ℚ :=
  nearestEven (number / format.spacing number) * format.spacing number

theorem nearest_even_nonneg (number : ℚ) (nonneg : 0 ≤ number) : 0 ≤ nearestEven number := by
  have below : 0 ≤ ⌊number⌋ := Int.floor_nonneg.mpr nonneg
  simp only [nearestEven]
  split
  · exact below
  · split
    · omega
    · omega

theorem spacing_pos (format : FloatFormat) (number : ℚ) : 0 < format.spacing number :=
  zpow_pos (by norm_num) _

theorem round_nonneg (format : FloatFormat) (number : ℚ) (nonneg : 0 ≤ number) : 0 ≤ format.round number := by
  have spaced := (format.spacing_pos number).le
  have whole : (0 : ℚ) ≤ nearestEven (number / format.spacing number) :=
    Int.cast_nonneg (nearest_even_nonneg _ (div_nonneg nonneg spaced))
  exact mul_nonneg whole spaced

end FloatFormat
