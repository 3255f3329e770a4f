import Mathlib.Algebra.Order.Round
import Mathlib.Data.Rat.Floor

/-!
# The arithmetic of C's `double`, as an interface

What the measurements of this development compute in floating point, they compute through
the operations of this class: nothing proved anywhere rests on how they round. A result
over every `CDouble F` therefore holds of the hardware's type as it holds of the rationals,
which are the instance that can be evaluated by hand.

Comparison is a test here, as it is in C: a NaN fails both `le` and `lt`, so neither is the
negation of the other and there is no order to speak of.
-/

namespace EspPtp
namespace Lib

class CDouble (F : Type) extends Add F, Sub F, Mul F, Div F, OfScientific F where
  /-- `(double)n`. -/
  ofInt : Int → F
  le : F → F → Bool
  lt : F → F → Bool
  isfinite : F → Bool
  llround : F → Int
  /-- `(int64_t)x`, toward zero. -/
  trunc : F → Int

/-- Exact arithmetic; `llround` goes half away from zero. -/
instance : CDouble ℚ where
  ofInt n := n
  le a b := decide (a ≤ b)
  lt a b := decide (a < b)
  isfinite _ := true
  llround x := if 0 ≤ x then ⌊x + 1 / 2⌋ else -⌊-x + 1 / 2⌋
  trunc x := if 0 ≤ x then ⌊x⌋ else -⌊-x⌋

end Lib
end EspPtp
