import Mathlib.Algebra.Group.Nat.Defs
import Mathlib.Data.Int.Basic
import Mathlib.Order.Lattice

/-!
# Arithmetic in 64 bits

A computation in signed 64-bit integers goes on with a sum or a product only if it is one.
Where every one of them is, the computation is the same as over all integers: that is what
it is to be free of overflow. A machine that does not stop there keeps the low 64 bits, and a
program that looks first can saturate instead.
-/

namespace EspPtp
namespace Lib

/-- A signed 64-bit integer. -/
def Fits64 (x : Int) : Prop := -9223372036854775808 ≤ x ∧ x ≤ 9223372036854775807

instance (x : Int) : Decidable (Fits64 x) :=
  inferInstanceAs (Decidable (-9223372036854775808 ≤ x ∧ x ≤ 9223372036854775807))

/-- Go on with `x`, unless it overflows. -/
def checked64 {α : Type} (x : Int) (next : Int → Option α) : Option α :=
  if Fits64 x then next x else none

theorem checked64_of {α : Type} {x : Int} {next : Int → Option α} (h : Fits64 x) :
    checked64 x next = next x := if_pos h

theorem checked64_eq_some {α : Type} {x : Int} {next : Int → Option α} {a : α} :
    checked64 x next = some a ↔ Fits64 x ∧ next x = some a := by
  unfold checked64
  by_cases h : Fits64 x
  · rw [if_pos h]
    exact ⟨fun hnext => ⟨h, hnext⟩, fun hnext => hnext.2⟩
  · rw [if_neg h]
    exact iff_of_false (Option.some_ne_none a).symm fun hnext => h hnext.1

/-- The low 64 bits, as a signed integer. -/
def wrap64 (x : Int) : Int := x.bmod (2 ^ 64)

theorem wrap64_of_fits {x : Int} (h : Fits64 x) : wrap64 x = x := by
  obtain ⟨hlow, hhigh⟩ := h
  exact Int.bmod_eq_of_le (by omega) (by omega)

/-- An overflow on the way is harmless. -/
@[simp] theorem wrap64_add_wrap64 (x y : Int) : wrap64 (wrap64 x + y) = wrap64 (x + y) :=
  Int.bmod_add_bmod

/-- The nearest 64-bit integer. -/
def saturate64 (x : Int) : Int := max (-9223372036854775808) (min 9223372036854775807 x)

theorem saturate64_of_fits {x : Int} (h : Fits64 x) : saturate64 x = x := by
  obtain ⟨hlow, hhigh⟩ := h
  unfold saturate64
  omega

end Lib
end EspPtp
