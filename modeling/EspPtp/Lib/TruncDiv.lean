import Mathlib.Tactic.Linarith
import Mathlib.Tactic.Ring

/-!
# Division toward zero

What a fixed-point computation needs of C's division by a positive constant: between which
multiples a number lies, that a product may be divided in two parts, and that a clock of
bounded drift, read through such divisions, never runs backward.
-/

namespace EspPtp
namespace Lib

variable {m n q r x : Int}

theorem tdiv_bounds_nonneg (hm : 0 < m) (hx : 0 ≤ x) :
    0 ≤ x.tdiv m ∧ m * x.tdiv m ≤ x ∧ x < m * x.tdiv m + m :=
  ⟨Int.tdiv_nonneg hx (Int.le_of_lt hm), Int.mul_tdiv_self_le hx, Int.lt_mul_tdiv_self_add hm⟩

theorem tdiv_bounds_nonpos (hm : 0 < m) (hx : x ≤ 0) :
    x.tdiv m ≤ 0 ∧ x ≤ m * x.tdiv m ∧ m * x.tdiv m < x + m := by
  obtain ⟨hnonneg, hle, hlt⟩ := tdiv_bounds_nonneg hm (Int.neg_nonneg_of_nonpos hx)
  rw [Int.neg_tdiv, Int.mul_neg] at hle hlt
  rw [Int.neg_tdiv] at hnonneg
  omega

/-- What is less than a unit is nothing. -/
theorem tdiv_eq_zero_iff (hm : 0 < m) : x.tdiv m = 0 ↔ -m < x ∧ x < m := by
  constructor
  · intro hzero
    rcases Int.le_total 0 x with hx | hx
    · obtain ⟨-, -, hlt⟩ := tdiv_bounds_nonneg hm hx
      rw [hzero] at hlt
      omega
    · obtain ⟨-, -, hlt⟩ := tdiv_bounds_nonpos hm hx
      rw [hzero] at hlt
      omega
  · rintro ⟨hlow, hhigh⟩
    rcases Int.le_total 0 x with hx | hx
    · exact Int.tdiv_eq_zero_of_lt hx hhigh
    · rw [← Int.neg_inj, ← Int.neg_tdiv, Int.neg_zero]
      exact Int.tdiv_eq_zero_of_lt (by omega) (by omega)

/-- A whole number of units is divided apart, if it has the sign of the rest. -/
theorem mul_add_tdiv (hm : 0 < m) (hsame : 0 ≤ q ∧ 0 ≤ x ∨ q ≤ 0 ∧ x ≤ 0) :
    (m * q + x).tdiv m = q + x.tdiv m := by
  have hpositive : ∀ {q x : Int}, 0 ≤ q → 0 ≤ x → (m * q + x).tdiv m = q + x.tdiv m := by
    intro q x hq hx
    have hsum : 0 ≤ m * q + x := Int.add_nonneg (Int.mul_nonneg (Int.le_of_lt hm) hq) hx
    rw [Int.tdiv_eq_ediv_of_nonneg hsum, Int.tdiv_eq_ediv_of_nonneg hx, Int.add_comm,
      Int.add_mul_ediv_left x q (ne_of_gt hm), Int.add_comm]
  rcases hsame with ⟨hq, hx⟩ | ⟨hq, hx⟩
  · exact hpositive hq hx
  · have hneg := hpositive (Int.neg_nonneg_of_nonpos hq) (Int.neg_nonneg_of_nonpos hx)
    rw [Int.mul_neg, ← Int.neg_add, Int.neg_tdiv, Int.neg_tdiv, ← Int.neg_add] at hneg
    exact Int.neg_inj.mp hneg

/-- The product divided in two parts is the product divided. -/
theorem tdiv_mul_split (hm : 0 < m) (n r : Int) :
    n.tdiv m * r + (n.tmod m * r).tdiv m = (n * r).tdiv m := by
  have hparts : n * r = m * (n.tdiv m * r) + n.tmod m * r := by
    rw [← Int.mul_assoc, ← Int.add_mul, Int.mul_tdiv_add_tmod]
  rw [hparts, mul_add_tdiv hm]
  -- Quotient and rest have the sign of `n`, so that their multiples agree in sign.
  rcases Int.le_total 0 n with hn | hn
  · have hquotient : 0 ≤ n.tdiv m := Int.tdiv_nonneg hn (Int.le_of_lt hm)
    have hrest : 0 ≤ n.tmod m := Int.tmod_nonneg m hn
    rcases Int.le_total 0 r with hr | hr
    · exact .inl ⟨Int.mul_nonneg hquotient hr, Int.mul_nonneg hrest hr⟩
    · exact .inr ⟨Int.mul_nonpos_of_nonneg_of_nonpos hquotient hr,
        Int.mul_nonpos_of_nonneg_of_nonpos hrest hr⟩
  · have hquotient : n.tdiv m ≤ 0 := (tdiv_bounds_nonpos hm hn).1
    have hrest : n.tmod m ≤ 0 := by
      have hle := (tdiv_bounds_nonpos hm hn).2.1
      have hsum := Int.mul_tdiv_add_tmod n m
      omega
    rcases Int.le_total 0 r with hr | hr
    · exact .inr ⟨Int.mul_nonpos_of_nonpos_of_nonneg hquotient hr,
        Int.mul_nonpos_of_nonpos_of_nonneg hrest hr⟩
    · exact .inl ⟨Int.mul_nonneg_of_nonpos_of_nonpos hquotient hr,
        Int.mul_nonneg_of_nonpos_of_nonpos hrest hr⟩

/-- What is gained at least makes up for a drift that is not more than all of the rate. -/
theorem add_mul_tdiv_le_of_nonneg (hm : 0 < m) (hr : -m ≤ r) {a b : Int} (ha : 0 ≤ a)
    (hab : a ≤ b) : a + (a * r).tdiv m ≤ b + (b * r).tdiv m := by
  have hdrift : -(m * (b - a)) ≤ (b - a) * r := by nlinarith
  have hsum : b * r = a * r + (b - a) * r := by ring
  rcases Int.le_total 0 r with hpositive | hnegative
  · have hmono : (a * r).tdiv m ≤ (b * r).tdiv m :=
      Int.tdiv_le_tdiv hm (Int.mul_le_mul_of_nonneg_right hab hpositive)
    omega
  · -- The time gained makes up for what the drift takes, before either is rounded.
    have hnonpos : a * r ≤ 0 := Int.mul_nonpos_of_nonneg_of_nonpos ha hnegative
    have hshift := mul_add_tdiv (m := m) (q := a - b) (x := a * r) hm (.inr ⟨by omega, hnonpos⟩)
    have hmono : (m * (a - b) + a * r).tdiv m ≤ (b * r).tdiv m := by
      refine Int.tdiv_le_tdiv hm ?_
      have hflip : m * (a - b) = -(m * (b - a)) := by ring
      omega
    omega

/-- **A clock that drifts by less than all of its rate never runs backward**, whatever its
    readings are rounded to, and on either side of its anchor. -/
theorem add_mul_tdiv_mono (hm : 0 < m) (hr : -m ≤ r) {a b : Int} (hab : a ≤ b) :
    a + (a * r).tdiv m ≤ b + (b * r).tdiv m := by
  have hzero : (0 * r).tdiv m = 0 := by rw [Int.zero_mul, Int.zero_tdiv]
  -- Before the anchor it runs as it does after it, seen from the other end.
  have hbefore : ∀ {a b : Int}, b ≤ 0 → a ≤ b → a + (a * r).tdiv m ≤ b + (b * r).tdiv m := by
    intro a b hb hab
    have hflip := add_mul_tdiv_le_of_nonneg hm hr (Int.neg_nonneg_of_nonpos hb)
      (Int.neg_le_neg hab)
    rw [Int.neg_mul, Int.neg_mul, Int.neg_tdiv, Int.neg_tdiv] at hflip
    omega
  rcases Int.le_total 0 a with ha | ha
  · exact add_mul_tdiv_le_of_nonneg hm hr ha hab
  · rcases Int.le_total 0 b with hb | hb
    · have hto := hbefore (Int.le_refl 0) ha
      have hfrom := add_mul_tdiv_le_of_nonneg hm hr (Int.le_refl 0) hb
      exact Int.le_trans hto hfrom
    · exact hbefore hb hab

/-- **What a steered clock gains against its reference.** The reference moves by `y` from `x`,
    the clock by `y + w`, all of them rounded; the gain is `w` but for the three roundings. -/
theorem steering_gain {x y w t : Int} (hm : 0 < m) (hsame : 0 ≤ x ∧ 0 ≤ y ∨ x ≤ 0 ∧ y ≤ 0)
    (hw : 0 ≤ w) (hwt : w ≤ m * t) :
    -1 ≤ (y + w).tdiv m - ((x + y).tdiv m - x.tdiv m) ∧
      (y + w).tdiv m - ((x + y).tdiv m - x.tdiv m) ≤ t + 1 ∧
      w ≤ m * ((y + w).tdiv m - ((x + y).tdiv m - x.tdiv m)) + 2 * m := by
  rcases hsame with ⟨hx, hy⟩ | ⟨hx, hy⟩
  · obtain ⟨-, hfrom, hfrom'⟩ := tdiv_bounds_nonneg hm hx
    obtain ⟨-, hto, hto'⟩ := tdiv_bounds_nonneg hm (Int.add_nonneg hx hy)
    obtain ⟨-, hclock, hclock'⟩ := tdiv_bounds_nonneg hm (Int.add_nonneg hy hw)
    exact ⟨by nlinarith, by nlinarith, by nlinarith⟩
  · obtain ⟨-, hfrom, hfrom'⟩ := tdiv_bounds_nonpos hm hx
    obtain ⟨-, hto, hto'⟩ := tdiv_bounds_nonpos hm (Int.add_nonpos hx hy)
    -- A reference that runs slow may be overcome by the steering, or not.
    rcases Int.le_total 0 (y + w) with hclock | hclock
    · obtain ⟨-, hclock, hclock'⟩ := tdiv_bounds_nonneg hm hclock
      exact ⟨by nlinarith, by nlinarith, by nlinarith⟩
    · obtain ⟨-, hclock, hclock'⟩ := tdiv_bounds_nonpos hm hclock
      exact ⟨by nlinarith, by nlinarith, by nlinarith⟩

end Lib
end EspPtp
