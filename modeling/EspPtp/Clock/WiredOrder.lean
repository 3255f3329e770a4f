import EspPtp.Clock.WiredBounds

/-!
# The order of the wired trims

What an offset asks for grows with the offset, at once and for the integral. A larger offset
still may get a smaller trim: where it asks for more than the limit its integral is held,
while that of the smaller one follows. Between two offsets of which both are held, or
neither, or one on either side of zero, the order is kept; where they are held apart it is
kept exactly as long as what is asked at once makes up for what the integral is held back by.
-/

namespace EspPtp

open Lib

/-- The anti-windup holds the integral: the offset pushes further out of the limit. -/
def PtpWiredHeld (integralQ16 offsetNs intervalNs : Int) : Prop :=
  (ptpWiredUnsaturated integralQ16 offsetNs intervalNs > ptpWiredTrimLimit ∧ offsetNs > 0) ∨
    (ptpWiredUnsaturated integralQ16 offsetNs intervalNs < -ptpWiredTrimLimit ∧ offsetNs < 0)

instance (integralQ16 offsetNs intervalNs : Int) :
    Decidable (PtpWiredHeld integralQ16 offsetNs intervalNs) :=
  inferInstanceAs (Decidable ((_ ∧ _) ∨ (_ ∧ _)))

/-- Of two offsets on one side of zero just one is held. -/
def PtpWiredHeldApart (integralQ16 intervalNs lowerNs higherNs : Int) : Prop :=
  (0 < lowerNs ∨ higherNs < 0) ∧
    ¬ (PtpWiredHeld integralQ16 lowerNs intervalNs ↔ PtpWiredHeld integralQ16 higherNs intervalNs)

instance (integralQ16 intervalNs lowerNs higherNs : Int) :
    Decidable (PtpWiredHeldApart integralQ16 intervalNs lowerNs higherNs) :=
  inferInstanceAs (Decidable ((_ ∨ _) ∧ ¬ (_ ↔ _)))

/-! ## What is asked for -/

section Asked

variable {integralQ16 intervalNs lowerNs higherNs : Int}

theorem clampTo_mono {limit x y : Int} (hlimit : 0 ≤ limit) (hxy : x ≤ y) :
    clampTo limit x ≤ clampTo limit y := by
  unfold clampTo
  split
  · split
    · exact Int.le_refl limit
    · omega
  · split
    · exact neg_le_clampTo hlimit y
    · exact le_clampTo_of_le hxy (by omega)

/-- Rounding keeps the order. -/
theorem q16_mono {denominator x y : Int} (hpositive : 0 < denominator) (hxy : x ≤ y) :
    x.tdiv denominator * 65536 + (x.tmod denominator * 65536).tdiv denominator ≤
      y.tdiv denominator * 65536 + (y.tmod denominator * 65536).tdiv denominator := by
  rw [tdiv_mul_split hpositive, tdiv_mul_split hpositive]
  exact Int.tdiv_le_tdiv hpositive (by omega)

/-- In either gain regime a larger offset asks for more, at once and for the integral. -/
theorem ptpWiredGains_mono (hpositive : 0 < intervalNs) (hle : lowerNs ≤ higherNs) :
    (ptpWiredGains lowerNs intervalNs).1 ≤ (ptpWiredGains higherNs intervalNs).1 ∧
      (ptpWiredGains lowerNs intervalNs).2 ≤ (ptpWiredGains higherNs intervalNs).2 := by
  unfold ptpWiredGains
  by_cases hshort : intervalNs ≤ 250000000
  · have hnumerator : lowerNs * intervalNs ≤ higherNs * intervalNs :=
      Int.mul_le_mul_of_nonneg_right hle (Int.le_of_lt hpositive)
    simp only [hshort, decide_true, if_true]
    exact ⟨by omega, q16_mono (by decide) hnumerator⟩
  · simp only [hshort, decide_false, Bool.false_eq_true, if_false]
    exact ⟨Int.tdiv_le_tdiv hpositive (by omega), q16_mono hpositive (by omega)⟩

theorem ptpWiredStepGains_mono (hle : lowerNs ≤ higherNs) (intervalNs : Int) :
    (ptpWiredStepGains lowerNs intervalNs).1 ≤ (ptpWiredStepGains higherNs intervalNs).1 ∧
      (ptpWiredStepGains lowerNs intervalNs).2 ≤ (ptpWiredStepGains higherNs intervalNs).2 := by
  have hpositive := (ptpWiredInterval_bounds intervalNs).1
  exact ptpWiredGains_mono (by omega) (clampTo_mono (by decide) hle)

theorem ptpWiredCandidate_mono (hle : lowerNs ≤ higherNs) (integralQ16 intervalNs : Int) :
    ptpWiredCandidate integralQ16 lowerNs intervalNs ≤
      ptpWiredCandidate integralQ16 higherNs intervalNs :=
  clampTo_mono (by decide) (Int.add_le_add_left (ptpWiredStepGains_mono hle intervalNs).2 _)

theorem ptpWiredUnsaturated_mono (hle : lowerNs ≤ higherNs) (integralQ16 intervalNs : Int) :
    ptpWiredUnsaturated integralQ16 lowerNs intervalNs ≤
      ptpWiredUnsaturated integralQ16 higherNs intervalNs :=
  Int.add_le_add (ptpWiredStepGains_mono hle intervalNs).1
    (Int.tdiv_le_tdiv (by decide) (ptpWiredCandidate_mono hle integralQ16 intervalNs))

/-- The candidate lies on the side of the integral that the offset lies on of zero. -/
theorem ptpWiredCandidate_side (hlow : -ptpWiredIntegralLimit ≤ integralQ16)
    (hhigh : integralQ16 ≤ ptpWiredIntegralLimit) (offsetNs intervalNs : Int) :
    (0 ≤ offsetNs → integralQ16 ≤ ptpWiredCandidate integralQ16 offsetNs intervalNs) ∧
      (offsetNs ≤ 0 → ptpWiredCandidate integralQ16 offsetNs intervalNs ≤ integralQ16) := by
  have hgains := ptpWiredStepGains_bounds offsetNs intervalNs
  constructor
  · intro hahead
    have hincrement := (hgains.ahead (le_clampTo_of_le hahead (by decide))).2
    exact le_clampTo_of_le (by omega) hhigh
  · intro hbehind
    have hincrement := (hgains.behind (clampTo_le_of_le hbehind (by decide))).2
    exact clampTo_le_of_le (by omega) hlow

/-- So does what is asked at once. -/
theorem ptpWiredStepGains_side (offsetNs intervalNs : Int) :
    (0 ≤ offsetNs → 0 ≤ (ptpWiredStepGains offsetNs intervalNs).1) ∧
      (offsetNs ≤ 0 → (ptpWiredStepGains offsetNs intervalNs).1 ≤ 0) := by
  have hgains := ptpWiredStepGains_bounds offsetNs intervalNs
  exact ⟨fun hahead => (hgains.ahead (le_clampTo_of_le hahead (by decide))).1,
    fun hbehind => (hgains.behind (clampTo_le_of_le hbehind (by decide))).1⟩

end Asked

/-! ## What is kept -/

section Kept

variable {integralQ16 offsetNs intervalNs lowerNs higherNs : Int}

theorem PtpWiredHeld.integral (hheld : PtpWiredHeld integralQ16 offsetNs intervalNs) :
    (ptpWiredPiStep integralQ16 offsetNs intervalNs).1 = integralQ16 := by
  rw [ptpWiredPiStep_eq]
  exact if_pos hheld

theorem ptpWiredPiStep_followed (hfree : ¬ PtpWiredHeld integralQ16 offsetNs intervalNs) :
    (ptpWiredPiStep integralQ16 offsetNs intervalNs).1 =
      ptpWiredCandidate integralQ16 offsetNs intervalNs := by
  rw [ptpWiredPiStep_eq]
  exact if_neg hfree

/-- Held apart, it is the larger one in size that is held. -/
theorem PtpWiredHeldApart.cases (hle : lowerNs ≤ higherNs)
    (hapart : PtpWiredHeldApart integralQ16 intervalNs lowerNs higherNs) :
    (0 < lowerNs ∧ ¬ PtpWiredHeld integralQ16 lowerNs intervalNs ∧
        PtpWiredHeld integralQ16 higherNs intervalNs) ∨
      (higherNs < 0 ∧ PtpWiredHeld integralQ16 lowerNs intervalNs ∧
        ¬ PtpWiredHeld integralQ16 higherNs intervalNs) := by
  have hasked := ptpWiredUnsaturated_mono hle integralQ16 intervalNs
  obtain ⟨hside, hdiffer⟩ := hapart
  -- What pushes out further than one that is held is held as well.
  have hahead : 0 < lowerNs → PtpWiredHeld integralQ16 lowerNs intervalNs →
      PtpWiredHeld integralQ16 higherNs intervalNs := by
    unfold PtpWiredHeld
    omega
  have hbehind : higherNs < 0 → PtpWiredHeld integralQ16 higherNs intervalNs →
      PtpWiredHeld integralQ16 lowerNs intervalNs := by
    unfold PtpWiredHeld
    omega
  rcases hside with hside | hside
  · have hlower : ¬ PtpWiredHeld integralQ16 lowerNs intervalNs :=
      fun hlower => hdiffer ⟨fun _ => hahead hside hlower, fun _ => hlower⟩
    refine .inl ⟨hside, hlower, ?_⟩
    by_contra hhigher
    exact hdiffer (iff_of_false hlower hhigher)
  · have hhigher : ¬ PtpWiredHeld integralQ16 higherNs intervalNs :=
      fun hhigher => hdiffer ⟨fun _ => hhigher, fun _ => hbehind hside hhigher⟩
    refine .inr ⟨hside, ?_, hhigher⟩
    by_contra hlower
    exact hdiffer (iff_of_false hlower hhigher)

/-- Unless two offsets are held apart, the larger one keeps no less of the integral. -/
theorem ptpWiredPiStep_kept_mono (hlow : -ptpWiredIntegralLimit ≤ integralQ16)
    (hhigh : integralQ16 ≤ ptpWiredIntegralLimit) (hle : lowerNs ≤ higherNs)
    (htogether : ¬ PtpWiredHeldApart integralQ16 intervalNs lowerNs higherNs) :
    (ptpWiredPiStep integralQ16 lowerNs intervalNs).1 ≤
      (ptpWiredPiStep integralQ16 higherNs intervalNs).1 := by
  by_cases hlower : PtpWiredHeld integralQ16 lowerNs intervalNs
  · rw [hlower.integral]
    by_cases hhigher : PtpWiredHeld integralQ16 higherNs intervalNs
    · rw [hhigher.integral]
    · -- The lower one pushes out below; the higher one cannot lie below zero as well.
      have hahead : 0 ≤ higherNs := by
        by_contra hbehind
        exact htogether ⟨.inr (Int.not_le.mp hbehind), fun hsame => hhigher (hsame.mp hlower)⟩
      rw [ptpWiredPiStep_followed hhigher]
      exact (ptpWiredCandidate_side hlow hhigh higherNs intervalNs).1 hahead
  · rw [ptpWiredPiStep_followed hlower]
    by_cases hhigher : PtpWiredHeld integralQ16 higherNs intervalNs
    · have hbehind : lowerNs ≤ 0 := by
        by_contra hahead
        exact htogether ⟨.inl (Int.not_le.mp hahead), fun hsame => hlower (hsame.mpr hhigher)⟩
      rw [hhigher.integral]
      exact (ptpWiredCandidate_side hlow hhigh lowerNs intervalNs).2 hbehind
    · rw [ptpWiredPiStep_followed hhigher]
      exact ptpWiredCandidate_mono hle integralQ16 intervalNs

end Kept

/-! ## The trims -/

section Trims

variable {integralQ16 offsetNs intervalNs lowerNs higherNs : Int}

/-- Clamping does not stretch a distance. -/
theorem clampTo_le_add {limit x y d : Int} (hlimit : 0 ≤ limit) (hd : 0 ≤ d) (hxy : x ≤ y + d) :
    clampTo limit x ≤ clampTo limit y + d := by
  unfold clampTo
  split
  · split
    · omega
    · split <;> omega
  · split
    · split
      · omega
      · split <;> omega
    · split
      · omega
      · split <;> omega

/-- Clamped from apart, two numbers of which one is within the limit keep their order. -/
theorem clampTo_le_iff {limit x y : Int} (hx : x ≤ limit) (hy : -limit ≤ y)
    (hwithin : -limit ≤ x ∨ y ≤ limit) : clampTo limit x ≤ clampTo limit y ↔ x ≤ y := by
  rcases hwithin with hwithin | hwithin
  · rw [clampTo_eq hwithin hx]
    exact ⟨fun hle => Int.le_trans hle (clampTo_le_of_le (Int.le_refl y) hy),
      fun hle => le_clampTo_of_le hle hx⟩
  · rw [clampTo_eq hy hwithin]
    exact ⟨fun hle => Int.le_trans (le_clampTo_of_le (Int.le_refl x) hx) hle,
      fun hle => clampTo_le_of_le hle hy⟩

/-- The whole part of what a step keeps. -/
theorem ptpWiredPiStep_whole (hlow : -ptpWiredIntegralLimit ≤ integralQ16)
    (hhigh : integralQ16 ≤ ptpWiredIntegralLimit) (offsetNs intervalNs : Int) :
    -ptpWiredTrimLimit ≤ (ptpWiredPiStep integralQ16 offsetNs intervalNs).1.tdiv 65536 ∧
      (ptpWiredPiStep integralQ16 offsetNs intervalNs).1.tdiv 65536 ≤ ptpWiredTrimLimit := by
  obtain ⟨hkeptLow, hkeptHigh⟩ := ptpWiredPiStep_within hlow hhigh offsetNs intervalNs
  exact integral_whole hkeptLow hkeptHigh

/-- An offset off zero whose integral follows asks for no more than the limit. -/
theorem ptpWiredPiStep_free (hfree : ¬ PtpWiredHeld integralQ16 offsetNs intervalNs) :
    (0 < offsetNs → (ptpWiredStepGains offsetNs intervalNs).1 +
        (ptpWiredPiStep integralQ16 offsetNs intervalNs).1.tdiv 65536 ≤ ptpWiredTrimLimit) ∧
      (offsetNs < 0 → -ptpWiredTrimLimit ≤ (ptpWiredStepGains offsetNs intervalNs).1 +
        (ptpWiredPiStep integralQ16 offsetNs intervalNs).1.tdiv 65536) := by
  rw [ptpWiredPiStep_followed hfree]
  change (0 < offsetNs → ptpWiredUnsaturated integralQ16 offsetNs intervalNs ≤ _) ∧
    (offsetNs < 0 → _ ≤ ptpWiredUnsaturated integralQ16 offsetNs intervalNs)
  unfold PtpWiredHeld at hfree
  omega

/-- Held apart, the lower offset keeps no less of the integral. -/
theorem PtpWiredHeldApart.heldBack (hlow : -ptpWiredIntegralLimit ≤ integralQ16)
    (hhigh : integralQ16 ≤ ptpWiredIntegralLimit) (hle : lowerNs ≤ higherNs)
    (hapart : PtpWiredHeldApart integralQ16 intervalNs lowerNs higherNs) :
    (ptpWiredPiStep integralQ16 higherNs intervalNs).1.tdiv 65536 ≤
      (ptpWiredPiStep integralQ16 lowerNs intervalNs).1.tdiv 65536 := by
  refine Int.tdiv_le_tdiv (by decide) ?_
  rcases hapart.cases hle with ⟨hahead, hfree, hheld⟩ | ⟨hbehind, hheld, hfree⟩
  · rw [hheld.integral, ptpWiredPiStep_followed hfree]
    exact (ptpWiredCandidate_side hlow hhigh lowerNs intervalNs).1 (Int.le_of_lt hahead)
  · rw [hheld.integral, ptpWiredPiStep_followed hfree]
    exact (ptpWiredCandidate_side hlow hhigh higherNs intervalNs).2 (Int.le_of_lt hbehind)

/-- Two offsets held apart are in order exactly as long as what is asked at once makes up for
    what the integral is held back by, and are out of order by no more than that. -/
theorem PtpWiredHeldApart.order (hlow : -ptpWiredIntegralLimit ≤ integralQ16)
    (hhigh : integralQ16 ≤ ptpWiredIntegralLimit) (hle : lowerNs ≤ higherNs)
    (hapart : PtpWiredHeldApart integralQ16 intervalNs lowerNs higherNs) :
    ((ptpWiredPiStep integralQ16 lowerNs intervalNs).2 ≤
          (ptpWiredPiStep integralQ16 higherNs intervalNs).2 ↔
        (ptpWiredPiStep integralQ16 lowerNs intervalNs).1.tdiv 65536 -
            (ptpWiredPiStep integralQ16 higherNs intervalNs).1.tdiv 65536 ≤
          (ptpWiredStepGains higherNs intervalNs).1 - (ptpWiredStepGains lowerNs intervalNs).1) ∧
      (ptpWiredPiStep integralQ16 lowerNs intervalNs).2 ≤
        (ptpWiredPiStep integralQ16 higherNs intervalNs).2 +
          ((ptpWiredPiStep integralQ16 lowerNs intervalNs).1.tdiv 65536 -
            (ptpWiredPiStep integralQ16 higherNs intervalNs).1.tdiv 65536) := by
  have hlowerWhole := ptpWiredPiStep_whole hlow hhigh lowerNs intervalNs
  have hhigherWhole := ptpWiredPiStep_whole hlow hhigh higherNs intervalNs
  have hlowerSide := ptpWiredStepGains_side lowerNs intervalNs
  have hhigherSide := ptpWiredStepGains_side higherNs intervalNs
  have hgains := (ptpWiredStepGains_mono hle intervalNs).1
  have hback := hapart.heldBack hlow hhigh hle
  rw [ptpWiredPiStep_trim, ptpWiredPiStep_trim]
  constructor
  · rcases hapart.cases hle with ⟨hahead, hfree, -⟩ | ⟨hbehind, -, hfree⟩
    · have hasked := (ptpWiredPiStep_free hfree).1 hahead
      have hlowerGain := hlowerSide.1 (by omega)
      have hhigherGain := hhigherSide.1 (by omega)
      rw [clampTo_le_iff hasked (by omega) (.inl (by omega))]
      omega
    · have hasked := (ptpWiredPiStep_free hfree).2 hbehind
      have hlowerGain := hlowerSide.2 (by omega)
      have hhigherGain := hhigherSide.2 (by omega)
      rw [clampTo_le_iff (by omega) hasked (.inr (by omega))]
      omega
  · exact clampTo_le_add (by decide) (by omega) (by omega)

end Trims

/-- **A larger error gets no smaller a trim, but for the anti-windup.** -/
theorem wiredPi_ordered (integralQ16 intervalNs : Int) (hlow : -(512000 * 65536) ≤ integralQ16)
    (hhigh : integralQ16 ≤ 512000 * 65536) (lowerNs higherNs : Int) (hle : lowerNs ≤ higherNs) :
    (¬ PtpWiredHeldApart integralQ16 intervalNs lowerNs higherNs →
        (ptpWiredPiStep integralQ16 lowerNs intervalNs).2 ≤
          (ptpWiredPiStep integralQ16 higherNs intervalNs).2) ∧
      (PtpWiredHeldApart integralQ16 intervalNs lowerNs higherNs →
        ((ptpWiredPiStep integralQ16 lowerNs intervalNs).2 ≤
              (ptpWiredPiStep integralQ16 higherNs intervalNs).2 ↔
            (ptpWiredPiStep integralQ16 lowerNs intervalNs).1.tdiv 65536 -
                (ptpWiredPiStep integralQ16 higherNs intervalNs).1.tdiv 65536 ≤
              (ptpWiredStepGains higherNs intervalNs).1 -
                (ptpWiredStepGains lowerNs intervalNs).1) ∧
          (ptpWiredPiStep integralQ16 lowerNs intervalNs).2 ≤
            (ptpWiredPiStep integralQ16 higherNs intervalNs).2 +
              ((ptpWiredPiStep integralQ16 lowerNs intervalNs).1.tdiv 65536 -
                (ptpWiredPiStep integralQ16 higherNs intervalNs).1.tdiv 65536)) := by
  refine ⟨fun htogether => ?_, fun hapart => hapart.order hlow hhigh hle⟩
  have hgains := (ptpWiredStepGains_mono hle intervalNs).1
  have hwhole : (ptpWiredPiStep integralQ16 lowerNs intervalNs).1.tdiv 65536 ≤
      (ptpWiredPiStep integralQ16 higherNs intervalNs).1.tdiv 65536 :=
    Int.tdiv_le_tdiv (by decide) (ptpWiredPiStep_kept_mono hlow hhigh hle htogether)
  rw [ptpWiredPiStep_trim, ptpWiredPiStep_trim]
  exact clampTo_mono (by decide) (Int.add_le_add hgains hwhole)

/-- A nanosecond more, and the trim falls from the limit to four fifths of it. -/
theorem wiredPi_unordered :
    ¬ ∀ integralQ16 intervalNs lowerNs higherNs : Int, -(512000 * 65536) ≤ integralQ16 →
      integralQ16 ≤ 512000 * 65536 → lowerNs ≤ higherNs →
      (ptpWiredPiStep integralQ16 lowerNs intervalNs).2 ≤
        (ptpWiredPiStep integralQ16 higherNs intervalNs).2 := by
  intro hordered
  have hle := hordered 0 250000000 102400 102401 (by decide) (by decide) (by decide)
  have hlower : ptpWiredPiStep 0 102400 250000000 = (6710886400, 512000) := by decide
  have hhigher : ptpWiredPiStep 0 102401 250000000 = (0, 409604) := by decide
  rw [hlower, hhigher] at hle
  exact absurd hle (by decide)

/-- The same two offsets, held apart and out of order by no more than the integral held back;
    and two that are both within the limit. -/
theorem wiredPi_ordered_close :
    (ptpWiredPiStep 0 102400 250000000).2 ≤ (ptpWiredPiStep 0 102401 250000000).2 + 102400 ∧
      (ptpWiredPiStep 0 102399 250000000).2 ≤ (ptpWiredPiStep 0 102400 250000000).2 :=
  ⟨((wiredPi_ordered 0 250000000 (by decide) (by decide) 102400 102401 (by decide)).2
      (by decide)).2,
    (wiredPi_ordered 0 250000000 (by decide) (by decide) 102399 102400 (by decide)).1 (by decide)⟩

end EspPtp
