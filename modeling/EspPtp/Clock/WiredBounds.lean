import EspPtp.Clock.Affine
import EspPtp.Lib.Checked

/-!
# The bounds of the wired controller

`ptp_wired_pi_step` once more with every product and sum checked, and the two parts of a step
by themselves: what an observation asks for at once, and what it adds to the integral. Both
have the sign of the offset, and an offset of four nanoseconds asks for something in either
of the two gain regimes.
-/

namespace EspPtp

open Lib

/-- The bound of the integral, in units of `2⁻¹⁶`. -/
abbrev ptpWiredIntegralLimit : Int := ptpWiredTrimLimit * 65536

/-- The interval a step goes by. -/
def ptpWiredInterval (intervalNs : Int) : Int :=
  let intervalNs := if intervalNs < 1000000 then 1000000 else intervalNs
  if intervalNs > 4000000000 then 4000000000 else intervalNs

/-- What an offset asks for at once, and what it adds to the integral. -/
def ptpWiredGains (offsetNs intervalNs : Int) : Int × Int :=
  let short := decide (intervalNs ≤ 250000000)
  let numerator := if short then offsetNs * intervalNs else offsetNs * 250000000
  let denominator := if short then 250000000 else intervalNs
  (if short then offsetNs * 4 else (offsetNs * 1000000000).tdiv intervalNs,
    numerator.tdiv denominator * 65536 + (numerator.tmod denominator * 65536).tdiv denominator)

/-- The gains of an observation as it comes. -/
def ptpWiredStepGains (offsetNs intervalNs : Int) : Int × Int :=
  ptpWiredGains (clampTo 1000000000 offsetNs) (ptpWiredInterval intervalNs)

/-- The integral an observation asks for. -/
def ptpWiredCandidate (integralQ16 offsetNs intervalNs : Int) : Int :=
  clampTo ptpWiredIntegralLimit (integralQ16 + (ptpWiredStepGains offsetNs intervalNs).2)

/-- The trim it asks for, before the limit. -/
def ptpWiredUnsaturated (integralQ16 offsetNs intervalNs : Int) : Int :=
  (ptpWiredStepGains offsetNs intervalNs).1 +
    (ptpWiredCandidate integralQ16 offsetNs intervalNs).tdiv 65536

/-- The products of a gain regime, checked: the proportional part, and the ratio that is
    integrated. -/
def ptpWiredRegimeChecked (offsetNs intervalNs : Int) : Option (Int × Int × Int) :=
  if intervalNs ≤ 250000000 then
    checked64 (offsetNs * 4) fun proportional =>
    checked64 (offsetNs * intervalNs) fun numerator =>
    some (proportional, numerator, 250000000)
  else
    checked64 (offsetNs * 1000000000) fun product =>
    checked64 (offsetNs * 250000000) fun numerator =>
    some (product.tdiv intervalNs, numerator, intervalNs)

/-- `ptp_wired_pi_step`, every sum and product checked. -/
def ptpWiredPiStepChecked (integralQ16 offsetNs intervalNs : Int) : Option (Int × Int) :=
  let intervalNs := if intervalNs < 1000000 then 1000000 else intervalNs
  let intervalNs := if intervalNs > 4000000000 then 4000000000 else intervalNs
  let offsetNs := clampTo 1000000000 offsetNs
  (ptpWiredRegimeChecked offsetNs intervalNs).bind fun (proportional, numerator, denominator) =>
  checked64 (numerator.tdiv denominator * 65536) fun whole =>
  checked64 (numerator.tmod denominator * 65536) fun rest =>
  checked64 (whole + rest.tdiv denominator) fun increment =>
  checked64 (integralQ16 + increment) fun candidate =>
  let candidate := clampTo (ptpWiredTrimLimit * 65536) candidate
  checked64 (proportional + candidate.tdiv 65536) fun target =>
  let integralQ16 :=
    if (target > ptpWiredTrimLimit ∧ offsetNs > 0) ∨
        (target < -ptpWiredTrimLimit ∧ offsetNs < 0) then integralQ16
    else candidate
  checked64 (proportional + integralQ16.tdiv 65536) fun target =>
  some (integralQ16, clampTo ptpWiredTrimLimit target)

/-! ## The gains -/

section Gains

variable {offsetNs intervalNs : Int}

theorem ptpWiredInterval_bounds (intervalNs : Int) :
    1000000 ≤ ptpWiredInterval intervalNs ∧ ptpWiredInterval intervalNs ≤ 4000000000 := by
  unfold ptpWiredInterval
  dsimp only
  split
  · split <;> omega
  · split <;> omega

/-- Clamping keeps the sign. -/
theorem clampTo_pos {limit x : Int} (hlimit : 0 < limit) : 0 < clampTo limit x ↔ 0 < x := by
  constructor
  · intro hpositive
    by_contra hnot
    have hle := @clampTo_le_of_le limit x 0 (Int.not_lt.mp hnot) (by omega)
    exact absurd hpositive (Int.not_lt.mpr hle)
  · intro hpositive
    exact le_clampTo_of_le (Int.add_one_le_of_lt hpositive) hlimit

theorem clampTo_neg {limit x : Int} (hlimit : 0 < limit) : clampTo limit x < 0 ↔ x < 0 := by
  rw [← Int.neg_pos, ← clampTo_symm (Int.le_of_lt hlimit), clampTo_pos hlimit, Int.neg_pos]

/-- The divided offset of the long regime. -/
theorem longProportional_bounds (hlow : -1000000000 ≤ offsetNs) (hhigh : offsetNs ≤ 1000000000)
    (hlong : 250000000 < intervalNs) (hinterval : intervalNs ≤ 4000000000) :
    (0 ≤ offsetNs → 0 ≤ (offsetNs * 1000000000).tdiv intervalNs ∧
        (offsetNs * 1000000000).tdiv intervalNs ≤ 4000000000 ∧
        (4 ≤ offsetNs → 1 ≤ (offsetNs * 1000000000).tdiv intervalNs)) ∧
      (offsetNs ≤ 0 → (offsetNs * 1000000000).tdiv intervalNs ≤ 0 ∧
        -4000000000 ≤ (offsetNs * 1000000000).tdiv intervalNs ∧
        (offsetNs ≤ -4 → (offsetNs * 1000000000).tdiv intervalNs ≤ -1)) := by
  have hpositive : 0 < intervalNs := by omega
  constructor
  · intro hoffset
    obtain ⟨hnonneg, hle, hlt⟩ :=
      tdiv_bounds_nonneg (x := offsetNs * 1000000000) hpositive (by omega)
    exact ⟨hnonneg, by nlinarith, fun hfour => by nlinarith⟩
  · intro hoffset
    obtain ⟨hnonpos, hle, hlt⟩ :=
      tdiv_bounds_nonpos (x := offsetNs * 1000000000) hpositive (by omega)
    exact ⟨hnonpos, by nlinarith, fun hfour => by nlinarith⟩

/-- A ratio in units of `2⁻¹⁶`, divided in two parts: the parts fit, and so does the whole. -/
theorem q16_bounds {numerator denominator : Int} (hpositive : 0 < denominator)
    (hbound : denominator ≤ 4000000000) (hlow : -(1000000000 * denominator) ≤ numerator)
    (hhigh : numerator ≤ 1000000000 * denominator) :
    Fits64 (numerator.tdiv denominator * 65536) ∧
      Fits64 (numerator.tmod denominator * 65536) ∧
      -65536000000000 ≤ numerator.tdiv denominator * 65536 +
        (numerator.tmod denominator * 65536).tdiv denominator ∧
      numerator.tdiv denominator * 65536 +
        (numerator.tmod denominator * 65536).tdiv denominator ≤ 65536000000000 ∧
      (0 ≤ numerator → 0 ≤ numerator.tdiv denominator * 65536 +
        (numerator.tmod denominator * 65536).tdiv denominator) ∧
      (numerator ≤ 0 → numerator.tdiv denominator * 65536 +
        (numerator.tmod denominator * 65536).tdiv denominator ≤ 0) := by
  have hparts := Int.mul_tdiv_add_tmod numerator denominator
  rw [tdiv_mul_split hpositive]
  unfold Fits64
  rcases Int.le_total 0 numerator with hnonneg | hnonpos
  · obtain ⟨hquotient, hle, hlt⟩ := tdiv_bounds_nonneg hpositive hnonneg
    obtain ⟨hwhole, hwholeLe, -⟩ :=
      @tdiv_bounds_nonneg denominator (numerator * 65536) hpositive (by omega)
    have hsmall : numerator.tdiv denominator ≤ 1000000000 := by nlinarith
    have hratio : (numerator * 65536).tdiv denominator ≤ 65536000000000 := by nlinarith
    refine ⟨by omega, by omega, by omega, hratio, fun _ => hwhole, fun hzero => ?_⟩
    have hnone : numerator = 0 := by omega
    simp [hnone]
  · obtain ⟨hquotient, hle, hlt⟩ := tdiv_bounds_nonpos hpositive hnonpos
    obtain ⟨hwhole, hwholeLe, -⟩ :=
      @tdiv_bounds_nonpos denominator (numerator * 65536) hpositive (by omega)
    have hsmall : -1000000000 ≤ numerator.tdiv denominator := by nlinarith
    have hratio : -65536000000000 ≤ (numerator * 65536).tdiv denominator := by nlinarith
    refine ⟨by omega, by omega, hratio, by omega, fun hzero => ?_, fun _ => hwhole⟩
    have hnone : numerator = 0 := by omega
    simp [hnone]

/-- The products of a regime fit, and make up its gains. -/
theorem ptpWiredRegimeChecked_eq (hlow : -1000000000 ≤ offsetNs) (hhigh : offsetNs ≤ 1000000000)
    (hshortest : 1000000 ≤ intervalNs) (hlongest : intervalNs ≤ 4000000000) :
    ∃ numerator denominator, 0 < denominator ∧ denominator ≤ 4000000000 ∧
      -(1000000000 * denominator) ≤ numerator ∧ numerator ≤ 1000000000 * denominator ∧
      ptpWiredRegimeChecked offsetNs intervalNs =
        some ((ptpWiredGains offsetNs intervalNs).1, numerator, denominator) ∧
      (ptpWiredGains offsetNs intervalNs).2 = numerator.tdiv denominator * 65536 +
        (numerator.tmod denominator * 65536).tdiv denominator := by
  by_cases hshort : intervalNs ≤ 250000000
  · have hnumeratorLow : -(1000000000 * 250000000) ≤ offsetNs * intervalNs := by nlinarith
    have hnumeratorHigh : offsetNs * intervalNs ≤ 1000000000 * 250000000 := by nlinarith
    have hproportional : Fits64 (offsetNs * 4) := by
      unfold Fits64
      omega
    have hnumerator : Fits64 (offsetNs * intervalNs) := by
      unfold Fits64
      omega
    refine ⟨offsetNs * intervalNs, 250000000, by decide, by decide, hnumeratorLow, hnumeratorHigh,
      ?_, ?_⟩
    · rw [ptpWiredRegimeChecked, if_pos hshort, checked64_of hproportional, checked64_of hnumerator]
      simp [ptpWiredGains, hshort]
    · simp [ptpWiredGains, hshort]
  · have hproduct : Fits64 (offsetNs * 1000000000) := by
      unfold Fits64
      omega
    have hnumerator : Fits64 (offsetNs * 250000000) := by
      unfold Fits64
      omega
    refine ⟨offsetNs * 250000000, intervalNs, by omega, hlongest, by omega, by omega, ?_, ?_⟩
    · rw [ptpWiredRegimeChecked, if_neg hshort, checked64_of hproduct, checked64_of hnumerator]
      simp [ptpWiredGains, hshort]
    · simp [ptpWiredGains, hshort]

/-- What a clamped observation asks for, at most and at least. -/
structure WiredGains (offsetNs : Int) (gains : Int × Int) : Prop where
  proportionalLow : -4000000000 ≤ gains.1
  proportionalHigh : gains.1 ≤ 4000000000
  incrementLow : -65536000000000 ≤ gains.2
  incrementHigh : gains.2 ≤ 65536000000000
  ahead : 0 ≤ offsetNs → 0 ≤ gains.1 ∧ 0 ≤ gains.2
  behind : offsetNs ≤ 0 → gains.1 ≤ 0 ∧ gains.2 ≤ 0
  aheadFour : 4 ≤ offsetNs → 1 ≤ gains.1
  behindFour : offsetNs ≤ -4 → gains.1 ≤ -1

theorem ptpWiredGains_bounds (hlow : -1000000000 ≤ offsetNs) (hhigh : offsetNs ≤ 1000000000)
    (hshortest : 1000000 ≤ intervalNs) (hlongest : intervalNs ≤ 4000000000) :
    WiredGains offsetNs (ptpWiredGains offsetNs intervalNs) := by
  by_cases hshort : intervalNs ≤ 250000000
  · have hnumeratorLow : -(1000000000 * 250000000) ≤ offsetNs * intervalNs := by nlinarith
    have hnumeratorHigh : offsetNs * intervalNs ≤ 1000000000 * 250000000 := by nlinarith
    obtain ⟨-, -, hincrementLow, hincrementHigh, hahead, hbehind⟩ :=
      q16_bounds (by decide) (by decide) hnumeratorLow hnumeratorHigh
    simp only [ptpWiredGains, hshort, decide_true, if_true]
    exact
      { proportionalLow := by omega
        proportionalHigh := by omega
        incrementLow := hincrementLow
        incrementHigh := hincrementHigh
        ahead := fun h => ⟨by omega, hahead (Int.mul_nonneg h (by omega))⟩
        behind := fun h =>
          ⟨by omega, hbehind (Int.mul_nonpos_of_nonpos_of_nonneg h (by omega))⟩
        aheadFour := fun h => by omega
        behindFour := fun h => by omega }
  · rw [Int.not_le] at hshort
    obtain ⟨hahead, hbehind⟩ := longProportional_bounds hlow hhigh hshort hlongest
    obtain ⟨-, -, hincrementLow, hincrementHigh, hincrementAhead, hincrementBehind⟩ :=
      @q16_bounds (offsetNs * 250000000) intervalNs (by omega) hlongest (by omega) (by omega)
    simp only [ptpWiredGains, Int.not_le.mpr hshort, decide_false, Bool.false_eq_true, if_false]
    have hproportional : -4000000000 ≤ (offsetNs * 1000000000).tdiv intervalNs ∧
        (offsetNs * 1000000000).tdiv intervalNs ≤ 4000000000 := by
      rcases Int.le_total 0 offsetNs with hoffset | hoffset
      · have hbounds := hahead hoffset
        omega
      · have hbounds := hbehind hoffset
        omega
    exact
      { proportionalLow := hproportional.1
        proportionalHigh := hproportional.2
        incrementLow := hincrementLow
        incrementHigh := hincrementHigh
        ahead := fun h => ⟨(hahead h).1, hincrementAhead (by omega)⟩
        behind := fun h => ⟨(hbehind h).1, hincrementBehind (by omega)⟩
        aheadFour := fun h => (hahead (by omega)).2.2 h
        behindFour := fun h => (hbehind (by omega)).2.2 h }

end Gains

/-! ## A step -/

section Step

variable {integralQ16 offsetNs intervalNs : Int}

/-- A step in terms of its gains. -/
theorem ptpWiredPiStep_eq (integralQ16 offsetNs intervalNs : Int) :
    ptpWiredPiStep integralQ16 offsetNs intervalNs =
      (let kept :=
        if (ptpWiredUnsaturated integralQ16 offsetNs intervalNs > ptpWiredTrimLimit ∧
              offsetNs > 0) ∨
            (ptpWiredUnsaturated integralQ16 offsetNs intervalNs < -ptpWiredTrimLimit ∧
              offsetNs < 0) then integralQ16
        else ptpWiredCandidate integralQ16 offsetNs intervalNs
      (kept, clampTo ptpWiredTrimLimit
        ((ptpWiredStepGains offsetNs intervalNs).1 + kept.tdiv 65536))) := by
  have hahead : clampTo 1000000000 offsetNs > 0 ↔ offsetNs > 0 := clampTo_pos (by decide)
  have hbehind : clampTo 1000000000 offsetNs < 0 ↔ offsetNs < 0 := clampTo_neg (by decide)
  simp only [← hahead, ← hbehind]
  rfl

theorem ptpWiredStepGains_bounds (offsetNs intervalNs : Int) :
    WiredGains (clampTo 1000000000 offsetNs) (ptpWiredStepGains offsetNs intervalNs) := by
  obtain ⟨hshortest, hlongest⟩ := ptpWiredInterval_bounds intervalNs
  exact ptpWiredGains_bounds (neg_le_clampTo (by decide) _) (clampTo_le (by decide) _) hshortest
    hlongest

/-- What the step keeps of the integral is the old one, or the candidate. -/
theorem ptpWiredPiStep_integral (integralQ16 offsetNs intervalNs : Int) :
    (ptpWiredPiStep integralQ16 offsetNs intervalNs).1 = integralQ16 ∨
      (ptpWiredPiStep integralQ16 offsetNs intervalNs).1 =
        ptpWiredCandidate integralQ16 offsetNs intervalNs := by
  rw [ptpWiredPiStep_eq]
  dsimp only
  split
  · exact .inl rfl
  · exact .inr rfl

theorem ptpWiredPiStep_trim (integralQ16 offsetNs intervalNs : Int) :
    (ptpWiredPiStep integralQ16 offsetNs intervalNs).2 =
      clampTo ptpWiredTrimLimit ((ptpWiredStepGains offsetNs intervalNs).1 +
        (ptpWiredPiStep integralQ16 offsetNs intervalNs).1.tdiv 65536) := by
  rw [ptpWiredPiStep_eq]

/-- The integral stays within its bound. -/
theorem ptpWiredPiStep_within (hlow : -ptpWiredIntegralLimit ≤ integralQ16)
    (hhigh : integralQ16 ≤ ptpWiredIntegralLimit) (offsetNs intervalNs : Int) :
    -ptpWiredIntegralLimit ≤ (ptpWiredPiStep integralQ16 offsetNs intervalNs).1 ∧
      (ptpWiredPiStep integralQ16 offsetNs intervalNs).1 ≤ ptpWiredIntegralLimit := by
  rcases ptpWiredPiStep_integral integralQ16 offsetNs intervalNs with hkept | hmoved
  · rw [hkept]
    exact ⟨hlow, hhigh⟩
  · rw [hmoved]
    exact ⟨neg_le_clampTo (by decide) _, clampTo_le (by decide) _⟩

/-- The whole part of an integral within its bound is within the limit. -/
theorem integral_whole {x : Int} (hlow : -ptpWiredIntegralLimit ≤ x)
    (hhigh : x ≤ ptpWiredIntegralLimit) :
    -ptpWiredTrimLimit ≤ x.tdiv 65536 ∧ x.tdiv 65536 ≤ ptpWiredTrimLimit := by
  unfold ptpWiredIntegralLimit ptpWiredTrimLimit at *
  rcases Int.le_total 0 x with hx | hx
  · have hbounds := @tdiv_bounds_nonneg 65536 x (by decide) hx
    omega
  · have hbounds := @tdiv_bounds_nonpos 65536 x (by decide) hx
    omega

/-- **No windup**: from any integral an offset the other way leaves the limit at once. -/
theorem ptpWiredPiStep_recovers (hlow : -ptpWiredIntegralLimit ≤ integralQ16)
    (hhigh : integralQ16 ≤ ptpWiredIntegralLimit) (offsetNs intervalNs : Int) :
    (offsetNs ≤ -4 →
        (ptpWiredPiStep integralQ16 offsetNs intervalNs).2 < ptpWiredTrimLimit) ∧
      (4 ≤ offsetNs →
        -ptpWiredTrimLimit < (ptpWiredPiStep integralQ16 offsetNs intervalNs).2) := by
  have hgains := ptpWiredStepGains_bounds offsetNs intervalNs
  obtain ⟨hkeptLow, hkeptHigh⟩ := ptpWiredPiStep_within hlow hhigh offsetNs intervalNs
  obtain ⟨hwholeLow, hwholeHigh⟩ := integral_whole hkeptLow hkeptHigh
  rw [ptpWiredPiStep_trim]
  constructor
  · intro hbehind
    have hasked := hgains.behindFour (clampTo_le_of_le hbehind (by decide))
    have hbelow : (ptpWiredStepGains offsetNs intervalNs).1 +
        (ptpWiredPiStep integralQ16 offsetNs intervalNs).1.tdiv 65536 ≤ ptpWiredTrimLimit - 1 := by
      omega
    exact Int.lt_of_le_sub_one (clampTo_le_of_le hbelow (by decide))
  · intro hahead
    have hasked := hgains.aheadFour (le_clampTo_of_le hahead (by decide))
    have habove : -ptpWiredTrimLimit + 1 ≤ (ptpWiredStepGains offsetNs intervalNs).1 +
        (ptpWiredPiStep integralQ16 offsetNs intervalNs).1.tdiv 65536 := by
      omega
    exact Int.lt_of_add_one_le (le_clampTo_of_le habove (by decide))

/-- **The fixed point**: an integral that gives a trim gives it again while nothing is off. -/
theorem ptpWiredPiStep_fixed {trimPpb : Int} (hlow : -ptpWiredTrimLimit ≤ trimPpb)
    (hhigh : trimPpb ≤ ptpWiredTrimLimit) (intervalNs : Int) :
    ptpWiredPiStep (trimPpb * 65536) 0 intervalNs = (trimPpb * 65536, trimPpb) := by
  have hgains : ptpWiredStepGains 0 intervalNs = (0, 0) := by
    simp [ptpWiredStepGains, ptpWiredGains, clampTo]
  have hcandidate : ptpWiredCandidate (trimPpb * 65536) 0 intervalNs = trimPpb * 65536 := by
    rw [ptpWiredCandidate, hgains, Int.add_zero]
    unfold ptpWiredIntegralLimit
    exact clampTo_eq (by omega) (by omega)
  have hwhole : (trimPpb * 65536).tdiv 65536 = trimPpb := Int.mul_tdiv_cancel trimPpb (by decide)
  rw [ptpWiredPiStep_eq]
  simp only [gt_iff_lt, Int.lt_irrefl, and_false, or_self, if_false, hcandidate, hgains, hwhole,
    Int.zero_add]
  rw [clampTo_eq hlow hhigh]

/-- No sum and no product of a step overflows. -/
theorem ptpWiredPiStepChecked_eq (hlow : -ptpWiredIntegralLimit ≤ integralQ16)
    (hhigh : integralQ16 ≤ ptpWiredIntegralLimit) (offsetNs intervalNs : Int) :
    ptpWiredPiStepChecked integralQ16 offsetNs intervalNs =
      some (ptpWiredPiStep integralQ16 offsetNs intervalNs) := by
  have hgains := ptpWiredStepGains_bounds offsetNs intervalNs
  obtain ⟨hshortest, hlongest⟩ := ptpWiredInterval_bounds intervalNs
  obtain ⟨numerator, denominator, hpositive, hbound, hnumeratorLow, hnumeratorHigh, hregime,
    hincrement⟩ := ptpWiredRegimeChecked_eq (neg_le_clampTo (by decide) offsetNs)
      (clampTo_le (by decide) offsetNs) hshortest hlongest
  obtain ⟨hwhole, hrest, -, -, -, -⟩ := q16_bounds hpositive hbound hnumeratorLow hnumeratorHigh
  obtain ⟨hproportionalLow, hproportionalHigh, hincrementLow, hincrementHigh, -, -, -, -⟩ := hgains
  have hsum : Fits64 (numerator.tdiv denominator * 65536 +
      (numerator.tmod denominator * 65536).tdiv denominator) := by
    rw [← hincrement]
    exact ⟨Int.le_trans (by decide) hincrementLow, Int.le_trans hincrementHigh (by decide)⟩
  -- Whatever the step keeps of the integral, the trim it asks for fits.
  have htarget : ∀ x, -ptpWiredIntegralLimit ≤ x → x ≤ ptpWiredIntegralLimit →
      Fits64 ((ptpWiredStepGains offsetNs intervalNs).1 + x.tdiv 65536) := by
    intro x hxLow hxHigh
    obtain ⟨hwholeLow, hwholeHigh⟩ := integral_whole hxLow hxHigh
    unfold Fits64 ptpWiredTrimLimit at *
    omega
  have hcandidate : Fits64 (integralQ16 + (ptpWiredStepGains offsetNs intervalNs).2) := by
    unfold Fits64 ptpWiredIntegralLimit ptpWiredTrimLimit at *
    omega
  have hkept := ptpWiredPiStep_within hlow hhigh offsetNs intervalNs
  have hasked := htarget _ (neg_le_clampTo (by decide) _) (clampTo_le (by decide)
    (integralQ16 + (ptpWiredStepGains offsetNs intervalNs).2))
  have hmoved := htarget _ hkept.1 hkept.2
  have hchecked : ptpWiredPiStepChecked integralQ16 offsetNs intervalNs = _ :=
    congrArg (Option.bind · _) hregime
  rw [hchecked, Option.bind_some]
  dsimp only
  rw [checked64_of hwhole, checked64_of hrest, checked64_of hsum, ← hincrement]
  change checked64 (integralQ16 + (ptpWiredStepGains offsetNs intervalNs).2) _ = _
  rw [checked64_of hcandidate]
  change checked64 ((ptpWiredStepGains offsetNs intervalNs).1 + _) _ = _
  rw [checked64_of hasked]
  change checked64 ((ptpWiredStepGains offsetNs intervalNs).1 +
    (ptpWiredPiStep integralQ16 offsetNs intervalNs).1.tdiv 65536) _ = _
  rw [checked64_of hmoved]
  rfl

end Step

/-- **The wired controller is bounded, free of overflow and does not wind up.** -/
theorem wiredPi_bounded (integralQ16 offsetNs intervalNs : Int)
    (hlow : -(512000 * 65536) ≤ integralQ16) (hhigh : integralQ16 ≤ 512000 * 65536) :
    ptpWiredPiStepChecked integralQ16 offsetNs intervalNs =
        some (ptpWiredPiStep integralQ16 offsetNs intervalNs) ∧
      (-(512000 * 65536) ≤ (ptpWiredPiStep integralQ16 offsetNs intervalNs).1 ∧
        (ptpWiredPiStep integralQ16 offsetNs intervalNs).1 ≤ 512000 * 65536) ∧
      (-512000 ≤ (ptpWiredPiStep integralQ16 offsetNs intervalNs).2 ∧
        (ptpWiredPiStep integralQ16 offsetNs intervalNs).2 ≤ 512000) ∧
      ((512000 < ptpWiredUnsaturated integralQ16 offsetNs intervalNs ∧ 0 < offsetNs ∨
          ptpWiredUnsaturated integralQ16 offsetNs intervalNs < -512000 ∧ offsetNs < 0) →
        (ptpWiredPiStep integralQ16 offsetNs intervalNs).1 = integralQ16) ∧
      (offsetNs ≤ -4 → (ptpWiredPiStep integralQ16 offsetNs intervalNs).2 < 512000) ∧
      (4 ≤ offsetNs → -512000 < (ptpWiredPiStep integralQ16 offsetNs intervalNs).2) := by
  refine ⟨ptpWiredPiStepChecked_eq hlow hhigh offsetNs intervalNs,
    ptpWiredPiStep_within hlow hhigh offsetNs intervalNs, ?_, ?_,
    ptpWiredPiStep_recovers hlow hhigh offsetNs intervalNs⟩
  · rw [ptpWiredPiStep_trim]
    exact ⟨neg_le_clampTo (by decide) _, clampTo_le (by decide) _⟩
  · intro hsaturated
    rw [ptpWiredPiStep_eq]
    exact if_pos hsaturated

/-- A full integral and an offset of four nanoseconds the other way, over four seconds. -/
theorem wiredPi_bounded_full : (ptpWiredPiStep (512000 * 65536) (-4) 4000000000).2 < 512000 :=
  (wiredPi_bounded (512000 * 65536) (-4) 4000000000 (by decide) (by decide)).2.2.2.2.1 (by decide)

end EspPtp
