import EspPtp.Clock.Affine
import EspPtp.Lib.Checked

/-!
# The split rate correction

`ptp_clock_rate_correction` multiplies the whole seconds and the rest of a duration apart, so
that a long holdover does not overflow. Once more with every product and sum checked: at the
rates `ptp_clock_affine_adjust_rate` allows nothing overflows, the two parts make up the
product divided once, and a corrected duration grows with the duration.
-/

namespace EspPtp

open Lib

/-- `ptp_clock_rate_correction`, every product and sum checked. -/
def ptpClockRateCorrectionChecked (deltaNs ratePpb : Int) : Option Int :=
  checked64 (deltaNs.tdiv 1000000000) fun seconds =>
  checked64 (seconds * ratePpb) fun whole =>
  checked64 (deltaNs.tmod 1000000000) fun rest =>
  checked64 (rest * ratePpb) fun product =>
  checked64 (product.tdiv 1000000000) fun part =>
  checked64 (whole + part) some

section Correction

variable {deltaNs ratePpb : Int}

/-- A duration of 64 bits in whole seconds and a rest. -/
theorem seconds_bounds (hdelta : Fits64 deltaNs) :
    -9223372037 ≤ deltaNs.tdiv 1000000000 ∧ deltaNs.tdiv 1000000000 ≤ 9223372037 ∧
      -1000000000 < deltaNs.tmod 1000000000 ∧ deltaNs.tmod 1000000000 < 1000000000 := by
  have hparts := Int.mul_tdiv_add_tmod deltaNs 1000000000
  obtain ⟨hlow, hhigh⟩ := hdelta
  rcases Int.le_total 0 deltaNs with hnonneg | hnonpos
  · have hbounds := @tdiv_bounds_nonneg 1000000000 deltaNs (by decide) hnonneg
    omega
  · have hbounds := @tdiv_bounds_nonpos 1000000000 deltaNs (by decide) hnonpos
    omega

/-- A part of a second, corrected. -/
theorem part_bounds {product : Int} (hlow : -100000000000000000 ≤ product)
    (hhigh : product ≤ 100000000000000000) :
    -100000000 ≤ product.tdiv 1000000000 ∧ product.tdiv 1000000000 ≤ 100000000 := by
  rcases Int.le_total 0 product with hnonneg | hnonpos
  · have hbounds := @tdiv_bounds_nonneg 1000000000 product (by decide) hnonneg
    omega
  · have hbounds := @tdiv_bounds_nonpos 1000000000 product (by decide) hnonpos
    omega

/-- No product and no sum of a correction overflows. -/
theorem ptpClockRateCorrectionChecked_eq (hdelta : Fits64 deltaNs)
    (hlow : -100000000 ≤ ratePpb) (hhigh : ratePpb ≤ 100000000) :
    ptpClockRateCorrectionChecked deltaNs ratePpb =
      some (ptpClockRateCorrection deltaNs ratePpb) := by
  obtain ⟨hsecondsLow, hsecondsHigh, hrestLow, hrestHigh⟩ := seconds_bounds hdelta
  have hwhole : -922337203700000000 ≤ deltaNs.tdiv 1000000000 * ratePpb ∧
      deltaNs.tdiv 1000000000 * ratePpb ≤ 922337203700000000 := by
    constructor <;> nlinarith
  have hproduct : -100000000000000000 ≤ deltaNs.tmod 1000000000 * ratePpb ∧
      deltaNs.tmod 1000000000 * ratePpb ≤ 100000000000000000 := by
    constructor <;> nlinarith
  have hpart := part_bounds hproduct.1 hproduct.2
  have hfits : Fits64 (deltaNs.tdiv 1000000000) ∧ Fits64 (deltaNs.tdiv 1000000000 * ratePpb) ∧
      Fits64 (deltaNs.tmod 1000000000) ∧ Fits64 (deltaNs.tmod 1000000000 * ratePpb) ∧
      Fits64 ((deltaNs.tmod 1000000000 * ratePpb).tdiv 1000000000) ∧
      Fits64 (deltaNs.tdiv 1000000000 * ratePpb +
        (deltaNs.tmod 1000000000 * ratePpb).tdiv 1000000000) := by
    unfold Fits64
    omega
  obtain ⟨hseconds, hwhole, hrest, hproduct, hpart, hsum⟩ := hfits
  unfold ptpClockRateCorrectionChecked
  rw [checked64_of hseconds, checked64_of hwhole, checked64_of hrest, checked64_of hproduct,
    checked64_of hpart, checked64_of hsum]
  rfl

/-- A corrected duration grows with the duration. -/
theorem add_ptpClockRateCorrection_mono (hrate : -1000000000 ≤ ratePpb) {shorterNs longerNs : Int}
    (hlonger : shorterNs ≤ longerNs) :
    shorterNs + ptpClockRateCorrection shorterNs ratePpb ≤
      longerNs + ptpClockRateCorrection longerNs ratePpb := by
  simp only [ptpClockRateCorrection_eq]
  exact add_mul_tdiv_mono (by decide) hrate hlonger

end Correction

/-- **The split correction is exact**: within a tenth of the rate it fits, it is the whole
    product divided once toward zero, and no longer duration is corrected to a shorter one. -/
theorem rateCorrection_exact (ratePpb : Int) (hlow : -100000000 ≤ ratePpb)
    (hhigh : ratePpb ≤ 100000000) :
    (∀ deltaNs, Fits64 deltaNs →
        ptpClockRateCorrectionChecked deltaNs ratePpb =
            some (ptpClockRateCorrection deltaNs ratePpb) ∧
          ptpClockRateCorrection deltaNs ratePpb = (deltaNs * ratePpb).tdiv 1000000000) ∧
      ∀ shorterNs longerNs, shorterNs ≤ longerNs →
        shorterNs + ptpClockRateCorrection shorterNs ratePpb ≤
          longerNs + ptpClockRateCorrection longerNs ratePpb := by
  refine ⟨fun deltaNs hdelta => ⟨ptpClockRateCorrectionChecked_eq hdelta hlow hhigh,
    ptpClockRateCorrection_eq deltaNs ratePpb⟩, fun shorterNs longerNs hlonger => ?_⟩
  exact add_ptpClockRateCorrection_mono (by omega) hlonger

/-- The longest duration back, at the slowest rate. -/
theorem rateCorrection_exact_longest :
    ptpClockRateCorrectionChecked (-9223372036854775808) (-100000000) =
        some (ptpClockRateCorrection (-9223372036854775808) (-100000000)) ∧
      ptpClockRateCorrection (-9223372036854775808) (-100000000) =
        (-9223372036854775808 * -100000000 : Int).tdiv 1000000000 :=
  (rateCorrection_exact (-100000000) (by decide) (by decide)).1 (-9223372036854775808) (by decide)

end EspPtp
