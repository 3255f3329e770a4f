import EspPtp.Clock.WiredPi
import EspPtp.Config
import EspPtp.Lib.TruncDiv

/-!
# The affine clock (`ptp_clock_affine.h`)

A time is kept as an anchor, what the clock read there, and a rate relative to the local
time in parts per billion. An `int64_t` is an integer here, as long as it does not overflow;
its divisions are C's, toward zero.
-/

namespace EspPtp

open Lib

/-- `ptp_clock_affine_t`. -/
structure PtpClockAffine where
  localNs : Int
  ptpNs : Int
  ratePpb : Int
  deriving DecidableEq, Inhabited

/-- `ptp_clock_rate_correction`. -/
def ptpClockRateCorrection (deltaNs ratePpb : Int) : Int :=
  deltaNs.tdiv 1000000000 * ratePpb + (deltaNs.tmod 1000000000 * ratePpb).tdiv 1000000000

/-- `ptp_clock_affine_now`. -/
def ptpClockAffineNow (clock : PtpClockAffine) (localNs : Int) : Int :=
  let delta := localNs - clock.localNs
  clock.ptpNs + delta + ptpClockRateCorrection delta clock.ratePpb

/-- `ptp_clock_affine_reanchor`. -/
def ptpClockAffineReanchor (clock : PtpClockAffine) (localNs offsetNs : Int) : PtpClockAffine :=
  { clock with ptpNs := ptpClockAffineNow clock localNs + offsetNs, localNs := localNs }

/-- `ptp_clock_affine_adjust_rate`. -/
def ptpClockAffineAdjustRate (clock : PtpClockAffine) (localNs adjustment : Int) :
    PtpClockAffine :=
  let clock := ptpClockAffineReanchor clock localNs 0
  let rate := clock.ratePpb
  let rate := rate + ((rate * adjustment).tdiv 1000000000 + adjustment)
  { clock with ratePpb := clampTo 100000000 rate }

/-- `ptp_clock_affine_discipline`. The answer is the phase error. -/
def ptpClockAffineDiscipline (clock : PtpClockAffine)
    (nowNs localAnchor referenceAnchor ratePpb : Int) (step : Bool) : PtpClockAffine × Int :=
  let elapsed := nowNs - localAnchor
  let target := referenceAnchor + elapsed + ptpClockRateCorrection elapsed ratePpb
  let actual := ptpClockAffineNow clock nowNs
  let phaseError := target - actual
  let phaseTrim := clampTo 200000 phaseError
  let applied := if step then ratePpb else ratePpb + phaseTrim
  let applied := clampTo 512000 applied
  ({ localNs := nowNs, ptpNs := if step then target else actual, ratePpb := applied },
    phaseError)

/-! ## Readings -/

section Readings

variable {limit x : Int} {clock : PtpClockAffine} {localNs laterNs : Int}

theorem clampTo_le (hlimit : 0 ≤ limit) (x : Int) : clampTo limit x ≤ limit := by
  unfold clampTo
  split
  · exact Int.le_refl limit
  · split <;> omega

theorem neg_le_clampTo (hlimit : 0 ≤ limit) (x : Int) : -limit ≤ clampTo limit x := by
  unfold clampTo
  split
  · omega
  · split <;> omega

/-- A bound that is not below the lower limit still holds after clamping. -/
theorem clampTo_le_of_le {bound : Int} (hx : x ≤ bound) (hbound : -limit ≤ bound) :
    clampTo limit x ≤ bound := by
  unfold clampTo
  split
  · omega
  · split <;> omega

theorem le_clampTo_of_le {bound : Int} (hx : bound ≤ x) (hbound : bound ≤ limit) :
    bound ≤ clampTo limit x := by
  unfold clampTo
  split
  · exact hbound
  · split <;> omega

/-- Both sides are clamped alike. -/
theorem clampTo_symm (hlimit : 0 ≤ limit) (x : Int) : clampTo limit (-x) = -clampTo limit x := by
  unfold clampTo
  split
  · split <;> omega
  · split <;> split <;> omega

/-- Inside the limit nothing is clamped. -/
theorem clampTo_eq (hlow : -limit ≤ x) (hhigh : x ≤ limit) : clampTo limit x = x := by
  unfold clampTo
  rw [if_neg (Int.not_lt.mpr hhigh), if_neg (Int.not_lt.mpr hlow)]

/-- The correction is the product in parts per billion. -/
theorem ptpClockRateCorrection_eq (deltaNs ratePpb : Int) :
    ptpClockRateCorrection deltaNs ratePpb = (deltaNs * ratePpb).tdiv 1000000000 :=
  tdiv_mul_split (by decide) deltaNs ratePpb

@[simp] theorem ptpClockRateCorrection_zero (ratePpb : Int) :
    ptpClockRateCorrection 0 ratePpb = 0 := by
  simp [ptpClockRateCorrection]

/-- At the anchor the clock reads what it was anchored at. -/
@[simp] theorem ptpClockAffineNow_anchor (localNs ptpNs ratePpb : Int) :
    ptpClockAffineNow ⟨localNs, ptpNs, ratePpb⟩ localNs = ptpNs := by
  simp [ptpClockAffineNow]

/-- **A clock runs forward**, on either side of its anchor. -/
theorem ptpClockAffineNow_mono (hrate : -1000000000 ≤ clock.ratePpb)
    (hlater : localNs ≤ laterNs) :
    ptpClockAffineNow clock localNs ≤ ptpClockAffineNow clock laterNs := by
  have hmono := add_mul_tdiv_mono (m := 1000000000) (by decide) hrate
    (a := localNs - clock.localNs) (b := laterNs - clock.localNs) (by omega)
  simp only [ptpClockAffineNow, ptpClockRateCorrection_eq]
  omega

@[simp] theorem ptpClockAffineReanchor_now (clock : PtpClockAffine) (localNs offsetNs : Int) :
    ptpClockAffineNow (ptpClockAffineReanchor clock localNs offsetNs) localNs =
      ptpClockAffineNow clock localNs + offsetNs :=
  ptpClockAffineNow_anchor ..

@[simp] theorem ptpClockAffineAdjustRate_now (clock : PtpClockAffine)
    (localNs adjustment : Int) :
    ptpClockAffineNow (ptpClockAffineAdjustRate clock localNs adjustment) localNs =
      ptpClockAffineNow clock localNs := by
  simp [ptpClockAffineAdjustRate, ptpClockAffineReanchor]

/-- The rate `ptp_clock_affine_adjust_rate` leaves, whatever the adjustment. -/
theorem ptpClockAffineAdjustRate_rate (clock : PtpClockAffine) (localNs adjustment : Int) :
    -100000000 ≤ (ptpClockAffineAdjustRate clock localNs adjustment).ratePpb ∧
      (ptpClockAffineAdjustRate clock localNs adjustment).ratePpb ≤ 100000000 :=
  ⟨neg_le_clampTo (by decide) _, clampTo_le (by decide) _⟩

/-- The error is that of the reading to the reference. -/
theorem ptpClockAffineDiscipline_error (clock : PtpClockAffine)
    (nowNs localAnchor referenceAnchor ratePpb : Int) (step : Bool) :
    (ptpClockAffineDiscipline clock nowNs localAnchor referenceAnchor ratePpb step).2 =
      referenceAnchor + (nowNs - localAnchor) +
        ((nowNs - localAnchor) * ratePpb).tdiv 1000000000 - ptpClockAffineNow clock nowNs := by
  rw [← ptpClockRateCorrection_eq]
  rfl

/-- Without a step the clock goes on from its reading, at a rate with the error in it. -/
theorem ptpClockAffineDiscipline_steered (clock : PtpClockAffine)
    (nowNs localAnchor referenceAnchor ratePpb : Int) :
    (ptpClockAffineDiscipline clock nowNs localAnchor referenceAnchor ratePpb false).1 =
      ⟨nowNs, ptpClockAffineNow clock nowNs, clampTo 512000 (ratePpb + clampTo 200000
        (ptpClockAffineDiscipline clock nowNs localAnchor referenceAnchor ratePpb false).2)⟩ :=
  rfl

/-- Without a step the reading stays; with one it becomes the reference. -/
@[simp] theorem ptpClockAffineDiscipline_now (clock : PtpClockAffine)
    (nowNs localAnchor referenceAnchor ratePpb : Int) (step : Bool) :
    ptpClockAffineNow
        (ptpClockAffineDiscipline clock nowNs localAnchor referenceAnchor ratePpb step).1 nowNs =
      if step then
        referenceAnchor + (nowNs - localAnchor) +
          ptpClockRateCorrection (nowNs - localAnchor) ratePpb
      else ptpClockAffineNow clock nowNs := by
  simp [ptpClockAffineDiscipline]

end Readings

end EspPtp
