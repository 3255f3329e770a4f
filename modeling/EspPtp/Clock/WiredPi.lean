import Mathlib.Data.Int.Basic

/-!
# The controller of the wired clock (`ptp_wired_pi.h`)

One step from a measured offset and the time since the last one to an absolute trim in
parts per billion. The divisions are C's, toward zero.
-/

namespace EspPtp

/-- `PTP_WIRED_TRIM_LIMIT`. -/
def ptpWiredTrimLimit : Int := 512000

/-- Both sides of a limit. -/
def clampTo (limit x : Int) : Int := if x > limit then limit else if x < -limit then -limit else x

/-- `ptp_wired_pi_step`: the integral in units of `2⁻¹⁶`, and the trim. -/
def ptpWiredPiStep (integralQ16 offsetNs intervalNs : Int) : Int × Int :=
  let intervalNs := if intervalNs < 1000000 then 1000000 else intervalNs
  let intervalNs := if intervalNs > 4000000000 then 4000000000 else intervalNs
  let offsetNs := clampTo 1000000000 offsetNs
  let short := decide (intervalNs ≤ 250000000)
  let proportional := if short then offsetNs * 4 else (offsetNs * 1000000000).tdiv intervalNs
  let numerator := if short then offsetNs * intervalNs else offsetNs * 250000000
  let denominator := if short then 250000000 else intervalNs
  let increment :=
    numerator.tdiv denominator * 65536 + (numerator.tmod denominator * 65536).tdiv denominator
  let candidate := clampTo (ptpWiredTrimLimit * 65536) (integralQ16 + increment)
  let target := proportional + candidate.tdiv 65536
  -- Outside the limit the integral does not follow an error that pushes further out.
  let integralQ16 :=
    if (target > ptpWiredTrimLimit ∧ offsetNs > 0) ∨
        (target < -ptpWiredTrimLimit ∧ offsetNs < 0) then integralQ16
    else candidate
  (integralQ16, clampTo ptpWiredTrimLimit (proportional + integralQ16.tdiv 65536))

/-- `ptp_trim_relative_delta`. -/
def ptpTrimRelativeDelta (previous target : Int) : Int :=
  ((target - previous) * 1000000000).tdiv (1000000000 + previous)

end EspPtp
