import EspPtp.Clock.Software
import EspPtp.Clock.WiredBounds
import EspPtp.Daemon.Servo

/-!
# The trim of the servo and the rate of the clock

The servo keeps its output as an absolute trim and hands the clock the difference to the one
before. The wired clock composes that difference with its rate, and is handed one that makes
up for it; the software clock composes it too, and is handed the plain difference.

A step of the clock starts the controller anew. The wired integral is set to what gives the
trim in force; that of the software backend is set to zero.
-/

namespace EspPtp

open Lib

variable {F : Type} {n : Nat} {cfg : Config}

/-! ## The trim -/

theorem toInt32_of_bounds {x : Int} (hlow : -2147483648 ≤ x) (hhigh : x ≤ 2147483647) :
    toInt32 x = x :=
  Int32.toInt_ofInt_of_le (by omega) (by omega)

/-- The trim the software backend asks for: the offset, and the integral with it. -/
def softwareTrim (driftAcc offsetNs : Int) : Int :=
  clampTo 512000
    (offsetNs.tdiv 2000 + clampTo 512000 (toInt32 (driftAcc + offsetNs.tdiv 8000)))

theorem softwareTrim_bounds (driftAcc offsetNs : Int) :
    -512000 ≤ softwareTrim driftAcc offsetNs ∧ softwareTrim driftAcc offsetNs ≤ 512000 :=
  ⟨neg_le_clampTo (by decide) _, clampTo_le (by decide) _⟩

/-- What becomes of port 0 does not touch the trim. -/
theorem freqTrim_ite (c : Prop) [Decidable c] (s : PtpState F n) (port : PtpPort F) :
    (if c then s.withPort0 port else s).freqTrimPpb = s.freqTrimPpb := by
  split <;> rfl

section Observation

variable [CDouble F]

/-- The trim kept after an observation. -/
theorem ptpLockLocalClockFreq_freqTrim (cfg : Config) (s : PtpState F n)
    (remote localTime : Timespec) (clock : ClockAnswers) :
    (ptpLockLocalClockFreq cfg s remote localTime clock).freqTrimPpb =
      if clock.adjtimeOk then
        toInt32 (servoTarget cfg s.toPtpServo (sourceOffsetNs cfg s remote localTime)
          (timespecToNs localTime - s.localTimeNsPrev)).2.2
      else s.freqTrimPpb := by
  unfold ptpLockLocalClockFreq
  exact freqTrim_ite _ _ _

end Observation

theorem servoTarget_software (hsoftware : cfg.useSwClock = true) (s : PtpServo F)
    (offsetNs localDeltaNs : Int) :
    toInt32 (servoTarget cfg s offsetNs localDeltaNs).2.2 = softwareTrim s.driftAcc offsetNs := by
  obtain ⟨hlow, hhigh⟩ := softwareTrim_bounds s.driftAcc offsetNs
  have htarget : (servoTarget cfg s offsetNs localDeltaNs).2.2 =
      softwareTrim s.driftAcc offsetNs := by
    rw [servoTarget, if_pos hsoftware]
    rfl
  rw [htarget]
  exact toInt32_of_bounds (by omega) (by omega)

/-! ## The rate of the software clock -/

section Rate

variable [CDouble F]

/-- The daemon's servo and the software clock it trims. -/
structure SwServo (F : Type) (n : Nat) where
  state : PtpState F n
  clock : PtpClockSw

/-- What the two go through. -/
inductive SwServoEvent (F : Type) (n : Nat) where
  /-- `ptp_update_local_clock`; the local counter as `ptp_gettime` reads it, and as the call
      that sets the clock or its rate does. -/
  | observe (remote localTime : Timespec) (readNs writeNs : Int)
  /-- Whatever else the daemon does between two observations. -/
  | other (state : PtpState F n)

/-- The test of `ptp_update_local_clock` for a jump. -/
def clockJumps (cfg : Config) (s : PtpState F n) (remote localTime : Timespec) : Bool :=
  decide (((sourceOffsetNs cfg s remote localTime).natAbs : Int) >
    cfg.settimeThresholdMs * 1000000)

/-- `trim_delta` of the software backend: the plain difference. -/
def softwareTrimDelta (cfg : Config) (s : PtpState F n) (remote localTime : Timespec) : Int :=
  toInt32 (servoTarget cfg s.toPtpServo (sourceOffsetNs cfg s remote localTime)
    (timespecToNs localTime - s.localTimeNsPrev)).2.2 - s.freqTrimPpb

/-- One event. -/
def swServoStep (cfg : Config) (s : SwServo F n) : SwServoEvent F n → SwServo F n
  | .observe remote localTime readNs writeNs =>
    let now := (ptpClockSwNow s.clock readNs).getD default
    let answer :=
      if clockJumps cfg s.state remote localTime then
        ptpClockSwSettime s.clock (timespecAdd (timespecSub now localTime) remote) writeNs
      else
        ptpClockSwAdjtimeRate s.clock (softwareTrimDelta cfg s.state remote localTime) writeNs
    { state := (ptpUpdateLocalClock cfg s.state remote localTime ⟨now, answer.2, answer.2⟩).1
      clock := answer.1 }
  | .other state => { s with state := state }

/-- Only observations trim. -/
def trimKept (s : SwServo F n) : SwServoEvent F n → Prop
  | .observe .. => True
  | .other state => state.freqTrimPpb = s.state.freqTrimPpb

/-- The clock runs at the trim the servo keeps. -/
def SwServo.Agrees (s : SwServo F n) : Prop := s.clock.clock.ratePpb = s.state.freqTrimPpb

/-- An observation that is not a jump changes the trim by so little that composing it with the
    rate adds nothing: `trim * (next - trim)` is less than one in `10⁹`. -/
def SmallTrim (cfg : Config) (s : SwServo F n) : SwServoEvent F n → Prop
  | .observe remote localTime _ _ =>
    clockJumps cfg s.state remote localTime = false →
    (s.state.freqTrimPpb *
      (softwareTrim s.state.driftAcc (sourceOffsetNs cfg s.state remote localTime) -
        s.state.freqTrimPpb)).natAbs < 1000000000
  | .other _ => True

/-- What holds of every state reached. -/
structure SwServo.Ok (s : SwServo F n) : Prop where
  initialized : s.clock.initialized = true
  slow : -512000 ≤ s.state.freqTrimPpb
  fast : s.state.freqTrimPpb ≤ 512000

section Step

variable {s : SwServo F n} {remote localTime : Timespec}

/-- What an observation does to the trim. -/
theorem ptpUpdateLocalClock_freqTrim (cfg : Config) (s : PtpState F n)
    (remote localTime : Timespec) (clock : ClockAnswers) :
    (ptpUpdateLocalClock cfg s remote localTime clock).1.freqTrimPpb =
      if clockJumps cfg s remote localTime then s.freqTrimPpb
      else (ptpLockLocalClockFreq cfg s remote localTime clock).freqTrimPpb := by
  unfold ptpUpdateLocalClock clockJumps
  dsimp only
  split <;> rfl

/-- A jump leaves the trim and the rate. -/
theorem swServoStep_jump (hs : s.Ok) (hjump : clockJumps cfg s.state remote localTime = true)
    (readNs writeNs : Int) :
    (swServoStep cfg s (.observe remote localTime readNs writeNs)).state.freqTrimPpb =
        s.state.freqTrimPpb ∧
      (swServoStep cfg s (.observe remote localTime readNs writeNs)).clock.clock.ratePpb =
        s.clock.clock.ratePpb ∧
      (swServoStep cfg s (.observe remote localTime readNs writeNs)).clock.initialized = true := by
  have hset := hs.initialized
  refine ⟨?_, ?_, ?_⟩
  · simp only [swServoStep, ptpUpdateLocalClock_freqTrim, hjump, if_true]
  · simp only [swServoStep, hjump, if_true, ptpClockSwSettime, hset, Bool.not_true,
      Bool.false_eq_true, if_false]
  · simp only [swServoStep, hjump, if_true, ptpClockSwSettime, hset, Bool.not_true,
      Bool.false_eq_true, if_false]

/-- Otherwise the trim becomes the one asked for, and the clock composes the difference. -/
theorem swServoStep_trim (hsoftware : cfg.useSwClock = true) (hs : s.Ok)
    (hjump : clockJumps cfg s.state remote localTime = false) (readNs writeNs : Int) :
    (swServoStep cfg s (.observe remote localTime readNs writeNs)).state.freqTrimPpb =
        softwareTrim s.state.driftAcc (sourceOffsetNs cfg s.state remote localTime) ∧
      (swServoStep cfg s (.observe remote localTime readNs writeNs)).clock =
        { s.clock with
          clock := ptpClockAffineAdjustRate s.clock.clock writeNs
            (softwareTrim s.state.driftAcc (sourceOffsetNs cfg s.state remote localTime) -
              s.state.freqTrimPpb) } := by
  have hset := hs.initialized
  refine ⟨?_, ?_⟩
  · simp only [swServoStep, ptpUpdateLocalClock_freqTrim, hjump, Bool.false_eq_true, if_false,
      ptpLockLocalClockFreq_freqTrim, ptpClockSwAdjtimeRate, hset, Bool.not_true, if_true,
      servoTarget_software hsoftware]
  · simp only [swServoStep, hjump, Bool.false_eq_true, if_false, ptpClockSwAdjtimeRate, hset,
      Bool.not_true, softwareTrimDelta, servoTarget_software hsoftware]

/-- The rate a difference is composed to is the trim just where the product rounds away. -/
theorem composed_rate_iff {trim target : Int} (hslow : -512000 ≤ trim) (hfast : trim ≤ 512000)
    (hlow : -512000 ≤ target) (hhigh : target ≤ 512000) :
    clampTo 100000000 (trim + ((trim * (target - trim)).tdiv 1000000000 + (target - trim))) =
        target ↔
      (trim * (target - trim)).natAbs < 1000000000 := by
  have hproductLow : -524288000000 ≤ trim * (target - trim) := by nlinarith
  have hproductHigh : trim * (target - trim) ≤ 524288000000 := by nlinarith
  have hsmall := @tdiv_eq_zero_iff 1000000000 (trim * (target - trim)) (by decide)
  generalize trim * (target - trim) = product at hproductLow hproductHigh hsmall ⊢
  have hquotient : -525 ≤ product.tdiv 1000000000 ∧ product.tdiv 1000000000 ≤ 525 := by
    rcases Int.le_total 0 product with hpositive | hnegative
    · have hbounds := @tdiv_bounds_nonneg 1000000000 product (by decide) hpositive
      omega
    · have hbounds := @tdiv_bounds_nonpos 1000000000 product (by decide) hnegative
      omega
  -- The clamp of the clock is far wider, so that only the rounded product tells them apart.
  rw [clampTo_eq (by omega) (by omega)]
  omega

/-- Every admissible event keeps what holds of the states reached. -/
theorem swServoStep_ok (hsoftware : cfg.useSwClock = true) (hs : s.Ok) {e : SwServoEvent F n}
    (hkept : trimKept s e) : (swServoStep cfg s e).Ok := by
  cases e with
  | other state =>
    have hsame : state.freqTrimPpb = s.state.freqTrimPpb := hkept
    exact
      { initialized := hs.initialized
        slow := by rw [swServoStep, hsame]; exact hs.slow
        fast := by rw [swServoStep, hsame]; exact hs.fast }
  | observe remote localTime readNs writeNs =>
    cases hjump : clockJumps cfg s.state remote localTime with
    | true =>
      obtain ⟨htrim, -, hset⟩ := swServoStep_jump hs hjump readNs writeNs
      exact
        { initialized := hset
          slow := by rw [htrim]; exact hs.slow
          fast := by rw [htrim]; exact hs.fast }
    | false =>
      obtain ⟨htrim, hclock⟩ := swServoStep_trim hsoftware hs hjump readNs writeNs
      obtain ⟨hlow, hhigh⟩ := softwareTrim_bounds s.state.driftAcc
        (sourceOffsetNs cfg s.state remote localTime)
      exact
        { initialized := by rw [hclock]; exact hs.initialized
          slow := by rw [htrim]; exact hlow
          fast := by rw [htrim]; exact hhigh }

/-- **One event**: a clock that runs at the trim still does, just where the change of the trim
    is a small one. -/
theorem swServoStep_agrees_iff (hsoftware : cfg.useSwClock = true) (hs : s.Ok)
    (hagrees : s.Agrees) {e : SwServoEvent F n} (hkept : trimKept s e) :
    (swServoStep cfg s e).Agrees ↔ SmallTrim cfg s e := by
  cases e with
  | other state =>
    have hsame : state.freqTrimPpb = s.state.freqTrimPpb := hkept
    refine iff_of_true ?_ trivial
    rw [SwServo.Agrees, swServoStep, hsame]
    exact hagrees
  | observe remote localTime readNs writeNs =>
    cases hjump : clockJumps cfg s.state remote localTime with
    | true =>
      obtain ⟨htrim, hrate, -⟩ := swServoStep_jump hs hjump readNs writeNs
      refine iff_of_true ?_ ?_
      · rw [SwServo.Agrees, htrim, hrate]
        exact hagrees
      · intro hnot
        rw [hjump] at hnot
        cases hnot
    | false =>
      obtain ⟨htrim, hclock⟩ := swServoStep_trim hsoftware hs hjump readNs writeNs
      obtain ⟨hlow, hhigh⟩ := softwareTrim_bounds s.state.driftAcc
        (sourceOffsetNs cfg s.state remote localTime)
      have hcomposed := composed_rate_iff hs.slow hs.fast hlow hhigh
      rw [SwServo.Agrees, htrim, hclock]
      simp only [SmallTrim, hjump, true_imp_iff, ← hcomposed]
      simp only [ptpClockAffineAdjustRate, ptpClockAffineReanchor]
      rw [show s.clock.clock.ratePpb = s.state.freqTrimPpb from hagrees]

end Step

/-- **The software clock runs at the trim of the servo** throughout a run if and only if every
    rate update of the run is a small one. -/
theorem softwareRate_agrees_iff (cfg : Config) (hsoftware : cfg.useSwClock = true)
    (state : PtpState F n) (hfresh : state.freqTrimPpb = 0) (initialTs : Option Timespec)
    (startNs : Int) (events : List (SwServoEvent F n))
    (hevents : Lib.Admissible (swServoStep cfg) trimKept ⟨state, ptpClockSwInit initialTs startNs⟩
      events) :
    Lib.Admissible (swServoStep cfg) (fun s e => (swServoStep cfg s e).Agrees)
        ⟨state, ptpClockSwInit initialTs startNs⟩ events ↔
      Lib.Admissible (swServoStep cfg) (SmallTrim cfg) ⟨state, ptpClockSwInit initialTs startNs⟩
        events := by
  have hok : (⟨state, ptpClockSwInit initialTs startNs⟩ : SwServo F n).Ok :=
    { initialized := rfl
      slow := by rw [hfresh]; decide
      fast := by rw [hfresh]; decide }
  have hagrees : (⟨state, ptpClockSwInit initialTs startNs⟩ : SwServo F n).Agrees := hfresh.symm
  generalize (⟨state, ptpClockSwInit initialTs startNs⟩ : SwServo F n) = s at *
  -- Both sides fail at the same event, the first where the two come apart.
  induction events generalizing s with
  | nil => exact Iff.rfl
  | cons e events ih =>
    have hstep := swServoStep_agrees_iff hsoftware hok hagrees hevents.1
    have hnext := swServoStep_ok hsoftware hok hevents.1
    constructor
    · rintro ⟨hnow, hrest⟩
      exact ⟨hstep.mp hnow, (ih _ hevents.2 hnext hnow).mp hrest⟩
    · rintro ⟨hsmall, hrest⟩
      have hnow := hstep.mpr hsmall
      exact ⟨hnow, (ih _ hevents.2 hnext hnow).mpr hrest⟩

end Rate

namespace Sample

/-- The software backend, in the standard profile. -/
def softwareConfig : Config := { config with useSwClock := true }

def softwareState : PtpState ℚ 0 :=
  { (default : PtpState ℚ 0) with activePtpProfile := .standard }

/-- Two observations, 80 and 160 milliseconds behind. -/
def fallingBehind : List (SwServoEvent ℚ 0) :=
  [.observe ⟨1, 80000000⟩ ⟨1, 0⟩ 1000000000 1000000000,
    .observe ⟨2, 160000000⟩ ⟨2, 0⟩ 2000000000 2000000000]

end Sample

/-- The first update from zero is a small one. -/
theorem softwareRate_agrees_first :
    Lib.Admissible (swServoStep Sample.softwareConfig)
      (fun s e => (swServoStep Sample.softwareConfig s e).Agrees)
      ⟨Sample.softwareState, ptpClockSwInit none 0⟩ (Sample.fallingBehind.take 1) :=
  (softwareRate_agrees_iff Sample.softwareConfig rfl Sample.softwareState rfl none 0
    (Sample.fallingBehind.take 1) ⟨trivial, trivial⟩).mpr ⟨fun _ => by decide, trivial⟩

/-- After the second the clock runs 3 ppb above the trim. -/
theorem softwareRate_disagrees :
    (Sample.fallingBehind.foldl (swServoStep Sample.softwareConfig)
        ⟨Sample.softwareState, ptpClockSwInit none 0⟩).state.freqTrimPpb = 110000 ∧
      (Sample.fallingBehind.foldl (swServoStep Sample.softwareConfig)
        ⟨Sample.softwareState, ptpClockSwInit none 0⟩).clock.clock.ratePpb = 110003 := by
  decide

/-! ## The trim across a step -/

/-- **When a step of the clock leaves the trim**: on the wired backend; on the software backend
    the next observation, however exact, sets a trim of zero. Between the step and the
    observation the daemon may do anything that leaves the controller. -/
theorem cleanAfterStep_bumpless_iff [CDouble F] (cfg : Config) (s later : PtpState F n)
    (remote localTime : Timespec) (clock : ClockAnswers) (hlow : -512000 ≤ s.freqTrimPpb)
    (hhigh : s.freqTrimPpb ≤ 512000) (hdrift : later.driftAcc = s.cleanAfterStep.driftAcc)
    (hintegral : later.wiredIntegralQ16 = s.cleanAfterStep.wiredIntegralQ16)
    (htrim : later.freqTrimPpb = s.cleanAfterStep.freqTrimPpb)
    (hoffset : sourceOffsetNs cfg later remote localTime = 0) :
    (ptpLockLocalClockFreq cfg later remote localTime clock).freqTrimPpb = s.freqTrimPpb ↔
      cfg.useSwClock = false ∨ s.freqTrimPpb = 0 ∨ clock.adjtimeOk = false := by
  have hkept : later.freqTrimPpb = s.freqTrimPpb := htrim
  rw [ptpLockLocalClockFreq_freqTrim, hoffset, hkept]
  cases clock.adjtimeOk with
  | false => simp
  | true =>
    simp only [if_true, Bool.true_eq_false, or_false]
    cases hbackend : cfg.useSwClock with
    | true =>
      have hzero : softwareTrim later.driftAcc 0 = 0 := by
        rw [show later.driftAcc = 0 from hdrift]
        decide
      rw [servoTarget_software hbackend, hzero]
      simp only [Bool.true_eq_false, false_or]
      exact eq_comm
    | false =>
      refine iff_of_true ?_ (.inl rfl)
      have hintegral' : later.wiredIntegralQ16 = s.freqTrimPpb * 65536 := hintegral
      simp only [servoTarget, hbackend, Bool.false_eq_true, if_false, hintegral',
        ptpWiredPiStep_fixed hlow hhigh]
      exact toInt32_of_bounds (by omega) (by omega)

namespace Sample

/-- A daemon that has learned a trim of 40 ppm. -/
def trimmed : PtpState ℚ 0 := { softwareState with freqTrimPpb := 40000 }

end Sample

/-- The wired controller keeps it. -/
theorem cleanAfterStep_bumpless_wired :
    (ptpLockLocalClockFreq Sample.config Sample.trimmed.cleanAfterStep ⟨1, 0⟩ ⟨1, 0⟩
      ⟨⟨1, 0⟩, true, true⟩).freqTrimPpb = 40000 :=
  (cleanAfterStep_bumpless_iff Sample.config Sample.trimmed Sample.trimmed.cleanAfterStep ⟨1, 0⟩
    ⟨1, 0⟩ ⟨⟨1, 0⟩, true, true⟩ (by decide) (by decide) rfl rfl rfl (by decide)).mpr (.inl rfl)

/-- The software backend does not. -/
theorem cleanAfterStep_bump :
    Sample.trimmed.freqTrimPpb = 40000 ∧
      sourceOffsetNs Sample.softwareConfig Sample.trimmed.cleanAfterStep ⟨1, 0⟩ ⟨1, 0⟩ = 0 ∧
      (ptpLockLocalClockFreq Sample.softwareConfig Sample.trimmed.cleanAfterStep ⟨1, 0⟩ ⟨1, 0⟩
        ⟨⟨1, 0⟩, true, true⟩).freqTrimPpb = 0 := by
  decide

end EspPtp
