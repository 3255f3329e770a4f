import EspPtp.Clock.Affine
import EspPtp.Daemon.PhaseChange
import EspPtp.Lib.Checked

/-!
# The beacon offset envelope (`on_vendor_ie` of `ptp_wifi.c`)

A station learns the offset of its access point's clock from beacons, each sample of which
can only read low. So the filter tracks the upper envelope of the samples: it holds their
peak while it acquires, then predicts by a learned slope, rises at once and comes down once
per window. A large error snaps it, upward at once and downward after a run of eight.

The eight static variables of the block are `BeaconFilter`, and a fresh element passes the
stages below in the source's order. An `int64_t` is an integer here, as long as it does not
overflow; what is multiplied by the window's best error is bounded by `EnvelopeBounded`, not
assumed to fit.
-/

namespace EspPtp

open Lib

/-- `ACQ_SAMPLES`. -/
def acqSamples : Nat := 16

/-- `OFF_STEP_NS`. -/
def offStepNs : Int := 100 * 1000 * 1000

/-- `OFF_UP_MAX_NS`. -/
def offUpMaxNs : Int := 400000

/-- `OFF_DOWN_STEP_NS`. -/
def offDownStepNs : Int := 350 * 1000 * 1000

/-- `OFF_DOWN_RUN`. -/
def offDownRun : Nat := 8

/-- `WINDOW_SAMPLES`. -/
def windowSamplesMax : Nat := 8

/-- `SLOPE_MAX_PPB`. -/
def slopeMaxPpb : Int := 200000

/-- A fresh element: its offset sample, the station's TSF, and the information TLV. -/
structure BeaconElement where
  offsetRaw : Int
  staTsfUs : Int
  info : Vector UInt8 32

/-- `time_base`, the `gmtimebaseindicator` of the TLV. -/
def BeaconElement.timeBase (e : BeaconElement) : UInt16 := be16 (tlvTimeBaseIndicator e.info)

/-- The phase change, where it is known and within the step thresholds. -/
def BeaconElement.phaseNs (e : BeaconElement) : Option Int :=
  (followUpPhaseChangeNs e.info).filter fun phase =>
    decide (phase ≤ offStepNs) && decide (phase ≥ -offDownStepNs)

/-- The static variables, with `s_have_time_base` and `s_time_base` in one. -/
structure BeaconFilter where
  acq : Nat
  offFilt : Int
  downRun : Nat
  slopePpb : Int
  lastTsfUs : Int
  windowSamples : Nat
  windowBest : Int
  windowStartTsfUs : Int
  timeBase : Option UInt16
  deriving DecidableEq, Inhabited

/-- What the block does besides: `beacon_status_reacquire`, and the pair's master time for
    `ptpd_inject_sync_pair`; with the branches it took. -/
structure BeaconOutcome where
  reacquired : Bool
  snapped : Bool
  windowClosed : Bool
  btcNowNs : Option Int
  deriving DecidableEq

namespace BeaconFilter

/-- The static variables before the first element. -/
def zero : BeaconFilter where
  acq := 0
  offFilt := 0
  downRun := 0
  slopePpb := 0
  lastTsfUs := 0
  windowSamples := 0
  windowBest := 0
  windowStartTsfUs := 0
  timeBase := none

/-- The element carries another time base than the one before. -/
def changesTimeBase (f : BeaconFilter) (e : BeaconElement) : Bool :=
  f.timeBase.any fun timeBase => decide (e.timeBase ≠ timeBase)

/-- A change of time base moves the offset, or has it acquired again. -/
def followTimeBase (f : BeaconFilter) (e : BeaconElement) : BeaconFilter :=
  let f :=
    if f.changesTimeBase e then
      match e.phaseNs with
      | some phase =>
        { f with offFilt := f.offFilt + phase, downRun := 0, windowSamples := 0 }
      | none => { f with acq := 0, downRun := 0 }
    else f
  { f with timeBase := some e.timeBase }

/-- The offset at the element's time, by the slope. -/
def predict (f : BeaconFilter) (e : BeaconElement) : BeaconFilter :=
  let f :=
    if f.acq ≥ acqSamples then
      { f with
        offFilt := f.offFilt + (f.slopePpb * (e.staTsfUs - f.lastTsfUs)).tdiv 1000000 }
    else f
  { f with lastTsfUs := e.staTsfUs }

/-- A sample while acquiring: hold the peak. -/
def acquire (f : BeaconFilter) (e : BeaconElement) : BeaconFilter :=
  { f with
    offFilt := if f.acq = 0 ∨ e.offsetRaw - f.offFilt > 0 then e.offsetRaw else f.offFilt
    acq := f.acq + 1
    slopePpb := 0
    windowSamples := 0 }

/-- A sample once acquired: snap, rise, or count a deep one. The answer is `snapped`. -/
def follow (f : BeaconFilter) (e : BeaconElement) (offErr : Int) : BeaconFilter × Bool :=
  if offErr > offStepNs then ({ f with offFilt := e.offsetRaw, downRun := 0 }, true)
  else if offErr > 0 then
    ({ f with offFilt := f.offFilt + min (offErr >>> (1 : Nat)) offUpMaxNs, downRun := 0 }, false)
  else if offErr < -offDownStepNs then
    if f.downRun + 1 ≥ offDownRun then
      ({ f with offFilt := e.offsetRaw, downRun := 0 }, true)
    else ({ f with downRun := f.downRun + 1 }, false)
  else ({ f with downRun := 0 }, false)

/-- The sample's part in the window. -/
def noteSample (f : BeaconFilter) (e : BeaconElement) (offErr : Int) : BeaconFilter :=
  { f with
    windowBest := if f.windowSamples = 0 ∨ offErr > f.windowBest then offErr else f.windowBest
    windowStartTsfUs := if f.windowSamples = 0 then e.staTsfUs else f.windowStartTsfUs
    windowSamples := f.windowSamples + 1 }

/-- `s_slope_ppb` after a window of this length, before its limits. -/
def trimmedSlope (f : BeaconFilter) (windowUs : Int) : Int :=
  f.slopePpb + (((f.windowBest * 1000000).tdiv windowUs) >>> (5 : Nat))

/-- The end of a window: a quarter of the way down to its best sample, which also trims the
    slope. -/
def closeWindow (f : BeaconFilter) (windowUs : Int) : BeaconFilter :=
  { f with
    offFilt := if f.windowBest < 0 then f.offFilt + f.windowBest >>> (2 : Nat) else f.offFilt
    slopePpb := clampTo slopeMaxPpb (f.trimmedSlope windowUs)
    windowSamples := 0 }

/-- The window after a sample that did not snap. The answer is whether it closed. -/
def sampleWindow (f : BeaconFilter) (e : BeaconElement) (offErr : Int) : BeaconFilter × Bool :=
  let f := f.noteSample e offErr
  let windowUs := e.staTsfUs - f.windowStartTsfUs
  if f.windowSamples ≥ windowSamplesMax ∧ windowUs > 0 then (f.closeWindow windowUs, true)
  else (f, false)

/-- An element once acquired, after the prediction. The answers are `snapped` and whether a
    window closed. -/
def track (f : BeaconFilter) (e : BeaconElement) : BeaconFilter × Bool × Bool :=
  let offErr := e.offsetRaw - f.offFilt
  let followed := f.follow e offErr
  if followed.2 then ({ followed.1 with windowSamples := 0 }, true, false)
  else
    let sampled := followed.1.sampleWindow e offErr
    (sampled.1, false, sampled.2)

/-- The filter once the element's prediction is made. -/
def predicted (f : BeaconFilter) (e : BeaconElement) : BeaconFilter :=
  (f.followTimeBase e).predict e

/-- One fresh element. -/
def step (f : BeaconFilter) (e : BeaconElement) : BeaconFilter × BeaconOutcome :=
  let reacquired := f.changesTimeBase e && e.phaseNs.isNone
  let f := f.predicted e
  if f.acq < acqSamples then (f.acquire e, ⟨reacquired, false, false, none⟩)
  else
    let tracked := f.track e
    (tracked.1, ⟨reacquired, tracked.2.1, tracked.2.2,
      some (tracked.1.offFilt + e.staTsfUs * 1000)⟩)

/-! ## The invariant -/

/-- What holds between two elements. A window of deep samples only is as long as the run of
    deep samples, so it never gets to eight. -/
structure Tracking (f : BeaconFilter) : Prop where
  slopeLow : -slopeMaxPpb ≤ f.slopePpb
  slopeHigh : f.slopePpb ≤ slopeMaxPpb
  downRun : f.downRun < offDownRun
  bestHigh : 0 < f.windowSamples → f.windowBest ≤ offStepNs
  deepWindow : 0 < f.windowSamples → f.windowBest < -offDownStepNs → f.windowSamples ≤ f.downRun

theorem tracking_zero : zero.Tracking where
  slopeLow := by decide
  slopeHigh := by decide
  downRun := by decide
  bestHigh := by simp [zero]
  deepWindow := by simp [zero]

variable {f : BeaconFilter}

/-- The variables of the invariant are as before. -/
theorem Tracking.congr {f' : BeaconFilter} (h : f.Tracking) (hslope : f'.slopePpb = f.slopePpb)
    (hrun : f'.downRun = f.downRun) (hsamples : f'.windowSamples = f.windowSamples)
    (hbest : f'.windowBest = f.windowBest) : f'.Tracking where
  slopeLow := hslope ▸ h.slopeLow
  slopeHigh := hslope ▸ h.slopeHigh
  downRun := hrun ▸ h.downRun
  bestHigh := by rw [hsamples, hbest]; exact h.bestHigh
  deepWindow := by rw [hsamples, hbest, hrun]; exact h.deepWindow

/-- No window is open. -/
theorem Tracking.of_closed (hslopeLow : -slopeMaxPpb ≤ f.slopePpb)
    (hslopeHigh : f.slopePpb ≤ slopeMaxPpb) (hrun : f.downRun < offDownRun)
    (hsamples : f.windowSamples = 0) : f.Tracking where
  slopeLow := hslopeLow
  slopeHigh := hslopeHigh
  downRun := hrun
  bestHigh := by simp [hsamples]
  deepWindow := by simp [hsamples]

/-! ## The stages -/

/-- An element that does not have the offset acquired again keeps the invariant up to its
    prediction; one that does leaves no run of deep samples. -/
theorem Tracking.predicted (h : f.Tracking) (e : BeaconElement) :
    (f.predicted e).downRun < offDownRun ∧
      (acqSamples ≤ (f.predicted e).acq → (f.predicted e).Tracking) := by
  have hpredict (g : BeaconFilter) : (g.predict e).slopePpb = g.slopePpb ∧
      (g.predict e).downRun = g.downRun ∧ (g.predict e).windowSamples = g.windowSamples ∧
      (g.predict e).windowBest = g.windowBest ∧ (g.predict e).acq = g.acq := by
    unfold predict
    split <;> exact ⟨rfl, rfl, rfl, rfl, rfl⟩
  obtain ⟨hslope, hrun, hsamples, hbest, hacq⟩ := hpredict (f.followTimeBase e)
  unfold BeaconFilter.predicted
  rw [hrun, hacq]
  suffices hfollowed : (f.followTimeBase e).downRun < offDownRun ∧
      (acqSamples ≤ (f.followTimeBase e).acq → (f.followTimeBase e).Tracking) from
    ⟨hfollowed.1, fun hready => (hfollowed.2 hready).congr hslope hrun hsamples hbest⟩
  have hshort : 0 < offDownRun := by decide
  have hunready : ¬ acqSamples ≤ 0 := by decide
  unfold followTimeBase
  by_cases hchange : f.changesTimeBase e = true
  · rw [if_pos hchange]
    cases e.phaseNs with
    | some phase => exact ⟨hshort, fun _ => .of_closed h.slopeLow h.slopeHigh hshort rfl⟩
    | none => exact ⟨hshort, fun hready => absurd hready hunready⟩
  · rw [if_neg hchange]
    exact ⟨h.downRun, fun _ => h.congr rfl rfl rfl rfl⟩

theorem tracking_acquire (hrun : f.downRun < offDownRun) (e : BeaconElement) :
    (f.acquire e).Tracking :=
  .of_closed tracking_zero.slopeLow tracking_zero.slopeHigh hrun rfl

/-- **What a sample does to the envelope and the run.** -/
inductive FollowStep (f : BeaconFilter) (e : BeaconElement) (offErr : Int) :
    BeaconFilter → Bool → Prop
  | snapped : FollowStep f e offErr { f with offFilt := e.offsetRaw, downRun := 0 } true
  | rose (up : Int) (hpos : 0 < offErr) (hstep : offErr ≤ offStepNs) (hlow : 0 ≤ up)
      (hhigh : up ≤ offUpMaxNs) :
      FollowStep f e offErr { f with offFilt := f.offFilt + up, downRun := 0 } false
  | deep (hdeep : offErr < -offDownStepNs) (hrun : f.downRun + 1 < offDownRun) :
      FollowStep f e offErr { f with downRun := f.downRun + 1 } false
  | shallow (hneg : offErr ≤ 0) (hshallow : -offDownStepNs ≤ offErr) :
      FollowStep f e offErr { f with downRun := 0 } false

theorem follow_step (f : BeaconFilter) (e : BeaconElement) (offErr : Int) :
    FollowStep f e offErr (f.follow e offErr).1 (f.follow e offErr).2 := by
  unfold follow
  by_cases hstep : offErr > offStepNs
  · rw [if_pos hstep]
    exact .snapped
  rw [if_neg hstep]
  by_cases hpos : offErr > 0
  · rw [if_pos hpos]
    have hhalf : 0 ≤ offErr >>> (1 : Nat) := by
      rw [Int.shiftRight_eq_div_pow]
      omega
    exact .rose _ hpos (not_lt.mp hstep) (le_min hhalf (by decide)) (min_le_right _ _)
  rw [if_neg hpos]
  by_cases hdeep : offErr < -offDownStepNs
  · rw [if_pos hdeep]
    by_cases hrun : f.downRun + 1 ≥ offDownRun
    · rw [if_pos hrun]
      exact .snapped
    · rw [if_neg hrun]
      exact .deep hdeep (not_le.mp hrun)
  · rw [if_neg hdeep]
    exact .shallow (not_lt.mp hpos) (not_lt.mp hdeep)

/-- What does not snap is not far up. -/
theorem FollowStep.below {e : BeaconElement} {offErr : Int} {g : BeaconFilter}
    (h : FollowStep f e offErr g false) : offErr ≤ offStepNs := by
  have hup : 0 ≤ offStepNs := by decide
  have hdown : 0 ≤ offDownStepNs := by decide
  cases h with
  | rose _ _ hstep _ _ => exact hstep
  | deep hdeep _ => omega
  | shallow hneg _ => omega

/-- A deep sample that does not snap is counted. -/
theorem FollowStep.counted {e : BeaconElement} {offErr : Int} {g : BeaconFilter}
    (h : FollowStep f e offErr g false) (hdeep : offErr < -offDownStepNs) :
    g.downRun = f.downRun + 1 := by
  have hdown : 0 ≤ offDownStepNs := by decide
  cases h with
  | rose _ hpos _ _ _ => omega
  | deep _ _ => rfl
  | shallow _ hshallow => omega

theorem FollowStep.window {e : BeaconElement} {offErr : Int} {g : BeaconFilter} {snapped : Bool}
    (h : FollowStep f e offErr g snapped) : g.windowSamples = f.windowSamples ∧
      g.windowBest = f.windowBest ∧ g.slopePpb = f.slopePpb ∧ g.downRun ≤ f.downRun + 1 := by
  cases h with
  | snapped => exact ⟨rfl, rfl, rfl, Nat.zero_le _⟩
  | rose _ _ _ _ _ => exact ⟨rfl, rfl, rfl, Nat.zero_le _⟩
  | deep _ _ => exact ⟨rfl, rfl, rfl, Nat.le_refl _⟩
  | shallow _ _ => exact ⟨rfl, rfl, rfl, Nat.zero_le _⟩

theorem FollowStep.downRun_lt {e : BeaconElement} {offErr : Int} {g : BeaconFilter}
    {snapped : Bool} (h : FollowStep f e offErr g snapped) (hrun : f.downRun < offDownRun) :
    g.downRun < offDownRun := by
  cases h with
  | deep _ hless => exact hless
  | snapped | rose | shallow => exact Nat.lt_of_le_of_lt (Nat.zero_le _) hrun

/-- What does not snap only rises, and only for a sample above the envelope. -/
theorem FollowStep.risen {e : BeaconElement} {offErr : Int} {g : BeaconFilter}
    (h : FollowStep f e offErr g false) : f.offFilt ≤ g.offFilt ∧
      g.offFilt ≤ f.offFilt + 400000 ∧ (f.offFilt < g.offFilt → 0 < offErr) := by
  cases h with
  | rose up hpos _ hlow hhigh =>
    have hmax : up ≤ 400000 := hhigh
    dsimp only
    omega
  | deep | shallow =>
    dsimp only
    omega

/-- The window a sample is noted in: its best is at least the sample, and it is a window of
    deep samples only if this one is deep, too. -/
structure Noted (f : BeaconFilter) (offErr : Int) : Prop where
  bestHigh : f.windowBest ≤ offStepNs
  bestAbove : offErr ≤ f.windowBest
  deepWindow : f.windowBest < -offDownStepNs → f.windowSamples ≤ f.downRun

/-- A sample that did not snap, noted. -/
theorem Tracking.noted (h : f.Tracking) {g : BeaconFilter} {e : BeaconElement} {offErr : Int}
    (hfollow : FollowStep f e offErr g false) : (g.noteSample e offErr).Noted offErr := by
  obtain ⟨hsamples, hbest, -, -⟩ := hfollow.window
  by_cases hnew : f.windowSamples = 0 ∨ offErr > f.windowBest
  · have hnoted : (g.noteSample e offErr).windowBest = offErr := by
      unfold noteSample
      rw [hsamples, hbest, if_pos hnew]
    refine ⟨hnoted.trans_le hfollow.below, hnoted.ge, ?_⟩
    rw [hnoted]
    intro hdeep
    show g.windowSamples + 1 ≤ g.downRun
    rw [hsamples, hfollow.counted hdeep]
    -- A window that was open held deep samples only.
    rcases Nat.eq_zero_or_pos f.windowSamples with hopens | hopen
    · omega
    · have := h.deepWindow hopen (by omega)
      omega
  · have hnoted : (g.noteSample e offErr).windowBest = f.windowBest := by
      unfold noteSample
      rw [hsamples, hbest, if_neg hnew]
    have hopen : 0 < f.windowSamples := by omega
    refine ⟨hnoted.trans_le (h.bestHigh hopen), by omega, ?_⟩
    rw [hnoted]
    intro hdeep
    show g.windowSamples + 1 ≤ g.downRun
    have := h.deepWindow hopen hdeep
    rw [hsamples, hfollow.counted (by omega)]
    omega

/-- What a window that closes is worth. -/
structure Closing (f : BeaconFilter) : Prop where
  bestLow : -offDownStepNs ≤ f.windowBest
  bestHigh : f.windowBest ≤ offStepNs

/-- **A window of deep samples never closes**: the run of deep samples snaps first. -/
theorem Noted.closing {offErr : Int} (h : f.Noted offErr) (hrun : f.downRun < offDownRun)
    (hfull : f.windowSamples ≥ windowSamplesMax) : f.Closing := by
  have hsame : windowSamplesMax = offDownRun := rfl
  refine ⟨?_, h.bestHigh⟩
  by_contra hdeep
  have := h.deepWindow (not_le.mp hdeep)
  omega

/-- What a window that closes takes off the envelope. -/
theorem Closing.lowered (h : f.Closing) (windowUs : Int) :
    f.offFilt - 87500000 ≤ (f.closeWindow windowUs).offFilt ∧
      (f.closeWindow windowUs).offFilt ≤ f.offFilt ∧
      (0 ≤ f.windowBest → (f.closeWindow windowUs).offFilt = f.offFilt) := by
  have hlow : -350000000 ≤ f.windowBest := h.bestLow
  have hquarter : f.windowBest >>> (2 : Nat) = f.windowBest / 4 := Int.shiftRight_eq_div_pow _ _
  unfold closeWindow
  by_cases hneg : f.windowBest < 0
  · rw [if_pos hneg, hquarter]
    dsimp only
    omega
  · rw [if_neg hneg]
    dsimp only
    omega

theorem tracking_closeWindow (hrun : f.downRun < offDownRun) (windowUs : Int) :
    (f.closeWindow windowUs).Tracking := by
  have hlimit : 0 ≤ slopeMaxPpb := by decide
  exact .of_closed (neg_le_clampTo hlimit _) (clampTo_le hlimit _) hrun rfl

/-- The best error times a million over any length, and the slope it trims. -/
theorem Closing.fits (h : f.Closing) (hslopeLow : -slopeMaxPpb ≤ f.slopePpb)
    (hslopeHigh : f.slopePpb ≤ slopeMaxPpb) (windowUs : Int) :
    Fits64 (f.windowBest * 1000000) ∧ Fits64 (f.trimmedSlope windowUs) := by
  have hlow : -350000000 ≤ f.windowBest := h.bestLow
  have hhigh : f.windowBest ≤ 100000000 := h.bestHigh
  have hslope : -200000 ≤ f.slopePpb ∧ f.slopePpb ≤ 200000 := ⟨hslopeLow, hslopeHigh⟩
  refine ⟨by unfold Fits64; omega, ?_⟩
  have hquotient : -350000000000000 ≤ (f.windowBest * 1000000).tdiv windowUs ∧
      (f.windowBest * 1000000).tdiv windowUs ≤ 350000000000000 := by
    have habs := Int.natAbs_tdiv_le_natAbs (f.windowBest * 1000000) windowUs
    omega
  have hshift : ((f.windowBest * 1000000).tdiv windowUs) >>> (5 : Nat) =
      (f.windowBest * 1000000).tdiv windowUs / 32 := Int.shiftRight_eq_div_pow _ _
  unfold trimmedSlope Fits64
  rw [hshift]
  omega

/-- What becomes of a window once the sample is noted. -/
inductive WindowStep (f : BeaconFilter) : BeaconFilter → Bool → Prop
  | kept : WindowStep f f false
  | closed (windowUs : Int) (hfull : f.windowSamples ≥ windowSamplesMax) :
      WindowStep f (f.closeWindow windowUs) true

theorem sampleWindow_step (f : BeaconFilter) (e : BeaconElement) (offErr : Int) :
    WindowStep (f.noteSample e offErr) (f.sampleWindow e offErr).1 (f.sampleWindow e offErr).2 := by
  unfold sampleWindow
  dsimp only
  split
  · rename_i hclose
    exact .closed _ hclose.1
  · exact .kept

/-! ## One element -/

/-- **The bounds on one element**, against the prediction. -/
structure EnvelopeBounded (f : BeaconFilter) (e : BeaconElement) : Prop where
  slope : -200000 ≤ (f.step e).1.slopePpb ∧ (f.step e).1.slopePpb ≤ 200000
  downRun : (f.step e).1.downRun < 8
  moved : 16 ≤ (f.predicted e).acq → f.changesTimeBase e = false →
    (f.step e).2.snapped = false →
    (f.predicted e).offFilt - 87500000 ≤ (f.step e).1.offFilt ∧
      (f.step e).1.offFilt ≤ (f.predicted e).offFilt + 400000
  lowered : 16 ≤ (f.predicted e).acq → f.changesTimeBase e = false →
    (f.step e).2.snapped = false → (f.step e).1.offFilt < (f.predicted e).offFilt →
    (f.step e).2.windowClosed = true
  best : (f.step e).2.windowClosed = true → -350000000 ≤ (f.step e).1.windowBest
  product : (f.step e).2.windowClosed = true → Fits64 ((f.step e).1.windowBest * 1000000)

/-- What an acquired element does to the prediction. -/
structure Tracked (f : BeaconFilter) (answer : BeaconFilter × Bool × Bool) : Prop where
  tracking : answer.1.Tracking
  moved : answer.2.1 = false →
    f.offFilt - 87500000 ≤ answer.1.offFilt ∧ answer.1.offFilt ≤ f.offFilt + 400000
  lowered : answer.2.1 = false → answer.1.offFilt < f.offFilt → answer.2.2 = true
  closing : answer.2.2 = true → answer.1.Closing
  product : answer.2.2 = true → Fits64 (answer.1.windowBest * 1000000)

section Track

variable {g : BeaconFilter} {e : BeaconElement} {offErr : Int}

theorem Tracking.tracked_snapped (h : f.Tracking) (hfollow : FollowStep f e offErr g true) :
    Tracked f ({ g with windowSamples := 0 }, true, false) where
  tracking := .of_closed (hfollow.window.2.2.1 ▸ h.slopeLow) (hfollow.window.2.2.1 ▸ h.slopeHigh)
    (hfollow.downRun_lt h.downRun) rfl
  moved := fun hno => by cases hno
  lowered := fun hno => by cases hno
  closing := fun hno => by cases hno
  product := fun hno => by cases hno

theorem Tracking.tracked_kept (h : f.Tracking) (hfollow : FollowStep f e offErr g false) :
    Tracked f (g.noteSample e offErr, false, false) := by
  have hnoted := h.noted hfollow
  obtain ⟨-, -, hslope, -⟩ := hfollow.window
  obtain ⟨hlow, hhigh, -⟩ := hfollow.risen
  have hmoved : f.offFilt - 87500000 ≤ g.offFilt := by omega
  exact
    { tracking :=
        { slopeLow := hslope ▸ h.slopeLow
          slopeHigh := hslope ▸ h.slopeHigh
          downRun := hfollow.downRun_lt h.downRun
          bestHigh := fun _ => hnoted.bestHigh
          deepWindow := fun _ => hnoted.deepWindow }
      moved := fun _ => ⟨hmoved, hhigh⟩
      lowered := fun _ hlower => absurd hlower (not_lt.mpr hlow)
      closing := fun hno => by cases hno
      product := fun hno => by cases hno }

theorem Tracking.tracked_closed (h : f.Tracking) (hfollow : FollowStep f e offErr g false)
    (windowUs : Int) (hfull : (g.noteSample e offErr).windowSamples ≥ windowSamplesMax) :
    Tracked f ((g.noteSample e offErr).closeWindow windowUs, false, true) := by
  have hnoted := h.noted hfollow
  obtain ⟨-, -, hslope, -⟩ := hfollow.window
  obtain ⟨hlow, hhigh, hrose⟩ := hfollow.risen
  have hrun : (g.noteSample e offErr).downRun < offDownRun := hfollow.downRun_lt h.downRun
  have hclosing := hnoted.closing hrun hfull
  obtain ⟨hless, hmore, hkept⟩ := hclosing.lowered windowUs
  have hoffset : (g.noteSample e offErr).offFilt = g.offFilt := rfl
  -- A sample above the envelope is the window's best, so nothing comes down then.
  have hbest : f.offFilt < g.offFilt → 0 ≤ (g.noteSample e offErr).windowBest := fun habove =>
    le_of_lt ((hrose habove).trans_le hnoted.bestAbove)
  refine ⟨tracking_closeWindow hrun windowUs, fun _ => ?_, fun _ _ => rfl,
    fun _ => ⟨hclosing.bestLow, hclosing.bestHigh⟩, fun _ => ?_⟩
  · dsimp only
    omega
  · exact (hclosing.fits (hslope ▸ h.slopeLow) (hslope ▸ h.slopeHigh) windowUs).1

end Track

theorem Tracking.tracked (h : f.Tracking) (e : BeaconElement) : Tracked f (f.track e) := by
  unfold track
  dsimp only
  generalize e.offsetRaw - f.offFilt = offErr
  have hfollow := follow_step f e offErr
  have hwindow := sampleWindow_step (f.follow e offErr).1 e offErr
  generalize f.follow e offErr = followed at hfollow hwindow ⊢
  obtain ⟨g, snapped⟩ := followed
  dsimp only at hfollow hwindow ⊢
  cases snapped with
  | true => exact h.tracked_snapped hfollow
  | false =>
    rw [if_neg Bool.false_ne_true]
    generalize g.sampleWindow e offErr = answer at hwindow ⊢
    obtain ⟨f', closed⟩ := answer
    dsimp only at hwindow ⊢
    cases hwindow with
    | kept => exact h.tracked_kept hfollow
    | closed windowUs hfull => exact h.tracked_closed hfollow windowUs hfull

theorem Tracking.step (h : f.Tracking) (e : BeaconElement) :
    (f.step e).1.Tracking ∧ EnvelopeBounded f e := by
  obtain ⟨hrun, hready⟩ := h.predicted e
  suffices hstep : (f.step e).1.Tracking ∧
      (16 ≤ (f.predicted e).acq → (f.step e).2.snapped = false →
        (f.predicted e).offFilt - 87500000 ≤ (f.step e).1.offFilt ∧
          (f.step e).1.offFilt ≤ (f.predicted e).offFilt + 400000 ∧
          ((f.step e).1.offFilt < (f.predicted e).offFilt →
            (f.step e).2.windowClosed = true)) ∧
      ((f.step e).2.windowClosed = true → -350000000 ≤ (f.step e).1.windowBest ∧
        Fits64 ((f.step e).1.windowBest * 1000000)) by
    obtain ⟨htracking, hmoved, hclosing⟩ := hstep
    exact ⟨htracking,
      { slope := ⟨htracking.slopeLow, htracking.slopeHigh⟩
        downRun := htracking.downRun
        moved := fun hacq _ hsnap => ⟨(hmoved hacq hsnap).1, (hmoved hacq hsnap).2.1⟩
        lowered := fun hacq _ hsnap => (hmoved hacq hsnap).2.2
        best := fun hclosed => (hclosing hclosed).1
        product := fun hclosed => (hclosing hclosed).2 }⟩
  unfold BeaconFilter.step
  dsimp only
  by_cases hacq : (f.predicted e).acq < acqSamples
  · rw [if_pos hacq]
    refine ⟨tracking_acquire hrun e, fun hacquired => ?_, fun hno => by cases hno⟩
    exact absurd hacq (not_lt.mpr hacquired)
  · rw [if_neg hacq]
    have htracked := (hready (not_lt.mp hacq)).tracked e
    refine ⟨htracked.tracking, fun _ hsnap => ?_, fun hclosed => ?_⟩
    · exact ⟨(htracked.moved hsnap).1, (htracked.moved hsnap).2, htracked.lowered hsnap⟩
    · exact ⟨(htracked.closing hclosed).bestLow, htracked.product hclosed⟩

/-! ## Acquisition -/

/-- The next sample would be the first of an acquisition. -/
def BeginsAcquiring (f : BeaconFilter) (e : BeaconElement) : Prop := (f.followTimeBase e).acq = 0

/-- A sample of an acquisition under way, of the same time base. -/
theorem step_acquiring {e : BeaconElement} (hbase : f.timeBase = some e.timeBase)
    (hpos : 0 < f.acq) (hacq : f.acq < acqSamples) :
    (f.step e).1.acq = f.acq + 1 ∧ (f.step e).1.offFilt = max f.offFilt e.offsetRaw ∧
      (f.step e).1.timeBase = some e.timeBase := by
  have hsame : f.changesTimeBase e = false := by
    unfold changesTimeBase
    rw [hbase]
    simp
  have hpredicted : f.predicted e =
      { f with timeBase := some e.timeBase, lastTsfUs := e.staTsfUs } := by
    unfold predicted followTimeBase predict
    rw [hsame, if_neg Bool.false_ne_true]
    dsimp only
    rw [if_neg (not_le.mpr hacq)]
  unfold step
  rw [hpredicted]
  dsimp only
  rw [if_pos hacq]
  refine ⟨rfl, ?_, rfl⟩
  show (if f.acq = 0 ∨ e.offsetRaw - f.offFilt > 0 then e.offsetRaw else f.offFilt) = _
  split <;> omega

/-- The first sample of an acquisition. -/
theorem step_begins {e : BeaconElement} (hbegins : f.BeginsAcquiring e) :
    (f.step e).1.acq = 1 ∧ (f.step e).1.offFilt = e.offsetRaw ∧
      (f.step e).1.timeBase = some e.timeBase := by
  have hbase : (f.followTimeBase e).timeBase = some e.timeBase := rfl
  have hacq : (f.followTimeBase e).acq = 0 := hbegins
  have hunready : ¬ (f.followTimeBase e).acq ≥ acqSamples := by
    rw [hacq]
    decide
  have hpredicted : f.predicted e = { f.followTimeBase e with lastTsfUs := e.staTsfUs } := by
    unfold predicted predict
    rw [if_neg hunready]
  unfold step
  rw [hpredicted]
  dsimp only
  rw [if_pos (not_le.mp hunready)]
  unfold acquire
  dsimp only
  rw [hacq, if_pos (Or.inl rfl), hbase]
  exact ⟨rfl, rfl, rfl⟩

/-- **The envelope while acquiring is the peak of the samples.** -/
theorem run_acquiring {first : BeaconElement} (hbegins : f.BeginsAcquiring first)
    (rest : List BeaconElement) (hbase : ∀ e ∈ rest, e.timeBase = first.timeBase)
    (hshort : rest.length < acqSamples) :
    (run step f (first :: rest)).acq = rest.length + 1 ∧
      (run step f (first :: rest)).offFilt =
        (rest.map BeaconElement.offsetRaw).foldl max first.offsetRaw ∧
      (run step f (first :: rest)).timeBase = some first.timeBase := by
  induction rest using List.reverseRecOn with
  | nil => exact step_begins hbegins
  | append_singleton rest e ih =>
    rw [List.length_append, List.length_singleton] at hshort
    obtain ⟨hacq, hpeak, htime⟩ :=
      ih (fun x hx => hbase x (List.mem_append_left _ hx)) (by omega)
    have hsame : e.timeBase = first.timeBase := hbase e (by simp)
    rw [← List.cons_append, run_snoc]
    obtain ⟨hnext, hmax, hkept⟩ := step_acquiring (htime.trans (congrArg some hsame.symm))
      (by omega) (by omega)
    refine ⟨?_, ?_, hkept.trans (congrArg some hsame)⟩
    · rw [hnext, hacq, List.length_append, List.length_singleton]
    · rw [hmax, hpeak, List.map_append, List.foldl_append]
      rfl

/-! ## Runs -/

/-- The filter after these elements. -/
def after (elements : List BeaconElement) : BeaconFilter := run step zero elements

/-- **The beacon offset envelope stays bounded.** After any elements: the next one keeps the
    slope, the run of deep samples and the move against the prediction within their bounds,
    and a window that closes holds no error too large for its products. And sixteen samples
    of one time base, from the first of an acquisition, leave the largest of their
    offsets. -/
theorem envelope_bounded (past : List BeaconElement) :
    (∀ e, EnvelopeBounded (after past) e) ∧
    ∀ first rest, (after past).BeginsAcquiring first → rest.length + 1 = acqSamples →
      (∀ e ∈ rest, e.timeBase = first.timeBase) →
      (after (past ++ first :: rest)).acq = acqSamples ∧
      ((first :: rest).map BeaconElement.offsetRaw).max? =
        some (after (past ++ first :: rest)).offFilt := by
  have htracking (es : List BeaconElement) : (after es).Tracking := by
    induction es using List.reverseRecOn with
    | nil => exact tracking_zero
    | append_singleton es e ih =>
      unfold after
      rw [run_snoc]
      exact (ih.step e).1
  refine ⟨fun e => ((htracking past).step e).2, ?_⟩
  intro first rest hbegins hlength hbase
  obtain ⟨hacq, hpeak, -⟩ := run_acquiring hbegins rest hbase (by omega)
  have hrun : after (past ++ first :: rest) = run step (after past) (first :: rest) :=
    run_append _ _ _
  rw [hrun]
  refine ⟨hacq.trans hlength, ?_⟩
  rw [hpeak]
  exact List.max?_cons'

end BeaconFilter

namespace Sample

/-- An element of this offset; all of them have one time base. -/
def beaconElement (offsetRaw : Int) : BeaconElement where
  offsetRaw := offsetRaw
  staTsfUs := 1000000
  info := Vector.replicate 32 0

end Sample

/-- The seventh sample has the smallest gap. -/
theorem BeaconFilter.envelope_bounded_seventh :
    ((Sample.beaconElement (-900) ::
        [-70, -80, -40, -60, -50, -20, -90, -30, -45, -55, -65, -75, -85, -95, -25].map
          Sample.beaconElement).map BeaconElement.offsetRaw).max? =
      some (BeaconFilter.after ([] ++ Sample.beaconElement (-900) ::
        [-70, -80, -40, -60, -50, -20, -90, -30, -45, -55, -65, -75, -85, -95, -25].map
          Sample.beaconElement)).offFilt :=
  ((BeaconFilter.envelope_bounded []).2 (Sample.beaconElement (-900))
    ([-70, -80, -40, -60, -50, -20, -90, -30, -45, -55, -65, -75, -85, -95, -25].map
      Sample.beaconElement) rfl rfl (by decide)).2

end EspPtp
