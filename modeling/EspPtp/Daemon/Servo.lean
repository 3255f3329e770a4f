import EspPtp.Clock.WiredPi
import EspPtp.Daemon.State

/-!
# The servo (`ptp_update_local_clock`)

A remote time and the local time it was received at become an adjustment of the local
clock: a jump where they are far apart, otherwise a trim of its rate. The clock itself is
outside; what it answers is `ClockAnswers`.
-/

namespace EspPtp

open Lib

/-- What `ptp_gettime`, `ptp_settime` and the rate adjustment answer. -/
structure ClockAnswers where
  now : Timespec
  settimeOk : Bool
  adjtimeOk : Bool
  deriving DecidableEq, Inhabited

/-- Assignment to an `int32_t`. -/
def toInt32 (x : Int) : Int := (Int32.ofInt x).toInt

/-- `ADJ_FREQ_MAX`. -/
def adjFreqMax : Int := 512000

/-- `PTP_FREQ_STABLE_WIN` and `PTP_FREQ_STABLE_PPB`. -/
def ptpFreqStableWin : Nat := 6
def ptpFreqStablePpb : Int := 12000

variable {F : Type} [CDouble F] {n : Nat}

/-- The offset of the source, delay and correction included: the first lines of both
    functions below. -/
def sourceOffsetNs (cfg : Config) (s : PtpState F n) (remote localTime : Timespec) : Int :=
  let offset := timespecDeltaNs cfg remote localTime
  if s.isGptp then
    CDouble.trunc
      (CDouble.ofInt offset + (CDouble.ofInt s.port0.peerDelayNs + s.correctionNs) : F)
  else offset + (s.port0.pathDelayNs + s.delayAsymmetryNs)

/-- The controller: `drift_acc`, the integral, and the trim it asks for. -/
def servoTarget (cfg : Config) (s : PtpServo F) (offsetNs localDeltaNs : Int) :
    Int × Int × Int :=
  if cfg.useSwClock then
    let driftAcc := clampTo adjFreqMax (toInt32 (s.driftAcc + offsetNs.tdiv 8000))
    (driftAcc, s.wiredIntegralQ16, clampTo adjFreqMax (offsetNs.tdiv 2000 + driftAcc))
  else
    let intervalNs :=
      if s.localTimeNsPrev ≠ 0 ∧ localDeltaNs > 0 then localDeltaNs
      else cfg.syncIntervalMs * 1000000
    let step := ptpWiredPiStep s.wiredIntegralQ16 offsetNs intervalNs
    (toInt32 (step.1.tdiv 65536), step.1, step.2)

/-- Whether the observation finds the clock stable; `ring` is the drift ring with it. -/
def withinStability (cfg : Config) (gptp : Bool) (ring : List Int) (offsetNs lastOffsetNs : Int) :
    Bool :=
  if cfg.useSwClock then
    match ring with
    | [] => false
    | first :: rest =>
      decide (ring.length ≥ ptpFreqStableWin) &&
        decide (rest.foldl max first - rest.foldl min first < ptpFreqStablePpb)
  else
    let diff : Int := (offsetNs.natAbs : Int) - lastOffsetNs.natAbs
    decide ((diff.natAbs : Int) <
      if gptp then cfg.peerDelayStabilityNs else cfg.pathDelayStabilityNs)

/-- `ptp_lock_local_clock_freq`. -/
def ptpLockLocalClockFreq (cfg : Config) (s : PtpState F n) (remote localTime : Timespec)
    (clock : ClockAnswers) : PtpState F n :=
  let offsetNs := sourceOffsetNs cfg s remote localTime
  let (driftAcc, integral, target) :=
    servoTarget cfg s.toPtpServo offsetNs (timespecToNs localTime - s.localTimeNsPrev)
  let saved := s.wiredIntegralQ16
  let ring :=
    if cfg.useSwClock then (driftAcc :: s.driftRing).take ptpFreqStableWin else s.driftRing
  let stable := withinStability cfg s.isGptp ring offsetNs s.lastOffsetNs
  let count := if stable then (if s.stableCount ≤ 3 then s.stableCount + 1 else s.stableCount) else 0
  -- A trim the hardware refuses leaves the integral as it was.
  let refused := !cfg.useSwClock && !clock.adjtimeOk
  let s :=
    { s with
      driftAcc := if refused then toInt32 (saved.tdiv 65536) else driftAcc
      wiredIntegralQ16 := if refused then saved else integral
      freqTrimPpb := if clock.adjtimeOk then toInt32 target else s.freqTrimPpb
      remoteTimeNsPrev := timespecToNs remote
      localTimeNsPrev := timespecToNs localTime
      driftRing := ring
      stableCount := count
      lastOffsetNs := offsetNs }
  if count > 3 then s.withPort0 { s.port0 with canSendDelayreq := true } else s

/-- `ptp_clean_after_step`. -/
def PtpState.cleanAfterStep (s : PtpState F n) : PtpState F n :=
  let s := s.withPort0
    { s.port0 with toPtpPeerPort := ptpCleanAfterStep s.port0.toPtpPeerPort }
  { s.invalidateTiming with
    remoteTimeNsPrev := 0
    localTimeNsPrev := 0
    driftAcc := 0
    wiredIntegralQ16 := s.freqTrimPpb * 65536
    lastOffsetNs := 0 }

/-- `ptp_update_local_clock`, and whether it returned `OK`. -/
def ptpUpdateLocalClock (cfg : Config) (s : PtpState F n) (remote localTime : Timespec)
    (clock : ClockAnswers) : PtpState F n × Bool :=
  let deltaNs := sourceOffsetNs cfg s remote localTime
  let jumps := decide ((deltaNs.natAbs : Int) > cfg.settimeThresholdMs * 1000000)
  let s :=
    if jumps then
      let newTime := timespecAdd (timespecSub clock.now localTime) remote
      let s :=
        { s with
          clockStepsNs :=
            if clock.settimeOk then s.clockStepsNs + timespecDeltaNs cfg remote localTime
            else s.clockStepsNs
          lastDeltaTimestamp := newTime
          lastDeltaNs := 0
          lastAdjtimeNs := 0
          driftAvgTotalMs := 0
          driftPpb := 0 }
      s.cleanAfterStep
    else ptpLockLocalClockFreq cfg s remote localTime clock
  ({ s with clockUpdates := s.clockUpdates + 1 }, !jumps || clock.settimeOk)

/-- The two times a call of `ptp_update_local_clock` is made with. -/
structure ClockCall where
  remote : Timespec
  localTime : Timespec
  deriving DecidableEq, Inhabited

end EspPtp
