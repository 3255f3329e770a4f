import EspPtp.Lib.Counter
import EspPtp.Config

/-!
# Interval requests of associated stations (`ptp_sync_interval.h`, `ptp_announce_schedule.h`)

What a station may ask of the access point's transmissions to it: to stop or resume Sync, and
the Announce rate. Both are published to the radio under a revision that moves with every
change, and Announce transmissions in flight are named by tokens as capability messages are.
-/

namespace EspPtp

open Lib

/-- The pair `sync_stopped`, `sync_revision`. -/
structure PtpSyncInterval where
  stopped : Bool
  revision : UInt32
  deriving DecidableEq, Inhabited

/-- `ptp_sync_interval_reset`. -/
def ptpSyncIntervalReset (state : PtpSyncInterval) : PtpSyncInterval where
  stopped := false
  revision := nextNonzero state.revision

/-- `ptp_sync_interval_request`. -/
def ptpSyncIntervalRequest (state : PtpSyncInterval) (requested : Int) :
    PtpSyncInterval × Bool :=
  let change (next : Bool) : PtpSyncInterval × Bool :=
    if next ≠ state.stopped then
      ({ stopped := next, revision := nextNonzero state.revision }, true)
    else (state, true)
  if requested = -128 then (state, true)
  else if requested = -3 ∨ requested = 126 then change false
  else if requested = 127 then change true
  else (state, false)

/-- `ptp_announce_schedule_t`. -/
structure PtpAnnounceSchedule where
  initialized : Bool
  active : Bool
  initialLog : Int
  logInterval : Int
  pendingLog : Int
  slowdownRemaining : Nat
  sequence : UInt16
  revision : UInt32
  serial : UInt32
  pending : UInt32
  informationRevision : UInt32
  oldPeriodUs : Int
  nextUs : Int
  queuedUs : Int
  deriving DecidableEq, Inhabited

/-- `ptp_announce_reset`. -/
def ptpAnnounceReset (state : PtpAnnounceSchedule) : PtpAnnounceSchedule :=
  { (default : PtpAnnounceSchedule) with
    revision := nextNonzero state.revision
    serial := state.serial
    sequence := state.sequence }

/-- `ptp_announce_period_us`. -/
def ptpAnnouncePeriodUs (logarithm : Int) : Int :=
  if logarithm < -24 ∨ logarithm > 24 then 0
  else if logarithm ≥ 0 then 1000000 * 2 ^ logarithm.toNat
  else
    let divisor : Int := 2 ^ (-logarithm).toNat
    (1000000 + divisor - 1) / divisor

/-- `ptp_announce_initialize`. -/
def ptpAnnounceInitialize (state : PtpAnnounceSchedule) (initial : Int) :
    PtpAnnounceSchedule × Bool :=
  if ptpAnnouncePeriodUs initial = 0 then (state, false)
  else if state.initialized then (state, decide (state.initialLog = initial))
  else
    ({ state with initialized := true, initialLog := initial, logInterval := initial }, true)

/-- `ptp_announce_effective_period`. -/
def ptpAnnounceEffectivePeriod (state : PtpAnnounceSchedule) : Int :=
  if state.logInterval = 127 then 0
  else if state.slowdownRemaining ≠ 0 then state.oldPeriodUs
  else ptpAnnouncePeriodUs state.logInterval

/-- `ptp_announce_request`. -/
def ptpAnnounceRequest (state : PtpAnnounceSchedule) (initial request : Int) :
    PtpAnnounceSchedule × Bool :=
  if request ≠ -128 ∧ request ≠ 126 ∧ request ≠ 127 ∧ (request < -24 ∨ request > 24) then
    (state, false)
  else
    let answer := ptpAnnounceInitialize state initial
    let state := answer.1
    if !answer.2 then (state, false)
    else if request = -128 then (state, true)
    else
      let request := if request = 126 then initial else request
      let request := if request ≠ 127 ∧ request < initial then initial else request
      if request = state.logInterval then (state, true)
      else
        let previous := ptpAnnounceEffectivePeriod state
        let next := ptpAnnouncePeriodUs request
        ({ state with
            logInterval := request
            oldPeriodUs := previous
            slowdownRemaining := if previous ≠ 0 ∧ next > previous then 3 else 0
            pending := 0
            active := false
            revision := nextNonzero state.revision }, true)

/-- `ptp_announce_begin`. The answer is the token with the advertised interval and the
    sequence number; `none` is the token zero. -/
def ptpAnnounceBegin (state : PtpAnnounceSchedule) (initial : Int)
    (expectedRevision informationRevision : UInt32) (nowUs : Int) :
    PtpAnnounceSchedule × Option (UInt32 × Int × UInt16) :=
  if state.revision ≠ expectedRevision then (state, none)
  else
    let answer := ptpAnnounceInitialize state initial
    let state := answer.1
    if !answer.2 then (state, none)
    else
      let period := ptpAnnounceEffectivePeriod state
      if period = 0 ∨ nowUs < 0 ∨ nowUs > int64Max - period then (state, none)
      else
        let state :=
          if state.informationRevision ≠ informationRevision then
            { state with
              informationRevision := informationRevision, pending := 0, active := false }
          else state
        if state.pending ≠ 0 ∧
            (nowUs < state.queuedUs ∨ nowUs - state.queuedUs < 1000000) then (state, none)
        else
          let state := { state with pending := 0 }
          if state.active ∧ nowUs < state.nextUs then (state, none)
          else
            let nextUs :=
              if !state.active ∨ nowUs - state.nextUs ≥ period then nowUs + period
              else state.nextUs + period
            let serial := nextNonzero state.serial
            let sequence := state.sequence + 1
            ({ state with
                nextUs := nextUs
                active := true
                queuedUs := nowUs
                serial := serial
                pending := serial
                pendingLog := state.logInterval
                sequence := sequence }, some (serial, state.logInterval, sequence))

/-- `ptp_announce_finish`. -/
def ptpAnnounceFinish (state : PtpAnnounceSchedule) (token : UInt32) (accepted : Bool)
    (nowUs : Int) : PtpAnnounceSchedule × Bool :=
  if token = 0 ∨ token ≠ state.pending then (state, false)
  else
    let state := { state with pending := 0 }
    if nowUs < state.queuedUs ∨ nowUs - state.queuedUs ≥ 1000000 then (state, false)
    else if accepted ∧ state.pendingLog = state.logInterval ∧ state.slowdownRemaining ≠ 0 then
      let state := { state with slowdownRemaining := state.slowdownRemaining - 1 }
      let period := ptpAnnouncePeriodUs state.logInterval
      if state.slowdownRemaining = 0 ∧ nowUs ≤ int64Max - period then
        ({ state with nextUs := nowUs + period }, true)
      else (state, true)
    else (state, true)

end EspPtp
