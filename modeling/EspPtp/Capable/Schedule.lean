import EspPtp.Lib.Counter
import EspPtp.Config

/-!
# Sending gPTP-capable indications (`ptp_capable_interval.h`, `ptp_capable_schedule.h`)

The interval a neighbor asked for, and the schedule of one outstanding transmission. Work in
flight is named by a token, the serial number of its begin; a request that replaces the
interval forgets the token, so that a late completion cannot count for it.

An `int8_t` is an integer here, and a `uint8_t` count of slowdown messages a natural number
that only ever counts down from nine.
-/

namespace EspPtp

open Lib

/-- `ptp_capable_interval_t`. -/
structure PtpCapableInterval where
  logInterval : Int
  slowdownRemaining : Nat
  oldIntervalUs : Int
  deriving DecidableEq, Inhabited

/-- `ptp_capable_interval_us`. -/
def ptpCapableIntervalUs (logarithm : Int) : Int :=
  if logarithm < -3 ∨ logarithm > 24 then 0
  else if logarithm < 0 then 1000000 / 2 ^ (-logarithm).toNat
  else 1000000 * 2 ^ logarithm.toNat

/-- `ptp_capable_interval_period`. -/
def ptpCapableIntervalPeriod (state : PtpCapableInterval) : Int :=
  if state.logInterval = 127 then 0
  else if state.slowdownRemaining ≠ 0 then state.oldIntervalUs
  else ptpCapableIntervalUs state.logInterval

/-- `ptp_capable_interval_request`. -/
def ptpCapableIntervalRequest (state : PtpCapableInterval) (request : Int) :
    PtpCapableInterval × Bool :=
  if request = -128 then (state, true)
  else
    let request := if request = 126 then 0 else request
    let request := if request ≥ -24 ∧ request < -3 then -3 else request
    if request ≠ 127 ∧ ptpCapableIntervalUs request = 0 then (state, false)
    else if request = state.logInterval then (state, true)
    else
      let previous := ptpCapableIntervalPeriod state
      let next := ptpCapableIntervalUs request
      ({ logInterval := request
         slowdownRemaining := if previous ≠ 0 ∧ next > previous then 9 else 0
         oldIntervalUs := previous }, true)

/-- `ptp_capable_interval_sent`. -/
def ptpCapableIntervalSent (state : PtpCapableInterval) (advertisedInterval : Int)
    (accepted : Bool) : PtpCapableInterval :=
  if accepted ∧ state.logInterval = advertisedInterval ∧ state.slowdownRemaining ≠ 0 then
    { state with slowdownRemaining := state.slowdownRemaining - 1 }
  else state

/-- `ptp_capable_schedule_t`. -/
structure PtpCapableSchedule where
  interval : PtpCapableInterval
  nextUs : Int
  queuedUs : Int
  serial : UInt32
  pending : UInt32
  sequence : UInt16
  advertisedInterval : Int
  active : Bool
  deriving DecidableEq, Inhabited

/-- `memset` of a schedule, but for its serial number. -/
def PtpCapableSchedule.restarted (schedule : PtpCapableSchedule) : PtpCapableSchedule :=
  { (default : PtpCapableSchedule) with serial := schedule.serial }

/-- `ptp_capable_schedule_request`. -/
def ptpCapableScheduleRequest (state : PtpCapableSchedule) (request : Int) :
    PtpCapableSchedule × Bool :=
  let answer := ptpCapableIntervalRequest state.interval request
  if !answer.2 then ({ state with interval := answer.1 }, false)
  else if answer.1.logInterval ≠ state.interval.logInterval then
    ({ state with interval := answer.1, pending := 0, active := false }, true)
  else ({ state with interval := answer.1 }, true)

/-- `ptp_capable_schedule_begin`. The answer is the token, zero when nothing is due. -/
def ptpCapableScheduleBegin (state : PtpCapableSchedule) (enabled : Bool) (nowUs : Int) :
    PtpCapableSchedule × UInt32 :=
  if !enabled then ({ state with pending := 0, active := false }, 0)
  else
    let period := ptpCapableIntervalPeriod state.interval
    if period = 0 ∨ nowUs < 0 ∨ nowUs > int64Max - period then (state, 0)
    else if state.pending ≠ 0 ∧
        (nowUs < state.queuedUs ∨ nowUs - state.queuedUs < 1000000) then (state, 0)
    else
      let state := { state with pending := 0 }
      if state.active ∧ nowUs < state.nextUs then (state, 0)
      else
        let nextUs :=
          if !state.active ∨ nowUs - state.nextUs ≥ period then nowUs + period
          else state.nextUs + period
        let serial := nextNonzero state.serial
        ({ state with
            nextUs := nextUs
            queuedUs := nowUs
            active := true
            serial := serial
            pending := serial
            advertisedInterval := state.interval.logInterval
            sequence := state.sequence + 1 }, serial)

/-- `ptp_capable_schedule_finish`. -/
def ptpCapableScheduleFinish (state : PtpCapableSchedule) (token : UInt32) (accepted : Bool)
    (nowUs : Int) : PtpCapableSchedule × Bool :=
  if token = 0 ∨ state.pending ≠ token then (state, false)
  else
    let state := { state with pending := 0 }
    if nowUs < state.queuedUs ∨ nowUs - state.queuedUs ≥ 1000000 then (state, false)
    else
      let previous := ptpCapableIntervalPeriod state.interval
      let interval :=
        ptpCapableIntervalSent state.interval state.advertisedInterval accepted
      let period := ptpCapableIntervalPeriod interval
      let state := { state with interval := interval }
      if period ≠ previous ∧ nowUs ≤ int64Max - period then
        ({ state with nextUs := nowUs + period }, true)
      else (state, true)

/-- `ptp_capable_schedule_wait_ms`: how long the daemon sleeps at most, rounded up. -/
def ptpCapableScheduleWaitMs (state : PtpCapableSchedule) (nowUs maximumMs : Int) : Int :=
  if maximumMs ≤ 0 ∨ nowUs < 0 ∨ ptpCapableIntervalPeriod state.interval = 0 then maximumMs
  else
    let delay := if state.active ∧ state.nextUs > nowUs then state.nextUs - nowUs else 0
    let delay :=
      if state.pending ≠ 0 ∧ delay = 0 ∧ nowUs ≥ state.queuedUs ∧
          nowUs - state.queuedUs < 1000000 then 10000
      else delay
    let milliseconds := delay.tdiv 1000 + if delay.tmod 1000 ≠ 0 then 1 else 0
    if milliseconds < maximumMs then milliseconds else maximumMs

end EspPtp
