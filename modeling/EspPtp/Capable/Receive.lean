import EspPtp.Config

/-!
# Receipt of gPTP-capable indications (`ptp_capable_receive.h`)

A neighbor says every so often that it is gPTP capable, and how often it will say so; the
indication counts for nine of these intervals.
-/

namespace EspPtp

/-- `ptp_capable_message_t` of `ptp_signaling.h`. -/
structure PtpCapableMessage where
  sourcePort : PortIdentity
  /-- An `int8_t`. -/
  logInterval : Int
  deriving DecidableEq, Inhabited, Repr

/-- `ptp_capable_receive_t`. -/
structure PtpCapableReceive where
  message : PtpCapableMessage
  lifecycle : UInt32
  receivedUs : Int
  expiresUs : Int
  valid : Bool
  deriving DecidableEq, Inhabited

/-- Nine advertised intervals in microseconds, rounded up. -/
def capableTimeoutUs (logInterval : Int) : Int :=
  if logInterval ≥ 0 then 9000000 * 2 ^ logInterval.toNat
  else
    let divisor : Int := 2 ^ (-logInterval).toNat
    (9000000 + divisor - 1) / divisor

/-- `ptp_capable_receive`: the record and whether the indication was bound. -/
def ptpCapableReceive (state : PtpCapableReceive) (message : PtpCapableMessage)
    (neighbor : PortIdentity) (lifecycle : UInt32) (nowUs : Int) : PtpCapableReceive × Bool :=
  if message.sourcePort ≠ neighbor ∨ message.logInterval < -24 ∨ message.logInterval > 24 ∨
      nowUs < 0 then (state, false)
  else
    let interval := capableTimeoutUs message.logInterval
    if nowUs > int64Max - interval then (state, false)
    else
      ({ message := message
         lifecycle := lifecycle
         receivedUs := nowUs
         expiresUs := nowUs + interval
         valid := true }, true)

/-- `ptp_neighbor_capable`. -/
def ptpNeighborCapable (state : PtpCapableReceive) (neighbor : PortIdentity)
    (lifecycle : UInt32) (nowUs : Int) : Bool :=
  state.valid && decide (state.lifecycle = lifecycle) &&
    decide (state.message.sourcePort = neighbor) && decide (nowUs ≥ state.receivedUs) &&
    decide (nowUs < state.expiresUs)

end EspPtp
