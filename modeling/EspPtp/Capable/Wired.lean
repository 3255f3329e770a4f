import EspPtp.Capable.Receive
import EspPtp.Capable.Schedule

/-!
# The interval of the wired neighbor (`ptp_wired_capable.h`)
-/

namespace EspPtp

/-- `ptp_wired_capable_t`. -/
structure PtpWiredCapable where
  transmit : PtpCapableSchedule
  lifecycle : UInt32
  identity : PortIdentity
  bound : Bool
  deriving DecidableEq, Inhabited

/-- `ptp_wired_capable_bind`. -/
def ptpWiredCapableBind (state : PtpWiredCapable) (lifecycle : UInt32)
    (identity : Option PortIdentity) : PtpWiredCapable :=
  let state :=
    if state.lifecycle ≠ lifecycle ∨
        (state.bound = true ∧ ∃ other ∈ identity, state.identity ≠ other) then
      { (default : PtpWiredCapable) with
        transmit := state.transmit.restarted
        lifecycle := lifecycle }
    else state
  match identity with
  | none => state
  | some identity => { state with identity := identity, bound := true }

/-- `ptp_wired_capable_request`. -/
def ptpWiredCapableRequest (state : PtpWiredCapable) (lifecycle : UInt32)
    (request : PtpCapableMessage) : PtpWiredCapable × Bool :=
  if state.bound ∧ state.lifecycle = lifecycle ∧ state.identity = request.sourcePort then
    let answer := ptpCapableScheduleRequest state.transmit request.logInterval
    ({ state with transmit := answer.1 }, answer.2)
  else (state, false)

end EspPtp
