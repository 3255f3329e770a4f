import EspPtp.Lib.History
import EspPtp.Capable.Receive
import EspPtp.Peer.Core
import EspPtp.Peer.Rate

/-!
# Port 0 under `s_peer_lock`

The timer task sends requests, the daemon task receives the answers, and event handlers
change the link under both. What they share is the part of `struct ptp_port_s` below, and
they share it through critical sections: each section is one event, in whatever order the
tasks enter them.

A Follow_Up takes **two** sections. The first finishes the exchange and copies the rate
out; the measurement is then evaluated outside the lock; the second writes the result back
if the exchange is still the current one. What the handler carries from one to the other is
`PeerHandling`, and the evaluation is a parameter `evaluate` of the machine: results that
do not depend on the numbers measured hold for every `evaluate`, and `evaluateFollowUp` is
the source's own.
-/

namespace EspPtp

open Lib

/-- `ptp_port_medium_e`. -/
inductive PtpPortMedium where
  | ethHwts
  | wifiFtm
  deriving DecidableEq, Inhabited, Repr

/-- `ptp_peer_capability_t`. -/
structure PtpPeerCapability where
  lifecycle : UInt32
  receivedUs : Int
  qualified : Bool
  deriving DecidableEq, Inhabited

/-- `ptp_peer_capable`. -/
def ptpPeerCapable (capability : PtpPeerCapability) (lifecycle : UInt32)
    (nowUs intervalUs : Int) (enabled linkUp gptp : Bool) (domain : UInt8)
    (neighborCapable : Bool) : Bool :=
  enabled && linkUp && gptp && (decide (domain = 0) || neighborCapable) &&
    capability.qualified && decide (capability.lifecycle = lifecycle) &&
    decide (intervalUs > 0) && decide (intervalUs ≤ int64Max.tdiv 3) &&
    decide (nowUs ≥ capability.receivedUs) &&
    decide (nowUs - capability.receivedUs < intervalUs * 3)

/-- The fields of `struct ptp_port_s` that measure the peer. -/
structure PtpPeerPort (F : Type) where
  medium : PtpPortMedium
  enabled : Bool
  linkUp : Bool
  capableReceive : PtpCapableReceive
  peerDelayAvgcount : Nat
  peerDelayNs : Int
  delayreqIntervalMs : Int
  peerExchange : PtpPeerExchange
  peerRate : PtpPeerRate F
  peerCapability : PtpPeerCapability
  deriving Inhabited

variable {F : Type} [CDouble F]

/-- `ptp_wired_capability`. The clock is read once for the capability and once for the
    neighbor's indication. -/
def ptpWiredCapability (cfg : Config) (gptp : Bool) (port : PtpPeerPort F)
    (nowUs neighborUs : Int) : Bool :=
  decide (port.medium = .ethHwts) &&
    ptpPeerCapable port.peerCapability port.peerExchange.lifecycle nowUs
      (port.delayreqIntervalMs * 1000) port.enabled port.linkUp gptp cfg.domain
      (ptpNeighborCapable port.capableReceive port.peerRate.responder
        port.peerExchange.lifecycle neighborUs)

/-! ## The sections -/

/-- `ptp_set_port_link`: an event that changes the link starts a new lifetime. -/
def ptpSetPortLink (port : PtpPeerPort F) (up : Bool) : PtpPeerPort F × Bool :=
  if port.linkUp = up then (port, false)
  else
    ({ port with
        peerExchange := ptpPeerInvalidate port.peerExchange
        capableReceive := { port.capableReceive with valid := false }
        linkUp := up }, true)

/-- The first section of `ptp_send_delay_req`: expire the last request, begin the next. -/
def sendDelayReqBegin (port : PtpPeerPort F) (sequence : UInt16) (request : PtpHeader)
    (nowUs deadlineUs : Int) : PtpPeerPort F × UInt32 :=
  let exchange := (ptpPeerExpire port.peerExchange nowUs).1
  ({ port with peerExchange := (ptpPeerBegin exchange sequence request deadlineUs).1 },
    (ptpPeerBegin exchange sequence request deadlineUs).2)

/-- The last section of `ptp_send_delay_req`: publish the stamp of a request that was sent,
    else cancel it. -/
def sendDelayReqPublish (port : PtpPeerPort F) (sent : Bool) (generation : UInt32)
    (transmit : Timespec) (nowUs : Int) : PtpPeerPort F :=
  let answer :=
    if sent then ptpPeerPublish port.peerExchange generation transmit nowUs
    else (port.peerExchange, false)
  { port with
    peerExchange := if answer.2 then answer.1 else ptpPeerCancel answer.1 generation }

/-- The clearing that follows both calls which can spoil an exchange. -/
def clearQualified (port : PtpPeerPort F) : PtpPeerPort F :=
  if port.peerExchange.multiple then
    { port with peerCapability := { port.peerCapability with qualified := false } }
  else port

/-- The section of `ptp_process_delay_resp`. -/
def delayRespSection (port : PtpPeerPort F) (response : PtpDelayResp) (receive : Timespec)
    (nowUs : Int) : PtpPeerPort F × PeerAdmission :=
  let answer := ptpPeerResponse port.peerExchange response receive nowUs
  (clearQualified { port with peerExchange := answer.1 }, answer.2)

/-- What `ptp_process_delay_resp_follow_up` carries out of its first section. -/
structure PeerHandling (F : Type) where
  measurement : PtpPeerMeasurement
  rate : PtpPeerRate F
  followUp : PtpDelayRespFollowUp

/-- The first section of `ptp_process_delay_resp_follow_up`. -/
def followUpFinish (port : PtpPeerPort F) (followUp : PtpDelayRespFollowUp)
    (expectedGeneration : UInt32) (nowUs : Int) : PtpPeerPort F × Option (PeerHandling F) :=
  if expectedGeneration ≠ 0 ∧ port.peerExchange.generation ≠ expectedGeneration then
    (port, none)
  else
    let answer := ptpPeerFinish port.peerExchange followUp nowUs
    (clearQualified { port with peerExchange := answer.1 },
      answer.2.map fun measurement => ⟨measurement, port.peerRate, followUp⟩)

/-- What the evaluation of a measurement hands to the second section. -/
structure PeerEvaluation (F : Type) where
  rate : PtpPeerRate F
  delayValid : Bool
  roundedDelay : Int

/-- `ptp_process_delay_resp_follow_up` between its sections: `none` is a measurement
    dropped for its range. -/
def evaluateFollowUp (cfg : Config) (handling : PeerHandling F) : Option (PeerEvaluation F) :=
  let measurement := handling.measurement
  let msg := handling.followUp
  let roundtrip := timespecDeltaNs cfg measurement.receive measurement.transmit
  let remoteRxtime := ptpFormatToTimespec measurement.response.receivetimestamp
  let remoteTxtime := ptpFormatToTimespec msg.origintimestamp
  let reflection := timespecDeltaNs cfg remoteTxtime remoteRxtime
  if remoteTxtime.tvSec < remoteRxtime.tvSec ∨ remoteTxtime.tvSec - remoteRxtime.tvSec > 1 ∨
      roundtrip < 0 ∨ roundtrip > 1000000000 ∨ reflection < 0 ∨ reflection > 1000000000 then
    none
  else
    let responseCorrection : F := ptpPeerCorrection measurement.response.header.correction
    let followUpCorrection : F := ptpPeerCorrection msg.header.correction
    let updated := ptpPeerRateUpdate handling.rate measurement.lifecycle msg.header.sourcePort
      remoteTxtime followUpCorrection measurement.receive
    let delay :=
      if updated.2 then
        (ptpPeerDelayLocal updated.1.ratio roundtrip reflection responseCorrection
          followUpCorrection).filter (CDouble.lt · (CDouble.ofInt cfg.maxPeerDelayNs))
      else none
    some
      { rate := updated.1
        delayValid := delay.isSome
        roundedDelay := delay.elim 0 CDouble.llround }

/-- Whether the second section of `ptp_process_delay_resp_follow_up` writes anything. -/
def commitCurrent (port : PtpPeerPort F) (measurement : PtpPeerMeasurement) : Bool :=
  decide (port.peerExchange.generation = measurement.generation) &&
    decide (port.peerExchange.lifecycle = measurement.lifecycle) &&
    !port.peerExchange.multiple

/-- The delay average of a commit. -/
def commitDelay (cfg : Config) (port : PtpPeerPort F) (evaluation : PeerEvaluation F) :
    PtpPeerPort F :=
  let port :=
    if port.peerRate.lifecycle ≠ evaluation.rate.lifecycle ∨
        port.peerRate.responder ≠ evaluation.rate.responder then
      { port with peerDelayAvgcount := 0, peerDelayNs := 0 }
    else port
  if evaluation.delayValid then
    let port :=
      if port.peerDelayAvgcount < cfg.delayreqAvgcount then
        { port with peerDelayAvgcount := port.peerDelayAvgcount + 1 }
      else port
    { port with
      peerDelayNs := port.peerDelayNs +
        (evaluation.roundedDelay - port.peerDelayNs).tdiv port.peerDelayAvgcount }
  else port

/-- `qualified` of the capability a commit stores. -/
def commitQualified (ownClock : ClockIdentity) (peerDelayNs : Int) (handling : PeerHandling F)
    (evaluation : PeerEvaluation F) : Bool :=
  evaluation.delayValid && decide (peerDelayNs ≤ 800) &&
    decide (handling.measurement.response.header.messagetype = 0x13) &&
    decide (handling.measurement.response.header.reserved1 = 0) &&
    decide (handling.followUp.header.messagetype = 0x1a) &&
    decide (handling.followUp.header.reserved1 = 0) &&
    decide (handling.followUp.header.sourceidentity ≠ ownClock)

/-- The second section of `ptp_process_delay_resp_follow_up`. -/
def followUpCommit (cfg : Config) (ownClock : ClockIdentity) (port : PtpPeerPort F)
    (handling : PeerHandling F) (evaluation : PeerEvaluation F) (nowUs : Int) :
    PtpPeerPort F × Bool :=
  if commitCurrent port handling.measurement then
    let port := commitDelay cfg port evaluation
    ({ port with
        peerRate := evaluation.rate
        peerCapability :=
          { lifecycle := handling.measurement.lifecycle
            receivedUs := nowUs
            qualified := commitQualified ownClock port.peerDelayNs handling evaluation } },
      true)
  else (port, false)

/-- The section of `ptp_clean_after_step`. -/
def ptpCleanAfterStep (port : PtpPeerPort F) : PtpPeerPort F :=
  { port with
    peerExchange := ptpPeerAbandon port.peerExchange
    peerRate := { port.peerRate with reanchor := true } }

end EspPtp
