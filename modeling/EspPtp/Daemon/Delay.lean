import EspPtp.Daemon.State
import EspPtp.Wire.LiteTlv

/-!
# Delay requests and their answers

`ptp_process_delay_req` answers, as the timetransmitter of the standard profile or as the
peer of gPTP; `ptp_process_delay_resp` and `ptp_process_delay_resp_follow_up` take the
answers to this clock's own requests. All three work on port 0, whose socket is the only
one there is; what leaves through it is a `PtpFrame`.
-/

namespace EspPtp

open Lib

/-- A message that went out, before the last touches of `ptp_net_send_to`, and the station
    it went to if not to the profile's multicast address. -/
structure PtpFrame where
  message : Bytes
  unicastTo : Option MacAddr
  deriving DecidableEq

variable {F : Type} [CDouble F] {n : Nat}

/-! ## Answering a request -/

/-- `ptp_sends_endpoint_decl`. -/
def PtpState.sendsEndpointDecl (cfg : Config) (s : PtpState F n) : Bool :=
  cfg.avbLiteEndpoint && decide (s.port0.type ≠ .bridged) && decide (s.port0.medium = .ethHwts)

/-- What the sends of `ptp_process_delay_req` answer: the transmit time of the response,
    `none` for a failure, and whether the follow-up went out. -/
structure DelayReqAnswers where
  response : Option Timespec
  followUp : Bool
  mono : Timespec
  deriving DecidableEq, Inhabited

/-- The reply goes back to the station that asked. -/
def unicastReply (s : PtpState F n) : Bool :=
  !s.isGptp && s.port0.rxDestMacValid && decide (macOctet0 s.port0.rxDestMac &&& 1 = 0) &&
    s.port0.rxSourceMacValid

/-- The header of the response. -/
def delayRespHeader (cfg : Config) (s : PtpState F n) (req : PtpDelayReq) : PtpHeader :=
  let own := s.ownIdentity.header
  if s.isGptp then
    { own with
      messagetype := 0x13
      flags := octets 2 8
      controlfield := 5
      sequenceid := req.header.sequenceid
      logmessageinterval := cfg.pdelayRespLogInterval }
  else
    { own with
      messagetype := 0x09
      flags := if unicastReply s then octets (octet0 own.flags ||| 4) (octet1 own.flags) else own.flags
      sequenceid := req.header.sequenceid
      logmessageinterval := cfg.delayRespLogInterval }

/-- A response, or its follow-up: the header, a time, who asked, and the declaration. -/
def delayRespMessage (cfg : Config) (s : PtpState F n) (header : PtpHeader)
    (timestamp : Timespec) (req : PtpDelayReq) : Bytes :=
  let tlv := if s.isGptp && s.sendsEndpointDecl cfg then endpointDeclTlv else []
  (ptpSetMessageLength header (54 + tlv.length)).write ++
    (timespecToPtpFormat cfg timestamp).toList ++ req.header.sourceidentity.toList ++
    req.header.sourceportindex.toList ++ tlv

/-- `ptp_process_delay_req`. -/
def ptpProcessDelayReq (cfg : Config) (s : PtpState F n) (req : PtpDelayReq)
    (answers : DelayReqAnswers) : PtpState F n × List PtpFrame :=
  if !s.isGptp && s.selectedSourceValid then (s, [])
  else
    let header := delayRespHeader cfg s req
    let response : PtpFrame :=
      { message := delayRespMessage cfg s header s.port0.rxtime req
        unicastTo := if unicastReply s then some s.port0.rxSourceMac else none }
    match answers.response with
    | none => (s, [])
    | some transmitted =>
      let followUp : PtpFrame :=
        { message :=
            delayRespMessage cfg s { header with messagetype := 0x1a, flags := octets 0 8 }
              transmitted req
          unicastTo := none }
      (s.withPort0 { s.port0 with lastTransmittedDelayresp := answers.mono },
        response :: if s.isGptp && answers.followUp then [followUp] else [])

/-! ## The answers to our requests -/

/-- `rand_delayreq_interval` on what `random` returned. -/
def randDelayreqInterval (F : Type) [CDouble F] (meanMs : Int) (raw : Nat) : Int :=
  let normalized : F := CDouble.ofInt raw / CDouble.ofInt 2147483647
  CDouble.trunc (CDouble.ofInt meanMs * ((0.8 : F) + normalized * (0.45 : F)))

/-- `log_period_to_msec` for the logarithms the source admits. -/
def logPeriodToMsec (logPeriod : Int) : Int :=
  if logPeriod ≥ 0 then 1000 * 2 ^ logPeriod.toNat else 1000 / 2 ^ (-logPeriod).toNat

/-- A Delay_Resp of the standard profile that answers the latest Delay_Req. -/
def delayRespExpected (s : PtpState F n) (msg : PtpDelayResp) : Bool :=
  s.selectedSourceValid &&
    decide (msg.header.sourceidentity = s.selectedSource.header.sourceidentity) &&
    decide (msg.reqidentity = s.ownIdentity.header.sourceidentity) &&
    decide (msg.reqportindex = s.ownIdentity.header.sourceportindex) &&
    decide (ptpGetSequence msg.header = s.delayReqSeq)

/-- The path delay a Delay_Resp measures. -/
def measuredPathDelay (cfg : Config) (s : PtpState F n) (msg : PtpDelayResp) : Int :=
  (timespecDeltaNs cfg (ptpFormatToTimespec msg.receivetimestamp) s.port0.delayreqTime +
    (s.port0.pathDelayNs + s.delayAsymmetryNs - s.lastDeltaNs)).tdiv 2

/-- The average of the path delay. -/
def pathDelayAveraged (cfg : Config) (port : PtpPort F) (pathDelay : Int) : PtpPort F :=
  if 0 ≤ pathDelay ∧ pathDelay < cfg.maxPathDelayNs then
    let count :=
      if port.pathDelayAvgcount < cfg.delayreqAvgcount then port.pathDelayAvgcount + 1
      else port.pathDelayAvgcount
    { port with
      pathDelayAvgcount := count
      pathDelayNs := port.pathDelayNs + (pathDelay - port.pathDelayNs).tdiv count }
  else port

/-- What `ptp_process_delay_resp` reads from outside. -/
structure DelayRespAnswers where
  nowUs : Int
  random : Nat
  deriving DecidableEq, Inhabited

/-- `ptp_process_delay_resp` in the gPTP profile. -/
def delayRespGptp (s : PtpState F n) (msg : PtpDelayResp) (nowUs : Int) : PtpState F n :=
  let port := s.port0
  let answer := delayRespSection port.toPtpPeerPort msg port.rxtime nowUs
  let port := { port with toPtpPeerPort := answer.1 }
  match answer.2 with
  | .multiple => s.withPort0 { port with pdelayMultiResponder := true }
  | .accepted => s.withPort0 { port with nextDelayreqIntervalMs := port.delayreqIntervalMs }
  | _ => s.withPort0 port

/-- `ptp_process_delay_resp` in the standard profile. -/
def delayRespStandard (cfg : Config) (s : PtpState F n) (msg : PtpDelayResp) (random : Nat) :
    PtpState F n :=
  if !delayRespExpected s msg then s
  else
    let port := pathDelayAveraged cfg s.port0 (measuredPathDelay cfg s msg)
    let logmsg := msg.header.logmessageinterval.toInt8.toInt
    let intervalMs :=
      if logmsg ≥ -8 ∧ logmsg ≤ 8 then logPeriodToMsec logmsg else port.delayreqIntervalMs
    let s :=
      { s with
        unicastDelayReqOutstanding := false
        unicastDelayReqMisses := 0 }
    s.withPort0
      { port with
        delayreqIntervalMs := intervalMs
        nextDelayreqIntervalMs := randDelayreqInterval F intervalMs random }

/-- `ptp_process_delay_resp`. -/
def ptpProcessDelayResp (cfg : Config) (s : PtpState F n) (msg : PtpDelayResp)
    (answers : DelayRespAnswers) : PtpState F n :=
  if s.isGptp then delayRespGptp s msg answers.nowUs
  else delayRespStandard cfg s msg answers.random

/-- The times `ptp_process_delay_resp_follow_up` reads. -/
structure FollowUpUs where
  finishUs : Int
  commitUs : Int
  deriving DecidableEq, Inhabited

/-- `ptp_process_delay_resp_follow_up`, with nobody else between its two sections. -/
def ptpProcessDelayRespFollowUp (cfg : Config) (s : PtpState F n) (msg : PtpDelayRespFollowUp)
    (expectedGeneration : UInt32) (times : FollowUpUs) : PtpState F n :=
  if !s.isGptp then s
  else
    let finished := followUpFinish s.port0.toPtpPeerPort msg expectedGeneration times.finishUs
    let s := s.withPort0 { s.port0 with toPtpPeerPort := finished.1 }
    match finished.2 with
    | none => s
    | some handling =>
      match evaluateFollowUp cfg handling with
      | none => s
      | some evaluation =>
        let committed := followUpCommit cfg s.ownIdentity.header.sourceidentity
          s.port0.toPtpPeerPort handling evaluation times.commitUs
        s.withPort0 { s.port0 with toPtpPeerPort := committed.1 }

end EspPtp
