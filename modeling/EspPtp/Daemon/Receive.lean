import EspPtp.Daemon.Delay
import EspPtp.Daemon.Signaling
import EspPtp.Daemon.Sync

/-!
# Every received frame (`ptp_process_rx_packet`)

One function for all ports, on the receive buffer of port 0. First the checks every frame
has to pass, then who sent it, then the handler of its type. Which handlers are for port 0
only is decided branch by branch.

The whole function is one step here: nobody else runs between its critical sections. What
the sections do when somebody does is `Radio`'s subject.
-/

namespace EspPtp

open Lib

/-- What the handlers of a frame read from outside. -/
structure RxReadings where
  mono : Timespec
  capability : CapabilityTimes
  announce : AnnounceTimes
  sync : SyncTimes
  followup : FollowupTimes
  delayReq : DelayReqAnswers
  delayResp : DelayRespAnswers
  pdelayFollowUp : FollowUpUs
  indicationUs : Int
  indicationMono : Timespec
  deriving DecidableEq, Inhabited

variable {F : Type} [CDouble F] {n : Nat}

/-- `CONFIG_ESP_PTP_NUM_PORTS` and this clock's identity. -/
def PtpState.numbering (s : PtpState F n) : PortNumbering :=
  ⟨n + 1, s.ownIdentity.header.sourceidentity⟩

/-! ## Signaling -/

/-- A section on the ingress port for a request, if the message carries it. -/
def PtpState.onRequest {α : Type} (s : PtpState F n) (ingress : Fin (n + 1))
    (request : PtpSignaling α) (act : PtpPort F → α → PtpPort F) : PtpState F n :=
  match request with
  | .decoded value => s.withPort ingress (act (s.ports ingress) value)
  | _ => s

/-- `case PTP_MSGTYPE_SIGNALING`. -/
def rxSignaling (cfg : Config) (s : PtpState F n) (length : Nat) (ingress : Fin (n + 1))
    (reads : RxReadings) : PtpState F n :=
  let message := s.port0.rxbuf
  let sender := s.port0.sender
  let association := s.port0.rxAssociation
  let requests := do
    let localPort ←
      signalingLocalPort s.numbering ingress (s.ports ingress) sender association
    signalingRequests cfg message length localPort
  match requests with
  | none => s
  | some requests =>
    let s := s.onRequest ingress requests.indication fun port indication =>
      handleIndication s.isGptp port sender association indication reads.indicationUs
        reads.indicationMono
    let s := s.onRequest ingress requests.timingRequest fun port request =>
      timingSection cfg s.isGptp port sender association request
    s.onRequest ingress requests.intervalRequest fun port request =>
      intervalSection s.isGptp port sender association request

/-! ## The handlers of port 0 -/

/-- The endpoint declaration of a Pdelay message, which all of them are searched for. -/
def PtpState.noteEndpoint (s : PtpState F n) (length : Nat) : PtpState F n :=
  if ptpMsgHasEndpointDeclTlv s.port0.rxbuf length 54 then
    s.withPort0 { s.port0 with peerIsEndpoint := true }
  else s

/-- This clock is a server as far as Sync goes. -/
def PtpState.ignoresSync (s : PtpState F n) : Bool :=
  !s.selectedSourceValid || (s.isGptp && decide (s.selectedSource.btcPriority1 = 255))

/-- Announce, Sync and Follow_Up, of port 0. -/
def rxTiming (cfg : Config) (s : PtpState F n) (length : Nat) (reads : RxReadings) :
    PtpState F n :=
  let message := s.port0.rxbuf
  if s.lacksCapability cfg reads.capability then
    s.withPort0 { s.port0 with twostepPending := false }
  else if !cfg.actsAsClient then s
  else
    match message.msgtype with
    | .announce => ptpProcessAnnounce cfg s message length reads.announce
    | .sync =>
      if s.ignoresSync then s else ptpProcessSync cfg s (PtpSync.read message) reads.sync
    | .followUp => if s.ignoresSync then s else ptpProcessFollowup cfg s message reads.followup
    | _ => s

/-- Delay_Resp and Pdelay_Resp, of port 0. -/
def rxDelayResp (cfg : Config) (s : PtpState F n) (length : Nat) (reads : RxReadings) :
    PtpState F n :=
  let message := s.port0.rxbuf
  if s.isGptp ∧ message.msgtype ≠ .pdelayResp then s
  else
    ptpProcessDelayResp cfg (s.noteEndpoint length) (PtpDelayResp.read message) reads.delayResp

/-- Delay_Req and Pdelay_Req. This is the one branch that does not ask for the port. -/
def rxDelayReq (cfg : Config) (s : PtpState F n) (length : Nat) (reads : RxReadings) :
    PtpState F n × List PtpFrame :=
  ptpProcessDelayReq cfg (s.noteEndpoint length) (PtpDelayReq.read s.port0.rxbuf)
    reads.delayReq

/-- The dispatch by type. -/
def rxDispatch (cfg : Config) (s : PtpState F n) (length : Nat) (ingress : Fin (n + 1))
    (reads : RxReadings) : PtpState F n × List PtpFrame :=
  match s.port0.rxbuf.msgtype with
  | .signaling => (rxSignaling cfg s length ingress reads, [])
  | .announce | .sync | .followUp =>
    -- Timing state currently belongs to the bootstrap port only.
    if ingress ≠ bootstrapPort then (s, []) else (rxTiming cfg s length reads, [])
  | .delayResp | .pdelayResp =>
    if !cfg.actsAsClient ∨ ingress ≠ bootstrapPort then (s, [])
    else (rxDelayResp cfg s length reads, [])
  | .delayReq | .pdelayReq =>
    if cfg.actsAsServer then rxDelayReq cfg s length reads else (s, [])
  | .pdelayRespFollowUp =>
    if ingress ≠ bootstrapPort then (s, [])
    else
      (ptpProcessDelayRespFollowUp cfg (s.noteEndpoint length)
        (PtpDelayRespFollowUp.read s.port0.rxbuf) 0 reads.pdelayFollowUp, [])
  | .other => (s, [])

/-! ## The frame -/

/-- The sender check, and the `rx_association` it stores. -/
def rxSender (cfg : Config) (s : PtpState F n) (ingress : Fin (n + 1)) :
    PtpState F n × Bool :=
  match senderCheck cfg s.isGptp (s.ports ingress) s.port0.sender with
  | none => (s, true)
  | some (accepted, association) =>
    (s.withPort0 { s.port0 with rxAssociation := association }, accepted)

/-- What happens before the dispatch: the state it leaves, and the length of a frame that
    goes on to it. -/
def rxArrival (cfg : Config) (s : PtpState F n) (received : Nat) (ingress : Fin (n + 1))
    (mono : Timespec) : PtpState F n × Option Nat :=
  match rxAdmission cfg s.isGptp s.port0.rxbuf received with
  | .dropped => (s, none)
  | .otherSdoid => (s.withPort ingress { s.ports ingress with lastSocketAlive := mono }, none)
  | .admitted length =>
    let minor : UInt8 := if s.port0.rxbuf.u8 1 >>> 4 ≠ 0 then 1 else 0
    let s := s.withPort ingress { s.ports ingress with rxMinorVersion := minor }
    let sender := rxSender cfg s ingress
    let s := sender.1
    if !sender.2 then (s, none)
    else
      (s.withPort ingress { s.ports ingress with lastReceivedMulticast := mono }, some length)

/-- `ptp_process_rx_packet` on the frame in port 0's receive buffer. -/
def ptpProcessRxPacket (cfg : Config) (s : PtpState F n) (received : Nat)
    (ingress : Fin (n + 1)) (reads : RxReadings) : PtpState F n × List PtpFrame :=
  let arrival := rxArrival cfg s received ingress reads.mono
  match arrival.2 with
  | none => (arrival.1, [])
  | some length => rxDispatch cfg arrival.1 length ingress reads

end EspPtp
