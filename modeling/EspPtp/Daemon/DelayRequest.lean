import EspPtp.Daemon.ApAnnounce
import EspPtp.Daemon.Delay

/-!
# Sending delay requests (`ptp_send_delay_req`)

The timer task sends a Delay_Req to the selected source in the standard profile, and a
Pdelay_Req to whoever is at the other end of the wire in gPTP. Only the second has an exchange:
it is begun before the request is sent, and published or cancelled with the stamp the send
came back with.

The two sections are `Peer.Port`'s. Here they are one step with the send between them, so
nobody else runs while a request is being sent; what happens when somebody does is told
there.
-/

namespace EspPtp

open Lib

variable {F : Type} {n : Nat}

/-- `ptp_increment_sequence`: the next number, and the header that has it. -/
def ptpIncrementSequence (sequenceNum : UInt16) (hdr : PtpHeader) : UInt16 × PtpHeader :=
  let next := sequenceNum + 1
  (next, { hdr with sequenceid := #v[(next >>> 8).toUInt8, next.toUInt8] })

/-- `msec_to_log_period`: the logarithm of the period in seconds, rounded. No period is half
    way between two powers, so it is enough to count the half ways below it, from the one above
    `2 ^ (-10)` seconds on. Squares compare with them. -/
def msecToLogPeriod (msecPeriod : Nat) : Int :=
  if msecPeriod = 0 then 127
  else
    ((List.range 16).countP fun i => decide (1000 ^ 2 * 2 ^ (2 * i) < msecPeriod ^ 2 * 2 ^ 19)) - 10

/-! ## Unicast requests of the standard profile -/

/-- `PTP_UNICAST_DELAY_REQ_MISSES`. -/
def ptpUnicastDelayReqMisses : Nat := 3

/-- `PTP_UNICAST_DELAY_REQ_RETRY_US`. -/
def ptpUnicastDelayReqRetryUs : Int := 60 * 1000000

/-- The request before this one, if it was unicast, was not answered. -/
def countUnicastMiss (s : PtpSelection) (nowUs : Int) : PtpSelection :=
  if s.unicastDelayReqOutstanding then
    let misses := s.unicastDelayReqMisses + 1
    let s := { s with unicastDelayReqOutstanding := false }
    if misses ≥ ptpUnicastDelayReqMisses then
      { s with
        unicastDelayReqMisses := 0
        unicastDelayReqRetryUs := nowUs + ptpUnicastDelayReqRetryUs }
    else { s with unicastDelayReqMisses := misses }
  else s

/-- `ptp_unicast_delay_req_active`. -/
def ptpUnicastDelayReqActive (cfg : Config) (s : PtpSelection) (nowUs : Int) :
    PtpSelection × Bool :=
  if !cfg.unicastDelayReq || !s.selectedSourceMacValid ||
      decide (macOctet0 s.selectedSourceMac &&& 1 ≠ 0) then (s, false)
  else
    let s := countUnicastMiss s nowUs
    if s.unicastDelayReqRetryUs = 0 then (s, true)
    else if nowUs < s.unicastDelayReqRetryUs then (s, false)
    else ({ s with unicastDelayReqRetryUs := 0 }, true)

/-! ## The request -/

/-- The header of a request, before its length and its sequence number. -/
def delayReqHeader (s : PtpState F n) (unicast : Bool) : PtpHeader :=
  let own := s.ownIdentity.header
  if s.isGptp then
    { own with
      messagetype := 0x12
      flags := octets (octet0 own.flags) 8
      controlfield := 5
      logmessageinterval := 0x7f }
  else
    { own with
      messagetype := 0x01
      flags := if unicast then octets (octet0 own.flags ||| 4) (octet1 own.flags) else own.flags
      logmessageinterval :=
        UInt8.ofInt (msecToLogPeriod (s.port0.delayreqIntervalMs.toNat % 65536)) }

/-- A request. That of gPTP has twenty reserved bytes and the declaration, the other one its
    origin time. -/
def delayReqMessage (cfg : Config) (s : PtpState F n) (header : PtpHeader) (origin : Timespec) :
    Bytes :=
  if s.isGptp then
    let tlv := if s.sendsEndpointDecl cfg then endpointDeclTlv else []
    (ptpSetMessageLength header (54 + tlv.length)).write ++ (List.replicate 20 0 : Bytes) ++ tlv
  else (ptpSetMessageLength header 44).write ++ (timespecToPtpFormat cfg origin).toList

/-- What `ptp_send_delay_req` reads from outside: the clocks, whether the message went out, and
    the stamp that came back with it, if one did. -/
structure SendDelayReqReadings where
  gettime : Timespec
  unicastUs : Int
  requestUs : Int
  expireUs : Int
  sent : Bool
  stamp : Option Timespec
  publishUs : Int
  deriving DecidableEq, Inhabited

/-- The stamp a send came back with; without one the time keeps its value. -/
def SendDelayReqReadings.stampOr (reads : SendDelayReqReadings) (time : Timespec) : Timespec :=
  if reads.sent then reads.stamp.getD time else time

/-- `ptp_send_delay_req` in the gPTP profile. -/
def sendPdelayReq (cfg : Config) (s : PtpState F n) (reads : SendDelayReqReadings) :
    PtpState F n × List PtpFrame :=
  let next := ptpIncrementSequence s.delayReqSeq (delayReqHeader s false)
  let message := delayReqMessage cfg s next.2 default
  let s := { s with delayReqSeq := next.1 }
  let deadlineUs := reads.requestUs + s.port0.delayreqIntervalMs * 1000
  let begun := sendDelayReqBegin s.port0.toPtpPeerPort (ptpGetSequence next.2) next.2
    reads.expireUs deadlineUs
  -- Without a stamp the time of transmission is the invalid one it was initialized with.
  let port := sendDelayReqPublish begun.1 reads.sent begun.2 (reads.stampOr ⟨0, -1⟩)
    reads.publishUs
  (s.withPort0 { s.port0 with toPtpPeerPort := port },
    if reads.sent then [⟨message, none⟩] else [])

/-- `ptp_send_delay_req` in the standard profile. -/
def sendDelayReq (cfg : Config) (s : PtpState F n) (reads : SendDelayReqReadings) :
    PtpState F n × List PtpFrame :=
  let active := ptpUnicastDelayReqActive cfg s.toPtpSelection reads.unicastUs
  let next := ptpIncrementSequence s.delayReqSeq (delayReqHeader s active.2)
  let message := delayReqMessage cfg s next.2 reads.gettime
  let selection :=
    if active.2 && reads.sent then { active.1 with unicastDelayReqOutstanding := true }
    else active.1
  let s := { s with delayReqSeq := next.1, toPtpSelection := selection }
  let s := s.withPort0 { s.port0 with delayreqTime := reads.stampOr reads.gettime }
  (s, if reads.sent then
    [⟨message, if active.2 then some s.selectedSourceMac else none⟩] else [])

/-- `ptp_send_delay_req`. -/
def ptpSendDelayReq (cfg : Config) (s : PtpState F n) (reads : SendDelayReqReadings) :
    PtpState F n × List PtpFrame :=
  if s.isGptp then sendPdelayReq cfg s reads else sendDelayReq cfg s reads

/-- The bytes of a message on the wire: `ptp_create_eth_frame_to` normalizes what it sends. -/
def PtpState.onWire (s : PtpState F n) (message : Bytes) : Bytes :=
  ptpGptpWireNormalize message s.isGptp (ptpTxMinorVersion s.port0)

/-! ## The sequence number -/

/-- The number that is counted is the number that is sent. -/
theorem ptpGetSequence_increment (sequenceNum : UInt16) (hdr : PtpHeader) :
    ptpGetSequence (ptpIncrementSequence sequenceNum hdr).2 = sequenceNum + 1 :=
  be16_bytes (sequenceNum + 1)

end EspPtp
