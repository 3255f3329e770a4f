import EspPtp.Message
import EspPtp.Lib.Counter

/-!
# The peer-delay exchange (`ptp_peer_exchange.h`)

One request is in flight at a time. The timer task begins it and publishes the transmit
stamp once the driver has it; the daemon task receives the response and the Follow_Up,
which may both come in before the stamp. Every operation below is one function of the
header, on the whole record, in the source's order of assignments. `Caller serializes all
access` there is what makes each of them one atomic event.

A function that answers through a pointer and a `bool` answers an `Option` here: `none`
is `false`, and the pointed-to value is then untouched.
-/

namespace EspPtp

open Lib

/-- `ptp_peer_exchange_t`. -/
structure PtpPeerExchange where
  generation : UInt32
  lifecycle : UInt32
  sequence : UInt16
  requester : PortIdentity
  deadlineUs : Int
  published : Bool
  responseSeen : Bool
  consumed : Bool
  multiple : Bool
  lossCounted : Bool
  sending : Bool
  followUpPending : Bool
  pendingFollowUp : PtpDelayRespFollowUp
  lostResponses : UInt16
  missingResponse : UInt32
  missingFollowUp : UInt32
  responseCount : UInt16
  responseRejections : UInt16
  followUpCount : UInt16
  followUpRejections : UInt16
  firstResponseUs : Int
  publishedUs : Int
  transmit : Timespec
  receive : Timespec
  response : PtpDelayResp
  deriving DecidableEq, Inhabited

/-- `ptp_peer_measurement_t`. -/
structure PtpPeerMeasurement where
  generation : UInt32
  lifecycle : UInt32
  transmit : Timespec
  receive : Timespec
  response : PtpDelayResp
  deriving DecidableEq, Inhabited

/-- The `PTP_PEER_*` answers of `ptp_peer_response`. -/
inductive PeerAdmission where
  | ignored
  | accepted
  | multiple
  | duplicate
  | self
  deriving DecidableEq, Repr

/-- `memset(exchange, 0, sizeof(*exchange))`. -/
def PtpPeerExchange.zero : PtpPeerExchange := default

/-- `ptp_peer_invalidate`. -/
def ptpPeerInvalidate (exchange : PtpPeerExchange) : PtpPeerExchange :=
  { PtpPeerExchange.zero with
    generation := nextNonzero exchange.generation
    lifecycle := nextNonzero exchange.lifecycle }

/-- `ptp_peer_expire`: count each expired published request once, including a missing
    Follow_Up. -/
def ptpPeerExpire (exchange : PtpPeerExchange) (nowUs : Int) : PtpPeerExchange × Bool :=
  if !exchange.published || exchange.consumed || exchange.lossCounted ||
      decide (nowUs < exchange.deadlineUs) then (exchange, false)
  else
    let exchange := { exchange with lossCounted := true }
    let exchange :=
      if exchange.lostResponses < 65535 then
        { exchange with lostResponses := exchange.lostResponses + 1 }
      else exchange
    let exchange :=
      if exchange.responseSeen then
        { exchange with missingFollowUp := exchange.missingFollowUp + 1 }
      else { exchange with missingResponse := exchange.missingResponse + 1 }
    (exchange, true)

/-- `ptp_peer_abandon`: drop the request in flight but keep the link's lifecycle and
    losses. -/
def ptpPeerAbandon (exchange : PtpPeerExchange) : PtpPeerExchange :=
  { ptpPeerInvalidate exchange with
    lifecycle := exchange.lifecycle
    lostResponses := exchange.lostResponses
    missingResponse := exchange.missingResponse
    missingFollowUp := exchange.missingFollowUp }

/-- `ptp_peer_begin`. The answer is the generation of the new request. -/
def ptpPeerBegin (exchange : PtpPeerExchange) (sequence : UInt16) (request : PtpHeader)
    (deadlineUs : Int) : PtpPeerExchange × UInt32 :=
  let exchange :=
    { ptpPeerAbandon exchange with
      sequence := sequence
      requester := request.sourcePort
      deadlineUs := deadlineUs
      sending := true }
  (exchange, exchange.generation)

/-- `ptp_peer_publish`. -/
def ptpPeerPublish (exchange : PtpPeerExchange) (generation : UInt32) (transmit : Timespec)
    (nowUs : Int) : PtpPeerExchange × Bool :=
  if exchange.generation ≠ generation ∨ exchange.sending = false ∨ exchange.published = true ∨
      nowUs ≥ exchange.deadlineUs ∨ transmit.tvNsec < 0 ∨ transmit.tvNsec ≥ 1000000000 then
    (exchange, false)
  else
    ({ exchange with
        transmit := transmit
        published := true
        sending := false
        publishedUs := nowUs }, true)

/-- `ptp_peer_cancel`. -/
def ptpPeerCancel (exchange : PtpPeerExchange) (generation : UInt32) : PtpPeerExchange :=
  if exchange.generation ≠ generation then exchange
  else
    { exchange with
      sending := false
      published := false
      responseSeen := false
      followUpPending := false }

/-- `ptp_peer_timestamp_valid`: the nanoseconds of a wire timestamp are below a second. -/
def ptpPeerTimestampValid (stamp : Vector UInt8 10) : Bool :=
  let nanoseconds : UInt32 :=
    (stamp[6]!.toUInt32 <<< 24) ||| (stamp[7]!.toUInt32 <<< 16) |||
      (stamp[8]!.toUInt32 <<< 8) ||| stamp[9]!.toUInt32
  decide (nanoseconds < 1000000000)

/-- `ptp_peer_matches`. -/
def ptpPeerMatches (exchange : PtpPeerExchange) (header : PtpHeader) (requester : PortIdentity)
    (nowUs : Int) : Bool :=
  (exchange.published || exchange.sending) && !exchange.multiple &&
    decide (nowUs < exchange.deadlineUs) &&
    decide (exchange.sequence = ptpGetSequence header) &&
    decide (exchange.requester = requester)

/-- One bit of a rejection mask. -/
def rejectIf (condition : Bool) (bit : UInt16) : UInt16 := if condition then bit else 0

/-- The `PTP_PEER_RX_*` mask of `ptp_peer_response`. -/
def responseRejection (exchange : PtpPeerExchange) (response : PtpDelayResp)
    (receive : Timespec) (nowUs : Int) : UInt16 :=
  rejectIf (!exchange.published && !exchange.sending) 1 |||
  rejectIf exchange.multiple 2 |||
  rejectIf (decide (nowUs ≥ exchange.deadlineUs)) 4 |||
  rejectIf (decide (exchange.requester ≠ response.requester)) 8 |||
  rejectIf (!ptpPeerTimestampValid response.receivetimestamp || decide (receive.tvNsec < 0) ||
    decide (receive.tvNsec ≥ 1000000000)) 16

/-- The counters `ptp_peer_response` moves for a response with the sequence in flight. -/
def countResponse (exchange : PtpPeerExchange) (nowUs : Int) : PtpPeerExchange :=
  let exchange :=
    if exchange.responseCount = 0 then { exchange with firstResponseUs := nowUs }
    else exchange
  if exchange.responseCount < 65535 then
    { exchange with responseCount := exchange.responseCount + 1 }
  else exchange

/-- `ptp_peer_response`. -/
def ptpPeerResponse (exchange : PtpPeerExchange) (response : PtpDelayResp) (receive : Timespec)
    (nowUs : Int) : PtpPeerExchange × PeerAdmission :=
  if ptpGetSequence response.header ≠ exchange.sequence then (exchange, .ignored)
  else
    let exchange := countResponse exchange nowUs
    let rejection := responseRejection exchange response receive nowUs
    let exchange :=
      { exchange with responseRejections := exchange.responseRejections ||| rejection }
    if rejection ≠ 0 then (exchange, .ignored)
    else if response.header.sourceidentity = exchange.requester.clock then
      ({ exchange with multiple := true }, .self)
    else if exchange.responseSeen then
      if exchange.response.header.sourcePort ≠ response.header.sourcePort then
        ({ exchange with multiple := true }, .multiple)
      else ({ exchange with multiple := true }, .duplicate)
    else
      ({ exchange with response := response, receive := receive, responseSeen := true },
        .accepted)

/-- The diagnostic mask of `ptp_peer_finish`. -/
def followUpRejection (exchange : PtpPeerExchange) (followUp : PtpDelayRespFollowUp)
    (nowUs : Int) : UInt16 :=
  rejectIf (!exchange.published && !exchange.sending) 1 |||
  rejectIf exchange.multiple 2 |||
  rejectIf (decide (nowUs ≥ exchange.deadlineUs)) 4 |||
  rejectIf (decide (exchange.requester ≠ followUp.requester)) 8 |||
  rejectIf (!exchange.responseSeen) 16 |||
  rejectIf (!ptpPeerTimestampValid followUp.origintimestamp) 32 |||
  rejectIf (decide (exchange.response.header.sourcePort ≠ followUp.header.sourcePort)) 64 |||
  rejectIf (exchange.consumed || exchange.followUpPending) 128

/-- The bookkeeping of `ptp_peer_finish` for a Follow_Up with the sequence in flight. -/
def noteFollowUp (exchange : PtpPeerExchange) (followUp : PtpDelayRespFollowUp)
    (nowUs : Int) : PtpPeerExchange :=
  if ptpGetSequence followUp.header = exchange.sequence then
    let exchange :=
      if exchange.followUpCount < 65535 then
        { exchange with followUpCount := exchange.followUpCount + 1 }
      else exchange
    { exchange with
      followUpRejections :=
        exchange.followUpRejections ||| followUpRejection exchange followUp nowUs }
  else exchange

/-- The checks a Follow_Up has to pass before `ptp_peer_finish` acts on it. -/
def followUpAdmitted (exchange : PtpPeerExchange) (followUp : PtpDelayRespFollowUp)
    (nowUs : Int) : Bool :=
  ptpPeerMatches exchange followUp.header followUp.requester nowUs &&
    exchange.responseSeen && ptpPeerTimestampValid followUp.origintimestamp &&
    decide (exchange.response.header.sourcePort = followUp.header.sourcePort)

/-- The measurement a completed exchange answers with. -/
def PtpPeerExchange.measurement (exchange : PtpPeerExchange) : PtpPeerMeasurement where
  generation := exchange.generation
  lifecycle := exchange.lifecycle
  transmit := exchange.transmit
  receive := exchange.receive
  response := exchange.response

/-- `ptp_peer_finish`. A Follow_Up that comes before the transmit stamp is retained. -/
def ptpPeerFinish (exchange : PtpPeerExchange) (followUp : PtpDelayRespFollowUp)
    (nowUs : Int) : PtpPeerExchange × Option PtpPeerMeasurement :=
  let exchange := noteFollowUp exchange followUp nowUs
  if !followUpAdmitted exchange followUp nowUs then (exchange, none)
  else if exchange.consumed || exchange.followUpPending then
    ({ exchange with multiple := true }, none)
  else if !exchange.published then
    ({ exchange with pendingFollowUp := followUp, followUpPending := true }, none)
  else
    ({ exchange with consumed := true, lostResponses := 0 }, some exchange.measurement)

/-- `ptp_peer_take_follow_up`: the daemon replays a retained Follow_Up only after the
    transmit stamp is published. -/
def ptpPeerTakeFollowUp (exchange : PtpPeerExchange) (nowUs : Int) :
    PtpPeerExchange × Option (PtpDelayRespFollowUp × UInt32) :=
  if !exchange.published || !exchange.followUpPending || exchange.multiple ||
      exchange.consumed || decide (nowUs ≥ exchange.deadlineUs) then (exchange, none)
  else
    ({ exchange with followUpPending := false },
      some (exchange.pendingFollowUp, exchange.generation))

/-- The exchange's part of the first section of `ptp_process_delay_resp_follow_up`: a
    replayed Follow_Up names the generation it was retained for, one from the wire zero. -/
def finishExpecting (exchange : PtpPeerExchange) (followUp : PtpDelayRespFollowUp)
    (expectedGeneration : UInt32) (nowUs : Int) :
    PtpPeerExchange × Option PtpPeerMeasurement :=
  if expectedGeneration ≠ 0 ∧ exchange.generation ≠ expectedGeneration then (exchange, none)
  else ptpPeerFinish exchange followUp nowUs

/-! ## A request and its answers, as concrete messages -/

namespace Sample

/-- A requester with clock `01…01` and a responder with clock `02…02`, on request 7. -/
def request : PtpHeader :=
  { (default : PtpHeader) with
    sourceidentity := Vector.replicate 8 1
    sequenceid := #v[0, 7] }

def responder : PtpHeader :=
  { (default : PtpHeader) with
    sourceidentity := Vector.replicate 8 2
    sequenceid := #v[0, 7] }

def response : PtpDelayResp where
  header := { responder with messagetype := 0x13 }
  receivetimestamp := Vector.replicate 10 0
  reqidentity := request.sourceidentity
  reqportindex := request.sourceportindex

def followUp : PtpDelayRespFollowUp where
  header := { responder with messagetype := 0x1a }
  origintimestamp := Vector.replicate 10 0
  reqidentity := request.sourceidentity
  reqportindex := request.sourceportindex

end Sample

end EspPtp
