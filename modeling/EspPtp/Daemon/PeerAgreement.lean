import EspPtp.Daemon.DelayRequest
import EspPtp.Peer.Confluence
import EspPtp.Wire.PeerMessage
import EspPtp.Wire.Timestamp

/-!
# Initiator and responder agree

One instance sends a Pdelay_Req, another answers it, and the first takes the answers: between
them are two messages put together in one buffer, the normalization on either side, the
checks of received frames, and the exchange the request began.

The two sides meet at `PdelayMessage`. What either side sends is such a message, of the
header it was given; and an exchange completes with two such messages if their headers answer
the request (`PeerAnswers.Match`), which those of `ptp_process_delay_req` do.
-/

namespace EspPtp

open Lib

variable {F : Type} {n m : Nat}

/-! ## The messages of both sides -/

theorem delayReqMessage_eq (cfg : Config) {s : PtpState F n} (hgptp : s.isGptp = true)
    (header : PtpHeader) (origin : Timespec) :
    delayReqMessage cfg s header origin =
      pdelayMessage header (List.replicate 20 0) (s.sendsEndpointDecl cfg) := by
  unfold delayReqMessage
  rw [if_pos hgptp]
  rfl

/-- The body of an answer: a time, and who asked. -/
def delayRespBody (cfg : Config) (timestamp : Timespec) (req : PtpDelayReq) : Bytes :=
  (timespecToPtpFormat cfg timestamp).toList ++ req.header.sourceidentity.toList ++
    req.header.sourceportindex.toList

theorem delayRespMessage_eq (cfg : Config) {s : PtpState F n} (hgptp : s.isGptp = true)
    (header : PtpHeader) (timestamp : Timespec) (req : PtpDelayReq) :
    delayRespMessage cfg s header timestamp req =
      pdelayMessage header (delayRespBody cfg timestamp req) (s.sendsEndpointDecl cfg) := by
  unfold delayRespMessage pdelayMessage delayRespBody declarationTlv
  rw [hgptp, Bool.true_and]
  simp only [List.append_assoc]

theorem delayRespBody_length (cfg : Config) (timestamp : Timespec) (req : PtpDelayReq) :
    (delayRespBody cfg timestamp req).length = 20 := by
  simp [delayRespBody]

/-- The three fields of the body. -/
theorem delayRespBody_fields (cfg : Config) (timestamp : Timespec) (req : PtpDelayReq) :
    (delayRespBody cfg timestamp req).field 0 10 = timespecToPtpFormat cfg timestamp ∧
      (delayRespBody cfg timestamp req).field 10 8 = req.header.sourceidentity ∧
      (delayRespBody cfg timestamp req).field 18 2 = req.header.sourceportindex := by
  unfold delayRespBody
  refine ⟨?_, ?_, ?_⟩
  · rw [List.append_assoc, Bytes.field_toList_append]
  · simp [Bytes.field_append_right, Bytes.field_toList_append]
  · simp [Bytes.field_append_right, Bytes.field_toList]

/-! ## Times -/

/-- A time every build can write. -/
structure Timespec.Short (t : Timespec) : Prop where
  pos : 0 ≤ t.tvSec
  fits : t.tvSec < 2 ^ 32
  normalized : t.Normalized

theorem Timespec.Short.encodable {t : Timespec} (h : t.Short) (cfg : Config) :
    t.Encodable cfg := by
  refine ⟨h.pos, ?_, h.normalized⟩
  have hfits := h.fits
  cases cfg.systemTime64 with
  | true => exact lt_of_lt_of_le hfits (by decide)
  | false => exact hfits

/-- `ptp_peer_timestamp_valid` reads the nanoseconds as a number. -/
theorem ptpPeerTimestampValid_iff (stamp : Vector UInt8 10) :
    ptpPeerTimestampValid stamp = true ↔ Timestamp.nanoseconds stamp < 1000000000 := by
  have hword := toNat_word32 stamp[6]! stamp[7]! stamp[8]! stamp[9]!
  unfold ptpPeerTimestampValid Timestamp.nanoseconds
  rw [decide_eq_true_eq, UInt32.lt_iff_toNat_lt, hword]
  rfl

/-- What this side writes, the other side finds valid. -/
theorem ptpPeerTimestampValid_written (cfg : Config) {t : Timespec} (h : t.Encodable cfg) :
    ptpPeerTimestampValid (timespecToPtpFormat cfg t) = true := by
  rw [ptpPeerTimestampValid_iff, ← ptpFormatToTimespec_normalized_iff,
    ptpFormatToTimespec_timespecToPtpFormat cfg h]
  exact h.2.2

/-! ## An answer on the wire -/

section Answer

variable (cfg : Config) {header : PtpHeader} (timestamp : Timespec) (req : PtpDelayReq)
  (declares : Bool) (minorVersion : UInt8)

/-- What an answer is once it was sent. -/
def answerWire (header : PtpHeader) : Bytes :=
  ptpGptpWireNormalize (pdelayMessage header (delayRespBody cfg timestamp req) declares) true
    minorVersion

/-- It is what the responder puts on the wire. -/
theorem onWire_answer {b : PtpState F m} (hgptp : b.isGptp = true) (header : PtpHeader) :
    b.onWire (pdelayMessage header (delayRespBody cfg timestamp req) declares) =
      answerWire cfg timestamp req declares (ptpTxMinorVersion b.port0) header := by
  unfold PtpState.onWire answerWire
  rw [hgptp]

theorem answerWire_message (hkind : PdelayType header.messagetype) :
    PdelayMessage (answerWire cfg timestamp req declares minorVersion header) header declares :=
  pdelayMessage_onWire hkind (delayRespBody_length cfg timestamp req) declares minorVersion

/-- The time and the requester arrive as they were sent. -/
theorem answerWire_fields (hkind : PdelayType header.messagetype)
    (hanswer : header.messagetype ≠ 0x12) :
    (answerWire cfg timestamp req declares minorVersion header).field 34 10 =
        timespecToPtpFormat cfg timestamp ∧
      (answerWire cfg timestamp req declares minorVersion header).field 44 8 =
        req.header.sourceidentity ∧
      (answerWire cfg timestamp req declares minorVersion header).field 52 2 =
        req.header.sourceportindex := by
  have hlen := delayRespBody_length cfg timestamp req
  obtain ⟨htime, hidentity, hport⟩ := delayRespBody_fields cfg timestamp req
  have hbody : ∀ start count, start + count ≤ 20 →
      (answerWire cfg timestamp req declares minorVersion header).field (34 + start) count =
        (delayRespBody cfg timestamp req).field start count := fun start count hin =>
    pdelayMessage_onWire_body hkind hanswer hlen declares minorVersion hin
  refine ⟨?_, ?_, ?_⟩
  · rw [← htime]
    exact hbody 0 10 (by decide)
  · rw [← hidentity]
    exact hbody 10 8 (by decide)
  · rw [← hport]
    exact hbody 18 2 (by decide)

end Answer

/-- An instance of the same domain takes the message in. -/
theorem PdelayMessage.admitted {m : Bytes} {header : PtpHeader} {declares : Bool}
    (h : PdelayMessage m header declares) {cfg : Config}
    (hdomain : header.domain = cfg.domain) :
    rxAdmission cfg true m m.length = .admitted m.length := by
  have hsize := h.size
  have hnot : m.msgtype ≠ .followUp ∧ m.isGptp = true := by
    unfold Bytes.msgtype Bytes.isGptp
    rw [h.type]
    rcases h.kind with htype | htype | htype <;> rw [htype] <;> decide
  unfold rxAdmission
  dsimp only
  rw [h.boundedLength, h.domain, hnot.2, if_neg (by omega), if_neg (by omega),
    if_neg fun hall => hnot.1 hall.2.1, if_neg fun hother => hother hdomain,
    if_neg fun hother => hother rfl]

/-! ## The initiator's exchange -/

/-- What `sendPdelayReq` begins: the last request is expired first. -/
def PtpState.begun (s : PtpState F n) (reads : SendDelayReqReadings) : PtpPeerExchange :=
  let next := ptpIncrementSequence s.delayReqSeq (delayReqHeader s false)
  (ptpPeerBegin (ptpPeerExpire s.port0.peerExchange reads.expireUs).1 (ptpGetSequence next.2)
    next.2 (reads.requestUs + s.port0.delayreqIntervalMs * 1000)).1

/-- The request is this clock's. -/
theorem begun_requester (s : PtpState F n) (reads : SendDelayReqReadings) :
    (s.begun reads).core.requester = s.ownIdentity.header.sourcePort := by
  have hheader : (delayReqHeader s false).sourcePort = s.ownIdentity.header.sourcePort := by
    unfold delayReqHeader
    dsimp only
    split <;> rfl
  exact hheader

/-- A request whose exchange is published afterwards went out, with a valid stamp. -/
theorem sendPdelayReq_published {cfg : Config} {s : PtpState F n} {reads : SendDelayReqReadings}
    (h : (sendPdelayReq cfg s reads).1.port0.peerExchange.published = true) :
    reads.sent = true ∧ reads.publishUs < (s.begun reads).core.deadlineUs ∧
      (0 ≤ (reads.stampOr ⟨0, -1⟩).tvNsec ∧ (reads.stampOr ⟨0, -1⟩).tvNsec < 1000000000) ∧
      (sendPdelayReq cfg s reads).1.port0.peerExchange =
        (ptpPeerPublish (s.begun reads) (s.begun reads).generation (reads.stampOr ⟨0, -1⟩)
          reads.publishUs).1 := by
  have hexchange : (sendPdelayReq cfg s reads).1.port0.peerExchange =
      (let answer :=
        if reads.sent then
          ptpPeerPublish (s.begun reads) (s.begun reads).generation (reads.stampOr ⟨0, -1⟩)
            reads.publishUs
        else (s.begun reads, false)
      if answer.2 then answer.1 else ptpPeerCancel answer.1 (s.begun reads).generation) := by
    unfold sendPdelayReq
    dsimp only
    rw [PtpState.withPort0_port0]
    rfl
  have hcancel : (ptpPeerCancel (s.begun reads) (s.begun reads).generation).published = false := by
    unfold ptpPeerCancel
    rw [if_neg (not_not_intro rfl)]
  rw [hexchange] at h ⊢
  dsimp only at h ⊢
  cases hsent : reads.sent with
  | false =>
    rw [hsent] at h
    simp [hcancel] at h
  | true =>
    rw [hsent] at h
    simp only [if_true] at h ⊢
    rcases ptpPeerPublish_cases (s.begun reads) (s.begun reads).generation
      (reads.stampOr ⟨0, -1⟩) reads.publishUs with
      ⟨hno, hsame⟩ | ⟨hyes, -, -, -, hnow, hlow, hhigh, -⟩
    · rw [hno, hsame] at h
      simp [hcancel] at h
    · rw [hyes]
      exact ⟨trivial, hnow, ⟨hlow, hhigh⟩, rfl⟩

/-! ## One exchange between two instances -/

/-- Two instances in the gPTP profile, of distinct clocks, each of which sends in the domain the
    other one is configured for. -/
structure PeerPair (cfgA cfgB : Config) (a : PtpState F n) (b : PtpState F m) : Prop where
  gptpA : a.isGptp = true
  gptpB : b.isGptp = true
  distinct : a.ownIdentity.header.sourceidentity ≠ b.ownIdentity.header.sourceidentity
  domainA : a.ownIdentity.header.domain = cfgB.domain
  domainB : b.ownIdentity.header.domain = cfgA.domain

/-- A message that arrives at an instance: what it is, and that it is let in with its own
    length. -/
structure Arrives (cfg : Config) (message : Bytes) (messagetype : UInt8) (declares : Bool) :
    Prop where
  size : message.length = if declares then 66 else 54
  bounded : ptpMessageBoundedLength message message.length = message.length
  admitted : rxAdmission cfg true message message.length = .admitted message.length
  messagetype : message.u8 0 = messagetype
  reserved1 : message.u8 5 = 0
  declaration : ptpMsgHasEndpointDeclTlv message message.length 54 = true ↔ declares = true

theorem PdelayMessage.arrives {message : Bytes} {header : PtpHeader} {declares : Bool}
    (h : PdelayMessage message header declares) {cfg : Config}
    (hdomain : header.domain = cfg.domain) :
    Arrives cfg message header.messagetype declares where
  size := by
    rw [h.size]
    cases declares <;> rfl
  bounded := h.boundedLength
  admitted := h.admitted hdomain
  messagetype := h.type
  reserved1 := h.minorSdoId
  declaration := by rw [h.hasEndpointDecl]

section Exchange

variable {cfgA cfgB : Config} {a : PtpState F n} {b : PtpState F m}

/-- The header of the request `ptp_send_delay_req` sends. -/
def requestHeader (a : PtpState F n) : PtpHeader :=
  (ptpIncrementSequence a.delayReqSeq (delayReqHeader a false)).2

/-- What `ptp_send_delay_req` sends of a request that went out. -/
theorem ptpSendDelayReq_frames (hgptp : a.isGptp = true) {send : SendDelayReqReadings}
    (hsent : send.sent = true) :
    (ptpSendDelayReq cfgA a send).2 =
      [⟨pdelayMessage (requestHeader a) (List.replicate 20 0) (a.sendsEndpointDecl cfgA),
        none⟩] := by
  unfold ptpSendDelayReq
  rw [if_pos hgptp]
  unfold sendPdelayReq
  dsimp only
  rw [hsent, if_pos rfl, delayReqMessage_eq cfgA hgptp]
  rfl

/-- The header of the follow-up: the response's, of the other type and without its flag. -/
def delayRespFollowUpHeader (cfg : Config) (b : PtpState F m) (req : PtpDelayReq) : PtpHeader :=
  { delayRespHeader cfg b req with messagetype := 0x1a, flags := octets 0 8 }

/-- What `ptp_process_delay_req` sends, with both sends done. -/
theorem ptpProcessDelayReq_frames (hgptp : b.isGptp = true) (req : PtpDelayReq)
    (transmitted mono : Timespec) :
    (ptpProcessDelayReq cfgB b req ⟨some transmitted, true, mono⟩).2 =
      [⟨pdelayMessage (delayRespHeader cfgB b req) (delayRespBody cfgB b.port0.rxtime req)
          (b.sendsEndpointDecl cfgB), none⟩,
        ⟨pdelayMessage (delayRespFollowUpHeader cfgB b req) (delayRespBody cfgB transmitted req)
          (b.sendsEndpointDecl cfgB), none⟩] := by
  have hunicast : unicastReply b = false := by
    unfold unicastReply
    rw [hgptp]
    rfl
  unfold ptpProcessDelayReq
  rw [hgptp, if_neg (by simp), hunicast]
  dsimp only
  rw [delayRespMessage_eq cfgB hgptp, delayRespMessage_eq cfgB hgptp]
  rfl

/-- What the initiator makes of the two answers. -/
structure Completes (exchange : PtpPeerExchange) (response : PtpDelayResp)
    (followUp : PtpDelayRespFollowUp) (receive : Timespec) (responseUs followUpUs : Int) :
    Prop where
  accepted : (ptpPeerResponse exchange response receive responseUs).2 = .accepted
  measured :
    (ptpPeerFinish (ptpPeerResponse exchange response receive responseUs).1 followUp
      followUpUs).2 =
      some ⟨exchange.generation, exchange.lifecycle, exchange.transmit, receive, response⟩

/-- A published exchange completes with answers that match its request. -/
theorem sendPdelayReq_completes {send : SendDelayReqReadings}
    (hpublished : (sendPdelayReq cfgA a send).1.port0.peerExchange.published = true)
    {receive : Timespec} {response : PtpDelayResp} {followUp : PtpDelayRespFollowUp}
    (hmatch : (⟨send.stampOr ⟨0, -1⟩, receive, response, followUp⟩ : PeerAnswers).Match
      (a.delayReqSeq + 1) a.ownIdentity.header)
    {responseUs followUpUs : Int}
    (hresponse : responseUs < (sendPdelayReq cfgA a send).1.port0.peerExchange.deadlineUs)
    (hfollowUp : followUpUs < (sendPdelayReq cfgA a send).1.port0.peerExchange.deadlineUs) :
    Completes (sendPdelayReq cfgA a send).1.port0.peerExchange response followUp receive
      responseUs followUpUs := by
  obtain ⟨-, hintime, -, hexchange⟩ := sendPdelayReq_published hpublished
  have hb : Begun (a.begun send).core ⟨send.stampOr ⟨0, -1⟩, receive, response, followUp⟩
      (a.delayReqSeq + 1) a.ownIdentity.header :=
    ⟨hmatch, nextNonzero_ne_zero _, ptpGetSequence_increment _ _, begun_requester a send⟩
  have hstage : Stage (a.begun send).core ⟨send.stampOr ⟨0, -1⟩, receive, response, followUp⟩
      true false .awaited (sendPdelayReq cfgA a send).1.port0.peerExchange := by
    rw [hexchange]
    exact (stage_begin _ _ _ _ _).publish hb hintime
  generalize (sendPdelayReq cfgA a send).1.port0.peerExchange = exchange at *
  have hdeadline : exchange.deadlineUs = (a.begun send).core.deadlineUs := hstage.core.deadline
  rw [hdeadline] at hresponse hfollowUp
  obtain ⟨hresponded, haccepted⟩ := hstage.response hb hresponse
  obtain ⟨-, hmeasured⟩ := hresponded.finish hb hfollowUp
  refine ⟨haccepted, hmeasured.trans ?_⟩
  have hgeneration : exchange.generation = (a.begun send).core.generation := hstage.core.generation
  have hlifecycle : exchange.lifecycle = (a.begun send).core.lifecycle := hstage.core.lifecycle
  have htransmit : exchange.transmit = send.stampOr ⟨0, -1⟩ := hstage.core.transmit rfl
  rw [hgeneration, hlifecycle, htransmit]
  rfl

/-- The request carries the clock's port and domain, and the number that is counted. -/
theorem requestHeader_fields (hgptp : a.isGptp = true) :
    (requestHeader a).messagetype = 0x12 ∧
      (requestHeader a).domain = a.ownIdentity.header.domain ∧
      (requestHeader a).sourcePort = a.ownIdentity.header.sourcePort ∧
      ptpGetSequence (requestHeader a) = a.delayReqSeq + 1 := by
  have hheader : delayReqHeader a false =
      { a.ownIdentity.header with
        messagetype := 0x12
        flags := octets (octet0 a.ownIdentity.header.flags) 8
        controlfield := 5
        logmessageinterval := 0x7f } := by
    unfold delayReqHeader
    dsimp only
    rw [if_pos hgptp]
  refine ⟨?_, ?_, ?_, ptpGetSequence_increment _ _⟩
  all_goals
    unfold requestHeader
    rw [hheader]
    rfl

/-- The response carries the responder's port and domain, and the number of the request. -/
theorem delayRespHeader_fields (cfg : Config) (hgptp : b.isGptp = true) (req : PtpDelayReq) :
    (delayRespHeader cfg b req).messagetype = 0x13 ∧
      (delayRespHeader cfg b req).domain = b.ownIdentity.header.domain ∧
      (delayRespHeader cfg b req).sourcePort = b.ownIdentity.header.sourcePort ∧
      (delayRespHeader cfg b req).sequenceid = req.header.sequenceid := by
  unfold delayRespHeader
  dsimp only
  rw [if_pos hgptp]
  exact ⟨rfl, rfl, rfl, rfl⟩

/-- And so does the follow-up. -/
theorem delayRespFollowUpHeader_fields (cfg : Config) (hgptp : b.isGptp = true)
    (req : PtpDelayReq) :
    (delayRespFollowUpHeader cfg b req).messagetype = 0x1a ∧
      (delayRespFollowUpHeader cfg b req).domain = b.ownIdentity.header.domain ∧
      (delayRespFollowUpHeader cfg b req).sourcePort = b.ownIdentity.header.sourcePort ∧
      (delayRespFollowUpHeader cfg b req).sequenceid = req.header.sequenceid :=
  ⟨rfl, (delayRespHeader_fields cfg hgptp req).2⟩

/-- What the initiator reads of either answer to a request. -/
structure ReadAnswer (cfg : Config) (b : PtpState F m) (req : PtpDelayReq) (timestamp : Timespec)
    (wire : Bytes) : Prop where
  sequence : ptpGetSequence (PtpHeader.read wire) = be16 req.header.sequenceid
  source : (PtpHeader.read wire).sourcePort = b.ownIdentity.header.sourcePort
  requester : (⟨wire.field 44 8, wire.field 52 2⟩ : PortIdentity) = req.header.sourcePort
  time : wire.field 34 10 = timespecToPtpFormat cfg timestamp

theorem answerWire_read (cfg : Config) {header : PtpHeader} {req : PtpDelayReq}
    (hkind : PdelayType header.messagetype) (hanswer : header.messagetype ≠ 0x12)
    (hsource : header.sourcePort = b.ownIdentity.header.sourcePort)
    (hsequence : header.sequenceid = req.header.sequenceid) (timestamp : Timespec)
    (declares : Bool) (minorVersion : UInt8) :
    ReadAnswer cfg b req timestamp
      (answerWire cfg timestamp req declares minorVersion header) := by
  have hwire := answerWire_message cfg timestamp req declares minorVersion hkind
  obtain ⟨htime, hidentity, hport⟩ :=
    answerWire_fields cfg timestamp req declares minorVersion hkind hanswer
  refine ⟨?_, ?_, ?_, htime⟩
  · rw [hwire.sequence_eq, ← hsequence]
    rfl
  · rw [hwire.sourcePort_eq, hsource]
  · rw [hidentity, hport]
    rfl

/-- The two answers, as the initiator reads them. -/
theorem answers_read (cfgB : Config) (hgptp : b.isGptp = true) (req : PtpDelayReq) (transmitted : Timespec) :
    ReadAnswer cfgB b req b.port0.rxtime
        (answerWire cfgB b.port0.rxtime req (b.sendsEndpointDecl cfgB) (ptpTxMinorVersion b.port0)
          (delayRespHeader cfgB b req)) ∧
      ReadAnswer cfgB b req transmitted
        (answerWire cfgB transmitted req (b.sendsEndpointDecl cfgB) (ptpTxMinorVersion b.port0)
          (delayRespFollowUpHeader cfgB b req)) := by
  obtain ⟨htype, -, hsource, hsequence⟩ := delayRespHeader_fields cfgB hgptp req
  obtain ⟨htype', -, hsource', hsequence'⟩ := delayRespFollowUpHeader_fields cfgB hgptp req
  constructor
  · refine answerWire_read cfgB (.inr (.inl htype)) ?_ hsource hsequence _ _ _
    rw [htype]
    decide
  · refine answerWire_read cfgB (.inr (.inr htype')) ?_ hsource' hsequence' _ _ _
    rw [htype']
    decide

/-- **The answers match the request that arrived.** -/
theorem ReadAnswer.match (hpair : PeerPair cfgA cfgB a b) {request response followUp : Bytes}
    {declares : Bool} (hrequest : PdelayMessage request (requestHeader a) declares)
    {received transmitted stamp receive : Timespec}
    (hresponse : ReadAnswer cfgB b (PtpDelayReq.read request) received response)
    (hfollowUp : ReadAnswer cfgB b (PtpDelayReq.read request) transmitted followUp)
    (hreceived : received.Short) (htransmitted : transmitted.Short)
    (hstamp : 0 ≤ stamp.tvNsec ∧ stamp.tvNsec < 1000000000) (hreceive : receive.Normalized) :
    (⟨stamp, receive, PtpDelayResp.read response, PtpDelayRespFollowUp.read followUp⟩ :
      PeerAnswers).Match (a.delayReqSeq + 1) a.ownIdentity.header := by
  obtain ⟨-, -, hsource, hnumber⟩ := requestHeader_fields hpair.gptpA
  -- What is sent back is what was sent.
  have hrequester : (PtpDelayReq.read request).header.sourcePort =
      a.ownIdentity.header.sourcePort :=
    hrequest.sourcePort_eq.trans hsource
  have hcounted : be16 (PtpDelayReq.read request).header.sequenceid = a.delayReqSeq + 1 :=
    hrequest.sequence_eq.trans hnumber
  have hresponder : (PtpHeader.read response).sourceidentity =
      b.ownIdentity.header.sourceidentity :=
    congrArg PortIdentity.clock hresponse.source
  exact {
    transmitLow := hstamp.1
    transmitHigh := hstamp.2
    receiveLow := hreceive.1
    receiveHigh := hreceive.2
    responseSequence := hresponse.sequence.trans hcounted
    responseRequester := hresponse.requester.trans hrequester
    responseStamp := by
      show ptpPeerTimestampValid (response.field 34 10) = true
      rw [hresponse.time]
      exact ptpPeerTimestampValid_written cfgB (hreceived.encodable cfgB)
    followUpSequence := hfollowUp.sequence.trans hcounted
    followUpRequester := hfollowUp.requester.trans hrequester
    followUpStamp := by
      show ptpPeerTimestampValid (followUp.field 34 10) = true
      rw [hfollowUp.time]
      exact ptpPeerTimestampValid_written cfgB (htransmitted.encodable cfgB)
    oneResponder := hresponse.source.trans hfollowUp.source.symm
    notSelf := by
      show (PtpHeader.read response).sourceidentity ≠ a.ownIdentity.header.sourceidentity
      rw [hresponder]
      exact hpair.distinct.symm }

/-- The request, and what arrives of it. -/
theorem request_sent (hpair : PeerPair cfgA cfgB a b) {send : SendDelayReqReadings}
    (hsent : send.sent = true) :
    ∃ request : Bytes, (ptpSendDelayReq cfgA a send).2 = [⟨request, none⟩] ∧
      PdelayMessage (a.onWire request) (requestHeader a) (a.sendsEndpointDecl cfgA) ∧
      Arrives cfgB (a.onWire request) 0x12 (a.sendsEndpointDecl cfgA) := by
  obtain ⟨htype, hdomain, -, -⟩ := requestHeader_fields hpair.gptpA
  have hrequest : PdelayMessage
      (a.onWire (pdelayMessage (requestHeader a) (List.replicate 20 0) (a.sendsEndpointDecl cfgA)))
      (requestHeader a) (a.sendsEndpointDecl cfgA) := by
    unfold PtpState.onWire
    rw [hpair.gptpA]
    exact pdelayMessage_onWire (.inl htype) List.length_replicate _ _
  have harrives := hrequest.arrives (hdomain.trans hpair.domainA)
  rw [htype] at harrives
  exact ⟨_, ptpSendDelayReq_frames hpair.gptpA hsent, hrequest, harrives⟩

/-- The answers to a request, and what arrives of them. -/
theorem answers_sent (hpair : PeerPair cfgA cfgB a b) (req : PtpDelayReq)
    (transmitted mono : Timespec) :
    ∃ response followUp : Bytes,
      (ptpProcessDelayReq cfgB b req ⟨some transmitted, true, mono⟩).2 =
        [⟨response, none⟩, ⟨followUp, none⟩] ∧
      Arrives cfgA (b.onWire response) 0x13 (b.sendsEndpointDecl cfgB) ∧
      Arrives cfgA (b.onWire followUp) 0x1a (b.sendsEndpointDecl cfgB) ∧
      ReadAnswer cfgB b req b.port0.rxtime (b.onWire response) ∧
      ReadAnswer cfgB b req transmitted (b.onWire followUp) := by
  obtain ⟨htypeR, hdomainR, -, -⟩ := delayRespHeader_fields cfgB hpair.gptpB req
  obtain ⟨htypeF, hdomainF, -, -⟩ := delayRespFollowUpHeader_fields cfgB hpair.gptpB req
  have harriveR := (answerWire_message cfgB b.port0.rxtime req (b.sendsEndpointDecl cfgB)
    (ptpTxMinorVersion b.port0) (.inr (.inl htypeR))).arrives (hdomainR.trans hpair.domainB)
  have harriveF := (answerWire_message cfgB transmitted req (b.sendsEndpointDecl cfgB)
    (ptpTxMinorVersion b.port0) (.inr (.inr htypeF))).arrives (hdomainF.trans hpair.domainB)
  obtain ⟨hreadR, hreadF⟩ := answers_read cfgB hpair.gptpB req transmitted
  rw [htypeR] at harriveR
  rw [htypeF] at harriveF
  rw [← onWire_answer _ _ _ _ hpair.gptpB] at harriveR harriveF hreadR hreadF
  exact ⟨_, _, ptpProcessDelayReq_frames hpair.gptpB req transmitted mono, harriveR, harriveF,
    hreadR, hreadF⟩

/-- What is sent and received in one exchange: `a` sends a request as `send` tells, and `b`,
    whose port has the time of its arrival, answers with this time of transmission. -/
structure AgreedExchange (cfgA cfgB : Config) (a : PtpState F n) (b : PtpState F m)
    (send : SendDelayReqReadings) (transmitted mono receive : Timespec)
    (responseUs followUpUs : Int) (request response followUp : PtpFrame) : Prop where
  sent : (ptpSendDelayReq cfgA a send).2 = [request]
  answered : (ptpProcessDelayReq cfgB b (PtpDelayReq.read (a.onWire request.message))
    ⟨some transmitted, true, mono⟩).2 = [response, followUp]
  requestArrives : Arrives cfgB (a.onWire request.message) 0x12 (a.sendsEndpointDecl cfgA)
  responseArrives : Arrives cfgA (b.onWire response.message) 0x13 (b.sendsEndpointDecl cfgB)
  followUpArrives : Arrives cfgA (b.onWire followUp.message) 0x1a (b.sendsEndpointDecl cfgB)
  completes : Completes (ptpSendDelayReq cfgA a send).1.port0.peerExchange
    (PtpDelayResp.read (b.onWire response.message))
    (PtpDelayRespFollowUp.read (b.onWire followUp.message)) receive responseUs followUpUs
  receiveTime :
    ptpFormatToTimespec (PtpDelayResp.read (b.onWire response.message)).receivetimestamp =
      b.port0.rxtime
  transmitTime :
    ptpFormatToTimespec
      (PtpDelayRespFollowUp.read (b.onWire followUp.message)).origintimestamp = transmitted

/-- **Initiator and responder agree.** The request is let in by the responder, both answers by
    the initiator; a published exchange that receives them before its deadline accepts the
    first and measures with the second; and the times they carry are the responder's. -/
theorem peerDelay_agrees (cfgA cfgB : Config) (a : PtpState F n) (b : PtpState F m)
    (hpair : PeerPair cfgA cfgB a b) (send : SendDelayReqReadings)
    (hpublished : (ptpSendDelayReq cfgA a send).1.port0.peerExchange.published = true)
    (transmitted mono receive : Timespec) (hreceived : b.port0.rxtime.Short)
    (htransmitted : transmitted.Short) (hreceive : receive.Normalized)
    (responseUs followUpUs : Int)
    (hresponse : responseUs < (ptpSendDelayReq cfgA a send).1.port0.peerExchange.deadlineUs)
    (hfollowUp : followUpUs < (ptpSendDelayReq cfgA a send).1.port0.peerExchange.deadlineUs) :
    ∃ request response followUp : PtpFrame,
      AgreedExchange cfgA cfgB a b send transmitted mono receive responseUs followUpUs request
        response followUp := by
  have hsend : ptpSendDelayReq cfgA a send = sendPdelayReq cfgA a send := by
    unfold ptpSendDelayReq
    rw [if_pos hpair.gptpA]
  have hpub : (sendPdelayReq cfgA a send).1.port0.peerExchange.published = true := by
    rw [← hsend]
    exact hpublished
  obtain ⟨hsent, -, hstamp, -⟩ := sendPdelayReq_published hpub
  obtain ⟨request, hfirst, hrequest, hrequestArrives⟩ := request_sent hpair hsent
  -- The answers are to what arrives.
  obtain ⟨response, followUp, hsecond, hresponseArrives, hfollowUpArrives, hreadR, hreadF⟩ :=
    answers_sent hpair (PtpDelayReq.read (a.onWire request)) transmitted mono
  have hmatch := hreadR.match hpair hrequest hreadF hreceived htransmitted hstamp hreceive
  rw [hsend] at hresponse hfollowUp
  have hcompletes := sendPdelayReq_completes hpub hmatch hresponse hfollowUp
  rw [← hsend] at hcompletes
  exact ⟨⟨request, none⟩, ⟨response, none⟩, ⟨followUp, none⟩, hfirst, hsecond,
    hrequestArrives, hresponseArrives, hfollowUpArrives, hcompletes,
    (congrArg ptpFormatToTimespec hreadR.time).trans
      (ptpFormatToTimespec_timespecToPtpFormat cfgB (hreceived.encodable cfgB)),
    (congrArg ptpFormatToTimespec hreadF.time).trans
      (ptpFormatToTimespec_timespecToPtpFormat cfgB (htransmitted.encodable cfgB))⟩

end Exchange

namespace Sample

/-- A wired gPTP instance with clock `c…c`, that received something at this time. -/
def peerInstance (c : UInt8) (rxtime : Timespec) : PtpState Rat 0 :=
  let identity : PtpAnnounce :=
    { (default : PtpAnnounce) with
      header := { (default : PtpHeader) with sourceidentity := Vector.replicate 8 c, version := 2 } }
  let port : PtpPort Rat :=
    { (default : PtpPort Rat) with
      medium := .ethHwts
      enabled := true
      linkUp := true
      delayreqIntervalMs := 1000
      rxtime := rxtime }
  { (default : PtpState Rat 0) with
    ports := fun _ => port
    activePtpProfile := .gptp
    ownIdentity := identity
    delayReqSeq := 65535 }

def peerSend : SendDelayReqReadings :=
  { (default : SendDelayReqReadings) with
    requestUs := 100
    expireUs := 101
    sent := true
    stamp := some ⟨7, 500⟩
    publishUs := 300 }

end Sample

/-- The last sequence number before they start again, between an instance that declares itself
    and one that does not. -/
theorem peerDelay_agrees_wrapped :
    ∃ request response followUp : PtpFrame,
      AgreedExchange Sample.config { Sample.config with avbLiteEndpoint := false }
        (Sample.peerInstance 1 default) (Sample.peerInstance 2 ⟨4294967295, 999999999⟩)
        Sample.peerSend ⟨4294967295, 0⟩ default ⟨7, 900⟩ 1000 2000 request response followUp := by
  refine peerDelay_agrees Sample.config { Sample.config with avbLiteEndpoint := false }
    (Sample.peerInstance 1 default) (Sample.peerInstance 2 ⟨4294967295, 999999999⟩)
    ⟨rfl, rfl, ?_, rfl, rfl⟩ Sample.peerSend ?_ ⟨4294967295, 0⟩ default ⟨7, 900⟩
    ⟨by decide, by decide, by decide⟩ ⟨by decide, by decide, by decide⟩ (by decide) 1000 2000 ?_ ?_
  · decide
  · decide +kernel
  · decide +kernel
  · decide +kernel

end EspPtp
