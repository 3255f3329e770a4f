import EspPtp.Daemon.DelayTimer

/-!
# The endpoint beacon and the sequence of requests (`ptp_send_endpoint_beacon`)

After a fallback to the standard profile the daemon declares itself an endpoint every three
seconds, with a Pdelay_Req that nobody is to answer. It draws its number from
`delay_req_seq`, as the Delay_Req of the timer does, and `ptp_process_delay_resp` compares an
answer with that counter and not with the request that went out. So an answer is accepted
while no number has been drawn since its request — `delayResp_accepted_iff` — and a beacon, or
a request that could not be sent, takes the answer to the one before it away.
-/

namespace EspPtp

open Lib

variable {F : Type} {n : Nat}

/-! ## The beacon -/

/-- `LLDP_MULTICAST_ADDR`. -/
def lldpMulticastAddr : MacAddr := #v[0x01, 0x80, 0xc2, 0x00, 0x00, 0x0e]

/-- The header of a beacon, before its sequence number. Only the low byte of its length is
    written. -/
def endpointBeaconHeader (s : PtpState F n) : PtpHeader :=
  let own := s.ownIdentity.header
  { own with
    messagetype := 0x12
    messagelength := octets (octet0 own.messagelength) 66
    flags := octets (octet0 own.flags) 8
    controlfield := 5 }

/-- `ptp_send_endpoint_beacon`. -/
def ptpSendEndpointBeacon (s : PtpState F n) (sent : Bool) : PtpState F n × List PtpFrame :=
  let next := ptpIncrementSequence s.delayReqSeq (endpointBeaconHeader s)
  let message := next.2.write ++ (List.replicate 20 0 : Bytes) ++ endpointDeclTlv
  ({ s with delayReqSeq := next.1 },
    if sent then [⟨message, some lldpMulticastAddr⟩] else [])

/-- A beacon is due: at once after the fallback, and then every three seconds. -/
def endpointBeaconDue (s : PtpState F n) (mono : Timespec) : Bool :=
  s.gptpFallbackDone && decide (s.activePtpProfile = .standard) && s.port0.enabled &&
    decide (s.port0.medium = .ethHwts) && s.port0.socketOpen &&
    (decide (s.port0.lastEndpointBeacon.tvSec = 0) ||
      decide (timespecToMs (timespecSub mono s.port0.lastEndpointBeacon) ≥ 3000))

/-- The end of `ptp_periodic_send`. -/
def periodicEndpointBeacon (s : PtpState F n) (mono : Timespec) (sent : Bool) :
    PtpState F n × List PtpFrame :=
  if endpointBeaconDue s mono then
    let beacon := ptpSendEndpointBeacon s sent
    (beacon.1.withPort0 { beacon.1.port0 with lastEndpointBeacon := mono }, beacon.2)
  else (s, [])

/-! ## Who draws a number -/

/-- Whatever leaves the counter and the daemon's identity alone: all messages that are
    received, and the passes of the loop. -/
structure SequenceElsewhere (F : Type) (n : Nat) where
  act : PtpState F n → PtpState F n
  delayReqSeq : ∀ s, (act s).delayReqSeq = s.delayReqSeq
  ownIdentity : ∀ s, (act s).ownIdentity = s.ownIdentity

inductive RequestStep (F : Type) (n : Nat) where
  | sendDelayReq (reads : SendDelayReqReadings)
  | periodic (mono : Timespec) (sent : Bool)
  | elsewhere (other : SequenceElsewhere F n)

def requestAct (cfg : Config) (s : PtpState F n) : RequestStep F n → PtpState F n
  | .sendDelayReq reads => (ptpSendDelayReq cfg s reads).1
  | .periodic mono sent => (periodicEndpointBeacon s mono sent).1
  | .elsewhere other => other.act s

/-- The numbers a step draws, whether or not its message goes out. -/
def RequestStep.drawn (s : PtpState F n) : RequestStep F n → Nat
  | .sendDelayReq _ => 1
  | .periodic mono _ => if endpointBeaconDue s mono then 1 else 0
  | .elsewhere _ => 0

/-- The numbers a run draws. -/
def numbersDrawn (cfg : Config) (s : PtpState F n) : List (RequestStep F n) → Nat
  | [] => 0
  | step :: steps => step.drawn s + numbersDrawn cfg (requestAct cfg s step) steps

theorem ptpSendDelayReq_sequence (cfg : Config) (s : PtpState F n)
    (reads : SendDelayReqReadings) :
    (ptpSendDelayReq cfg s reads).1.delayReqSeq = s.delayReqSeq + 1 ∧
      (ptpSendDelayReq cfg s reads).1.ownIdentity = s.ownIdentity := by
  unfold ptpSendDelayReq
  split
  · exact ⟨rfl, rfl⟩
  · exact ⟨rfl, rfl⟩

theorem requestAct_sequence (cfg : Config) (s : PtpState F n) (step : RequestStep F n) :
    (requestAct cfg s step).delayReqSeq = s.delayReqSeq + UInt16.ofNat (step.drawn s) ∧
      (requestAct cfg s step).ownIdentity = s.ownIdentity := by
  cases step with
  | sendDelayReq reads => exact ptpSendDelayReq_sequence cfg s reads
  | periodic mono sent =>
    unfold requestAct RequestStep.drawn
    dsimp only
    unfold periodicEndpointBeacon
    by_cases hdue : endpointBeaconDue s mono = true
    · rw [if_pos hdue, if_pos hdue]
      exact ⟨rfl, rfl⟩
    · rw [if_neg hdue, if_neg hdue]
      exact ⟨(UInt16.add_zero _).symm, rfl⟩
  | elsewhere other =>
    refine ⟨?_, other.ownIdentity s⟩
    rw [show RequestStep.drawn s (.elsewhere other) = 0 from rfl]
    exact (other.delayReqSeq s).trans (UInt16.add_zero _).symm

theorem requestAct_foldl_sequence (cfg : Config) (s : PtpState F n)
    (steps : List (RequestStep F n)) :
    (steps.foldl (requestAct cfg) s).delayReqSeq =
        s.delayReqSeq + UInt16.ofNat (numbersDrawn cfg s steps) ∧
      (steps.foldl (requestAct cfg) s).ownIdentity = s.ownIdentity := by
  induction steps generalizing s with
  | nil => exact ⟨(UInt16.add_zero _).symm, rfl⟩
  | cons step steps ih =>
    obtain ⟨hsequence, hidentity⟩ := requestAct_sequence cfg s step
    obtain ⟨hrest, hrestIdentity⟩ := ih (requestAct cfg s step)
    rw [List.foldl_cons, hrest, hrestIdentity, hsequence, hidentity]
    refine ⟨?_, rfl⟩
    rw [UInt16.add_assoc, ← UInt16.ofNat_add]
    rfl

/-! ## The answer -/

/-- The message answers the request that these bytes are: it names its sender and carries its
    number. -/
structure AnswersRequest (request : Bytes) (msg : PtpDelayResp) : Prop where
  reqidentity : msg.reqidentity = (PtpHeader.read request).sourceidentity
  reqportindex : msg.reqportindex = (PtpHeader.read request).sourceportindex
  sequenceid : msg.header.sequenceid = (PtpHeader.read request).sequenceid

variable [CDouble F]

/-- `ptp_process_delay_resp` accepts the message: it passes the checks, nothing is outstanding
    afterwards, and its delay went through the filter. -/
structure DelayRespAccepted (cfg : Config) (s : PtpState F n) (msg : PtpDelayResp)
    (answers : DelayRespAnswers) : Prop where
  expected : delayRespExpected s msg = true
  outstanding : (ptpProcessDelayResp cfg s msg answers).unicastDelayReqOutstanding = false
  misses : (ptpProcessDelayResp cfg s msg answers).unicastDelayReqMisses = 0
  pathDelayNs : (ptpProcessDelayResp cfg s msg answers).port0.pathDelayNs =
    (pathDelayAveraged cfg s.port0 (measuredPathDelay cfg s msg)).pathDelayNs
  pathDelayAvgcount : (ptpProcessDelayResp cfg s msg answers).port0.pathDelayAvgcount =
    (pathDelayAveraged cfg s.port0 (measuredPathDelay cfg s msg)).pathDelayAvgcount

/-- In the standard profile the checks are all there is to pass. -/
theorem delayRespAccepted_iff {cfg : Config} {s : PtpState F n} {msg : PtpDelayResp}
    {answers : DelayRespAnswers} (hstandard : s.isGptp = false) :
    DelayRespAccepted cfg s msg answers ↔ delayRespExpected s msg = true := by
  constructor
  · intro haccepted
    exact haccepted.expected
  · intro hexpected
    have htaken : ptpProcessDelayResp cfg s msg answers =
        delayRespStandard cfg s msg answers.random := by
      unfold ptpProcessDelayResp
      rw [hstandard]
      rfl
    unfold delayRespStandard at htaken
    rw [hexpected] at htaken
    simp only [Bool.not_true, Bool.false_eq_true, if_false] at htaken
    refine ⟨hexpected, ?_, ?_, ?_, ?_⟩
    · rw [htaken]
      rfl
    · rw [htaken]
      rfl
    · rw [htaken, PtpState.withPort0_port0]
    · rw [htaken, PtpState.withPort0_port0]

/-- A counter is where it was after a multiple of its range. -/
theorem eq_add_ofNat_iff (counter : UInt16) (drawn : Nat) :
    counter = counter + UInt16.ofNat drawn ↔ drawn % 2 ^ 16 = 0 := by
  constructor
  · intro hsame
    have hzero : UInt16.ofNat drawn = 0 := by
      rw [← UInt16.add_right_inj counter, ← hsame, UInt16.add_zero]
    have hnat := congrArg UInt16.toNat hzero
    rwa [UInt16.toNat_ofNat'] at hnat
  · intro hround
    have hzero : UInt16.ofNat drawn = 0 := by
      apply UInt16.toNat_inj.mp
      rw [UInt16.toNat_ofNat', hround]
      rfl
    rw [hzero, UInt16.add_zero]

/-- What an answer repeats of the request that it answers. -/
structure RepeatsRequest (s : PtpState F n) (msg : PtpDelayResp) : Prop where
  reqidentity : msg.reqidentity = s.ownIdentity.header.sourceidentity
  reqportindex : msg.reqportindex = s.ownIdentity.header.sourceportindex
  sequence : ptpGetSequence msg.header = s.delayReqSeq + 1

omit [CDouble F] in
theorem repeatsRequest_sent (cfg : Config) {s : PtpState F n} {reads : SendDelayReqReadings}
    {msg : PtpDelayResp} (hrequest : s.isGptp = false) (hsent : reads.sent = true)
    (hanswers : ∀ frame ∈ (ptpSendDelayReq cfg s reads).2, AnswersRequest frame.message msg) :
    RepeatsRequest s msg := by
  obtain ⟨frame, unicast, hframes, hread⟩ := ptpSendDelayReq_sent cfg reads hrequest hsent
  have hmatch := hanswers frame (by rw [hframes]; exact List.mem_singleton_self frame)
  obtain ⟨-, hsourceidentity, hsourceport⟩ := delayReqHeader_standard hrequest unicast
  refine ⟨?_, ?_, ?_⟩
  · rw [hmatch.reqidentity, hread]
    exact hsourceidentity
  · rw [hmatch.reqportindex, hread]
    exact hsourceport
  · show be16 msg.header.sequenceid = _
    rw [hmatch.sequenceid, hread]
    exact ptpGetSequence_increment s.delayReqSeq (delayReqHeader s unicast)

/-- **How long an answer is good.** In the standard profile, an answer of the selected source to
    a Delay_Req that went out is accepted exactly when the numbers drawn since then, for beacons
    and for other requests, are a multiple of the counter's range: none, in practice. -/
theorem delayResp_accepted_iff (cfg : Config) (s₀ : PtpState F n)
    (before : List (RequestStep F n)) (reads : SendDelayReqReadings)
    (after : List (RequestStep F n)) (msg : PtpDelayResp) (answers : DelayRespAnswers)
    (hrequest : (before.foldl (requestAct cfg) s₀).isGptp = false)
    (hsent : reads.sent = true)
    (hanswers : ∀ frame ∈ (ptpSendDelayReq cfg (before.foldl (requestAct cfg) s₀) reads).2,
      AnswersRequest frame.message msg) :
    let s := (before ++ .sendDelayReq reads :: after).foldl (requestAct cfg) s₀
    s.isGptp = false → s.selectedSourceValid = true →
      msg.header.sourceidentity = s.selectedSource.header.sourceidentity →
      (DelayRespAccepted cfg s msg answers ↔
        numbersDrawn cfg (requestAct cfg (before.foldl (requestAct cfg) s₀)
          (.sendDelayReq reads)) after % 2 ^ 16 = 0) := by
  intro s hstandard hvalid hsource
  have hrun : s = after.foldl (requestAct cfg)
      (requestAct cfg (before.foldl (requestAct cfg) s₀) (.sendDelayReq reads)) := by
    show List.foldl _ _ _ = _
    rw [List.foldl_append]
    rfl
  generalize before.foldl (requestAct cfg) s₀ = s₁ at hrequest hanswers hrun ⊢
  obtain ⟨hsequence, hidentity⟩ :=
    requestAct_foldl_sequence cfg (requestAct cfg s₁ (.sendDelayReq reads)) after
  obtain ⟨hdrawn, hown⟩ := ptpSendDelayReq_sequence cfg s₁ reads
  rw [← hrun] at hsequence hidentity
  change s.delayReqSeq = (ptpSendDelayReq cfg s₁ reads).1.delayReqSeq + _ at hsequence
  change s.ownIdentity = (ptpSendDelayReq cfg s₁ reads).1.ownIdentity at hidentity
  rw [hdrawn] at hsequence
  rw [hown] at hidentity
  generalize numbersDrawn cfg _ after = drawn at hsequence ⊢
  have hrepeats := repeatsRequest_sent cfg hrequest hsent hanswers
  have hreqidentity : msg.reqidentity = s.ownIdentity.header.sourceidentity := by
    rw [hrepeats.reqidentity, hidentity]
  have hreqport : msg.reqportindex = s.ownIdentity.header.sourceportindex := by
    rw [hrepeats.reqportindex, hidentity]
  rw [delayRespAccepted_iff hstandard]
  unfold delayRespExpected
  rw [hvalid, decide_eq_true hsource, decide_eq_true hreqidentity, decide_eq_true hreqport]
  simp only [Bool.true_and, decide_eq_true_eq]
  rw [hrepeats.sequence, hsequence]
  exact eq_add_ofNat_iff _ _

namespace Sample

/-- A follower after a fallback, about to declare itself. -/
def fallenBackFollower : PtpState ℚ 0 := { follower with gptpFallbackDone := true }

/-- The answer of the source to the follower's next request. -/
def nextAnswer : PtpDelayResp :=
  { (default : PtpDelayResp) with
    header := { (default : PtpHeader) with sequenceid := #v[0, 1] } }

end Sample

/-- A request goes out, then a beacon, and the answer to the request is refused. -/
theorem not_delayResp_accepted :
    ¬ ∀ (cfg : Config) (s₀ : PtpState ℚ 0) (before : List (RequestStep ℚ 0))
      (reads : SendDelayReqReadings) (after : List (RequestStep ℚ 0)) (msg : PtpDelayResp)
      (answers : DelayRespAnswers),
      (before.foldl (requestAct cfg) s₀).isGptp = false → reads.sent = true →
      (∀ frame ∈ (ptpSendDelayReq cfg (before.foldl (requestAct cfg) s₀) reads).2,
        AnswersRequest frame.message msg) →
      (∀ step ∈ after, ∀ reads, step ≠ .sendDelayReq reads) →
      let s := (before ++ .sendDelayReq reads :: after).foldl (requestAct cfg) s₀
      s.isGptp = false → s.selectedSourceValid = true →
        msg.header.sourceidentity = s.selectedSource.header.sourceidentity →
        DelayRespAccepted cfg s msg answers := by
  intro hclaim
  have haccepted := hclaim Sample.config Sample.fallenBackFollower [] Sample.goesOut
    [.periodic ⟨5, 0⟩ true] Sample.nextAnswer default (by decide +kernel) rfl
    (by
      intro frame hframe
      rw [List.mem_singleton.mp hframe]
      exact ⟨by decide +kernel, by decide +kernel, by decide +kernel⟩)
    (by
      intro step hstep reads hreads
      rw [List.mem_singleton.mp hstep] at hreads
      cases hreads)
    (by decide +kernel) (by decide +kernel) (by decide +kernel)
  exact absurd haccepted.expected (by decide +kernel)

/-- Before the beacon it is accepted. -/
theorem delayResp_accepted_iff_next :
    DelayRespAccepted Sample.config
        ([.sendDelayReq Sample.goesOut].foldl (requestAct Sample.config)
          Sample.fallenBackFollower) Sample.nextAnswer default ↔
      numbersDrawn Sample.config (requestAct Sample.config Sample.fallenBackFollower
        (.sendDelayReq Sample.goesOut)) [] % 2 ^ 16 = 0 :=
  delayResp_accepted_iff Sample.config Sample.fallenBackFollower [] Sample.goesOut []
    Sample.nextAnswer default (by decide +kernel) rfl
    (by
      intro frame hframe
      rw [List.mem_singleton.mp hframe]
      exact ⟨by decide +kernel, by decide +kernel, by decide +kernel⟩)
    (by decide +kernel) (by decide +kernel) (by decide +kernel)

end EspPtp
