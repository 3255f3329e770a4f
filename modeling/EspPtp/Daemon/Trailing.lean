import EspPtp.Daemon.Arrival
import EspPtp.Daemon.Run
import EspPtp.Daemon.Rxbuf
import EspPtp.Wire.AgreeScan

/-!
# Bytes behind a message

The receive buffer is a union that every frame is received into, so behind a message there
is padding, or what an earlier frame left. No handler looks there: the minimum length of a
type is at least what the handlers of that type read, in either profile.

Every lemma is about one reader or one branch, on two messages that agree as far as the
length the frame was admitted with.
-/

namespace EspPtp

open Lib

variable {F : Type} {n : Nat} [CDouble F] (cfg : Config) {a b : Bytes} {length : Nat}

/-! ## What is read -/

theorem ptpUpdateLocalClock_isGptp (s : PtpState F n) (remote localTime : Timespec)
    (clock : ClockAnswers) :
    (ptpUpdateLocalClock cfg s remote localTime clock).1.isGptp = s.isGptp := by
  have hprofile : (ptpUpdateLocalClock cfg s remote localTime clock).1.view.profile =
      s.view.profile := by
    cases ptpUpdateLocalClock_view cfg s remote localTime clock with
    | trimmed h => rw [h]
    | jumped h => rw [h]
  exact congrArg (fun profile => decide (profile = PtpProfile.gptp)) hprofile

theorem followupTaken_isGptp (s : PtpState F n) (msg : PtpFollowUp) :
    (followupTaken s msg).isGptp = s.isGptp := by
  unfold followupTaken
  dsimp only
  split <;> rfl

/-- In the standard profile a Follow_Up is read as far as its time. -/
theorem Agree.processFollowup (h : Agree length a b) (s : PtpState F n)
    (hle : 44 ≤ length ∧ (s.isGptp = true → 76 ≤ length)) (times : FollowupTimes) :
    ptpProcessFollowup cfg s a times = ptpProcessFollowup cfg s b times := by
  cases hgptp : s.isGptp with
  | true =>
    have hlong := hle.2 hgptp
    unfold ptpProcessFollowup followupAccepted followupPublish
    rw [h.followUp hlong, h.timingPayloadValid (by omega)]
  | false =>
    have hheader : PtpHeader.read a = PtpHeader.read b := h.header (by omega)
    have htime : (PtpFollowUp.read a).origintimestamp = (PtpFollowUp.read b).origintimestamp :=
      h.field (by omega)
    have haccepted : followupAccepted s a times.nowUs = followupAccepted s b times.nowUs := by
      unfold followupAccepted PtpFollowUp.read
      dsimp only
      rw [hgptp, hheader]
      rfl
    have htaken : ∀ msg, followupTaken s msg =
        s.withPort0 { s.port0 with twostepPending := false } := by
      intro msg
      unfold followupTaken
      generalize hport : s.withPort0 { s.port0 with twostepPending := false } = t
      have hother : t.isGptp = false := by
        rw [← hport]
        exact hgptp
      dsimp only
      rw [hother, if_neg (by decide)]
    have hsame : (s.withPort0 { s.port0 with twostepPending := false }).isGptp = false := by
      rw [← htaken (PtpFollowUp.read b), followupTaken_isGptp, hgptp]
    have hrest : ∀ t : PtpState F n, t.isGptp = false → ∀ message previous ok,
        followupPublish cfg t message previous ok times = t := by
      intro t ht message previous ok
      unfold followupPublish
      rw [ht]
      simp
    unfold ptpProcessFollowup
    dsimp only
    rw [haccepted, htaken, htaken, htime]
    generalize s.withPort0 { s.port0 with twostepPending := false } = t at hsame ⊢
    by_cases hok : (!followupAccepted s b times.nowUs) = true
    · rw [if_pos hok, if_pos hok]
    · rw [if_neg hok, if_neg hok, hrest _ ((ptpUpdateLocalClock_isGptp ..).trans hsame),
        hrest _ ((ptpUpdateLocalClock_isGptp ..).trans hsame)]

theorem Agree.processAnnounce (h : Agree length a b) (s : PtpState F n) (hle : 64 ≤ length)
    (times : AnnounceTimes) :
    ptpProcessAnnounce cfg s a length times = ptpProcessAnnounce cfg s b length times := by
  unfold ptpProcessAnnounce announceReceived PtpState.storeSource
  rw [h.announce hle, h.pathTraceParse (by omega), h.gmLinkMbps]

/-- The requests of a Signaling message. -/
theorem Agree.signalingRequests (h : Agree length a b) (localPort : PortIdentity) :
    EspPtp.signalingRequests cfg a length localPort =
      EspPtp.signalingRequests cfg b length localPort := by
  unfold EspPtp.signalingRequests ptpSignalingReadCapable ptpSignalingReadCapableInterval
  rw [h.signalingReadCapableTlv, h.signalingReadCapableTlv, h.signalingReadMessageInterval]

/-- The checks of every frame. -/
theorem Agree.rxAdmission (h : Agree (max 34 (a.word 2)) a b) (gptp : Bool)
    {receivedA receivedB : Nat} (hA : 34 ≤ receivedA ∧ a.word 2 ≤ receivedA)
    (hB : 34 ≤ receivedB ∧ a.word 2 ≤ receivedB) :
    EspPtp.rxAdmission cfg gptp a receivedA = EspPtp.rxAdmission cfg gptp b receivedB := by
  have hbounded := h.boundedLength (Nat.le_max_left _ _) hA hB
  have hpayload : ptpTimingPayloadValid a (ptpMessageBoundedLength a receivedA) =
      ptpTimingPayloadValid b (ptpMessageBoundedLength a receivedA) := by
    by_cases hshort : ptpMessageBoundedLength a receivedA < 76
    · unfold ptpTimingPayloadValid
      rw [if_pos hshort, if_pos hshort]
    · apply h.timingPayloadValid
      have hword : ptpMessageBoundedLength a receivedA ≤ a.word 2 := by
        unfold ptpMessageBoundedLength
        dsimp only
        split_ifs <;> omega
      omega
  unfold EspPtp.rxAdmission
  dsimp only
  rw [if_neg (show ¬ receivedA < 34 by omega), if_neg (show ¬ receivedB < 34 by omega),
    ← hbounded, ← hpayload, h.msgtype (by omega), h 4 (by omega), h.isGptp (by omega)]

/-! ## Branch by branch -/

section Branches

variable {s : PtpState F n}

omit [CDouble F] in
theorem rxbuf_withRxbuf (s : PtpState F n) (m : Bytes) : (s.withRxbuf m).port0.rxbuf = m := by
  rw [PtpState.withRxbuf_port0]
  rfl

omit [CDouble F] in
theorem withRxbuf_withRxbuf (s : PtpState F n) (m m' : Bytes) :
    (s.withRxbuf m).withRxbuf m' = s.withRxbuf m' := by
  have hport : (s.withRxbuf m).port0.withRxbuf m' = s.port0.withRxbuf m' := by
    rw [PtpState.withRxbuf_port0]
    rfl
  show (s.withRxbuf m).withPort0 ((s.withRxbuf m).port0.withRxbuf m') = _
  rw [hport]
  simp [PtpState.withRxbuf, PtpState.withPort0, PtpState.withPort]

omit [CDouble F] in
/-- Who sent the frame is not in the buffer. -/
theorem sender_withRxbuf (s : PtpState F n) (m : Bytes) :
    (s.withRxbuf m).port0.sender = s.port0.sender := by
  rw [PtpState.withRxbuf_port0]
  rfl

omit [CDouble F] in
theorem lacksCapability_withRxbuf (s : PtpState F n) (m : Bytes) (times : CapabilityTimes) :
    (s.withRxbuf m).lacksCapability cfg times = s.lacksCapability cfg times := by
  unfold PtpState.lacksCapability PtpState.wiredCapability
  rw [PtpState.withRxbuf_port0]
  rfl

omit [CDouble F] in
theorem noteEndpoint_withRxbuf (h : Agree length s.port0.rxbuf b) :
    (s.withRxbuf b).noteEndpoint length = (s.noteEndpoint length).withRxbuf b := by
  unfold PtpState.noteEndpoint
  rw [rxbuf_withRxbuf, ← h.hasEndpointDeclTlv]
  symm
  exact s.iteOnPort0_withRxbuf b _ (fun port => { port with peerIsEndpoint := true })
    fun _ => rfl

/-- Announce, Sync and Follow_Up. -/
theorem rxTiming_withRxbuf (h : Agree length s.port0.rxbuf b)
    (hmin : 34 ≤ length ∧ minimumLength s.port0.rxbuf ≤ length)
    (hfollow : s.isGptp = true → s.port0.rxbuf.msgtype = .followUp → 76 ≤ length)
    (reads : RxReadings) :
    rxTiming cfg (s.withRxbuf b) length reads = (rxTiming cfg s length reads).withRxbuf b := by
  have hignores : (s.withRxbuf b).ignoresSync = s.ignoresSync := rfl
  unfold rxTiming
  dsimp only
  rw [lacksCapability_withRxbuf, rxbuf_withRxbuf, hignores, ← h.msgtype (by omega)]
  cases s.lacksCapability cfg reads.capability with
  | true =>
    rw [if_pos rfl, if_pos rfl]
    symm
    exact s.onPort0_withRxbuf b (fun port => { port with twostepPending := false })
      fun _ => rfl
  | false =>
    simp only [Bool.false_eq_true, if_false]
    cases cfg.actsAsClient with
    | false => rfl
    | true =>
      simp only [Bool.not_true, Bool.false_eq_true, if_false]
      cases htype : s.port0.rxbuf.msgtype with
      | announce =>
        have hlong : 64 ≤ length := by
          simpa [minimumLength, htype] using hmin.2
        dsimp only
        rw [ptpProcessAnnounce_withRxbuf, h.processAnnounce cfg s hlong]
      | sync =>
        have hlong : 44 ≤ length := by
          simpa [minimumLength, htype] using hmin.2
        cases s.ignoresSync with
        | true => rfl
        | false =>
          simp only [Bool.false_eq_true, if_false]
          rw [ptpProcessSync_withRxbuf, h.sync hlong]
      | followUp =>
        have hlong : 44 ≤ length := by
          have hboth : (if s.port0.rxbuf.u8 0 >>> 4 = 1 then 76 else 44) ≤ length := by
            simpa [minimumLength, htype] using hmin.2
          split_ifs at hboth <;> omega
        cases s.ignoresSync with
        | true => rfl
        | false =>
          simp only [Bool.false_eq_true, if_false]
          rw [ptpProcessFollowup_withRxbuf,
            h.processFollowup cfg s ⟨hlong, fun hgptp => hfollow hgptp htype⟩]
      | _ => rfl

theorem rxDelayResp_withRxbuf (h : Agree length s.port0.rxbuf b) (hlong : 54 ≤ length)
    (reads : RxReadings) :
    rxDelayResp cfg (s.withRxbuf b) length reads =
      (rxDelayResp cfg s length reads).withRxbuf b := by
  unfold rxDelayResp
  dsimp only
  rw [rxbuf_withRxbuf, ← h.msgtype (by omega), ← h.delayResp hlong, noteEndpoint_withRxbuf h,
    ptpProcessDelayResp_withRxbuf, PtpState.withRxbuf_isGptp,
    apply_ite (fun t : PtpState F n => t.withRxbuf b)]

omit [CDouble F] in
theorem rxDelayReq_withRxbuf (h : Agree length s.port0.rxbuf b) (hlong : 44 ≤ length)
    (reads : RxReadings) :
    rxDelayReq cfg (s.withRxbuf b) length reads =
      ((rxDelayReq cfg s length reads).1.withRxbuf b, (rxDelayReq cfg s length reads).2) := by
  unfold rxDelayReq
  rw [rxbuf_withRxbuf, ← h.delayReq hlong, noteEndpoint_withRxbuf h,
    ptpProcessDelayReq_withRxbuf]

omit [CDouble F] in
/-- Signaling, through any port. -/
theorem rxSignaling_withRxbuf (h : Agree length s.port0.rxbuf b) (ingress : Fin (n + 1))
    (reads : RxReadings) :
    rxSignaling cfg (s.withRxbuf b) length ingress reads =
      (rxSignaling cfg s length ingress reads).withRxbuf b := by
  have hassociation : (s.withRxbuf b).port0.rxAssociation = s.port0.rxAssociation := by
    rw [PtpState.withRxbuf_port0]
    rfl
  have hnumbering : (s.withRxbuf b).numbering = s.numbering := rfl
  unfold rxSignaling
  dsimp only
  rw [rxbuf_withRxbuf, sender_withRxbuf, hassociation, hnumbering, signalingLocalPort_withRxbuf]
  cases signalingLocalPort s.numbering ingress (s.ports ingress) s.port0.sender
    s.port0.rxAssociation with
  | none => rfl
  | some localPort =>
    dsimp only [Option.bind_eq_bind, Option.bind_some]
    rw [← h.signalingRequests]
    cases signalingRequests cfg s.port0.rxbuf length localPort with
    | none => rfl
    | some requests =>
      dsimp only
      rw [onRequest_withRxbuf s b ingress _ _ fun port value =>
          handleIndication_withRxbuf b _ port _ _ value _ _,
        onRequest_withRxbuf _ b ingress _ _ fun port value =>
          timingSection_withRxbuf cfg b _ port _ _ value,
        onRequest_withRxbuf _ b ingress _ _ fun port value =>
          intervalSection_withRxbuf b _ port _ _ value]
      rfl

/-- The dispatch of a message of at least its type's length. -/
theorem rxDispatch_withRxbuf (h : Agree length s.port0.rxbuf b)
    (hmin : 34 ≤ length ∧ minimumLength s.port0.rxbuf ≤ length)
    (hfollow : s.isGptp = true → s.port0.rxbuf.msgtype = .followUp → 76 ≤ length)
    (ingress : Fin (n + 1)) (reads : RxReadings) :
    rxDispatch cfg (s.withRxbuf b) length ingress reads =
      ((rxDispatch cfg s length ingress reads).1.withRxbuf b,
        (rxDispatch cfg s length ingress reads).2) := by
  have hpair : ∀ (c : Prop) [Decidable c] (t t' : PtpState F n), t' = t.withRxbuf b →
      (if c then (s.withRxbuf b, ([] : List PtpFrame)) else (t', [])) =
        ((if c then (s, ([] : List PtpFrame)) else (t, [])).1.withRxbuf b,
          (if c then (s, ([] : List PtpFrame)) else (t, [])).2) := by
    intro c _ t t' ht
    subst ht
    split <;> rfl
  unfold rxDispatch
  rw [rxbuf_withRxbuf, ← h.msgtype (by omega)]
  cases htype : s.port0.rxbuf.msgtype with
  | signaling => exact congrArg (·, []) (rxSignaling_withRxbuf cfg h ingress reads)
  | announce | sync | followUp =>
    exact hpair _ _ _ (rxTiming_withRxbuf cfg h hmin hfollow reads)
  | delayResp | pdelayResp =>
    have hlong : 54 ≤ length := by
      simpa [minimumLength, htype] using hmin.2
    exact hpair _ _ _ (rxDelayResp_withRxbuf cfg h hlong reads)
  | delayReq | pdelayReq =>
    have hlong : 44 ≤ length := by
      have := hmin.2
      simp only [minimumLength, htype] at this
      omega
    dsimp only
    cases cfg.actsAsServer with
    | false => rfl
    | true => exact rxDelayReq_withRxbuf cfg h hlong reads
  | pdelayRespFollowUp =>
    have hlong : 54 ≤ length := by
      simpa [minimumLength, htype] using hmin.2
    refine hpair _ _ _ ?_
    rw [← h.delayRespFollowUp hlong, noteEndpoint_withRxbuf h,
      ptpProcessDelayRespFollowUp_withRxbuf]
  | other => rfl

/-! ## The frame -/

omit [CDouble F] in
theorem rxSender_withRxbuf (s : PtpState F n) (m : Bytes) (ingress : Fin (n + 1)) :
    rxSender cfg (s.withRxbuf m) ingress =
      ((rxSender cfg s ingress).1.withRxbuf m, (rxSender cfg s ingress).2) := by
  have hcheck := s.ports_withRxbuf m ingress
    (fun port => senderCheck cfg s.isGptp port s.port0.sender) fun _ => rfl
  unfold rxSender
  rw [sender_withRxbuf, PtpState.withRxbuf_isGptp, hcheck]
  cases senderCheck cfg s.isGptp (s.ports ingress) s.port0.sender with
  | none => rfl
  | some checked =>
    have hport := s.onPort0_withRxbuf m
      (fun port => { port with rxAssociation := checked.2 }) fun _ => rfl
    exact Prod.ext hport.symm rfl

omit [CDouble F] in
/-- What happens before the dispatch. -/
theorem rxArrival_withRxbuf {s : PtpState F n} (h : Agree (max 34 (s.port0.rxbuf.word 2))
    s.port0.rxbuf b) {receivedA receivedB : Nat}
    (hA : 34 ≤ receivedA ∧ s.port0.rxbuf.word 2 ≤ receivedA)
    (hB : 34 ≤ receivedB ∧ s.port0.rxbuf.word 2 ≤ receivedB) (ingress : Fin (n + 1))
    (mono : Timespec) :
    rxArrival cfg (s.withRxbuf b) receivedB ingress mono =
      ((rxArrival cfg s receivedA ingress mono).1.withRxbuf b,
        (rxArrival cfg s receivedA ingress mono).2) := by
  unfold rxArrival
  rw [rxbuf_withRxbuf, PtpState.withRxbuf_isGptp, ← h.rxAdmission cfg s.isGptp hA hB,
    ← h 1 (by omega)]
  cases rxAdmission cfg s.isGptp s.port0.rxbuf receivedA with
  | dropped => rfl
  | otherSdoid =>
    have hport := s.onPort_withRxbuf b ingress
      (fun port => { port with lastSocketAlive := mono }) fun _ => rfl
    exact Prod.ext hport.symm rfl
  | admitted length =>
    dsimp only
    generalize (if s.port0.rxbuf.u8 1 >>> 4 ≠ 0 then (1 : UInt8) else 0) = minor
    have hversion := s.onPort_withRxbuf b ingress
      (fun port => { port with rxMinorVersion := minor }) fun _ => rfl
    rw [← hversion]
    generalize s.withPort ingress { s.ports ingress with rxMinorVersion := minor } = t
    rw [rxSender_withRxbuf]
    generalize rxSender cfg t ingress = sender
    obtain ⟨after, accepted⟩ := sender
    cases accepted with
    | false => rfl
    | true =>
      have hport := after.onPort_withRxbuf b ingress
        (fun port => { port with lastReceivedMulticast := mono }) fun _ => rfl
      exact Prod.ext hport.symm rfl

omit [CDouble F] in
/-- An admitted message has the length it gives itself, which its type asks for. -/
theorem FramePasses.word {s : PtpState F n} {received : Nat} {ingress : Fin (n + 1)}
    (h : FramePasses cfg s received ingress) :
    ptpMessageBoundedLength s.port0.rxbuf received = s.port0.rxbuf.word 2 ∧
      minimumLength s.port0.rxbuf ≤ s.port0.rxbuf.word 2 := by
  have hbounded := h.bounded
  unfold ptpMessageBoundedLength at hbounded ⊢
  dsimp only at hbounded ⊢
  split_ifs at hbounded ⊢ with hshort hlength
  · exact absurd rfl hbounded
  · exact absurd rfl hbounded
  · exact ⟨rfl, by omega⟩

theorem minimumLength_header (message : Bytes) : 34 ≤ minimumLength message := by
  unfold minimumLength
  cases message.msgtype with
  | followUp =>
    dsimp only
    split <;> omega
  | _ =>
    dsimp only
    omega

/-- **Bytes behind a message never matter.** Two buffers that agree as far as the message
    goes are processed alike, however much was received with it: the daemon is left in the
    same state, up to the buffer itself, and sends the same frames. -/
theorem ptpProcessRxPacket_trailing (s : PtpState F n) (a b : Bytes) (receivedA receivedB : Nat)
    (ingress : Fin (n + 1)) (reads : RxReadings) (h : Agree (max 34 (a.word 2)) a b)
    (hA : 34 ≤ receivedA ∧ a.word 2 ≤ receivedA) (hB : 34 ≤ receivedB ∧ a.word 2 ≤ receivedB) :
    ptpProcessRxPacket cfg (s.withRxbuf b) receivedB ingress reads =
      ((ptpProcessRxPacket cfg (s.withRxbuf a) receivedA ingress reads).1.withRxbuf b,
        (ptpProcessRxPacket cfg (s.withRxbuf a) receivedA ingress reads).2) := by
  generalize hs : s.withRxbuf a = sa
  have hbuf : sa.port0.rxbuf = a := by
    rw [← hs, rxbuf_withRxbuf]
  subst hbuf
  have hsb : s.withRxbuf b = sa.withRxbuf b := by
    rw [← hs, withRxbuf_withRxbuf]
  rw [hsb]
  unfold ptpProcessRxPacket
  dsimp only
  rw [rxArrival_withRxbuf cfg h hA hB]
  cases harrival : (rxArrival cfg sa receivedA ingress reads.mono).2 with
  | none => rfl
  | some length =>
    dsimp only
    have hpasses := (rxArrival_some_iff cfg sa receivedA ingress reads.mono length).mp harrival
    have hlength := hpasses.1.word cfg
    have hstamps := rxArrival_unstamped cfg sa receivedA ingress reads.mono
    generalize (rxArrival cfg sa receivedA ingress reads.mono).1 = t at hstamps ⊢
    have hsame : t.port0.rxbuf = sa.port0.rxbuf := by
      show t.unstamped.port0.rxbuf = _
      rw [hstamps]
      rfl
    have hprofile : t.isGptp = sa.isGptp := by
      show t.unstamped.isGptp = _
      rw [hstamps]
      rfl
    have hword : length = sa.port0.rxbuf.word 2 := hpasses.2.trans hlength.1
    have hheader := minimumLength_header sa.port0.rxbuf
    rw [← hsame] at h hlength hheader hword
    refine rxDispatch_withRxbuf cfg (h.mono (by omega)) ⟨by omega, by omega⟩ ?_ ingress reads
    intro hgptp htype
    have hpayload := hpasses.1.payload (hprofile ▸ hgptp) (hsame ▸ htype)
    by_contra hshort
    unfold ptpTimingPayloadValid at hpayload
    rw [← hpasses.2, if_pos (by omega)] at hpayload
    cases hpayload

end Branches

/-- An Announce of 64 bytes, and the same received with what looks like a TLV behind it. -/
theorem ptpProcessRxPacket_trailing_announce :
    Agree (max 34 ((Sample.neighborAnnounce 100).word 2)) (Sample.neighborAnnounce 100)
        (Sample.neighborAnnounce 100 ++ [0, 8, 0, 8, 2, 2, 2, 2, 2, 2, 2, 2]) ∧
      ptpProcessRxPacket Sample.config
          (Sample.alone.withRxbuf
            (Sample.neighborAnnounce 100 ++ [0, 8, 0, 8, 2, 2, 2, 2, 2, 2, 2, 2])) 76 0 default =
        ((ptpProcessRxPacket Sample.config
            (Sample.alone.withRxbuf (Sample.neighborAnnounce 100)) 64 0 default).1.withRxbuf
              (Sample.neighborAnnounce 100 ++ [0, 8, 0, 8, 2, 2, 2, 2, 2, 2, 2, 2]),
          (ptpProcessRxPacket Sample.config
            (Sample.alone.withRxbuf (Sample.neighborAnnounce 100)) 64 0 default).2) := by
  have hagree : Agree (max 34 ((Sample.neighborAnnounce 100).word 2))
      (Sample.neighborAnnounce 100)
      (Sample.neighborAnnounce 100 ++ [0, 8, 0, 8, 2, 2, 2, 2, 2, 2, 2, 2]) :=
    (Agree.append _ _).symm.mono (by decide)
  exact ⟨hagree, ptpProcessRxPacket_trailing Sample.config Sample.alone _ _ 64 76 0 default
    hagree (by decide) (by decide)⟩

end EspPtp
