import EspPtp.Daemon.Source

/-!
# The receive buffer in the state

The receive buffer is part of port 0, and a handler is given the message it reads from there
beside a state that still has the buffer in it. So there are two ways a byte could reach a
handler, and this module closes one of them: once the message is read, the buffer can be
exchanged before or after the handler runs (`withRxbuf`).
-/

namespace EspPtp

open Lib

variable {F : Type} {n : Nat}

/-- The port with another receive buffer. -/
def PtpPort.withRxbuf (port : PtpPort F) (m : Bytes) : PtpPort F := { port with rxbuf := m }

/-- The buffer is exchanged in the branch that is taken. -/
theorem PtpPort.ite_withRxbuf (c : Prop) [Decidable c] (a b : PtpPort F) (m : Bytes) :
    (if c then a else b).withRxbuf m = if c then a.withRxbuf m else b.withRxbuf m :=
  apply_ite (fun port : PtpPort F => port.withRxbuf m) c a b

namespace PtpState

/-- The daemon with another receive buffer. -/
def withRxbuf (s : PtpState F n) (m : Bytes) : PtpState F n :=
  s.withPort0 (s.port0.withRxbuf m)

variable (s : PtpState F n) (m : Bytes)

@[simp] theorem withRxbuf_port0 : (s.withRxbuf m).port0 = s.port0.withRxbuf m :=
  s.withPort0_port0 _

@[simp] theorem withRxbuf_toPtpServo : (s.withRxbuf m).toPtpServo = s.toPtpServo := rfl

@[simp] theorem withRxbuf_toPtpSelection :
    (s.withRxbuf m).toPtpSelection = s.toPtpSelection := rfl

@[simp] theorem withRxbuf_toPtpTimeBase : (s.withRxbuf m).toPtpTimeBase = s.toPtpTimeBase := rfl

@[simp] theorem withRxbuf_toPtpTiming : (s.withRxbuf m).toPtpTiming = s.toPtpTiming := rfl

@[simp] theorem withRxbuf_ownIdentity : (s.withRxbuf m).ownIdentity = s.ownIdentity := rfl

@[simp] theorem withRxbuf_delayReqSeq : (s.withRxbuf m).delayReqSeq = s.delayReqSeq := rfl

@[simp] theorem withRxbuf_isGptp : (s.withRxbuf m).isGptp = s.isGptp := rfl

theorem ite_withRxbuf (c : Prop) [Decidable c] (s t : PtpState F n) :
    (if c then s else t).withRxbuf m = if c then s.withRxbuf m else t.withRxbuf m :=
  apply_ite (fun t : PtpState F n => t.withRxbuf m) c s t

/-- A port with the buffer is written to a state with the buffer. -/
theorem withPort0_withRxbuf (port : PtpPort F) :
    (s.withPort0 port).withRxbuf m = (s.withRxbuf m).withPort0 (port.withRxbuf m) := by
  simp [withRxbuf, withPort0, withPort, port0]

/-- What is done to port 0 is done over the buffer, if it is done to a port that way. -/
theorem onPort0_withRxbuf (g : PtpPort F → PtpPort F)
    (hg : ∀ port : PtpPort F, g (port.withRxbuf m) = (g port).withRxbuf m) :
    (s.withPort0 (g s.port0)).withRxbuf m =
      (s.withRxbuf m).withPort0 (g (s.withRxbuf m).port0) := by
  rw [withRxbuf_port0, hg, withPort0_withRxbuf]

/-- What is done to any port is done over the buffer. -/
theorem onPort_withRxbuf (p : Fin (n + 1)) (g : PtpPort F → PtpPort F)
    (hg : ∀ port : PtpPort F, g (port.withRxbuf m) = (g port).withRxbuf m) :
    (s.withPort p (g (s.ports p))).withRxbuf m =
      (s.withRxbuf m).withPort p (g ((s.withRxbuf m).ports p)) := by
  by_cases hp : p = 0
  · subst hp
    exact s.onPort0_withRxbuf m g hg
  · have hother : (s.withRxbuf m).ports p = s.ports p := s.withPort_ports_of_ne hp _
    have hzero : (s.withPort p (g (s.ports p))).port0 = s.port0 :=
      s.withPort_ports_of_ne (Ne.symm hp) _
    rw [hother]
    unfold withRxbuf
    rw [hzero]
    unfold withPort0 withPort
    dsimp only
    rw [Function.update_comm hp]

/-- What is read of a port but not its buffer is the same. -/
theorem ports_withRxbuf {α : Type} (p : Fin (n + 1)) (f : PtpPort F → α)
    (hf : ∀ port : PtpPort F, f (port.withRxbuf m) = f port) :
    f ((s.withRxbuf m).ports p) = f (s.ports p) := by
  by_cases hp : p = 0
  · subst hp
    have hport : (s.withRxbuf m).ports 0 = (s.ports 0).withRxbuf m := s.withRxbuf_port0 m
    rw [hport, hf]
  · exact congrArg f (s.withPort_ports_of_ne hp _)

/-- And so it is when it is not always done. -/
theorem iteOnPort0_withRxbuf (c : Prop) [Decidable c] (g : PtpPort F → PtpPort F)
    (hg : ∀ port : PtpPort F, g (port.withRxbuf m) = (g port).withRxbuf m) :
    (if c then s.withPort0 (g s.port0) else s).withRxbuf m =
      if c then (s.withRxbuf m).withPort0 (g (s.withRxbuf m).port0) else s.withRxbuf m := by
  split
  · exact s.onPort0_withRxbuf m g hg
  · rfl

end PtpState

/-! ## The local clock -/

theorem cleanAfterStep_withRxbuf (s : PtpState F n) (m : Bytes) :
    (s.withRxbuf m).cleanAfterStep = s.cleanAfterStep.withRxbuf m := by
  have hport := s.onPort0_withRxbuf m
    (fun port => { port with toPtpPeerPort := ptpCleanAfterStep port.toPtpPeerPort })
    fun _ => rfl
  unfold PtpState.cleanAfterStep
  dsimp only at hport ⊢
  rw [← hport]
  rfl

section Clock

variable [CDouble F]

theorem sourceOffsetNs_withRxbuf (cfg : Config) (s : PtpState F n) (m : Bytes)
    (remote localTime : Timespec) :
    sourceOffsetNs cfg (s.withRxbuf m) remote localTime =
      sourceOffsetNs cfg s remote localTime := by
  unfold sourceOffsetNs
  rw [PtpState.withRxbuf_port0]
  rfl

theorem ptpLockLocalClockFreq_withRxbuf (cfg : Config) (s : PtpState F n) (m : Bytes)
    (remote localTime : Timespec) (clock : ClockAnswers) :
    ptpLockLocalClockFreq cfg (s.withRxbuf m) remote localTime clock =
      (ptpLockLocalClockFreq cfg s remote localTime clock).withRxbuf m := by
  unfold ptpLockLocalClockFreq
  dsimp only
  rw [sourceOffsetNs_withRxbuf]
  symm
  exact PtpState.iteOnPort0_withRxbuf _ m _ (fun port => { port with canSendDelayreq := true })
    fun _ => rfl

theorem ptpUpdateLocalClock_withRxbuf (cfg : Config) (s : PtpState F n) (m : Bytes)
    (remote localTime : Timespec) (clock : ClockAnswers) :
    ptpUpdateLocalClock cfg (s.withRxbuf m) remote localTime clock =
      ((ptpUpdateLocalClock cfg s remote localTime clock).1.withRxbuf m,
        (ptpUpdateLocalClock cfg s remote localTime clock).2) := by
  unfold ptpUpdateLocalClock
  dsimp only
  rw [sourceOffsetNs_withRxbuf, ptpLockLocalClockFreq_withRxbuf]
  split
  · refine Prod.ext ?_ rfl
    have hclean := cleanAfterStep_withRxbuf
      { s with
        clockStepsNs :=
          if clock.settimeOk then s.clockStepsNs + timespecDeltaNs cfg remote localTime
          else s.clockStepsNs
        lastDeltaTimestamp := timespecAdd (timespecSub clock.now localTime) remote
        lastDeltaNs := 0
        lastAdjtimeNs := 0
        driftAvgTotalMs := 0
        driftPpb := 0 } m
    exact congrArg (fun t : PtpState F n => { t with clockUpdates := t.clockUpdates + 1 }) hclean
  · rfl

end Clock

/-! ## The handlers, on what was read -/

section Handlers

variable [CDouble F] (cfg : Config) (s : PtpState F n) (m : Bytes)

theorem ptpProcessSync_withRxbuf (msg : PtpSync) (times : SyncTimes) :
    ptpProcessSync cfg (s.withRxbuf m) msg times =
      (ptpProcessSync cfg s msg times).withRxbuf m := by
  have hport := s.onPort0_withRxbuf m
    (fun port => { port with lastReceivedSync := times.mono, twostepPending := false })
    fun _ => rfl
  unfold ptpProcessSync
  simp only [PtpState.withRxbuf_toPtpSelection]
  by_cases hsource : msg.header.sourcePort ≠ s.selectedSource.header.sourcePort
  · rw [if_pos hsource, if_pos hsource]
  · rw [if_neg hsource, if_neg hsource]
    rw [← hport]
    generalize s.withPort0 { s.port0 with lastReceivedSync := times.mono, twostepPending := false } = t
    cases msg.header.isTwoStep with
    | true =>
      rw [if_pos rfl, if_pos rfl]
      symm
      exact t.onPort0_withRxbuf m
        (fun port =>
          { port with
            twostepRxtime := port.rxtime
            twostepPacket := msg
            twostepReceivedUs := times.receivedUs
            twostepPending := true })
        fun _ => rfl
    | false =>
      rw [if_neg (by decide), if_neg (by decide), PtpState.withRxbuf_port0]
      exact congrArg Prod.fst (ptpUpdateLocalClock_withRxbuf cfg t m _ _ _)

omit [CDouble F] in
theorem followupAccepted_withRxbuf (message : Bytes) (nowUs : Int) :
    followupAccepted (s.withRxbuf m) message nowUs = followupAccepted s message nowUs := by
  unfold followupAccepted
  rw [PtpState.withRxbuf_port0]
  rfl

theorem followupTaken_withRxbuf (msg : PtpFollowUp) :
    followupTaken (s.withRxbuf m) msg = (followupTaken s msg).withRxbuf m := by
  have hport := s.onPort0_withRxbuf m (fun port => { port with twostepPending := false })
    fun _ => rfl
  unfold followupTaken
  dsimp only at hport ⊢
  rw [← hport]
  generalize s.withPort0 { s.port0 with twostepPending := false } = t
  rw [PtpState.withRxbuf_isGptp]
  split <;> rfl

theorem followupSnapshot_withRxbuf (msg : PtpFollowUp) (publishedUs : Int) :
    followupSnapshot cfg (s.withRxbuf m) msg publishedUs =
      followupSnapshot cfg s msg publishedUs := by
  unfold followupSnapshot
  rw [PtpState.withRxbuf_port0]
  rfl

theorem followupPublish_withRxbuf (message : Bytes) (previous : UInt32) (ok : Bool)
    (times : FollowupTimes) :
    followupPublish cfg (s.withRxbuf m) message previous ok times =
      (followupPublish cfg s message previous ok times).withRxbuf m := by
  have hport := fun c : Prop => fun _ : Decidable c => s.iteOnPort0_withRxbuf m c
    (fun port =>
      { port with
        syncReceipt :=
          (ptpSyncReceiptObserve port.syncReceipt times.observedUs
            port.twostepPacket.header.logmessageinterval.toInt8.toInt times.observedUs).1 })
    fun _ => rfl
  unfold followupPublish
  dsimp only at hport ⊢
  rw [PtpState.withRxbuf_isGptp, ← hport]
  generalize (if (ok && s.isGptp && ptpTimingPayloadValid message 76) = true then
    s.withPort0 _ else s) = t
  rw [followupSnapshot_withRxbuf]
  rw [PtpState.ite_withRxbuf]
  rfl

theorem ptpProcessFollowup_withRxbuf (message : Bytes) (times : FollowupTimes) :
    ptpProcessFollowup cfg (s.withRxbuf m) message times =
      (ptpProcessFollowup cfg s message times).withRxbuf m := by
  unfold ptpProcessFollowup
  dsimp only
  rw [followupAccepted_withRxbuf]
  by_cases haccepted : followupAccepted s message times.nowUs
  · rw [haccepted, if_neg (by decide), if_neg (by decide), followupTaken_withRxbuf]
    generalize followupTaken s (PtpFollowUp.read message) = t
    have hrxtime : (t.withRxbuf m).port0.twostepRxtime = t.port0.twostepRxtime := by
      rw [PtpState.withRxbuf_port0]
      rfl
    rw [hrxtime, ptpUpdateLocalClock_withRxbuf]
    exact followupPublish_withRxbuf ..
  · rw [if_pos (by simpa using haccepted), if_pos (by simpa using haccepted)]

/-! ### Announce -/

omit [CDouble F] in
theorem announceRefused_withRxbuf (msg : PtpAnnounce) :
    announceRefused (s.withRxbuf m) msg = announceRefused s msg := rfl

omit [CDouble F] in
theorem announceNeighbor_withRxbuf (port : PtpPort F) (msg : PtpAnnounce) :
    announceNeighbor (port.withRxbuf m) msg =
      ((announceNeighbor port msg).1.withRxbuf m, (announceNeighbor port msg).2) := by
  unfold announceNeighbor
  symm
  exact apply_ite (fun answer : PtpPort F × Bool => (answer.1.withRxbuf m, answer.2))
    (port.medium = .wifiFtm ∧ port.wifiMode = .sta ∧ port.rxSourceMacValid = true) _ _

theorem switchSource_withRxbuf :
    (s.withRxbuf m).switchSource = s.switchSource.withRxbuf m := by
  have hport := s.invalidateTiming.onPort0_withRxbuf m
    (fun port =>
      { port with
        twostepPending := false
        lastReceivedSync := port.lastReceivedAnnounce
        pathDelayAvgcount := 0
        pathDelayNs := 0
        delayreqTime := { port.delayreqTime with tvSec := 0 } })
    fun _ => rfl
  exact congrArg (fun t : PtpState F n => { t with correctionNs := CDouble.ofInt 0 }) hport.symm

omit [CDouble F] in
theorem storeSource_withRxbuf (message : Bytes) (length : Nat) (path : PtpPathTrace) :
    (s.withRxbuf m).storeSource cfg message length path =
      (s.storeSource cfg message length path).withRxbuf m := by
  have hport : (s.withRxbuf m).ports 0 = (s.ports 0).withRxbuf m := s.withRxbuf_port0 m
  unfold PtpState.storeSource PtpState.updateDelayAsymmetry noteSourceMac
  simp only [PtpState.port0, hport]
  rfl

/-- Storing what was announced, the source switched or not. -/
theorem storeReceived_withRxbuf (message : Bytes) (length : Nat) (path : PtpPathTrace)
    (changed : Bool) :
    (if changed then (s.withRxbuf m).switchSource else s.withRxbuf m).storeSource cfg message
        length path =
      ((if changed then s.switchSource else s).storeSource cfg message length path).withRxbuf
        m := by
  cases changed with
  | false => exact storeSource_withRxbuf cfg s m message length path
  | true =>
    simp only [if_true]
    rw [switchSource_withRxbuf]
    exact storeSource_withRxbuf cfg s.switchSource m message length path

theorem announceReceived_withRxbuf (message : Bytes) (length : Nat) (path : PtpPathTrace)
    (receiptUs : Int) :
    announceReceived cfg (s.withRxbuf m) message length path receiptUs =
      (announceReceived cfg s message length path receiptUs).withRxbuf m := by
  have hreceipt := s.iteOnPort0_withRxbuf m
    ((announceChanged (s.withRxbuf m).toPtpSelection (PtpAnnounce.read message) ||
      announceVectorChanged (s.withRxbuf m).toPtpSelection (PtpAnnounce.read message)) = true)
    (fun port => { port with syncReceipt := announceReceipt cfg port receiptUs }) fun _ => rfl
  unfold announceReceived
  dsimp only
  rw [← hreceipt, storeReceived_withRxbuf, PtpState.ite_withRxbuf, PtpState.ite_withRxbuf,
    PtpState.ite_withRxbuf]
  rfl

theorem ptpProcessAnnounce_withRxbuf (message : Bytes) (length : Nat) (times : AnnounceTimes) :
    ptpProcessAnnounce cfg (s.withRxbuf m) message length times =
      (ptpProcessAnnounce cfg s message length times).withRxbuf m := by
  unfold ptpProcessAnnounce
  dsimp only
  rw [PtpState.withRxbuf_ownIdentity]
  cases ptpPathTraceParse message length s.ownIdentity.header.sourceidentity with
  | none => rfl
  | some path =>
    dsimp only
    rw [announceRefused_withRxbuf]
    by_cases hrefused : announceRefused s (PtpAnnounce.read message)
    · rw [if_pos hrefused, if_pos hrefused]
    · rw [if_neg hrefused, if_neg hrefused]
      have hneighbor := s.onPort0_withRxbuf m
        (fun port => (announceNeighbor port (PtpAnnounce.read message)).1)
        fun port => by rw [announceNeighbor_withRxbuf]
      rw [← hneighbor]
      have hbound : (announceNeighbor (s.withRxbuf m).port0 (PtpAnnounce.read message)).2 =
          (announceNeighbor s.port0 (PtpAnnounce.read message)).2 := by
        rw [PtpState.withRxbuf_port0, announceNeighbor_withRxbuf]
      rw [hbound]
      generalize s.withPort0 (announceNeighbor s.port0 (PtpAnnounce.read message)).1 = t
      cases (announceNeighbor s.port0 (PtpAnnounce.read message)).2 with
      | false => rfl
      | true =>
        have hmono := t.onPort0_withRxbuf m
          (fun port => { port with lastReceivedAnnounce := times.mono }) fun _ => rfl
        simp only [Bool.not_true, Bool.false_eq_true, if_false]
        rw [← hmono, announceReceived_withRxbuf]

/-! ### Delay requests and their answers -/

omit [CDouble F] in
theorem delayRespHeader_withRxbuf (req : PtpDelayReq) :
    delayRespHeader cfg (s.withRxbuf m) req = delayRespHeader cfg s req := by
  have hport : (s.withRxbuf m).ports 0 = (s.ports 0).withRxbuf m := s.withRxbuf_port0 m
  unfold delayRespHeader unicastReply
  simp only [PtpState.port0, hport]
  rfl

omit [CDouble F] in
theorem delayRespMessage_withRxbuf (header : PtpHeader) (timestamp : Timespec)
    (req : PtpDelayReq) :
    delayRespMessage cfg (s.withRxbuf m) header timestamp req =
      delayRespMessage cfg s header timestamp req := by
  have hport : (s.withRxbuf m).ports 0 = (s.ports 0).withRxbuf m := s.withRxbuf_port0 m
  unfold delayRespMessage PtpState.sendsEndpointDecl
  simp only [PtpState.port0, hport]
  rfl

omit [CDouble F] in
theorem ptpProcessDelayReq_withRxbuf (req : PtpDelayReq) (answers : DelayReqAnswers) :
    ptpProcessDelayReq cfg (s.withRxbuf m) req answers =
      ((ptpProcessDelayReq cfg s req answers).1.withRxbuf m,
        (ptpProcessDelayReq cfg s req answers).2) := by
  have hunicast : unicastReply (s.withRxbuf m) = unicastReply s := by
    unfold unicastReply
    rw [PtpState.withRxbuf_port0]
    rfl
  have hrxtime : (s.withRxbuf m).port0.rxtime = s.port0.rxtime := by
    rw [PtpState.withRxbuf_port0]
    rfl
  have hmac : (s.withRxbuf m).port0.rxSourceMac = s.port0.rxSourceMac := by
    rw [PtpState.withRxbuf_port0]
    rfl
  have hport := s.onPort0_withRxbuf m
    (fun port => { port with lastTransmittedDelayresp := answers.mono }) fun _ => rfl
  unfold ptpProcessDelayReq
  by_cases hclient : (!s.isGptp && s.selectedSourceValid) = true
  · rw [if_pos hclient]
    exact if_pos hclient
  · rw [if_neg hclient]
    refine (if_neg hclient).trans ?_
    simp only [delayRespHeader_withRxbuf, delayRespMessage_withRxbuf, hunicast, hrxtime, hmac,
      PtpState.withRxbuf_isGptp]
    cases answers.response with
    | none => rfl
    | some transmitted => exact Prod.ext hport.symm rfl

omit [CDouble F] in
theorem delayRespGptp_withRxbuf (msg : PtpDelayResp) (nowUs : Int) :
    delayRespGptp (s.withRxbuf m) msg nowUs = (delayRespGptp s msg nowUs).withRxbuf m := by
  have hsection : delayRespSection (s.port0.withRxbuf m).toPtpPeerPort msg
      (s.port0.withRxbuf m).rxtime nowUs =
        delayRespSection s.port0.toPtpPeerPort msg s.port0.rxtime nowUs := rfl
  unfold delayRespGptp
  rw [PtpState.withRxbuf_port0]
  dsimp only
  rw [hsection]
  generalize delayRespSection s.port0.toPtpPeerPort msg s.port0.rxtime nowUs = answer
  obtain ⟨peer, admission⟩ := answer
  cases admission <;>
  · symm
    exact s.withPort0_withRxbuf m _

theorem delayRespStandard_withRxbuf (msg : PtpDelayResp) (random : Nat) :
    delayRespStandard cfg (s.withRxbuf m) msg random =
      (delayRespStandard cfg s msg random).withRxbuf m := by
  have hdelay : measuredPathDelay cfg (s.withRxbuf m) msg = measuredPathDelay cfg s msg := by
    unfold measuredPathDelay
    rw [PtpState.withRxbuf_port0]
    rfl
  have havg : pathDelayAveraged cfg (s.port0.withRxbuf m) (measuredPathDelay cfg s msg) =
      (pathDelayAveraged cfg s.port0 (measuredPathDelay cfg s msg)).withRxbuf m := by
    unfold pathDelayAveraged
    rw [PtpPort.ite_withRxbuf]
    rfl
  unfold delayRespStandard
  by_cases hexpected : delayRespExpected s msg
  · have hexpected' : delayRespExpected (s.withRxbuf m) msg = true := hexpected
    rw [hexpected, hexpected', if_neg (by decide), if_neg (by decide), hdelay,
      PtpState.withRxbuf_port0, havg]
    symm
    exact PtpState.withPort0_withRxbuf
      { s with unicastDelayReqOutstanding := false, unicastDelayReqMisses := 0 } m _
  · have hexpected' : ¬ delayRespExpected (s.withRxbuf m) msg = true := hexpected
    rw [if_pos (by simpa using hexpected'), if_pos (by simpa using hexpected)]

theorem ptpProcessDelayResp_withRxbuf (msg : PtpDelayResp) (answers : DelayRespAnswers) :
    ptpProcessDelayResp cfg (s.withRxbuf m) msg answers =
      (ptpProcessDelayResp cfg s msg answers).withRxbuf m := by
  unfold ptpProcessDelayResp
  rw [PtpState.withRxbuf_isGptp]
  split
  · exact delayRespGptp_withRxbuf s m msg answers.nowUs
  · exact delayRespStandard_withRxbuf cfg s m msg answers.random

theorem ptpProcessDelayRespFollowUp_withRxbuf (msg : PtpDelayRespFollowUp)
    (expectedGeneration : UInt32) (times : FollowUpUs) :
    ptpProcessDelayRespFollowUp cfg (s.withRxbuf m) msg expectedGeneration times =
      (ptpProcessDelayRespFollowUp cfg s msg expectedGeneration times).withRxbuf m := by
  have hfinish : followUpFinish (s.port0.withRxbuf m).toPtpPeerPort msg expectedGeneration
      times.finishUs =
        followUpFinish s.port0.toPtpPeerPort msg expectedGeneration times.finishUs := rfl
  unfold ptpProcessDelayRespFollowUp
  rw [PtpState.withRxbuf_isGptp, PtpState.withRxbuf_port0]
  by_cases hgptp : s.isGptp
  · rw [hgptp, if_neg (by decide), if_neg (by decide)]
    dsimp only
    rw [hfinish]
    generalize followUpFinish s.port0.toPtpPeerPort msg expectedGeneration times.finishUs =
      finished
    have hport : (s.withRxbuf m).withPort0
        { s.port0.withRxbuf m with toPtpPeerPort := finished.1 } =
          (s.withPort0 { s.port0 with toPtpPeerPort := finished.1 }).withRxbuf m := by
      symm
      exact s.withPort0_withRxbuf m _
    rw [hport]
    generalize s.withPort0 { s.port0 with toPtpPeerPort := finished.1 } = t
    cases finished.2 with
    | none => rfl
    | some handling =>
      dsimp only
      cases evaluateFollowUp cfg handling with
      | none => rfl
      | some evaluation =>
        rw [PtpState.withRxbuf_port0]
        symm
        exact t.withPort0_withRxbuf m _
  · rw [if_pos (by simpa using hgptp), if_pos (by simpa using hgptp)]

/-! ### Signaling -/

omit [CDouble F] in
theorem handleIndication_withRxbuf (gptp : Bool) (port : PtpPort F) (sender : Option MacAddr)
    (association : UInt32) (indication : PtpCapableMessage) (nowUs : Int) (mono : Timespec) :
    handleIndication gptp (port.withRxbuf m) sender association indication nowUs mono =
      (handleIndication gptp port sender association indication nowUs mono).withRxbuf m := by
  have hsection : indicationSection gptp (port.withRxbuf m) sender association indication nowUs =
      (indicationSection gptp port sender association indication nowUs).withRxbuf m := by
    unfold indicationSection
    cases sender with
    | none =>
      rw [PtpPort.ite_withRxbuf, PtpPort.ite_withRxbuf]
      rfl
    | some mac =>
      dsimp only
      rw [PtpPort.ite_withRxbuf, PtpPort.ite_withRxbuf, PtpPort.ite_withRxbuf]
      rfl
  unfold handleIndication
  rw [hsection]
  rfl

omit [CDouble F] in
theorem timingSection_withRxbuf (gptp : Bool) (port : PtpPort F) (sender : Option MacAddr)
    (association : UInt32) (request : PtpIntervalMessage) :
    timingSection cfg gptp (port.withRxbuf m) sender association request =
      (timingSection cfg gptp port sender association request).withRxbuf m := by
  unfold timingSection
  cases sender with
  | none => rfl
  | some mac =>
    dsimp only
    rw [PtpPort.ite_withRxbuf, PtpPort.ite_withRxbuf]
    rfl

omit [CDouble F] in
theorem intervalSection_withRxbuf (gptp : Bool) (port : PtpPort F) (sender : Option MacAddr)
    (association : UInt32) (request : PtpCapableMessage) :
    intervalSection gptp (port.withRxbuf m) sender association request =
      (intervalSection gptp port sender association request).withRxbuf m := by
  unfold intervalSection
  cases sender with
  | none =>
    dsimp only
    rw [PtpPort.ite_withRxbuf]
    rfl
  | some mac =>
    dsimp only
    rw [PtpPort.ite_withRxbuf, PtpPort.ite_withRxbuf, PtpPort.ite_withRxbuf]
    rfl

omit [CDouble F] in
theorem onRequest_withRxbuf {α : Type} (ingress : Fin (n + 1)) (request : PtpSignaling α)
    (act : PtpPort F → α → PtpPort F)
    (hact : ∀ (port : PtpPort F) value, act (port.withRxbuf m) value =
      (act port value).withRxbuf m) :
    (s.withRxbuf m).onRequest ingress request act =
      (s.onRequest ingress request act).withRxbuf m := by
  cases request with
  | malformed => rfl
  | ignored => rfl
  | decoded value =>
    exact (s.onPort_withRxbuf m ingress (fun port => act port value) fun port =>
      hact port value).symm

omit [CDouble F] in
theorem signalingLocalPort_withRxbuf (ingress : Fin (n + 1)) (sender : Option MacAddr)
    (association : UInt32) :
    signalingLocalPort s.numbering ingress ((s.withRxbuf m).ports ingress) sender association =
      signalingLocalPort s.numbering ingress (s.ports ingress) sender association :=
  s.ports_withRxbuf m ingress
    (fun port => signalingLocalPort s.numbering ingress port sender association) fun _ => rfl

end Handlers

end EspPtp
