import EspPtp.Daemon.Run

/-!
# Nobody else keeps the account of what was published

`ptp_fill_gm_fields` compares what it is about to publish with what it published last, and
counts the jumps of the clock from a baseline of its own. Six fields of the daemon are that
account. The other handlers look at none of them and write none of them, so between two
calls it stays as it is, whatever is received, selected or lost there.

`GmEvent` is an event of a run about which that can be said: one of the daemon's own, or
something elsewhere that leaves the time base alone.
-/

namespace EspPtp

open Lib

/-- The account `ptp_fill_gm_fields` keeps, and the clock's own identity, which never changes
    while the daemon runs. -/
structure GmLedger where
  gmFieldsOwn : Bool
  ownTimeBaseIndicator : UInt16
  publishedGmValid : Bool
  publishedBtc : ClockIdentity
  publishedGmFields : GmFields
  publishedClockUpdates : UInt32
  phaseBaselineStepsNs : Int
  ownBtc : ClockIdentity
  deriving DecidableEq

variable {F : Type} {n : Nat}

def PtpState.ledger (s : PtpState F n) : GmLedger where
  gmFieldsOwn := s.gmFieldsOwn
  ownTimeBaseIndicator := s.ownTimeBaseIndicator
  publishedGmValid := s.publishedGmValid
  publishedBtc := s.publishedBtc
  publishedGmFields := s.publishedGmFields
  publishedClockUpdates := s.publishedClockUpdates
  phaseBaselineStepsNs := s.phaseBaselineStepsNs
  ownBtc := s.ownIdentity.btcIdentity

/-! ## Received frames -/

@[simp] theorem withPort_ledger (s : PtpState F n) (p : Fin (n + 1)) (port : PtpPort F) :
    (s.withPort p port).ledger = s.ledger := rfl

@[simp] theorem withPort0_ledger (s : PtpState F n) (port : PtpPort F) :
    (s.withPort0 port).ledger = s.ledger := rfl

theorem onRequest_ledger {α : Type} (s : PtpState F n) (ingress : Fin (n + 1))
    (request : PtpSignaling α) (act : PtpPort F → α → PtpPort F) :
    (s.onRequest ingress request act).ledger = s.ledger := by
  cases request <;> rfl

theorem rxSignaling_ledger (cfg : Config) (s : PtpState F n) (length : Nat)
    (ingress : Fin (n + 1)) (reads : RxReadings) :
    (rxSignaling cfg s length ingress reads).ledger = s.ledger := by
  unfold rxSignaling
  dsimp only
  split
  · rfl
  · simp only [onRequest_ledger]

theorem noteEndpoint_ledger (s : PtpState F n) (length : Nat) :
    (s.noteEndpoint length).ledger = s.ledger := by
  unfold PtpState.noteEndpoint
  split_ifs <;> rfl

theorem ptpProcessDelayReq_ledger (cfg : Config) (s : PtpState F n) (req : PtpDelayReq)
    (answers : DelayReqAnswers) :
    (ptpProcessDelayReq cfg s req answers).1.ledger = s.ledger := by
  unfold ptpProcessDelayReq
  by_cases hsilent : !s.isGptp && s.selectedSourceValid
  · rw [if_pos hsilent]
  · rw [if_neg hsilent]
    cases answers.response <;> rfl

theorem rxArrival_ledger (cfg : Config) (s : PtpState F n) (received : Nat)
    (ingress : Fin (n + 1)) (mono : Timespec) :
    (rxArrival cfg s received ingress mono).1.ledger = s.ledger := by
  have hsender : ∀ t : PtpState F n, (rxSender cfg t ingress).1.ledger = t.ledger := by
    intro t
    unfold rxSender
    split <;> rfl
  unfold rxArrival
  cases rxAdmission cfg s.isGptp s.port0.rxbuf received with
  | dropped => rfl
  | otherSdoid => rfl
  | admitted length =>
    dsimp only
    generalize hversion : s.withPort ingress _ = s₁
    have hledger : s₁.ledger = s.ledger := hversion ▸ withPort_ledger ..
    rw [← hledger]
    cases (rxSender cfg s₁ ingress).2 with
    | false => exact hsender s₁
    | true => exact hsender s₁

variable [CDouble F]

theorem ptpProcessDelayResp_ledger (cfg : Config) (s : PtpState F n) (msg : PtpDelayResp)
    (answers : DelayRespAnswers) :
    (ptpProcessDelayResp cfg s msg answers).ledger = s.ledger := by
  unfold ptpProcessDelayResp
  by_cases hgptp : s.isGptp
  · rw [if_pos hgptp]
    unfold delayRespGptp
    dsimp only
    split <;> rfl
  · rw [if_neg hgptp]
    unfold delayRespStandard
    split_ifs <;> rfl

theorem ptpProcessDelayRespFollowUp_ledger (cfg : Config) (s : PtpState F n)
    (msg : PtpDelayRespFollowUp) (expectedGeneration : UInt32) (times : FollowUpUs) :
    (ptpProcessDelayRespFollowUp cfg s msg expectedGeneration times).ledger = s.ledger := by
  unfold ptpProcessDelayRespFollowUp
  dsimp only
  split_ifs
  · rfl
  · split
    · rfl
    · split <;> rfl

theorem ptpLockLocalClockFreq_ledger (cfg : Config) (s : PtpState F n)
    (remote localTime : Timespec) (clock : ClockAnswers) :
    (ptpLockLocalClockFreq cfg s remote localTime clock).ledger = s.ledger := by
  unfold ptpLockLocalClockFreq
  dsimp only
  generalize withinStability cfg s.isGptp _ _ _ = stable
  generalize (if stable then if s.stableCount ≤ 3 then s.stableCount + 1 else s.stableCount
    else 0) = count
  by_cases hcount : count > 3
  · rw [if_pos hcount]
    rfl
  · rw [if_neg hcount]
    rfl

/-- An update of the clock is counted, and a jump added up; neither is published yet. -/
theorem ptpUpdateLocalClock_ledger (cfg : Config) (s : PtpState F n)
    (remote localTime : Timespec) (clock : ClockAnswers) :
    (ptpUpdateLocalClock cfg s remote localTime clock).1.ledger = s.ledger := by
  have hcounted : ∀ t : PtpState F n,
      { t with clockUpdates := t.clockUpdates + 1 }.ledger = t.ledger := fun _ => rfl
  unfold ptpUpdateLocalClock
  dsimp only
  rw [hcounted]
  split
  · rfl
  · rw [ptpLockLocalClockFreq_ledger]

theorem ptpProcessSync_ledger (cfg : Config) (s : PtpState F n) (msg : PtpSync)
    (times : SyncTimes) : (ptpProcessSync cfg s msg times).ledger = s.ledger := by
  unfold ptpProcessSync
  dsimp only
  split_ifs
  · rfl
  · rfl
  · rw [ptpUpdateLocalClock_ledger]
    rfl

/-- The fields of a Follow_Up are taken over, and relayed by the next call only. -/
theorem ptpProcessFollowup_ledger (cfg : Config) (s : PtpState F n) (message : Bytes)
    (times : FollowupTimes) : (ptpProcessFollowup cfg s message times).ledger = s.ledger := by
  have hpublish : ∀ (t : PtpState F n) (previous : UInt32) (ok : Bool),
      (followupPublish cfg t message previous ok times).ledger = t.ledger := by
    intro t previous ok
    unfold followupPublish
    dsimp only
    split_ifs <;> rfl
  have htaken : (followupTaken s (PtpFollowUp.read message)).ledger = s.ledger := by
    unfold followupTaken
    dsimp only
    split_ifs <;> rfl
  unfold ptpProcessFollowup
  dsimp only
  split_ifs
  · rfl
  · rw [hpublish, ptpUpdateLocalClock_ledger, htaken]

theorem ptpProcessAnnounce_ledger (cfg : Config) (s : PtpState F n) (message : Bytes)
    (length : Nat) (times : AnnounceTimes) :
    (ptpProcessAnnounce cfg s message length times).ledger = s.ledger := by
  have hreceived : ∀ (t : PtpState F n) (path : PtpPathTrace),
      (announceReceived cfg t message length path times.receiptUs).ledger = t.ledger := by
    intro t path
    unfold announceReceived
    dsimp only
    split_ifs <;> rfl
  unfold ptpProcessAnnounce
  dsimp only
  cases ptpPathTraceParse message length s.ownIdentity.header.sourceidentity with
  | none => rfl
  | some path =>
    dsimp only
    split_ifs
    · rfl
    · rfl
    · rw [hreceived]
      rfl

theorem rxTiming_ledger (cfg : Config) (s : PtpState F n) (length : Nat) (reads : RxReadings) :
    (rxTiming cfg s length reads).ledger = s.ledger := by
  unfold rxTiming
  dsimp only
  split
  · rfl
  · split
    · rfl
    · cases s.port0.rxbuf.msgtype with
      | announce => exact ptpProcessAnnounce_ledger ..
      | sync =>
        dsimp only
        split_ifs
        · rfl
        · exact ptpProcessSync_ledger ..
      | followUp =>
        dsimp only
        split_ifs
        · rfl
        · exact ptpProcessFollowup_ledger ..
      | _ => rfl

theorem rxDispatch_ledger (cfg : Config) (s : PtpState F n) (length : Nat)
    (ingress : Fin (n + 1)) (reads : RxReadings) :
    (rxDispatch cfg s length ingress reads).1.ledger = s.ledger := by
  unfold rxDispatch
  cases s.port0.rxbuf.msgtype with
  | signaling => exact rxSignaling_ledger ..
  | announce | sync | followUp =>
    dsimp only
    split_ifs
    · rfl
    · exact rxTiming_ledger ..
  | delayResp | pdelayResp =>
    dsimp only
    split_ifs
    · rfl
    · unfold rxDelayResp
      dsimp only
      split_ifs
      · rfl
      · rw [ptpProcessDelayResp_ledger, noteEndpoint_ledger]
  | delayReq | pdelayReq =>
    dsimp only
    split_ifs
    · unfold rxDelayReq
      rw [ptpProcessDelayReq_ledger, noteEndpoint_ledger]
    · rfl
  | pdelayRespFollowUp =>
    dsimp only
    split_ifs
    · rfl
    · rw [ptpProcessDelayRespFollowUp_ledger, noteEndpoint_ledger]
  | other => rfl

/-- **No frame touches the account.** -/
theorem receive_ledger (cfg : Config) (s : PtpState F n) (frame : RxFrame n) :
    (s.receive cfg frame).ledger = s.ledger := by
  unfold PtpState.receive ptpProcessRxPacket
  dsimp only
  have harrival := rxArrival_ledger cfg (s.load frame) frame.received frame.ingress
    frame.reads.mono
  split
  · exact harrival
  · exact (rxDispatch_ledger ..).trans harrival

/-! ## The rest of a pass, and the other tasks -/

omit [CDouble F] in
theorem checkCapability_ledger (cfg : Config) (s : PtpState F n) (times : CapabilityTimes) :
    (checkCapability cfg s times).ledger = s.ledger := by
  unfold checkCapability
  dsimp only
  split_ifs <;> rfl

omit [CDouble F] in
theorem revalidate_ledger (cfg : Config) (s : PtpState F n) (times : ValidityTimes) :
    (revalidate cfg s times).ledger = s.ledger := by
  unfold revalidate
  dsimp only
  split_ifs <;> rfl

theorem ptpCheckProfileFallback_ledger (cfg : Config) (s : PtpState F n) (nowUs : Int)
    (dropping : Bool) : (ptpCheckProfileFallback cfg s nowUs dropping).ledger = s.ledger := by
  unfold ptpCheckProfileFallback
  dsimp only
  split_ifs <;> rfl

theorem ptpArmProfileFallback_ledger (cfg : Config) (s : PtpState F n) :
    (ptpArmProfileFallback cfg s).ledger = s.ledger := by
  unfold ptpArmProfileFallback startFallbackWindow
  split_ifs <;> rfl

theorem ptpdSetProfile_ledger (cfg : Config) (s : PtpState F n) (profile : PtpProfile) :
    (ptpdSetProfile cfg s profile).ledger = s.ledger := by
  unfold ptpdSetProfile
  dsimp only
  split_ifs
  · rfl
  · rw [ptpArmProfileFallback_ledger]
    rfl
  · rfl

theorem ptpdInjectSync_ledger (cfg : Config) (s : PtpState F n) (p : Fin (n + 1))
    (message : Bytes) (times : InjectTimes) :
    (ptpdInjectSync cfg s p message times).ledger = s.ledger := by
  have hsynthesized : ∀ header, (synthesizeSource s header).ledger = s.ledger := by
    intro header
    unfold synthesizeSource
    split_ifs <;> rfl
  unfold ptpdInjectSync
  dsimp only
  split_ifs
  · rfl
  · rw [ptpUpdateLocalClock_ledger, withPort_ledger, hsynthesized]

theorem ptpdInjectSyncPair_ledger (cfg : Config) (s : PtpState F n) (p : Fin (n + 1))
    (remoteNs localNs : Int) (times : InjectTimes) :
    (ptpdInjectSyncPair cfg s p remoteNs localNs times).ledger = s.ledger := by
  unfold ptpdInjectSyncPair
  dsimp only
  split_ifs
  · rfl
  · rw [ptpUpdateLocalClock_ledger, withPort_ledger]

omit [CDouble F] in
theorem ptpdFtmSourceObserved_ledger (cfg : Config) (s : PtpState F n) (p : Fin (n + 1))
    (identity : ClockIdentity) (domain : UInt8) (logInterval receivedUs nowUs : Int)
    (mono : Timespec) :
    (ptpdFtmSourceObserved cfg s p identity domain logInterval receivedUs nowUs mono).ledger =
      s.ledger := by
  unfold ptpdFtmSourceObserved
  dsimp only
  split_ifs <;> rfl

end EspPtp
