import EspPtp.Daemon.Run

/-!
# Who draws the numbers of Announce and Sync

`announce_seq` and `sync_seq` belong to `ptp_send_announce` and `ptp_send_sync`, and the clock's
own identity to the start of the daemon: no handler of a frame, no check of a pass and no other
task writes them. So the messages of a clock are numbered one after another.
-/

namespace EspPtp

open Lib

/-- The two counters, and who the messages are from. -/
structure TransmitNumbers where
  announceSeq : UInt16
  syncSeq : UInt16
  ownIdentity : PtpAnnounce
  deriving DecidableEq

variable {F : Type} {n : Nat}

def PtpState.numbers (s : PtpState F n) : TransmitNumbers where
  announceSeq := s.announceSeq
  syncSeq := s.syncSeq
  ownIdentity := s.ownIdentity

/-! ## Received frames -/

@[simp] theorem withPort_numbers (s : PtpState F n) (p : Fin (n + 1)) (port : PtpPort F) :
    (s.withPort p port).numbers = s.numbers := rfl

@[simp] theorem withPort0_numbers (s : PtpState F n) (port : PtpPort F) :
    (s.withPort0 port).numbers = s.numbers := rfl

theorem onRequest_numbers {α : Type} (s : PtpState F n) (ingress : Fin (n + 1))
    (request : PtpSignaling α) (act : PtpPort F → α → PtpPort F) :
    (s.onRequest ingress request act).numbers = s.numbers := by
  cases request <;> rfl

theorem rxSignaling_numbers (cfg : Config) (s : PtpState F n) (length : Nat)
    (ingress : Fin (n + 1)) (reads : RxReadings) :
    (rxSignaling cfg s length ingress reads).numbers = s.numbers := by
  unfold rxSignaling
  dsimp only
  split
  · rfl
  · simp only [onRequest_numbers]

theorem noteEndpoint_numbers (s : PtpState F n) (length : Nat) :
    (s.noteEndpoint length).numbers = s.numbers := by
  unfold PtpState.noteEndpoint
  split_ifs <;> rfl

theorem ptpProcessDelayReq_numbers (cfg : Config) (s : PtpState F n) (req : PtpDelayReq)
    (answers : DelayReqAnswers) :
    (ptpProcessDelayReq cfg s req answers).1.numbers = s.numbers := by
  unfold ptpProcessDelayReq
  by_cases hsilent : !s.isGptp && s.selectedSourceValid
  · rw [if_pos hsilent]
  · rw [if_neg hsilent]
    cases answers.response <;> rfl

theorem rxArrival_numbers (cfg : Config) (s : PtpState F n) (received : Nat)
    (ingress : Fin (n + 1)) (mono : Timespec) :
    (rxArrival cfg s received ingress mono).1.numbers = s.numbers := by
  have hsender : ∀ t : PtpState F n, (rxSender cfg t ingress).1.numbers = t.numbers := by
    intro t
    unfold rxSender
    split <;> rfl
  unfold rxArrival
  cases rxAdmission cfg s.isGptp s.port0.rxbuf received with
  | dropped => rfl
  | otherSdoid => rfl
  | admitted length =>
    dsimp only
    generalize hversion : s.withPort ingress _ = s₁
    have hnumbers : s₁.numbers = s.numbers := hversion ▸ withPort_numbers ..
    rw [← hnumbers]
    cases (rxSender cfg s₁ ingress).2 with
    | false => exact hsender s₁
    | true => exact hsender s₁

variable [CDouble F]

theorem ptpProcessDelayResp_numbers (cfg : Config) (s : PtpState F n) (msg : PtpDelayResp)
    (answers : DelayRespAnswers) :
    (ptpProcessDelayResp cfg s msg answers).numbers = s.numbers := by
  unfold ptpProcessDelayResp
  by_cases hgptp : s.isGptp
  · rw [if_pos hgptp]
    unfold delayRespGptp
    dsimp only
    split <;> rfl
  · rw [if_neg hgptp]
    unfold delayRespStandard
    split_ifs <;> rfl

theorem ptpProcessDelayRespFollowUp_numbers (cfg : Config) (s : PtpState F n)
    (msg : PtpDelayRespFollowUp) (expectedGeneration : UInt32) (times : FollowUpUs) :
    (ptpProcessDelayRespFollowUp cfg s msg expectedGeneration times).numbers = s.numbers := by
  unfold ptpProcessDelayRespFollowUp
  dsimp only
  split_ifs
  · rfl
  · split
    · rfl
    · split <;> rfl

theorem ptpLockLocalClockFreq_numbers (cfg : Config) (s : PtpState F n)
    (remote localTime : Timespec) (clock : ClockAnswers) :
    (ptpLockLocalClockFreq cfg s remote localTime clock).numbers = s.numbers := by
  unfold ptpLockLocalClockFreq
  dsimp only
  generalize withinStability cfg s.isGptp _ _ _ = stable
  generalize (if stable then if s.stableCount ≤ 3 then s.stableCount + 1 else s.stableCount
    else 0) = count
  by_cases hcount : count > 3
  · rw [if_pos hcount]
    rfl
  · rw [if_neg hcount]
    rfl

theorem ptpUpdateLocalClock_numbers (cfg : Config) (s : PtpState F n)
    (remote localTime : Timespec) (clock : ClockAnswers) :
    (ptpUpdateLocalClock cfg s remote localTime clock).1.numbers = s.numbers := by
  have hcounted : ∀ t : PtpState F n,
      { t with clockUpdates := t.clockUpdates + 1 }.numbers = t.numbers := fun _ => rfl
  unfold ptpUpdateLocalClock
  dsimp only
  rw [hcounted]
  split
  · rfl
  · rw [ptpLockLocalClockFreq_numbers]

theorem ptpProcessSync_numbers (cfg : Config) (s : PtpState F n) (msg : PtpSync)
    (times : SyncTimes) : (ptpProcessSync cfg s msg times).numbers = s.numbers := by
  unfold ptpProcessSync
  dsimp only
  split_ifs
  · rfl
  · rfl
  · rw [ptpUpdateLocalClock_numbers]
    rfl

theorem ptpProcessFollowup_numbers (cfg : Config) (s : PtpState F n) (message : Bytes)
    (times : FollowupTimes) : (ptpProcessFollowup cfg s message times).numbers = s.numbers := by
  have hpublish : ∀ (t : PtpState F n) (previous : UInt32) (ok : Bool),
      (followupPublish cfg t message previous ok times).numbers = t.numbers := by
    intro t previous ok
    unfold followupPublish
    dsimp only
    split_ifs <;> rfl
  have htaken : (followupTaken s (PtpFollowUp.read message)).numbers = s.numbers := by
    unfold followupTaken
    dsimp only
    split_ifs <;> rfl
  unfold ptpProcessFollowup
  dsimp only
  split_ifs
  · rfl
  · rw [hpublish, ptpUpdateLocalClock_numbers, htaken]

theorem ptpProcessAnnounce_numbers (cfg : Config) (s : PtpState F n) (message : Bytes)
    (length : Nat) (times : AnnounceTimes) :
    (ptpProcessAnnounce cfg s message length times).numbers = s.numbers := by
  have hreceived : ∀ (t : PtpState F n) (path : PtpPathTrace),
      (announceReceived cfg t message length path times.receiptUs).numbers = t.numbers := by
    intro t path
    unfold announceReceived
    dsimp only
    split_ifs <;> rfl
  unfold ptpProcessAnnounce
  dsimp only
  cases ptpPathTraceParse message length s.ownIdentity.header.sourceidentity with
  | none => rfl
  | some path =>
    dsimp only
    split_ifs
    · rfl
    · rfl
    · rw [hreceived]
      rfl

theorem rxTiming_numbers (cfg : Config) (s : PtpState F n) (length : Nat) (reads : RxReadings) :
    (rxTiming cfg s length reads).numbers = s.numbers := by
  unfold rxTiming
  dsimp only
  split
  · rfl
  · split
    · rfl
    · cases s.port0.rxbuf.msgtype with
      | announce => exact ptpProcessAnnounce_numbers ..
      | sync =>
        dsimp only
        split_ifs
        · rfl
        · exact ptpProcessSync_numbers ..
      | followUp =>
        dsimp only
        split_ifs
        · rfl
        · exact ptpProcessFollowup_numbers ..
      | _ => rfl

theorem rxDispatch_numbers (cfg : Config) (s : PtpState F n) (length : Nat)
    (ingress : Fin (n + 1)) (reads : RxReadings) :
    (rxDispatch cfg s length ingress reads).1.numbers = s.numbers := by
  unfold rxDispatch
  cases s.port0.rxbuf.msgtype with
  | signaling => exact rxSignaling_numbers ..
  | announce | sync | followUp =>
    dsimp only
    split_ifs
    · rfl
    · exact rxTiming_numbers ..
  | delayResp | pdelayResp =>
    dsimp only
    split_ifs
    · rfl
    · unfold rxDelayResp
      dsimp only
      split_ifs
      · rfl
      · rw [ptpProcessDelayResp_numbers, noteEndpoint_numbers]
  | delayReq | pdelayReq =>
    dsimp only
    split_ifs
    · unfold rxDelayReq
      rw [ptpProcessDelayReq_numbers, noteEndpoint_numbers]
    · rfl
  | pdelayRespFollowUp =>
    dsimp only
    split_ifs
    · rfl
    · rw [ptpProcessDelayRespFollowUp_numbers, noteEndpoint_numbers]
  | other => rfl

/-- No frame draws a number. -/
theorem receive_numbers (cfg : Config) (s : PtpState F n) (frame : RxFrame n) :
    (s.receive cfg frame).numbers = s.numbers := by
  unfold PtpState.receive ptpProcessRxPacket
  dsimp only
  have harrival := rxArrival_numbers cfg (s.load frame) frame.received frame.ingress
    frame.reads.mono
  split
  · exact harrival
  · exact (rxDispatch_numbers ..).trans harrival

/-! ## The rest of a pass, and the other tasks -/

omit [CDouble F] in
theorem checkCapability_numbers (cfg : Config) (s : PtpState F n) (times : CapabilityTimes) :
    (checkCapability cfg s times).numbers = s.numbers := by
  unfold checkCapability
  dsimp only
  split_ifs <;> rfl

omit [CDouble F] in
theorem revalidate_numbers (cfg : Config) (s : PtpState F n) (times : ValidityTimes) :
    (revalidate cfg s times).numbers = s.numbers := by
  unfold revalidate
  dsimp only
  split_ifs <;> rfl

theorem ptpCheckProfileFallback_numbers (cfg : Config) (s : PtpState F n) (nowUs : Int)
    (dropping : Bool) : (ptpCheckProfileFallback cfg s nowUs dropping).numbers = s.numbers := by
  unfold ptpCheckProfileFallback
  dsimp only
  split_ifs <;> rfl

theorem ptpArmProfileFallback_numbers (cfg : Config) (s : PtpState F n) :
    (ptpArmProfileFallback cfg s).numbers = s.numbers := by
  unfold ptpArmProfileFallback startFallbackWindow
  split_ifs <;> rfl

theorem ptpdSetProfile_numbers (cfg : Config) (s : PtpState F n) (profile : PtpProfile) :
    (ptpdSetProfile cfg s profile).numbers = s.numbers := by
  unfold ptpdSetProfile
  dsimp only
  split_ifs
  · rfl
  · rw [ptpArmProfileFallback_numbers]
    rfl
  · rfl

theorem ptpdInjectSyncPair_numbers (cfg : Config) (s : PtpState F n) (p : Fin (n + 1))
    (remoteNs localNs : Int) (times : InjectTimes) :
    (ptpdInjectSyncPair cfg s p remoteNs localNs times).numbers = s.numbers := by
  unfold ptpdInjectSyncPair
  dsimp only
  split_ifs
  · rfl
  · rw [ptpUpdateLocalClock_numbers, withPort_numbers]

omit [CDouble F] in
theorem ptpdFtmSourceObserved_numbers (cfg : Config) (s : PtpState F n) (p : Fin (n + 1))
    (identity : ClockIdentity) (domain : UInt8) (logInterval receivedUs nowUs : Int)
    (mono : Timespec) :
    (ptpdFtmSourceObserved cfg s p identity domain logInterval receivedUs nowUs mono).numbers =
      s.numbers := by
  unfold ptpdFtmSourceObserved
  dsimp only
  split_ifs <;> rfl

omit [CDouble F] in
theorem ptpPublishLocalSource_numbers (cfg : Config) (s : PtpState F n)
    (answers : LocalSourceAnswers) :
    (ptpPublishLocalSource cfg s answers).numbers = s.numbers := by
  unfold ptpPublishLocalSource
  cases s.originates cfg with
  | false => rfl
  | true =>
    cases answers.origin with
    | none => rfl
    | some origin =>
      dsimp only
      split_ifs <;> rfl

/-- Something elsewhere draws no number either. -/
def DaemonEvent.LeavesNumbers (e : DaemonEvent F n) : Prop :=
  ∀ other, e = .elsewhere other → ∀ s : PtpState F n, (other.act s).numbers = s.numbers

/-- **The numbers are drawn by the two that send.** -/
theorem apply_numbers (cfg : Config) (s : PtpState F n) {e : DaemonEvent F n}
    (hinjection : ¬ e.IsInjection) (hleaves : e.LeavesNumbers) :
    (e.apply cfg s).numbers = s.numbers := by
  cases e with
  | capability times => exact checkCapability_numbers ..
  | received frame => exact receive_numbers ..
  | validity times => exact revalidate_numbers ..
  | localSource answers => exact ptpPublishLocalSource_numbers ..
  | gmFields => rfl
  | fallback nowUs dropping => exact ptpCheckProfileFallback_numbers ..
  | armFallback => exact ptpArmProfileFallback_numbers ..
  | setProfile profile => exact ptpdSetProfile_numbers ..
  | injectSync => exact absurd trivial hinjection
  | injectSyncPair p remoteNs localNs times => exact ptpdInjectSyncPair_numbers ..
  | ftmObserved => exact ptpdFtmSourceObserved_numbers ..
  | elsewhere other => exact hleaves other rfl s

end EspPtp
