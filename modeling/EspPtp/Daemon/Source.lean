import EspPtp.Daemon.Arrival
import EspPtp.Daemon.TimeBase

/-!
# What a section can do to the time source

The selected source, the two published snapshots and the clock's own time base are written
in many places, and most handlers write none of them. `SourceView` is this part of the
daemon, and for every handler there is one equation that says what becomes of it; the runs
of the daemon are argued about with these equations only.

`RxEffect` is the sum over all received frames.
-/

namespace EspPtp

open Lib

/-- The Sync that waits for its Follow_Up. -/
structure PendingSync where
  packet : PtpSync
  rxtime : Timespec
  receivedUs : Int
  deriving DecidableEq, Inhabited

/-- The part of the daemon that says which time source there is. -/
structure SourceView where
  valid : Bool
  source : PtpAnnounce
  /-- `last_selected_announce`. -/
  announced : Timespec
  /-- `sync_receipt` of port 0. -/
  receipt : PtpSyncReceipt
  /-- The `twostep_*` fields of port 0, while `twostep_pending`. -/
  pending : Option PendingSync
  timing : PtpTiming
  /-- `clock_updates`, the calls of `ptp_update_local_clock`. -/
  clockUpdates : UInt32
  gmFieldsOwn : Bool
  ownTimeBaseIndicator : UInt16
  ownIdentity : PtpAnnounce
  profile : PtpProfile
  deriving DecidableEq

variable {F : Type} {n : Nat}

/-- What a port contributes to the view, when it is port 0. -/
def PtpPort.heard (port : PtpPort F) : PtpSyncReceipt × Option PendingSync :=
  (port.syncReceipt,
    if port.twostepPending then
      some ⟨port.twostepPacket, port.twostepRxtime, port.twostepReceivedUs⟩
    else none)

namespace PtpState

def view (s : PtpState F n) : SourceView where
  valid := s.selectedSourceValid
  source := s.selectedSource
  announced := s.lastSelectedAnnounce
  receipt := s.port0.heard.1
  pending := s.port0.heard.2
  timing := s.toPtpTiming
  clockUpdates := s.clockUpdates
  gmFieldsOwn := s.gmFieldsOwn
  ownTimeBaseIndicator := s.ownTimeBaseIndicator
  ownIdentity := s.ownIdentity
  profile := s.activePtpProfile

/-- Of a port only what it heard is in the view. -/
theorem view_withPort (s : PtpState F n) {p : Fin (n + 1)} {port : PtpPort F}
    (h : port.heard = (s.ports p).heard) : (s.withPort p port).view = s.view := by
  have hheard : (s.withPort p port).port0.heard = s.port0.heard := by
    by_cases hp : p = 0
    · subst hp
      simpa [port0, withPort] using h
    · unfold port0
      rw [s.withPort_ports_of_ne (Ne.symm hp)]
  unfold view
  rw [hheard]
  rfl

theorem view_withPort0 (s : PtpState F n) {port : PtpPort F}
    (h : port.heard = s.port0.heard) : (s.withPort0 port).view = s.view :=
  s.view_withPort h

theorem view_withPort0_heard (s : PtpState F n) (port : PtpPort F) :
    (s.withPort0 port).view =
      { s.view with receipt := port.heard.1, pending := port.heard.2 } := by
  unfold view
  rw [withPort0_port0]
  rfl

theorem view_invalidateTiming (s : PtpState F n) :
    s.invalidateTiming.view = { s.view with timing := ptpInvalidateTiming s.view.timing } := rfl

end PtpState

/-! ## Handlers that do nothing to it -/

theorem onRequest_view {α : Type} (s : PtpState F n) (ingress : Fin (n + 1))
    (request : PtpSignaling α) {act : PtpPort F → α → PtpPort F}
    (h : ∀ port value, (act port value).heard = port.heard) :
    (s.onRequest ingress request act).view = s.view := by
  cases request with
  | decoded value => exact s.view_withPort (h _ value)
  | _ => rfl

theorem handleIndication_heard (gptp : Bool) (port : PtpPort F)
    (sender : Option MacAddr) (association : UInt32) (indication : PtpCapableMessage)
    (nowUs : Int) (mono : Timespec) :
    (handleIndication gptp port sender association indication nowUs mono).heard =
      port.heard := by
  unfold handleIndication indicationSection
  cases sender with
  | none => dsimp only; split_ifs <;> rfl
  | some mac => dsimp only; split_ifs <;> rfl

theorem timingSection_heard (cfg : Config) (gptp : Bool) (port : PtpPort F)
    (sender : Option MacAddr) (association : UInt32) (request : PtpIntervalMessage) :
    (timingSection cfg gptp port sender association request).heard = port.heard := by
  unfold timingSection
  cases sender with
  | none => rfl
  | some mac => dsimp only; split_ifs <;> rfl

theorem intervalSection_heard (gptp : Bool) (port : PtpPort F) (sender : Option MacAddr)
    (association : UInt32) (request : PtpCapableMessage) :
    (intervalSection gptp port sender association request).heard = port.heard := by
  unfold intervalSection
  cases sender with
  | none => dsimp only; split_ifs <;> rfl
  | some mac => dsimp only; split_ifs <;> rfl

theorem rxSignaling_view (cfg : Config) (s : PtpState F n) (length : Nat)
    (ingress : Fin (n + 1)) (reads : RxReadings) :
    (rxSignaling cfg s length ingress reads).view = s.view := by
  unfold rxSignaling
  dsimp only
  split
  · rfl
  · rw [onRequest_view _ _ _ fun port value => intervalSection_heard ..,
      onRequest_view _ _ _ fun port value => timingSection_heard ..,
      onRequest_view _ _ _ fun port value => handleIndication_heard ..]

theorem noteEndpoint_view (s : PtpState F n) (length : Nat) :
    (s.noteEndpoint length).view = s.view := by
  unfold PtpState.noteEndpoint
  split_ifs
  · exact s.view_withPort0 rfl
  · rfl

theorem ptpProcessDelayReq_view (cfg : Config) (s : PtpState F n) (req : PtpDelayReq)
    (answers : DelayReqAnswers) : (ptpProcessDelayReq cfg s req answers).1.view = s.view := by
  unfold ptpProcessDelayReq
  by_cases hsilent : !s.isGptp && s.selectedSourceValid
  · rw [if_pos hsilent]
  · rw [if_neg hsilent]
    cases answers.response with
    | none => rfl
    | some transmitted => exact s.view_withPort0 rfl

theorem rxSender_view (cfg : Config) (s : PtpState F n) (ingress : Fin (n + 1)) :
    (rxSender cfg s ingress).1.view = s.view := by
  unfold rxSender
  split
  · rfl
  · exact s.view_withPort0 rfl

theorem rxArrival_view (cfg : Config) (s : PtpState F n) (received : Nat)
    (ingress : Fin (n + 1)) (mono : Timespec) :
    (rxArrival cfg s received ingress mono).1.view = s.view := by
  unfold rxArrival
  cases rxAdmission cfg s.isGptp s.port0.rxbuf received with
  | dropped => rfl
  | otherSdoid => exact s.view_withPort rfl
  | admitted length =>
    dsimp only
    generalize hversion : s.withPort ingress _ = s₁
    have hview : s₁.view = s.view := hversion ▸ s.view_withPort rfl
    cases (rxSender cfg s₁ ingress).2 with
    | false => exact (rxSender_view cfg s₁ ingress).trans hview
    | true =>
      rw [if_neg (by decide)]
      apply Eq.trans (PtpState.view_withPort _ _)
      · exact (rxSender_view cfg s₁ ingress).trans hview
      · rfl

theorem pathDelayAveraged_heard (cfg : Config) (port : PtpPort F) (pathDelay : Int) :
    (pathDelayAveraged cfg port pathDelay).heard = port.heard := by
  unfold pathDelayAveraged
  split_ifs <;> rfl

variable [CDouble F]

theorem ptpProcessDelayResp_view (cfg : Config) (s : PtpState F n) (msg : PtpDelayResp)
    (answers : DelayRespAnswers) : (ptpProcessDelayResp cfg s msg answers).view = s.view := by
  unfold ptpProcessDelayResp
  by_cases hgptp : s.isGptp
  · rw [if_pos hgptp]
    unfold delayRespGptp
    dsimp only
    split <;> exact s.view_withPort0 rfl
  · rw [if_neg hgptp]
    unfold delayRespStandard
    by_cases hexpected : !delayRespExpected s msg
    · rw [if_pos hexpected]
    · rw [if_neg hexpected]
      exact PtpState.view_withPort0 _ (pathDelayAveraged_heard ..)

theorem ptpProcessDelayRespFollowUp_view (cfg : Config) (s : PtpState F n)
    (msg : PtpDelayRespFollowUp) (expectedGeneration : UInt32) (times : FollowUpUs) :
    (ptpProcessDelayRespFollowUp cfg s msg expectedGeneration times).view = s.view := by
  unfold ptpProcessDelayRespFollowUp
  dsimp only
  split_ifs
  · rfl
  · split
    · exact s.view_withPort0 rfl
    · split
      · exact s.view_withPort0 rfl
      · apply Eq.trans (PtpState.view_withPort0 _ rfl)
        exact s.view_withPort0 rfl

/-! ## The servo -/

omit [CDouble F] in
/-- A step of the clock retires what was published. -/
theorem cleanAfterStep_view (s : PtpState F n) :
    s.cleanAfterStep.view = { s.view with timing := ptpInvalidateTiming s.view.timing } := by
  unfold PtpState.cleanAfterStep
  dsimp only
  generalize hport : s.withPort0 _ = s₁
  have hview : s₁.view = s.view := hport ▸ s.view_withPort0 rfl
  rw [← hview]
  rfl

theorem ptpLockLocalClockFreq_view (cfg : Config) (s : PtpState F n)
    (remote localTime : Timespec) (clock : ClockAnswers) :
    (ptpLockLocalClockFreq cfg s remote localTime clock).view = s.view := by
  unfold ptpLockLocalClockFreq
  dsimp only
  generalize withinStability cfg s.isGptp _ _ _ = stable
  generalize (if stable then if s.stableCount ≤ 3 then s.stableCount + 1 else s.stableCount
    else 0) = count
  by_cases hcount : count > 3
  · rw [if_pos hcount]
    apply Eq.trans (PtpState.view_withPort0 _ _)
    · rfl
    · rfl
  · rw [if_neg hcount]
    rfl

/-- The view after the clock was jumped, or its rate trimmed. -/
inductive ClockUpdated (v v' : SourceView) : Prop where
  | trimmed (h : v' = { v with clockUpdates := v.clockUpdates + 1 })
  | jumped (h : v' =
      { v with timing := ptpInvalidateTiming v.timing, clockUpdates := v.clockUpdates + 1 })

theorem ptpUpdateLocalClock_view (cfg : Config) (s : PtpState F n)
    (remote localTime : Timespec) (clock : ClockAnswers) :
    ClockUpdated s.view (ptpUpdateLocalClock cfg s remote localTime clock).1.view := by
  have hcounted : ∀ t : PtpState F n, { t with clockUpdates := t.clockUpdates + 1 }.view =
      { t.view with clockUpdates := t.view.clockUpdates + 1 } := fun _ => rfl
  unfold ptpUpdateLocalClock
  dsimp only
  rw [hcounted]
  split
  · apply ClockUpdated.jumped
    rw [cleanAfterStep_view]
    rfl
  · apply ClockUpdated.trimmed
    rw [ptpLockLocalClockFreq_view]

/-! ## Sync and Follow_Up -/

/-- What a Follow_Up publishes, in what matters here. -/
structure Publishes (v : SourceView) (publishedUs : Int) (snapshot : PtpTimingSnapshot) :
    Prop where
  valid : snapshot.valid = true
  receivedUs : snapshot.receivedUs = publishedUs
  btc : snapshot.btcIdentity = v.source.btcIdentity
  generation : snapshot.generation =
    publishedGeneration v.timing.timingSnapshot v.source.btcIdentity snapshot.followUp

/-- What Sync and Follow_Up do to the snapshots: nothing, a step of the clock, or a
    publication. -/
inductive TimingChange (v : SourceView) (publishedUs : Int) (timing : PtpTiming) : Prop where
  | kept (h : timing = v.timing)
  | retired (h : timing = ptpInvalidateTiming v.timing)
  | published (snapshot : PtpTimingSnapshot) (hsnapshot : Publishes v publishedUs snapshot)
      (h : timing = { v.timing with timingSnapshot := snapshot })

/-- A Sync of another port is not looked at. -/
theorem ptpProcessSync_other (cfg : Config) {s : PtpState F n} {msg : PtpSync}
    (h : msg.header.sourcePort ≠ s.selectedSource.header.sourcePort) (times : SyncTimes) :
    ptpProcessSync cfg s msg times = s := by
  unfold ptpProcessSync
  rw [if_pos h]

/-- A two-step Sync waits for its Follow_Up. -/
theorem ptpProcessSync_twoStep (cfg : Config) {s : PtpState F n} {msg : PtpSync}
    (hport : msg.header.sourcePort = s.selectedSource.header.sourcePort)
    (htwo : msg.header.isTwoStep = true) (times : SyncTimes) :
    (ptpProcessSync cfg s msg times).view =
      { s.view with pending := some ⟨msg, s.port0.rxtime, times.receivedUs⟩ } := by
  unfold ptpProcessSync
  dsimp only
  rw [if_neg (not_not.mpr hport), if_pos htwo, PtpState.view_withPort0_heard,
    PtpState.view_withPort0_heard, PtpState.withPort0_port0]
  rfl

/-- A one-step Sync updates the clock at once. -/
theorem ptpProcessSync_oneStep (cfg : Config) {s : PtpState F n} {msg : PtpSync}
    (hport : msg.header.sourcePort = s.selectedSource.header.sourcePort)
    (htwo : msg.header.isTwoStep = false) (times : SyncTimes) :
    ClockUpdated { s.view with pending := none } (ptpProcessSync cfg s msg times).view := by
  unfold ptpProcessSync
  dsimp only
  rw [if_neg (not_not.mpr hport), if_neg (by simp [htwo])]
  generalize hheard : s.withPort0 _ = s₁
  have hview : s₁.view = { s.view with pending := none } := by
    rw [← hheard, PtpState.view_withPort0_heard]
    rfl
  rw [← hview]
  exact ptpUpdateLocalClock_view ..

/-- The receipt time is the one before, or a Follow_Up was observed. -/
def ReceiptObserved (v : SourceView) (observedUs : Int) (receipt : PtpSyncReceipt) : Prop :=
  receipt = v.receipt ∨ ∃ logarithm,
    receipt = (ptpSyncReceiptObserve v.receipt observedUs logarithm observedUs).1

/-- A publication only happens while nothing retires what it was made from. -/
theorem followupPublish_view (cfg : Config) (s : PtpState F n) (message : Bytes)
    (previous : UInt32) (ok : Bool) (times : FollowupTimes) :
    ∃ receipt timing,
      (followupPublish cfg s message previous ok times).view =
        { s.view with receipt := receipt, timing := timing } ∧
      ReceiptObserved s.view times.observedUs receipt ∧
      (timing = s.view.timing ∨
        s.view.timing.timingSnapshot.generation = previous ∧ ∃ snapshot,
          Publishes s.view times.publishedUs snapshot ∧
            timing = { s.view.timing with timingSnapshot := snapshot }) := by
  unfold followupPublish
  dsimp only
  by_cases hobserves : ok && s.isGptp && ptpTimingPayloadValid message 76
  · rw [if_pos hobserves, hobserves]
    generalize hreceipt : s.withPort0 _ = s₁
    have hview : s₁.view = { s.view with receipt := s₁.view.receipt } := by
      rw [← hreceipt]
      rfl
    refine ⟨s₁.view.receipt, ?_⟩
    have hobserved : ReceiptObserved s.view times.observedUs s₁.view.receipt := by
      rw [← hreceipt, PtpState.view_withPort0_heard]
      exact .inr ⟨_, rfl⟩
    by_cases hpublishes :
        (true && decide (s₁.timingSnapshot.generation = previous) && s₁.selectedSourceValid)
    · rw [if_pos hpublishes]
      simp only [Bool.true_and, Bool.and_eq_true, decide_eq_true_eq] at hpublishes
      have htiming : s₁.toPtpTiming = s.view.timing := congrArg SourceView.timing hview
      have hsource : s₁.selectedSource = s.view.source := congrArg SourceView.source hview
      let snapshot := followupSnapshot cfg s₁ (PtpFollowUp.read message) times.publishedUs
      refine ⟨{ s.view.timing with timingSnapshot := snapshot }, ?_, hobserved,
        .inr ⟨?_, snapshot, ⟨rfl, rfl, ?_, ?_⟩, rfl⟩⟩
      · show { s₁.view with timing := { s₁.view.timing with timingSnapshot := snapshot } } = _
        rw [hview]
      · rw [← htiming]
        exact hpublishes.1
      · rw [← hsource]
        rfl
      · rw [← hsource, ← htiming]
        rfl
    · rw [if_neg hpublishes]
      exact ⟨s.view.timing, hview, hobserved, .inl rfl⟩
  · rw [if_neg hobserves]
    refine ⟨s.view.receipt, s.view.timing, ?_, .inl rfl, .inl rfl⟩
    simp [hobserves]

theorem followupTaken_view (s : PtpState F n) (msg : PtpFollowUp) :
    (followupTaken s msg).view = { s.view with pending := none } := by
  have htaken : (s.withPort0 { s.port0 with twostepPending := false }).view =
      { s.view with pending := none } := by
    rw [PtpState.view_withPort0_heard]
    rfl
  unfold followupTaken
  dsimp only
  split
  · exact htaken
  · exact htaken

/-- The Follow_Up belongs to the waiting Sync, and is not too late. -/
structure Follows (msg : PtpFollowUp) (sync : PendingSync) (nowUs : Int) : Prop where
  port : msg.header.sourcePort = sync.packet.header.sourcePort
  sequence : ptpGetSequence msg.header = ptpGetSequence sync.packet.header
  notBefore : sync.receivedUs ≤ nowUs
  inTime : nowUs - sync.receivedUs ≤ 1000000

omit [CDouble F] in
theorem followupAccepted_pending {s : PtpState F n} {message : Bytes} {nowUs : Int}
    (h : followupAccepted s message nowUs = true) :
    ∃ sync, s.view.pending = some sync ∧ Follows (PtpFollowUp.read message) sync nowUs ∧
      sync.rxtime = s.port0.twostepRxtime := by
  unfold followupAccepted at h
  simp only [Bool.and_eq_true, decide_eq_true_eq] at h
  obtain ⟨⟨⟨⟨⟨hpending, hnotBefore⟩, hinTime⟩, hport⟩, hsequence⟩, -⟩ := h
  refine ⟨⟨s.port0.twostepPacket, s.port0.twostepRxtime, s.port0.twostepReceivedUs⟩, ?_,
    ⟨hport, hsequence, by dsimp only; omega, hinTime⟩, rfl⟩
  unfold PtpState.view PtpPort.heard
  rw [if_pos hpending]

/-- The view after an accepted Follow_Up. -/
def SourceView.follow (v : SourceView) (receipt : PtpSyncReceipt) (timing : PtpTiming) :
    SourceView :=
  { v with
    pending := none
    receipt := receipt
    timing := timing
    clockUpdates := v.clockUpdates + 1 }

/-- **A Follow_Up is observed, and published or, if the clock had to jump, retires what
    was.** -/
theorem ptpProcessFollowup_view (cfg : Config) (s : PtpState F n) (message : Bytes)
    (times : FollowupTimes) (haccepted : followupAccepted s message times.nowUs = true) :
    ∃ receipt timing,
      (ptpProcessFollowup cfg s message times).view = s.view.follow receipt timing ∧
      ReceiptObserved s.view times.observedUs receipt ∧
      TimingChange s.view times.publishedUs timing := by
  unfold ptpProcessFollowup
  dsimp only
  rw [if_neg (by simp [haccepted])]
  have htaken := followupTaken_view s (PtpFollowUp.read message)
  generalize followupTaken s (PtpFollowUp.read message) = s₁ at htaken ⊢
  have hupdated := ptpUpdateLocalClock_view cfg s₁
    (ptpFormatToTimespec (PtpFollowUp.read message).origintimestamp) s₁.port0.twostepRxtime
    times.clock
  generalize ptpUpdateLocalClock cfg s₁ _ _ _ = updated at hupdated ⊢
  obtain ⟨receipt, timing, hview, hreceipt, htiming⟩ := followupPublish_view cfg updated.1
    message s₁.timingSnapshot.generation updated.2 times
  have hgeneration : s₁.timingSnapshot.generation = s.view.timing.timingSnapshot.generation :=
    congrArg (fun v => v.timing.timingSnapshot.generation) htaken
  rw [htaken] at hupdated
  rcases hupdated with htrimmed | hjumped
  · rw [htrimmed] at hview hreceipt htiming
    refine ⟨receipt, timing, hview, hreceipt, ?_⟩
    rcases htiming with hkept | ⟨-, snapshot, hsnapshot, hpublished⟩
    · exact .kept hkept
    · exact .published snapshot ⟨hsnapshot.1, hsnapshot.2, hsnapshot.3, hsnapshot.4⟩ hpublished
  · rw [hjumped] at hview hreceipt htiming
    refine ⟨receipt, timing, hview, hreceipt, ?_⟩
    rcases htiming with hkept | ⟨hcurrent, -⟩
    · exact .retired hkept
    · -- The generation that was retired is not the one the handler looked at.
      rw [hgeneration] at hcurrent
      exact absurd hcurrent (by simp [ptpInvalidateTiming])

/-! ## Announce -/

/-- The receipt time is started or left alone. -/
def ReceiptStarted (v : SourceView) (receiptUs : Int) (receipt : PtpSyncReceipt) : Prop :=
  receipt = v.receipt ∨ ∃ windowUs, receipt = ptpSyncReceiptStart receiptUs windowUs

/-- The view after a stored Announce; another source has to send its own Sync. -/
def SourceView.accept (v : SourceView) (msg : PtpAnnounce) (mono : Timespec)
    (receipt : PtpSyncReceipt) (changed : Bool) : SourceView :=
  { v with
    source := msg
    announced := mono
    receipt := receipt
    pending := if changed then none else v.pending
    timing := if changed then ptpInvalidateTiming v.timing else v.timing }

/-- The view after a dropped source. -/
def SourceView.drop (v : SourceView) : SourceView :=
  { v with valid := false, source := default, timing := ptpInvalidateTiming v.timing }

omit [CDouble F] in
theorem announceNeighbor_heard (port : PtpPort F) (msg : PtpAnnounce) :
    (announceNeighbor port msg).1.heard = port.heard := by
  unfold announceNeighbor
  split <;> rfl

omit [CDouble F] in
theorem storeSource_view (cfg : Config) (s : PtpState F n) (message : Bytes) (length : Nat)
    (path : PtpPathTrace) :
    (s.storeSource cfg message length path).view =
      { s.view with
        source := PtpAnnounce.read message
        announced := s.port0.lastReceivedAnnounce } := by
  have hkept : ∀ (selection : PtpSelection) (rx : RxScratch),
      (noteSourceMac selection rx).selectedSourceValid = selection.selectedSourceValid ∧
        (noteSourceMac selection rx).selectedSource = selection.selectedSource := by
    intro selection rx
    unfold noteSourceMac
    split <;> exact ⟨rfl, rfl⟩
  unfold PtpState.storeSource PtpState.view
  dsimp only
  rw [(hkept _ _).1, (hkept _ _).2]
  rfl

theorem switchSource_view (s : PtpState F n) :
    s.switchSource.view =
        { s.view with pending := none, timing := ptpInvalidateTiming s.view.timing } ∧
      s.switchSource.port0.lastReceivedAnnounce = s.port0.lastReceivedAnnounce := by
  unfold PtpState.switchSource
  dsimp only
  generalize hport : s.invalidateTiming.withPort0 _ = s₁
  have hview : s₁.view = { s.invalidateTiming.view with pending := none } := by
    rw [← hport, PtpState.view_withPort0_heard]
    rfl
  constructor
  · show s₁.view = _
    rw [hview, PtpState.view_invalidateTiming]
  · rw [← hport]
    rfl

section Received

variable (cfg : Config) (s : PtpState F n) (message : Bytes) (length : Nat)
  (path : PtpPathTrace) (receiptUs : Int)

theorem announceReceived_wins (h : announceWins s (PtpAnnounce.read message) = true) :
    ∃ receipt, ReceiptStarted s.view receiptUs receipt ∧
      (announceReceived cfg s message length path receiptUs).view =
        s.view.accept (PtpAnnounce.read message) s.port0.lastReceivedAnnounce receipt
          (announceChanged s.toPtpSelection (PtpAnnounce.read message)) := by
  unfold announceWins at h
  unfold announceReceived
  generalize hmsg : PtpAnnounce.read message = msg at h ⊢
  simp only [Bool.and_eq_true, Bool.or_eq_true, Bool.not_eq_true'] at h
  obtain ⟨hbetter, hwins⟩ := h
  have hskip : ¬ (!s.samePort msg && s.selectedSourceValid &&
      !isBetterClock msg s.selectedSource) = true := by
    rcases hwins with (hport | hvalid) | hless
    · simp [hport]
    · simp [hvalid]
    · simp [hless]
  dsimp only
  rw [if_neg (by simp [hbetter]), if_neg hskip]
  generalize hstarted : (if announceChanged s.toPtpSelection msg ||
    announceVectorChanged s.toPtpSelection msg then s.withPort0 _ else s) = s₁
  obtain ⟨hview, hreceipt, hannounced⟩ :
      s₁.view = { s.view with receipt := s₁.view.receipt } ∧
        ReceiptStarted s.view receiptUs s₁.view.receipt ∧
        s₁.port0.lastReceivedAnnounce = s.port0.lastReceivedAnnounce := by
    split at hstarted
    · subst hstarted
      exact ⟨rfl, .inr ⟨_, rfl⟩, rfl⟩
    · subst hstarted
      exact ⟨rfl, .inl rfl, rfl⟩
  refine ⟨s₁.view.receipt, hreceipt, ?_⟩
  apply Eq.trans (storeSource_view ..)
  cases announceChanged s.toPtpSelection msg with
  | true =>
    obtain ⟨hswitched, hkept⟩ := switchSource_view s₁
    rw [if_pos rfl, hswitched, hkept, hannounced, hview, hmsg]
    rfl
  | false =>
    rw [if_neg (by decide), hannounced, hview, hmsg]
    rfl

theorem announceReceived_fails (h : announceFails s (PtpAnnounce.read message) = true) :
    (announceReceived cfg s message length path receiptUs).view = s.view.drop := by
  unfold announceFails at h
  unfold announceReceived
  simp only [Bool.and_eq_true] at h
  dsimp only
  rw [if_pos h.1, if_pos h.2]
  rfl

/-- Any other Announce leaves the whole daemon as it is. -/
theorem announceReceived_ignored (hwins : announceWins s (PtpAnnounce.read message) = false)
    (hfails : announceFails s (PtpAnnounce.read message) = false) :
    announceReceived cfg s message length path receiptUs = s := by
  unfold announceWins at hwins
  unfold announceFails at hfails
  unfold announceReceived
  generalize PtpAnnounce.read message = msg at hwins hfails ⊢
  dsimp only
  cases hbetter : isBetterClock msg s.ownIdentity with
  | false => simp_all
  | true => 
    simp only [hbetter, Bool.true_and, Bool.or_eq_false_iff, Bool.not_eq_false'] at hwins
    obtain ⟨⟨hport, hvalid⟩, hworse⟩ := hwins
    simp [hport, hvalid, hworse]

end Received

/-- The view after an Announce. -/
structure AnnounceEffect (v v' : SourceView) (msg : PtpAnnounce) (times : AnnounceTimes)
    (accepts drops : Bool) : Prop where
  /-- Only a valid source is announced again without a change. -/
  accepted : accepts = true → ∃ receipt changed, ReceiptStarted v times.receiptUs receipt ∧
    (changed = false → v.valid = true ∧ msg.header.sourcePort = v.source.header.sourcePort) ∧
    v' = v.accept msg times.mono receipt changed
  dropped : drops = true → v' = v.drop
  ignored : accepts = false → drops = false → v' = v

/-- **An Announce is stored, ends the selection, or does nothing.** -/
theorem ptpProcessAnnounce_view (cfg : Config) (s : PtpState F n) (message : Bytes)
    (length : Nat) (times : AnnounceTimes) :
    AnnounceEffect s.view (ptpProcessAnnounce cfg s message length times).view
      (PtpAnnounce.read message) times (announceAccepts s message length)
      (announceDrops s message length) := by
  unfold announceAccepts announceDrops ptpProcessAnnounce announceInOrder
  dsimp only
  cases ptpPathTraceParse message length s.ownIdentity.header.sourceidentity with
  | none => exact ⟨by simp, by simp, fun _ _ => rfl⟩
  | some path =>
    cases announceRefused s (PtpAnnounce.read message) with
    | true => exact ⟨by simp, by simp, fun _ _ => rfl⟩
    | false =>
      have hneighbor := announceNeighbor_heard s.port0 (PtpAnnounce.read message)
      generalize announceNeighbor s.port0 (PtpAnnounce.read message) = neighbor at hneighbor ⊢
      obtain ⟨port, bound⟩ := neighbor
      cases bound with
      | false => exact ⟨by simp, by simp, fun _ _ => s.view_withPort0 hneighbor⟩
      | true =>
        simp only [Option.isSome_some, Bool.not_false, Bool.and_true, Bool.true_and,
          Bool.false_eq_true, if_false, Bool.not_true]
        generalize hstamped : (s.withPort0 port).withPort0 _ = s₁
        have hview : s₁.view = s.view := by
          rw [← hstamped]
          apply Eq.trans (PtpState.view_withPort0 _ _)
          · exact s.view_withPort0 hneighbor
          · rfl
        have hmono : s₁.port0.lastReceivedAnnounce = times.mono := by
          rw [← hstamped, PtpState.withPort0_port0]
        -- The stamp of the receipt is nothing the comparisons read.
        have hsame : announceWins s₁ = announceWins s ∧ announceFails s₁ = announceFails s := by
          rw [← hstamped]
          exact ⟨rfl, rfl⟩
        rw [← hsame.1, ← hsame.2, ← hview]
        refine ⟨fun hwins => ?_, fun hfails => announceReceived_fails _ _ _ _ _ _ hfails,
          fun hwins hfails => ?_⟩
        · obtain ⟨receipt, hreceipt, hafter⟩ :=
            announceReceived_wins cfg s₁ message length path times.receiptUs hwins
          rw [hmono] at hafter
          refine ⟨receipt, _, hreceipt, fun hchanged => ?_, hafter⟩
          unfold announceChanged at hchanged
          simp only [Bool.or_eq_false_iff, Bool.not_eq_false'] at hchanged
          exact ⟨hchanged.1.1, of_decide_eq_true hchanged.1.2⟩
        · rw [announceReceived_ignored _ _ _ _ _ _ hwins hfails]

/-! ## Every frame -/

/-- What the timing handlers make of a frame, where they do more than look at it. -/
inductive RxHandled where
  | nothing
  /-- The Announce is stored as the selected source. -/
  | announce (msg : PtpAnnounce)
  /-- A Sync of the selected source. -/
  | sync (msg : PtpSync)
  /-- The Follow_Up updates the clock. -/
  | followUp (msg : PtpFollowUp)
  deriving DecidableEq

/-- `rxTiming`, as far as it takes the message. -/
def rxTimingHandled (cfg : Config) (s : PtpState F n) (length : Nat) (reads : RxReadings) :
    RxHandled :=
  let message := s.port0.rxbuf
  if s.lacksCapability cfg reads.capability then .nothing
  else if !cfg.actsAsClient then .nothing
  else
    match message.msgtype with
    | .announce =>
      if announceAccepts s message length then .announce (PtpAnnounce.read message) else .nothing
    | .sync =>
      if s.ignoresSync then .nothing
      else if (PtpSync.read message).header.sourcePort ≠ s.selectedSource.header.sourcePort then
        .nothing
      else .sync (PtpSync.read message)
    | .followUp =>
      if s.ignoresSync then .nothing
      else if followupAccepted s message reads.followup.nowUs then
        .followUp (PtpFollowUp.read message)
      else .nothing
    | _ => .nothing

/-- What the timing handlers make of a frame received in the state `s`. -/
def rxHandled (cfg : Config) (s : PtpState F n) (received : Nat) (ingress : Fin (n + 1))
    (reads : RxReadings) : RxHandled :=
  let arrival := rxArrival cfg s received ingress reads.mono
  match arrival.2 with
  | none => .nothing
  | some length =>
    if ingress = bootstrapPort then rxTimingHandled cfg arrival.1 length reads else .nothing

/-- The message type is that of an Announce. -/
def PtpAnnounce.IsAnnounce (msg : PtpAnnounce) : Prop :=
  PtpMsgtype.ofByte msg.header.messagetype = .announce

instance (msg : PtpAnnounce) : Decidable msg.IsAnnounce :=
  inferInstanceAs (Decidable (PtpMsgtype.ofByte msg.header.messagetype = .announce))

/-- A zeroed message is not an Announce. -/
theorem not_isAnnounce_default : ¬ (default : PtpAnnounce).IsAnnounce := by
  unfold PtpAnnounce.IsAnnounce
  decide

/-- What a frame received at `rxtime` can do. -/
inductive RxEffect (v v' : SourceView) (rxtime : Timespec) (reads : RxReadings) :
    RxHandled → Prop where
  | kept (h : v' = v) : RxEffect v v' rxtime reads .nothing
  /-- Without the capability no Sync waits. -/
  | cleared (h : v' = { v with pending := none }) : RxEffect v v' rxtime reads .nothing
  | dropped (h : v' = v.drop) : RxEffect v v' rxtime reads .nothing
  | accepted (msg : PtpAnnounce) (receipt : PtpSyncReceipt) (changed : Bool)
      (htype : msg.IsAnnounce)
      (hreceipt : ReceiptStarted v reads.announce.receiptUs receipt)
      (hchanged : changed = false →
        v.valid = true ∧ msg.header.sourcePort = v.source.header.sourcePort)
      (h : v' = v.accept msg reads.announce.mono receipt changed) :
      RxEffect v v' rxtime reads (.announce msg)
  | waits (msg : PtpSync) (hvalid : v.valid = true)
      (hport : msg.header.sourcePort = v.source.header.sourcePort)
      (htwo : msg.header.isTwoStep = true)
      (h : v' = { v with pending := some ⟨msg, rxtime, reads.sync.receivedUs⟩ }) :
      RxEffect v v' rxtime reads (.sync msg)
  | stepped (msg : PtpSync) (hvalid : v.valid = true)
      (hport : msg.header.sourcePort = v.source.header.sourcePort)
      (htwo : msg.header.isTwoStep = false)
      (h : ClockUpdated { v with pending := none } v') : RxEffect v v' rxtime reads (.sync msg)
  | followed (msg : PtpFollowUp) (sync : PendingSync) (receipt : PtpSyncReceipt)
      (timing : PtpTiming) (hvalid : v.valid = true) (hpending : v.pending = some sync)
      (hfollows : Follows msg sync reads.followup.nowUs)
      (hreceipt : ReceiptObserved v reads.followup.observedUs receipt)
      (htiming : TimingChange v reads.followup.publishedUs timing)
      (h : v' = v.follow receipt timing) : RxEffect v v' rxtime reads (.followUp msg)

omit [CDouble F] in
theorem ignoresSync_valid {s : PtpState F n} (h : s.ignoresSync = false) :
    s.view.valid = true := by
  unfold PtpState.ignoresSync at h
  simp only [Bool.or_eq_false_iff, Bool.not_eq_false'] at h
  exact h.1

/-- A Follow_Up that is not accepted is not looked at further. -/
theorem ptpProcessFollowup_refused (cfg : Config) {s : PtpState F n} {message : Bytes}
    {times : FollowupTimes} (h : followupAccepted s message times.nowUs = false) :
    ptpProcessFollowup cfg s message times = s := by
  unfold ptpProcessFollowup
  rw [if_pos (by simp [h])]

/-- The handlers of the timing messages. -/
theorem rxTiming_effect (cfg : Config) (s : PtpState F n) (length : Nat) (reads : RxReadings) :
    RxEffect s.view (rxTiming cfg s length reads).view s.port0.rxtime reads
      (rxTimingHandled cfg s length reads) := by
  unfold rxTiming rxTimingHandled
  dsimp only
  cases s.lacksCapability cfg reads.capability with
  | true =>
    apply RxEffect.cleared
    exact PtpState.view_withPort0_heard ..
  | false =>
    cases cfg.actsAsClient with
    | false => exact .kept rfl
    | true =>
      simp only [Bool.false_eq_true, if_false, Bool.not_true]
      cases htype : s.port0.rxbuf.msgtype with
      | announce =>
        have heffect := ptpProcessAnnounce_view cfg s s.port0.rxbuf length reads.announce
        dsimp only
        cases haccepts : announceAccepts s s.port0.rxbuf length with
        | true =>
          obtain ⟨receipt, changed, hreceipt, hchanged, hview⟩ := heffect.accepted haccepts
          exact .accepted _ receipt changed htype hreceipt hchanged hview
        | false =>
          cases hdrops : announceDrops s s.port0.rxbuf length with
          | true => exact .dropped (heffect.dropped hdrops)
          | false => exact .kept (heffect.ignored haccepts hdrops)
      | sync =>
        dsimp only
        cases hignores : s.ignoresSync with
        | true => exact .kept rfl
        | false =>
          have hvalid := ignoresSync_valid hignores
          by_cases hport : (PtpSync.read s.port0.rxbuf).header.sourcePort ≠
              s.selectedSource.header.sourcePort
          · rw [ptpProcessSync_other cfg hport, if_pos hport]
            exact .kept rfl
          · rw [if_neg hport]
            have hsame := not_not.mp hport
            cases htwo : (PtpSync.read s.port0.rxbuf).header.isTwoStep with
            | true =>
              exact .waits _ hvalid hsame htwo (ptpProcessSync_twoStep cfg hsame htwo reads.sync)
            | false =>
              exact .stepped _ hvalid hsame htwo
                (ptpProcessSync_oneStep cfg hsame htwo reads.sync)
      | followUp =>
        dsimp only
        cases hignores : s.ignoresSync with
        | true => exact .kept rfl
        | false =>
          cases haccepted : followupAccepted s s.port0.rxbuf reads.followup.nowUs with
          | false =>
            rw [ptpProcessFollowup_refused cfg haccepted]
            exact .kept rfl
          | true =>
            obtain ⟨sync, hpending, hfollows, -⟩ := followupAccepted_pending haccepted
            obtain ⟨receipt, timing, hview, hreceipt, htiming⟩ :=
              ptpProcessFollowup_view cfg s s.port0.rxbuf reads.followup haccepted
            exact .followed _ sync receipt timing (ignoresSync_valid hignores) hpending hfollows
              hreceipt htiming hview
      | _ => exact .kept rfl

omit [CDouble F] in
/-- Of any other message the timing handlers make nothing. -/
theorem rxTimingHandled_nothing (cfg : Config) {s : PtpState F n} (length : Nat)
    (reads : RxReadings) (hannounce : s.port0.rxbuf.msgtype ≠ .announce)
    (hsync : s.port0.rxbuf.msgtype ≠ .sync) (hfollowUp : s.port0.rxbuf.msgtype ≠ .followUp) :
    rxTimingHandled cfg s length reads = .nothing := by
  unfold rxTimingHandled
  dsimp only
  split
  · rfl
  · split
    · rfl
    · cases htype : s.port0.rxbuf.msgtype with
      | announce => exact absurd htype hannounce
      | sync => exact absurd htype hsync
      | followUp => exact absurd htype hfollowUp
      | _ => rfl

/-- **What `ptp_process_rx_packet` can do to the time source.** -/
theorem ptpProcessRxPacket_effect (cfg : Config) (s : PtpState F n) (received : Nat)
    (ingress : Fin (n + 1)) (reads : RxReadings) :
    RxEffect s.view (ptpProcessRxPacket cfg s received ingress reads).1.view s.port0.rxtime reads
      (rxHandled cfg s received ingress reads) := by
  have harrival := rxArrival_view cfg s received ingress reads.mono
  have hrxtime : (rxArrival cfg s received ingress reads.mono).1.port0.rxtime = s.port0.rxtime :=
    congrArg (fun t => t.port0.rxtime) (rxArrival_unstamped cfg s received ingress reads.mono)
  unfold ptpProcessRxPacket rxHandled
  generalize rxArrival cfg s received ingress reads.mono = arrival at harrival hrxtime ⊢
  obtain ⟨s', passed⟩ := arrival
  cases passed with
  | none => exact .kept harrival
  | some length =>
    dsimp only at harrival hrxtime ⊢
    rw [← harrival, ← hrxtime]
    have hnothing : s'.port0.rxbuf.msgtype ≠ .announce → s'.port0.rxbuf.msgtype ≠ .sync →
        s'.port0.rxbuf.msgtype ≠ .followUp →
        (if ingress = 0 then rxTimingHandled cfg s' length reads else .nothing) = .nothing := by
      intro hannounce hsync hfollowUp
      rw [rxTimingHandled_nothing cfg length reads hannounce hsync hfollowUp, ite_self]
    unfold rxDispatch
    cases htype : s'.port0.rxbuf.msgtype with
    | announce | sync | followUp =>
      by_cases hport : ingress = 0
      · simp only [ne_eq, hport, not_true_eq_false, if_false, if_true]
        exact rxTiming_effect cfg s' length reads
      · simp only [ne_eq, hport, not_false_eq_true, if_true, if_false]
        exact .kept rfl
    | signaling =>
      rw [hnothing (by simp [htype]) (by simp [htype]) (by simp [htype])]
      exact .kept (rxSignaling_view ..)
    | delayResp | pdelayResp =>
      rw [hnothing (by simp [htype]) (by simp [htype]) (by simp [htype])]
      apply RxEffect.kept
      dsimp only
      split
      · rfl
      · unfold rxDelayResp
        dsimp only
        split
        · rfl
        · exact (ptpProcessDelayResp_view ..).trans (noteEndpoint_view ..)
    | delayReq | pdelayReq =>
      rw [hnothing (by simp [htype]) (by simp [htype]) (by simp [htype])]
      apply RxEffect.kept
      dsimp only
      split
      · exact (ptpProcessDelayReq_view ..).trans (noteEndpoint_view ..)
      · rfl
    | pdelayRespFollowUp =>
      rw [hnothing (by simp [htype]) (by simp [htype]) (by simp [htype])]
      apply RxEffect.kept
      dsimp only
      split
      · rfl
      · exact (ptpProcessDelayRespFollowUp_view ..).trans (noteEndpoint_view ..)
    | other =>
      rw [hnothing (by simp [htype]) (by simp [htype]) (by simp [htype])]
      exact .kept rfl

end EspPtp
