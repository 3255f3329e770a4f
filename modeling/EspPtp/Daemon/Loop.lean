import EspPtp.Daemon.Source

/-!
# The daemon's loop, and who else writes its state

The sections of one pass of `ptp_daemon` that look at the time source, next to the received
frame: the capability check at its top, the validity check, the local source, the profile
fallback. And the functions other tasks call: `ptpd_set_profile`, the events of the Ethernet
driver, and the injections.

Each is one step here, with its equation on `SourceView`.
-/

namespace EspPtp

open Lib

variable {F : Type} [CDouble F] {n : Nat}

/-! ## The loop -/

/-- The top of a pass: a wired port in the gPTP profile without a capable peer has no
    source. -/
def checkCapability (cfg : Config) (s : PtpState F n) (times : CapabilityTimes) : PtpState F n :=
  let s :=
    if s.lacksCapability cfg times then
      let s := if s.selectedSourceValid || s.port0.twostepPending then s.invalidateTiming else s
      let s := s.withPort0 { s.port0 with twostepPending := false }
      { s with selectedSourceValid := false }
    else s
  s.withPort0 { s.port0 with canSendDelayreq := s.isGptp }

/-- The validity check of a pass. -/
def revalidate (cfg : Config) (s : PtpState F n) (times : ValidityTimes) : PtpState F n :=
  let valid := isSelectedSourceValid cfg s times
  let after := { s with selectedSourceValid := valid }
  if s.selectedSourceValid && !valid then after.invalidateTiming else after

/-- `ptp_reset_for_profile`. -/
def ptpResetForProfile (cfg : Config) (s : PtpState F n) : PtpState F n :=
  let s := { s with ports := fun p => resetPortForProfile (s.ports p) }
  let s :=
    { s.invalidateTiming with
      selectedSourceValid := false
      selectedSource := default
      selectedPath := []
      lastSelectedAnnounce := default
      selectedSourceMacValid := false
      selectedGmLinkMbps := 0 }
  let s := { s with toPtpSelection := ptpResetUnicastDelayReq s.toPtpSelection }
  let s := s.updateDelayAsymmetry cfg
  let s := s.withPort0
    { s.port0 with
      twostepPending := false
      pathDelayAvgcount := 0
      pathDelayNs := 0
      peerDelayAvgcount := 0
      peerDelayNs := 0
      canSendDelayreq := false
      delayreqTime := default }
  let s := { s with correctionNs := CDouble.ofInt 0 }.cleanAfterStep
  let intervalMs := if s.isGptp then cfg.pdelayreqIntervalMs else cfg.delayreqIntervalMs
  s.withPort0
    { s.port0 with
      delayreqIntervalMs := intervalMs
      nextDelayreqIntervalMs := intervalMs }

/-- The AVB Lite fallback, for one of its three reasons. -/
def fallBack (cfg : Config) (s : PtpState F n) (reason : Nat) : PtpState F n :=
  ptpResetForProfile cfg
    { s with
      gptpFallbackDone := true
      avbLiteFallbackReason := reason
      activePtpProfile := .standard }

/-- `ptp_check_profile_fallback`; `dropping` is the answer of the receiver's drop probe. -/
def ptpCheckProfileFallback (cfg : Config) (s : PtpState F n) (nowUs : Int) (dropping : Bool) :
    PtpState F n :=
  if !cfg.avbLiteEndpoint || !s.isGptp || s.gptpFallbackDone ||
      decide (s.port0.type = .bridged) then s
  else if s.port0.peerIsEndpoint then fallBack cfg s 1
  else
    let exchange := (ptpPeerExpire s.port0.peerExchange nowUs).1
    let s := s.withPort0 { s.port0 with peerExchange := exchange }
    if exchange.lostResponses ≥ 9 then
      if dropping then s else fallBack cfg s 2
    else if s.port0.pdelayMultiResponder then fallBack cfg s 3
    else s

/-! ## Other tasks -/

/-- The window for the evaluation starts anew, if the profile in effect is gPTP. -/
def startFallbackWindow (s : PtpState F n) : PtpState F n :=
  if !s.isGptp then { s with avbLiteFallbackReason := 4 }
  else
    let s := s.withPort0
      { s.port0 with
        peerIsEndpoint := false
        peerExchange := { s.port0.peerExchange with lostResponses := 0 }
        pdelayMultiResponder := false
        lastEndpointBeacon := default }
    { s with
      avbLiteFallbackReason := 0
      gptpFallbackDone := false }

/-- `ptp_arm_profile_fallback`: the configured profile is in effect again. -/
def ptpArmProfileFallback (cfg : Config) (s : PtpState F n) : PtpState F n :=
  startFallbackWindow
    (if s.activePtpProfile ≠ s.preferredPtpProfile then
      ptpResetForProfile cfg { s with activePtpProfile := s.preferredPtpProfile }
    else s)

/-- `ptpd_set_profile`. -/
def ptpdSetProfile (cfg : Config) (s : PtpState F n) (profile : PtpProfile) : PtpState F n :=
  if s.activePtpProfile = profile then s
  else
    let s := ptpResetForProfile cfg
      { s with activePtpProfile := profile, preferredPtpProfile := profile }
    if profile = .gptp then ptpArmProfileFallback cfg s else s

/-- What the injections read from outside. -/
structure InjectTimes where
  mono : Timespec
  localTime : Timespec
  clock : ClockAnswers
  deriving DecidableEq, Inhabited

/-- A time source made up from a Follow_Up, where there is none or another. -/
def synthesizeSource (s : PtpState F n) (header : PtpHeader) : PtpState F n :=
  if !s.selectedSourceValid ∨
      s.selectedSource.header.sourceidentity ≠ header.sourceidentity then
    { s with
      selectedSource :=
        { (default : PtpAnnounce) with
          header := header
          btcIdentity := header.sourceidentity }
      selectedSourceValid := true }
  else s

/-- `ptpd_inject_sync` of a message of 76 bytes or more. -/
def ptpdInjectSync (cfg : Config) (s : PtpState F n) (p : Fin (n + 1)) (message : Bytes)
    (times : InjectTimes) : PtpState F n :=
  let msg := PtpFollowUp.read message
  if message.msgtype ≠ .followUp then s
  else
    let s := synthesizeSource s msg.header
    let s := s.withPort p { s.ports p with lastReceivedSync := times.mono }
    (ptpUpdateLocalClock cfg s (ptpFormatToTimespec msg.origintimestamp) times.localTime
      times.clock).1

/-- `ptpd_inject_sync_pair`. -/
def ptpdInjectSyncPair (cfg : Config) (s : PtpState F n) (p : Fin (n + 1))
    (remoteNs localNs : Int) (times : InjectTimes) : PtpState F n :=
  let timespec (ns : Int) : Timespec := ⟨ns.tdiv nsecPerSec, ns.tmod nsecPerSec⟩
  if !s.selectedSourceValid then s
  else
    let s := s.withPort p { s.ports p with lastReceivedSync := times.mono }
    (ptpUpdateLocalClock cfg s (timespec remoteNs) (timespec localNs) times.clock).1

/-- `ptpd_ftm_source_observed` for port `p`; `sourceIdentity` and `domain` are those of the
    beacon's element. -/
def ptpdFtmSourceObserved (cfg : Config) (s : PtpState F n) (p : Fin (n + 1))
    (sourceIdentity : ClockIdentity) (domain : UInt8) (logInterval receivedUs nowUs : Int)
    (mono : Timespec) : PtpState F n :=
  let port := s.ports p
  if !cfg.useSwClock ∨ !port.linkUp ∨ !s.selectedSourceValid ∨ !s.isGptp ∨
      s.selectedSource.btcPriority1 = 255 ∨ domain ≠ cfg.domain ∨
      sourceIdentity ≠ s.selectedSource.header.sourceidentity then s
  else
    let observed :=
      if port.receiptWindowUs > 0 then
        ptpSyncReceiptObserveWindow port.syncReceipt receivedUs port.receiptWindowUs nowUs
      else ptpSyncReceiptObserve port.syncReceipt receivedUs logInterval nowUs
    if observed.2 then
      s.withPort p { port with syncReceipt := observed.1, lastReceivedSync := mono }
    else s

/-! ## On the view -/

omit [CDouble F] in
theorem checkCapability_view (cfg : Config) (s : PtpState F n) (times : CapabilityTimes) :
    (checkCapability cfg s times).view =
      if s.lacksCapability cfg times then
        { s.view with
          valid := false
          pending := none
          timing :=
            if s.view.valid || s.view.pending.isSome then ptpInvalidateTiming s.view.timing
            else s.view.timing }
      else s.view := by
  have hpending : s.view.pending.isSome = s.port0.twostepPending := by
    unfold PtpState.view PtpPort.heard
    cases s.port0.twostepPending <;> rfl
  unfold checkCapability
  dsimp only
  apply Eq.trans (PtpState.view_withPort0 _ rfl)
  cases s.lacksCapability cfg times with
  | false => rfl
  | true =>
    rw [if_pos rfl, if_pos rfl, hpending]
    generalize hcleared : PtpState.withPort0 _ _ = s₁
    have hview : s₁.view =
        { s.view with
          pending := none
          timing :=
            if s.selectedSourceValid || s.port0.twostepPending then
              ptpInvalidateTiming s.view.timing
            else s.view.timing } := by
      rw [← hcleared, PtpState.view_withPort0_heard]
      cases s.selectedSourceValid || s.port0.twostepPending <;> rfl
    show { s₁.view with valid := false } = _
    rw [hview]
    rfl

omit [CDouble F] in
theorem revalidate_view (cfg : Config) (s : PtpState F n) (times : ValidityTimes) :
    (revalidate cfg s times).view =
      { s.view with
        valid := isSelectedSourceValid cfg s times
        timing :=
          if s.view.valid && !isSelectedSourceValid cfg s times then
            ptpInvalidateTiming s.view.timing
          else s.view.timing } := by
  unfold revalidate
  dsimp only
  generalize isSelectedSourceValid cfg s times = valid
  by_cases hlost : s.selectedSourceValid && !valid
  · rw [if_pos hlost, if_pos (show (s.view.valid && !valid) = true from hlost)]
    rfl
  · rw [if_neg hlost, if_neg (show ¬(s.view.valid && !valid) = true from hlost)]
    rfl

omit [CDouble F] in
/-- A valid source is an Announce. -/
theorem isSelectedSourceValid_isAnnounce {cfg : Config} {s : PtpState F n}
    {times : ValidityTimes} (h : isSelectedSourceValid cfg s times = true) :
    s.view.source.IsAnnounce := by
  unfold isSelectedSourceValid at h
  split at h
  · cases h
  · split at h
    · cases h
    · rename_i hannounce
      simp only [Bool.not_eq_true', Bool.not_eq_false] at hannounce
      exact of_decide_eq_true hannounce

/-- The view after `ptp_reset_for_profile`: nothing is left of the source, and what was
    published is retired twice. -/
def SourceView.reset (v : SourceView) : SourceView :=
  { v with
    valid := false
    source := default
    announced := default
    pending := none
    timing := ptpInvalidateTiming (ptpInvalidateTiming v.timing) }

theorem ptpResetForProfile_view (cfg : Config) (s : PtpState F n) :
    (ptpResetForProfile cfg s).view = s.view.reset := by
  unfold ptpResetForProfile
  dsimp only
  apply Eq.trans (PtpState.view_withPort0 _ rfl)
  rw [cleanAfterStep_view]
  generalize hdropped : PtpState.withPort0 _ _ = s₁
  have hview : s₁.view =
      { s.view with
        valid := false
        source := default
        announced := default
        pending := none
        timing := ptpInvalidateTiming s.view.timing } := by
    rw [← hdropped, PtpState.view_withPort0_heard]
    rfl
  show { s₁.view with timing := ptpInvalidateTiming s₁.view.timing } = _
  rw [hview]
  rfl

/-- What a change of the effective profile does. -/
inductive ProfileEffect (v v' : SourceView) : Prop where
  | kept (h : v' = v)
  | reset (profile : PtpProfile) (h : v' = { v with profile := profile }.reset)

theorem fallBack_view (cfg : Config) (s : PtpState F n) (reason : Nat) :
    (fallBack cfg s reason).view = { s.view with profile := .standard }.reset := by
  unfold fallBack
  rw [ptpResetForProfile_view]
  rfl

theorem ptpCheckProfileFallback_view (cfg : Config) (s : PtpState F n) (nowUs : Int)
    (dropping : Bool) :
    ProfileEffect s.view (ptpCheckProfileFallback cfg s nowUs dropping).view := by
  unfold ptpCheckProfileFallback
  dsimp only
  generalize hexpired : s.withPort0 _ = s₁
  have hview : s₁.view = s.view := hexpired ▸ s.view_withPort0 rfl
  split_ifs
  · exact .kept rfl
  · exact .reset .standard (fallBack_view ..)
  · exact .kept hview
  · exact .reset .standard (hview ▸ fallBack_view ..)
  · exact .reset .standard (hview ▸ fallBack_view ..)
  · exact .kept hview

omit [CDouble F] in
theorem startFallbackWindow_view (s : PtpState F n) :
    (startFallbackWindow s).view = s.view := by
  unfold startFallbackWindow
  split
  · rfl
  · exact s.view_withPort0 rfl

theorem ptpArmProfileFallback_view (cfg : Config) (s : PtpState F n) :
    ProfileEffect s.view (ptpArmProfileFallback cfg s).view := by
  unfold ptpArmProfileFallback
  rw [startFallbackWindow_view]
  split
  · apply ProfileEffect.reset s.preferredPtpProfile
    rw [ptpResetForProfile_view]
    rfl
  · exact .kept rfl

theorem ptpdSetProfile_view (cfg : Config) (s : PtpState F n) (profile : PtpProfile) :
    ProfileEffect s.view (ptpdSetProfile cfg s profile).view := by
  unfold ptpdSetProfile
  dsimp only
  by_cases hsame : s.activePtpProfile = profile
  · rw [if_pos hsame]
    exact .kept rfl
  · rw [if_neg hsame]
    generalize hset : ptpResetForProfile cfg
      { s with activePtpProfile := profile, preferredPtpProfile := profile } = s₁
    have hview : s₁.view = { s.view with profile := profile }.reset := by
      rw [← hset, ptpResetForProfile_view]
      rfl
    have hpreferred : s₁.activePtpProfile = s₁.preferredPtpProfile := by
      rw [← hset]
      rfl
    apply ProfileEffect.reset profile
    rw [← hview]
    split
    · -- The profile set is the configured one, so there is no second reset.
      unfold ptpArmProfileFallback
      rw [startFallbackWindow_view, if_neg (not_not.mpr hpreferred)]
    · rfl

end EspPtp
