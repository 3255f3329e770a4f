import EspPtp.Daemon.DelayRequest
import EspPtp.Daemon.Loop
import EspPtp.Wire.Codec

/-!
# The timer of the delay requests (`pdelay_req_timer_cb`)

Requests are sent by a timer task, at its own cadence. In the standard profile it asks
`can_send_delayreq`: the servo sets the flag when an observation finds the clock stable, a
change of profile clears it, and so does the top of every pass of the loop, which in this
profile writes a false one. `pdelayReqTimerCb_sends_iff` is what comes of it: the permission
of an observation is good until the next pass begins, and no longer.
-/

namespace EspPtp

open Lib

variable {F : Type} {n : Nat}

/-! ## The callback -/

/-- The conditions of `pdelay_req_timer_cb`. -/
def timerSends (s : PtpState F n) : Bool :=
  s.port0.enabled && decide (s.port0.medium = .ethHwts) && s.port0.socketOpen &&
    (s.isGptp || (s.selectedSourceValid && s.port0.canSendDelayreq))

/-- The next interval in microseconds; a second where it is not initialized. -/
def timerIntervalUs (port : PtpPort F) : UInt32 :=
  let intervalUs := UInt32.ofInt port.nextDelayreqIntervalMs * 1000
  if intervalUs < 100000 then 1000000 else intervalUs

/-- `pdelay_req_timer_cb`: what was sent, and the interval it is armed for again. -/
def pdelayReqTimerCb (cfg : Config) (s : PtpState F n) (stop : Bool)
    (reads : SendDelayReqReadings) : PtpState F n × List PtpFrame × Option UInt32 :=
  if stop then (s, [], none)
  else
    let sent := if timerSends s then ptpSendDelayReq cfg s reads else (s, [])
    (sent.1, sent.2, some (timerIntervalUs sent.1.port0))

/-! ## The request that is sent -/

/-- A request of the standard profile, read again. -/
theorem delayReqMessage_read (cfg : Config) {s : PtpState F n} (hstandard : s.isGptp = false)
    (header : PtpHeader) (origin : Timespec) :
    PtpHeader.read (delayReqMessage cfg s header origin) = ptpSetMessageLength header 44 := by
  unfold delayReqMessage
  rw [hstandard]
  simp only [Bool.false_eq_true, if_false]
  exact PtpHeader.read_write ..

/-- The one frame of a request that goes out. -/
theorem ptpSendDelayReq_sent (cfg : Config) {s : PtpState F n} (reads : SendDelayReqReadings)
    (hstandard : s.isGptp = false) (hsent : reads.sent = true) :
    ∃ frame unicast, (ptpSendDelayReq cfg s reads).2 = [frame] ∧
      PtpHeader.read frame.message =
        ptpSetMessageLength
          (ptpIncrementSequence s.delayReqSeq (delayReqHeader s unicast)).2 44 := by
  unfold ptpSendDelayReq
  rw [hstandard]
  simp only [Bool.false_eq_true, if_false]
  unfold sendDelayReq
  dsimp only
  rw [hsent, if_pos rfl]
  exact ⟨_, _, rfl, delayReqMessage_read cfg hstandard _ _⟩

/-- A Delay_Req is among the frames. -/
def SendsDelayReq (frames : List PtpFrame) : Prop :=
  ∃ frame ∈ frames, frame.message.msgtype = .delayReq

instance (frames : List PtpFrame) : Decidable (SendsDelayReq frames) :=
  inferInstanceAs (Decidable (∃ frame ∈ frames, _))

theorem delayReqHeader_standard {s : PtpState F n} (hstandard : s.isGptp = false)
    (unicast : Bool) :
    (delayReqHeader s unicast).messagetype = 0x01 ∧
      (delayReqHeader s unicast).sourceidentity = s.ownIdentity.header.sourceidentity ∧
      (delayReqHeader s unicast).sourceportindex = s.ownIdentity.header.sourceportindex := by
  unfold delayReqHeader
  dsimp only
  rw [hstandard]
  exact ⟨rfl, rfl, rfl⟩

theorem ptpSendDelayReq_sends {cfg : Config} {s : PtpState F n} {reads : SendDelayReqReadings}
    (hstandard : s.isGptp = false) (hsent : reads.sent = true) :
    SendsDelayReq (ptpSendDelayReq cfg s reads).2 := by
  obtain ⟨frame, unicast, hframes, hread⟩ := ptpSendDelayReq_sent cfg reads hstandard hsent
  have hbyte : frame.message.u8 0 = 0x01 :=
    (congrArg PtpHeader.messagetype hread).trans (delayReqHeader_standard hstandard unicast).1
  refine ⟨frame, ?_, ?_⟩
  · rw [hframes]
    exact List.mem_singleton_self frame
  · unfold Bytes.msgtype
    rw [hbyte]
    rfl

/-- In the standard profile it is the flag that decides. -/
theorem pdelayReqTimerCb_sends {cfg : Config} {s : PtpState F n}
    {reads : SendDelayReqReadings} (hstandard : s.isGptp = false)
    (hopen : s.port0.enabled = true ∧ s.port0.medium = .ethHwts ∧ s.port0.socketOpen = true)
    (hsource : s.selectedSourceValid = true) (hsent : reads.sent = true) :
    SendsDelayReq (pdelayReqTimerCb cfg s false reads).2.1 ↔
      s.port0.canSendDelayreq = true := by
  have hsends : timerSends s = s.port0.canSendDelayreq := by
    unfold timerSends
    rw [hopen.1, hopen.2.1, hopen.2.2, hstandard, hsource]
    simp
  unfold pdelayReqTimerCb
  simp only [Bool.false_eq_true, if_false]
  rw [hsends]
  by_cases hflag : s.port0.canSendDelayreq = true
  · rw [if_pos hflag]
    exact iff_of_true (ptpSendDelayReq_sends hstandard hsent) hflag
  · rw [if_neg hflag]
    refine iff_of_false ?_ hflag
    rintro ⟨frame, hframe, -⟩
    cases hframe

/-! ## The three writers of the flag -/

/-- Whatever leaves the flag and the profile alone, which is all that the other steps below
    do not do: other frames, sources that come and go. -/
structure FlagElsewhere (F : Type) (n : Nat) where
  act : PtpState F n → PtpState F n
  flag : ∀ s, (act s).port0.canSendDelayreq = s.port0.canSendDelayreq
  profile : ∀ s, (act s).isGptp = s.isGptp

inductive MeasureStep (F : Type) (n : Nat) where
  /-- The top of a pass. -/
  | passTop (times : CapabilityTimes)
  /-- `ptp_update_local_clock`: a step of the clock, or an observation. -/
  | updateClock (remote localTime : Timespec) (clock : ClockAnswers)
  | timer (stop : Bool) (reads : SendDelayReqReadings)
  /-- A change of profile with `ptp_reset_for_profile`. -/
  | resetForProfile (profile : PtpProfile)
  | elsewhere (other : FlagElsewhere F n)

/-- The steps between an observation and the next one, without a step of the clock or a
    change of profile. -/
def MeasureStep.between : MeasureStep F n → Bool
  | .updateClock .. | .resetForProfile _ => false
  | .passTop _ | .timer _ _ | .elsewhere _ => true

def MeasureStep.isPassTop : MeasureStep F n → Bool
  | .passTop _ => true
  | _ => false

variable [CDouble F]

def measureAct (cfg : Config) (s : PtpState F n) : MeasureStep F n → PtpState F n
  | .passTop times => checkCapability cfg s times
  | .updateClock remote localTime clock => (ptpUpdateLocalClock cfg s remote localTime clock).1
  | .timer stop reads => (pdelayReqTimerCb cfg s stop reads).1
  | .resetForProfile profile => ptpResetForProfile cfg { s with activePtpProfile := profile }
  | .elsewhere other => other.act s

/-- The clock is observed, not stepped, and it is found stable. -/
def FoundStable (cfg : Config) (s : PtpState F n) (remote localTime : Timespec)
    (clock : ClockAnswers) : Prop :=
  ¬ ((sourceOffsetNs cfg s remote localTime).natAbs : Int) > cfg.settimeThresholdMs * 1000000 ∧
    (ptpLockLocalClockFreq cfg s remote localTime clock).stableCount > 3

instance (cfg : Config) (s : PtpState F n) (remote localTime : Timespec)
    (clock : ClockAnswers) : Decidable (FoundStable cfg s remote localTime clock) :=
  inferInstanceAs (Decidable (_ ∧ _))

theorem ptpLockLocalClockFreq_stable {cfg : Config} {s : PtpState F n}
    {remote localTime : Timespec} {clock : ClockAnswers}
    (h : (ptpLockLocalClockFreq cfg s remote localTime clock).stableCount > 3) :
    (ptpLockLocalClockFreq cfg s remote localTime clock).port0.canSendDelayreq = true := by
  unfold ptpLockLocalClockFreq at h ⊢
  dsimp only at h ⊢
  generalize hcount : (if withinStability cfg s.isGptp _ _ _ = true then _ else 0) = count at h ⊢
  by_cases hstable : count > 3
  · rw [if_pos hstable, PtpState.withPort0_port0]
  · rw [if_neg hstable] at h
    exact absurd h hstable

/-- The observation gives the permission. -/
theorem foundStable_flag {cfg : Config} {s : PtpState F n} {remote localTime : Timespec}
    {clock : ClockAnswers} (h : FoundStable cfg s remote localTime clock) :
    (ptpUpdateLocalClock cfg s remote localTime clock).1.port0.canSendDelayreq = true := by
  have hlocked := ptpLockLocalClockFreq_stable h.2
  unfold ptpUpdateLocalClock
  dsimp only
  rw [if_neg (by simpa using h.1)]
  exact hlocked

omit [CDouble F] in
theorem pdelayReqTimerCb_kept (cfg : Config) (s : PtpState F n) (stop : Bool)
    (reads : SendDelayReqReadings) :
    (pdelayReqTimerCb cfg s stop reads).1.port0.canSendDelayreq = s.port0.canSendDelayreq ∧
      (pdelayReqTimerCb cfg s stop reads).1.isGptp = s.isGptp := by
  have hsend : (ptpSendDelayReq cfg s reads).1.port0.canSendDelayreq =
        s.port0.canSendDelayreq ∧ (ptpSendDelayReq cfg s reads).1.isGptp = s.isGptp := by
    unfold ptpSendDelayReq
    split
    · refine ⟨?_, rfl⟩
      unfold sendPdelayReq
      dsimp only
      rw [PtpState.withPort0_port0]
      rfl
    · refine ⟨?_, rfl⟩
      unfold sendDelayReq
      dsimp only
      rw [PtpState.withPort0_port0]
      rfl
  unfold pdelayReqTimerCb
  split
  · exact ⟨rfl, rfl⟩
  · dsimp only
    split
    · exact hsend
    · exact ⟨rfl, rfl⟩

omit [CDouble F] in
theorem checkCapability_flag (cfg : Config) (s : PtpState F n) (times : CapabilityTimes) :
    (checkCapability cfg s times).port0.canSendDelayreq = s.isGptp ∧
      (checkCapability cfg s times).isGptp = s.isGptp := by
  have hprofile (s : PtpState F n) :
      (if s.lacksCapability cfg times then
        { (if s.selectedSourceValid || s.port0.twostepPending then s.invalidateTiming
            else s).withPort0
            { (if s.selectedSourceValid || s.port0.twostepPending then s.invalidateTiming
                else s).port0 with twostepPending := false } with
          selectedSourceValid := false }
      else s).isGptp = s.isGptp := by
    split
    · show PtpState.isGptp (if s.selectedSourceValid || s.port0.twostepPending then
        s.invalidateTiming else s) = s.isGptp
      split <;> rfl
    · rfl
  unfold checkCapability
  dsimp only
  exact ⟨(congrArg PtpPort.canSendDelayreq (PtpState.withPort0_port0 ..)).trans (hprofile s),
    hprofile s⟩

/-- Between two observations the profile stays, and the flag is that of the observation until
    a pass begins. -/
theorem measureAct_between (cfg : Config) {s : PtpState F n} {step : MeasureStep F n}
    (hstep : step.between = true) :
    (measureAct cfg s step).isGptp = s.isGptp ∧
      (measureAct cfg s step).port0.canSendDelayreq =
        if step.isPassTop then s.isGptp else s.port0.canSendDelayreq := by
  cases step with
  | passTop times =>
    obtain ⟨hflag, hprofile⟩ := checkCapability_flag cfg s times
    exact ⟨hprofile, hflag⟩
  | updateClock remote localTime clock => cases hstep
  | timer stop reads =>
    obtain ⟨hflag, hprofile⟩ := pdelayReqTimerCb_kept cfg s stop reads
    exact ⟨hprofile, hflag⟩
  | resetForProfile profile => cases hstep
  | elsewhere other => exact ⟨other.profile s, other.flag s⟩

theorem measureAct_foldl_between (cfg : Config) {s : PtpState F n}
    {steps : List (MeasureStep F n)} (hsteps : ∀ step ∈ steps, step.between = true) :
    (steps.foldl (measureAct cfg) s).isGptp = s.isGptp ∧
      (steps.foldl (measureAct cfg) s).port0.canSendDelayreq =
        if steps.any (·.isPassTop) then s.isGptp else s.port0.canSendDelayreq := by
  induction steps using List.reverseRecOn with
  | nil => exact ⟨rfl, rfl⟩
  | append_singleton steps step ih =>
    obtain ⟨hprofile, hflag⟩ := ih fun earlier h => hsteps earlier (List.mem_append_left _ h)
    obtain ⟨hlastProfile, hlastFlag⟩ :=
      measureAct_between cfg (s := steps.foldl (measureAct cfg) s) (hsteps step (by simp))
    rw [List.foldl_append]
    show (measureAct cfg (steps.foldl (measureAct cfg) s) step).isGptp = s.isGptp ∧
      (measureAct cfg (steps.foldl (measureAct cfg) s) step).port0.canSendDelayreq = _
    rw [hlastProfile, hlastFlag, hprofile, hflag, List.any_append]
    refine ⟨rfl, ?_⟩
    -- Every pass writes the same, so it does not matter which was the last.
    cases hany : steps.any (·.isPassTop) <;> cases hlast : step.isPassTop <;> simp [hlast]

/-- **How long a permission is good.** In the standard profile, on an enabled wired port with
    an open socket and a selected source, the timer sends a Delay_Req after an observation that
    found the clock stable exactly when no pass of the loop has begun in between. -/
theorem pdelayReqTimerCb_sends_iff (cfg : Config) (s₀ : PtpState F n)
    (before : List (MeasureStep F n)) (remote localTime : Timespec) (clock : ClockAnswers)
    (after : List (MeasureStep F n)) (reads : SendDelayReqReadings)
    (hstable : FoundStable cfg (before.foldl (measureAct cfg) s₀) remote localTime clock)
    (hbetween : ∀ step ∈ after, step.between = true) :
    let s := (before ++ .updateClock remote localTime clock :: after).foldl (measureAct cfg) s₀
    s.isGptp = false → s.port0.enabled = true → s.port0.medium = .ethHwts →
      s.port0.socketOpen = true → s.selectedSourceValid = true → reads.sent = true →
      (SendsDelayReq (pdelayReqTimerCb cfg s false reads).2.1 ↔
        ∀ step ∈ after, step.isPassTop = false) := by
  intro s hstandard henabled hwired hopen hsource hsent
  rw [pdelayReqTimerCb_sends hstandard ⟨henabled, hwired, hopen⟩ hsource hsent]
  have hrun : s = after.foldl (measureAct cfg)
      (ptpUpdateLocalClock cfg (before.foldl (measureAct cfg) s₀) remote localTime clock).1 := by
    show List.foldl _ _ _ = _
    rw [List.foldl_append]
    rfl
  obtain ⟨hprofile, hflag⟩ := measureAct_foldl_between cfg hbetween
  rw [hrun] at hstandard ⊢
  rw [hprofile] at hstandard
  rw [hflag, foundStable_flag hstable, hstandard]
  cases hany : after.any (·.isPassTop) with
  | false =>
    refine iff_of_true rfl ?_
    intro step hstep
    exact Bool.eq_false_iff.mpr fun htop =>
      (List.any_eq_false.mp hany) step hstep htop
  | true =>
    refine iff_of_false (by simp) ?_
    intro hnone
    obtain ⟨step, hstep, htop⟩ := List.any_eq_true.mp hany
    rw [hnone step hstep] at htop
    cases htop

namespace Sample

/-- A follower of the standard profile, on a wired port. -/
def follower : PtpState ℚ 0 :=
  { (default : PtpState ℚ 0) with
    activePtpProfile := .standard
    selectedSourceValid := true
    ports := fun _ =>
      { (default : PtpPort ℚ) with
        enabled := true
        medium := .ethHwts
        socketOpen := true
        delayreqIntervalMs := 1000
        nextDelayreqIntervalMs := 1000 } }

/-- An observation without an offset. -/
def steady (second : Int) : MeasureStep ℚ 0 :=
  .updateClock ⟨second, 0⟩ ⟨second, 0⟩ ⟨default, true, true⟩

/-- A request that goes out. -/
def goesOut : SendDelayReqReadings := { (default : SendDelayReqReadings) with sent := true }

end Sample

/-- Four steady observations, the top of the next pass, and the timer sends nothing. -/
theorem not_pdelayReqTimerCb_sends :
    ¬ ∀ (cfg : Config) (s₀ : PtpState ℚ 0) (before : List (MeasureStep ℚ 0))
      (remote localTime : Timespec) (clock : ClockAnswers) (after : List (MeasureStep ℚ 0))
      (reads : SendDelayReqReadings),
      FoundStable cfg (before.foldl (measureAct cfg) s₀) remote localTime clock →
      (∀ step ∈ after, step.between = true) →
      let s := (before ++ .updateClock remote localTime clock :: after).foldl (measureAct cfg) s₀
      s.isGptp = false → s.port0.enabled = true → s.port0.medium = .ethHwts →
        s.port0.socketOpen = true → s.selectedSourceValid = true → reads.sent = true →
        SendsDelayReq (pdelayReqTimerCb cfg s false reads).2.1 := by
  intro hclaim
  have hsends := hclaim Sample.config Sample.follower
    [Sample.steady 1, Sample.steady 2, Sample.steady 3] ⟨4, 0⟩ ⟨4, 0⟩ ⟨default, true, true⟩
    [.passTop default] Sample.goesOut (by decide +kernel) (by simp [MeasureStep.between])
    (by decide +kernel) (by decide +kernel) (by decide +kernel) (by decide +kernel)
    (by decide +kernel) rfl
  exact absurd hsends (by decide +kernel)

/-- Before the pass it sends. -/
theorem pdelayReqTimerCb_sends_iff_steady :
    let s := [Sample.steady 1, Sample.steady 2, Sample.steady 3, Sample.steady 4].foldl
      (measureAct Sample.config) Sample.follower
    SendsDelayReq (pdelayReqTimerCb Sample.config s false Sample.goesOut).2.1 ↔
      ∀ step ∈ ([] : List (MeasureStep ℚ 0)), step.isPassTop = false :=
  pdelayReqTimerCb_sends_iff Sample.config Sample.follower
    [Sample.steady 1, Sample.steady 2, Sample.steady 3] ⟨4, 0⟩ ⟨4, 0⟩ ⟨default, true, true⟩ []
    Sample.goesOut (by decide +kernel) (by simp) (by decide +kernel) (by decide +kernel)
    (by decide +kernel) (by decide +kernel) (by decide +kernel) rfl

end EspPtp
