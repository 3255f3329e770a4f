import EspPtp.Beacon.Station
import EspPtp.Lib.TruncDiv

/-!
# When a station says it is locked

A station's status is what its handlers' sections make of it, in whatever order the handlers
were called. So `locked` is a statement about the errors applied since the station last began
to acquire (`staStatus_locked`): one of them was small, none since was large, and the last is
not older than the window.

The window is three of the intervals at which elements come, and those are kept between a
tenth of a second and two, whatever the times of the elements are.
-/

namespace EspPtp

open Lib

variable {F : Type} {n : Nat}

/-! ## What the handlers do -/

/-- The sections in which the envelope has its part. -/
def StatusSection.Disciplines : StatusSection → Prop
  | .reacquire | .applied _ _ => True
  | _ => False

/-- A window section tells a window of three intervals within their bounds. -/
def StatusSection.Bounded : StatusSection → Prop
  | .window windowUs => 300000 ≤ windowUs ∧ windowUs ≤ 6000000
  | _ => True

theorem StatusSection.Disciplines.bounded {sec : StatusSection} (h : sec.Disciplines) :
    sec.Bounded := by
  cases sec with
  | window => exact h.elim
  | _ => exact trivial

namespace BeaconStation

/-- The interval after an element, and the section that tells its window. -/
def intervalAfter (s : BeaconStation F n) (elementUs : Int) : Int × List StatusSection :=
  if s.lastElementUs ≠ 0 then
    (s.nextElementIntervalUs elementUs, [.window (3 * s.nextElementIntervalUs elementUs)])
  else (s.elementIntervalUs, [])

section Element

variable [CDouble F] (cfg : Config) (p : Fin (n + 1)) (s : BeaconStation F n)
  (element : BeaconTime) (reads : VendorIeReads)

/-- **What an element does**: its markers count at once; the rest only if it was not seen before,
    and then the interval, the filter and the daemon have their part. -/
inductive ElementStep : BeaconStation F n × StationAnswer → Prop
  | seen (hseen : s.lastOriginTs = element.followUp.origintimestamp) :
      ElementStep (s.noteMarkers element reads.receivedUs,
        .ofSections [.identity element.followUp.header.sourcePort])
  | fresh (hfresh : s.lastOriginTs ≠ element.followUp.origintimestamp) (daemon : PtpState F n)
      (filter : BeaconFilter) (disciplined : List StatusSection)
      (hsections : ∀ sec ∈ disciplined, sec.Disciplines) :
      ElementStep
        ({ s.noteMarkers element reads.receivedUs with
            daemon := daemon
            lastOriginTs := element.followUp.origintimestamp
            lastElementUs := reads.elementUs
            elementIntervalUs := (s.intervalAfter reads.elementUs).1
            filter := filter },
          { sections := .identity element.followUp.header.sourcePort ::
              ((s.intervalAfter reads.elementUs).2 ++ disciplined)
            fresh := some ⟨element, (s.noteMarkers element reads.receivedUs).offsetRaw⟩
            verdict := none
            reassociates := false })

/-- The part of the filter and the daemon. -/
theorem discipline_cases : ∃ daemon filter disciplined,
    s.discipline cfg p element reads =
      ({ s with daemon := daemon, filter := filter }, disciplined) ∧
    ∀ sec ∈ disciplined, sec.Disciplines := by
  unfold discipline
  cases s.seenGptp && s.seenTsf with
  | false => exact ⟨s.daemon, s.filter, [], rfl, by simp⟩
  | true =>
    rw [if_neg (by decide)]
    dsimp only
    generalize s.filter.step _ = stepped
    obtain ⟨filter, reacquired, snapped, closed, btcNowNs⟩ := stepped
    have hreacquired : ∀ sec ∈ (if reacquired then [.reacquire] else [] : List StatusSection),
        sec.Disciplines := by
      cases reacquired <;> simp [StatusSection.Disciplines]
    cases btcNowNs with
    | none => exact ⟨s.daemon, filter, _, rfl, hreacquired⟩
    | some btcNowNs =>
      refine ⟨_, filter, _, rfl, fun sec hsec => ?_⟩
      rcases List.mem_append.mp hsec with hsec | hsec
      · exact hreacquired sec hsec
      · split at hsec
        · rw [List.mem_singleton.mp hsec]
          exact trivial
        · exact absurd hsec List.not_mem_nil

omit [CDouble F] in
theorem noteInterval_eq (elementUs : Int) : ∃ daemon, s.noteInterval p elementUs =
    ({ s with
        daemon := daemon
        lastElementUs := elementUs
        elementIntervalUs := (s.intervalAfter elementUs).1 }, (s.intervalAfter elementUs).2) := by
  unfold noteInterval intervalAfter
  by_cases hfirst : s.lastElementUs ≠ 0
  · rw [if_pos hfirst, if_pos hfirst]
    exact ⟨_, rfl⟩
  · rw [if_neg hfirst, if_neg hfirst]
    exact ⟨s.daemon, rfl⟩

omit [CDouble F] in
theorem offsetRaw_congr {s s' : BeaconStation F n} (hgptp : s'.gptpMarkerNs = s.gptpMarkerNs)
    (htsf : s'.tsfMarkerUs = s.tsfMarkerUs) (hdelay : s'.peerDelayNs = s.peerDelayNs) :
    s'.offsetRaw = s.offsetRaw := by
  unfold offsetRaw
  rw [hgptp, htsf, hdelay]

theorem onBeaconTime_step :
    ElementStep s element reads (s.onBeaconTime cfg p element reads) := by
  unfold onBeaconTime
  dsimp only
  by_cases hseen : s.lastOriginTs = element.followUp.origintimestamp
  · rw [if_pos (show (s.noteMarkers element reads.receivedUs).lastOriginTs = _ from hseen)]
    exact .seen hseen
  · rw [if_neg (show ¬ (s.noteMarkers element reads.receivedUs).lastOriginTs = _ from hseen)]
    generalize horigin : ({ s.noteMarkers element reads.receivedUs with
      lastOriginTs := element.followUp.origintimestamp } : BeaconStation F n) = origin
    obtain ⟨daemon, hinterval⟩ := noteInterval_eq p origin reads.elementUs
    rw [hinterval]
    dsimp only
    generalize hobserved : observeSource { origin with
      daemon := daemon
      lastElementUs := reads.elementUs
      elementIntervalUs := (origin.intervalAfter reads.elementUs).1 } cfg p element reads = observed
    have hoffset : observed.offsetRaw = (s.noteMarkers element reads.receivedUs).offsetRaw := by
      rw [← hobserved, ← horigin]
      exact offsetRaw_congr rfl rfl rfl
    obtain ⟨daemon', filter, disciplined, hdiscipline, hsections⟩ :=
      discipline_cases cfg p observed element reads
    rw [hdiscipline, hoffset, ← hobserved, ← horigin]
    exact .fresh hseen daemon' filter disciplined hsections

end Element

/-! ## The other handlers -/

/-- No delay yet, or one that the daemon takes. -/
def AllowedDelay (cfg : Config) (delayNs : Int) : Prop :=
  delayNs = 0 ∨ (0 ≤ delayNs ∧ delayNs < cfg.maxPeerDelayNs)

/-- **What a handler does that is not about an element**: nothing to what elements have left. -/
structure Aside (cfg : Config) (s : BeaconStation F n)
    (handled : BeaconStation F n × StationAnswer) : Prop where
  status : handled.1.status = s.status
  interval : handled.1.elementIntervalUs = s.elementIntervalUs
  origin : handled.1.lastOriginTs = s.lastOriginTs
  delay : AllowedDelay cfg s.peerDelayNs → AllowedDelay cfg handled.1.peerDelayNs
  fresh : handled.2.fresh = none
  sections : ∀ sec ∈ handled.2.sections, sec.Bounded

section Aside

variable {cfg : Config} {s s' : BeaconStation F n} {handled : BeaconStation F n × StationAnswer}

/-- Other variables have changed before. -/
theorem Aside.after (h : Aside cfg s' handled) (hstatus : s'.status = s.status)
    (hinterval : s'.elementIntervalUs = s.elementIntervalUs)
    (horigin : s'.lastOriginTs = s.lastOriginTs) (hdelay : s'.peerDelayNs = s.peerDelayNs) :
    Aside cfg s handled where
  status := h.status.trans hstatus
  interval := h.interval.trans hinterval
  origin := h.origin.trans horigin
  delay := fun hallowed => h.delay (hdelay ▸ hallowed)
  fresh := h.fresh
  sections := h.sections

/-- A handler that answers nothing but sections, and leaves the variables as they are. -/
theorem Aside.of_sections {answer : StationAnswer} (hstatus : s'.status = s.status)
    (hinterval : s'.elementIntervalUs = s.elementIntervalUs)
    (horigin : s'.lastOriginTs = s.lastOriginTs) (hdelay : s'.peerDelayNs = s.peerDelayNs)
    (hfresh : answer.fresh = none) (hsections : ∀ sec ∈ answer.sections, sec.Bounded) :
    Aside cfg s (s', answer) :=
  ⟨hstatus, hinterval, horigin, fun hallowed => hdelay ▸ hallowed, hfresh, hsections⟩

variable (cfg) (p : Fin (n + 1))

/-- A delay is about the daemon and the samples only. -/
theorem injectDelay_eq (s : BeaconStation F n) (delayNs : Option Int) : ∃ daemon peerDelayNs,
    (s.injectDelay cfg p delayNs).1 = { s with daemon := daemon, peerDelayNs := peerDelayNs } := by
  unfold injectDelay
  cases delayNs with
  | none => exact ⟨s.daemon, s.peerDelayNs, rfl⟩
  | some delayNs => exact ⟨_, _, rfl⟩

/-- The begin of a ranging is about its session only. -/
theorem onFtmStart_eq (s : BeaconStation F n) (apInfo : Option MacAddr)
    (associatedUs freshUs : Int) (initiated : Bool) : ∃ session ftmAssociatedUs,
      s.onFtmStart apInfo associatedUs freshUs initiated =
        { s with ftmSession := session, ftmAssociatedUs := ftmAssociatedUs } := by
  unfold onFtmStart
  split
  · exact ⟨_, _, rfl⟩
  · split
    · dsimp only
      by_cases hfirst : s.ftmAssociatedUs = 0
      · rw [if_pos hfirst]
        split <;> exact ⟨_, _, rfl⟩
      · rw [if_neg hfirst]
        split <;> exact ⟨_, _, rfl⟩
    · exact ⟨_, _, rfl⟩

/-- A delay is taken over only within the daemon's bounds. -/
theorem injectDelay_allowed (s : BeaconStation F n) (delayNs : Option Int)
    (h : AllowedDelay cfg s.peerDelayNs) :
    AllowedDelay cfg (s.injectDelay cfg p delayNs).1.peerDelayNs := by
  unfold injectDelay
  cases delayNs with
  | none => exact h
  | some delayNs =>
    dsimp only
    split
    · rename_i hok
      unfold ptpdInjectPeerDelay at hok
      dsimp only at hok
      split at hok
      · simp at hok
      · split at hok
        · simp at hok
        · rename_i hrange
          right
          omega
    · exact h

theorem aside_measure (s : BeaconStation F n) (r : FtmReport) (verdict : Option ReportVerdict)
    (measuredUs : Int) : Aside cfg s (s.measure cfg p r verdict measuredUs) := by
  obtain ⟨daemon, peerDelayNs, heq⟩ := injectDelay_eq cfg p s r.peerDelayNs
  have hstatus := congrArg status heq
  have hinterval := congrArg elementIntervalUs heq
  have horigin := congrArg lastOriginTs heq
  exact ⟨hstatus, hinterval, horigin, injectDelay_allowed cfg p s r.peerDelayNs, rfl, by
    simp [measure, StatusSection.Bounded]⟩

/-- A judgement is about the baseline only. -/
theorem judge_frame (s : BeaconStation F n) (t1Ps : UInt64) (beaconTsfUs : Int) :
    (s.judge t1Ps beaconTsfUs).1.status = s.status ∧
      (s.judge t1Ps beaconTsfUs).1.elementIntervalUs = s.elementIntervalUs ∧
      (s.judge t1Ps beaconTsfUs).1.lastOriginTs = s.lastOriginTs ∧
      (s.judge t1Ps beaconTsfUs).1.peerDelayNs = s.peerDelayNs := by
  unfold judge
  dsimp only
  split
  · exact ⟨rfl, rfl, rfl, rfl⟩
  · split <;> exact ⟨rfl, rfl, rfl, rfl⟩

theorem aside_onFtmSuccess (s : BeaconStation F n) (r : FtmReport) (reads : FtmReportReads) :
    Aside cfg s (s.onFtmSuccess cfg p r reads) := by
  unfold onFtmSuccess
  dsimp only
  cases r.bestT1Ps with
  | none => exact aside_measure cfg p s r none reads.measuredUs
  | some t1Ps =>
    dsimp only
    obtain ⟨hstatus, hinterval, horigin, hdelay⟩ :=
      judge_frame s t1Ps (s.recentTsfUs reads.nowUs)
    generalize s.judge t1Ps (s.recentTsfUs reads.nowUs) = judged at hstatus hinterval horigin hdelay
    obtain ⟨judged, verdict⟩ := judged
    cases verdict with
    | beaconBackward tsfUs =>
      dsimp only
      split
      · exact .of_sections hstatus hinterval horigin hdelay rfl (by simp [StatusSection.Bounded])
      · exact .of_sections hstatus hinterval horigin hdelay rfl (by simp [StatusSection.Bounded])
    | ftmBackward =>
      exact .of_sections hstatus hinterval horigin hdelay rfl (by simp [StatusSection.Bounded])
    | kept tsfUs => exact (aside_measure cfg p judged r _ _).after hstatus hinterval horigin hdelay

theorem aside_onFtmReport (s : BeaconStation F n) (r : FtmReport) (reads : FtmReportReads) :
    Aside cfg s (s.onFtmReport cfg p r reads) := by
  unfold onFtmReport
  dsimp only
  generalize ptpFtmSessionFinish _ _ _ = finished
  split
  · exact .of_sections rfl rfl rfl rfl rfl (by simp [StationAnswer.none])
  · cases r.status with
    | success => exact (aside_onFtmSuccess cfg p _ r reads).after rfl rfl rfl rfl
    | noValidMsmt =>
      exact ⟨rfl, rfl, rfl, injectDelay_allowed cfg p _ (some 0), rfl,
        by simp [StationAnswer.ofSections, StatusSection.Bounded]⟩
    | failed =>
      exact .of_sections rfl rfl rfl rfl rfl
        (by simp [StationAnswer.ofSections, StatusSection.Bounded])

theorem aside_onFtmStart (s : BeaconStation F n) (apInfo : Option MacAddr)
    (associatedUs freshUs : Int) (initiated : Bool) :
    Aside cfg s (s.onFtmStart apInfo associatedUs freshUs initiated, .none) := by
  obtain ⟨session, ftmAssociatedUs, heq⟩ :=
    onFtmStart_eq s apInfo associatedUs freshUs initiated
  rw [heq]
  exact .of_sections rfl rfl rfl rfl rfl (by simp [StationAnswer.none])

end Aside

/-- What a step is: an element of a beacon, or aside from that. -/
inductive HandlerStep (cfg : Config) (vnd : VndIe) (s : BeaconStation F n) (e : StationEvent F n)
    (handled : BeaconStation F n × StationAnswer) : Prop
  | element (ie : Bytes) (reads : VendorIeReads) (element : BeaconTime)
      (he : e = .vendorIe true ie reads) (hread : vnd.beaconTime ie = some element)
      (hstep : ElementStep s element reads handled)
  | aside (haside : Aside cfg s handled)

theorem stationHandler_step [CDouble F] (cfg : Config) (vnd : VndIe) (p : Fin (n + 1))
    (s : BeaconStation F n) (e : StationEvent F n) :
    HandlerStep cfg vnd s e (stationHandler cfg vnd p s e) := by
  have hnone : ∀ sec ∈ StationAnswer.none.sections, sec.Bounded := by simp [StationAnswer.none]
  cases e with
  | vendorIe beacon ie reads =>
    show HandlerStep cfg vnd s _ (s.onVendorIe cfg vnd p beacon ie reads)
    unfold onVendorIe
    cases beacon with
    | false => exact .aside (.of_sections rfl rfl rfl rfl rfl hnone)
    | true =>
      cases hread : vnd.beaconTime ie with
      | none => exact .aside (.of_sections rfl rfl rfl rfl rfl hnone)
      | some element =>
        exact .element ie reads element rfl hread (onBeaconTime_step cfg p s element reads)
  | staConnected bssid statusUs ftmUs =>
    refine .aside (.of_sections rfl rfl rfl rfl rfl fun sec hsec => ?_)
    rcases List.mem_append.mp hsec with hsec | hsec
    · split at hsec
      · rcases List.mem_cons.mp hsec with rfl | hsec
        · exact trivial
        · rw [List.mem_singleton.mp hsec]
          exact trivial
      · exact absurd hsec List.not_mem_nil
    · rw [List.mem_singleton.mp hsec]
      exact trivial
  | staDisconnected stop =>
    exact .aside (.of_sections rfl rfl rfl rfl rfl
      (by simp [StationAnswer.ofSections, StatusSection.Bounded]))
  | ftmReport r reads => exact .aside (aside_onFtmReport cfg p s r reads)
  | ftmStart apInfo associatedUs freshUs initiated =>
    exact .aside (aside_onFtmStart cfg s apInfo associatedUs freshUs initiated)
  | ftmCancel => exact .aside (.of_sections rfl rfl rfl rfl rfl hnone)
  | daemon state => exact .aside (.of_sections rfl rfl rfl rfl rfl hnone)

end BeaconStation

/-! ## Runs -/

/-- The interval is not measured yet, or within its bounds. -/
def IntervalBounded (intervalUs : Int) : Prop :=
  intervalUs = 0 ∨ (100000 ≤ intervalUs ∧ intervalUs ≤ 2000000)

/-- An interval within its bounds stays there. -/
theorem BeaconStation.nextElementIntervalUs_bounds {s : BeaconStation F n}
    (h : IntervalBounded s.elementIntervalUs) (elementUs : Int) :
    100000 ≤ s.nextElementIntervalUs elementUs ∧ s.nextElementIntervalUs elementUs ≤ 2000000 := by
  unfold nextElementIntervalUs
  dsimp only
  generalize hclamped : (if (if elementUs - s.lastElementUs < 100000 then 100000
    else elementUs - s.lastElementUs) > 2000000 then 2000000
    else (if elementUs - s.lastElementUs < 100000 then 100000
      else elementUs - s.lastElementUs) : Int) = intervalUs
  have hbounds : 100000 ≤ intervalUs ∧ intervalUs ≤ 2000000 := by
    rw [← hclamped]
    split_ifs <;> omega
  split
  · rename_i hmeasured
    have hmean : 100000 ≤ s.elementIntervalUs ∧ s.elementIntervalUs ≤ 2000000 :=
      h.resolve_left hmeasured
    rcases Int.le_total 0 (intervalUs - s.elementIntervalUs) with hsign | hsign
    · have hquotient := tdiv_bounds_nonneg (show (0 : Int) < 8 by decide) hsign
      omega
    · have hquotient := tdiv_bounds_nonpos (show (0 : Int) < 8 by decide) hsign
      omega
  · exact hbounds

/-- The station when it is started. -/
structure BeaconStation.Started (s : BeaconStation F n) : Prop where
  status : s.status = .zero
  interval : s.elementIntervalUs = 0
  origin : s.lastOriginTs = Vector.replicate 10 0
  delay : s.peerDelayNs = 0
  baseline : s.prevBeaconTsfUs = 0 ∧ s.tsfBackwardStreak = 0

/-- The sections of a run. -/
def statusLog (history : List (StationEvent F n × StationAnswer)) : List StatusSection :=
  history.flatMap fun x => x.2.sections

theorem statusLog_snoc (history : List (StationEvent F n × StationAnswer))
    (x : StationEvent F n × StationAnswer) :
    statusLog (history ++ [x]) = statusLog history ++ x.2.sections := by
  simp [statusLog]

/-- What a run of the station keeps. -/
structure StationRun (history : List (StationEvent F n × StationAnswer))
    (s : BeaconStation F n) : Prop where
  status : s.status = (statusLog history).foldl BeaconStatus.take .zero
  interval : IntervalBounded s.elementIntervalUs
  sections : ∀ sec ∈ statusLog history, sec.Bounded

section Run

variable [CDouble F] {cfg : Config} {vnd : VndIe} {p : Fin (n + 1)}

omit [CDouble F] in
theorem StationRun.start {s : BeaconStation F n} (h : s.Started) : StationRun [] s :=
  ⟨h.status, .inl h.interval, by simp [statusLog]⟩

theorem StationRun.step {history : List (StationEvent F n × StationAnswer)}
    {s : BeaconStation F n} (h : StationRun history s) (e : StationEvent F n) :
    StationRun (history ++ [(e, (stationStep cfg vnd p s e).2)]) (stationStep cfg vnd p s e).1 := by
  have hhandled : (stationHandler cfg vnd p s e).1.status = s.status ∧
      IntervalBounded (stationHandler cfg vnd p s e).1.elementIntervalUs ∧
      ∀ sec ∈ (stationHandler cfg vnd p s e).2.sections, sec.Bounded := by
    cases BeaconStation.stationHandler_step cfg vnd p s e with
    | aside haside => exact ⟨haside.status, haside.interval ▸ h.interval, haside.sections⟩
    | element ie reads element he hread hstep =>
      generalize stationHandler cfg vnd p s e = handled at hstep
      cases hstep with
      | seen _ => exact ⟨rfl, h.interval, by simp [StationAnswer.ofSections, StatusSection.Bounded]⟩
      | fresh _ daemon filter disciplined hsections =>
        have hnext := BeaconStation.nextElementIntervalUs_bounds h.interval reads.elementUs
        have hafter : IntervalBounded (s.intervalAfter reads.elementUs).1 ∧
            ∀ sec ∈ (s.intervalAfter reads.elementUs).2, sec.Bounded := by
          unfold BeaconStation.intervalAfter
          split
          · refine ⟨.inr hnext, fun sec hsec => ?_⟩
            rw [List.mem_singleton.mp hsec]
            show 300000 ≤ _ ∧ _ ≤ 6000000
            omega
          · exact ⟨h.interval, by simp⟩
        refine ⟨rfl, hafter.1, fun sec hsec => ?_⟩
        rcases List.mem_cons.mp hsec with rfl | hsec
        · exact trivial
        · rcases List.mem_append.mp hsec with hsec | hsec
          · exact hafter.2 sec hsec
          · exact (hsections sec hsec).bounded
  obtain ⟨hstatus, hinterval, hsections⟩ := hhandled
  refine ⟨?_, hinterval, ?_⟩
  · show (stationHandler cfg vnd p s e).2.sections.foldl BeaconStatus.take
      (stationHandler cfg vnd p s e).1.status = _
    rw [statusLog_snoc, List.foldl_append, ← h.status, hstatus]
    rfl
  · intro sec hsec
    rw [statusLog_snoc] at hsec
    rcases List.mem_append.mp hsec with hsec | hsec
    · exact h.sections sec hsec
    · exact hsections sec hsec

theorem stationRun {s₀ : BeaconStation F n} (hstart : s₀.Started)
    (events : List (StationEvent F n)) :
    StationRun (trace (stationStep cfg vnd p) s₀ events) (run (stationStep cfg vnd p) s₀ events) :=
  run_induction (.start hstart) (fun _ _ e h => h.step e) events

end Run

/-! ## The lock -/

/-- The window told last, or the one before any interval is measured. -/
def lastWindowUs (log : List StatusSection) : Int :=
  ((log.filterMap fun sec =>
    match sec with
    | .window windowUs => some windowUs
    | _ => none).getLast?).getD staLockWindowUs

/-- The window of a status is the one told last, and within the bounds of three intervals. -/
theorem windowUs_eq {log : List StatusSection} (h : ∀ sec ∈ log, sec.Bounded) :
    (log.foldl BeaconStatus.take .zero).windowUs = lastWindowUs log ∧
      300000 ≤ lastWindowUs log ∧ lastWindowUs log ≤ 6000000 := by
  induction log using List.reverseRecOn with
  | nil => exact ⟨rfl, by decide, by decide⟩
  | append_singleton log sec ih =>
    have hbefore := ih fun sec hsec => h sec (by simp [hsec])
    rw [List.foldl_append]
    cases sec with
    | window windowUs =>
      have hbounds : 300000 ≤ windowUs ∧ windowUs ≤ 6000000 := h (.window windowUs) (by simp)
      have hlast : lastWindowUs (log ++ [.window windowUs]) = windowUs := by simp [lastWindowUs]
      refine ⟨?_, hlast.symm ▸ hbounds.1, hlast.symm ▸ hbounds.2⟩
      rw [hlast]
      exact if_pos (show windowUs ≠ 0 by omega)
    | _ =>
      have hlast : ∀ sec : StatusSection, (∀ windowUs, sec ≠ .window windowUs) →
          lastWindowUs (log ++ [sec]) = lastWindowUs log := by
        intro sec hother
        cases sec with
        | window windowUs => exact absurd rfl (hother windowUs)
        | _ => simp [lastWindowUs]
      rw [hlast _ (by simp)]
      exact hbefore

/-- What was applied last is within the window. -/
def AppliedRecently (applied : List (Int × Int)) (windowUs nowUs : Int) : Prop :=
  ∃ last ∈ applied.getLast?, last.2 ≠ 0 ∧ nowUs - last.2 ≤ windowUs

/-- What a status means, given the sections of the run. -/
structure LockReport (log : List StatusSection) (nowUs : Int) (status : PtpdWifiStaStatus) :
    Prop where
  window : 300000 ≤ lastWindowUs log ∧ lastWindowUs log ≤ 6000000
  /-- One error was small, none since was large, and the last is recent. -/
  locked : status.locked = true ↔ Latched LocksBy UnlocksBy (appliedSince log) ∧
    AppliedRecently (appliedSince log) (lastWindowUs log) nowUs
  /-- One error was small, but none is recent. -/
  holdover : status.holdover = true ↔ (∃ applied ∈ appliedSince log, LocksBy applied) ∧
    ¬ AppliedRecently (appliedSince log) (lastWindowUs log) nowUs
  /-- A locked status shows the last error, which is not large. -/
  close : status.locked = true → status.servoErrorValid = true ∧ |status.servoErrorNs| ≤ 4000000 ∧
    ∃ last ∈ (appliedSince log).getLast?, last.1 = status.servoErrorNs

theorem StatusRun.fresh_iff {log : List StatusSection} {st : BeaconStatus} (h : StatusRun log st)
    (nowUs : Int) :
    st.fresh nowUs = true ↔ AppliedRecently (appliedSince log) st.windowUs nowUs := by
  unfold BeaconStatus.fresh AppliedRecently
  rw [h.appliedUs]
  cases (appliedSince log).getLast? with
  | none => simp
  | some last => simp

/-- **A station is locked exactly by the hysteresis of what it applied**, in every run, and in
    holdover exactly if it was locked so once and has nothing recent any more. -/
theorem staStatus_locked [CDouble F] (cfg : Config) (vnd : VndIe) (p : Fin (n + 1))
    {s₀ : BeaconStation F n} (hstart : s₀.Started) (events : List (StationEvent F n))
    (connected : Bool) (media : Option PtpWifiMedia) (neighbor : PortIdentity) (nowUs : Int) :
    LockReport (statusLog (trace (stationStep cfg vnd p) s₀ events)) nowUs
      (ptpdWifiStaStatus (run (stationStep cfg vnd p) s₀ events).status connected media neighbor
        nowUs) := by
  have hrun : StationRun (trace (stationStep cfg vnd p) s₀ events)
      (run (stationStep cfg vnd p) s₀ events) := stationRun hstart events
  have hknown := StatusRun.foldl (statusLog (trace (stationStep cfg vnd p) s₀ events))
  obtain ⟨hwindow, hbounds⟩ := windowUs_eq hrun.sections
  rw [← hrun.status] at hknown hwindow
  generalize (run (stationStep cfg vnd p) s₀ events).status = st at hknown hwindow ⊢
  generalize statusLog (trace (stationStep cfg vnd p) s₀ events) = log at hknown hwindow hbounds ⊢
  have hlocked : (ptpdWifiStaStatus st connected media neighbor nowUs).locked = true ↔
      Latched LocksBy UnlocksBy (appliedSince log) ∧
        AppliedRecently (appliedSince log) (lastWindowUs log) nowUs := by
    show (st.fresh nowUs && st.beaconConverged) = true ↔ _
    rw [Bool.and_eq_true, hknown.fresh_iff, hknown.converged, hwindow]
    exact and_comm
  refine ⟨hbounds, hlocked, ?_, ?_⟩
  · show (!st.fresh nowUs && st.beaconWasLocked) = true ↔ _
    rw [Bool.and_eq_true, hknown.wasLocked, Bool.not_eq_true', ← Bool.not_eq_true,
      hknown.fresh_iff, hwindow]
    exact and_comm
  · intro hyes
    obtain ⟨hlatched, last, hlast, -⟩ := hlocked.mp hyes
    obtain ⟨front, heq⟩ := List.getLast?_eq_some_iff.mp hlast
    have hclose : ¬ UnlocksBy last := by
      rw [heq] at hlatched
      exact hlatched.last LocksBy.not_unlocksBy
    have hbound : |last.1| ≤ 4000000 := not_lt.mp hclose
    have herror : st.beaconErrorNs = last.1 := by
      rw [hknown.errorNs last hlast]
      rw [abs_le] at hbound
      unfold statusClampNs
      rw [if_neg (by omega), if_neg (by omega)]
    refine ⟨hknown.errorValid.mpr ?_, ?_, last, hlast, herror.symm⟩
    · rw [heq]
      simp
    · show |st.beaconErrorNs| ≤ 4000000
      rw [herror]
      exact hbound

/-! ### A station that gets locked -/

namespace Sample

/-- Identifiers of an element, and the lengths of its parts. -/
def vndIe : VndIe where
  oui := Vector.replicate 3 0x50
  ouiTypeAvbWireless := 1
  subid0 := 2
  subid1BeaconTime := 3
  subidLen := 2
  tsfMappingPayloadLen := 8
  captureBracketLen := 4
  subidRoom := by decide
  tsfFits := by decide
  elementFits := by decide

/-- A station whose daemon has a source. -/
def beaconStation : BeaconStation ℚ 0 where
  daemon := { (default : PtpState ℚ 0) with selectedSourceValid := true }
  status := .zero
  gptpMarkerNs := 0
  tsfMarkerUs := 0
  tsfMarkerReceivedUs := 0
  seenGptp := false
  seenTsf := false
  lastOriginTs := Vector.replicate 10 0
  lastElementUs := 0
  elementIntervalUs := 0
  filter := .zero
  connected := false
  statusBssid := Vector.replicate 6 0
  ftmSession := default
  ftmAssociatedUs := 0
  peerDelayNs := 0
  prevFtmT1Ps := 0
  prevBeaconTsfUs := 0
  haveFtmBaseline := false
  tsfBackwardStreak := 0

theorem beaconStation_started : beaconStation.Started := ⟨rfl, rfl, rfl, rfl, rfl, rfl⟩

def stationPort : Fin 1 := ⟨0, Nat.one_pos⟩

/-- What a station reads at a second of its clock, which runs with the access point's. -/
def elementReads (second : Nat) : VendorIeReads where
  receivedUs := second * 1000000
  elementUs := second * 1000000
  observedUs := second * 1000000
  observedMono := ⟨second, 0⟩
  staTsfUs := second * 1000000
  now := ⟨second, 0⟩
  inject := default
  appliedUs := second * 1000000

/-- The element of a second. -/
def elementOfSecond (second : Nat) : Bytes :=
  vndIe.onAir
    (PtpFollowUp.write
      { (default : PtpFollowUp) with
        header := { (default : PtpHeader) with messagetype := 0x18 }
        origintimestamp := timespecToPtpFormat config ⟨second, 0⟩ })
    (second * 1000000)

/-- The station associates, and sees an element in each of seventeen seconds. -/
def beaconElements : List (StationEvent ℚ 0) :=
  .staConnected (Vector.replicate 6 9) 1 1 ::
    (List.range 17).map fun i => .vendorIe true (elementOfSecond (i + 1)) (elementReads (i + 1))

end Sample

/-- The seventeenth element is applied, and the station is locked. -/
theorem staStatus_locked_seventeen :
    (ptpdWifiStaStatus (run (stationStep Sample.config Sample.vndIe Sample.stationPort)
      Sample.beaconStation Sample.beaconElements).status true none default 17100000).locked = true ∧
    LockReport
      (statusLog (trace (stationStep Sample.config Sample.vndIe Sample.stationPort)
        Sample.beaconStation Sample.beaconElements)) 17100000
      (ptpdWifiStaStatus (run (stationStep Sample.config Sample.vndIe Sample.stationPort)
        Sample.beaconStation Sample.beaconElements).status true none default 17100000) :=
  ⟨by decide +kernel,
    staStatus_locked Sample.config Sample.vndIe Sample.stationPort Sample.beaconStation_started
      Sample.beaconElements true none default 17100000⟩

end EspPtp
