import EspPtp.Beacon.Lock

/-!
# When a station gives its access point up (`on_wifi_event`)

An access point that starts anew starts its TSF anew. A station sees that in the beacons; but
an old beacon, or a bad one, looks the same. So each ranging report is compared with what was
kept of the reports before: if the TSF of the last beacon is more than a second behind, the
report counts against the access point, and any other report clears it.

The station disconnects exactly at the third such report in a row (`reassociates_iff`): one or
two are never enough, and three always are. An association, and its end, begin the count anew.
-/

namespace EspPtp

open Lib

variable {F : Type} {n : Nat}

/-! ## What the reports have found -/

/-- An association forgets what was found before, and so does its end. -/
def StationEvent.forgets : StationEvent F n → Bool
  | .staConnected _ _ _ | .staDisconnected _ => true
  | _ => false

/-- The verdicts since the baseline was forgotten last. -/
def verdictsSince (history : List (StationEvent F n × StationAnswer)) : List ReportVerdict :=
  history.foldl (fun verdicts x => if x.1.forgets then [] else verdicts ++ x.2.verdict.toList) []

namespace ReportVerdict

/-- The TSF kept after a verdict. -/
def keepTsf (keptUs : Int) : ReportVerdict → Int
  | .kept tsfUs => if tsfUs > 0 then tsfUs else keptUs
  | _ => keptUs

/-- A TSF was found more than a second behind the one kept. -/
def GoesBack (keptUs : Int) : ReportVerdict → Prop
  | .beaconBackward tsfUs => 0 < tsfUs ∧ 1000000 < keptUs - tsfUs
  | _ => False

end ReportVerdict

/-- The TSF kept last. -/
def lastKeptTsf (verdicts : List ReportVerdict) : Int :=
  verdicts.foldl ReportVerdict.keepTsf 0

open ReportVerdict

theorem verdictsSince_snoc (history : List (StationEvent F n × StationAnswer))
    (x : StationEvent F n × StationAnswer) :
    verdictsSince (history ++ [x]) =
      if x.1.forgets then [] else verdictsSince history ++ x.2.verdict.toList :=
  List.foldl_append

theorem lastKeptTsf_snoc (verdicts : List ReportVerdict) (verdict : ReportVerdict) :
    lastKeptTsf (verdicts ++ [verdict]) = keepTsf (lastKeptTsf verdicts) verdict :=
  List.foldl_append

/-- A report that finds the TSF gone back is not kept. -/
theorem lastKeptTsf_back (verdicts : List ReportVerdict) (tsfUs : Int) :
    lastKeptTsf (verdicts ++ [.beaconBackward tsfUs]) = lastKeptTsf verdicts :=
  lastKeptTsf_snoc verdicts (.beaconBackward tsfUs)

/-! ## One step -/

namespace BeaconStation

/-- What is known of the access point's counters: the TSF that was kept, whether a report is a
    baseline, and how many have found the TSF gone back. -/
def baseline (s : BeaconStation F n) : Int × Bool × Nat :=
  (s.prevBeaconTsfUs, s.haveFtmBaseline, s.tsfBackwardStreak)

theorem baseline_eq {s : BeaconStation F n} {keptUs : Int} {haveBaseline : Bool} {streak : Nat} :
    s.baseline = (keptUs, haveBaseline, streak) ↔ s.prevBeaconTsfUs = keptUs ∧
      s.haveFtmBaseline = haveBaseline ∧ s.tsfBackwardStreak = streak := by
  simp [baseline]

/-- **What a handler does to a baseline.** -/
inductive BaselineStep (keptUs : Int) (haveBaseline : Bool) (streak : Nat) (e : StationEvent F n)
    (handled : BeaconStation F n × StationAnswer) : Prop
  | forgotten (he : e.forgets = true) (hbaseline : handled.1.baseline = (0, false, 0))
      (hstays : handled.2.reassociates = false) (hverdict : handled.2.verdict = none)
  | aside (he : e.forgets = false) (hbaseline : handled.1.baseline = (keptUs, haveBaseline, streak))
      (hstays : handled.2.reassociates = false) (hverdict : handled.2.verdict = none)
  | awaited (he : e.forgets = false) (hhave : haveBaseline = true) (tsfUs : Int)
      (hback : GoesBack keptUs (.beaconBackward tsfUs)) (hfew : streak + 1 < 3)
      (hbaseline : handled.1.baseline = (keptUs, true, streak + 1))
      (hstays : handled.2.reassociates = false)
      (hverdict : handled.2.verdict = some (.beaconBackward tsfUs))
  | confirmed (he : e.forgets = false) (hhave : haveBaseline = true) (tsfUs : Int)
      (hback : GoesBack keptUs (.beaconBackward tsfUs)) (hmany : ¬ streak + 1 < 3)
      (hbaseline : handled.1.baseline = (keptUs, false, 0))
      (hleaves : handled.2.reassociates = true)
      (hverdict : handled.2.verdict = some (.beaconBackward tsfUs))
  | cleared (he : e.forgets = false) (verdict : ReportVerdict)
      (hforth : ∀ keptUs, ¬ GoesBack keptUs verdict) (haveNext : Bool)
      (hbaseline : handled.1.baseline = (keepTsf keptUs verdict, haveNext, 0))
      (hstays : handled.2.reassociates = false) (hverdict : handled.2.verdict = some verdict)

/-- That of a station. -/
abbrev BaselineStepOf (s : BeaconStation F n) : StationEvent F n →
    BeaconStation F n × StationAnswer → Prop :=
  BaselineStep s.prevBeaconTsfUs s.haveFtmBaseline s.tsfBackwardStreak

section Step

variable (cfg : Config) (p : Fin (n + 1)) (s : BeaconStation F n)

theorem injectDelay_baseline (delayNs : Option Int) :
    (s.injectDelay cfg p delayNs).1.baseline = s.baseline := by
  obtain ⟨daemon, peerDelayNs, heq⟩ := injectDelay_eq cfg p s delayNs
  rw [heq]
  rfl

theorem onFtmSuccess_baseline {e : StationEvent F n} (he : e.forgets = false) (r : FtmReport)
    (reads : FtmReportReads) : s.BaselineStepOf e (s.onFtmSuccess cfg p r reads) := by
  unfold onFtmSuccess
  dsimp only
  cases r.bestT1Ps with
  | none => exact .aside he (injectDelay_baseline cfg p s _) rfl rfl
  | some t1Ps =>
    dsimp only
    generalize hjudged : s.judge t1Ps (s.recentTsfUs reads.nowUs) = judged
    unfold judge at hjudged
    dsimp only at hjudged
    split at hjudged
    · rename_i hback
      obtain ⟨hhave, hpos, -, hgap⟩ := hback
      subst hjudged
      dsimp only
      split
      · rename_i hfew
        exact .awaited he hhave _ ⟨hpos, hgap⟩ hfew (by simp [baseline, hhave]) rfl rfl
      · rename_i hmany
        exact .confirmed he hhave _ ⟨hpos, hgap⟩ hmany rfl rfl rfl
    · -- The streak ends here, whether the report is kept or not.
      split at hjudged
      · subst hjudged
        exact .cleared he .ftmBackward (fun _ h => h) s.haveFtmBaseline rfl rfl rfl
      · subst hjudged
        exact .cleared he (.kept _) (fun _ h => h) true (injectDelay_baseline cfg p _ _) rfl rfl

theorem stationHandler_baseline [CDouble F] (vnd : VndIe) (e : StationEvent F n) :
    s.BaselineStepOf e (stationHandler cfg vnd p s e) := by
  cases e with
  | vendorIe beacon ie reads =>
    show s.BaselineStepOf _ (s.onVendorIe cfg vnd p beacon ie reads)
    unfold onVendorIe
    cases beacon with
    | false => exact .aside rfl rfl rfl rfl
    | true =>
      cases vnd.beaconTime ie with
      | none => exact .aside rfl rfl rfl rfl
      | some element =>
        -- An element notes its TSF, but only a report compares it.
        have hstep := onBeaconTime_step cfg p s element reads
        dsimp only
        generalize s.onBeaconTime cfg p element reads = handled at hstep ⊢
        cases hstep <;> exact .aside rfl rfl rfl rfl
  | staConnected bssid statusUs ftmUs => exact .forgotten rfl rfl rfl rfl
  | staDisconnected stop => exact .forgotten rfl rfl rfl rfl
  | ftmReport r reads =>
    show s.BaselineStepOf _ (s.onFtmReport cfg p r reads)
    unfold onFtmReport
    dsimp only
    generalize ptpFtmSessionFinish _ _ _ = finished
    split
    · exact .aside rfl rfl rfl rfl
    · cases r.status with
      | success => exact onFtmSuccess_baseline cfg p { s with ftmSession := finished.1 } rfl r reads
      | noValidMsmt => exact .aside rfl (injectDelay_baseline cfg p _ _) rfl rfl
      | failed => exact .aside rfl rfl rfl rfl
  | ftmStart apInfo associatedUs freshUs initiated =>
    obtain ⟨session, ftmAssociatedUs, heq⟩ :=
      onFtmStart_eq s apInfo associatedUs freshUs initiated
    have hbaseline := congrArg baseline heq
    exact .aside rfl hbaseline rfl rfl
  | ftmCancel => exact .aside rfl rfl rfl rfl
  | daemon state => exact .aside rfl rfl rfl rfl

end Step

end BeaconStation

/-! ## Runs -/

/-- The baseline is what the verdicts say: the TSF kept last, and as long as a report is a baseline,
    how many in a row have found it gone back. -/
structure BaselineRun (verdicts : List ReportVerdict) (s : BeaconStation F n) : Prop where
  kept : s.prevBeaconTsfUs = lastKeptTsf verdicts
  streak : s.haveFtmBaseline = true → ∀ count,
    Trailing (GoesBack (lastKeptTsf verdicts)) count verdicts ↔ count ≤ s.tsfBackwardStreak

section Run

variable {verdicts : List ReportVerdict} {s s' : BeaconStation F n}

theorem BaselineRun.start (h : s.Started) : BaselineRun [] s where
  kept := h.baseline.1
  streak := fun _ count => by
    rw [h.baseline.2, trailing_nil]
    omega

theorem BaselineRun.congr (h : BaselineRun verdicts s) (hbaseline : s'.baseline = s.baseline) :
    BaselineRun verdicts s' := by
  obtain ⟨hkept, hhave, hstreak⟩ := BeaconStation.baseline_eq.mp hbaseline
  exact ⟨hkept.trans h.kept, fun hyes => hstreak.symm ▸ h.streak (hhave ▸ hyes)⟩

/-- One more report finds the TSF gone back. -/
theorem BaselineRun.back (h : BaselineRun verdicts s) (hhave : s.haveFtmBaseline = true)
    {tsfUs : Int} (hback : GoesBack s.prevBeaconTsfUs (.beaconBackward tsfUs)) (count : Nat) :
    Trailing (GoesBack (lastKeptTsf (verdicts ++ [.beaconBackward tsfUs]))) count
      (verdicts ++ [.beaconBackward tsfUs]) ↔ count ≤ s.tsfBackwardStreak + 1 := by
  rw [lastKeptTsf_back]
  cases count with
  | zero => simp [trailing_zero]
  | succ count =>
    rw [trailing_succ_snoc, h.streak hhave count, ← h.kept]
    have hcount : count ≤ s.tsfBackwardStreak ↔ count + 1 ≤ s.tsfBackwardStreak + 1 := by omega
    exact (and_iff_left hback).trans hcount

/-- **One step**: a verdict is counted, or clears the count, or all is forgotten. -/
theorem BaselineRun.step (h : BaselineRun verdicts s) {e : StationEvent F n}
    {handled : BeaconStation F n × StationAnswer} (hstep : s.BaselineStepOf e handled) :
    BaselineRun (if e.forgets then [] else verdicts ++ handled.2.verdict.toList) handled.1 := by
  cases hstep with
  | forgotten he hbaseline hstays hverdict =>
    obtain ⟨hkept, hhave, -⟩ := BeaconStation.baseline_eq.mp hbaseline
    rw [if_pos he]
    exact ⟨hkept, fun hyes => absurd (hhave.symm.trans hyes) Bool.false_ne_true⟩
  | aside he hbaseline hstays hverdict =>
    rw [he, hverdict]
    simpa using h.congr hbaseline
  | awaited he hhave tsfUs hback hfew hbaseline hstays hverdict =>
    obtain ⟨hkept, -, hstreak⟩ := BeaconStation.baseline_eq.mp hbaseline
    rw [he, hverdict]
    show BaselineRun (verdicts ++ [.beaconBackward tsfUs]) handled.1
    refine ⟨hkept.trans (h.kept.trans (lastKeptTsf_back verdicts tsfUs).symm), fun _ count => ?_⟩
    rw [hstreak]
    exact h.back hhave hback count
  | confirmed he hhave tsfUs hback hmany hbaseline hleaves hverdict =>
    obtain ⟨hkept, hnone, -⟩ := BeaconStation.baseline_eq.mp hbaseline
    rw [he, hverdict]
    show BaselineRun (verdicts ++ [.beaconBackward tsfUs]) handled.1
    -- The report was the third: what follows has no baseline to be compared with.
    exact ⟨hkept.trans (h.kept.trans (lastKeptTsf_back verdicts tsfUs).symm),
      fun hyes => absurd (hnone.symm.trans hyes) Bool.false_ne_true⟩
  | cleared he verdict hforth haveNext hbaseline hstays hverdict =>
    obtain ⟨hkept, -, hstreak⟩ := BeaconStation.baseline_eq.mp hbaseline
    rw [he, hverdict]
    show BaselineRun (verdicts ++ [verdict]) handled.1
    refine ⟨?_, fun _ count => ?_⟩
    · rw [hkept, h.kept]
      exact (lastKeptTsf_snoc verdicts verdict).symm
    · rw [hstreak]
      cases count with
      | zero => exact iff_of_true (trailing_zero _) le_rfl
      | succ count =>
        exact iff_of_false (fun htrailing => hforth _ (trailing_succ_snoc.mp htrailing).2)
          (Nat.not_succ_le_zero count)

theorem baselineRun [CDouble F] {cfg : Config} {vnd : VndIe} {p : Fin (n + 1)}
    {s₀ : BeaconStation F n} (hstart : s₀.Started) (events : List (StationEvent F n)) :
    BaselineRun (verdictsSince (trace (stationStep cfg vnd p) s₀ events))
      (run (stationStep cfg vnd p) s₀ events) := by
  refine run_induction (P := fun history s => BaselineRun (verdictsSince history) s)
    (.start hstart) (fun history s e h => ?_) events
  rw [verdictsSince_snoc]
  exact (h.step (s.stationHandler_baseline cfg p vnd e)).congr rfl

end Run

/-- **A station gives its access point up exactly at the third report in a row that finds the TSF
    gone back**, in every run: more than a second behind the last one kept since it
    associated. -/
theorem reassociates_iff [CDouble F] (cfg : Config) (vnd : VndIe) (p : Fin (n + 1))
    {s₀ : BeaconStation F n} (hstart : s₀.Started) (events : List (StationEvent F n))
    (e : StationEvent F n) :
    (stationStep cfg vnd p (run (stationStep cfg vnd p) s₀ events) e).2.reassociates = true ↔
      (stationStep cfg vnd p (run (stationStep cfg vnd p) s₀ events) e).2.verdict.isSome = true ∧
      Trailing
        (GoesBack (lastKeptTsf (verdictsSince (trace (stationStep cfg vnd p) s₀ (events ++ [e])))))
        3 (verdictsSince (trace (stationStep cfg vnd p) s₀ (events ++ [e]))) := by
  have hrun : BaselineRun (verdictsSince (trace (stationStep cfg vnd p) s₀ events))
      (run (stationStep cfg vnd p) s₀ events) := baselineRun hstart events
  rw [trace_snoc, verdictsSince_snoc]
  generalize verdictsSince (trace (stationStep cfg vnd p) s₀ events) = verdicts at hrun ⊢
  generalize run (stationStep cfg vnd p) s₀ events = s at hrun ⊢
  have hanswer : (stationStep cfg vnd p s e).2 = (stationHandler cfg vnd p s e).2 := rfl
  have hstep := s.stationHandler_baseline cfg p vnd e
  rw [hanswer]
  generalize stationHandler cfg vnd p s e = handled at hstep ⊢
  dsimp only
  cases hstep with
  | forgotten he hbaseline hstays hverdict => simp [hstays, hverdict]
  | aside he hbaseline hstays hverdict => simp [hstays, hverdict]
  | awaited he hhave tsfUs hback hfew hbaseline hstays hverdict =>
    rw [he, hverdict, hstays]
    have hcount := hrun.back hhave hback 3
    refine iff_of_false Bool.false_ne_true fun h => ?_
    have := hcount.mp h.2
    omega
  | confirmed he hhave tsfUs hback hmany hbaseline hleaves hverdict =>
    rw [he, hverdict, hleaves]
    have hcount := hrun.back hhave hback 3
    exact iff_of_true rfl ⟨rfl, hcount.mpr (by omega)⟩
  | cleared he verdict hforth haveNext hbaseline hstays hverdict =>
    rw [he, hverdict, hstays]
    exact iff_of_false Bool.false_ne_true fun h => hforth _ (trailing_succ_snoc.mp h.2).2

/-! ### An access point that starts anew -/

namespace Sample

def rangedPeer : MacAddr := Vector.replicate 6 9

def rangingReport : FtmReport where
  peerMac := rangedPeer
  status := .success
  rttEst := 0
  entries := [⟨10, 1000⟩]

def rangingReads (second : Nat) : FtmReportReads where
  apInfo := some rangedPeer
  freshUs := second * 1000000
  hookTook := false
  nowUs := second * 1000000
  measuredUs := second * 1000000

/-- An element with a second of the TSF, and the begin of a ranging. -/
def rangingAt (tsfSecond second : Nat) : List (StationEvent ℚ 0) :=
  [.vendorIe true (elementOfSecond tsfSecond) (elementReads second),
    .ftmStart (some rangedPeer) 1 (second * 1000000) true]

/-- The first report is of an access point of a hundred seconds, and the next two of one that has
    just started; another ranging has begun. -/
def restartedEvents : List (StationEvent ℚ 0) :=
  .staConnected rangedPeer 1 1 ::
    (rangingAt 100 1 ++ [.ftmReport rangingReport (rangingReads 1)] ++
      rangingAt 2 2 ++ [.ftmReport rangingReport (rangingReads 2)] ++
      rangingAt 3 3 ++ [.ftmReport rangingReport (rangingReads 3)] ++ rangingAt 4 4)

/-- The report of that. -/
def thirdReport : StationEvent ℚ 0 := .ftmReport rangingReport (rangingReads 4)

end Sample

/-- The third report is the one at which the station goes. -/
theorem reassociates_iff_restarted :
    (stationStep Sample.config Sample.vndIe Sample.stationPort
      (run (stationStep Sample.config Sample.vndIe Sample.stationPort) Sample.beaconStation
        Sample.restartedEvents) Sample.thirdReport).2.reassociates = true ∧
    ((stationStep Sample.config Sample.vndIe Sample.stationPort
      (run (stationStep Sample.config Sample.vndIe Sample.stationPort) Sample.beaconStation
        Sample.restartedEvents) Sample.thirdReport).2.reassociates = true ↔
      (stationStep Sample.config Sample.vndIe Sample.stationPort
        (run (stationStep Sample.config Sample.vndIe Sample.stationPort) Sample.beaconStation
          Sample.restartedEvents) Sample.thirdReport).2.verdict.isSome = true ∧
      Trailing
        (GoesBack (lastKeptTsf (verdictsSince
          (trace (stationStep Sample.config Sample.vndIe Sample.stationPort) Sample.beaconStation
            (Sample.restartedEvents ++ [Sample.thirdReport])))))
        3 (verdictsSince
          (trace (stationStep Sample.config Sample.vndIe Sample.stationPort) Sample.beaconStation
            (Sample.restartedEvents ++ [Sample.thirdReport])))) :=
  ⟨by decide +kernel,
    reassociates_iff Sample.config Sample.vndIe Sample.stationPort Sample.beaconStation_started
      Sample.restartedEvents Sample.thirdReport⟩

end EspPtp
