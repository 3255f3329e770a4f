import EspPtp.Daemon.Port
import EspPtp.Transmit.Announce

/-!
# What the two transmit schedules keep to

Both are instances of one sender: their calls are steps of `Outstanding` and of `Slowdown`,
whatever their order and times. What the library says of a sender's reports is so said of
theirs, and is put in the schedules' own words here.
-/

namespace EspPtp

open Lib

/-! ## The resets of the daemon are calls -/

/-- `ptp_reset_for_profile` starts every schedule of a port anew. -/
theorem resetPortForProfile_schedules {F : Type} (port : PtpPort F) :
    (resetPortForProfile port).wiredCapable.transmit =
        (capableCall port.wiredCapable.transmit .reset).1 ∧
      (resetPortForProfile port).wifiNeighbor.transmit =
        (capableCall port.wifiNeighbor.transmit .reset).1 ∧
      ∀ slot,
        ((resetPortForProfile port).wifiPeers.entries slot).transmit =
            (capableCall (port.wifiPeers.entries slot).transmit .reset).1 ∧
          ((resetPortForProfile port).wifiPeers.entries slot).announce =
            (announceCall (port.wifiPeers.entries slot).announce .reset).1 :=
  ⟨rfl, rfl, fun _ => ⟨rfl, rfl⟩⟩

/-- So does a station that signals under another port identity. -/
theorem rebound_schedules (peer : PtpWifiPeer) :
    peer.rebound.transmit = (capableCall peer.transmit .reset).1 ∧
      peer.rebound.announce = (announceCall peer.announce .reset).1 :=
  ⟨rfl, rfl⟩

/-! ## Tokens -/

/-- **The completion tokens of both schedules are sound** in every run with fewer begins than
    there are numbers. -/
theorem transmitTokens_sound :
    (∀ calls : List CapableCall, begins (capableReports calls) < 2 ^ 32 - 1 →
        TokensSound transmitLimitUs (capableReports calls)) ∧
      ∀ calls : List AnnounceCall, begins (announceReports calls) < 2 ^ 32 - 1 →
        TokensSound transmitLimitUs (announceReports calls) :=
  ⟨fun calls hbound => (capableTraced calls).traced.sound hbound,
    fun calls hbound => (announceTraced calls).traced.sound hbound⟩

/-- A begin, its completion twice, a request for a longer interval and a begin at it. -/
theorem transmitTokens_sound_twice :
    TokensSound transmitLimitUs
        (capableReports
          [.begin true 0, .finish 1 true 10, .finish 1 true 20, .request 1, .begin true 30]) ∧
      TokensSound transmitLimitUs
        (announceReports
          [.begin 0 0 0 0, .finish 1 true 10, .finish 1 true 20, .request 0 1, .begin 0 1 0 30]) :=
  ⟨transmitTokens_sound.1 _ (by decide), transmitTokens_sound.2 _ (by decide)⟩

/-! ## Slowing down -/

section Slowing

/-- What one more call to a capability schedule does to its effective period. -/
structure CapableSlowing (calls : List CapableCall) : Prop where
  /-- A request never lengthens a period that is in effect. -/
  request : ∀ request, (capableRun calls).period ≠ 0 →
    0 ≤ (ptpCapableScheduleRequest (capableRun calls) request).1.period ∧
      (ptpCapableScheduleRequest (capableRun calls) request).1.period ≤ (capableRun calls).period
  begin : ∀ enabled nowUs,
    (ptpCapableScheduleBegin (capableRun calls) enabled nowUs).1.period = (capableRun calls).period
  /-- A completion changes it only as the ninth since the interval last changed. -/
  finish : ∀ token accepted nowUs answer,
    ptpCapableScheduleFinish (capableRun calls) token accepted nowUs = answer →
    answer.1.period ≠ (capableRun calls).period →
    answer.2 = true ∧ accepted = true ∧ completions (capableReports calls) + 1 = 9 ∧
      answer.1.period = ptpCapableIntervalUs (capableRun calls).interval.logInterval ∧
      (nowUs + answer.1.period ≤ int64Max → answer.1.nextUs = nowUs + answer.1.period)
  remaining : (capableRun calls).interval.slowdownRemaining ≤ 9
  longer : (capableRun calls).interval.slowdownRemaining ≠ 0 →
    0 < (capableRun calls).interval.oldIntervalUs ∧
      (capableRun calls).interval.oldIntervalUs <
        ptpCapableIntervalUs (capableRun calls).interval.logInterval

/-- What one more call to an Announce schedule that is set up does to its effective period. -/
structure AnnounceSlowing (calls : List AnnounceCall) : Prop where
  request : ∀ initial request, (announceRun calls).initialized = true →
    (announceRun calls).period ≠ 0 →
    0 ≤ (ptpAnnounceRequest (announceRun calls) initial request).1.period ∧
      (ptpAnnounceRequest (announceRun calls) initial request).1.period ≤
        (announceRun calls).period
  begin : ∀ initial expectedRevision informationRevision nowUs,
    (announceRun calls).initialized = true →
    (ptpAnnounceBegin (announceRun calls) initial expectedRevision informationRevision
      nowUs).1.period = (announceRun calls).period
  /-- A completion changes it only as the third since the interval last changed. -/
  finish : ∀ token accepted nowUs answer,
    ptpAnnounceFinish (announceRun calls) token accepted nowUs = answer →
    answer.1.period ≠ (announceRun calls).period →
    answer.2 = true ∧ accepted = true ∧ completions (announceReports calls) + 1 = 3 ∧
      answer.1.period = ptpAnnouncePeriodUs (announceRun calls).logInterval ∧
      (nowUs + answer.1.period ≤ int64Max → answer.1.nextUs = nowUs + answer.1.period)
  remaining : (announceRun calls).slowdownRemaining ≤ 3
  longer : (announceRun calls).slowdownRemaining ≠ 0 →
    0 < (announceRun calls).oldPeriodUs ∧
      (announceRun calls).oldPeriodUs < ptpAnnouncePeriodUs (announceRun calls).logInterval

/-- The completion that ends a slowdown is taken, succeeded, and was the last one promised. -/
theorem CapableFinish.period_changed {s : PtpCapableSchedule} {token : UInt32} {accepted : Bool}
    {nowUs : Int} {answer : PtpCapableSchedule × Bool} (hs : s.Ok)
    (h : CapableFinish s token accepted nowUs answer) (hchanged : answer.1.period ≠ s.period) :
    answer.2 = true ∧ accepted = true ∧ s.slowdown.remaining = 1 ∧
      answer.1.period = ptpCapableIntervalUs s.interval.logInterval ∧
      (nowUs + answer.1.period ≤ int64Max → answer.1.nextUs = nowUs + answer.1.period) := by
  have hkept := hs.kept.step (h.slowdown hs)
  cases h with
  | unknown _ => exact absurd rfl hchanged
  | late _ _ => exact absurd rfl hchanged
  | @taken interval nextUs hpending hne _ _ hinterval hnext =>
    rw [hs.advertised (by rw [hpending]; exact hne), ptpCapableIntervalSent_own] at hinterval
    have hmoves : nowUs + ptpCapableIntervalPeriod interval ≤ int64Max →
        nextUs = nowUs + ptpCapableIntervalPeriod interval := by
      intro hfits
      rw [hnext, if_pos ⟨hchanged, by omega⟩]
    cases accepted with
    | false =>
      subst hinterval
      exact absurd rfl hchanged
    | true =>
      subst hinterval
      rw [PtpCapableSchedule.period_eq hkept, PtpCapableSchedule.period_eq hs.kept] at hchanged
      obtain ⟨hlast, htarget⟩ := @Slowdown.count_effective s.slowdown hchanged
      refine ⟨rfl, rfl, hlast, ?_, hmoves⟩
      rw [PtpCapableSchedule.period_eq hkept]
      exact htarget

theorem AnnounceFinish.period_changed {s : PtpAnnounceSchedule} {token : UInt32} {accepted : Bool}
    {nowUs : Int} {answer : PtpAnnounceSchedule × Bool} (hs : s.Ok)
    (h : AnnounceFinish s token accepted nowUs answer) (hchanged : answer.1.period ≠ s.period) :
    answer.2 = true ∧ accepted = true ∧ s.slowdown.remaining = 1 ∧
      answer.1.period = ptpAnnouncePeriodUs s.logInterval ∧
      (nowUs + answer.1.period ≤ int64Max → answer.1.nextUs = nowUs + answer.1.period) := by
  have hkept := hs.kept.step (h.slowdown hs)
  cases h with
  | unknown _ => exact absurd rfl hchanged
  | late _ _ => exact absurd rfl hchanged
  | taken _ _ _ _ _ => exact absurd rfl hchanged
  | @counted nextUs _ _ _ _ haccepted _ _ hnext =>
    rw [PtpAnnounceSchedule.period_eq hkept, PtpAnnounceSchedule.period_eq hs.kept] at hchanged
    obtain ⟨hlast, htarget⟩ := @Slowdown.count_effective s.slowdown hchanged
    rw [PtpAnnounceSchedule.period_eq hkept]
    refine ⟨rfl, haccepted, hlast, htarget, ?_⟩
    intro hfits
    have hlater : nowUs + ptpAnnouncePeriodUs s.logInterval ≤ int64Max := by
      rw [← show s.slowdown.target = ptpAnnouncePeriodUs s.logInterval from rfl, ← htarget]
      exact hfits
    have hended : s.slowdownRemaining - 1 = 0 := by
      rw [show s.slowdownRemaining = 1 from hlast]
    show nextUs = _
    rw [hnext, if_pos ⟨hended, by omega⟩]
    exact congrArg (nowUs + ·) htarget.symm

/-- An initialized schedule is left by setting it up. -/
theorem ptpAnnounceInitialize_kept {s : PtpAnnounceSchedule} (h : s.initialized = true)
    (initial : Int) : (ptpAnnounceInitialize s initial).1 = s := by
  rcases ptpAnnounceInitialize_cases s initial with hsame | ⟨hfresh, -⟩
  · exact hsame
  · rw [h] at hfresh
    cases hfresh

/-- A begin leaves the interval it finds. -/
theorem AnnounceBegin.slowdown_eq {s : PtpAnnounceSchedule} {initial nowUs : Int}
    {informationRevision : UInt32}
    {answer : PtpAnnounceSchedule × Option (UInt32 × Int × UInt16)}
    (h : AnnounceBegin s initial informationRevision nowUs answer) (hset : s.initialized = true) :
    answer.1.slowdown = s.slowdown := by
  cases h with
  | refused => rfl
  | out hinit => rw [hinit, ptpAnnounceInitialize_kept hset]
  | begun hinit _ _ _ _ _ _ hinterval _ =>
    rw [hinterval.1, hinit, ptpAnnounceInitialize_kept hset]

theorem capableSlowing (calls : List CapableCall) : CapableSlowing calls := by
  have htraced := capableTraced calls
  generalize hrun : capableRun calls = s at htraced
  have hs := htraced.ok
  refine
    { request := ?_
      begin := ?_
      finish := ?_
      remaining := by rw [hrun]; exact hs.kept.le
      longer := by rw [hrun]; exact hs.kept.longer }
  · intro request
    have hnext := capableCall_ok hs (.request request)
    rw [hrun]
    intro hsends
    refine ⟨PtpCapableSchedule.period_nonneg hnext.kept, ?_⟩
    rcases ptpCapableScheduleRequest_cases s request with hsame | ⟨next, -, heq⟩
    · rw [hsame]
    · change (ptpCapableScheduleRequest s request).1.Ok at hnext
      rw [heq] at hnext ⊢
      rw [PtpCapableSchedule.period_eq hs.kept] at hsends hnext ⊢
      rw [PtpCapableSchedule.period_eq hnext.kept]
      exact Slowdown.request_effective_le (by decide) hsends
  · intro enabled nowUs
    rw [hrun, PtpCapableSchedule.period, ptpCapableScheduleBegin_interval]
    rfl
  · rintro token accepted nowUs answer rfl hchanged
    rw [hrun] at hchanged ⊢
    obtain ⟨htaken, hcounted, hlast, hperiod, hnext⟩ :=
      (ptpCapableScheduleFinish_spec s token accepted nowUs).period_changed hs hchanged
    have hsent := htraced.promised (by rw [hlast]; exact Nat.one_ne_zero)
    exact ⟨htaken, hcounted, by omega, hperiod, hnext⟩

theorem announceSlowing (calls : List AnnounceCall) : AnnounceSlowing calls := by
  have htraced := announceTraced calls
  generalize hrun : announceRun calls = s at htraced
  have hs := htraced.ok
  refine
    { request := ?_
      begin := ?_
      finish := ?_
      remaining := by rw [hrun]; exact hs.kept.le
      longer := by rw [hrun]; exact hs.kept.longer }
  · intro initial request
    have hnext := announceCall_ok hs (.request initial request)
    rw [hrun]
    intro hset hsends
    refine ⟨PtpAnnounceSchedule.period_nonneg hnext.kept, ?_⟩
    rcases ptpAnnounceRequest_cases s initial request with
      hsame | ⟨s₀, rfl, hsame | ⟨next, -, -, heq⟩⟩
    · rw [hsame]
    · rw [hsame, ptpAnnounceInitialize_kept hset]
    · change (ptpAnnounceRequest s initial request).1.Ok at hnext
      rw [ptpAnnounceInitialize_kept hset] at heq
      rw [heq] at hnext ⊢
      rw [PtpAnnounceSchedule.period_eq hs.kept] at hsends hnext ⊢
      rw [PtpAnnounceSchedule.period_eq hnext.kept]
      exact Slowdown.request_effective_le (by decide) hsends
  · intro initial expectedRevision informationRevision nowUs
    have hnext := announceCall_ok hs (.begin initial expectedRevision informationRevision nowUs)
    change (ptpAnnounceBegin s initial expectedRevision informationRevision nowUs).1.Ok at hnext
    rw [hrun]
    intro hset
    have hspec := ptpAnnounceBegin_spec s initial expectedRevision informationRevision nowUs
    rw [PtpAnnounceSchedule.period_eq hs.kept, PtpAnnounceSchedule.period_eq hnext.kept,
      hspec.slowdown_eq hset]
  · rintro token accepted nowUs answer rfl hchanged
    rw [hrun] at hchanged ⊢
    obtain ⟨htaken, hcounted, hlast, hperiod, hnext⟩ :=
      (ptpAnnounceFinish_spec s token accepted nowUs).period_changed hs hchanged
    have hsent := htraced.promised (by rw [hlast]; exact Nat.one_ne_zero)
    exact ⟨htaken, hcounted, by omega, hperiod, hnext⟩

/-- **Slowing down takes effect only after the promised transmissions**, on both schedules and
    after every run. -/
theorem slowdown_after_promised :
    (∀ calls, CapableSlowing calls) ∧ ∀ calls, AnnounceSlowing calls :=
  ⟨capableSlowing, announceSlowing⟩

end Slowing

end EspPtp
