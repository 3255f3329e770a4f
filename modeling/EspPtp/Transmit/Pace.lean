import EspPtp.Transmit.Checked

/-!
# The pace of the two transmit schedules

While the effective period stays, and nothing starts a schedule anew, its deadline moves
only with its begins, and by the grid of `Lib.paced`. The times of the begins are any at all.

A schedule that is not set up has the period of a zeroed interval, which its first begin
replaces: of an Announce schedule the period is asked for only once it is set up.
-/

namespace EspPtp

open Lib

/-- The begins of a capability schedule, and the deadlines they leave. -/
def capableBeats (s : PtpCapableSchedule) (calls : List CapableCall) : List Beat :=
  beats capableCall PtpCapableSchedule.nextUs s calls

/-- The begins of an Announce schedule. -/
def announceBeats (s : PtpAnnounceSchedule) (calls : List AnnounceCall) : List Beat :=
  beats announceCall PtpAnnounceSchedule.nextUs s calls

/-- Calls under which the effective period stays. -/
def CapableSteady (period : Int) : PtpCapableSchedule → List CapableCall → Prop :=
  Lib.Admissible (fun s call => (capableCall s call).1) fun s call =>
    (capableCall s call).2.isSteady = true ∧ (capableCall s call).1.period = period

/-- The effective period of a schedule that is set up. -/
def PtpAnnounceSchedule.Runs (period : Int) (s : PtpAnnounceSchedule) : Prop :=
  s.initialized = true → s.period = period

instance (period : Int) (s : PtpAnnounceSchedule) : Decidable (s.Runs period) :=
  inferInstanceAs (Decidable (s.initialized = true → s.period = period))

def AnnounceSteady (period : Int) : PtpAnnounceSchedule → List AnnounceCall → Prop :=
  Lib.Admissible (fun s call => (announceCall s call).1) fun s call =>
    (announceCall s call).2.isSteady = true ∧ (announceCall s call).1.Runs period

instance (period : Int) (s : PtpCapableSchedule) (calls : List CapableCall) :
    Decidable (CapableSteady period s calls) := Lib.Admissible.decidable s calls

instance (period : Int) (s : PtpAnnounceSchedule) (calls : List AnnounceCall) :
    Decidable (AnnounceSteady period s calls) := Lib.Admissible.decidable s calls

section Capable

variable {s : PtpCapableSchedule}

/-- A completion moves the deadline only where it changes the period. -/
theorem CapableFinish.steady {token : UInt32} {accepted : Bool} {nowUs : Int}
    {answer : PtpCapableSchedule × Bool} (h : CapableFinish s token accepted nowUs answer)
    (hperiod : answer.1.period = s.period) :
    answer.1.active = s.active ∧ answer.1.nextUs = s.nextUs := by
  cases h with
  | unknown _ => exact ⟨rfl, rfl⟩
  | late _ _ => exact ⟨rfl, rfl⟩
  | @taken interval nextUs _ _ _ _ _ hnext =>
    refine ⟨rfl, ?_⟩
    show nextUs = s.nextUs
    rw [hnext, if_neg fun hmoves => hmoves.1 hperiod]

/-- A bind that starts nothing anew leaves the deadline. -/
theorem rebound_pace {after : PtpCapableSchedule} {period : Int}
    (hsteady : (Report.rebound (decide (after ≠ s))).isSteady = true) :
    PaceStep period s.active s.nextUs (.rebound (decide (after ≠ s))) after.active
      after.nextUs := by
  have hsame : after = s := by simpa [Report.isSteady] using hsteady
  rw [hsame]
  exact .idle fun _ => rfl

theorem capableCall_pace (hs : s.Ok) {call : CapableCall}
    (hsteady : (capableCall s call).2.isSteady = true)
    (hperiod : (capableCall s call).1.period = s.period) :
    PaceStep s.period s.active s.nextUs (capableCall s call).2 (capableCall s call).1.active
      (capableCall s call).1.nextUs := by
  cases call with
  | request request =>
    rcases ptpCapableScheduleRequest_cases s request with hsame | ⟨next, hne, heq⟩
    · simp only [capableCall, hsame]
      exact .idle fun _ => rfl
    · simp [capableCall, heq, hne, Report.isSteady] at hsteady
  | begin enabled nowUs =>
    cases enabled with
    | false => simp [capableCall, Report.isSteady] at hsteady
    | true =>
      by_cases hout : s.period = 0 ∨ nowUs < 0 ∨ nowUs > int64Max - s.period
      · simp only [capableCall, ptpCapableScheduleBegin_out hout, if_true]
        exact .idle fun _ => rfl
      · have hpositive : 0 < s.period := by
          have hnonneg := PtpCapableSchedule.period_nonneg hs.kept
          omega
        obtain ⟨hafter, htoken⟩ := ptpCapableScheduleBegin_in hout
        have hpace := @Outstanding.beginAt_pace transmitLimitUs s.period nowUs s.outstanding
          hpositive
        rw [← hafter, ← htoken] at hpace
        simp only [capableCall, if_true]
        exact hpace
  | finish token accepted nowUs =>
    obtain ⟨hactive, hnext⟩ := (ptpCapableScheduleFinish_spec s token accepted nowUs).steady hperiod
    simp only [capableCall, hactive, hnext]
    exact .idle fun _ => rfl
  | reset => simp [capableCall, Report.isSteady] at hsteady
  | wiredBind record lifecycle identity => exact rebound_pace hsteady
  | neighborBind record association sourceMac identity => exact rebound_pace hsteady

theorem capable_paced {period : Int} (hs : s.Ok) (hperiod : s.period = period)
    {calls : List CapableCall} (hsteady : CapableSteady period s calls) :
    Paced period s.active s.nextUs (capableBeats s calls) := by
  refine paced_beats (P := fun s => s.Ok ∧ s.period = period) ?_ ⟨hs, hperiod⟩ hsteady
  rintro s call ⟨hs, rfl⟩ ⟨hsteady, hafter⟩
  exact ⟨⟨capableCall_ok hs call, hafter⟩, capableCall_pace hs hsteady hafter⟩

end Capable

section Announce

variable {s : PtpAnnounceSchedule} {period initial nowUs : Int} {informationRevision : UInt32}

/-- Only the last completion of a slowdown moves the deadline, and it changes the period. -/
theorem AnnounceFinish.steady {token : UInt32} {accepted : Bool}
    {answer : PtpAnnounceSchedule × Bool} (hs : s.Ok)
    (h : AnnounceFinish s token accepted nowUs answer) (hbefore : s.Runs period)
    (hafter : answer.1.Runs period) :
    answer.1.active = s.active ∧ answer.1.nextUs = s.nextUs := by
  have hkept := hs.kept.step (h.slowdown hs)
  cases h with
  | unknown _ => exact ⟨rfl, rfl⟩
  | late _ _ => exact ⟨rfl, rfl⟩
  | taken _ _ _ _ _ => exact ⟨rfl, rfl⟩
  | @counted nextUs _ _ _ _ _ _ hslowing hnext =>
    have hset : s.initialized = true := by
      cases hfresh : s.initialized with
      | true => rfl
      | false => exact absurd (hs.fresh hfresh).1 hslowing
    have hsame := (hafter hset).trans (hbefore hset).symm
    rw [PtpAnnounceSchedule.period_eq hkept, PtpAnnounceSchedule.period_eq hs.kept] at hsame
    -- Were it the last message, the period would have changed with it.
    have hmore : s.slowdownRemaining - 1 ≠ 0 := by
      intro hlast
      have hone : s.slowdown.remaining = 1 := by
        show s.slowdownRemaining = 1
        omega
      exact hs.kept.count_last hone hsame
    refine ⟨rfl, ?_⟩
    show nextUs = s.nextUs
    rw [hnext, if_neg fun hmoves => hmore hmoves.1]

/-- Setting the schedule up leaves the deadline too. -/
theorem PtpAnnounceSchedule.Ok.initialized_pace (hs : s.Ok) (initial : Int) {r : Report}
    (hr : ∀ deadline, r.beat? deadline = none) :
    PaceStep period s.active s.nextUs r (ptpAnnounceInitialize s initial).1.active
      (ptpAnnounceInitialize s initial).1.nextUs := by
  obtain ⟨-, hflying, -⟩ := hs.initialized initial
  have hactive : (ptpAnnounceInitialize s initial).1.active = s.active :=
    congrArg Outstanding.active hflying
  have hnext : (ptpAnnounceInitialize s initial).1.nextUs = s.nextUs :=
    congrArg Outstanding.next hflying
  rw [hactive, hnext]
  exact .idle hr

theorem AnnounceBegin.pace (hs : s.Ok)
    {answer : PtpAnnounceSchedule × Option (UInt32 × Int × UInt16)}
    (h : AnnounceBegin s initial informationRevision nowUs answer)
    (hquiet : answer.1.informationRevision = s.informationRevision)
    (hafter : answer.1.Runs period) :
    PaceStep period s.active s.nextUs (.begun (answer.2.elim 0 Prod.fst) nowUs false)
      answer.1.active answer.1.nextUs := by
  obtain ⟨hok, hflying, -, hinformation, -⟩ := hs.initialized initial
  have hokAfter := h.ok hs
  cases h with
  | refused => exact .idle fun _ => rfl
  | out hinit =>
    subst hinit
    exact hs.initialized_pace initial fun _ => rfl
  | @begun s₀ flying _ hinit hset hin htaken houtstanding htoken hnow hinterval _ =>
    subst hinit
    obtain ⟨hslowdown, -, hinitialized⟩ := hinterval
    have hsame : answer.1.period = (ptpAnnounceInitialize s initial).1.period := by
      rw [PtpAnnounceSchedule.period_eq hok.kept, PtpAnnounceSchedule.period_eq hokAfter.kept,
        hslowdown]
    have hperiod := hafter (hinitialized.trans hset)
    rw [hsame] at hperiod
    rw [hperiod] at hin houtstanding htoken
    have hpositive : 0 < period := by
      have hnonneg := PtpAnnounceSchedule.period_nonneg hok.kept
      omega
    rw [hnow] at hquiet
    rw [hinformation, hquiet, if_neg (not_not.mpr rfl), hflying] at htaken
    subst htaken
    have hpace := @Outstanding.beginAt_pace transmitLimitUs period nowUs s.outstanding hpositive
    rw [← houtstanding, ← htoken] at hpace
    exact hpace

theorem announceCall_pace (hs : s.Ok) {call : AnnounceCall} (hbefore : s.Runs period)
    (hsteady : (announceCall s call).2.isSteady = true)
    (hafter : (announceCall s call).1.Runs period) :
    PaceStep period s.active s.nextUs (announceCall s call).2 (announceCall s call).1.active
      (announceCall s call).1.nextUs := by
  cases call with
  | request initial request =>
    obtain ⟨-, -, hrevision, -, -⟩ := hs.initialized initial
    rcases ptpAnnounceRequest_cases s initial request with
      hsame | ⟨s₀, rfl, hsetUp | ⟨next, -, -, heq⟩⟩
    · simp only [announceCall, hsame]
      exact .idle fun _ => rfl
    · simp only [announceCall, hsetUp]
      exact hs.initialized_pace initial fun _ => rfl
    · simp [announceCall, heq, hrevision, nextNonzero_ne, Report.isSteady] at hsteady
  | begin initial expectedRevision informationRevision nowUs =>
    simp only [announceCall, Report.isSteady, ne_eq, decide_not, Bool.not_not,
      decide_eq_true_eq] at hsteady ⊢
    rw [decide_eq_true hsteady]
    exact (ptpAnnounceBegin_spec s initial expectedRevision informationRevision nowUs).pace hs
      hsteady hafter
  | finish token accepted nowUs =>
    obtain ⟨hactive, hnext⟩ :=
      (ptpAnnounceFinish_spec s token accepted nowUs).steady hs hbefore hafter
    simp only [announceCall, hactive, hnext]
    exact .idle fun _ => rfl
  | reset => simp [announceCall, Report.isSteady] at hsteady

theorem announce_paced (hs : s.Ok) (hperiod : s.Runs period) {calls : List AnnounceCall}
    (hsteady : AnnounceSteady period s calls) :
    Paced period s.active s.nextUs (announceBeats s calls) := by
  refine paced_beats (P := fun s => s.Ok ∧ s.Runs period) ?_ ⟨hs, hperiod⟩ hsteady
  rintro s call ⟨hs, hbefore⟩ ⟨hsteady, hafter⟩
  exact ⟨⟨announceCall_ok hs call, hafter⟩, announceCall_pace hs hbefore hsteady hafter⟩

end Announce

/-- **Both schedules keep the pace of their period** after every run, for as long as the
    period stays, and compute no time that is not a 64-bit integer. -/
theorem transmit_pace :
    (∀ (before calls : List CapableCall) (period : Int), (capableRun before).period = period →
        CapableSteady period (capableRun before) calls →
        KeepsPace period (capableRun before).active (capableBeats (capableRun before) calls)) ∧
      (∀ (before calls : List AnnounceCall) (period : Int), (announceRun before).Runs period →
        AnnounceSteady period (announceRun before) calls →
        KeepsPace period (announceRun before).active (announceBeats (announceRun before) calls)) ∧
      (∀ (calls : List CapableCall) (nowUs : Int), nowUs ≤ int64Max →
        (∀ enabled, ptpCapableScheduleBeginChecked (capableRun calls) enabled nowUs =
            some (ptpCapableScheduleBegin (capableRun calls) enabled nowUs)) ∧
          ∀ token accepted,
            ptpCapableScheduleFinishChecked (capableRun calls) token accepted nowUs =
              some (ptpCapableScheduleFinish (capableRun calls) token accepted nowUs)) ∧
      ∀ (calls : List AnnounceCall) (nowUs : Int), nowUs ≤ int64Max →
        (∀ initial expectedRevision informationRevision,
          ptpAnnounceBeginChecked (announceRun calls) initial expectedRevision informationRevision
              nowUs =
            some (ptpAnnounceBegin (announceRun calls) initial expectedRevision
              informationRevision nowUs)) ∧
          ∀ token accepted,
            ptpAnnounceFinishChecked (announceRun calls) token accepted nowUs =
              some (ptpAnnounceFinish (announceRun calls) token accepted nowUs) := by
  refine ⟨?_, ?_, ?_, ?_⟩
  · intro before calls period hperiod hsteady
    exact (capable_paced (capableTraced before).ok hperiod hsteady).keepsPace
  · intro before calls period hperiod hsteady
    exact (announce_paced (announceTraced before).ok hperiod hsteady).keepsPace
  · intro calls nowUs hnow
    have hs := (capableTraced calls).ok
    exact ⟨fun enabled => ptpCapableScheduleBeginChecked_eq hs enabled nowUs,
      fun token accepted => ptpCapableScheduleFinishChecked_eq hs token accepted hnow⟩
  · intro calls nowUs hnow
    have hs := (announceTraced calls).ok
    exact ⟨fun initial expectedRevision informationRevision =>
        ptpAnnounceBeginChecked_eq hs initial expectedRevision informationRevision nowUs,
      fun token accepted => ptpAnnounceFinishChecked_eq hs token accepted hnow⟩

/-- Three begins at a second's period, the second of them late; and one at the end of time. -/
theorem transmit_pace_late :
    KeepsPace 1000000 false
        (capableBeats default
          [.begin true 0, .finish 1 true 10, .begin true 1200000, .finish 2 true 1200010,
            .begin true 2000000]) ∧
      KeepsPace 1000000 false
        (announceBeats default
          [.begin 0 0 0 0, .finish 1 true 10, .begin 0 0 0 1200000, .finish 2 true 1200010,
            .begin 0 0 0 2000000]) ∧
      ptpCapableScheduleBeginChecked default true int64Max =
        some (ptpCapableScheduleBegin default true int64Max) ∧
      ptpAnnounceBeginChecked default 0 0 0 int64Max =
        some (ptpAnnounceBegin default 0 0 0 int64Max) :=
  ⟨transmit_pace.1 [] _ 1000000 (by decide) (by decide),
    transmit_pace.2.1 [] _ 1000000 (by decide) (by decide),
    (transmit_pace.2.2.1 [] int64Max (Int.le_refl _)).1 true,
    (transmit_pace.2.2.2 [] int64Max (Int.le_refl _)).1 0 0 0⟩

end EspPtp
