import EspPtp.Transmit.Capable

/-!
# Runs of the Announce schedule

The schedule of Announce transmissions to a station, told like that of capability messages.
It was written on its own: it is set up with a first interval by whoever comes first, takes
a begin only under the revision its caller saw, and gives up what is in flight when there is
something new to announce. What it does to the work in flight and to the period is what the
other one does.
-/

namespace EspPtp

open Lib

/-- A call that touches an Announce schedule. -/
inductive AnnounceCall where
  | request (initial request : Int)
  | begin (initial : Int) (expectedRevision informationRevision : UInt32) (nowUs : Int)
  | finish (token : UInt32) (accepted : Bool) (nowUs : Int)
  /-- `ptp_announce_reset`, in `ptp_reset_for_profile` and `ptp_wifi_peers_capable`. -/
  | reset

/-- One call, and what it said. The revision moves with every change of the interval. -/
def announceCall (s : PtpAnnounceSchedule) : AnnounceCall → PtpAnnounceSchedule × Report
  | .request initial request =>
    let answer := ptpAnnounceRequest s initial request
    (answer.1, .requested (decide (answer.1.revision ≠ s.revision)))
  | .begin initial expectedRevision informationRevision nowUs =>
    let answer := ptpAnnounceBegin s initial expectedRevision informationRevision nowUs
    (answer.1,
      .begun (answer.2.elim 0 Prod.fst) nowUs
        (decide (answer.1.informationRevision ≠ s.informationRevision)))
  | .finish token accepted nowUs =>
    let answer := ptpAnnounceFinish s token accepted nowUs
    (answer.1, .finished token accepted nowUs answer.2)
  | .reset => (ptpAnnounceReset s, .rebound true)

/-- A zeroed schedule after some calls, and what they said. -/
def announceRun (calls : List AnnounceCall) : PtpAnnounceSchedule := run announceCall default calls

def announceReports (calls : List AnnounceCall) : List Report :=
  (trace announceCall default calls).map Prod.snd

namespace PtpAnnounceSchedule

/-- What the schedule keeps of the work in flight. -/
def outstanding (s : PtpAnnounceSchedule) : Outstanding :=
  ⟨s.serial, s.pending, s.queuedUs, s.nextUs, s.active⟩

/-- What it keeps of the interval asked for. -/
def slowdown (s : PtpAnnounceSchedule) : Slowdown :=
  ⟨s.slowdownRemaining, s.oldPeriodUs, ptpAnnouncePeriodUs s.logInterval⟩

/-- The effective period. -/
def period (s : PtpAnnounceSchedule) : Int := ptpAnnounceEffectivePeriod s

/-- What holds of every schedule reached. -/
structure Ok (s : PtpAnnounceSchedule) : Prop where
  kept : s.slowdown.Kept 3
  fresh : s.initialized = false → s.slowdownRemaining = 0 ∧ s.pending = 0
  advertised : s.pending ≠ 0 → s.pendingLog = s.logInterval
  within : s.outstanding.Within int64Max

end PtpAnnounceSchedule

/-! ## Intervals -/

theorem ptpAnnouncePeriodUs_nonneg (logarithm : Int) : 0 ≤ ptpAnnouncePeriodUs logarithm := by
  unfold ptpAnnouncePeriodUs
  split
  · exact Int.le_refl 0
  · split
    · exact Int.mul_nonneg (by decide) (Int.pow_nonneg (by decide))
    · have hpos : (0 : Int) < 2 ^ (-logarithm).toNat := Int.pow_pos (by decide)
      exact Int.ediv_nonneg (by omega) (Int.le_of_lt hpos)

/-- No interval is longer than `2 ^ 24` seconds. -/
theorem ptpAnnouncePeriodUs_le (logarithm : Int) :
    ptpAnnouncePeriodUs logarithm ≤ 16777216000000 := by
  unfold ptpAnnouncePeriodUs
  split
  · decide
  · split
    · have hpow := two_pow_le (n := logarithm.toNat) (by omega)
      omega
    · have hpos : (0 : Int) < 2 ^ (-logarithm).toNat := Int.pow_pos (by decide)
      have hpow := two_pow_le (n := (-logarithm).toNat) (by omega)
      exact Int.le_trans (Int.ediv_le_self _ (by omega)) (by omega)

section Operations

variable {s : PtpAnnounceSchedule} {initial : Int}

theorem announce_slowdown_nonneg (s : PtpAnnounceSchedule) : 0 ≤ s.slowdown.target :=
  ptpAnnouncePeriodUs_nonneg s.logInterval

/-- The effective period is that of the slowdown; a stopped schedule has none. -/
theorem PtpAnnounceSchedule.period_eq (h : s.slowdown.Kept 3) :
    s.period = s.slowdown.effective := by
  unfold PtpAnnounceSchedule.period ptpAnnounceEffectivePeriod
  split
  · rename_i hstopped
    have htarget : s.slowdown.target = 0 := by
      simp [PtpAnnounceSchedule.slowdown, hstopped, ptpAnnouncePeriodUs]
    exact (h.effective_stopped htarget).symm
  · rfl

theorem PtpAnnounceSchedule.period_nonneg (h : s.slowdown.Kept 3) : 0 ≤ s.period := by
  rw [period_eq h]
  exact h.effective_nonneg

/-! ## The operations -/

/-- Setting up does nothing to a schedule that is set up already. -/
theorem ptpAnnounceInitialize_cases (s : PtpAnnounceSchedule) (initial : Int) :
    (ptpAnnounceInitialize s initial).1 = s ∨
      s.initialized = false ∧
        (ptpAnnounceInitialize s initial).1 =
          { s with initialized := true, initialLog := initial, logInterval := initial } := by
  unfold ptpAnnounceInitialize
  split
  · exact .inl rfl
  · split
    · exact .inl rfl
    · rename_i hfresh
      exact .inr ⟨Bool.eq_false_iff.mpr hfresh, rfl⟩

theorem ptpAnnounceInitialize_initialized
    (h : (ptpAnnounceInitialize s initial).2 = true) :
    (ptpAnnounceInitialize s initial).1.initialized = true := by
  unfold ptpAnnounceInitialize at h ⊢
  split at h
  · cases h
  · rename_i hsupported
    rw [if_neg hsupported]
    split
    · assumption
    · rfl

/-- A schedule set up for its interval. -/
theorem PtpAnnounceSchedule.Ok.initialized (hs : s.Ok) (initial : Int) :
    (ptpAnnounceInitialize s initial).1.Ok ∧
      (ptpAnnounceInitialize s initial).1.outstanding = s.outstanding ∧
      (ptpAnnounceInitialize s initial).1.revision = s.revision ∧
      (ptpAnnounceInitialize s initial).1.informationRevision = s.informationRevision ∧
      ((ptpAnnounceInitialize s initial).1.slowdown = s.slowdown ∨
        s.initialized = false ∧
          (ptpAnnounceInitialize s initial).1.slowdownRemaining = 0) := by
  rcases ptpAnnounceInitialize_cases s initial with hsame | ⟨hfresh, heq⟩
  · rw [hsame]
    exact ⟨hs, rfl, rfl, rfl, .inl rfl⟩
  · obtain ⟨hsettled, hnone⟩ := hs.fresh hfresh
    rw [heq]
    refine ⟨?_, rfl, rfl, rfl, .inr ⟨hfresh, hsettled⟩⟩
    exact
      { kept := .of_settled hsettled (announce_slowdown_nonneg _)
        fresh := fun h => Bool.noConfusion h
        advertised := fun hne => absurd hnone hne
        within := hs.within }

/-- A request leaves the schedule but for setting it up, or replaces its interval and forgets
    what is in flight. -/
theorem ptpAnnounceRequest_cases (s : PtpAnnounceSchedule) (initial request : Int) :
    (ptpAnnounceRequest s initial request).1 = s ∨
      ∃ s₀, s₀ = (ptpAnnounceInitialize s initial).1 ∧
        ((ptpAnnounceRequest s initial request).1 = s₀ ∨
          ∃ next, s₀.initialized = true ∧ next ≠ s₀.logInterval ∧
            (ptpAnnounceRequest s initial request).1 =
              { s₀ with
                logInterval := next
                oldPeriodUs := s₀.period
                slowdownRemaining :=
                  if s₀.period ≠ 0 ∧ ptpAnnouncePeriodUs next > s₀.period then 3 else 0
                pending := 0
                active := false
                revision := nextNonzero s₀.revision }) := by
  unfold ptpAnnounceRequest
  by_cases hunsupported : request ≠ -128 ∧ request ≠ 126 ∧ request ≠ 127 ∧
      (request < -24 ∨ request > 24)
  · rw [if_pos hunsupported]
    exact .inl rfl
  · rw [if_neg hunsupported]
    refine .inr ⟨_, rfl, ?_⟩
    dsimp only
    by_cases hrefused : (!(ptpAnnounceInitialize s initial).2) = true
    · rw [if_pos hrefused]
      exact .inl rfl
    · have hset := ptpAnnounceInitialize_initialized (by simpa using hrefused)
      rw [if_neg hrefused]
      by_cases hkeep : request = -128
      · rw [if_pos hkeep]
        exact .inl rfl
      · rw [if_neg hkeep]
        -- The interval that is asked for: the first one by name, and no faster one than it.
        generalize (if (if request = 126 then initial else request) ≠ 127 ∧
            (if request = 126 then initial else request) < initial then initial
          else if request = 126 then initial else request) = asked
        split
        · exact .inl rfl
        · rename_i hother
          exact .inr ⟨asked, hset, hother, rfl⟩

/-- What a begin does: it is refused, possibly once the schedule is set up, or it hands out
    the next piece of work, if that is due or there is something new to announce. -/
inductive AnnounceBegin (s : PtpAnnounceSchedule) (initial : Int) (informationRevision : UInt32)
    (nowUs : Int) : PtpAnnounceSchedule × Option (UInt32 × Int × UInt16) → Prop
  | refused : AnnounceBegin s initial informationRevision nowUs (s, none)
  | out {s₀ : PtpAnnounceSchedule} (hinit : s₀ = (ptpAnnounceInitialize s initial).1) :
      AnnounceBegin s initial informationRevision nowUs (s₀, none)
  | begun {s₀ : PtpAnnounceSchedule} {flying : Outstanding}
      {answer : PtpAnnounceSchedule × Option (UInt32 × Int × UInt16)}
      (hinit : s₀ = (ptpAnnounceInitialize s initial).1) (hset : s₀.initialized = true)
      (hin : ¬ (s₀.period = 0 ∨ nowUs < 0 ∨ nowUs > int64Max - s₀.period))
      (hflying : flying =
        if s₀.informationRevision ≠ informationRevision then s₀.outstanding.overtaken
        else s₀.outstanding)
      (houtstanding : answer.1.outstanding = (flying.beginAt transmitLimitUs s₀.period nowUs).1)
      (htoken : answer.2.elim 0 Prod.fst = (flying.beginAt transmitLimitUs s₀.period nowUs).2)
      (hinformation : answer.1.informationRevision = informationRevision)
      (hinterval : answer.1.slowdown = s₀.slowdown ∧ answer.1.logInterval = s₀.logInterval ∧
        answer.1.initialized = s₀.initialized)
      (hadvertised : answer.1.pending ≠ 0 →
        answer.1.pendingLog = s₀.logInterval ∨
          s₀.pending ≠ 0 ∧ answer.1.pendingLog = s₀.pendingLog) :
      AnnounceBegin s initial informationRevision nowUs answer

/-- Taking news overtakes what is in flight, and leaves the interval. -/
theorem newsTaken {s₀ s₁ : PtpAnnounceSchedule} {informationRevision : UInt32}
    (h : (if s₀.informationRevision ≠ informationRevision then
      { s₀ with informationRevision := informationRevision, pending := 0, active := false }
      else s₀) = s₁) :
    s₁.outstanding =
        (if s₀.informationRevision ≠ informationRevision then s₀.outstanding.overtaken
        else s₀.outstanding) ∧
      s₁.informationRevision = informationRevision ∧
      ((s₁.slowdown = s₀.slowdown ∧ s₁.logInterval = s₀.logInterval ∧
          s₁.initialized = s₀.initialized) ∧ s₁.pendingLog = s₀.pendingLog) ∧
      (s₁.pending ≠ 0 → s₀.pending ≠ 0) := by
  by_cases hnews : s₀.informationRevision ≠ informationRevision
  · rw [if_pos hnews] at h ⊢
    subst h
    exact ⟨rfl, rfl, ⟨⟨rfl, rfl, rfl⟩, rfl⟩, fun hne => absurd rfl hne⟩
  · rw [if_neg hnews] at h ⊢
    subst h
    exact ⟨rfl, not_not.mp hnews, ⟨⟨rfl, rfl, rfl⟩, rfl⟩, id⟩

theorem ptpAnnounceBegin_spec (s : PtpAnnounceSchedule) (initial : Int)
    (expectedRevision informationRevision : UInt32) (nowUs : Int) :
    AnnounceBegin s initial informationRevision nowUs
      (ptpAnnounceBegin s initial expectedRevision informationRevision nowUs) := by
  unfold ptpAnnounceBegin
  by_cases hstale : s.revision ≠ expectedRevision
  · rw [if_pos hstale]
    exact .refused
  · rw [if_neg hstale]
    dsimp only
    by_cases hrefused : (!(ptpAnnounceInitialize s initial).2) = true
    · rw [if_pos hrefused]
      exact .out rfl
    · have hset := ptpAnnounceInitialize_initialized (by simpa using hrefused)
      rw [if_neg hrefused, show ptpAnnounceEffectivePeriod (ptpAnnounceInitialize s initial).1 =
        (ptpAnnounceInitialize s initial).1.period from rfl]
      by_cases hout : (ptpAnnounceInitialize s initial).1.period = 0 ∨ nowUs < 0 ∨
          nowUs > int64Max - (ptpAnnounceInitialize s initial).1.period
      · rw [if_pos hout]
        exact .out rfl
      · rw [if_neg hout]
        generalize hinit : (ptpAnnounceInitialize s initial).1 = s₀ at hout hset ⊢
        -- The schedule once it has taken the news, if it is news.
        generalize htaken : (if s₀.informationRevision ≠ informationRevision then
          { s₀ with informationRevision := informationRevision, pending := 0, active := false }
          else s₀) = s₁
        obtain ⟨hflying, hinformation, hinterval, hpending⟩ := newsTaken htaken
        by_cases hbusy : s₁.pending ≠ 0 ∧
            (nowUs < s₁.queuedUs ∨ nowUs - s₁.queuedUs < transmitLimitUs)
        · rw [if_pos hbusy]
          refine .begun hinit.symm hset hout hflying ?_ ?_ hinformation hinterval.1 ?_
          · rw [Outstanding.beginAt_busy hbusy]
          · rw [Outstanding.beginAt_busy hbusy]
            rfl
          · exact fun hne => .inr ⟨hpending hne, hinterval.2⟩
        · rw [if_neg hbusy]
          by_cases hearly : s₁.active = true ∧ nowUs < s₁.nextUs
          · rw [if_pos hearly]
            refine .begun hinit.symm hset hout hflying ?_ ?_ hinformation hinterval.1 ?_
            · rw [Outstanding.beginAt_early hbusy hearly]
              rfl
            · rw [Outstanding.beginAt_early hbusy hearly]
              rfl
            · exact fun hne => absurd rfl hne
          · rw [if_neg hearly]
            refine .begun hinit.symm hset hout hflying ?_ ?_ hinformation hinterval.1 ?_
            · rw [Outstanding.beginAt_due hbusy hearly]
              rfl
            · rw [Outstanding.beginAt_due hbusy hearly]
              rfl
            · exact fun _ => .inl hinterval.1.2.1

/-- What a completion does: it is refused, or it is taken, and then counts for the slowdown
    if it succeeded. The last of the slowdown moves the deadline. -/
inductive AnnounceFinish (s : PtpAnnounceSchedule) (token : UInt32) (accepted : Bool)
    (nowUs : Int) : PtpAnnounceSchedule × Bool → Prop
  | unknown (h : token = 0 ∨ s.pending ≠ token) : AnnounceFinish s token accepted nowUs (s, false)
  | late (hpending : s.pending = token) (h : nowUs < s.queuedUs ∨ s.queuedUs + 1000000 ≤ nowUs) :
      AnnounceFinish s token accepted nowUs ({ s with pending := 0 }, false)
  | taken (hpending : s.pending = token) (hne : token ≠ 0) (hissued : s.queuedUs ≤ nowUs)
      (hlimit : nowUs < s.queuedUs + 1000000)
      (hquiet : accepted = false ∨ s.pendingLog ≠ s.logInterval ∨ s.slowdownRemaining = 0) :
      AnnounceFinish s token accepted nowUs ({ s with pending := 0 }, true)
  | counted {nextUs : Int} (hpending : s.pending = token) (hne : token ≠ 0)
      (hissued : s.queuedUs ≤ nowUs) (hlimit : nowUs < s.queuedUs + 1000000)
      (haccepted : accepted = true) (hlog : s.pendingLog = s.logInterval)
      (hslowing : s.slowdownRemaining ≠ 0)
      (hnext : nextUs =
        if s.slowdownRemaining - 1 = 0 ∧
            nowUs ≤ int64Max - ptpAnnouncePeriodUs s.logInterval then
          nowUs + ptpAnnouncePeriodUs s.logInterval
        else s.nextUs) :
      AnnounceFinish s token accepted nowUs
        ({ s with
            slowdownRemaining := s.slowdownRemaining - 1, pending := 0, nextUs := nextUs }, true)

theorem ptpAnnounceFinish_spec (s : PtpAnnounceSchedule) (token : UInt32) (accepted : Bool)
    (nowUs : Int) :
    AnnounceFinish s token accepted nowUs (ptpAnnounceFinish s token accepted nowUs) := by
  unfold ptpAnnounceFinish
  split
  · rename_i hunknown
    exact .unknown (hunknown.imp_right Ne.symm)
  · rename_i hknown
    rw [not_or, not_ne_iff] at hknown
    dsimp only
    split
    · exact .late hknown.2.symm (by omega)
    · split
      · rename_i hcounts
        split
        · rename_i hmoves
          exact .counted hknown.2.symm hknown.1 (by omega) (by omega) hcounts.1 hcounts.2.1
            hcounts.2.2 (if_pos hmoves).symm
        · rename_i hstays
          exact .counted hknown.2.symm hknown.1 (by omega) (by omega) hcounts.1 hcounts.2.1
            hcounts.2.2 (if_neg hstays).symm
      · rename_i hquiet
        refine .taken hknown.2.symm hknown.1 (by omega) (by omega) ?_
        rw [not_and_or, not_and_or, Bool.not_eq_true, not_not] at hquiet
        exact hquiet

/-- In terms of the work in flight. -/
theorem AnnounceFinish.outstanding {token : UInt32} {accepted : Bool} {nowUs : Int}
    {answer : PtpAnnounceSchedule × Bool} (h : AnnounceFinish s token accepted nowUs answer) :
    answer.2 = (s.outstanding.finishAt transmitLimitUs token nowUs).2 ∧
      answer.1.outstanding =
        { (s.outstanding.finishAt transmitLimitUs token nowUs).1 with next := answer.1.nextUs } := by
  cases h with
  | unknown hunknown =>
    rw [Outstanding.finishAt_unknown hunknown]
    exact ⟨rfl, rfl⟩
  | late hpending hlate =>
    rw [Outstanding.finishAt_late hpending hlate]
    exact ⟨rfl, rfl⟩
  | taken hpending hne hissued hlimit _ =>
    rw [Outstanding.finishAt_taken hpending hne hissued hlimit]
    exact ⟨rfl, rfl⟩
  | counted hpending hne hissued hlimit _ _ _ _ =>
    rw [Outstanding.finishAt_taken hpending hne hissued hlimit]
    exact ⟨rfl, rfl⟩

/-- In terms of the period. -/
theorem AnnounceFinish.slowdown {token : UInt32} {accepted : Bool} {nowUs : Int}
    {answer : PtpAnnounceSchedule × Bool} (hs : s.Ok)
    (h : AnnounceFinish s token accepted nowUs answer) :
    s.slowdown.Step 3 (.finished token accepted nowUs answer.2) answer.1.slowdown := by
  cases h with
  | unknown _ => exact .quiet (by simp [Report.isQuiet])
  | late _ _ => exact .quiet (by simp [Report.isQuiet])
  | taken hpending hne _ _ hquiet =>
    rcases hquiet with rfl | hlog | hsettled
    · exact .quiet rfl
    · exact absurd (hs.advertised (by rw [hpending]; exact hne)) hlog
    · exact .settled hsettled (announce_slowdown_nonneg s)
  | counted _ _ _ _ haccepted _ _ _ =>
    subst haccepted
    exact .counted token nowUs

/-- Only the last of a slowdown moves the deadline, and then past the present. -/
theorem AnnounceFinish.next {token : UInt32} {accepted : Bool} {nowUs : Int}
    {answer : PtpAnnounceSchedule × Bool} (h : AnnounceFinish s token accepted nowUs answer) :
    (answer.2 = false → answer.1.nextUs = s.nextUs) ∧
      (answer.1.nextUs = s.nextUs ∨
        nowUs ≤ answer.1.nextUs ∧ answer.1.nextUs ≤ int64Max) := by
  cases h with
  | unknown _ => exact ⟨fun _ => rfl, .inl rfl⟩
  | late _ _ => exact ⟨fun _ => rfl, .inl rfl⟩
  | taken _ _ _ _ _ => exact ⟨fun _ => rfl, .inl rfl⟩
  | @counted nextUs _ _ _ _ _ _ _ hnext =>
    have hperiod := ptpAnnouncePeriodUs_nonneg s.logInterval
    refine ⟨fun hfalse => Bool.noConfusion hfalse, ?_⟩
    show nextUs = s.nextUs ∨ nowUs ≤ nextUs ∧ nextUs ≤ int64Max
    rw [hnext]
    split
    · exact .inr (by omega)
    · exact .inl rfl

end Operations

/-! ## Every call is a step -/

section Steps

variable {s : PtpAnnounceSchedule} {initial nowUs : Int} {informationRevision : UInt32}
  {answer : PtpAnnounceSchedule × Option (UInt32 × Int × UInt16)}

theorem AnnounceBegin.step (hs : s.Ok)
    (h : AnnounceBegin s initial informationRevision nowUs answer) :
    s.outstanding.Step transmitLimitUs
      (.begun (answer.2.elim 0 Prod.fst) nowUs
        (decide (answer.1.informationRevision ≠ s.informationRevision)))
      answer.1.outstanding := by
  obtain ⟨hok, hflying, -, hinformation, -⟩ := hs.initialized initial
  cases h with
  | refused =>
    simp only [ne_eq, not_true, decide_false]
    exact .refused nowUs
  | out hinit =>
    subst hinit
    simp only [hinformation, hflying, ne_eq, not_true, decide_false]
    exact .refused nowUs
  | @begun s₀ flying _ hinit _ hin htaken hafter htoken hnow _ _ =>
    subst hinit
    have hperiod : 0 < (ptpAnnounceInitialize s initial).1.period := by
      have hnonneg := PtpAnnounceSchedule.period_nonneg hok.kept
      omega
    rw [hinformation, hflying] at htaken
    rw [hafter, htoken, hnow]
    by_cases hnews : s.informationRevision ≠ informationRevision
    · rw [if_pos hnews] at htaken
      rw [decide_eq_true hnews.symm, htaken]
      exact Outstanding.overtaken_step hperiod
    · rw [if_neg hnews] at htaken
      rw [not_not.mp hnews, htaken, decide_eq_false (not_not.mpr rfl)]
      exact Outstanding.beginAt_step hperiod

theorem AnnounceBegin.slowdown (hs : s.Ok)
    (h : AnnounceBegin s initial informationRevision nowUs answer) (r : Report)
    (hquiet : r.isQuiet = true) : s.slowdown.Step 3 r answer.1.slowdown := by
  obtain ⟨hok, -, -, -, hslowdown⟩ := hs.initialized initial
  have hsetUp : s.slowdown.Step 3 r (ptpAnnounceInitialize s initial).1.slowdown := by
    rcases hslowdown with hsame | ⟨-, hsettled⟩
    · rw [hsame]
      exact .quiet hquiet
    · exact .settled hsettled hok.kept.nonneg
  cases h with
  | refused => exact .quiet hquiet
  | out hinit =>
    subst hinit
    exact hsetUp
  | begun hinit _ _ _ _ _ _ hinterval _ =>
    subst hinit
    rw [hinterval.1]
    exact hsetUp

theorem AnnounceBegin.ok (hs : s.Ok)
    (h : AnnounceBegin s initial informationRevision nowUs answer) : answer.1.Ok := by
  obtain ⟨hok, -⟩ := hs.initialized initial
  cases h with
  | refused => exact hs
  | out hinit =>
    subst hinit
    exact hok
  | @begun s₀ flying _ hinit hset hin htaken hafter _ _ hinterval hadvertised =>
    subst hinit
    obtain ⟨hslowdown, hlog, hinitialized⟩ := hinterval
    have hnonneg := PtpAnnounceSchedule.period_nonneg hok.kept
    refine { kept := ?_, fresh := ?_, advertised := ?_, within := ?_ }
    · rw [hslowdown]
      exact hok.kept
    · intro hfresh
      rw [hinitialized, hset] at hfresh
      cases hfresh
    · intro hne
      rw [hlog]
      rcases hadvertised hne with hnow | ⟨hflying, hsame⟩
      · exact hnow
      · rw [hsame]
        exact hok.advertised hflying
    · have hwithin : flying.Within int64Max := by
        rw [htaken]
        split
        · exact ⟨hok.within.queued, hok.within.next⟩
        · exact hok.within
      rw [hafter]
      exact hwithin.beginAt (by omega) (by omega) (by omega)

theorem AnnounceFinish.ok {token : UInt32} {accepted : Bool}
    {answer : PtpAnnounceSchedule × Bool} (hs : s.Ok)
    (h : AnnounceFinish s token accepted nowUs answer) : answer.1.Ok := by
  have hkept := hs.kept.step (h.slowdown hs)
  have hnext := h.next.2
  cases h with
  | unknown _ => exact hs
  | late _ _ =>
    exact
      { kept := hkept
        fresh := fun hfresh => ⟨(hs.fresh hfresh).1, rfl⟩
        advertised := fun hne => absurd rfl hne
        within := ⟨hs.within.queued, hs.within.next⟩ }
  | taken _ _ _ _ _ =>
    exact
      { kept := hkept
        fresh := fun hfresh => ⟨(hs.fresh hfresh).1, rfl⟩
        advertised := fun hne => absurd rfl hne
        within := ⟨hs.within.queued, hs.within.next⟩ }
  | counted _ _ hissued _ _ _ hslowing _ =>
    exact
      { kept := hkept
        fresh := fun hfresh => absurd (hs.fresh hfresh).1 hslowing
        advertised := fun hne => absurd rfl hne
        within := hs.within.moved hissued hnext }

/-- **What a call does to the work in flight.** -/
theorem announceCall_step (hs : s.Ok) (call : AnnounceCall) :
    s.outstanding.Step transmitLimitUs (announceCall s call).2
      (announceCall s call).1.outstanding := by
  cases call with
  | request initial request =>
    obtain ⟨-, hflying, hrevision, -, -⟩ := hs.initialized initial
    rcases ptpAnnounceRequest_cases s initial request with
      hsame | ⟨s₀, rfl, hsetUp | ⟨next, hset, -, heq⟩⟩
    · simp only [announceCall, hsame, ne_eq, not_true, decide_false]
      exact .unchanged
    · simp only [announceCall, hsetUp, hrevision, hflying, ne_eq, not_true, decide_false]
      exact .unchanged
    · simp only [announceCall, heq, hrevision, ne_eq, nextNonzero_ne, not_false_iff, decide_true]
      have hchanged := @Outstanding.Step.changed transmitLimitUs s.outstanding
      rw [← hflying] at hchanged ⊢
      exact hchanged
  | begin initial expectedRevision informationRevision nowUs =>
    exact (ptpAnnounceBegin_spec s initial expectedRevision informationRevision nowUs).step hs
  | finish token accepted nowUs =>
    have hspec := ptpAnnounceFinish_spec s token accepted nowUs
    obtain ⟨hcounted, hafter⟩ := hspec.outstanding
    obtain ⟨hkept, hmoved⟩ := hspec.next
    rw [hcounted] at hkept
    simp only [announceCall, hcounted, hafter]
    exact Outstanding.finishAt_step token accepted hkept (hmoved.imp_right And.left)
  | reset => exact .reset

/-- **What it does to the period.** -/
theorem announceCall_slowdown (hs : s.Ok) (call : AnnounceCall) :
    s.slowdown.Step 3 (announceCall s call).2 (announceCall s call).1.slowdown := by
  cases call with
  | request initial request =>
    obtain ⟨hok, -, hrevision, -, hslowdown⟩ := hs.initialized initial
    rcases ptpAnnounceRequest_cases s initial request with
      hsame | ⟨s₀, rfl, hsetUp | ⟨next, hset, -, heq⟩⟩
    · simp only [announceCall, hsame, ne_eq, not_true, decide_false]
      exact .quiet rfl
    · simp only [announceCall, hsetUp, hrevision, ne_eq, not_true, decide_false]
      rcases hslowdown with hsame | ⟨-, hsettled⟩
      · rw [hsame]
        exact .quiet rfl
      · exact .settled hsettled hok.kept.nonneg
    · simp only [announceCall, heq, hrevision, ne_eq, nextNonzero_ne, not_false_iff, decide_true]
      rw [PtpAnnounceSchedule.period_eq hok.kept]
      exact .requested (hslowdown.imp_right fun h => ⟨h.2, hok.kept.nonneg⟩)
        (ptpAnnouncePeriodUs_nonneg next)
  | begin initial expectedRevision informationRevision nowUs =>
    exact (ptpAnnounceBegin_spec s initial expectedRevision informationRevision nowUs).slowdown hs
      _ rfl
  | finish token accepted nowUs =>
    exact (ptpAnnounceFinish_spec s token accepted nowUs).slowdown hs
  | reset => exact .settled rfl (announce_slowdown_nonneg _)

theorem PtpAnnounceSchedule.reset_ok (s : PtpAnnounceSchedule) : (ptpAnnounceReset s).Ok where
  kept := .of_settled rfl (announce_slowdown_nonneg _)
  fresh _ := ⟨rfl, rfl⟩
  advertised hne := absurd rfl hne
  within := ⟨⟨Int.le_refl 0, int64Max_nonneg⟩, ⟨Int.le_refl 0, int64Max_nonneg⟩⟩

theorem announceCall_ok (hs : s.Ok) (call : AnnounceCall) : (announceCall s call).1.Ok := by
  cases call with
  | request initial request =>
    have hkept := hs.kept.step (announceCall_slowdown hs (.request initial request))
    obtain ⟨hok, -⟩ := hs.initialized initial
    show (ptpAnnounceRequest s initial request).1.Ok
    rcases ptpAnnounceRequest_cases s initial request with
      hsame | ⟨s₀, rfl, hsetUp | ⟨next, hset, -, heq⟩⟩
    · rw [hsame]
      exact hs
    · rw [hsetUp]
      exact hok
    · change (ptpAnnounceRequest s initial request).1.slowdown.Kept 3 at hkept
      rw [heq] at hkept ⊢
      exact
        { kept := hkept
          fresh := fun hfresh => Bool.noConfusion (hset.symm.trans hfresh)
          advertised := fun hne => absurd rfl hne
          within := ⟨hok.within.queued, hok.within.next⟩ }
  | begin initial expectedRevision informationRevision nowUs =>
    exact (ptpAnnounceBegin_spec s initial expectedRevision informationRevision nowUs).ok hs
  | finish token accepted nowUs => exact (ptpAnnounceFinish_spec s token accepted nowUs).ok hs
  | reset => exact s.reset_ok

end Steps

/-! ## Every run -/

/-- What holds of a schedule and of what was said of it. -/
structure AnnounceTraced (h : List Report) (s : PtpAnnounceSchedule) : Prop where
  ok : s.Ok
  traced : Outstanding.Traced transmitLimitUs h s.outstanding
  promised : Promised 3 h s.slowdown

theorem AnnounceTraced.call {h : List Report} {s : PtpAnnounceSchedule} (hs : AnnounceTraced h s)
    (call : AnnounceCall) :
    AnnounceTraced (h ++ [(announceCall s call).2]) (announceCall s call).1 where
  ok := announceCall_ok hs.ok call
  traced := hs.traced.step (announceCall_step hs.ok call)
  promised := hs.promised.step (announceCall_slowdown hs.ok call)

theorem announceTraced (calls : List AnnounceCall) :
    AnnounceTraced (announceReports calls) (announceRun calls) := by
  refine run_induction (P := fun h s => AnnounceTraced (h.map Prod.snd) s) ?_ ?_ calls
  · exact
      { ok :=
          { kept := .of_settled rfl (announce_slowdown_nonneg _)
            fresh := fun _ => ⟨rfl, rfl⟩
            advertised := fun hne => absurd rfl hne
            within := ⟨⟨Int.le_refl 0, int64Max_nonneg⟩, ⟨Int.le_refl 0, int64Max_nonneg⟩⟩ }
        traced := .start
        promised := .of_settled rfl }
  · intro h s call hs
    rw [List.map_append]
    exact hs.call call

end EspPtp
