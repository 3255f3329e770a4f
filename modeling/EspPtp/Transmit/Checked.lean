import Mathlib.Tactic.IntervalCases
import EspPtp.Lib.Checked
import EspPtp.Transmit.Soundness

/-!
# The arithmetic of the two transmit schedules

`begin` and `finish` of both schedules once more, with every sum, difference and shift that
the source computes checked to be a 64-bit integer, in the source's order and only where the
source computes it. On every state reached they answer what the functions over all integers
answer.
-/

namespace EspPtp

open Lib

/-! ## The checked functions -/

/-- `pending && (now_us < queued_us || now_us - queued_us < 1000000)`. -/
def transportBusyChecked (pending : UInt32) (queuedUs nowUs : Int) : Option Bool :=
  if pending = 0 then some false
  else if nowUs < queuedUs then some true
  else checked64 (nowUs - queuedUs) fun age => some (decide (age < 1000000))

/-- The next deadline: on the grid, or from the present. -/
def nextDeadlineChecked (period : Int) (active : Bool) (nextUs nowUs : Int) : Option Int :=
  if !active then checked64 (nowUs + period) some
  else
    checked64 (nowUs - nextUs) fun late =>
      if late ≥ period then checked64 (nowUs + period) some else checked64 (nextUs + period) some

/-- `now_us < queued_us || now_us - queued_us >= 1000000`. -/
def transportLateChecked (queuedUs nowUs : Int) : Option Bool :=
  if nowUs < queuedUs then some true
  else checked64 (nowUs - queuedUs) fun age => some (decide (age ≥ 1000000))

/-- `ptp_capable_interval_us`. -/
def ptpCapableIntervalUsChecked (logarithm : Int) : Option Int :=
  if logarithm < -3 ∨ logarithm > 24 then some 0
  else if logarithm < 0 then checked64 (1000000 / 2 ^ (-logarithm).toNat) some
  else checked64 (1000000 * 2 ^ logarithm.toNat) some

/-- `ptp_capable_interval_period`. -/
def ptpCapableIntervalPeriodChecked (state : PtpCapableInterval) : Option Int :=
  if state.logInterval = 127 then some 0
  else if state.slowdownRemaining ≠ 0 then some state.oldIntervalUs
  else ptpCapableIntervalUsChecked state.logInterval

/-- `ptp_capable_schedule_begin`. -/
def ptpCapableScheduleBeginChecked (state : PtpCapableSchedule) (enabled : Bool) (nowUs : Int) :
    Option (PtpCapableSchedule × UInt32) :=
  if !enabled then some ({ state with pending := 0, active := false }, 0)
  else
    (ptpCapableIntervalPeriodChecked state.interval).bind fun period =>
    if period = 0 ∨ nowUs < 0 then some (state, 0)
    else
      checked64 (int64Max - period) fun latest =>
      if nowUs > latest then some (state, 0)
      else
        (transportBusyChecked state.pending state.queuedUs nowUs).bind fun busy =>
        if busy then some (state, 0)
        else
          let state := { state with pending := 0 }
          if state.active ∧ nowUs < state.nextUs then some (state, 0)
          else
            (nextDeadlineChecked period state.active state.nextUs nowUs).bind fun nextUs =>
            let serial := nextNonzero state.serial
            some
              ({ state with
                  nextUs := nextUs
                  queuedUs := nowUs
                  active := true
                  serial := serial
                  pending := serial
                  advertisedInterval := state.interval.logInterval
                  sequence := state.sequence + 1 }, serial)

/-- `ptp_capable_schedule_finish`. -/
def ptpCapableScheduleFinishChecked (state : PtpCapableSchedule) (token : UInt32)
    (accepted : Bool) (nowUs : Int) : Option (PtpCapableSchedule × Bool) :=
  if token = 0 ∨ state.pending ≠ token then some (state, false)
  else
    let state := { state with pending := 0 }
    (transportLateChecked state.queuedUs nowUs).bind fun late =>
    if late then some (state, false)
    else
      (ptpCapableIntervalPeriodChecked state.interval).bind fun previous =>
      let interval :=
        ptpCapableIntervalSent state.interval state.advertisedInterval accepted
      let state := { state with interval := interval }
      (ptpCapableIntervalPeriodChecked interval).bind fun period =>
      if period ≠ previous then
        checked64 (int64Max - period) fun latest =>
        if nowUs ≤ latest then
          checked64 (nowUs + period) fun nextUs => some ({ state with nextUs := nextUs }, true)
        else some (state, true)
      else some (state, true)

/-- `ptp_announce_period_us`; the divisor is a `uint32_t`. -/
def ptpAnnouncePeriodUsChecked (logarithm : Int) : Option Int :=
  if logarithm < -24 ∨ logarithm > 24 then some 0
  else if logarithm ≥ 0 then checked64 (1000000 * 2 ^ logarithm.toNat) some
  else
    let divisor : UInt32 := 1 <<< (UInt32.ofNat (-logarithm).toNat)
    some ((1000000 + divisor - 1) / divisor).toNat

/-- `ptp_announce_effective_period`. -/
def ptpAnnounceEffectivePeriodChecked (state : PtpAnnounceSchedule) : Option Int :=
  if state.logInterval = 127 then some 0
  else if state.slowdownRemaining ≠ 0 then some state.oldPeriodUs
  else ptpAnnouncePeriodUsChecked state.logInterval

/-- `ptp_announce_begin`. -/
def ptpAnnounceBeginChecked (state : PtpAnnounceSchedule) (initial : Int)
    (expectedRevision informationRevision : UInt32) (nowUs : Int) :
    Option (PtpAnnounceSchedule × Option (UInt32 × Int × UInt16)) :=
  if state.revision ≠ expectedRevision then some (state, none)
  else
    let answer := ptpAnnounceInitialize state initial
    let state := answer.1
    if !answer.2 then some (state, none)
    else
      (ptpAnnounceEffectivePeriodChecked state).bind fun period =>
      if period = 0 ∨ nowUs < 0 then some (state, none)
      else
        checked64 (int64Max - period) fun latest =>
        if nowUs > latest then some (state, none)
        else
          let state :=
            if state.informationRevision ≠ informationRevision then
              { state with
                informationRevision := informationRevision, pending := 0, active := false }
            else state
          (transportBusyChecked state.pending state.queuedUs nowUs).bind fun busy =>
          if busy then some (state, none)
          else
            let state := { state with pending := 0 }
            if state.active ∧ nowUs < state.nextUs then some (state, none)
            else
              (nextDeadlineChecked period state.active state.nextUs nowUs).bind fun nextUs =>
              let serial := nextNonzero state.serial
              let sequence := state.sequence + 1
              some
                ({ state with
                    nextUs := nextUs
                    active := true
                    queuedUs := nowUs
                    serial := serial
                    pending := serial
                    pendingLog := state.logInterval
                    sequence := sequence },
                  some (serial, state.logInterval, sequence))

/-- `ptp_announce_finish`. -/
def ptpAnnounceFinishChecked (state : PtpAnnounceSchedule) (token : UInt32) (accepted : Bool)
    (nowUs : Int) : Option (PtpAnnounceSchedule × Bool) :=
  if token = 0 ∨ token ≠ state.pending then some (state, false)
  else
    let state := { state with pending := 0 }
    (transportLateChecked state.queuedUs nowUs).bind fun late =>
    if late then some (state, false)
    else if accepted ∧ state.pendingLog = state.logInterval ∧ state.slowdownRemaining ≠ 0 then
      let state := { state with slowdownRemaining := state.slowdownRemaining - 1 }
      if state.slowdownRemaining = 0 then
        (ptpAnnouncePeriodUsChecked state.logInterval).bind fun period =>
        checked64 (int64Max - period) fun latest =>
        if nowUs ≤ latest then
          checked64 (nowUs + period) fun nextUs => some ({ state with nextUs := nextUs }, true)
        else some (state, true)
      else some (state, true)
    else some (state, true)

/-! ## No overflow -/

section Parts

variable {period queuedUs nextUs nowUs : Int}

theorem transportBusyChecked_eq (pending : UInt32) (hqueued : 0 ≤ queuedUs) (hnow : nowUs ≤ int64Max) :
    transportBusyChecked pending queuedUs nowUs =
      some (decide (pending ≠ 0 ∧ (nowUs < queuedUs ∨ nowUs - queuedUs < 1000000))) := by
  unfold transportBusyChecked
  by_cases hnone : pending = 0
  · simp [hnone]
  · by_cases hearly : nowUs < queuedUs
    · simp [hnone, hearly]
    · have hfits : Fits64 (nowUs - queuedUs) := by
        unfold Fits64 int64Max at *
        omega
      rw [if_neg hnone, if_neg hearly, checked64_of hfits]
      simp [hnone, hearly]

theorem transportLateChecked_eq (hqueued : 0 ≤ queuedUs) (hnow : nowUs ≤ int64Max) :
    transportLateChecked queuedUs nowUs =
      some (decide (nowUs < queuedUs ∨ nowUs - queuedUs ≥ 1000000)) := by
  unfold transportLateChecked
  by_cases hearly : nowUs < queuedUs
  · simp [hearly]
  · have hfits : Fits64 (nowUs - queuedUs) := by
      unfold Fits64 int64Max at *
      omega
    rw [if_neg hearly, checked64_of hfits]
    simp [hearly]

theorem nextDeadlineChecked_eq {active : Bool} (hnext : 0 ≤ nextUs) (hperiod : 0 ≤ period)
    (hnow : 0 ≤ nowUs) (hlatest : nowUs ≤ int64Max - period)
    (hdue : ¬ (active = true ∧ nowUs < nextUs)) :
    nextDeadlineChecked period active nextUs nowUs =
      some (if !active ∨ nowUs - nextUs ≥ period then nowUs + period else nextUs + period) := by
  have hpresent : Fits64 (nowUs + period) := by
    unfold Fits64 int64Max at *
    omega
  unfold nextDeadlineChecked
  cases active with
  | false => exact checked64_of hpresent
  | true =>
    have hpassed : nextUs ≤ nowUs := Int.not_lt.mp fun hlt => hdue ⟨rfl, hlt⟩
    have hlate : Fits64 (nowUs - nextUs) := by
      unfold Fits64 int64Max at *
      omega
    have hgrid : Fits64 (nextUs + period) := by
      unfold Fits64 int64Max at *
      omega
    simp only [Bool.not_true, Bool.false_eq_true, if_false, false_or, checked64_of hlate,
      checked64_of hpresent, checked64_of hgrid]
    split <;> rfl

/-- No period is so long that it does not fit before the end of time. -/
theorem latest_fits (hperiod : 0 ≤ period) (hbound : period ≤ 16777216000000) :
    Fits64 (int64Max - period) := by
  unfold Fits64 int64Max
  omega

/-- The test of a begin for a time it can work with. -/
theorem inTimeChecked_eq {α : Type} {refused : α} {rest : Option α} (hperiod : 0 ≤ period)
    (hbound : period ≤ 16777216000000) :
    (if period = 0 ∨ nowUs < 0 then some refused
      else checked64 (int64Max - period) fun latest =>
        if nowUs > latest then some refused else rest) =
      if period = 0 ∨ nowUs < 0 ∨ nowUs > int64Max - period then some refused else rest := by
  rw [checked64_of (latest_fits hperiod hbound)]
  by_cases hfirst : period = 0 ∨ nowUs < 0
  · rw [if_pos hfirst, if_pos (hfirst.imp_right Or.inl)]
  · rw [if_neg hfirst]
    by_cases hlate : nowUs > int64Max - period
    · rw [if_pos hlate, if_pos (.inr (.inr hlate))]
    · rw [if_neg hlate, if_neg (by omega)]

/-- The deadline a completion sets, if there is room for it. -/
theorem fromNowChecked_eq {α : Type} {moved : Int → α} {kept : α} (hperiod : 0 ≤ period)
    (hbound : period ≤ 16777216000000) (hnow : 0 ≤ nowUs) :
    (checked64 (int64Max - period) fun latest =>
      if nowUs ≤ latest then checked64 (nowUs + period) fun nextUs => some (moved nextUs)
      else some kept) =
      some (if nowUs ≤ int64Max - period then moved (nowUs + period) else kept) := by
  rw [checked64_of (latest_fits hperiod hbound)]
  by_cases hroom : nowUs ≤ int64Max - period
  · have hfits : Fits64 (nowUs + period) := by
      unfold Fits64 int64Max at *
      omega
    rw [if_pos hroom, if_pos hroom, checked64_of hfits]
  · rw [if_neg hroom, if_neg hroom]

end Parts

theorem ptpCapableIntervalUsChecked_eq (logarithm : Int) :
    ptpCapableIntervalUsChecked logarithm = some (ptpCapableIntervalUs logarithm) := by
  have hnonneg := ptpCapableIntervalUs_nonneg logarithm
  have hbound := ptpCapableIntervalUs_le logarithm
  have hfits : Fits64 (ptpCapableIntervalUs logarithm) := by
    unfold Fits64
    omega
  unfold ptpCapableIntervalUsChecked
  unfold ptpCapableIntervalUs at hfits ⊢
  split
  · rfl
  · rename_i hrange
    rw [if_neg hrange] at hfits
    split
    · rename_i hnegative
      rw [if_pos hnegative] at hfits
      exact checked64_of hfits
    · rename_i hpositive
      rw [if_neg hpositive] at hfits
      exact checked64_of hfits

theorem ptpCapableIntervalPeriodChecked_eq (state : PtpCapableInterval) :
    ptpCapableIntervalPeriodChecked state = some (ptpCapableIntervalPeriod state) := by
  unfold ptpCapableIntervalPeriodChecked ptpCapableIntervalPeriod
  rw [ptpCapableIntervalUsChecked_eq]
  split
  · rfl
  · split <;> rfl

/-- Of the divided second the 32-bit sum does not wrap either. -/
theorem ptpAnnouncePeriodUsChecked_eq (logarithm : Int) :
    ptpAnnouncePeriodUsChecked logarithm = some (ptpAnnouncePeriodUs logarithm) := by
  have hnonneg := ptpAnnouncePeriodUs_nonneg logarithm
  have hbound := ptpAnnouncePeriodUs_le logarithm
  have hfits : Fits64 (ptpAnnouncePeriodUs logarithm) := by
    unfold Fits64
    omega
  unfold ptpAnnouncePeriodUsChecked
  unfold ptpAnnouncePeriodUs at hfits ⊢
  split
  · rfl
  · rename_i hrange
    rw [if_neg hrange] at hfits
    split
    · rename_i hpositive
      rw [if_pos hpositive] at hfits
      exact checked64_of hfits
    · rename_i hnegative
      have hlow : -24 ≤ logarithm := by omega
      have hhigh : logarithm ≤ -1 := by omega
      clear hfits hbound hnonneg
      interval_cases logarithm <;> rfl

theorem ptpAnnounceEffectivePeriodChecked_eq (state : PtpAnnounceSchedule) :
    ptpAnnounceEffectivePeriodChecked state = some (ptpAnnounceEffectivePeriod state) := by
  unfold ptpAnnounceEffectivePeriodChecked ptpAnnounceEffectivePeriod
  rw [ptpAnnouncePeriodUsChecked_eq]
  split
  · rfl
  · split <;> rfl

section Capable

variable {s : PtpCapableSchedule}

theorem PtpCapableSchedule.Ok.period_fits (hs : s.Ok) :
    0 ≤ s.period ∧ s.period ≤ 16777216000000 := by
  have hbound := ptpCapableIntervalUs_le s.interval.logInterval
  refine ⟨PtpCapableSchedule.period_nonneg hs.kept, ?_⟩
  rw [PtpCapableSchedule.period_eq hs.kept]
  exact Int.le_trans hs.kept.effective_le hbound

theorem ptpCapableScheduleBeginChecked_eq (hs : s.Ok) (enabled : Bool) (nowUs : Int) :
    ptpCapableScheduleBeginChecked s enabled nowUs =
      some (ptpCapableScheduleBegin s enabled nowUs) := by
  obtain ⟨hnonneg, hbound⟩ := hs.period_fits
  have hqueued : 0 ≤ s.queuedUs := hs.within.queued.1
  have hnext : 0 ≤ s.nextUs := hs.within.next.1
  unfold ptpCapableScheduleBeginChecked
  rw [ptpCapableIntervalPeriodChecked_eq, Option.bind_some,
    show ptpCapableIntervalPeriod s.interval = s.period from rfl]
  cases enabled with
  | false => rfl
  | true =>
    simp only [Bool.not_true, Bool.false_eq_true, if_false]
    rw [inTimeChecked_eq hnonneg hbound]
    by_cases hout : s.period = 0 ∨ nowUs < 0 ∨ nowUs > int64Max - s.period
    · rw [ptpCapableScheduleBegin_out hout, if_pos hout]
    · have hbegin : ptpCapableScheduleBegin s true nowUs = _ := if_neg hout
      rw [if_neg hout, hbegin, transportBusyChecked_eq s.pending hqueued (by omega),
        Option.bind_some]
      by_cases hbusy : s.pending ≠ 0 ∧ (nowUs < s.queuedUs ∨ nowUs - s.queuedUs < 1000000)
      · rw [if_pos (decide_eq_true hbusy), if_pos hbusy]
      · rw [if_neg (by rw [decide_eq_false hbusy]; decide), if_neg hbusy]
        dsimp only
        by_cases hdue : s.active = true ∧ nowUs < s.nextUs
        · rw [if_pos hdue, if_pos hdue]
        · rw [if_neg hdue, if_neg hdue,
            nextDeadlineChecked_eq hnext hnonneg (by omega) (by omega) hdue]
          rfl

theorem ptpCapableScheduleFinishChecked_eq (hs : s.Ok) (token : UInt32) (accepted : Bool)
    {nowUs : Int} (hnow : nowUs ≤ int64Max) :
    ptpCapableScheduleFinishChecked s token accepted nowUs =
      some (ptpCapableScheduleFinish s token accepted nowUs) := by
  have hqueued : 0 ≤ s.queuedUs := hs.within.queued.1
  have hafter := (ptpCapableScheduleFinish_spec s token accepted nowUs).ok hs
  unfold ptpCapableScheduleFinishChecked
  unfold ptpCapableScheduleFinish at hafter ⊢
  by_cases hunknown : token = 0 ∨ s.pending ≠ token
  · rw [if_pos hunknown, if_pos hunknown]
  · rw [if_neg hunknown] at hafter
    rw [if_neg hunknown, if_neg hunknown]
    dsimp only at hafter ⊢
    rw [transportLateChecked_eq hqueued hnow, Option.bind_some]
    by_cases hlate : nowUs < s.queuedUs ∨ nowUs - s.queuedUs ≥ 1000000
    · rw [if_pos (decide_eq_true hlate), if_pos hlate]
    · rw [if_neg hlate] at hafter
      rw [if_neg (by rw [decide_eq_false hlate]; decide), if_neg hlate,
        ptpCapableIntervalPeriodChecked_eq, ptpCapableIntervalPeriodChecked_eq, Option.bind_some,
        Option.bind_some]
      -- The period it runs at from now on is one of those a schedule can have.
      have hperiod : 0 ≤ ptpCapableIntervalPeriod
            (ptpCapableIntervalSent s.interval s.advertisedInterval accepted) ∧
          ptpCapableIntervalPeriod
            (ptpCapableIntervalSent s.interval s.advertisedInterval accepted) ≤ 16777216000000 := by
        have hfits := hafter.period_fits
        split at hfits <;> exact hfits
      generalize ptpCapableIntervalPeriod
        (ptpCapableIntervalSent s.interval s.advertisedInterval accepted) = period at hperiod ⊢
      by_cases hchanged : period ≠ ptpCapableIntervalPeriod s.interval
      · rw [if_pos hchanged, fromNowChecked_eq hperiod.1 hperiod.2 (by omega)]
        simp only [ne_eq, hchanged, not_false_iff, true_and]
      · rw [if_neg hchanged, if_neg fun h => hchanged h.1]

end Capable

section Announce

variable {s : PtpAnnounceSchedule}

theorem PtpAnnounceSchedule.Ok.period_fits (hs : s.Ok) :
    0 ≤ s.period ∧ s.period ≤ 16777216000000 := by
  have hbound := ptpAnnouncePeriodUs_le s.logInterval
  refine ⟨PtpAnnounceSchedule.period_nonneg hs.kept, ?_⟩
  rw [PtpAnnounceSchedule.period_eq hs.kept]
  exact Int.le_trans hs.kept.effective_le hbound

theorem ptpAnnounceBeginChecked_eq (hs : s.Ok) (initial : Int)
    (expectedRevision informationRevision : UInt32) (nowUs : Int) :
    ptpAnnounceBeginChecked s initial expectedRevision informationRevision nowUs =
      some (ptpAnnounceBegin s initial expectedRevision informationRevision nowUs) := by
  obtain ⟨hok, -⟩ := hs.initialized initial
  unfold ptpAnnounceBeginChecked ptpAnnounceBegin
  by_cases hstale : s.revision ≠ expectedRevision
  · rw [if_pos hstale, if_pos hstale]
  · rw [if_neg hstale, if_neg hstale]
    dsimp only
    by_cases hrefused : (!(ptpAnnounceInitialize s initial).2) = true
    · rw [if_pos hrefused, if_pos hrefused]
    · rw [if_neg hrefused, if_neg hrefused]
      generalize (ptpAnnounceInitialize s initial).1 = s₀ at hok ⊢
      obtain ⟨hnonneg, hbound⟩ := hok.period_fits
      rw [ptpAnnounceEffectivePeriodChecked_eq, Option.bind_some,
        show ptpAnnounceEffectivePeriod s₀ = s₀.period from rfl, inTimeChecked_eq hnonneg hbound]
      by_cases hout : s₀.period = 0 ∨ nowUs < 0 ∨ nowUs > int64Max - s₀.period
      · rw [if_pos hout, if_pos hout]
      · rw [if_neg hout, if_neg hout]
        generalize htaken : (if s₀.informationRevision ≠ informationRevision then
          { s₀ with informationRevision := informationRevision, pending := 0, active := false }
          else s₀) = s₁
        have hwithin : 0 ≤ s₁.queuedUs ∧ 0 ≤ s₁.nextUs := by
          have hbefore : 0 ≤ s₀.queuedUs ∧ 0 ≤ s₀.nextUs :=
            ⟨hok.within.queued.1, hok.within.next.1⟩
          rw [← htaken]
          split <;> exact hbefore
        rw [transportBusyChecked_eq s₁.pending hwithin.1 (by omega), Option.bind_some]
        by_cases hbusy : s₁.pending ≠ 0 ∧ (nowUs < s₁.queuedUs ∨ nowUs - s₁.queuedUs < 1000000)
        · rw [if_pos (decide_eq_true hbusy), if_pos hbusy]
        · rw [if_neg (by rw [decide_eq_false hbusy]; decide), if_neg hbusy]
          by_cases hdue : s₁.active = true ∧ nowUs < s₁.nextUs
          · rw [if_pos hdue, if_pos hdue]
          · rw [if_neg hdue, if_neg hdue,
              nextDeadlineChecked_eq hwithin.2 hnonneg (by omega) (by omega) hdue]
            rfl

theorem ptpAnnounceFinishChecked_eq (hs : s.Ok) (token : UInt32) (accepted : Bool)
    {nowUs : Int} (hnow : nowUs ≤ int64Max) :
    ptpAnnounceFinishChecked s token accepted nowUs =
      some (ptpAnnounceFinish s token accepted nowUs) := by
  have hqueued : 0 ≤ s.queuedUs := hs.within.queued.1
  unfold ptpAnnounceFinishChecked ptpAnnounceFinish
  split
  · rfl
  · dsimp only
    rw [transportLateChecked_eq hqueued hnow, Option.bind_some]
    by_cases hlate : nowUs < s.queuedUs ∨ nowUs - s.queuedUs ≥ 1000000
    · rw [if_pos (decide_eq_true hlate), if_pos hlate]
    · rw [if_neg (by rw [decide_eq_false hlate]; decide), if_neg hlate]
      split
      · have hnonneg := ptpAnnouncePeriodUs_nonneg s.logInterval
        have hbound := ptpAnnouncePeriodUs_le s.logInterval
        rw [ptpAnnouncePeriodUsChecked_eq, Option.bind_some]
        generalize ptpAnnouncePeriodUs s.logInterval = period at hnonneg hbound ⊢
        by_cases hlast : s.slowdownRemaining - 1 = 0
        · rw [if_pos hlast, fromNowChecked_eq hnonneg hbound (by omega)]
          simp only [hlast, true_and]
        · rw [if_neg hlast, if_neg fun h => hlast h.1]
      · rfl

end Announce

end EspPtp
