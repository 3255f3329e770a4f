import EspPtp.Capable.Wired
import EspPtp.Lib.Slowdown
import EspPtp.Wifi.Neighbor

/-!
# Runs of the capability schedule

Everything that touches a `ptp_capable_schedule_t`: its own three operations, and the places
that start it anew and keep its serial number — `ptp_reset_for_profile`,
`ptp_wifi_peers_capable`, `ptp_wired_capable_bind` and `ptp_wifi_neighbor_bind`. A call of the
last two is told by the rest of the record it is made on, so that whether it resets is left
to the source's own tests.

What the schedule keeps is an `Outstanding` and a `Slowdown`; the operations are those of the
library on the two, and that is all the rest of the development uses.
-/

namespace EspPtp

open Lib

/-- The age at which work in flight is given up, and from which a completion is refused. -/
abbrev transmitLimitUs : Int := 1000000

/-- A call that touches a capability schedule. -/
inductive CapableCall where
  | request (request : Int)
  | begin (enabled : Bool) (nowUs : Int)
  | finish (token : UInt32) (accepted : Bool) (nowUs : Int)
  /-- `ptp_reset_for_profile`, and `ptp_wifi_peers_capable` under another port identity. -/
  | reset
  | wiredBind (record : PtpWiredCapable) (lifecycle : UInt32) (identity : Option PortIdentity)
  | neighborBind (record : PtpWifiNeighbor) (association : UInt32) (sourceMac : MacAddr)
      (identity : PortIdentity)

/-- One call, and what it said. -/
def capableCall (s : PtpCapableSchedule) : CapableCall → PtpCapableSchedule × Report
  | .request request =>
    let answer := ptpCapableScheduleRequest s request
    (answer.1, .requested (decide (answer.1.interval.logInterval ≠ s.interval.logInterval)))
  | .begin enabled nowUs =>
    let answer := ptpCapableScheduleBegin s enabled nowUs
    (answer.1, if enabled then .begun answer.2 nowUs false else .disabled)
  | .finish token accepted nowUs =>
    let answer := ptpCapableScheduleFinish s token accepted nowUs
    (answer.1, .finished token accepted nowUs answer.2)
  | .reset => (s.restarted, .rebound true)
  | .wiredBind record lifecycle identity =>
    let after := (ptpWiredCapableBind { record with transmit := s } lifecycle identity).transmit
    (after, .rebound (decide (after ≠ s)))
  | .neighborBind record association sourceMac identity =>
    let after :=
      (ptpWifiNeighborBind { record with transmit := s } association sourceMac identity).1.transmit
    (after, .rebound (decide (after ≠ s)))

/-- A zeroed schedule after some calls, and what they said. -/
def capableRun (calls : List CapableCall) : PtpCapableSchedule := run capableCall default calls

def capableReports (calls : List CapableCall) : List Report :=
  (trace capableCall default calls).map Prod.snd

namespace PtpCapableSchedule

/-- What the schedule keeps of the work in flight. -/
def outstanding (s : PtpCapableSchedule) : Outstanding :=
  ⟨s.serial, s.pending, s.queuedUs, s.nextUs, s.active⟩

/-- What it keeps of the interval asked for. -/
def slowdown (s : PtpCapableSchedule) : Slowdown :=
  ⟨s.interval.slowdownRemaining, s.interval.oldIntervalUs,
    ptpCapableIntervalUs s.interval.logInterval⟩

/-- The effective period. -/
def period (s : PtpCapableSchedule) : Int := ptpCapableIntervalPeriod s.interval

end PtpCapableSchedule

/-! ## Intervals -/

theorem ptpCapableIntervalUs_nonneg (logarithm : Int) : 0 ≤ ptpCapableIntervalUs logarithm := by
  unfold ptpCapableIntervalUs
  split
  · exact Int.le_refl 0
  · split
    · exact Int.ediv_nonneg (by decide) (Int.pow_nonneg (by decide))
    · exact Int.mul_nonneg (by decide) (Int.pow_nonneg (by decide))

theorem two_pow_le {n : Nat} (h : n ≤ 24) : (2 : Int) ^ n ≤ 16777216 := by
  have hpow : 2 ^ n ≤ 2 ^ 24 := Nat.pow_le_pow_right (by decide) h
  have hcast : ((2 ^ n : Nat) : Int) ≤ ((2 ^ 24 : Nat) : Int) := Int.ofNat_le.mpr hpow
  simpa using hcast

/-- No interval is longer than `2 ^ 24` seconds. -/
theorem ptpCapableIntervalUs_le (logarithm : Int) :
    ptpCapableIntervalUs logarithm ≤ 16777216000000 := by
  unfold ptpCapableIntervalUs
  split
  · decide
  · split
    · exact Int.le_trans (Int.ediv_le_self _ (by decide)) (by decide)
    · have hpow := two_pow_le (n := logarithm.toNat) (by omega)
      omega

/-- A request that is not taken up leaves the interval; one that is replaces it. -/
theorem ptpCapableIntervalRequest_cases (state : PtpCapableInterval) (request : Int) :
    (ptpCapableIntervalRequest state request).1 = state ∨
      ∃ next, next ≠ state.logInterval ∧
        (ptpCapableIntervalRequest state request).2 = true ∧
        (ptpCapableIntervalRequest state request).1 =
          { logInterval := next
            slowdownRemaining :=
              if ptpCapableIntervalPeriod state ≠ 0 ∧
                ptpCapableIntervalUs next > ptpCapableIntervalPeriod state then 9 else 0
            oldIntervalUs := ptpCapableIntervalPeriod state } := by
  simp only [ptpCapableIntervalRequest]
  -- The interval that is asked for, once the reserved and the too fast ones are replaced.
  generalize (if (if request = 126 then 0 else request) ≥ -24 ∧
      (if request = 126 then 0 else request) < -3 then -3
    else if request = 126 then 0 else request) = asked
  split
  · exact .inl rfl
  · split
    · exact .inl rfl
    · split
      · exact .inl rfl
      · rename_i hother
        exact .inr ⟨asked, hother, rfl, rfl⟩

/-! ## The operations -/

section Operations

variable {s : PtpCapableSchedule}

/-- What holds of every schedule reached. -/
structure PtpCapableSchedule.Ok (s : PtpCapableSchedule) : Prop where
  kept : s.slowdown.Kept 9
  advertised : s.pending ≠ 0 → s.advertisedInterval = s.interval.logInterval
  within : s.outstanding.Within int64Max

theorem slowdown_nonneg (s : PtpCapableSchedule) : 0 ≤ s.slowdown.target :=
  ptpCapableIntervalUs_nonneg s.interval.logInterval

theorem int64Max_nonneg : 0 ≤ int64Max := by decide

/-- The effective period is that of the slowdown; a stopped schedule has none. -/
theorem PtpCapableSchedule.period_eq (h : s.slowdown.Kept 9) :
    s.period = s.slowdown.effective := by
  unfold PtpCapableSchedule.period ptpCapableIntervalPeriod
  split
  · rename_i hstopped
    have htarget : s.slowdown.target = 0 := by
      simp [PtpCapableSchedule.slowdown, hstopped, ptpCapableIntervalUs]
    exact (h.effective_stopped htarget).symm
  · rfl

theorem PtpCapableSchedule.period_nonneg (h : s.slowdown.Kept 9) : 0 ≤ s.period := by
  rw [period_eq h]
  exact h.effective_nonneg

/-- A request leaves the schedule, or replaces its interval and forgets what is in flight. -/
theorem ptpCapableScheduleRequest_cases (s : PtpCapableSchedule) (request : Int) :
    (ptpCapableScheduleRequest s request).1 = s ∨
      ∃ next, next ≠ s.interval.logInterval ∧
        (ptpCapableScheduleRequest s request).1 =
          { s with
            interval :=
              { logInterval := next
                slowdownRemaining :=
                  if s.period ≠ 0 ∧ ptpCapableIntervalUs next > s.period then 9 else 0
                oldIntervalUs := s.period }
            pending := 0
            active := false } := by
  unfold ptpCapableScheduleRequest
  dsimp only
  rcases ptpCapableIntervalRequest_cases s.interval request with hsame | ⟨next, hne, htaken, heq⟩
  · rw [hsame]
    split
    · exact .inl rfl
    · rw [if_neg (not_not.mpr rfl)]
      exact .inl rfl
  · rw [htaken, heq]
    refine .inr ⟨next, hne, ?_⟩
    rw [if_neg (by decide), if_pos hne]
    rfl

/-- Out of range, or without a period, a begin does nothing. -/
theorem ptpCapableScheduleBegin_out {nowUs : Int}
    (hout : s.period = 0 ∨ nowUs < 0 ∨ nowUs > int64Max - s.period) :
    ptpCapableScheduleBegin s true nowUs = (s, 0) := by
  unfold ptpCapableScheduleBegin
  exact if_pos hout

/-- Otherwise it hands out the next piece of work, if that is due. -/
theorem ptpCapableScheduleBegin_in {nowUs : Int}
    (hin : ¬ (s.period = 0 ∨ nowUs < 0 ∨ nowUs > int64Max - s.period)) :
    (ptpCapableScheduleBegin s true nowUs).1.outstanding =
        (s.outstanding.beginAt transmitLimitUs s.period nowUs).1 ∧
      (ptpCapableScheduleBegin s true nowUs).2 =
        (s.outstanding.beginAt transmitLimitUs s.period nowUs).2 := by
  have hbegin : ptpCapableScheduleBegin s true nowUs = _ := if_neg hin
  rw [hbegin]
  by_cases hbusy : s.pending ≠ 0 ∧ (nowUs < s.queuedUs ∨ nowUs - s.queuedUs < transmitLimitUs)
  · rw [Outstanding.beginAt_busy hbusy, if_pos hbusy]
    exact ⟨rfl, rfl⟩
  · rw [if_neg hbusy]
    by_cases hearly : s.active = true ∧ nowUs < s.nextUs
    · rw [Outstanding.beginAt_early hbusy hearly]
      dsimp only
      rw [if_pos hearly]
      exact ⟨rfl, rfl⟩
    · rw [Outstanding.beginAt_due hbusy hearly]
      dsimp only
      rw [if_neg hearly]
      exact ⟨rfl, rfl⟩

/-- It leaves the interval. -/
theorem ptpCapableScheduleBegin_interval (s : PtpCapableSchedule) (enabled : Bool)
    (nowUs : Int) : (ptpCapableScheduleBegin s enabled nowUs).1.interval = s.interval := by
  unfold ptpCapableScheduleBegin
  dsimp only
  split
  · rfl
  · split
    · rfl
    · split
      · rfl
      · split <;> rfl

/-- Work is handed out at the interval in force. -/
theorem ptpCapableScheduleBegin_advertised (hs : s.Ok) (enabled : Bool) (nowUs : Int) :
    (ptpCapableScheduleBegin s enabled nowUs).1.pending ≠ 0 →
      (ptpCapableScheduleBegin s enabled nowUs).1.advertisedInterval = s.interval.logInterval := by
  unfold ptpCapableScheduleBegin
  dsimp only
  split
  · intro hne
    exact absurd rfl hne
  · split
    · exact hs.advertised
    · split
      · exact hs.advertised
      · split
        · intro hne
          exact absurd rfl hne
        · exact fun _ => rfl

theorem ptpCapableScheduleBegin_ok (hs : s.Ok) (enabled : Bool) (nowUs : Int) :
    (ptpCapableScheduleBegin s enabled nowUs).1.Ok where
  kept := by
    rw [PtpCapableSchedule.slowdown, ptpCapableScheduleBegin_interval]
    exact hs.kept
  advertised := by
    rw [ptpCapableScheduleBegin_interval]
    exact ptpCapableScheduleBegin_advertised hs enabled nowUs
  within := by
    cases enabled with
    | false => exact ⟨hs.within.queued, hs.within.next⟩
    | true =>
      by_cases hout : s.period = 0 ∨ nowUs < 0 ∨ nowUs > int64Max - s.period
      · rw [ptpCapableScheduleBegin_out hout]
        exact hs.within
      · have hnonneg := PtpCapableSchedule.period_nonneg hs.kept
        rw [(ptpCapableScheduleBegin_in hout).1]
        exact hs.within.beginAt (by omega) (by omega) (by omega)

/-- What a completion does: it is refused, or it is taken, and then counts for the slowdown
    if it succeeded. The deadline moves with the period. -/
inductive CapableFinish (s : PtpCapableSchedule) (token : UInt32) (accepted : Bool) (nowUs : Int) :
    PtpCapableSchedule × Bool → Prop
  | unknown (h : token = 0 ∨ s.pending ≠ token) : CapableFinish s token accepted nowUs (s, false)
  | late (hpending : s.pending = token) (h : nowUs < s.queuedUs ∨ s.queuedUs + 1000000 ≤ nowUs) :
      CapableFinish s token accepted nowUs ({ s with pending := 0 }, false)
  | taken {interval : PtpCapableInterval} {nextUs : Int} (hpending : s.pending = token)
      (hne : token ≠ 0) (hissued : s.queuedUs ≤ nowUs) (hlimit : nowUs < s.queuedUs + 1000000)
      (hinterval : interval = ptpCapableIntervalSent s.interval s.advertisedInterval accepted)
      (hnext : nextUs =
        if ptpCapableIntervalPeriod interval ≠ s.period ∧
            nowUs ≤ int64Max - ptpCapableIntervalPeriod interval then
          nowUs + ptpCapableIntervalPeriod interval
        else s.nextUs) :
      CapableFinish s token accepted nowUs
        ({ s with interval := interval, pending := 0, nextUs := nextUs }, true)

theorem ptpCapableScheduleFinish_spec (s : PtpCapableSchedule) (token : UInt32)
    (accepted : Bool) (nowUs : Int) :
    CapableFinish s token accepted nowUs (ptpCapableScheduleFinish s token accepted nowUs) := by
  by_cases hunknown : token = 0 ∨ s.pending ≠ token
  · have hfinish : ptpCapableScheduleFinish s token accepted nowUs = _ := if_pos hunknown
    rw [hfinish]
    exact .unknown hunknown
  · have hfinish : ptpCapableScheduleFinish s token accepted nowUs = _ := if_neg hunknown
    rw [hfinish]
    rw [not_or, not_ne_iff] at hunknown
    by_cases hlate : nowUs < s.queuedUs ∨ nowUs - s.queuedUs ≥ 1000000
    · dsimp only
      rw [if_pos hlate]
      exact .late hunknown.2 (by omega)
    · dsimp only
      rw [if_neg hlate]
      split
      · rename_i hmoves
        exact .taken hunknown.2 hunknown.1 (by omega) (by omega) rfl (if_pos hmoves).symm
      · rename_i hstays
        exact .taken hunknown.2 hunknown.1 (by omega) (by omega) rfl (if_neg hstays).symm

/-- In terms of the work in flight. -/
theorem CapableFinish.outstanding {token : UInt32} {accepted : Bool} {nowUs : Int}
    {answer : PtpCapableSchedule × Bool} (h : CapableFinish s token accepted nowUs answer) :
    answer.2 = (s.outstanding.finishAt transmitLimitUs token nowUs).2 ∧
      answer.1.outstanding =
        { (s.outstanding.finishAt transmitLimitUs token nowUs).1 with next := answer.1.nextUs } := by
  cases h with
  | unknown hunknown =>
    rw [Outstanding.finishAt_unknown hunknown]
    exact ⟨rfl, rfl⟩
  | late hpending hlate =>
    rw [Outstanding.finishAt_late hpending hlate]
    exact ⟨rfl, rfl⟩
  | taken hpending hne hissued hlimit _ _ =>
    rw [Outstanding.finishAt_taken hpending hne hissued hlimit]
    exact ⟨rfl, rfl⟩

/-- A message of the interval in force counts for the slowdown. -/
theorem ptpCapableIntervalSent_own (state : PtpCapableInterval) (accepted : Bool) :
    ptpCapableIntervalSent state state.logInterval accepted =
      if accepted then { state with slowdownRemaining := state.slowdownRemaining - 1 }
      else state := by
  cases accepted with
  | false => rfl
  | true =>
    by_cases hsettled : state.slowdownRemaining = 0
    · simp [ptpCapableIntervalSent, hsettled]
      rw [← hsettled]
    · simp [ptpCapableIntervalSent, hsettled]

/-- In terms of the period. -/
theorem CapableFinish.slowdown {token : UInt32} {accepted : Bool} {nowUs : Int}
    {answer : PtpCapableSchedule × Bool} (hs : s.Ok)
    (h : CapableFinish s token accepted nowUs answer) :
    s.slowdown.Step 9 (.finished token accepted nowUs answer.2) answer.1.slowdown := by
  cases h with
  | unknown _ => exact .quiet (by simp [Report.isQuiet])
  | late _ _ => exact .quiet (by simp [Report.isQuiet])
  | taken hpending hne _ _ hinterval _ =>
    rw [hs.advertised (by rw [hpending]; exact hne), ptpCapableIntervalSent_own] at hinterval
    subst hinterval
    cases accepted with
    | false => exact .quiet rfl
    | true => exact .counted token nowUs

/-- Only a completion that was taken moves the deadline, and then past the present. -/
theorem CapableFinish.next {token : UInt32} {accepted : Bool} {nowUs : Int}
    {answer : PtpCapableSchedule × Bool} (hs : s.Ok)
    (h : CapableFinish s token accepted nowUs answer) :
    (answer.2 = false → answer.1.nextUs = s.nextUs) ∧
      (answer.1.nextUs = s.nextUs ∨
        nowUs ≤ answer.1.nextUs ∧ answer.1.nextUs ≤ int64Max) := by
  have hkept := hs.kept.step (h.slowdown hs)
  cases h with
  | unknown _ => exact ⟨fun _ => rfl, .inl rfl⟩
  | late _ _ => exact ⟨fun _ => rfl, .inl rfl⟩
  | @taken interval nextUs _ _ _ _ hinterval hnext =>
    have hperiod : 0 ≤ ptpCapableIntervalPeriod interval :=
      PtpCapableSchedule.period_nonneg hkept
    refine ⟨fun hfalse => Bool.noConfusion hfalse, ?_⟩
    show nextUs = s.nextUs ∨ nowUs ≤ nextUs ∧ nextUs ≤ int64Max
    rw [hnext]
    split
    · exact .inr (by omega)
    · exact .inl rfl

theorem CapableFinish.ok {token : UInt32} {accepted : Bool} {nowUs : Int}
    {answer : PtpCapableSchedule × Bool} (hs : s.Ok)
    (h : CapableFinish s token accepted nowUs answer) : answer.1.Ok := by
  have hkept := hs.kept.step (h.slowdown hs)
  have hnext := (h.next hs).2
  cases h with
  | unknown _ => exact hs
  | late _ _ =>
    exact
      { kept := hkept
        advertised := fun hne => absurd rfl hne
        within := ⟨hs.within.queued, hs.within.next⟩ }
  | taken _ _ hissued _ _ _ =>
    exact
      { kept := hkept
        advertised := fun hne => absurd rfl hne
        within := hs.within.moved hissued hnext }

end Operations

/-! ## The places that start a schedule anew -/

theorem ptpWiredCapableBind_transmit (record : PtpWiredCapable) (lifecycle : UInt32)
    (identity : Option PortIdentity) :
    (ptpWiredCapableBind record lifecycle identity).transmit = record.transmit ∨
      (ptpWiredCapableBind record lifecycle identity).transmit = record.transmit.restarted := by
  unfold ptpWiredCapableBind
  cases identity with
  | none =>
    dsimp only
    split
    · exact .inr rfl
    · exact .inl rfl
  | some identity =>
    dsimp only
    split
    · exact .inr rfl
    · exact .inl rfl

theorem ptpWifiNeighborBind_transmit (record : PtpWifiNeighbor) (association : UInt32)
    (sourceMac : MacAddr) (identity : PortIdentity) :
    (ptpWifiNeighborBind record association sourceMac identity).1.transmit = record.transmit ∨
      (ptpWifiNeighborBind record association sourceMac identity).1.transmit =
        record.transmit.restarted := by
  unfold ptpWifiNeighborBind
  split
  · exact .inl rfl
  · dsimp only
    split
    · exact .inr rfl
    · exact .inl rfl

/-! ## Every call is a step -/

section Steps

variable {s after : PtpCapableSchedule}

/-- What a call that may start the schedule anew says. -/
theorem rebound_step (h : after = s ∨ after = s.restarted) :
    s.outstanding.Step transmitLimitUs (.rebound (decide (after ≠ s))) after.outstanding := by
  by_cases hsame : after = s
  · subst hsame
    simp only [ne_eq, not_true, decide_false]
    exact .kept
  · have hrestarted := h.resolve_left hsame
    subst hrestarted
    simp only [ne_eq, hsame, not_false_iff, decide_true]
    exact .reset

theorem rebound_slowdown (h : after = s ∨ after = s.restarted) :
    s.slowdown.Step 9 (.rebound (decide (after ≠ s))) after.slowdown := by
  rcases h with rfl | rfl
  · exact .quiet rfl
  · exact .settled rfl (slowdown_nonneg _)

theorem PtpCapableSchedule.restarted_ok (s : PtpCapableSchedule) : s.restarted.Ok where
  kept := .of_settled rfl (slowdown_nonneg _)
  advertised hne := absurd rfl hne
  within := ⟨⟨Int.le_refl 0, int64Max_nonneg⟩, ⟨Int.le_refl 0, int64Max_nonneg⟩⟩

theorem rebound_ok (hs : s.Ok) (h : after = s ∨ after = s.restarted) : after.Ok := by
  rcases h with rfl | rfl
  · exact hs
  · exact s.restarted_ok

/-- **What a call does to the work in flight.** -/
theorem capableCall_step (hs : s.Ok) (call : CapableCall) :
    s.outstanding.Step transmitLimitUs (capableCall s call).2 (capableCall s call).1.outstanding := by
  cases call with
  | request request =>
    rcases ptpCapableScheduleRequest_cases s request with hsame | ⟨next, hne, heq⟩
    · simp only [capableCall, hsame, ne_eq, not_true, decide_false]
      exact .unchanged
    · simp only [capableCall, heq, ne_eq, hne, not_false_iff, decide_true]
      exact .changed
  | begin enabled nowUs =>
    cases enabled with
    | false => exact .disabled
    | true =>
      by_cases hout : s.period = 0 ∨ nowUs < 0 ∨ nowUs > int64Max - s.period
      · simp only [capableCall, ptpCapableScheduleBegin_out hout, if_true]
        exact .refused nowUs
      · obtain ⟨hafter, htoken⟩ := ptpCapableScheduleBegin_in hout
        have hperiod : 0 < s.period := by
          have hnonneg := PtpCapableSchedule.period_nonneg hs.kept
          omega
        simp only [capableCall, if_true, hafter, htoken]
        exact Outstanding.beginAt_step hperiod
  | finish token accepted nowUs =>
    have hspec := ptpCapableScheduleFinish_spec s token accepted nowUs
    obtain ⟨hcounted, hafter⟩ := hspec.outstanding
    obtain ⟨hkept, hmoved⟩ := hspec.next hs
    rw [hcounted] at hkept
    simp only [capableCall, hcounted, hafter]
    exact Outstanding.finishAt_step token accepted hkept (hmoved.imp_right And.left)
  | reset => exact .reset
  | wiredBind record lifecycle identity =>
    exact rebound_step (ptpWiredCapableBind_transmit { record with transmit := s } lifecycle identity)
  | neighborBind record association sourceMac identity =>
    exact rebound_step
      (ptpWifiNeighborBind_transmit { record with transmit := s } association sourceMac identity)

/-- **What it does to the period.** -/
theorem capableCall_slowdown (hs : s.Ok) (call : CapableCall) :
    s.slowdown.Step 9 (capableCall s call).2 (capableCall s call).1.slowdown := by
  cases call with
  | request request =>
    rcases ptpCapableScheduleRequest_cases s request with hsame | ⟨next, hne, heq⟩
    · simp only [capableCall, hsame, ne_eq, not_true, decide_false]
      exact .quiet rfl
    · simp only [capableCall, heq, ne_eq, hne, not_false_iff, decide_true]
      rw [PtpCapableSchedule.period_eq hs.kept]
      exact .requested (.inl rfl) (ptpCapableIntervalUs_nonneg next)
  | begin enabled nowUs =>
    have hsame : (capableCall s (.begin enabled nowUs)).1.slowdown = s.slowdown := by
      simp only [capableCall, PtpCapableSchedule.slowdown, ptpCapableScheduleBegin_interval]
    rw [hsame]
    cases enabled <;> exact .quiet rfl
  | finish token accepted nowUs =>
    exact (ptpCapableScheduleFinish_spec s token accepted nowUs).slowdown hs
  | reset => exact .settled rfl (slowdown_nonneg _)
  | wiredBind record lifecycle identity =>
    exact rebound_slowdown
      (ptpWiredCapableBind_transmit { record with transmit := s } lifecycle identity)
  | neighborBind record association sourceMac identity =>
    exact rebound_slowdown
      (ptpWifiNeighborBind_transmit { record with transmit := s } association sourceMac identity)

theorem capableCall_ok (hs : s.Ok) (call : CapableCall) : (capableCall s call).1.Ok := by
  cases call with
  | request request =>
    have hkept := hs.kept.step (capableCall_slowdown hs (.request request))
    rcases ptpCapableScheduleRequest_cases s request with hsame | ⟨next, -, heq⟩
    · show (ptpCapableScheduleRequest s request).1.Ok
      rw [hsame]
      exact hs
    · refine { kept := hkept, advertised := ?_, within := ?_ }
      · show (ptpCapableScheduleRequest s request).1.pending ≠ 0 → _
        rw [heq]
        exact fun hne => absurd rfl hne
      · show (ptpCapableScheduleRequest s request).1.outstanding.Within int64Max
        rw [heq]
        exact ⟨hs.within.queued, hs.within.next⟩
  | begin enabled nowUs => exact ptpCapableScheduleBegin_ok hs enabled nowUs
  | finish token accepted nowUs =>
    exact (ptpCapableScheduleFinish_spec s token accepted nowUs).ok hs
  | reset => exact rebound_ok hs (.inr rfl)
  | wiredBind record lifecycle identity =>
    exact rebound_ok hs
      (ptpWiredCapableBind_transmit { record with transmit := s } lifecycle identity)
  | neighborBind record association sourceMac identity =>
    exact rebound_ok hs
      (ptpWifiNeighborBind_transmit { record with transmit := s } association sourceMac identity)

end Steps

/-! ## Every run -/

/-- What holds of a schedule and of what was said of it. -/
structure CapableTraced (h : List Report) (s : PtpCapableSchedule) : Prop where
  ok : s.Ok
  traced : Outstanding.Traced transmitLimitUs h s.outstanding
  promised : Promised 9 h s.slowdown

theorem CapableTraced.call {h : List Report} {s : PtpCapableSchedule} (hs : CapableTraced h s)
    (call : CapableCall) : CapableTraced (h ++ [(capableCall s call).2]) (capableCall s call).1 where
  ok := capableCall_ok hs.ok call
  traced := hs.traced.step (capableCall_step hs.ok call)
  promised := hs.promised.step (capableCall_slowdown hs.ok call)

theorem capableTraced (calls : List CapableCall) :
    CapableTraced (capableReports calls) (capableRun calls) := by
  refine run_induction (P := fun h s => CapableTraced (h.map Prod.snd) s) ?_ ?_ calls
  · exact
      { ok := PtpCapableSchedule.restarted_ok default
        traced := .start
        promised := .of_settled rfl }
  · intro h s call hs
    rw [List.map_append]
    exact hs.call call

end EspPtp
