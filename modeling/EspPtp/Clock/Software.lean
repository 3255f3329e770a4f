import EspPtp.Clock.Affine
import EspPtp.Lib.History

/-!
# The software clock (`ptp_clock_sw.c`)

The public calls on the one affine clock, each under its lock. `localNs` is what
`ptp_clock_local_ns` reads inside the section, so that the calls of a run come in the order
of their local times, the readings among them.
-/

namespace EspPtp

open Lib

/-- `s_clock` and `s_initialized`. -/
structure PtpClockSw where
  clock : PtpClockAffine
  initialized : Bool
  deriving DecidableEq, Inhabited

/-- `ptp_clock_sw_init`. -/
def ptpClockSwInit (initialTs : Option Timespec) (localNs : Int) : PtpClockSw where
  clock := { localNs := localNs, ptpNs := initialTs.elim 0 timespecToNs, ratePpb := 0 }
  initialized := true

/-- `ptp_clock_sw_now`: the nanoseconds are brought into their range. -/
def ptpClockSwNow (state : PtpClockSw) (localNs : Int) : Option Timespec :=
  if !state.initialized then none
  else
    let nowNs := ptpClockAffineNow state.clock localNs
    let sec := nowNs.tdiv 1000000000
    let nsec := nowNs.tmod 1000000000
    some (if nsec < 0 then ⟨sec - 1, nsec + 1000000000⟩ else ⟨sec, nsec⟩)

/-- `ptp_clock_sw_settime`. -/
def ptpClockSwSettime (state : PtpClockSw) (ts : Timespec) (localNs : Int) : PtpClockSw × Bool :=
  if !state.initialized then (state, false)
  else
    ({ state with clock := { state.clock with localNs := localNs, ptpNs := timespecToNs ts } },
      true)

/-- `ptp_clock_sw_adjtime_offset`. -/
def ptpClockSwAdjtimeOffset (state : PtpClockSw) (deltaNs localNs : Int) : PtpClockSw × Bool :=
  if !state.initialized then (state, false)
  else ({ state with clock := ptpClockAffineReanchor state.clock localNs deltaNs }, true)

/-- `ptp_clock_sw_adjtime_rate`. -/
def ptpClockSwAdjtimeRate (state : PtpClockSw) (ratePpb localNs : Int) : PtpClockSw × Bool :=
  if !state.initialized then (state, false)
  else ({ state with clock := ptpClockAffineAdjustRate state.clock localNs ratePpb }, true)

/-- `ptp_clock_sw_discipline`. The answer of a call that is accepted is the phase error and
    the rate applied. -/
def ptpClockSwDiscipline (state : PtpClockSw) (localAnchor referenceAnchor ratePpb : Int)
    (step : Bool) (nowNs : Int) : PtpClockSw × Option (Int × Int) :=
  if localAnchor < 0 ∨ referenceAnchor < 0 ∨ referenceAnchor > int64Max - 3000000000 ∨
      ratePpb < -200000 ∨ ratePpb > 200000 then (state, none)
  else if !state.initialized ∨ nowNs < localAnchor ∨ nowNs - localAnchor > 2000000000 then
    (state, none)
  else
    let answer :=
      ptpClockAffineDiscipline state.clock nowNs localAnchor referenceAnchor ratePpb step
    ({ state with clock := answer.1 }, some (answer.2, answer.1.ratePpb))

section Calls

variable {s : PtpClockSw} {localNs : Int}

theorem ptpClockSwNow_ns (hset : s.initialized = true) :
    (ptpClockSwNow s localNs).map timespecToNs = some (ptpClockAffineNow s.clock localNs) := by
  have hparts := Int.mul_tdiv_add_tmod (ptpClockAffineNow s.clock localNs) 1000000000
  unfold ptpClockSwNow
  rw [hset]
  simp only [Bool.not_true, Bool.false_eq_true, if_false, Option.map_some, Option.some.injEq]
  split <;> simp only [timespecToNs, nsecPerSec] <;> omega

/-- What an accepted call was given, and what it answered. -/
theorem ptpClockSwDiscipline_accepted {s' : PtpClockSw} {step : Bool}
    {localAnchor referenceAnchor ratePpb nowNs error applied : Int}
    (h : ptpClockSwDiscipline s localAnchor referenceAnchor ratePpb step nowNs =
      (s', some (error, applied))) :
    (-200000 ≤ ratePpb ∧ ratePpb ≤ 200000 ∧ localAnchor ≤ nowNs ∧
        nowNs - localAnchor ≤ 2000000000) ∧
      s' = { s with
        clock := (ptpClockAffineDiscipline s.clock nowNs localAnchor referenceAnchor ratePpb
          step).1 } ∧
      error = (ptpClockAffineDiscipline s.clock nowNs localAnchor referenceAnchor ratePpb step).2 ∧
      applied = s'.clock.ratePpb := by
  unfold ptpClockSwDiscipline at h
  split at h
  · cases h
  · split at h
    · cases h
    · rename_i hrange hanchor
      cases h
      exact ⟨by omega, rfl, rfl, rfl⟩

end Calls

/-! ## A clock that is not stepped -/

/-- What may be done to the clock without stepping it. -/
inductive SwCall where
  /-- `ptp_clock_sw_now`. -/
  | reading
  | adjustRate (adjustment : Int)
  /-- `ptp_clock_sw_adjtime_offset` of nothing. -/
  | reanchor
  /-- `ptp_clock_sw_discipline` without a step; a call that is refused changes nothing. -/
  | discipline (localAnchor referenceAnchor ratePpb : Int)

structure SwEvent where
  localNs : Int
  call : SwCall

/-- One call; a reading answers its time in nanoseconds. -/
def swCall (s : PtpClockSw) (e : SwEvent) : PtpClockSw × Option Int :=
  match e.call with
  | .reading => (s, (ptpClockSwNow s e.localNs).map timespecToNs)
  | .adjustRate adjustment => ((ptpClockSwAdjtimeRate s adjustment e.localNs).1, none)
  | .reanchor => ((ptpClockSwAdjtimeOffset s 0 e.localNs).1, none)
  | .discipline localAnchor referenceAnchor ratePpb =>
    ((ptpClockSwDiscipline s localAnchor referenceAnchor ratePpb false e.localNs).1, none)

/-- A clock that runs: its rate is within the clamp, and its anchor has passed. -/
structure PtpClockSw.Runs (s : PtpClockSw) (localNs : Int) : Prop where
  initialized : s.initialized = true
  anchor : s.clock.localNs ≤ localNs
  slow : -100000000 ≤ s.clock.ratePpb
  fast : s.clock.ratePpb ≤ 100000000

section Forward

variable {s : PtpClockSw} {localNs : Int} {e : SwEvent} {events : List SwEvent}

theorem PtpClockSw.Runs.forward (hs : s.Runs localNs) {laterNs : Int} (hlater : localNs ≤ laterNs) :
    ptpClockAffineNow s.clock localNs ≤ ptpClockAffineNow s.clock laterNs := by
  refine ptpClockAffineNow_mono ?_ hlater
  have hslow := hs.slow
  omega

/-- **A call leaves what the clock reads at its own instant.** -/
theorem swCall_now (hset : s.initialized = true) (e : SwEvent) :
    ptpClockAffineNow (swCall s e).1.clock e.localNs = ptpClockAffineNow s.clock e.localNs := by
  unfold swCall
  cases e.call with
  | reading => rfl
  | adjustRate adjustment => simp [ptpClockSwAdjtimeRate, hset]
  | reanchor => simp [ptpClockSwAdjtimeOffset, hset]
  | discipline localAnchor referenceAnchor ratePpb =>
    simp only [ptpClockSwDiscipline]
    split
    · rfl
    · split
      · rfl
      · simp

/-- A call answers nothing, or what the clock reads. -/
theorem swCall_answer (hset : s.initialized = true) (e : SwEvent) :
    (swCall s e).2 = none ∨ (swCall s e).2 = some (ptpClockAffineNow s.clock e.localNs) := by
  unfold swCall
  cases e.call with
  | reading => exact .inr (ptpClockSwNow_ns hset)
  | adjustRate adjustment => exact .inl rfl
  | reanchor => exact .inl rfl
  | discipline localAnchor referenceAnchor ratePpb => exact .inl rfl

theorem swCall_runs (hs : s.Runs localNs) (hlater : localNs ≤ e.localNs) :
    (swCall s e).1.Runs e.localNs := by
  have hkept : s.Runs e.localNs :=
    { hs with anchor := Int.le_trans hs.anchor hlater }
  have hset := hs.initialized
  unfold swCall
  cases e.call with
  | reading => exact hkept
  | adjustRate adjustment =>
    simp only [ptpClockSwAdjtimeRate, hset, Bool.not_true, Bool.false_eq_true, if_false]
    exact
      { initialized := rfl
        anchor := Int.le_refl _
        slow := (ptpClockAffineAdjustRate_rate ..).1
        fast := (ptpClockAffineAdjustRate_rate ..).2 }
  | reanchor =>
    simp only [ptpClockSwAdjtimeOffset, hset, Bool.not_true, Bool.false_eq_true, if_false]
    exact
      { initialized := rfl
        anchor := Int.le_refl _
        slow := hs.slow
        fast := hs.fast }
  | discipline localAnchor referenceAnchor ratePpb =>
    simp only [ptpClockSwDiscipline]
    split
    · exact hkept
    · split
      · exact hkept
      · -- The clamp of a disciplined rate is the tighter one.
        have hslow := @neg_le_clampTo 512000 (by decide)
        have hfast := @clampTo_le 512000 (by decide)
        exact
          { initialized := hset
            anchor := Int.le_refl _
            slow := Int.le_trans (by decide) (hslow _)
            fast := Int.le_trans (hfast _) (by decide) }

/-- What is read from now on is not before what the clock reads now. -/
theorem swReadings_later (hs : s.Runs localNs)
    (htimes : (localNs :: events.map SwEvent.localNs).Pairwise (· ≤ ·)) :
    (outputs swCall s events).Pairwise (· ≤ ·) ∧
      ∀ reading ∈ outputs swCall s events, ptpClockAffineNow s.clock localNs ≤ reading := by
  induction events generalizing s localNs with
  | nil => exact ⟨List.Pairwise.nil, by simp⟩
  | cons e events ih =>
    rw [List.map_cons, List.pairwise_cons] at htimes
    have hlater : localNs ≤ e.localNs := htimes.1 _ List.mem_cons_self
    obtain ⟨hsorted, hafter⟩ := ih (swCall_runs hs hlater) htimes.2
    have hpassed := hs.forward hlater
    -- The call moves no reading of its own instant, so what comes after is not before it.
    rw [swCall_now hs.initialized] at hafter
    have hrest : ∀ reading ∈ outputs swCall (swCall s e).1 events,
        ptpClockAffineNow s.clock localNs ≤ reading :=
      fun reading hmem => Int.le_trans hpassed (hafter reading hmem)
    rw [outputs_cons]
    rcases swCall_answer hs.initialized e with hnone | hread
    · rw [hnone]
      exact ⟨hsorted, hrest⟩
    · rw [hread, Option.toList_some, List.singleton_append]
      refine ⟨List.pairwise_cons.mpr ⟨hafter, hsorted⟩, ?_⟩
      intro reading hmem
      rcases List.mem_cons.mp hmem with rfl | hmem
      · exact hpassed
      · exact hrest reading hmem

/-- The clock runs after every call of a run. -/
theorem swRun_runs (hs : s.Runs localNs)
    (htimes : (localNs :: events.map SwEvent.localNs).Pairwise (· ≤ ·)) :
    (run swCall s events).Runs ((events.map SwEvent.localNs).getLastD localNs) := by
  induction events generalizing s localNs with
  | nil => exact hs
  | cons e events ih =>
    rw [List.map_cons, List.pairwise_cons] at htimes
    have hlater : localNs ≤ e.localNs := htimes.1 _ List.mem_cons_self
    have hruns := ih (swCall_runs hs hlater) htimes.2
    rw [List.map_cons, List.getLastD_cons]
    exact hruns

end Forward

theorem ptpClockSwInit_runs (initialTs : Option Timespec) (localNs : Int) :
    (ptpClockSwInit initialTs localNs).Runs localNs where
  initialized := rfl
  anchor := Int.le_refl localNs
  slow := show (-100000000 : Int) ≤ 0 by decide
  fast := show (0 : Int) ≤ 100000000 by decide

/-- **A clock that is not stepped is continuous and never runs backward**: after any calls
    since it was set up, the next one leaves what it reads at that instant, its rate is within
    the clamp, and the readings of the run are in order. -/
theorem softwareClock_forward (initialTs : Option Timespec) (startNs : Int)
    (events : List SwEvent)
    (htimes : (startNs :: events.map SwEvent.localNs).Pairwise (· ≤ ·)) :
    (∀ before e after, events = before ++ e :: after →
        ptpClockAffineNow
            (swCall (run swCall (ptpClockSwInit initialTs startNs) before) e).1.clock
            e.localNs =
          ptpClockAffineNow (run swCall (ptpClockSwInit initialTs startNs) before).clock
            e.localNs) ∧
      (∀ before after, events = before ++ after →
        -100000000 ≤ (run swCall (ptpClockSwInit initialTs startNs) before).clock.ratePpb ∧
          (run swCall (ptpClockSwInit initialTs startNs) before).clock.ratePpb ≤ 100000000) ∧
      (outputs swCall (ptpClockSwInit initialTs startNs) events).Pairwise (· ≤ ·) := by
  have hinit := ptpClockSwInit_runs initialTs startNs
  have hearlier : ∀ before after, events = before ++ after →
      (startNs :: before.map SwEvent.localNs).Pairwise (· ≤ ·) := by
    rintro before after rfl
    rw [List.map_append, ← List.cons_append] at htimes
    exact (List.pairwise_append.mp htimes).1
  refine ⟨?_, ?_, (swReadings_later hinit htimes).1⟩
  · intro before e after hsplit
    exact swCall_now (swRun_runs hinit (hearlier before _ hsplit)).initialized e
  · intro before after hsplit
    have hruns := swRun_runs hinit (hearlier before after hsplit)
    exact ⟨hruns.slow, hruns.fast⟩

/-- Read, slowed to the clamp, read, disciplined and read again. -/
theorem softwareClock_forward_slowed :
    (outputs swCall (ptpClockSwInit none 0)
        [⟨5, .reading⟩, ⟨5, .adjustRate (-2000000000)⟩, ⟨1000000005, .reading⟩,
          ⟨1000000005, .discipline 0 0 0⟩, ⟨1000000006, .reading⟩]).Pairwise (· ≤ ·) :=
  (softwareClock_forward none 0 _ (by decide)).2.2

end EspPtp
