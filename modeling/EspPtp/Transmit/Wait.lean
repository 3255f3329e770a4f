import EspPtp.Daemon.SyncReceipt
import EspPtp.Transmit.Soundness

/-!
# How long the daemon may sleep

`ptp_capable_schedule_wait_ms` says once more, and in another form, when a begin would hand
out work; `ptp_sync_receipt_wait_ms` when a receipt runs out. The two forms agree to the
millisecond: a sleep of zero is one with something to do, and a sleep that ends early ends
in the first millisecond that has something to do.
-/

namespace EspPtp

open Lib

/-- A delay in whole milliseconds, rounded up. -/
theorem milliseconds_ceil {delay : Int} (hdelay : 0 ≤ delay) :
    0 ≤ delay.tdiv 1000 + (if delay.tmod 1000 ≠ 0 then 1 else 0) ∧
      delay ≤ 1000 * (delay.tdiv 1000 + if delay.tmod 1000 ≠ 0 then 1 else 0) ∧
      1000 * (delay.tdiv 1000 + if delay.tmod 1000 ≠ 0 then 1 else 0) < delay + 1000 := by
  rw [Int.tdiv_eq_ediv_of_nonneg hdelay, Int.tmod_eq_emod_of_nonneg hdelay]
  split <;> omega

section Capable

variable {s : PtpCapableSchedule} {nowUs maximumMs : Int}

/-- When a schedule that runs hands out work. -/
theorem ptpCapableScheduleBegin_ne_zero
    (hin : ¬ (s.period = 0 ∨ nowUs < 0 ∨ nowUs > int64Max - s.period)) :
    (ptpCapableScheduleBegin s true nowUs).2 ≠ 0 ↔
      ¬ (s.pending ≠ 0 ∧ (nowUs < s.queuedUs ∨ nowUs - s.queuedUs < 1000000)) ∧
        ¬ (s.active = true ∧ nowUs < s.nextUs) := by
  rw [(ptpCapableScheduleBegin_in hin).2]
  exact Outstanding.beginAt_ne_zero

/-- A deadline that has not come keeps any schedule from handing out. -/
theorem ptpCapableScheduleBegin_early (hactive : s.active = true) (hearly : nowUs < s.nextUs) :
    (ptpCapableScheduleBegin s true nowUs).2 = 0 := by
  by_cases hin : s.period = 0 ∨ nowUs < 0 ∨ nowUs > int64Max - s.period
  · rw [ptpCapableScheduleBegin_out hin]
  · by_contra hissued
    exact ((ptpCapableScheduleBegin_ne_zero hin).mp hissued).2 ⟨hactive, hearly⟩

theorem ptpCapableScheduleWaitMs_stopped (hstopped : s.period = 0) :
    ptpCapableScheduleWaitMs s nowUs maximumMs = maximumMs :=
  if_pos (.inr (.inr hstopped))

/-- The sleep of a schedule that runs, before its deadline and from it on. -/
theorem ptpCapableScheduleWaitMs_running (hmaximum : 1 ≤ maximumMs) (hnow : 0 ≤ nowUs)
    (hruns : s.period ≠ 0) (hqueued : s.queuedUs ≤ nowUs) :
    ∃ delay, 0 ≤ delay ∧
      (delay = 0 ↔ ¬ (s.pending ≠ 0 ∧ (nowUs < s.queuedUs ∨ nowUs - s.queuedUs < 1000000)) ∧
        ¬ (s.active = true ∧ nowUs < s.nextUs)) ∧
      (s.pending = 0 → 0 < delay → s.active = true ∧ nowUs + delay = s.nextUs) ∧
      ptpCapableScheduleWaitMs s nowUs maximumMs =
        min (delay.tdiv 1000 + if delay.tmod 1000 ≠ 0 then 1 else 0) maximumMs := by
  have hstarted : ¬ (maximumMs ≤ 0 ∨ nowUs < 0 ∨ ptpCapableIntervalPeriod s.interval = 0) := by
    rintro (hnone | hnegative | hstopped)
    · omega
    · omega
    · exact hruns hstopped
  rw [ptpCapableScheduleWaitMs, if_neg hstarted]
  dsimp only
  rw [← min_def_lt]
  by_cases hearly : s.active = true ∧ s.nextUs > nowUs
  · have hlater : ¬ (s.nextUs - nowUs = 0) := by omega
    -- Before the deadline the delay is the time left, whatever is in flight.
    rw [if_pos hearly, if_neg fun h => hlater h.2.1]
    refine ⟨s.nextUs - nowUs, by omega, ?_, ?_, rfl⟩
    · exact iff_of_false hlater fun h => h.2 hearly
    · exact fun _ _ => ⟨hearly.1, by omega⟩
  · rw [if_neg hearly]
    by_cases hbusy : s.pending ≠ 0 ∧ nowUs - s.queuedUs < 1000000
    · -- What is in flight is looked at again after ten milliseconds.
      rw [if_pos ⟨hbusy.1, rfl, hqueued, hbusy.2⟩]
      refine ⟨10000, by decide, ?_, ?_, rfl⟩
      · exact iff_of_false (by decide) fun h => h.1 ⟨hbusy.1, .inr hbusy.2⟩
      · exact fun hnone => absurd hnone hbusy.1
    · rw [if_neg fun h => hbusy ⟨h.1, h.2.2.2⟩]
      refine ⟨0, Int.le_refl 0, ?_, ?_, rfl⟩
      · refine iff_of_true rfl ⟨?_, hearly⟩
        rintro ⟨hpending, hlate | hyoung⟩
        · exact absurd hqueued (Int.not_le.mpr hlate)
        · exact hbusy ⟨hpending, hyoung⟩
      · exact fun _ hpositive => absurd hpositive (Int.lt_irrefl 0)

end Capable

/-- What the sleep of a receipt is. -/
theorem ptpSyncReceiptWaitMs_current {s : PtpSyncReceipt} {nowUs limitMs : Int}
    (hlimit : 1 ≤ limitMs) (hcurrent : ptpSyncReceiptCurrent s nowUs = true) :
    ptpSyncReceiptWaitMs s nowUs limitMs =
      min ((s.intervalUs - (nowUs - s.receivedUs)).tdiv 1000 +
        if (s.intervalUs - (nowUs - s.receivedUs)).tmod 1000 ≠ 0 then 1 else 0) limitMs := by
  have hstarted : ¬ (limitMs ≤ 0 ∨ ptpSyncReceiptCurrent s nowUs = false) := by
    rw [hcurrent]
    simp
    omega
  rw [ptpSyncReceiptWaitMs, if_neg hstarted]
  dsimp only
  rw [min_def_lt]

/-- The sleep is none just where a begin hands out. -/
theorem ptpCapableScheduleWaitMs_eq_zero {s : PtpCapableSchedule} {nowUs maximumMs : Int}
    (hnow : 0 ≤ nowUs) (hlatest : nowUs ≤ int64Max - s.period) (hqueued : s.queuedUs ≤ nowUs)
    (hmaximum : 1 ≤ maximumMs) :
    ptpCapableScheduleWaitMs s nowUs maximumMs = 0 ↔
      (ptpCapableScheduleBegin s true nowUs).2 ≠ 0 := by
  by_cases hstopped : s.period = 0
  · rw [ptpCapableScheduleWaitMs_stopped hstopped, ptpCapableScheduleBegin_out (.inl hstopped)]
    exact iff_of_false (by omega) (not_not.mpr rfl)
  · obtain ⟨delay, hdelay, hzero, -, hwait⟩ :=
      ptpCapableScheduleWaitMs_running hmaximum hnow hstopped hqueued
    obtain ⟨hnonneg, hceil, hfloor⟩ := milliseconds_ceil hdelay
    rw [ptpCapableScheduleBegin_ne_zero (by omega), ← hzero, hwait]
    generalize delay.tdiv 1000 + _ = milliseconds at hnonneg hceil hfloor ⊢
    omega

/-- With nothing in flight the sleep ends in the millisecond of the deadline. -/
theorem ptpCapableScheduleWaitMs_deadline {s : PtpCapableSchedule} {nowUs maximumMs w : Int}
    (hnow : 0 ≤ nowUs) (hqueued : s.queuedUs ≤ nowUs) (hnone : s.pending = 0)
    (hwait : ptpCapableScheduleWaitMs s nowUs maximumMs = w) (hpositive : 0 < w)
    (hshort : w < maximumMs) :
    s.period ≠ 0 ∧ s.active = true ∧ nowUs + 1000 * (w - 1) < s.nextUs ∧
      s.nextUs ≤ nowUs + 1000 * w := by
  have hruns : s.period ≠ 0 := by
    intro hstopped
    rw [ptpCapableScheduleWaitMs_stopped hstopped] at hwait
    omega
  obtain ⟨delay, hdelay, -, hnext, hmin⟩ :=
    @ptpCapableScheduleWaitMs_running s nowUs maximumMs (by omega) hnow hruns hqueued
  obtain ⟨hnonneg, hceil, hfloor⟩ := milliseconds_ceil hdelay
  rw [hwait] at hmin
  generalize delay.tdiv 1000 + _ = milliseconds at hnonneg hceil hfloor hmin
  obtain ⟨hactive, hdue⟩ := hnext hnone (by omega)
  exact ⟨hruns, hactive, by omega, by omega⟩

/-- The sleep of a receipt is the least number of milliseconds after which it has run out. -/
theorem ptpSyncReceiptWaitMs_least {s : PtpSyncReceipt} {nowUs limitMs : Int}
    (hlimit : 1 ≤ limitMs) :
    (ptpSyncReceiptWaitMs s nowUs limitMs = 0 ↔ ptpSyncReceiptCurrent s nowUs = false) ∧
      ∀ w, ptpSyncReceiptWaitMs s nowUs limitMs = w → w < limitMs →
        ptpSyncReceiptCurrent s (nowUs + 1000 * w) = false ∧
          ∀ k, 0 ≤ k → k < w → ptpSyncReceiptCurrent s (nowUs + 1000 * k) = true := by
  by_cases hcurrent : ptpSyncReceiptCurrent s nowUs = true
  · have hwait := ptpSyncReceiptWaitMs_current hlimit hcurrent
    simp only [ptpSyncReceiptCurrent, Bool.and_eq_true, decide_eq_true_eq] at hcurrent
    obtain ⟨⟨harmed, hreceived⟩, hyoung⟩ := hcurrent
    obtain ⟨hnonneg, hceil, hfloor⟩ :=
      @milliseconds_ceil (s.intervalUs - (nowUs - s.receivedUs)) (by omega)
    rw [hwait]
    generalize (s.intervalUs - (nowUs - s.receivedUs)).tdiv 1000 + _ = milliseconds
      at hnonneg hceil hfloor ⊢
    refine ⟨?_, ?_⟩
    · simp [ptpSyncReceiptCurrent, harmed]
      omega
    · rintro w rfl hshort
      rw [Int.min_eq_left (by omega)]
      refine ⟨?_, ?_⟩
      · simp [ptpSyncReceiptCurrent, harmed]
        omega
      · intro k hk hless
        simp [ptpSyncReceiptCurrent, harmed]
        omega
  · rw [Bool.not_eq_true] at hcurrent
    have hwait : ptpSyncReceiptWaitMs s nowUs limitMs = 0 := if_pos (.inr hcurrent)
    rw [hwait]
    refine ⟨iff_of_true rfl hcurrent, ?_⟩
    rintro w rfl hshort
    refine ⟨by simpa using hcurrent, ?_⟩
    intro k hk hless
    omega

/-- **The sleep agrees with the work it waits for**: of the capability schedule after every
    run, and of every receipt. -/
theorem waits_agree :
    (∀ (calls : List CapableCall) (nowUs maximumMs : Int), 0 ≤ nowUs →
        nowUs ≤ int64Max - (capableRun calls).period → (capableRun calls).queuedUs ≤ nowUs →
        1 ≤ maximumMs →
        (ptpCapableScheduleWaitMs (capableRun calls) nowUs maximumMs = 0 ↔
            (ptpCapableScheduleBegin (capableRun calls) true nowUs).2 ≠ 0) ∧
          ((capableRun calls).period = 0 →
            ptpCapableScheduleWaitMs (capableRun calls) nowUs maximumMs = maximumMs) ∧
          ((capableRun calls).pending = 0 → ∀ w,
            ptpCapableScheduleWaitMs (capableRun calls) nowUs maximumMs = w →
            0 < w → w < maximumMs →
            (∀ t, t ≤ nowUs + 1000 * (w - 1) →
                (ptpCapableScheduleBegin (capableRun calls) true t).2 = 0) ∧
              (nowUs + 1000 * w ≤ int64Max - (capableRun calls).period →
                (ptpCapableScheduleBegin (capableRun calls) true (nowUs + 1000 * w)).2 ≠ 0))) ∧
      ∀ (s : PtpSyncReceipt) (nowUs limitMs : Int), 1 ≤ limitMs →
        (ptpSyncReceiptWaitMs s nowUs limitMs = 0 ↔ ptpSyncReceiptCurrent s nowUs = false) ∧
          ∀ w, ptpSyncReceiptWaitMs s nowUs limitMs = w → w < limitMs →
            ptpSyncReceiptCurrent s (nowUs + 1000 * w) = false ∧
              ∀ k, 0 ≤ k → k < w → ptpSyncReceiptCurrent s (nowUs + 1000 * k) = true := by
  refine ⟨?_, fun s nowUs limitMs hlimit => ptpSyncReceiptWaitMs_least hlimit⟩
  intro calls nowUs maximumMs hnow hlatest hqueued hmaximum
  refine ⟨ptpCapableScheduleWaitMs_eq_zero hnow hlatest hqueued hmaximum,
    fun hstopped => ptpCapableScheduleWaitMs_stopped hstopped, ?_⟩
  intro hnone w hwait hpositive hshort
  obtain ⟨hruns, hactive, hearly, hdue⟩ :=
    ptpCapableScheduleWaitMs_deadline hnow hqueued hnone hwait hpositive hshort
  constructor
  · exact fun t ht => ptpCapableScheduleBegin_early hactive (by omega)
  · intro hroom
    rw [ptpCapableScheduleBegin_ne_zero (by omega)]
    exact ⟨fun h => h.1 hnone, fun h => absurd h.2 (by omega)⟩

/-- Half a second into a period, and at the end of a receipt. -/
theorem waits_agree_half :
    (∀ t, t ≤ 500000 + 1000 * (500 - 1) →
        (ptpCapableScheduleBegin (capableRun [.begin true 0, .finish 1 true 10]) true t).2 = 0) ∧
      (ptpSyncReceiptWaitMs (ptpSyncReceiptStart 0 3000000) 3000000 100 = 0 ↔
        ptpSyncReceiptCurrent (ptpSyncReceiptStart 0 3000000) 3000000 = false) :=
  ⟨((waits_agree.1 [.begin true 0, .finish 1 true 10] 500000 10000 (by decide) (by decide)
        (by decide) (by decide)).2.2 (by decide) 500 (by decide) (by decide) (by decide)).1,
    (waits_agree.2 (ptpSyncReceiptStart 0 3000000) 3000000 100 (by decide)).1⟩

end EspPtp
