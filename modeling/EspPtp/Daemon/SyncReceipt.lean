import EspPtp.Config

/-!
# Receipt of Sync (`ptp_sync_receipt.h`)

Until when the selected source counts as heard, on `esp_timer`'s time.
-/

namespace EspPtp

/-- `ptp_sync_receipt_t`. -/
structure PtpSyncReceipt where
  receivedUs : Int
  intervalUs : Int
  armed : Bool
  deriving DecidableEq, Inhabited

/-- `ptp_sync_receipt_interval`: three intervals, zero for a logarithm of no use. -/
def ptpSyncReceiptInterval (logarithm : Int) : Int :=
  if logarithm < -24 ∨ logarithm > 24 then 0
  else if logarithm ≥ 0 then 3000000 * 2 ^ logarithm.toNat
  else
    let divisor : Int := 2 ^ (-logarithm).toNat
    (3000000 + divisor - 1) / divisor

/-- `ptp_sync_receipt_start`. -/
def ptpSyncReceiptStart (nowUs initialIntervalUs : Int) : PtpSyncReceipt where
  receivedUs := nowUs
  intervalUs := initialIntervalUs
  armed := decide (nowUs ≥ 0) && decide (initialIntervalUs > 0)

/-- `ptp_sync_receipt_current`. -/
def ptpSyncReceiptCurrent (state : PtpSyncReceipt) (nowUs : Int) : Bool :=
  state.armed && decide (nowUs ≥ state.receivedUs) &&
    decide (nowUs - state.receivedUs < state.intervalUs)

/-- `ptp_sync_receipt_observe_window`. -/
def ptpSyncReceiptObserveWindow (state : PtpSyncReceipt) (receivedUs windowUs nowUs : Int) :
    PtpSyncReceipt × Bool :=
  if windowUs ≤ 0 ∨ receivedUs < 0 ∨ nowUs < receivedUs ∨ nowUs - receivedUs ≥ windowUs ∨
      (state.armed = true ∧ receivedUs < state.receivedUs) then (state, false)
  else (ptpSyncReceiptStart receivedUs windowUs, true)

/-- An observation is refused, or it starts the receipt anew at a time that has come. -/
theorem ptpSyncReceiptObserveWindow_cases (state : PtpSyncReceipt)
    (receivedUs windowUs nowUs : Int) :
    ptpSyncReceiptObserveWindow state receivedUs windowUs nowUs = (state, false) ∨
      receivedUs ≤ nowUs ∧ ptpSyncReceiptObserveWindow state receivedUs windowUs nowUs =
        (ptpSyncReceiptStart receivedUs windowUs, true) := by
  unfold ptpSyncReceiptObserveWindow
  split
  · exact .inl rfl
  · rename_i htaken
    exact .inr ⟨by omega, rfl⟩

/-- `ptp_sync_receipt_observe`. -/
def ptpSyncReceiptObserve (state : PtpSyncReceipt) (receivedUs logarithm nowUs : Int) :
    PtpSyncReceipt × Bool :=
  ptpSyncReceiptObserveWindow state receivedUs (ptpSyncReceiptInterval logarithm) nowUs

/-- `ptp_sync_receipt_wait_ms`: how long the receipt stays current, rounded up. -/
def ptpSyncReceiptWaitMs (state : PtpSyncReceipt) (nowUs limitMs : Int) : Int :=
  if limitMs ≤ 0 ∨ ptpSyncReceiptCurrent state nowUs = false then 0
  else
    let remaining := state.intervalUs - (nowUs - state.receivedUs)
    let milliseconds := remaining.tdiv 1000 + if remaining.tmod 1000 ≠ 0 then 1 else 0
    if milliseconds < limitMs then milliseconds else limitMs

end EspPtp
