import EspPtp.Lib.CDouble
import EspPtp.Config

/-!
# The neighbor's rate (`ptp_peer_rate.h`)

Two samples of an exchange, a remote time and the local time it was received at, give the
rate of the neighbor's clock. The record keeps the last sample; a **re-anchored** record
has been told that the local clock stepped since, so the next sample starts a new interval
instead of ending one.

`unsigned updates` counts without bound here.
-/

namespace EspPtp

open Lib

/-- `ptp_peer_rate_t`. -/
structure PtpPeerRate (F : Type) where
  lifecycle : UInt32
  responder : PortIdentity
  anchored : Bool
  valid : Bool
  reanchor : Bool
  remotePrevious : Timespec
  localPrevious : Timespec
  correctionPrevious : F
  ratio : F
  updates : Nat
  outliers : Nat
  deriving DecidableEq, Inhabited

variable {F : Type} [CDouble F]

/-- The record after `memset`, with its neighbor set. -/
def PtpPeerRate.fresh (lifecycle : UInt32) (responder : PortIdentity) : PtpPeerRate F where
  lifecycle := lifecycle
  responder := responder
  anchored := false
  valid := false
  reanchor := false
  remotePrevious := ⟨0, 0⟩
  localPrevious := ⟨0, 0⟩
  correctionPrevious := CDouble.ofInt 0
  ratio := CDouble.ofInt 0
  updates := 0
  outliers := 0

/-- `PTP_PEER_RATE_OUTLIERS_MAX`. -/
def ptpPeerRateOutliersMax : Nat := 3

/-- `ptp_peer_correction`: a signed scaled-nanoseconds field. -/
def ptpPeerCorrection (wire : Vector UInt8 8) : F :=
  let scaled : UInt64 := wire.foldl (fun scaled byte => (scaled <<< 8) ||| byte.toUInt64) 0
  CDouble.ofInt scaled.toInt64.toInt / 65536.0

/-- `ptp_peer_elapsed`: `none` is an interval of no use. -/
def ptpPeerElapsed (current previous : Timespec) : Option F :=
  if current.tvSec < previous.tvSec ∨ current.tvSec - previous.tvSec > 10 then none
  else
    let elapsed : F :=
      CDouble.ofInt (current.tvSec - previous.tvSec) * 1e9 + CDouble.ofInt current.tvNsec -
        CDouble.ofInt previous.tvNsec
    if CDouble.le 1e7 elapsed && CDouble.le elapsed 1e10 then some elapsed else none

/-- `.999` to `1.001`, the ratios a neighbor may have. -/
def plausibleRatio (ratio : F) : Bool :=
  CDouble.isfinite ratio && CDouble.le 0.999 ratio && CDouble.le ratio 1.001

/-- The local half of the interval, if a sample began one and it is sound. -/
def PtpPeerRate.localElapsed (rate : PtpPeerRate F) (localTime : Timespec) : Option F :=
  if rate.anchored then ptpPeerElapsed localTime rate.localPrevious else none

/-- The ratio of the interval that ends in this sample, when both its ends are sound. -/
def PtpPeerRate.intervalRatio (rate : PtpPeerRate F) (remote : Timespec) (correction : F)
    (localElapsed : Option F) : Option F :=
  match localElapsed, ptpPeerElapsed remote rate.remotePrevious with
  | some localElapsed, some remoteElapsed =>
    let ratio := (remoteElapsed + correction - rate.correctionPrevious) / localElapsed
    if plausibleRatio ratio then some ratio else none
  | _, _ => none

/-- The record with its last sample replaced. -/
def PtpPeerRate.sampled (rate : PtpPeerRate F) (remote : Timespec) (correction : F)
    (localTime : Timespec) : PtpPeerRate F :=
  { rate with
    remotePrevious := remote
    localPrevious := localTime
    correctionPrevious := correction
    anchored := true }

/-- The record for this neighbor: another one, or another link, starts from nothing. -/
def PtpPeerRate.forNeighbor (rate : PtpPeerRate F) (lifecycle : UInt32)
    (responder : PortIdentity) : PtpPeerRate F :=
  if rate.lifecycle ≠ lifecycle ∨ rate.responder ≠ responder then
    PtpPeerRate.fresh lifecycle responder
  else rate

/-- The end of `ptp_peer_rate_update`: measure the interval and start the next. An interval
    that fails on the remote side alone keeps the ratio measured before. -/
def PtpPeerRate.measure (rate : PtpPeerRate F) (remote : Timespec) (correction : F)
    (localTime : Timespec) : PtpPeerRate F × Bool :=
  let localElapsed := rate.localElapsed localTime
  let ratio := rate.intervalRatio remote correction localElapsed
  let rate := rate.sampled remote correction localTime
  if ratio.isNone && localElapsed.isSome && rate.valid &&
      decide (rate.outliers < ptpPeerRateOutliersMax) then
    ({ rate with outliers := rate.outliers + 1 }, true)
  else
    match ratio with
    | some ratio =>
      ({ rate with
          outliers := 0, valid := true, ratio := ratio, updates := rate.updates + 1 }, true)
    | none => ({ rate with outliers := 0, valid := false, ratio := CDouble.ofInt 0 }, false)

/-- `ptp_peer_rate_update`, with the ratio's validity as its answer. -/
def ptpPeerRateUpdate (rate : PtpPeerRate F) (lifecycle : UInt32) (responder : PortIdentity)
    (remote : Timespec) (correction : F) (localTime : Timespec) : PtpPeerRate F × Bool :=
  let rate := rate.forNeighbor lifecycle responder
  if rate.reanchor then
    let rate := { rate with reanchor := false }.sampled remote correction localTime
    (rate, rate.valid)
  else rate.measure remote correction localTime

/-- `ptp_peer_delay_local`: the delay in local units, `none` when it is of no use. -/
def ptpPeerDelayLocal (ratio : F) (roundtrip reflection : Int)
    (responseCorrection followCorrection : F) : Option F :=
  if !CDouble.isfinite ratio || CDouble.lt ratio 0.999 || CDouble.lt 1.001 ratio ||
      decide (roundtrip < 0) || decide (roundtrip > 1000000000) ||
      decide (reflection < 0) || decide (reflection > 1000000000) then none
  else
    let delay :=
      (CDouble.ofInt roundtrip -
        (CDouble.ofInt reflection + followCorrection - responseCorrection) / ratio) / 2.0
    if CDouble.isfinite delay && CDouble.le (CDouble.ofInt 0) delay then some delay else none

/-! ## What an update does -/

section Update

variable (rate : PtpPeerRate F) (lifecycle : UInt32) (responder : PortIdentity)
  (remote : Timespec) (correction : F) (localTime : Timespec)

@[simp] theorem PtpPeerRate.forNeighbor_lifecycle :
    (rate.forNeighbor lifecycle responder).lifecycle = lifecycle := by
  unfold PtpPeerRate.forNeighbor
  split
  · rfl
  · rename_i h
    push Not at h
    exact h.1

@[simp] theorem PtpPeerRate.forNeighbor_responder :
    (rate.forNeighbor lifecycle responder).responder = responder := by
  unfold PtpPeerRate.forNeighbor
  split
  · rfl
  · rename_i h
    push Not at h
    exact h.2

/-- Measuring an interval changes the sample and the result, and nothing else. -/
theorem PtpPeerRate.measure_eq :
    ∃ outliers valid ratio updates, (rate.measure remote correction localTime).1 =
      { rate.sampled remote correction localTime with
        outliers := outliers, valid := valid, ratio := ratio, updates := updates } := by
  unfold PtpPeerRate.measure
  dsimp only
  split
  · exact ⟨_, _, _, _, rfl⟩
  · split
    · exact ⟨_, _, _, _, rfl⟩
    · exact ⟨_, _, _, _, rfl⟩

/-- What an update leaves behind, whichever way it went: the new sample, of this neighbor,
    with nothing to re-anchor. -/
structure PtpPeerRate.EndsIn (updated : PtpPeerRate F) : Prop where
  lifecycle : updated.lifecycle = lifecycle
  responder : updated.responder = responder
  anchored : updated.anchored = true
  reanchor : updated.reanchor = false
  remotePrevious : updated.remotePrevious = remote
  localPrevious : updated.localPrevious = localTime
  correctionPrevious : updated.correctionPrevious = correction

theorem ptpPeerRateUpdate_endsIn :
    PtpPeerRate.EndsIn lifecycle responder remote correction localTime
      (ptpPeerRateUpdate rate lifecycle responder remote correction localTime).1 := by
  have hlife := rate.forNeighbor_lifecycle lifecycle responder
  have hresp := rate.forNeighbor_responder lifecycle responder
  unfold ptpPeerRateUpdate
  generalize rate.forNeighbor lifecycle responder = r at hlife hresp ⊢
  dsimp only
  split
  · exact ⟨hlife, hresp, rfl, rfl, rfl, rfl, rfl⟩
  · rename_i hanchor
    obtain ⟨outliers, valid, ratio, updates, hmeasure⟩ := r.measure_eq remote correction localTime
    rw [hmeasure]
    have hreanchor : (r.sampled remote correction localTime).reanchor = false := by
      simpa [PtpPeerRate.sampled] using hanchor
    exact ⟨hlife, hresp, rfl, hreanchor, rfl, rfl, rfl⟩

end Update

section Measured

variable {rate : PtpPeerRate F} {lifecycle : UInt32} {responder : PortIdentity}
  {remote : Timespec} {correction : F} {localTime : Timespec}

/-- The ratio `ratio` is that of the interval from the record's sample to this one. -/
def PtpPeerRate.IntervalTo (rate : PtpPeerRate F) (remote : Timespec) (correction : F)
    (localTime : Timespec) (ratio : F) : Prop :=
  ∃ localElapsed remoteElapsed : F,
    ptpPeerElapsed localTime rate.localPrevious = some localElapsed ∧
    ptpPeerElapsed remote rate.remotePrevious = some remoteElapsed ∧
    ratio = (remoteElapsed + correction - rate.correctionPrevious) / localElapsed

theorem PtpPeerRate.intervalRatio_eq_some {localElapsed : Option F} {ratio : F}
    (h : rate.intervalRatio remote correction localElapsed = some ratio) :
    ∃ l r : F, localElapsed = some l ∧ ptpPeerElapsed remote rate.remotePrevious = some r ∧
      ratio = (r + correction - rate.correctionPrevious) / l := by
  unfold PtpPeerRate.intervalRatio at h
  split at h
  · rename_i l r hr
    simp only [Option.ite_none_right_eq_some] at h
    exact ⟨l, r, rfl, hr, by simpa using h.2.symm⟩
  · cases h

theorem PtpPeerRate.measure_measured
    (h : (rate.measure remote correction localTime).1.updates = rate.updates + 1) :
    rate.anchored = true ∧
      rate.IntervalTo remote correction localTime
        (rate.measure remote correction localTime).1.ratio := by
  unfold PtpPeerRate.measure at h ⊢
  dsimp only at h ⊢
  split at h
  · simp [PtpPeerRate.sampled] at h
  rename_i hkeep
  rw [if_neg hkeep]
  split at h
  · rename_i ratio hratio
    obtain ⟨l, r, hl, hr, hval⟩ := PtpPeerRate.intervalRatio_eq_some hratio
    unfold PtpPeerRate.localElapsed at hl
    split at hl
    · rename_i hanchored
      exact ⟨hanchored, l, r, hl, hr, hval⟩
    · cases hl
  · simp [PtpPeerRate.sampled] at h

/-- **A newly measured ratio ends an interval that the record began**: the same neighbor on
    the same link, anchored, and not told of a step since. -/
theorem ptpPeerRateUpdate_measured
    (h : (ptpPeerRateUpdate rate lifecycle responder remote correction localTime).1.updates =
      rate.updates + 1) :
    rate.lifecycle = lifecycle ∧ rate.responder = responder ∧ rate.anchored = true ∧
      rate.reanchor = false ∧
      rate.IntervalTo remote correction localTime
        (ptpPeerRateUpdate rate lifecycle responder remote correction localTime).1.ratio := by
  unfold ptpPeerRateUpdate at h ⊢
  by_cases hsame : rate.lifecycle ≠ lifecycle ∨ rate.responder ≠ responder
  · -- A fresh record is not anchored, so its first update counts nothing.
    have hfresh : rate.forNeighbor lifecycle responder =
        PtpPeerRate.fresh lifecycle responder := if_pos hsame
    rw [hfresh] at h
    simp [PtpPeerRate.fresh, PtpPeerRate.measure, PtpPeerRate.localElapsed,
      PtpPeerRate.intervalRatio, PtpPeerRate.sampled] at h
  · have hold : rate.forNeighbor lifecycle responder = rate := if_neg hsame
    push Not at hsame
    rw [hold] at h ⊢
    dsimp only at h ⊢
    split at h
    · simp [PtpPeerRate.sampled] at h
    · rename_i hanchor
      obtain ⟨hanchored, hinterval⟩ := PtpPeerRate.measure_measured h
      rw [if_neg hanchor]
      exact ⟨hsame.1, hsame.2, hanchored, by simpa using hanchor, hinterval⟩

end Measured

end EspPtp
