import EspPtp.Daemon.Servo
import EspPtp.Lib.Checked
import EspPtp.Wire.Timestamp

/-!
# Differences of times in 64 bits (`timespec_delta_ns`)

The difference of two times is computed from the difference of their seconds, in nanoseconds,
and that of two 48-bit seconds does not fit. The function says that it saturates, and looks
before it multiplies only in builds that declare times wide. Here it is twice: as a
computation that ends at an overflow, and as one that goes on with the low 64 bits, which is
where a far time can come out as a close one.
-/

namespace EspPtp

open Lib

/-! ## The difference -/

/-- The difference, over all integers. -/
def exactDeltaNs (ts1 ts2 : Timespec) : Int :=
  (ts1.tvSec - ts2.tvSec) * nsecPerSec + (ts1.tvNsec - ts2.tvNsec)

/-- `timespec_delta_ns`, as far as it does not overflow. -/
def timespecDeltaNsChecked (cfg : Config) (ts1 ts2 : Timespec) : Option Int :=
  checked64 (ts1.tvSec - ts2.tvSec) fun deltaS =>
    if cfg.systemTime64 && decide (deltaS ≥ int64Max.tdiv nsecPerSec) then some int64Max
    else if cfg.systemTime64 && decide (deltaS ≤ int64Min.tdiv nsecPerSec) then some int64Min
    else
      checked64 (deltaS * nsecPerSec) fun deltaNs =>
        checked64 (deltaNs + (ts1.tvNsec - ts2.tvNsec)) some

/-- `timespec_delta_ns` in two's complement. -/
def timespecDeltaNsWrapped (cfg : Config) (ts1 ts2 : Timespec) : Int :=
  let deltaS := wrap64 (ts1.tvSec - ts2.tvSec)
  if cfg.systemTime64 && decide (deltaS ≥ int64Max.tdiv nsecPerSec) then int64Max
  else if cfg.systemTime64 && decide (deltaS ≤ int64Min.tdiv nsecPerSec) then int64Min
  else wrap64 (wrap64 (deltaS * nsecPerSec) + (ts1.tvNsec - ts2.tvNsec))

/-- Without an overflow both are the difference of the model. -/
theorem timespecDeltaNsChecked_eq {cfg : Config} {ts1 ts2 : Timespec} {deltaNs : Int}
    (h : timespecDeltaNsChecked cfg ts1 ts2 = some deltaNs) :
    timespecDeltaNs cfg ts1 ts2 = deltaNs ∧ timespecDeltaNsWrapped cfg ts1 ts2 = deltaNs := by
  obtain ⟨hseconds, hrest⟩ := checked64_eq_some.mp h
  unfold timespecDeltaNs timespecDeltaNsWrapped
  dsimp only
  rw [wrap64_of_fits hseconds]
  split at hrest
  · rename_i hfar
    rw [if_pos hfar, if_pos hfar]
    exact ⟨Option.some.inj hrest, Option.some.inj hrest⟩
  rename_i hnotFar
  rw [if_neg hnotFar, if_neg hnotFar]
  split at hrest
  · rename_i hfar
    rw [if_pos hfar, if_pos hfar]
    exact ⟨Option.some.inj hrest, Option.some.inj hrest⟩
  rename_i hnotPast
  rw [if_neg hnotPast, if_neg hnotPast]
  obtain ⟨hproduct, hrest⟩ := checked64_eq_some.mp hrest
  obtain ⟨hsum, hrest⟩ := checked64_eq_some.mp hrest
  rw [wrap64_of_fits hproduct, wrap64_of_fits hsum]
  exact ⟨Option.some.inj hrest, Option.some.inj hrest⟩

section Narrow

variable {cfg : Config} (hnarrow : cfg.systemTime64 = false)
include hnarrow

theorem timespecDeltaNsChecked_narrow (ts1 ts2 : Timespec) :
    timespecDeltaNsChecked cfg ts1 ts2 =
      checked64 (ts1.tvSec - ts2.tvSec) fun deltaS =>
        checked64 (deltaS * nsecPerSec) fun deltaNs =>
          checked64 (deltaNs + (ts1.tvNsec - ts2.tvNsec)) some := by
  unfold timespecDeltaNsChecked
  rw [hnarrow]
  rfl

/-- The low 64 bits of the difference. -/
theorem timespecDeltaNsWrapped_narrow {ts1 ts2 : Timespec}
    (hseconds : Fits64 (ts1.tvSec - ts2.tvSec)) :
    timespecDeltaNsWrapped cfg ts1 ts2 = wrap64 (exactDeltaNs ts1 ts2) := by
  unfold timespecDeltaNsWrapped exactDeltaNs
  rw [hnarrow, wrap64_of_fits hseconds]
  exact wrap64_add_wrap64 _ _

end Narrow

/-! ## The decision -/

variable {F : Type} [CDouble F] {n : Nat}

/-- Whether `ptp_update_local_clock` takes the source for a far one, in two's complement. -/
def updateJumpsWrapped (cfg : Config) (s : PtpState F n) (remote localTime : Timespec) : Bool :=
  let offset := timespecDeltaNsWrapped cfg remote localTime
  let deltaNs :=
    if s.isGptp then
      CDouble.trunc
        (CDouble.ofInt offset + (CDouble.ofInt s.port0.peerDelayNs + s.correctionNs) : F)
    else wrap64 (offset + (s.port0.pathDelayNs + s.delayAsymmetryNs))
  let absdeltaNs := if deltaNs < 0 then wrap64 (-deltaNs) else deltaNs
  decide (absdeltaNs > cfg.settimeThresholdMs * 1000000)

/-- Where nothing overflows, it is the decision of the model. -/
theorem updateJumpsWrapped_eq {cfg : Config} {s : PtpState F n} {remote localTime : Timespec}
    {deltaNs : Int} (hdelta : timespecDeltaNsChecked cfg remote localTime = some deltaNs)
    (hfits : Fits64 (sourceOffsetNs cfg s remote localTime))
    (hopposite : Fits64 (-sourceOffsetNs cfg s remote localTime)) :
    updateJumpsWrapped cfg s remote localTime =
      decide (((sourceOffsetNs cfg s remote localTime).natAbs : Int) >
        cfg.settimeThresholdMs * 1000000) := by
  obtain ⟨hexact, hwrapped⟩ := timespecDeltaNsChecked_eq hdelta
  have hoffset : (if s.isGptp then
      CDouble.trunc
        (CDouble.ofInt deltaNs + (CDouble.ofInt s.port0.peerDelayNs + s.correctionNs) : F)
      else wrap64 (deltaNs + (s.port0.pathDelayNs + s.delayAsymmetryNs))) =
        sourceOffsetNs cfg s remote localTime := by
    unfold sourceOffsetNs at hfits ⊢
    dsimp only at hfits ⊢
    rw [hexact] at hfits ⊢
    by_cases hgptp : s.isGptp = true
    · rw [if_pos hgptp, if_pos hgptp]
    · rw [if_neg hgptp] at hfits ⊢
      rw [if_neg hgptp, wrap64_of_fits hfits]
  unfold updateJumpsWrapped
  dsimp only
  rw [hwrapped, hoffset, wrap64_of_fits hopposite]
  congr 2
  split <;> omega

/-- In the standard profile the decision is about the low 64 bits of the whole sum, however
    far away the source is. -/
theorem updateJumpsWrapped_narrow {cfg : Config} (hnarrow : cfg.systemTime64 = false)
    {s : PtpState F n} (hprofile : s.isGptp = false) {remote localTime : Timespec}
    (hseconds : Fits64 (remote.tvSec - localTime.tvSec)) :
    updateJumpsWrapped cfg s remote localTime =
      let deltaNs := wrap64
        (exactDeltaNs remote localTime + (s.port0.pathDelayNs + s.delayAsymmetryNs))
      decide ((if deltaNs < 0 then wrap64 (-deltaNs) else deltaNs) >
        cfg.settimeThresholdMs * 1000000) := by
  unfold updateJumpsWrapped
  dsimp only
  rw [timespecDeltaNsWrapped_narrow hnarrow hseconds, hprofile, if_neg Bool.false_ne_true,
    wrap64_add_wrap64]

/-! ## When the difference saturates -/

/-- A time that a message can give. -/
def Timespec.OnWire (t : Timespec) : Prop := 0 ≤ t.tvSec ∧ t.tvSec < 2 ^ 48 ∧ t.Normalized

theorem ptpFormatToTimespec_onWire {timestamp : Vector UInt8 10}
    (h : Timestamp.nanoseconds timestamp < 1000000000) :
    (ptpFormatToTimespec timestamp).OnWire := by
  refine ⟨?_, ?_, (ptpFormatToTimespec_normalized_iff timestamp).mpr h⟩
  · rw [tvSec_ptpFormatToTimespec]
    exact Int.natCast_nonneg _
  · have h0 := timestamp[0].toNat_lt
    have h1 := timestamp[1].toNat_lt
    have h2 := timestamp[2].toNat_lt
    have h3 := timestamp[3].toNat_lt
    have h4 := timestamp[4].toNat_lt
    have h5 := timestamp[5].toNat_lt
    rw [tvSec_ptpFormatToTimespec]
    unfold Timestamp.seconds
    omega

/-- What the comment of `timespec_delta_ns` says, and what its caller makes of it: a source
    that is further away than 64 bits of nanoseconds is not taken for a close one. -/
structure DeltaSaturates (F : Type) [CDouble F] (cfg : Config) (remote localTime : Timespec) :
    Prop where
  delta : timespecDeltaNsChecked cfg remote localTime =
    some (saturate64 (exactDeltaNs remote localTime))
  far : ¬ Fits64 (exactDeltaNs remote localTime) →
    ∀ (n : Nat) (s : PtpState F n), updateJumpsWrapped cfg s remote localTime = true

/-- The seconds are no further apart than can be multiplied, and the nanoseconds do not carry
    the difference out. -/
def WithinInt64 (remote localTime : Timespec) : Prop :=
  -9223372036 ≤ remote.tvSec - localTime.tvSec ∧ remote.tvSec - localTime.tvSec ≤ 9223372036 ∧
    Fits64 (exactDeltaNs remote localTime)

/-- **A build that does not declare its times wide saturates no difference**: it computes those
    that need not be, up to 292 years, and overflows at every other one. -/
theorem timespecDeltaNs_saturates_iff (F : Type) [CDouble F] {cfg : Config}
    (hnarrow : cfg.systemTime64 = false) {remote localTime : Timespec} (hremote : remote.OnWire)
    (hlocal : localTime.OnWire) :
    DeltaSaturates F cfg remote localTime ↔ WithinInt64 remote localTime := by
  have hseconds : Fits64 (remote.tvSec - localTime.tvSec) := by
    obtain ⟨hpos, hlt, -⟩ := hremote
    obtain ⟨hpos', hlt', -⟩ := hlocal
    unfold Fits64
    omega
  have hproduct : Fits64 ((remote.tvSec - localTime.tvSec) * nsecPerSec) ↔
      -9223372036 ≤ remote.tvSec - localTime.tvSec ∧
        remote.tvSec - localTime.tvSec ≤ 9223372036 := by
    unfold Fits64 nsecPerSec
    omega
  have hcode := timespecDeltaNsChecked_narrow hnarrow remote localTime
  rw [checked64_of hseconds] at hcode
  constructor
  · intro h
    have hsome := h.delta
    rw [hcode] at hsome
    obtain ⟨hfits, hrest⟩ := checked64_eq_some.mp hsome
    obtain ⟨hsum, -⟩ := checked64_eq_some.mp hrest
    obtain ⟨hlow, hhigh⟩ := hproduct.mp hfits
    exact ⟨hlow, hhigh, hsum⟩
  · rintro ⟨hlow, hhigh, hsum⟩
    refine ⟨?_, fun hfar => absurd hsum hfar⟩
    rw [hcode, checked64_of (hproduct.mpr ⟨hlow, hhigh⟩), saturate64_of_fits hsum]
    exact checked64_of hsum

/-- A difference of an hour. -/
theorem timespecDeltaNs_saturates_iff_hour :
    Sample.narrowConfig.systemTime64 = false ∧ (⟨3600, 0⟩ : Timespec).OnWire ∧
      (⟨0, 0⟩ : Timespec).OnWire ∧
      (DeltaSaturates ℚ Sample.narrowConfig ⟨3600, 0⟩ ⟨0, 0⟩ ↔
        WithinInt64 ⟨3600, 0⟩ ⟨0, 0⟩) :=
  have hhour : (⟨3600, 0⟩ : Timespec).OnWire := ⟨by decide, by decide, by decide⟩
  have hzero : (⟨0, 0⟩ : Timespec).OnWire := ⟨by decide, by decide, by decide⟩
  ⟨rfl, hhour, hzero, timespecDeltaNs_saturates_iff ℚ rfl hhour hzero⟩

/-- A source 584 years ahead comes out as no difference at all, and is followed instead of
    jumped to. -/
theorem timespecDeltaNs_wraps :
    let remote := ptpFormatToTimespec #v[0, 4, 75, 130, 250, 10, 0, 0, 0, 0]
    let localTime : Timespec := ⟨0, 290448384⟩
    remote = ⟨18446744074, 0⟩ ∧ remote.OnWire ∧ localTime.OnWire ∧
      timespecDeltaNsWrapped Sample.narrowConfig remote localTime = 0 ∧
      updateJumpsWrapped Sample.narrowConfig (default : PtpState ℚ 0) remote localTime = false ∧
      ¬ DeltaSaturates ℚ Sample.narrowConfig remote localTime := by
  have hremote : ptpFormatToTimespec #v[0, 4, 75, 130, 250, 10, 0, 0, 0, 0] =
      ⟨18446744074, 0⟩ := by decide
  dsimp only
  refine ⟨hremote, ptpFormatToTimespec_onWire (by decide), ⟨by decide, by decide, by decide⟩, ?_⟩
  rw [hremote]
  refine ⟨by decide, by decide, fun h => ?_⟩
  have hdelta := h.delta
  rw [show timespecDeltaNsChecked Sample.narrowConfig ⟨18446744074, 0⟩ ⟨0, 290448384⟩ = none
    by decide] at hdelta
  cases hdelta

end EspPtp
