import EspPtp.Daemon.PhaseChange
import EspPtp.Daemon.Sync

/-!
# Scaled nanoseconds

Numbers of nanoseconds travel in units of 2⁻¹⁶, in 96 bits where a phase change is told and in
64 where a correction is. Three decoders read them, two of them the same field: `ptp.c` ors the
bytes of a correction into their places and `ptp_wifi.c` shifts them in. All of them round
down, and what they read is said once, by `beInt`.
-/

namespace EspPtp

open Lib

/-- `follow_up_correction_ns`. -/
def followUpCorrectionNs (header : PtpHeader) : Int :=
  let scaled := header.correction.toList.foldl
    (fun (scaled : UInt64) byte => (scaled <<< 8) ||| byte.toUInt64) 0
  (scaled.toInt64 >>> 16).toInt

theorem toList_correction (correction : Vector UInt8 8) :
    correction.toList = [correction[0], correction[1], correction[2], correction[3],
      correction[4], correction[5], correction[6], correction[7]] := by
  apply List.ext_getElem
  · simp
  · intro i hi _
    have hlt : i < 8 := by simpa using hi
    interval_cases i <;> simp

theorem getCorrectionNs_eq (correction : Vector UInt8 8) :
    getCorrectionNs correction = beInt correction.toList / 2 ^ 16 := by
  have hlength : correction.toList.length = 8 := Vector.length_toList
  have hbytes : (orBytes correction.toList 0).toNat = beNat correction.toList := by
    rw [toNat_orBytes (Nat.le_of_eq hlength) (Nat.dvd_zero _)]
    exact Nat.zero_add _
  have hread : getCorrectionNs correction =
      ((orBytes correction.toList 0).toInt64 >>> 16).toInt := by
    rw [toList_correction]
    rfl
  rw [hread, toInt_shiftRight_16, toInt_eq_beInt hlength hbytes]

theorem followUpCorrectionNs_eq (header : PtpHeader) :
    followUpCorrectionNs header = beInt header.correction.toList / 2 ^ 16 := by
  have hlength : header.correction.toList.length = 8 := Vector.length_toList
  have hbytes := toNat_foldl_shift header.correction.toList 0
    (by rw [hlength]; exact Nat.le_refl _)
  unfold followUpCorrectionNs
  dsimp only
  rw [toInt_shiftRight_16, toInt_eq_beInt hlength hbytes]

/-- Every field is that of an information TLV. -/
theorem lastGmPhaseChange_surjective : Function.Surjective lastGmPhaseChange := by
  intro scaled
  refine ⟨Vector.ofFn fun i =>
    if h : 16 ≤ i.val ∧ i.val < 28 then scaled[i.val - 16] else 0, ?_⟩
  apply Vector.ext
  intro i hi
  unfold lastGmPhaseChange
  have hinside : 16 ≤ 16 + i ∧ 16 + i < 28 := ⟨Nat.le_add_right 16 i, Nat.add_lt_add_left hi 16⟩
  rw [Vector.getElem_ofFn, Vector.getElem_ofFn, dif_pos hinside]
  simp

/-- **The codecs of scaled nanoseconds agree.** -/
theorem scaledNs_codecs :
    (∀ valueNs, Fits64 valueNs → ∀ info : Vector UInt8 32,
      lastGmPhaseChange info = ptpScaledNsFromNs valueNs →
        followUpPhaseChangeNs info = some valueNs) ∧
      (∀ scaled : Vector UInt8 12, ∃ info, lastGmPhaseChange info = scaled) ∧
      (∀ info : Vector UInt8 32,
        followUpPhaseChangeNs info =
          if Fits64 (beInt (lastGmPhaseChange info).toList / 2 ^ 16) then
            some (beInt (lastGmPhaseChange info).toList / 2 ^ 16)
          else none) ∧
      ∀ header : PtpHeader,
        getCorrectionNs header.correction = beInt header.correction.toList / 2 ^ 16 ∧
          followUpCorrectionNs header = beInt header.correction.toList / 2 ^ 16 :=
  ⟨fun _ hfits _ hfield => followUpPhaseChangeNs_written hfits hfield,
    lastGmPhaseChange_surjective, followUpPhaseChangeNs_eq,
    fun header => ⟨getCorrectionNs_eq header.correction, followUpCorrectionNs_eq header⟩⟩

/-- Half a nanosecond back is one nanosecond back. -/
example : getCorrectionNs #v[0xff, 0xff, 0xff, 0xff, 0xff, 0xff, 0x80, 0] = -1 := by decide

end EspPtp
