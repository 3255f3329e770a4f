import Mathlib.Tactic.IntervalCases
import EspPtp.Config
import EspPtp.Lib.BigEndian

/-!
# Timestamps on the wire

Six bytes of seconds and four of nanoseconds. Nothing in the format keeps the nanoseconds
below a second: `ptpFormatToTimespec` reads all 32 bits of them, into a signed word.
-/

namespace EspPtp

open Lib

attribute [ext] Timespec

/-- A time of day: its nanoseconds are less than a second. -/
def Timespec.Normalized (t : Timespec) : Prop := 0 ≤ t.tvNsec ∧ t.tvNsec < nsecPerSec

instance (t : Timespec) : Decidable t.Normalized :=
  inferInstanceAs (Decidable (0 ≤ t.tvNsec ∧ t.tvNsec < nsecPerSec))

namespace Timestamp

variable (timestamp : Vector UInt8 10)

/-- The seconds of a timestamp, as they are written. -/
def seconds : Nat :=
  timestamp[0].toNat * 2 ^ 40 + timestamp[1].toNat * 2 ^ 32 + timestamp[2].toNat * 2 ^ 24 +
    timestamp[3].toNat * 2 ^ 16 + timestamp[4].toNat * 2 ^ 8 + timestamp[5].toNat

/-- The nanoseconds of a timestamp, as they are written. -/
def nanoseconds : Nat :=
  timestamp[6].toNat * 2 ^ 24 + timestamp[7].toNat * 2 ^ 16 + timestamp[8].toNat * 2 ^ 8 +
    timestamp[9].toNat

end Timestamp

theorem tvSec_ptpFormatToTimespec (timestamp : Vector UInt8 10) :
    (ptpFormatToTimespec timestamp).tvSec = Timestamp.seconds timestamp :=
  congrArg Nat.cast (toNat_word48 ..)

/-- The nanoseconds come out as they are written, up to the sign bit. -/
theorem tvNsec_ptpFormatToTimespec (timestamp : Vector UInt8 10) :
    (ptpFormatToTimespec timestamp).tvNsec =
      (Timestamp.nanoseconds timestamp : Int).bmod (2 ^ 32) := by
  have hword := toNat_word32 timestamp[6] timestamp[7] timestamp[8] timestamp[9]
  unfold Timestamp.nanoseconds ptpFormatToTimespec
  dsimp only
  rw [← hword]
  exact BitVec.toInt_eq_toNat_bmod _

/-- **A received timestamp is a time of day exactly if its nanoseconds are written as less
    than a second.** -/
theorem ptpFormatToTimespec_normalized_iff (timestamp : Vector UInt8 10) :
    (ptpFormatToTimespec timestamp).Normalized ↔ Timestamp.nanoseconds timestamp < 1000000000 := by
  have hbound : Timestamp.nanoseconds timestamp < 2 ^ 32 := by
    have h6 := timestamp[6].toNat_lt
    have h7 := timestamp[7].toNat_lt
    have h8 := timestamp[8].toNat_lt
    have h9 := timestamp[9].toNat_lt
    unfold Timestamp.nanoseconds
    omega
  unfold Timespec.Normalized nsecPerSec
  rw [tvNsec_ptpFormatToTimespec, Int.bmod_def]
  split <;> omega

/-! ## Sums and differences -/

theorem Timespec.Normalized.sub {a b : Timespec} (ha : a.Normalized) (hb : b.Normalized) :
    (timespecSub a b).Normalized := by
  unfold Normalized nsecPerSec at *
  unfold timespecSub nsecPerSec
  dsimp only
  split <;> dsimp only <;> omega

/-- One carry is enough for two times of day, and for nothing else. -/
theorem Timespec.Normalized.add {a b : Timespec} (ha : a.Normalized) (hb : b.Normalized) :
    (timespecAdd a b).Normalized := by
  unfold Normalized nsecPerSec at *
  unfold timespecAdd nsecPerSec
  dsimp only
  split <;> dsimp only <;> omega

/-! ## There and back -/

/-- The seconds fit the format: 48 bits where times have 64, else 32. -/
def Timespec.Encodable (cfg : Config) (t : Timespec) : Prop :=
  0 ≤ t.tvSec ∧ t.tvSec < (if cfg.systemTime64 then 2 ^ 48 else 2 ^ 32) ∧ t.Normalized

/-- **What is written is read back.** -/
theorem ptpFormatToTimespec_timespecToPtpFormat (cfg : Config) {t : Timespec}
    (h : t.Encodable cfg) : ptpFormatToTimespec (timespecToPtpFormat cfg t) = t := by
  obtain ⟨hpos, hfits, hnsec⟩ := h
  unfold Timespec.Normalized nsecPerSec at hnsec
  have hsec : (Timestamp.seconds (timespecToPtpFormat cfg t) : Int) = t.tvSec := by
    unfold Timestamp.seconds timespecToPtpFormat
    cases htime : cfg.systemTime64 with
    | true =>
      simp only [htime, if_true] at hfits
      push_cast
      simp [toNat_ofInt_byte]
      omega
    | false =>
      simp only [htime, Bool.false_eq_true, if_false] at hfits
      push_cast
      simp [toNat_ofInt_byte]
      omega
  have hnanos : (Timestamp.nanoseconds (timespecToPtpFormat cfg t) : Int) = t.tvNsec := by
    unfold Timestamp.nanoseconds timespecToPtpFormat
    push_cast
    simp [toNat_ofInt_byte]
    omega
  have hkept : (ptpFormatToTimespec (timespecToPtpFormat cfg t)).tvNsec = t.tvNsec := by
    rw [tvNsec_ptpFormatToTimespec, hnanos, Int.bmod_def]
    split <;> omega
  exact Timespec.ext ((tvSec_ptpFormatToTimespec _).trans hsec) hkept

/-- The digits of a number spell it. -/
theorem ofInt_digit {x : Int} {shift : Nat} {byte : UInt8}
    (h : x / 2 ^ shift % 256 = byte.toNat) : UInt8.ofInt (x / 2 ^ shift) = byte := by
  have hdigit := toNat_ofInt_byte (x / 2 ^ shift)
  rw [h] at hdigit
  exact UInt8.toNat_inj.mp (Int.ofNat.inj hdigit)

/-- What was read is written back, but for the two bytes that only the wide times have. -/
theorem timespecToPtpFormat_ptpFormatToTimespec (cfg : Config) (timestamp : Vector UInt8 10) :
    timespecToPtpFormat cfg (ptpFormatToTimespec timestamp) =
      #v[if cfg.systemTime64 then timestamp[0] else 0,
        if cfg.systemTime64 then timestamp[1] else 0, timestamp[2], timestamp[3], timestamp[4],
        timestamp[5], timestamp[6], timestamp[7], timestamp[8], timestamp[9]] := by
  have hsec := tvSec_ptpFormatToTimespec timestamp
  have hnsec : ∃ wraps : Int, (ptpFormatToTimespec timestamp).tvNsec =
      (Timestamp.nanoseconds timestamp : Int) + 2 ^ 32 * wraps := by
    rw [tvNsec_ptpFormatToTimespec, Int.bmod_def]
    split
    · exact ⟨-((Timestamp.nanoseconds timestamp : Int) / 2 ^ 32), by omega⟩
    · exact ⟨-((Timestamp.nanoseconds timestamp : Int) / 2 ^ 32) - 1, by omega⟩
  obtain ⟨wraps, hnsec⟩ := hnsec
  have h0 := timestamp[0].toNat_lt
  have h1 := timestamp[1].toNat_lt
  have h2 := timestamp[2].toNat_lt
  have h3 := timestamp[3].toNat_lt
  have h4 := timestamp[4].toNat_lt
  have h5 := timestamp[5].toNat_lt
  have h6 := timestamp[6].toNat_lt
  have h7 := timestamp[7].toNat_lt
  have h8 := timestamp[8].toNat_lt
  have h9 := timestamp[9].toNat_lt
  unfold Timestamp.seconds at hsec
  unfold Timestamp.nanoseconds at hnsec
  generalize ptpFormatToTimespec timestamp = t at hsec hnsec
  unfold timespecToPtpFormat
  dsimp only
  have hb0 : UInt8.ofInt (t.tvSec / 2 ^ 40) = timestamp[0] := ofInt_digit (by omega)
  have hb1 : UInt8.ofInt (t.tvSec / 2 ^ 32) = timestamp[1] := ofInt_digit (by omega)
  have hb2 : UInt8.ofInt (t.tvSec / 2 ^ 24) = timestamp[2] := ofInt_digit (by omega)
  have hb3 : UInt8.ofInt (t.tvSec / 2 ^ 16) = timestamp[3] := ofInt_digit (by omega)
  have hb4 : UInt8.ofInt (t.tvSec / 2 ^ 8) = timestamp[4] := ofInt_digit (by omega)
  have hb5 : UInt8.ofInt (t.tvSec / 2 ^ 0) = timestamp[5] := ofInt_digit (by omega)
  have hb6 : UInt8.ofInt (t.tvNsec / 2 ^ 24) = timestamp[6] := ofInt_digit (by omega)
  have hb7 : UInt8.ofInt (t.tvNsec / 2 ^ 16) = timestamp[7] := ofInt_digit (by omega)
  have hb8 : UInt8.ofInt (t.tvNsec / 2 ^ 8) = timestamp[8] := ofInt_digit (by omega)
  have hb9 : UInt8.ofInt (t.tvNsec / 2 ^ 0) = timestamp[9] := ofInt_digit (by omega)
  rw [hb0, hb1, hb2, hb3, hb4, hb5, hb6, hb7, hb8, hb9]

/-- Seconds that begin with two zeros. -/
theorem Timestamp.seconds_lt {timestamp : Vector UInt8 10} (hfirst : timestamp[0] = 0)
    (hsecond : timestamp[1] = 0) : Timestamp.seconds timestamp < 2 ^ 32 := by
  have h2 := timestamp[2].toNat_lt
  have h3 := timestamp[3].toNat_lt
  have h4 := timestamp[4].toNat_lt
  have h5 := timestamp[5].toNat_lt
  unfold Timestamp.seconds
  rw [hfirst, hsecond, UInt8.toNat_zero]
  omega

theorem timestamp_eta (timestamp : Vector UInt8 10) :
    timestamp = #v[timestamp[0], timestamp[1], timestamp[2], timestamp[3], timestamp[4],
      timestamp[5], timestamp[6], timestamp[7], timestamp[8], timestamp[9]] := by
  ext i hi
  interval_cases i <;> rfl

/-- A timestamp is written back as it was read where nothing of it is left out. -/
theorem timespecToPtpFormat_read_iff (cfg : Config) (timestamp : Vector UInt8 10) :
    timespecToPtpFormat cfg (ptpFormatToTimespec timestamp) = timestamp ↔
      cfg.systemTime64 = true ∨ (timestamp[0] = 0 ∧ timestamp[1] = 0) := by
  have hwritten := timespecToPtpFormat_ptpFormatToTimespec cfg timestamp
  cases hwide : cfg.systemTime64 with
  | true =>
    rw [hwide, if_pos rfl, if_pos rfl, ← timestamp_eta] at hwritten
    exact iff_of_true hwritten (.inl rfl)
  | false =>
    rw [hwide, if_neg Bool.false_ne_true, if_neg Bool.false_ne_true] at hwritten
    rw [hwritten]
    constructor
    · intro hsame
      refine .inr ⟨?_, ?_⟩
      · exact (congrArg (fun b : Vector UInt8 10 => b[0]) hsame).symm
      · exact (congrArg (fun b : Vector UInt8 10 => b[1]) hsame).symm
    · rintro (h | ⟨hfirst, hsecond⟩)
      · cases h
      · conv_rhs => rw [timestamp_eta timestamp, hfirst, hsecond]

/-- A time is read back as it was written where nothing of it is left out. -/
theorem ptpFormatToTimespec_written_iff (cfg : Config) {t : Timespec} (hpos : 0 ≤ t.tvSec)
    (hlt : t.tvSec < 2 ^ 48) (hnormalized : t.Normalized) :
    ptpFormatToTimespec (timespecToPtpFormat cfg t) = t ↔
      cfg.systemTime64 = true ∨ t.tvSec < 2 ^ 32 := by
  constructor
  · intro hsame
    by_contra hno
    rw [not_or, Bool.not_eq_true] at hno
    obtain ⟨hnarrow, hlate⟩ := hno
    have hfirst : (timespecToPtpFormat cfg t)[0] = 0 := if_neg (hnarrow ▸ Bool.false_ne_true)
    have hsecond : (timespecToPtpFormat cfg t)[1] = 0 := if_neg (hnarrow ▸ Bool.false_ne_true)
    have hbound := Timestamp.seconds_lt hfirst hsecond
    rw [← hsame, tvSec_ptpFormatToTimespec] at hlate
    exact hlate (Int.ofNat_lt.mpr hbound)
  · intro h
    refine ptpFormatToTimespec_timespecToPtpFormat cfg ⟨hpos, ?_, hnormalized⟩
    split
    · exact hlt
    · rename_i hnarrow
      exact h.resolve_left hnarrow

/-- **The timestamp codec**: the two directions undo each other, but for the seconds from 2^32
    on, which are read in every build and written only where times are declared wide. -/
theorem timestampCodec_inverse_iff (cfg : Config) :
    (∀ timestamp : Vector UInt8 10, Timestamp.nanoseconds timestamp < 1000000000 →
      (timespecToPtpFormat cfg (ptpFormatToTimespec timestamp) = timestamp ↔
        cfg.systemTime64 = true ∨ (timestamp[0] = 0 ∧ timestamp[1] = 0))) ∧
    ∀ t : Timespec, 0 ≤ t.tvSec → t.tvSec < 2 ^ 48 → t.Normalized →
      (ptpFormatToTimespec (timespecToPtpFormat cfg t) = t ↔
        cfg.systemTime64 = true ∨ t.tvSec < 2 ^ 32) :=
  ⟨fun timestamp _ => timespecToPtpFormat_read_iff cfg timestamp,
    fun _ hpos hlt hnormalized => ptpFormatToTimespec_written_iff cfg hpos hlt hnormalized⟩

/-- A time of this century, and the bytes it is written as. -/
theorem timestampCodec_inverse_iff_now :
    let timestamp : Vector UInt8 10 := #v[0, 0, 104, 119, 0, 0, 0, 0, 3, 232]
    let t : Timespec := ⟨1752629248, 1000⟩
    (timespecToPtpFormat Sample.config (ptpFormatToTimespec timestamp) = timestamp ↔
      Sample.config.systemTime64 = true ∨ (timestamp[0] = 0 ∧ timestamp[1] = 0)) ∧
    (ptpFormatToTimespec (timespecToPtpFormat Sample.config t) = t ↔
      Sample.config.systemTime64 = true ∨ t.tvSec < 2 ^ 32) :=
  ⟨(timestampCodec_inverse_iff Sample.config).1 #v[0, 0, 104, 119, 0, 0, 0, 0, 3, 232] (by decide),
    (timestampCodec_inverse_iff Sample.config).2 ⟨1752629248, 1000⟩ (by decide) (by decide)
      ⟨by decide, by decide⟩⟩

/-- A build that does not declare its times wide. -/
def Sample.narrowConfig : Config := { Sample.config with systemTime64 := false }

/-- The second 2^32 is written as the second 0, and read as itself. -/
theorem timestampCodec_wraps :
    let t : Timespec := ⟨2 ^ 32, 0⟩
    let timestamp : Vector UInt8 10 := #v[0, 1, 0, 0, 0, 0, 0, 0, 0, 0]
    t.Normalized ∧ Timestamp.nanoseconds timestamp < 1000000000 ∧
      ptpFormatToTimespec timestamp = t ∧
      ptpFormatToTimespec (timespecToPtpFormat Sample.narrowConfig t) = ⟨0, 0⟩ ∧
      timespecToPtpFormat Sample.narrowConfig (ptpFormatToTimespec timestamp) ≠ timestamp := by
  exact ⟨by decide, by decide, by decide, by decide, by decide⟩

end EspPtp
