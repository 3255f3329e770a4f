import EspPtp.Wire.Codec

/-!
# Messages that agree at the front

What is read from a message is read below some offset, and the bytes from there on do not
matter. `Agree` relates two messages with the same bytes below an offset, and each reader has
a lemma that says below which offset it stays.
-/

namespace EspPtp

open Lib

/-- The two messages have the same bytes below `length`. -/
def Agree (length : Nat) (a b : Bytes) : Prop := ∀ i < length, a.u8 i = b.u8 i

namespace Agree

variable {length : Nat} {a b : Bytes}

theorem refl (a : Bytes) : Agree length a a := fun _ _ => rfl

theorem symm (h : Agree length a b) : Agree length b a := fun i hi => (h i hi).symm

theorem mono {length' : Nat} (h : Agree length a b) (hle : length' ≤ length) :
    Agree length' a b :=
  fun i hi => h i (Nat.lt_of_lt_of_le hi hle)

/-- What follows a message does not change it. -/
theorem append (a rest : Bytes) : Agree a.length (a ++ rest) a :=
  fun _ hi => Bytes.u8_append_left hi

theorem word (h : Agree length a b) {i : Nat} (hi : i + 2 ≤ length) : a.word i = b.word i := by
  unfold Bytes.word
  rw [h i (by omega), h (i + 1) (by omega)]

theorem field (h : Agree length a b) {start count : Nat} (hle : start + count ≤ length) :
    a.field start count = b.field start count := by
  apply Vector.ext
  intro i hi
  rw [Bytes.field, Bytes.field, Vector.getElem_ofFn, Vector.getElem_ofFn, h _ (by omega)]

theorem span (h : Agree length a b) {start count : Nat} (hle : start + count ≤ length) :
    a.span start count = b.span start count := by
  rw [← Bytes.toList_field, ← Bytes.toList_field, h.field hle]

/-! ## The views -/

theorem header (h : Agree length a b) (hle : 34 ≤ length) :
    PtpHeader.read a = PtpHeader.read b := by
  unfold PtpHeader.read
  rw [h 0 (by omega), h 1 (by omega), h 4 (by omega), h 5 (by omega), h 32 (by omega),
    h 33 (by omega), h.field (by omega), h.field (by omega), h.field (by omega),
    h.field (by omega), h.field (by omega), h.field (by omega), h.field (by omega)]

theorem announce (h : Agree length a b) (hle : 64 ≤ length) :
    PtpAnnounce.read a = PtpAnnounce.read b := by
  unfold PtpAnnounce.read
  rw [h.header (by omega), h 46 (by omega), h 47 (by omega), h 52 (by omega), h 63 (by omega),
    h.field (by omega), h.field (by omega), h.field (by omega), h.field (by omega),
    h.field (by omega)]

theorem sync (h : Agree length a b) (hle : 44 ≤ length) : PtpSync.read a = PtpSync.read b := by
  unfold PtpSync.read
  rw [h.header (by omega), h.field (by omega)]

theorem followUp (h : Agree length a b) (hle : 76 ≤ length) :
    PtpFollowUp.read a = PtpFollowUp.read b := by
  unfold PtpFollowUp.read
  rw [h.header (by omega), h.field (by omega), h.field (by omega)]

theorem delayReq (h : Agree length a b) (hle : 44 ≤ length) :
    PtpDelayReq.read a = PtpDelayReq.read b := by
  unfold PtpDelayReq.read
  rw [h.header (by omega), h.field (by omega)]

theorem delayResp (h : Agree length a b) (hle : 54 ≤ length) :
    PtpDelayResp.read a = PtpDelayResp.read b := by
  unfold PtpDelayResp.read
  rw [h.header (by omega), h.field (by omega), h.field (by omega), h.field (by omega)]

theorem delayRespFollowUp (h : Agree length a b) (hle : 54 ≤ length) :
    PtpDelayRespFollowUp.read a = PtpDelayRespFollowUp.read b := by
  unfold PtpDelayRespFollowUp.read
  rw [h.header (by omega), h.field (by omega), h.field (by omega), h.field (by omega)]

end Agree

end EspPtp
