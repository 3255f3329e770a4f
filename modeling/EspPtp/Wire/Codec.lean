import EspPtp.Lib.BigEndian
import EspPtp.Wire.TlvWalk
import Mathlib.Data.List.GetD

/-!
# Messages are read back

What is written as a message reads as that message, whatever follows it in the buffer. Every
field has its own offset in the source; the lemmas here walk over the parts of a written
message to the field, so that no offset is counted twice.

`ptp_gptp_wire_normalize` comes between the writing and the reading. It touches a few bytes
only (`wireTouches`), and those depend on the type of the message alone.
-/

namespace EspPtp

open Lib

namespace Bytes

variable {a b : Bytes} {start count : Nat}

theorem u8_append_left {i : Nat} (h : i < a.length) : u8 (a ++ b) i = u8 a i := by
  unfold u8
  rw [List.getD_append _ _ _ _ h]

theorem u8_append_right {i : Nat} (h : a.length ≤ i) : u8 (a ++ b) i = u8 b (i - a.length) := by
  unfold u8
  rw [List.getD_append_right _ _ _ _ h]

theorem field_append_left (h : start + count ≤ a.length) :
    field (a ++ b) start count = field a start count := by
  apply Vector.ext
  intro i hi
  rw [field, field, Vector.getElem_ofFn, Vector.getElem_ofFn, u8_append_left (by omega)]

theorem field_append_right (h : a.length ≤ start) :
    field (a ++ b) start count = field b (start - a.length) count := by
  apply Vector.ext
  intro i hi
  rw [field, field, Vector.getElem_ofFn, Vector.getElem_ofFn, u8_append_right (by omega)]
  congr 1
  omega

theorem span_append_left (h : start + count ≤ a.length) :
    span (a ++ b) start count = span a start count := by
  rw [← toList_field, ← toList_field, field_append_left h]

theorem span_append_right (h : a.length ≤ start) :
    span (a ++ b) start count = span b (start - a.length) count := by
  rw [← toList_field, ← toList_field, field_append_right h]

/-- All bytes of a message. -/
theorem span_all (a : Bytes) : span a 0 a.length = a := by
  apply List.ext_getElem
  · simp
  · intro k hk hk'
    simp [span, u8, hk']

/-- The field at the front. -/
theorem field_toList_append (v : Vector UInt8 count) (b : Bytes) :
    field (v.toList ++ b) 0 count = v := by
  apply Vector.ext
  intro i hi
  rw [field, Vector.getElem_ofFn, Nat.zero_add, u8_append_left (by simpa using hi), u8,
    List.getD_eq_getElem _ _ (by simpa using hi), Vector.getElem_toList]

theorem field_toList (v : Vector UInt8 count) : field v.toList 0 count = v := by
  have h := field_toList_append v []
  rwa [List.append_nil] at h

theorem u8_cons_zero (byte : UInt8) (b : Bytes) : u8 (byte :: b) 0 = byte := rfl

theorem u8_cons {i : Nat} (byte : UInt8) (b : Bytes) (h : 0 < i) :
    u8 (byte :: b) i = u8 b (i - 1) := by
  obtain ⟨i, rfl⟩ := Nat.exists_eq_succ_of_ne_zero (Nat.pos_iff_ne_zero.mp h)
  rfl

theorem field_cons (byte : UInt8) (b : Bytes) (h : 0 < start) :
    field (byte :: b) start count = field b (start - 1) count := by
  apply Vector.ext
  intro i hi
  rw [field, field, Vector.getElem_ofFn, Vector.getElem_ofFn, u8_cons _ _ (by omega)]
  congr 1
  omega

end Bytes

/-! ## Headers and bodies -/

/-- A header is read back. -/
theorem PtpHeader.read_write (h : PtpHeader) (rest : Bytes) :
    PtpHeader.read (h.write ++ rest) = h := by
  unfold read write
  simp [Bytes.u8_cons_zero, Bytes.u8_cons, Bytes.u8_append_right, Bytes.field_cons,
    Bytes.field_append_right, Bytes.field_toList_append]

/-- The type of an organization's TLV that is not passed on. -/
theorem organizationTlv_lt : 0x8000 < 2 ^ 16 := by decide

/-- A field of two bytes as a number. -/
theorem Bytes.word_eq_field (m : Bytes) (i : Nat) :
    m.word i = beWord (octet0 (m.field i 2)) (octet1 (m.field i 2)) := by
  simp [Bytes.word, Bytes.field, beWord]

theorem toNat_be16 (b : Vector UInt8 2) : (be16 b).toNat = beWord (octet0 b) (octet1 b) := by
  have hhi := (octet0 b).toNat_lt
  have hlo := (octet1 b).toNat_lt
  unfold be16 beWord
  rw [UInt16.toNat_or, UInt16.toNat_shiftLeft, UInt8.toNat_toUInt16, UInt8.toNat_toUInt16]
  simp only [Nat.shiftLeft_eq, UInt16.reduceToNat, Nat.reduceMod]
  rw [Nat.mod_eq_of_lt (by omega), or_eq_add _ _ 8 ⟨(octet0 b).toNat, by omega⟩ (by omega)]

/-- A number is put together again from its two bytes. -/
theorem be16_bytes (x : UInt16) : be16 #v[(x >>> 8).toUInt8, x.toUInt8] = x := by
  have hlt := x.toNat_lt
  have hhigh : (x >>> 8).toUInt8.toNat = x.toNat / 256 := by
    rw [UInt16.toNat_toUInt8, UInt16.toNat_shiftRight, Nat.shiftRight_eq_div_pow]
    show x.toNat / 2 ^ 8 % 2 ^ 8 = x.toNat / 256
    omega
  have hlow : x.toUInt8.toNat = x.toNat % 256 := UInt16.toNat_toUInt8 x
  apply UInt16.toNat_inj.mp
  rw [toNat_be16]
  show (x >>> 8).toUInt8.toNat * 256 + x.toUInt8.toNat = x.toNat
  omega

/-- The type of a message is that of its header. -/
theorem PtpHeader.u8_zero {m : Bytes} {h : PtpHeader} (hread : PtpHeader.read m = h) :
    m.u8 0 = h.messagetype := by
  rw [← hread]
  rfl

/-- The length a message gives itself is that of its header. -/
theorem PtpHeader.word_two {m : Bytes} {h : PtpHeader} (hread : PtpHeader.read m = h) :
    m.word 2 = beWord (octet0 h.messagelength) (octet1 h.messagelength) := by
  rw [← hread, Bytes.word_eq_field]
  rfl

/-- The body of `struct ptp_announce_s`. -/
def PtpAnnounce.write (msg : PtpAnnounce) : Bytes :=
  msg.header.write ++ msg.origintimestamp.toList ++ msg.utcoffset.toList ++
    [msg.reserved, msg.btcPriority1] ++ msg.btcQuality.toList ++ [msg.btcPriority2] ++
    msg.btcIdentity.toList ++ msg.stepsremoved.toList ++ [msg.timesource]

@[simp] theorem PtpAnnounce.write_length (msg : PtpAnnounce) :
    msg.write.length = 64 := by
  simp [PtpAnnounce.write]

/-- An Announce is read back. -/
theorem PtpAnnounce.read_write (msg : PtpAnnounce) (rest : Bytes) :
    PtpAnnounce.read (msg.write ++ rest) = msg := by
  unfold read write
  simp only [List.append_assoc, PtpHeader.read_write]
  simp [Bytes.u8_cons_zero, Bytes.u8_cons, Bytes.u8_append_right, Bytes.field_cons,
    Bytes.field_append_right, Bytes.field_toList_append]

theorem PtpAnnounce.header_write (msg : PtpAnnounce) (rest : Bytes) :
    PtpHeader.read (msg.write ++ rest) = msg.header := by
  have hread : (PtpAnnounce.read (msg.write ++ rest)).header = msg.header := by
    rw [PtpAnnounce.read_write]
  exact hread

/-! ## What the normalization touches -/

/-- The bytes `ptp_gptp_wire_normalize` may write in a message of a type. -/
def wireTouches (messagetype : UInt8) (i : Nat) : Prop :=
  let type := messagetype &&& 15
  i = 1 ∨ i = 5 ∨ (16 ≤ i ∧ i < 20) ∨ i = 32 ∨ (type = 12 ∧ i = 33) ∨
    (type = 11 ∧ ((34 ≤ i ∧ i < 44) ∨ i = 46)) ∨ (type = 2 ∧ 34 ≤ i ∧ i < 54) ∨
      (type = 0 ∧ 34 ≤ i ∧ i < 44)

@[simp] theorem ptpGptpWireNormalize_length (wire : Bytes) (gptp : Bool) (minorVersion : UInt8) :
    (ptpGptpWireNormalize wire gptp minorVersion).length = wire.length := by
  unfold ptpGptpWireNormalize
  dsimp only
  split_ifs <;> simp

/-- The bytes written in a message of any type. -/
def wireBase (wire : Bytes) (minorVersion : UInt8) : Bytes :=
  (Bytes.clear ((wire.set 1 ((minorVersion <<< 4) ||| 0x02)).set 5 0) 16 4).set 32 0

theorem u8_wireBase (wire : Bytes) (minorVersion : UInt8) {i : Nat} (h1 : i ≠ 1) (h5 : i ≠ 5)
    (h16 : 16 ≤ i → ¬ i < 20) (h32 : i ≠ 32) : (wireBase wire minorVersion).u8 i = wire.u8 i := by
  have hclear : ¬ (16 ≤ i ∧ i < 16 + 4) := fun h => h16 h.1 h.2
  unfold wireBase
  simp only [Bytes.u8_set, Bytes.u8_clear, if_neg hclear, h1.symm, h5.symm, h32.symm, false_and,
    if_false]

/-- Every other byte is sent as it is. -/
theorem u8_normalize {wire : Bytes} {i : Nat} (h : ¬ wireTouches (wire.u8 0) i) (gptp : Bool)
    (minorVersion : UInt8) :
    (ptpGptpWireNormalize wire gptp minorVersion).u8 i = wire.u8 i := by
  unfold wireTouches at h
  simp only [not_or, not_and] at h
  obtain ⟨h1, h5, h16, h32, h33, h11, h34, h0⟩ := h
  have htype : (wireBase wire minorVersion).u8 0 = wire.u8 0 :=
    u8_wireBase _ _ (by decide) (by decide) (by decide) (by decide)
  have hkept : (wireBase wire minorVersion).u8 i = wire.u8 i := u8_wireBase _ _ h1 h5 h16 h32
  have hbase : (Bytes.clear ((wire.set 1 ((minorVersion <<< 4) ||| 0x02)).set 5 0) 16 4).set 32 0 =
      wireBase wire minorVersion := rfl
  unfold ptpGptpWireNormalize
  dsimp only
  by_cases hnone : !gptp ∨ wire.length < 34
  · rw [if_pos hnone]
  · rw [if_neg hnone, hbase]
    generalize wireBase wire minorVersion = base at htype hkept
    by_cases h12 : base.u8 0 &&& 15 = 12
    · -- A Signaling message: only its interval is written.
      have hother : ∀ type : UInt8, type ≠ 12 → ¬ base.u8 0 &&& 15 = type := by
        rintro type hne rfl
        exact hne h12
      have hinterval : 33 ≠ i := fun heq => h33 (htype ▸ h12) heq.symm
      rw [if_pos h12]
      simp [hother, hinterval, hkept]
    · rw [if_neg h12]
      split_ifs with hannounce hdelay hsync
      · obtain ⟨hbody, hreserved⟩ := h11 (htype ▸ hannounce.1)
        simp [Ne.symm hreserved, hkept]
        intro h34 h44
        exact absurd h44 (hbody h34)
      · have hbody := h34 (htype ▸ hdelay.1)
        simp [hkept]
        intro h34 h54
        exact absurd h54 (hbody h34)
      · have hbody := h0 (htype ▸ hsync.1)
        simp [hkept]
        intro h34 h44
        exact absurd h44 (hbody h34)
      · exact hkept

/-- A field of bytes that are not touched. -/
theorem field_normalize {wire : Bytes} {start count : Nat}
    (h : ∀ i, start ≤ i → i < start + count → ¬ wireTouches (wire.u8 0) i) (gptp : Bool)
    (minorVersion : UInt8) :
    (ptpGptpWireNormalize wire gptp minorVersion).field start count = wire.field start count := by
  apply Vector.ext
  intro i hi
  rw [Bytes.field, Bytes.field, Vector.getElem_ofFn, Vector.getElem_ofFn,
    u8_normalize (h _ (by omega) (by omega))]

/-- The header up to the interval is what is written in a message of any type. -/
theorem u8_normalize_header {wire : Bytes} {i : Nat} (hi : i < 33) (hlen : 34 ≤ wire.length)
    (minorVersion : UInt8) : (ptpGptpWireNormalize wire true minorVersion).u8 i =
      (wireBase wire minorVersion).u8 i := by
  have hbase : (Bytes.clear ((wire.set 1 ((minorVersion <<< 4) ||| 0x02)).set 5 0) 16 4).set 32 0 =
      wireBase wire minorVersion := rfl
  have hinterval : 33 ≠ i := by omega
  have hreserved : 46 ≠ i := by omega
  have hbody : ¬ 34 ≤ i := by omega
  have hkept : Bytes.u8 ((wireBase wire minorVersion).set 33 0x7f) i =
      (wireBase wire minorVersion).u8 i := by
    simp [hinterval]
  unfold ptpGptpWireNormalize
  dsimp only
  rw [if_neg (by simp; omega), hbase]
  generalize wireBase wire minorVersion = base at hkept
  split_ifs <;> simp [hreserved, hbody, hinterval]

/-- The minor version is in the other nibble than the version. -/
theorem version_of_minor (minorVersion : UInt8) : ((minorVersion <<< 4) ||| 0x02) &&& 15 = 2 := by
  have hall : ∀ minor < 256, ((UInt8.ofNat minor <<< 4) ||| 0x02) &&& 15 = 2 := by
    decide +kernel
  have hself := hall minorVersion.toNat minorVersion.toNat_lt
  rwa [UInt8.ofNat_toNat] at hself

/-- A message of gPTP is sent with version 2, whatever the minor version. -/
theorem version_gptp {wire : Bytes} (hlen : 34 ≤ wire.length) (minorVersion : UInt8) :
    (ptpGptpWireNormalize wire true minorVersion).u8 1 &&& 15 = 2 := by
  have hversion : (wireBase wire minorVersion).u8 1 = (minorVersion <<< 4) ||| 0x02 := by
    unfold wireBase
    simp
    omega
  rw [u8_normalize_header (by decide) hlen, hversion]
  exact version_of_minor minorVersion

/-- A message of gPTP is sent with the minor SdoId zero. -/
theorem minorSdoId_gptp {wire : Bytes} (hlen : 34 ≤ wire.length) (minorVersion : UInt8) :
    (ptpGptpWireNormalize wire true minorVersion).u8 5 = 0 := by
  have hcleared : (wireBase wire minorVersion).u8 5 = 0 := by
    unfold wireBase
    simp
    omega
  rw [u8_normalize_header (by decide) hlen, hcleared]

/-- The version stays 2, whatever the minor version. -/
theorem version_normalize {wire : Bytes} (hlen : 34 ≤ wire.length) (h : wire.u8 1 &&& 15 = 2)
    (gptp : Bool) (minorVersion : UInt8) :
    (ptpGptpWireNormalize wire gptp minorVersion).u8 1 &&& 15 = 2 := by
  cases gptp with
  | false =>
    unfold ptpGptpWireNormalize
    rw [if_pos (by simp)]
    exact h
  | true => exact version_gptp hlen minorVersion

/-- The minor SdoId stays zero. -/
theorem minorSdoId_normalize {wire : Bytes} (hlen : 34 ≤ wire.length) (h : wire.u8 5 = 0)
    (gptp : Bool) (minorVersion : UInt8) :
    (ptpGptpWireNormalize wire gptp minorVersion).u8 5 = 0 := by
  cases gptp with
  | false =>
    unfold ptpGptpWireNormalize
    rw [if_pos (by simp)]
    exact h
  | true => exact minorSdoId_gptp hlen minorVersion

end EspPtp
