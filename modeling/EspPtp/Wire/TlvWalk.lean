import EspPtp.Lib.Tlv
import EspPtp.Wire.Buffer

/-!
# Walking the TLVs of a message

The source walks a chain of TLVs by an offset: it checks that four bytes are left, reads the
length of the body, checks that the body is left, looks at the TLV, and goes on behind it.
`parse_span` says what such a turn does to the chain that is still ahead, so that a loop of
the source is followed turn by turn and the chain it met is `Tlv.parse` of the bytes.
-/

namespace EspPtp

open Lib

namespace Bytes

variable (m : Bytes)

/-- The bytes from `start` on. -/
def span (start count : Nat) : List UInt8 := (List.range count).map fun k => m.u8 (start + k)

@[simp] theorem span_length (start count : Nat) : (m.span start count).length = count := by
  simp [span]

@[simp] theorem span_zero (start : Nat) : m.span start 0 = [] := rfl

theorem span_succ (start count : Nat) :
    m.span start (count + 1) = m.u8 start :: m.span (start + 1) count := by
  unfold span
  rw [List.range_succ_eq_map, List.map_cons, List.map_map]
  congr 1
  apply List.map_congr_left
  intro k _
  show m.u8 (start + (k + 1)) = m.u8 (start + 1 + k)
  congr 1
  omega

theorem span_add (start a b : Nat) :
    m.span start (a + b) = m.span start a ++ m.span (start + a) b := by
  induction a generalizing start with
  | zero => simp
  | succ a ih =>
    rw [Nat.add_right_comm, span_succ, span_succ, ih, List.cons_append, Nat.add_assoc start 1 a,
      Nat.add_comm 1 a]

/-- A byte of the bytes from `start` on. -/
theorem u8_span {start count k : Nat} (h : k < count) :
    u8 (m.span start count) k = m.u8 (start + k) := by
  unfold span
  rw [u8, List.getD_eq_getElem?_getD, List.getElem?_map, List.getElem?_range h]
  rfl

theorem toList_field (start count : Nat) : (m.field start count).toList = m.span start count := by
  apply List.ext_getElem
  · simp
  · intro k hk _
    simp [field, span]

theorem field_span {start count k size : Nat} (h : k + size ≤ count) :
    field (m.span start count) k size = m.field (start + k) size := by
  unfold field
  apply Vector.ext
  intro i hi
  rw [Vector.getElem_ofFn, Vector.getElem_ofFn, u8_span m (by omega), Nat.add_assoc]

/-- The TLV at an offset. -/
def tlvAt (offset : Nat) : Tlv where
  type := m.word offset
  body := m.span (offset + 4) (m.word (offset + 2))
  type_lt := beWord_lt _ _
  body_lt := by
    rw [span_length]
    exact beWord_lt _ _

@[simp] theorem tlvAt_type (offset : Nat) : (m.tlvAt offset).type = m.word offset := rfl

@[simp] theorem tlvAt_body (offset : Nat) :
    (m.tlvAt offset).body = m.span (offset + 4) (m.word (offset + 2)) := rfl

/-- The TLV at an offset is the bytes there. -/
theorem encode_tlvAt (offset : Nat) :
    (m.tlvAt offset).encode = m.span offset (4 + m.word (offset + 2)) := by
  unfold Tlv.encode
  rw [tlvAt_body, tlvAt_type, span_length, span_add, span_succ, span_succ, span_succ, span_succ,
    span_zero]
  unfold word
  rw [show (m.u8 offset).toNat * 256 + (m.u8 (offset + 1)).toNat = beWord _ _ from rfl,
    show (m.u8 (offset + 2)).toNat * 256 + (m.u8 (offset + 2 + 1)).toNat = beWord _ _ from rfl,
    beBytes_beWord, beBytes_beWord]
  rfl

/-- **One turn of a walk.** -/
theorem parse_span {offset length : Nat} (h : offset < length) :
    Tlv.parse (m.span offset (length - offset)) =
      if length - offset < 4 then none
      else if m.word (offset + 2) > length - (offset + 4) then none
      else
        (Tlv.parse (m.span (offset + 4 + m.word (offset + 2))
          (length - (offset + 4 + m.word (offset + 2))))).map (m.tlvAt offset :: ·) := by
  by_cases hshort : length - offset < 4
  · rw [if_pos hshort]
    have hsize : length - offset = 1 ∨ length - offset = 2 ∨ length - offset = 3 := by omega
    rcases hsize with hsize | hsize | hsize <;> rw [hsize] <;>
      simp [span_succ, Tlv.parse]
  · rw [if_neg hshort]
    by_cases hfits : m.word (offset + 2) > length - (offset + 4)
    · have hsize : length - offset = (length - (offset + 4)) + 1 + 1 + 1 + 1 := by omega
      rw [if_pos hfits, hsize, span_succ, span_succ, span_succ, span_succ, Tlv.parse, dif_neg]
      rw [span_length]
      exact Nat.not_le.mpr hfits
    · have hsize : length - offset =
          4 + m.word (offset + 2) + (length - (offset + 4 + m.word (offset + 2))) := by omega
      rw [if_neg hfits, hsize, span_add, ← encode_tlvAt, Tlv.parse_encode_append, Nat.add_assoc]

/-- One turn of a walk that stops at a torn end. -/
theorem parseFront_span {offset length : Nat} (hfour : offset + 4 ≤ length) :
    Tlv.parseFront (m.span offset (length - offset)) =
      if offset + 4 + m.word (offset + 2) > length then []
      else
        m.tlvAt offset :: Tlv.parseFront (m.span (offset + 4 + m.word (offset + 2))
          (length - (offset + 4 + m.word (offset + 2)))) := by
  by_cases hlong : offset + 4 + m.word (offset + 2) > length
  · have hsize : length - offset = (length - (offset + 4)) + 1 + 1 + 1 + 1 := by omega
    have htorn : ¬ m.word (offset + 2) ≤ length - (offset + 4) := by omega
    rw [if_pos hlong, hsize, span_succ, span_succ, span_succ, span_succ, Tlv.parseFront, dif_neg]
    rw [span_length]
    exact htorn
  · have hsize : length - offset =
        4 + m.word (offset + 2) + (length - (offset + 4 + m.word (offset + 2))) := by omega
    rw [if_neg hlong, hsize, span_add, ← encode_tlvAt, Tlv.parseFront_encode_append,
      Nat.add_assoc]

theorem parseFront_span_end {offset length : Nat} (hend : ¬ offset + 4 ≤ length) :
    Tlv.parseFront (m.span offset (length - offset)) = [] := by
  have hsize : length - offset = 0 ∨ length - offset = 1 ∨ length - offset = 2 ∨
      length - offset = 3 := by omega
  rcases hsize with hsize | hsize | hsize | hsize <;> rw [hsize] <;>
    simp [span_succ, Tlv.parseFront]

/-- What is asked of the chain that is ahead is asked of the TLV here and of the chain behind
    it. -/
theorem exists_parse_span {offset length : Nat} (h : offset < length) {P : List Tlv → Prop} :
    (∃ tlvs, Tlv.parse (m.span offset (length - offset)) = some tlvs ∧ P tlvs) ↔
      ¬ length - offset < 4 ∧ ¬ m.word (offset + 2) > length - (offset + 4) ∧
        ∃ rest, Tlv.parse (m.span (offset + 4 + m.word (offset + 2))
          (length - (offset + 4 + m.word (offset + 2)))) = some rest ∧
            P (m.tlvAt offset :: rest) := by
  rw [parse_span m h]
  by_cases hshort : length - offset < 4
  · simp [hshort]
  · by_cases hlong : m.word (offset + 2) > length - (offset + 4)
    · simp [hshort, hlong]
    · simp [hshort, hlong]

/-- Behind the last TLV is the empty chain. -/
theorem exists_parse_span_end {offset length : Nat} (h : ¬ offset < length)
    {P : List Tlv → Prop} :
    (∃ tlvs, Tlv.parse (m.span offset (length - offset)) = some tlvs ∧ P tlvs) ↔ P [] := by
  rw [Nat.sub_eq_zero_of_le (Nat.le_of_not_lt h), span_zero, Tlv.parse]
  simp

end Bytes

end EspPtp
