import Mathlib.Tactic.IntervalCases
import EspPtp.Wire.Codec
import EspPtp.Wire.LiteTlv
import EspPtp.Wire.TlvWalk

/-!
# The scan for AVB Lite TLVs

`ptp_find_lite_tlv` goes by lengths that the sender chose, and what it finds is read at fixed
offsets by its callers. `ptpFindLiteTlv` is the scan over unbounded offsets, and finds the
first TLV of the kind in the longest chain behind the body. Below it is the scan as the
machine makes it: with offsets in 32 bits, that come round, and a fault for every read outside
the message. As long as no offset comes round, it is the same scan, it ends, and it has no
fault.
-/

namespace EspPtp

open Lib

/-! ## What is looked for -/

/-- An AVB Lite TLV of this subtype that is long enough. -/
def isLiteTlv (subtype : Vector UInt8 3) (minLen : Nat) (tlv : Tlv) : Bool :=
  (decide (tlv.type = 0x0003) || decide (tlv.type = 0x8000)) &&
    decide (max minLen 6 ≤ tlv.body.length) &&
    decide (tlv.body.take 3 = liteOrgId.toList) &&
    decide ((tlv.body.drop 3).take 3 = subtype.toList)

section Turn

variable (m : Bytes) {start count : Nat}

theorem Bytes.take_span {size : Nat} (h : size ≤ count) :
    (m.span start count).take size = m.span start size := by
  obtain ⟨rest, rfl⟩ := Nat.exists_eq_add_of_le h
  rw [Bytes.span_add]
  exact List.take_left' (Bytes.span_length m start size)

theorem Bytes.drop_span {size : Nat} (h : size ≤ count) :
    (m.span start count).drop size = m.span (start + size) (count - size) := by
  obtain ⟨rest, rfl⟩ := Nat.exists_eq_add_of_le h
  rw [Bytes.span_add, Nat.add_sub_cancel_left]
  exact List.drop_left' (Bytes.span_length m start size)

/-- The test of the source, on the TLV at an offset. -/
theorem isLiteTlv_tlvAt (subtype : Vector UInt8 3) (minLen offset : Nat) :
    isLiteTlv subtype minLen (m.tlvAt offset) = true ↔
      (m.word offset = 0x0003 ∨ m.word offset = 0x8000) ∧ m.word (offset + 2) ≥ minLen ∧
        m.word (offset + 2) ≥ 6 ∧ m.field (offset + 4) 3 = liteOrgId ∧
          m.field (offset + 4 + 3) 3 = subtype := by
  unfold isLiteTlv
  rw [Bytes.tlvAt_type, Bytes.tlvAt_body, Bytes.span_length]
  simp only [Bool.and_eq_true, Bool.or_eq_true, decide_eq_true_eq, Nat.max_le]
  by_cases hsix : 6 ≤ m.word (offset + 2)
  · rw [Bytes.take_span m (Nat.le_trans (Nat.le_succ_of_le (by decide)) hsix),
      Bytes.drop_span m (Nat.le_trans (by decide) hsix),
      Bytes.take_span m (Nat.le_sub_of_add_le hsix), ← Bytes.toList_field, ← Bytes.toList_field,
      Vector.toList_inj, Vector.toList_inj]
    constructor
    · rintro ⟨⟨⟨htype, hmin, -⟩, horg⟩, hsub⟩
      exact ⟨htype, hmin, hsix, horg, hsub⟩
    · rintro ⟨htype, hmin, -, horg, hsub⟩
      exact ⟨⟨⟨htype, hmin, hsix⟩, horg⟩, hsub⟩
  · constructor
    · rintro ⟨⟨⟨-, -, h⟩, -⟩, -⟩
      exact absurd h hsix
    · rintro ⟨-, -, h, -⟩
      exact absurd h hsix

end Turn

/-- **The scan finds the first TLV of the kind** in the longest chain from the offset on, by
    induction on the walk. -/
theorem ptpFindLiteTlv_eq (message : Bytes) (totalLen : Nat) (subtype : Vector UInt8 3)
    (minLen offset : Nat) :
    ptpFindLiteTlv message totalLen subtype minLen offset =
      Tlv.findBody (isLiteTlv subtype minLen) offset
        (Tlv.parseFront (message.span offset (totalLen - offset))) := by
  fun_induction ptpFindLiteTlv message totalLen subtype minLen offset with
  | case1 offset hfour len body htorn =>
    rw [Bytes.parseFront_span message hfour, if_pos htorn]
    rfl
  | case2 offset hfour type len body hwhole hlite =>
    have hhere := (isLiteTlv_tlvAt message subtype minLen offset).mpr hlite
    rw [Bytes.parseFront_span message hfour, if_neg hwhole, Tlv.findBody, if_pos hhere]
  | case3 offset hfour type len body hwhole hother ih =>
    have hhere := mt (isLiteTlv_tlvAt message subtype minLen offset).mp hother
    rw [Bytes.parseFront_span message hfour, if_neg hwhole, Tlv.findBody, if_neg hhere,
      Bytes.tlvAt_body, Bytes.span_length]
    exact ih
  | case4 offset hend =>
    rw [Bytes.parseFront_span_end message hend]
    rfl

/-! ## The scan of the machine -/

/-- `size_t` of the targets. -/
def sizeT (x : Nat) : Nat := x % 2 ^ 32

theorem sizeT_of_lt {x : Nat} (h : x < 2 ^ 32) : sizeT x = x := Nat.mod_eq_of_lt h

/-- Why a scan gives no answer: it read outside of the message, or has not ended yet. -/
inductive ScanFault where
  | outside
  | unfinished
  deriving DecidableEq

/-- A byte of the message. -/
def readAt (message : Bytes) (totalLen i : Nat) : Except ScanFault UInt8 :=
  if i < totalLen ∧ i < message.length then .ok (message.u8 i) else .error .outside

/-- Two bytes as a number. -/
def readWordAt (message : Bytes) (totalLen i : Nat) : Except ScanFault Nat := do
  let hi ← readAt message totalLen i
  let lo ← readAt message totalLen (sizeT (i + 1))
  return beWord hi lo

/-- `memcmp` of three bytes. -/
def sameAt (message : Bytes) (totalLen i : Nat) (expected : Vector UInt8 3) :
    Except ScanFault Bool := do
  let first ← readAt message totalLen i
  let second ← readAt message totalLen (sizeT (i + 1))
  let third ← readAt message totalLen (sizeT (i + 2))
  return decide (#v[first, second, third] = expected)

/-- The condition of the scan, which compares only what it has to. -/
def liteTlvHere (message : Bytes) (totalLen : Nat) (subtype : Vector UInt8 3)
    (minLen type len body : Nat) : Except ScanFault Bool := do
  if (type = 0x0003 ∨ type = 0x8000) ∧ len ≥ minLen ∧ len ≥ 6 then
    if ← sameAt message totalLen body liteOrgId then
      sameAt message totalLen (sizeT (body + 3)) subtype
    else return false
  else return false

/-- `ptp_find_lite_tlv`, for so many turns. -/
def findLiteTlvSized (message : Bytes) (totalLen : Nat) (subtype : Vector UInt8 3)
    (minLen : Nat) : Nat → Nat → Except ScanFault (Option Nat)
  | 0, _ => .error .unfinished
  | turns + 1, offset =>
    if sizeT (offset + 4) ≤ totalLen then do
      let type ← readWordAt message totalLen offset
      let len ← readWordAt message totalLen (sizeT (offset + 2))
      let body := sizeT (offset + 4)
      if sizeT (body + len) > totalLen then return none
      else if ← liteTlvHere message totalLen subtype minLen type len body then return some body
      else findLiteTlvSized message totalLen subtype minLen turns (sizeT (body + len))
    else return none

/-- `ptp_msg_has_endpoint_decl_tlv`. -/
def hasEndpointDeclTlvSized (message : Bytes) (totalLen baseLen turns : Nat) :
    Except ScanFault Bool := do
  match ← findLiteTlvSized message totalLen endpointDeclSubtype 7 turns baseLen with
  | none => return false
  | some value => return decide ((← readAt message totalLen (sizeT (value + 6))) = 0x01)

/-- The Grandmaster Link TLV of `ptp_process_announce`. -/
def announceGmLinkSized (message : Bytes) (length turns : Nat) : Except ScanFault UInt32 := do
  match ← findLiteTlvSized message length gmLinkSubtype 10 turns 64 with
  | none => return 0
  | some value =>
    let b6 ← readAt message length (sizeT (value + 6))
    let b7 ← readAt message length (sizeT (value + 7))
    let b8 ← readAt message length (sizeT (value + 8))
    let b9 ← readAt message length (sizeT (value + 9))
    return (b6.toUInt32 <<< 24) ||| (b7.toUInt32 <<< 16) ||| (b8.toUInt32 <<< 8) ||| b9.toUInt32

section Sized

variable {message : Bytes} {totalLen : Nat}

theorem readAt_ok {i : Nat} (hsize : totalLen ≤ message.length) (h : i < totalLen) :
    readAt message totalLen i = .ok (message.u8 i) :=
  if_pos ⟨h, Nat.lt_of_lt_of_le h hsize⟩

/-- The messages the targets can hold: no offset within one comes round. -/
structure Holdable (message : Bytes) (totalLen : Nat) : Prop where
  size : totalLen ≤ message.length
  fits : totalLen + 65535 < 2 ^ 32

variable (hmessage : Holdable message totalLen)
include hmessage

theorem readAt_sizeT_ok {i : Nat} (h : i < totalLen) :
    readAt message totalLen (sizeT i) = .ok (message.u8 i) := by
  have hfits := hmessage.fits
  rw [sizeT_of_lt (by omega)]
  exact readAt_ok hmessage.size h

theorem readWordAt_ok {i : Nat} (h : i + 1 < totalLen) :
    readWordAt message totalLen i = .ok (message.word i) := by
  unfold readWordAt
  rw [readAt_ok hmessage.size (Nat.lt_of_succ_lt h), readAt_sizeT_ok hmessage h]
  rfl

theorem sameAt_ok {i : Nat} (h : i + 2 < totalLen) (expected : Vector UInt8 3) :
    sameAt message totalLen i expected = .ok (decide (message.field i 3 = expected)) := by
  have hfield : #v[message.u8 i, message.u8 (i + 1), message.u8 (i + 2)] = message.field i 3 := by
    unfold Bytes.field
    ext k hk
    interval_cases k <;> simp
  unfold sameAt
  rw [readAt_ok hmessage.size (by omega), readAt_sizeT_ok hmessage (by omega),
    readAt_sizeT_ok hmessage h, ← hfield]
  rfl

theorem liteTlvHere_ok {subtype : Vector UInt8 3} {minLen type len body : Nat}
    (hbody : body + len ≤ totalLen) :
    liteTlvHere message totalLen subtype minLen type len body =
      .ok (decide ((type = 0x0003 ∨ type = 0x8000) ∧ len ≥ minLen ∧ len ≥ 6 ∧
        message.field body 3 = liteOrgId ∧ message.field (body + 3) 3 = subtype)) := by
  have hfits := hmessage.fits
  unfold liteTlvHere
  by_cases hkind : (type = 0x0003 ∨ type = 0x8000) ∧ len ≥ minLen ∧ len ≥ 6
  · obtain ⟨htype, hmin, hsix⟩ := hkind
    rw [if_pos ⟨htype, hmin, hsix⟩, sameAt_ok hmessage (by omega),
      sizeT_of_lt (show body + 3 < 2 ^ 32 by omega)]
    by_cases horg : message.field body 3 = liteOrgId
    · rw [decide_eq_true horg]
      show sameAt message totalLen (body + 3) subtype = _
      rw [sameAt_ok hmessage (by omega)]
      congr 2
      exact propext ⟨fun h => ⟨htype, hmin, hsix, horg, h⟩, fun h => h.2.2.2.2⟩
    · have hnot : ¬ ((type = 0x0003 ∨ type = 0x8000) ∧ len ≥ minLen ∧ len ≥ 6 ∧
          message.field body 3 = liteOrgId ∧ message.field (body + 3) 3 = subtype) :=
        fun h => horg h.2.2.2.1
      rw [decide_eq_false horg, decide_eq_false hnot]
      rfl
  · have hnot : ¬ ((type = 0x0003 ∨ type = 0x8000) ∧ len ≥ minLen ∧ len ≥ 6 ∧
        message.field body 3 = liteOrgId ∧ message.field (body + 3) 3 = subtype) :=
      fun h => hkind ⟨h.1, h.2.1, h.2.2.1⟩
    rw [if_neg hkind, decide_eq_false hnot]
    rfl

/-- One turn, inside of the message. -/
theorem findLiteTlvSized_turn (subtype : Vector UInt8 3) (minLen turns : Nat) {offset : Nat}
    (hfour : offset + 4 ≤ totalLen) :
    findLiteTlvSized message totalLen subtype minLen (turns + 1) offset =
      if offset + 4 + message.word (offset + 2) > totalLen then .ok none
      else if isLiteTlv subtype minLen (message.tlvAt offset) = true then .ok (some (offset + 4))
      else findLiteTlvSized message totalLen subtype minLen turns
        (offset + 4 + message.word (offset + 2)) := by
  have hfits := hmessage.fits
  have hword : message.word (offset + 2) < 2 ^ 16 := beWord_lt _ _
  have hbody : sizeT (offset + 4) = offset + 4 := sizeT_of_lt (by omega)
  have hlen : sizeT (offset + 2) = offset + 2 := sizeT_of_lt (by omega)
  have hnext : sizeT (offset + 4 + message.word (offset + 2)) =
      offset + 4 + message.word (offset + 2) := sizeT_of_lt (by omega)
  have hread : findLiteTlvSized message totalLen subtype minLen (turns + 1) offset =
      if offset + 4 + message.word (offset + 2) > totalLen then .ok none
      else (do
        if ← liteTlvHere message totalLen subtype minLen (message.word offset)
            (message.word (offset + 2)) (offset + 4) then
          return some (offset + 4)
        else
          findLiteTlvSized message totalLen subtype minLen turns
            (offset + 4 + message.word (offset + 2))) := by
    conv_lhs => unfold findLiteTlvSized
    rw [hbody, if_pos hfour, hlen, readWordAt_ok hmessage (by omega),
      readWordAt_ok hmessage (by omega)]
    show (if sizeT (offset + 4 + message.word (offset + 2)) > totalLen then Except.ok none
      else _) = _
    rw [hnext]
  rw [hread]
  by_cases htorn : offset + 4 + message.word (offset + 2) > totalLen
  · rw [if_pos htorn, if_pos htorn]
  · rw [if_neg htorn, if_neg htorn, liteTlvHere_ok hmessage (Nat.le_of_not_lt htorn)]
    by_cases hlite : isLiteTlv subtype minLen (message.tlvAt offset) = true
    · rw [decide_eq_true ((isLiteTlv_tlvAt message subtype minLen offset).mp hlite), if_pos hlite]
      rfl
    · rw [decide_eq_false (mt (isLiteTlv_tlvAt message subtype minLen offset).mpr hlite),
        if_neg hlite]
      rfl

/-- **As long as no offset comes round, the machine makes the same scan**: it reads nothing
    outside of the message, and ends, since every turn goes on by at least four bytes. -/
theorem findLiteTlvSized_eq (subtype : Vector UInt8 3) (minLen : Nat) {offset turns : Nat}
    (hoffset : offset + 4 < 2 ^ 32) (hturns : totalLen < offset + 4 + 4 * turns) :
    findLiteTlvSized message totalLen subtype minLen (turns + 1) offset =
      .ok (ptpFindLiteTlv message totalLen subtype minLen offset) := by
  have hfits := hmessage.fits
  fun_induction ptpFindLiteTlv message totalLen subtype minLen offset generalizing turns with
  | case1 offset hfour len body =>
    rename_i htorn
    rw [findLiteTlvSized_turn hmessage subtype minLen turns hfour, if_pos htorn]
  | case2 offset hfour type len body hwhole =>
    rename_i hlite
    rw [findLiteTlvSized_turn hmessage subtype minLen turns hfour, if_neg hwhole,
      if_pos ((isLiteTlv_tlvAt message subtype minLen offset).mpr hlite)]
  | case3 offset hfour type len body hwhole hother =>
    rename_i ih
    rw [findLiteTlvSized_turn hmessage subtype minLen turns hfour, if_neg hwhole,
      if_neg (mt (isLiteTlv_tlvAt message subtype minLen offset).mp hother)]
    obtain ⟨turns, rfl⟩ : ∃ fewer, turns = fewer + 1 := ⟨turns - 1, by omega⟩
    exact ih (by omega) (by omega)
  | case4 offset hend =>
    unfold findLiteTlvSized
    rw [sizeT_of_lt hoffset, if_neg hend]
    rfl

end Sized

/-! ## What is found -/

/-- The value found is that of the first TLV of the kind in the longest chain behind the body,
    or there is none. -/
def FindsFirst (message : Bytes) (totalLen baseLen : Nat) (subtype : Vector UInt8 3)
    (minLen : Nat) (found : Option Nat) : Prop :=
  ∃ tlvs, Tlv.LongestChain (message.span baseLen (totalLen - baseLen)) tlvs ∧
    match found with
    | none => ∀ tlv ∈ tlvs, isLiteTlv subtype minLen tlv = false
    | some value =>
      ∃ before tlv after, tlvs = before ++ tlv :: after ∧
        (∀ t ∈ before, isLiteTlv subtype minLen t = false) ∧
        isLiteTlv subtype minLen tlv = true ∧
        value = baseLen + (Tlv.encodeAll before).length + 4 ∧
        value + tlv.body.length ≤ totalLen ∧ message.span value tlv.body.length = tlv.body

/-- The body of a TLV of the chain is where it was written. -/
theorem span_body {message : Bytes} {start count : Nat} {before after : List Tlv} {tlv : Tlv}
    (h : Tlv.encodeAll (before ++ tlv :: after) <+: message.span start count) :
    (Tlv.encodeAll before).length + 4 + tlv.body.length ≤ count ∧
      message.span (start + (Tlv.encodeAll before).length + 4) tlv.body.length = tlv.body := by
  obtain ⟨torn, htorn⟩ := h
  have hbytes : message.span start count =
      (Tlv.encodeAll before ++ (beBytes tlv.type ++ beBytes tlv.body.length)) ++
        (tlv.body ++ (Tlv.encodeAll after ++ torn)) := by
    rw [← htorn]
    simp [Tlv.encodeAll, Tlv.encode]
  have hhead : (Tlv.encodeAll before ++ (beBytes tlv.type ++ beBytes tlv.body.length)).length =
      (Tlv.encodeAll before).length + 4 := by
    simp [beBytes]
  have hcount := congrArg List.length hbytes
  rw [Bytes.span_length, List.length_append, hhead, List.length_append] at hcount
  have hroom : (Tlv.encodeAll before).length + 4 + tlv.body.length ≤ count := by omega
  refine ⟨hroom, ?_⟩
  have hdrop := congrArg (fun bytes => (bytes.drop ((Tlv.encodeAll before).length + 4)).take
    tlv.body.length) hbytes
  rw [List.drop_left' hhead, List.take_left, Bytes.drop_span message (by omega),
    Bytes.take_span message (by omega), ← Nat.add_assoc] at hdrop
  exact hdrop

theorem ptpFindLiteTlv_findsFirst (message : Bytes) (totalLen baseLen : Nat)
    (subtype : Vector UInt8 3) (minLen : Nat) :
    FindsFirst message totalLen baseLen subtype minLen
      (ptpFindLiteTlv message totalLen subtype minLen baseLen) := by
  have hchain := Tlv.longestChain_parseFront (message.span baseLen (totalLen - baseLen))
  rw [ptpFindLiteTlv_eq]
  generalize Tlv.parseFront (message.span baseLen (totalLen - baseLen)) = tlvs at hchain
  refine ⟨tlvs, hchain, ?_⟩
  cases hfound : Tlv.findBody (isLiteTlv subtype minLen) baseLen tlvs with
  | none => exact Tlv.findBody_eq_none_iff.mp hfound
  | some value =>
    obtain ⟨before, tlv, after, rfl, hbefore, htlv, rfl⟩ := Tlv.findBody_eq_some_iff.mp hfound
    obtain ⟨hroom, hbody⟩ := span_body hchain.front
    exact ⟨before, tlv, after, rfl, hbefore, htlv, rfl, by omega, hbody⟩

/-- A value that is found is as long as was asked for. -/
theorem ptpFindLiteTlv_room {message : Bytes} {totalLen baseLen : Nat}
    {subtype : Vector UInt8 3} {minLen value : Nat}
    (h : ptpFindLiteTlv message totalLen subtype minLen baseLen = some value) :
    value + max minLen 6 ≤ totalLen := by
  obtain ⟨tlvs, -, hvalue⟩ := ptpFindLiteTlv_findsFirst message totalLen baseLen subtype minLen
  rw [h] at hvalue
  obtain ⟨before, tlv, after, -, -, htlv, -, hroom, -⟩ := hvalue
  unfold isLiteTlv at htlv
  simp only [Bool.and_eq_true, decide_eq_true_eq] at htlv
  exact Nat.le_trans (Nat.add_le_add_left htlv.1.1.2 value) hroom

/-! ## The callers -/

section Callers

variable {message : Bytes} {totalLen : Nat} (hmessage : Holdable message totalLen)
include hmessage

/-- The byte that tells an endpoint is within the TLV. -/
theorem hasEndpointDeclTlvSized_eq {baseLen turns : Nat} (hbase : baseLen + 4 < 2 ^ 32)
    (hturns : totalLen ≤ turns) :
    hasEndpointDeclTlvSized message totalLen baseLen (turns + 1) =
      .ok (ptpMsgHasEndpointDeclTlv message totalLen baseLen) := by
  unfold hasEndpointDeclTlvSized ptpMsgHasEndpointDeclTlv
  rw [findLiteTlvSized_eq hmessage _ _ hbase (by omega)]
  cases hfound : ptpFindLiteTlv message totalLen endpointDeclSubtype 7 baseLen with
  | none => rfl
  | some value =>
    have hroom : value + 7 ≤ totalLen := ptpFindLiteTlv_room hfound
    show (do return decide ((← readAt message totalLen (sizeT (value + 6))) = 0x01)) = _
    rw [readAt_sizeT_ok hmessage (by omega)]
    rfl

/-- The four bytes of the link speed are within the TLV. -/
theorem announceGmLinkSized_eq {turns : Nat} (hturns : totalLen ≤ turns) :
    announceGmLinkSized message totalLen (turns + 1) =
      .ok (announceGmLinkMbps message totalLen) := by
  unfold announceGmLinkSized announceGmLinkMbps
  rw [findLiteTlvSized_eq hmessage _ _ (by decide) (by omega)]
  cases hfound : ptpFindLiteTlv message totalLen gmLinkSubtype 10 64 with
  | none => rfl
  | some value =>
    have hroom : value + 10 ≤ totalLen := ptpFindLiteTlv_room hfound
    show (do
      let b6 ← readAt message totalLen (sizeT (value + 6))
      let b7 ← readAt message totalLen (sizeT (value + 7))
      let b8 ← readAt message totalLen (sizeT (value + 8))
      let b9 ← readAt message totalLen (sizeT (value + 9))
      return (b6.toUInt32 <<< 24) ||| (b7.toUInt32 <<< 16) ||| (b8.toUInt32 <<< 8) |||
        b9.toUInt32) = _
    rw [readAt_sizeT_ok hmessage (by omega), readAt_sizeT_ok hmessage (by omega),
      readAt_sizeT_ok hmessage (by omega), readAt_sizeT_ok hmessage (by omega)]
    rfl

end Callers

/-- The TLV of an endpoint. -/
def endpointDecl : Tlv where
  type := 0x8000
  body := liteOrgId.toList ++ endpointDeclSubtype.toList ++ [0x01, 0]
  type_lt := organizationTlv_lt
  body_lt := by decide

theorem endpointDecl_encode : endpointDecl.encode = endpointDeclTlv := by decide

/-- **An appended declaration is seen**, behind any chain without one. -/
theorem ptpMsgHasEndpointDeclTlv_appended (message : Bytes) {tlvs : List Tlv}
    (hother : ∀ tlv ∈ tlvs, isLiteTlv endpointDeclSubtype 7 tlv = false) (rest : Bytes) :
    let whole := message ++ (Tlv.encodeAll tlvs ++ (endpointDeclTlv ++ rest))
    ptpMsgHasEndpointDeclTlv whole whole.length message.length = true := by
  intro whole
  have hsize : whole.length - message.length =
      (Tlv.encodeAll tlvs ++ (endpointDeclTlv ++ rest)).length := by
    rw [List.length_append, Nat.add_sub_cancel_left]
  have hspan : whole.span message.length (whole.length - message.length) =
      Tlv.encodeAll tlvs ++ (endpointDeclTlv ++ rest) := by
    rw [hsize, Bytes.span_append_right (Nat.le_refl _), Nat.sub_self]
    exact Bytes.span_all _
  have hfound : ptpFindLiteTlv whole whole.length endpointDeclSubtype 7 message.length =
      some (message.length + (Tlv.encodeAll tlvs).length + 4) := by
    have hdecl : isLiteTlv endpointDeclSubtype 7 endpointDecl = true := by decide
    rw [ptpFindLiteTlv_eq, hspan, ← endpointDecl_encode, Tlv.parseFront_encodeAll_append,
      Tlv.parseFront_encode_append, Tlv.findBody_append hother, Tlv.findBody, if_pos hdecl]
  have hdata : whole.u8 (message.length + (Tlv.encodeAll tlvs).length + 4 + 6) = 0x01 := by
    show Bytes.u8 (message ++ (Tlv.encodeAll tlvs ++ (endpointDeclTlv ++ rest)))
      (message.length + (Tlv.encodeAll tlvs).length + 4 + 6) = 0x01
    rw [Bytes.u8_append_right (by omega), Bytes.u8_append_right (by omega),
      Bytes.u8_append_left (by show _ < 12; omega),
      show message.length + (Tlv.encodeAll tlvs).length + 4 + 6 - message.length -
        (Tlv.encodeAll tlvs).length = 10 by omega]
    rfl
  unfold ptpMsgHasEndpointDeclTlv
  rw [hfound]
  exact decide_eq_true hdata

/-- What holds of the scans over a message: they end after so many turns, without a fault. -/
structure LiteScanSound (message : Bytes) (totalLen : Nat) : Prop where
  finds : ∀ baseLen, baseLen + 4 < 2 ^ 32 → ∀ subtype minLen, ∃ found,
    (∀ turns > totalLen,
      findLiteTlvSized message totalLen subtype minLen turns baseLen = .ok found) ∧
    FindsFirst message totalLen baseLen subtype minLen found
  declares : ∀ baseLen, baseLen + 4 < 2 ^ 32 → ∀ turns > totalLen,
    hasEndpointDeclTlvSized message totalLen baseLen turns =
      .ok (ptpMsgHasEndpointDeclTlv message totalLen baseLen)
  linkSpeed : ∀ turns > totalLen,
    announceGmLinkSized message totalLen turns = .ok (announceGmLinkMbps message totalLen)

theorem liteScanSound {message : Bytes} {totalLen : Nat} (hmessage : Holdable message totalLen) :
    LiteScanSound message totalLen := by
  refine ⟨?_, ?_, ?_⟩
  · intro baseLen hbase subtype minLen
    refine ⟨_, ?_, ptpFindLiteTlv_findsFirst message totalLen baseLen subtype minLen⟩
    intro turns hturns
    obtain ⟨turns, rfl⟩ := Nat.exists_eq_add_of_lt hturns
    exact findLiteTlvSized_eq hmessage subtype minLen hbase (by omega)
  · intro baseLen hbase turns hturns
    obtain ⟨turns, rfl⟩ := Nat.exists_eq_add_of_lt hturns
    exact hasEndpointDeclTlvSized_eq hmessage hbase (Nat.le_add_right totalLen turns)
  · intro turns hturns
    obtain ⟨turns, rfl⟩ := Nat.exists_eq_add_of_lt hturns
    exact announceGmLinkSized_eq hmessage (Nat.le_add_right totalLen turns)

/-- **The scan for AVB Lite TLVs** ends, stays within the message, and finds the first one; and
    an endpoint that declares itself behind other TLVs is seen. -/
theorem ptpFindLiteTlv_scan :
    (∀ message totalLen, Holdable message totalLen → LiteScanSound message totalLen) ∧
      ∀ (message : Bytes) (tlvs : List Tlv) (rest : Bytes),
        (∀ tlv ∈ tlvs, isLiteTlv endpointDeclSubtype 7 tlv = false) →
        let whole := message ++ (Tlv.encodeAll tlvs ++ (endpointDeclTlv ++ rest))
        Holdable whole whole.length → ∀ turns > whole.length,
          hasEndpointDeclTlvSized whole whole.length message.length turns = .ok true := by
  refine ⟨fun _ _ hmessage => liteScanSound hmessage, ?_⟩
  intro message tlvs rest hother whole hwhole turns hturns
  have hfits := hwhole.fits
  have hbase : message.length ≤ whole.length := by
    rw [List.length_append]
    exact Nat.le_add_right _ _
  rw [(liteScanSound hwhole).declares message.length (by omega) turns hturns]
  exact congrArg Except.ok (ptpMsgHasEndpointDeclTlv_appended message hother rest)

/-- A Pdelay_Req with its declaration, and nothing before or behind it. -/
theorem ptpFindLiteTlv_scan_declared :
    let message : Bytes := List.replicate 54 0
    let whole := message ++ (Tlv.encodeAll [] ++ (endpointDeclTlv ++ []))
    hasEndpointDeclTlvSized whole whole.length message.length 70 = .ok true :=
  ptpFindLiteTlv_scan.2 (List.replicate 54 0) [] [] (fun _ htlv => (List.not_mem_nil htlv).elim)
    ⟨by decide, by decide⟩ 70 (by decide)

/-- An offset that comes round is taken for one inside of the message. -/
theorem ptpFindLiteTlv_comesRound :
    let message : Bytes := List.replicate 54 0
    findLiteTlvSized message 54 endpointDeclSubtype 7 55 (2 ^ 32 - 4) = .error .outside := by
  decide

end EspPtp
