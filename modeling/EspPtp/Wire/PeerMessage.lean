import EspPtp.Wire.Agree
import EspPtp.Wire.LiteTlv

/-!
# Peer-delay messages

A Pdelay_Req, its response and its follow-up have one shape: a header, twenty bytes, and the
declaration of an endpoint or nothing. `PdelayMessage` says what a message of that shape is
on the wire. Whoever puts one together gets it from `pdelayMessage_onWire`, and whoever
receives one needs nothing else: the length check, the fields an exchange compares, and the scan for the
declaration follow from it.
-/

namespace EspPtp

open Lib

/-- The types of the three messages, with the SdoId of gPTP. -/
def PdelayType (messagetype : UInt8) : Prop :=
  messagetype = 0x12 ∨ messagetype = 0x13 ∨ messagetype = 0x1a

/-- What follows the body: the declaration of a sender that declares itself. -/
def declarationTlv (declares : Bool) : Bytes := if declares then endpointDeclTlv else []

theorem declarationTlv_length_le (declares : Bool) : (declarationTlv declares).length ≤ 12 := by
  cases declares with
  | false => exact Nat.zero_le _
  | true => exact Nat.le_refl _

/-- A message of this shape. -/
def pdelayMessage (header : PtpHeader) (body : Bytes) (declares : Bool) : Bytes :=
  (ptpSetMessageLength header (54 + (declarationTlv declares).length)).write ++ body ++
    declarationTlv declares

/-- A message on the wire that was sent with this header. -/
structure PdelayMessage (m : Bytes) (header : PtpHeader) (declares : Bool) : Prop where
  kind : PdelayType header.messagetype
  size : m.length = 54 + (declarationTlv declares).length
  length : m.word 2 = m.length
  type : m.u8 0 = header.messagetype
  version : m.u8 1 &&& 15 = 2
  domain : m.u8 4 = header.domain
  minorSdoId : m.u8 5 = 0
  identity : m.field 20 8 = header.sourceidentity
  port : m.field 28 2 = header.sourceportindex
  sequence : m.field 30 2 = header.sequenceid
  tlv : m.span 54 (declarationTlv declares).length = declarationTlv declares

/-! ## What is sent is such a message -/

section Sent

variable {header : PtpHeader} {body : Bytes} {declares : Bool}

theorem pdelayMessage_length (header : PtpHeader) (declares : Bool) (hbody : body.length = 20) :
    (pdelayMessage header body declares).length = 54 + (declarationTlv declares).length := by
  unfold pdelayMessage
  rw [List.length_append, List.length_append, PtpHeader.write_length, hbody]

theorem pdelayMessage_read (header : PtpHeader) (body : Bytes) (declares : Bool) :
    PtpHeader.read (pdelayMessage header body declares) =
      ptpSetMessageLength header (54 + (declarationTlv declares).length) := by
  unfold pdelayMessage
  rw [List.append_assoc, PtpHeader.read_write]

/-- The header that is sent is read from the message; only its length is its own. -/
theorem pdelayMessage_fields (header : PtpHeader) (body : Bytes) (declares : Bool) :
    (pdelayMessage header body declares).u8 0 = header.messagetype ∧
      (pdelayMessage header body declares).u8 4 = header.domain ∧
      (pdelayMessage header body declares).field 20 8 = header.sourceidentity ∧
      (pdelayMessage header body declares).field 28 2 = header.sourceportindex ∧
      (pdelayMessage header body declares).field 30 2 = header.sequenceid := by
  have hread := pdelayMessage_read header body declares
  generalize pdelayMessage header body declares = m at hread
  refine ⟨?_, ?_, ?_, ?_, ?_⟩
  · exact congrArg PtpHeader.messagetype hread
  · exact congrArg PtpHeader.domain hread
  · exact congrArg PtpHeader.sourceidentity hread
  · exact congrArg PtpHeader.sourceportindex hread
  · exact congrArg PtpHeader.sequenceid hread

theorem pdelayMessage_word_two (header : PtpHeader) (declares : Bool) (hbody : body.length = 20) :
    (pdelayMessage header body declares).word 2 = (pdelayMessage header body declares).length := by
  have hle := declarationTlv_length_le declares
  have hread := pdelayMessage_read header body declares
  rw [pdelayMessage_length _ _ hbody, PtpHeader.word_two hread]
  exact beWord_toUInt8 (by omega)

/-- The declaration is where the body ends. -/
theorem pdelayMessage_tlv (header : PtpHeader) (declares : Bool) (hbody : body.length = 20) :
    (pdelayMessage header body declares).span 54 (declarationTlv declares).length =
      declarationTlv declares := by
  have hfront : ((ptpSetMessageLength header (54 + (declarationTlv declares).length)).write ++
      body).length = 54 := by
    rw [List.length_append, PtpHeader.write_length, hbody]
  unfold pdelayMessage
  rw [Bytes.span_append_right (Nat.le_of_eq hfront), hfront]
  exact Bytes.span_all _

/-- The body is where the header ends. -/
theorem pdelayMessage_body (hbody : body.length = 20) {start count : Nat}
    (hin : start + count ≤ 20) :
    (pdelayMessage header body declares).field (34 + start) count = body.field start count := by
  have hfront : (ptpSetMessageLength header (54 + (declarationTlv declares).length)).write.length
      ≤ 34 + start := by
    rw [PtpHeader.write_length]
    exact Nat.le_add_right _ _
  unfold pdelayMessage
  rw [List.append_assoc, Bytes.field_append_right hfront, PtpHeader.write_length,
    Nat.add_sub_cancel_left, Bytes.field_append_left (by omega)]

/-- The bytes of such a message that the normalization leaves alone. -/
theorem pdelay_untouched {messagetype : UInt8} (hkind : PdelayType messagetype) {i : Nat}
    (hi : i = 0 ∨ (2 ≤ i ∧ i < 5) ∨ (20 ≤ i ∧ i < 32) ∨ 54 ≤ i ∨
      (34 ≤ i ∧ messagetype ≠ 0x12)) : ¬ wireTouches messagetype i := by
  unfold wireTouches
  rcases hkind with rfl | rfl | rfl
  all_goals
    rintro (h | h | h | h | ⟨htype, -⟩ | ⟨htype, -⟩ | ⟨htype, hbody⟩ | ⟨htype, -⟩)
    all_goals first | omega | exact absurd htype (by decide) | skip
  -- What is left is the body of the request, which is cleared.
  rcases hi with h | h | h | h | ⟨-, h⟩
  · omega
  · omega
  · omega
  · omega
  · exact h rfl

/-- **Whatever is sent in this shape arrives as such a message.** -/
theorem pdelayMessage_onWire (hkind : PdelayType header.messagetype) (hbody : body.length = 20)
    (declares : Bool) (minorVersion : UInt8) :
    PdelayMessage (ptpGptpWireNormalize (pdelayMessage header body declares) true minorVersion)
      header declares := by
  obtain ⟨htype, hdomain, hidentity, hport, hsequence⟩ :=
    pdelayMessage_fields header body declares
  have hsize := pdelayMessage_length header declares hbody
  have hword := pdelayMessage_word_two header declares hbody
  have htlv := pdelayMessage_tlv header declares hbody
  generalize pdelayMessage header body declares = m at *
  have hlen : 34 ≤ m.length := by omega
  have hkept : ∀ i, (i = 0 ∨ (2 ≤ i ∧ i < 5) ∨ (20 ≤ i ∧ i < 32) ∨ 54 ≤ i) →
      ¬ wireTouches (m.u8 0) i := by
    intro i hi
    rw [htype]
    exact pdelay_untouched hkind (by omega)
  have hu8 : ∀ i, (i = 0 ∨ (2 ≤ i ∧ i < 5) ∨ (20 ≤ i ∧ i < 32) ∨ 54 ≤ i) →
      (ptpGptpWireNormalize m true minorVersion).u8 i = m.u8 i :=
    fun i hi => u8_normalize (hkept i hi) _ _
  have hfield : ∀ start count, (20 ≤ start ∧ start + count ≤ 32) ∨ 54 ≤ start →
      (ptpGptpWireNormalize m true minorVersion).field start count = m.field start count :=
    fun start count hin => field_normalize (fun i hlow hhigh => hkept i (by omega)) _ _
  refine ⟨hkind, ?_, ?_, ?_, version_gptp hlen minorVersion, ?_,
    minorSdoId_gptp hlen minorVersion, ?_, ?_, ?_, ?_⟩
  · rw [ptpGptpWireNormalize_length, hsize]
  · rw [ptpGptpWireNormalize_length, ← hword]
    unfold Bytes.word
    rw [hu8 2 (by omega), hu8 3 (by omega)]
  · rw [hu8 0 (by omega), htype]
  · rw [hu8 4 (by omega), hdomain]
  · rw [hfield _ _ (by omega), hidentity]
  · rw [hfield _ _ (by omega), hport]
  · rw [hfield _ _ (by omega), hsequence]
  · rw [← Bytes.toList_field, hfield _ _ (by omega), Bytes.toList_field, htlv]

/-- An answer arrives with the body it was sent with. -/
theorem pdelayMessage_onWire_body (hkind : PdelayType header.messagetype)
    (hanswer : header.messagetype ≠ 0x12) (hbody : body.length = 20) (declares : Bool)
    (minorVersion : UInt8) {start count : Nat} (hin : start + count ≤ 20) :
    (ptpGptpWireNormalize (pdelayMessage header body declares) true minorVersion).field
      (34 + start) count = body.field start count := by
  have htype := (pdelayMessage_fields header body declares).1
  rw [field_normalize _ _ _, pdelayMessage_body hbody hin]
  intro i hlow hhigh
  rw [htype]
  exact pdelay_untouched hkind (.inr (.inr (.inr (.inr ⟨by omega, hanswer⟩))))

end Sent

/-! ## What is received of it -/

namespace PdelayMessage

variable {m : Bytes} {header : PtpHeader} {declares : Bool}

theorem minimumLength_eq (h : PdelayMessage m header declares) : minimumLength m = 54 := by
  unfold minimumLength Bytes.msgtype
  rw [h.type]
  rcases h.kind with htype | htype | htype <;> rw [htype] <;> rfl

/-- The length check answers the message's own length. -/
theorem boundedLength (h : PdelayMessage m header declares) :
    ptpMessageBoundedLength m m.length = m.length := by
  have hsize := h.size
  unfold ptpMessageBoundedLength
  dsimp only
  rw [h.minimumLength_eq, h.length, if_neg, if_neg (by omega)]
  rintro (hshort | hother)
  · omega
  · exact hother h.version

theorem sourcePort_eq (h : PdelayMessage m header declares) :
    (PtpHeader.read m).sourcePort = header.sourcePort := by
  show (⟨m.field 20 8, m.field 28 2⟩ : PortIdentity) = _
  rw [h.identity, h.port]
  rfl

theorem sequence_eq (h : PdelayMessage m header declares) :
    ptpGetSequence (PtpHeader.read m) = ptpGetSequence header :=
  congrArg be16 h.sequence

/-- **The declaration is found if and only if it was sent.** -/
theorem hasEndpointDecl (h : PdelayMessage m header declares) :
    ptpMsgHasEndpointDeclTlv m m.length 54 = declares := by
  have hsize := h.size
  have htlv := h.tlv
  unfold ptpMsgHasEndpointDeclTlv ptpFindLiteTlv
  cases declares with
  | false =>
    have hnone : (declarationTlv false).length = 0 := rfl
    rw [if_neg (by omega)]
  | true =>
    have htwelve : (declarationTlv true).length = 12 := rfl
    have hspan : m.span 54 12 = endpointDeclTlv := htlv
    have hu8 : ∀ k < 12, m.u8 (54 + k) = Bytes.u8 endpointDeclTlv k := by
      intro k hk
      rw [← hspan, Bytes.u8_span m hk]
    have hfield : ∀ k, k + 3 ≤ 12 → m.field (54 + k) 3 = Bytes.field endpointDeclTlv k 3 := by
      intro k hk
      rw [← hspan, Bytes.field_span m hk]
    have htype : m.word 54 = 0x8000 := by
      unfold Bytes.word
      rw [hu8 0 (by decide), hu8 1 (by decide)]
      rfl
    have hlen : m.word (54 + 2) = 8 := by
      unfold Bytes.word
      rw [hu8 2 (by decide), hu8 3 (by decide)]
      rfl
    have hvalue : m.u8 (54 + 4 + 6) = 1 := hu8 10 (by decide)
    have horg : m.field (54 + 4) 3 = liteOrgId := hfield 4 (by decide)
    have hsubtype : m.field (54 + 4 + 3) 3 = endpointDeclSubtype := hfield 7 (by decide)
    dsimp only
    rw [if_pos (by omega), htype, hlen, if_neg (by omega),
      if_pos ⟨.inr rfl, by decide, by decide, horg, hsubtype⟩]
    dsimp only
    rw [hvalue]
    rfl

end PdelayMessage

end EspPtp
