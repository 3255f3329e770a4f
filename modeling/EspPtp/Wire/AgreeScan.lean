import EspPtp.Wire.Agree
import EspPtp.Wire.LiteTlv
import EspPtp.Wire.PathGrammar
import EspPtp.Wire.SignalingBounds

/-!
# Scans of messages that agree

The chains of TLVs behind a message's body are walked up to a length. Each walk reads below
that length only, so on messages that agree there it takes the same steps and finds the
same; the induction is over the walk, and what it is about is the one offset it has come to.
-/

namespace EspPtp

open Lib

/-- What is found has all the bytes it was asked to have. -/
theorem ptpFindLiteTlv_inside {message : Bytes} {totalLen minLen offset value : Nat}
    {subtype : Vector UInt8 3}
    (h : ptpFindLiteTlv message totalLen subtype minLen offset = some value) :
    value + minLen ≤ totalLen := by
  fun_induction ptpFindLiteTlv message totalLen subtype minLen offset with
  | case1 => cases h
  | case2 offset hmore type len body hfits hfound =>
    have hvalue : body = value := Option.some.inj h
    have hmin := hfound.2.1
    omega
  | case3 offset hmore type len body hfits hother ih => exact ih h
  | case4 => cases h

namespace Agree

variable {length : Nat} {a b : Bytes}

/-! ## The length a message has -/

theorem msgtype (h : Agree length a b) (hle : 1 ≤ length) : a.msgtype = b.msgtype := by
  unfold Bytes.msgtype
  rw [h 0 hle]

theorem isGptp (h : Agree length a b) (hle : 1 ≤ length) : a.isGptp = b.isGptp := by
  unfold Bytes.isGptp
  rw [h 0 hle]

theorem minimumLength (h : Agree length a b) (hle : 1 ≤ length) :
    minimumLength a = minimumLength b := by
  unfold EspPtp.minimumLength
  rw [h.msgtype hle, h 0 hle]

/-- Both are received as messages of one length, however much was received with them. -/
theorem boundedLength (h : Agree length a b) (hle : 34 ≤ length) {receivedA receivedB : Nat}
    (hA : 34 ≤ receivedA ∧ a.word 2 ≤ receivedA) (hB : 34 ≤ receivedB ∧ a.word 2 ≤ receivedB) :
    ptpMessageBoundedLength a receivedA = ptpMessageBoundedLength b receivedB := by
  have hword : a.word 2 = b.word 2 := h.word (by omega)
  have hversion : a.u8 1 = b.u8 1 := h 1 (by omega)
  unfold ptpMessageBoundedLength
  dsimp only
  rw [← h.minimumLength (by omega), ← hword, ← hversion]
  by_cases hother : a.u8 1 &&& 15 ≠ 2
  · rw [if_pos (.inr hother), if_pos (.inr hother)]
  · have hpass : ∀ received, 34 ≤ received → ¬ (received < 34 ∨ a.u8 1 &&& 15 ≠ 2) := by
      rintro received hlong (hshort | hbad)
      · omega
      · exact hother hbad
    rw [if_neg (hpass _ hA.1), if_neg (hpass _ hB.1)]
    by_cases hshort : a.word 2 < EspPtp.minimumLength a
    · rw [if_pos (.inl hshort), if_pos (.inl hshort)]
    · rw [if_neg (by omega), if_neg (by omega)]

theorem timingPayloadValid (h : Agree length a b) (hle : 54 ≤ length) (size : Nat) :
    ptpTimingPayloadValid a size = ptpTimingPayloadValid b size := by
  unfold ptpTimingPayloadValid
  rw [h.word (by omega), h 0 (by omega), h 1 (by omega), h.field (by omega)]

/-! ## The AVB Lite TLVs -/

theorem findLiteTlv (h : Agree length a b) (subtype : Vector UInt8 3) (minLen offset : Nat) :
    ptpFindLiteTlv a length subtype minLen offset =
      ptpFindLiteTlv b length subtype minLen offset := by
  fun_induction ptpFindLiteTlv a length subtype minLen offset with
  | case1 offset hmore len body hlong =>
    have hlen : len = b.word (offset + 2) := h.word (by omega)
    unfold ptpFindLiteTlv
    rw [if_pos hmore]
    dsimp only
    rw [← hlen, if_pos hlong]
  | case2 offset hmore type len body hfits hfound =>
    have htype : type = b.word offset := h.word (by omega)
    have hlen : len = b.word (offset + 2) := h.word (by omega)
    unfold ptpFindLiteTlv
    rw [if_pos hmore]
    dsimp only
    rw [← hlen, ← htype, if_neg hfits, if_pos]
    obtain ⟨hkind, hmin, hsix, horg, hsub⟩ := hfound
    refine ⟨hkind, hmin, hsix, ?_, ?_⟩
    · rw [← h.field (by omega)]
      exact horg
    · rw [← h.field (by omega)]
      exact hsub
  | case3 offset hmore type len body hfits hother ih =>
    have htype : type = b.word offset := h.word (by omega)
    have hlen : len = b.word (offset + 2) := h.word (by omega)
    rw [ih]
    conv_rhs => unfold ptpFindLiteTlv
    rw [if_pos hmore]
    dsimp only
    rw [← hlen, ← htype, if_neg hfits, if_neg]
    rintro ⟨hkind, hmin, hsix, horg, hsub⟩
    rw [← h.field (by omega)] at horg hsub
    exact hother ⟨hkind, hmin, hsix, horg, hsub⟩
  | case4 offset hend =>
    unfold ptpFindLiteTlv
    rw [if_neg hend]

theorem hasEndpointDeclTlv (h : Agree length a b) (baseLen : Nat) :
    ptpMsgHasEndpointDeclTlv a length baseLen = ptpMsgHasEndpointDeclTlv b length baseLen := by
  unfold ptpMsgHasEndpointDeclTlv
  rw [← h.findLiteTlv]
  cases hfound : ptpFindLiteTlv a length endpointDeclSubtype 7 baseLen with
  | none => rfl
  | some value =>
    have hinside := ptpFindLiteTlv_inside hfound
    dsimp only
    rw [h (value + 6) (by omega)]

theorem gmLinkMbps (h : Agree length a b) :
    announceGmLinkMbps a length = announceGmLinkMbps b length := by
  unfold announceGmLinkMbps
  rw [← h.findLiteTlv]
  cases hfound : ptpFindLiteTlv a length gmLinkSubtype 10 64 with
  | none => rfl
  | some value =>
    have hinside := ptpFindLiteTlv_inside hfound
    dsimp only
    rw [h (value + 6) (by omega), h (value + 7) (by omega), h (value + 8) (by omega),
      h (value + 9) (by omega)]

/-! ## The path -/

theorem pathGrammar (h : Agree length a b) (hle : 4 ≤ length) {localIdentity : ClockIdentity}
    {path : PtpPathTrace} (hpath : PathGrammar a length localIdentity path) :
    PathGrammar b length localIdentity path := by
  have hword : a.word 2 = b.word 2 := h.word hle
  have hbody : 64 ≤ a.word 2 := hpath.body
  have hwhole := hpath.whole
  obtain ⟨tlvs, hchain, hof⟩ := hpath.chain
  rw [h.span (by omega), hword] at hchain
  exact ⟨hword ▸ hpath.body, hword ▸ hwhole, tlvs, hchain, hof⟩

theorem pathTraceParse (h : Agree length a b) (hle : 4 ≤ length) (localIdentity : ClockIdentity) :
    ptpPathTraceParse a length localIdentity = ptpPathTraceParse b length localIdentity := by
  apply Option.ext
  intro path
  show ptpPathTraceParse a length localIdentity = some path ↔
    ptpPathTraceParse b length localIdentity = some path
  rw [ptpPathTraceParse_iff, ptpPathTraceParse_iff]
  exact ⟨h.pathGrammar hle, h.symm.pathGrammar hle⟩

/-! ## Signaling -/

theorem port (h : Agree length a b) {i : Nat} (hle : i + 10 ≤ length) : a.port i = b.port i := by
  unfold Bytes.port
  rw [h.field (by omega), h.field (by omega)]

theorem signalingFindTlv (h : Agree length a b) (domain : UInt8) (localPort : PortIdentity)
    (subtype : UInt8) :
    ptpSignalingFindTlv a length domain localPort subtype =
      ptpSignalingFindTlv b length domain localPort subtype := by
  unfold ptpSignalingFindTlv
  by_cases hshort : length < 44
  · rw [if_pos hshort, if_pos hshort]
  · have hword : a.word 2 = b.word 2 := h.word (by omega)
    rw [if_neg hshort, if_neg hshort]
    dsimp only
    rw [← hword, ← h 0 (by omega), ← h 1 (by omega), ← h 4 (by omega), ← h 5 (by omega),
      ← h.port (by omega), ← h.field (by omega)]
    by_cases hlength : a.word 2 < 44 ∨ a.word 2 > length
    · rw [if_pos hlength, if_pos hlength]
    · rw [findTlvLoop_eq, findTlvLoop_eq, h.span (by omega)]

/-- What the readers look at in a TLV that was found. -/
theorem u8_found (h : Agree length a b) {domain : UInt8} {localPort : PortIdentity}
    {subtype : UInt8} {tlv : Nat}
    (hfound : ptpSignalingFindTlv a length domain localPort subtype = .decoded tlv) {k : Nat}
    (hk : k < 4 + expectedBody subtype) : a.u8 (tlv + k) = b.u8 (tlv + k) := by
  obtain ⟨hheader, hplace⟩ := ptpSignalingFindTlv_decoded.mp hfound
  have hinside := hplace.inside hheader.body
  have hwhole := hheader.whole
  exact h _ (by omega)

theorem signalingReadCapableTlv (h : Agree length a b) (domain : UInt8)
    (localPort : PortIdentity) (subtype : UInt8) :
    ptpSignalingReadCapableTlv a length domain localPort subtype =
      ptpSignalingReadCapableTlv b length domain localPort subtype := by
  have hbody := expectedBody_ge subtype
  unfold ptpSignalingReadCapableTlv
  rw [← h.signalingFindTlv]
  cases hfound : ptpSignalingFindTlv a length domain localPort subtype with
  | malformed => rfl
  | ignored => rfl
  | decoded tlv =>
    have hheader := (ptpSignalingFindTlv_decoded.mp hfound).1
    have hlong : 44 ≤ length := hheader.body.trans hheader.whole
    unfold PtpSignaling.map
    dsimp only
    rw [h.port (by omega), h.u8_found hfound (by omega)]

theorem signalingReadMessageInterval (h : Agree length a b) (domain : UInt8)
    (localPort : PortIdentity) :
    ptpSignalingReadMessageInterval a length domain localPort =
      ptpSignalingReadMessageInterval b length domain localPort := by
  have hbody : expectedBody 2 = 12 := rfl
  unfold ptpSignalingReadMessageInterval
  rw [← h.signalingFindTlv]
  cases hfound : ptpSignalingFindTlv a length domain localPort 2 with
  | malformed => rfl
  | ignored => rfl
  | decoded tlv =>
    have hheader := (ptpSignalingFindTlv_decoded.mp hfound).1
    have hlong : 44 ≤ length := hheader.body.trans hheader.whole
    unfold PtpSignaling.map
    dsimp only
    rw [h.port (by omega), h.u8_found hfound (by omega), h.u8_found hfound (by omega),
      h.u8_found hfound (by omega), h.u8_found hfound (by omega)]

end Agree

end EspPtp
