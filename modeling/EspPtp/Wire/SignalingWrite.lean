import EspPtp.Wire.Agree
import EspPtp.Wire.SignalingGrammar

/-!
# Signaling messages are read back

Two writers put a Signaling message of one TLV into a buffer. The second lets the first write,
patches what is different, and copies the result; what either wrote is normalized before it is
sent, and padded on the way.

What the readers ask of a message is said once (`SignalingMessage`): it holds of what each
writer writes, the normalization keeps it, and from it follow the length check and what each
reader answers.
-/

namespace EspPtp

open Lib

/-! ## The writers -/

/-- `PTP_CAPABLE_MESSAGE_LENGTH`. -/
def ptpCapableMessageLength : Nat := 60

/-- `PTP_CAPABLE_INTERVAL_MESSAGE_LENGTH`. -/
def ptpCapableIntervalMessageLength : Nat := 58

/-- What `ptp_signaling_write_capable` writes to its first sixty bytes. -/
def capableMessage (sourcePort : PortIdentity) (domain : UInt8) (sequence : UInt16)
    (logInterval : Int8) : Bytes :=
  [0x1c, 0x12, 0, 60, domain] ++ (List.replicate 15 0 : Bytes) ++ sourcePort.clock.toList ++
    sourcePort.port.toList ++ [(sequence >>> 8).toUInt8, sequence.toUInt8, 0, 0x7f] ++
    (List.replicate 10 0xff : Bytes) ++
    [0x80, 0, 0, 12, 0, 0x80, 0xc2, 0, 0, 4, logInterval.toUInt8, 0, 0, 0, 0, 0]

/-- `ptp_signaling_write_capable`: the buffer after it, and the length it answers. -/
def ptpSignalingWriteCapable (message : Bytes) (capacity : Nat) (sourcePort : PortIdentity)
    (domain : UInt8) (sequence : UInt16) (logInterval : Int8) : Bytes × Nat :=
  if capacity < ptpCapableMessageLength ∨ logInterval.toInt < -24 ∨ logInterval.toInt > 24 then
    (message, 0)
  else
    (capableMessage sourcePort domain sequence logInterval ++
      message.drop ptpCapableMessageLength, ptpCapableMessageLength)

/-- The intervals `ptp_signaling_write_capable_interval` admits. -/
def requestableInterval (logInterval : Int8) : Prop :=
  (-24 ≤ logInterval.toInt ∧ logInterval.toInt ≤ 24) ∨ logInterval.toInt = -128 ∨
    logInterval.toInt = 126 ∨ logInterval.toInt = 127

instance (logInterval : Int8) : Decidable (requestableInterval logInterval) :=
  inferInstanceAs (Decidable (_ ∨ _))

/-- An indication made a request of its interval. -/
def patchInterval (encoded : Bytes) (logInterval : Int8) : Bytes :=
  (((encoded.set 3 58).set 47 10).set 53 5).set 54 logInterval.toUInt8

/-- `ptp_signaling_write_capable_interval`; the other writer writes to an array of its own. -/
def ptpSignalingWriteCapableInterval (message : Bytes) (capacity : Nat)
    (sourcePort : PortIdentity) (domain : UInt8) (sequence : UInt16) (logInterval : Int8) :
    Bytes × Nat :=
  if capacity < ptpCapableIntervalMessageLength ∨ ¬ requestableInterval logInterval then
    (message, 0)
  else
    let written := ptpSignalingWriteCapable (List.replicate ptpCapableMessageLength 0)
      ptpCapableMessageLength sourcePort domain sequence 0
    if written.2 = 0 then (message, 0)
    else
      let encoded := patchInterval written.1 logInterval
      (encoded.take ptpCapableIntervalMessageLength ++
        message.drop ptpCapableIntervalMessageLength, ptpCapableIntervalMessageLength)

/-! ## What the readers ask -/

/-- A message to every port from this one, of one TLV. -/
structure SignalingMessage (m : Bytes) (sourcePort : PortIdentity) (domain : UInt8) (tlv : Tlv) :
    Prop where
  size : m.length = 44 + tlv.encode.length
  length : m.word 2 = m.length
  type : m.u8 0 = 0x1c
  version : m.u8 1 &&& 15 = 2
  domain : m.u8 4 = domain
  minorSdoId : m.u8 5 = 0
  source : m.port 20 = sourcePort
  target : m.port 34 = .wildcard
  chain : m.span 44 tlv.encode.length = tlv.encode

/-- The TLV of a gPTP-capable indication, or of the request of its interval. -/
def capableTlv (kind : UInt8) (logInterval : Int8) (padding : Nat) (h : padding < 65529) : Tlv where
  type := 0x8000
  body := [0, 0x80, 0xc2, 0, 0, kind, logInterval.toUInt8] ++ List.replicate padding 0
  type_lt := organizationTlv_lt
  body_lt := by
    rw [List.length_append, List.length_replicate]
    show 7 + padding < 2 ^ 16
    omega

theorem capableTlv_length (kind : UInt8) (logInterval : Int8) (padding : Nat)
    (h : padding < 65529) : (capableTlv kind logInterval padding h).encode.length = 11 + padding := by
  rw [Tlv.encode_length]
  simp [capableTlv]
  omega

/-! ## What is written is what they ask -/

section Written

variable (sourcePort : PortIdentity) (domain : UInt8) (sequence : UInt16) (logInterval : Int8)

/-- Both messages are of this form. -/
def signalingBytes (length : UInt8) (tlv : Bytes) : Bytes :=
  [0x1c, 0x12, 0, length, domain] ++ (List.replicate 15 0 : Bytes) ++ sourcePort.clock.toList ++
    sourcePort.port.toList ++ [(sequence >>> 8).toUInt8, sequence.toUInt8, 0, 0x7f] ++
    (PortIdentity.wildcard.clock.toList ++ PortIdentity.wildcard.port.toList) ++ tlv

theorem signalingBytes_length (length : UInt8) (tlv : Bytes) :
    (signalingBytes sourcePort domain sequence length tlv).length = 44 + tlv.length := by
  simp [signalingBytes]
  omega

/-- A message of this form, with its length in it and one TLV, is what the readers ask for. -/
theorem signalingBytes_message {length : UInt8} {tlv : Tlv}
    (hlength : length.toNat = 44 + tlv.encode.length) :
    SignalingMessage (signalingBytes sourcePort domain sequence length tlv.encode) sourcePort
      domain tlv := by
  have hlen := signalingBytes_length sourcePort domain sequence length tlv.encode
  refine ⟨hlen, ?_, rfl, ?_, rfl, ?_, ?_, ?_, ?_⟩
  · have hhi : (signalingBytes sourcePort domain sequence length tlv.encode).u8 2 = 0 := rfl
    have hlo : (signalingBytes sourcePort domain sequence length tlv.encode).u8 3 = length := rfl
    unfold Bytes.word
    rw [hlen, hhi, hlo, hlength]
    exact Nat.zero_add _
  · show (0x12 : UInt8) &&& 15 = 2
    decide
  · unfold signalingBytes
    simp [Bytes.u8]
  · unfold Bytes.port signalingBytes
    simp [Bytes.field_cons, Bytes.field_append_right, Bytes.field_toList_append]
  · unfold Bytes.port signalingBytes
    simp [Bytes.field_cons, Bytes.field_append_right, Bytes.field_toList_append]
  · unfold signalingBytes
    rw [Bytes.span_append_right (by simp)]
    simp only [List.length_append, List.length_cons, List.length_nil, List.length_replicate,
      Vector.length_toList]
    exact Bytes.span_all _

theorem capableMessage_length :
    (capableMessage sourcePort domain sequence logInterval).length = ptpCapableMessageLength := by
  simp [capableMessage, ptpCapableMessageLength]

/-- What the first writer writes. -/
theorem capableMessage_eq : capableMessage sourcePort domain sequence logInterval =
    signalingBytes sourcePort domain sequence 60 (capableTlv 4 logInterval 5 (by decide)).encode := by
  have hencode : (capableTlv 4 logInterval 5 (by decide)).encode =
      [0x80, 0, 0, 12, 0, 0x80, 0xc2, 0, 0, 4, logInterval.toUInt8, 0, 0, 0, 0, 0] := by
    simp [Tlv.encode, capableTlv, beBytes]
  rw [hencode]
  rfl

/-- What the second writer makes of it. -/
theorem capableIntervalMessage_eq :
    (patchInterval (capableMessage sourcePort domain sequence 0) logInterval).take
        ptpCapableIntervalMessageLength =
      signalingBytes sourcePort domain sequence 58
        (capableTlv 5 logInterval 3 (by decide)).encode := by
  have hencode : (capableTlv 5 logInterval 3 (by decide)).encode =
      [0x80, 0, 0, 10, 0, 0x80, 0xc2, 0, 0, 5, logInterval.toUInt8, 0, 0, 0] := by
    simp [Tlv.encode, capableTlv, beBytes]
  rw [hencode]
  unfold patchInterval capableMessage signalingBytes ptpCapableIntervalMessageLength
  simp only [List.append_assoc, List.set_append, List.length_cons, List.length_nil,
    List.length_replicate, Vector.length_toList]
  simp [List.take_append, PortIdentity.wildcard, List.take_of_length_le]

theorem capableMessage_message :
    SignalingMessage (capableMessage sourcePort domain sequence logInterval) sourcePort domain
      (capableTlv 4 logInterval 5 (by decide)) := by
  rw [capableMessage_eq]
  apply signalingBytes_message
  rw [capableTlv_length]
  rfl

theorem capableIntervalMessage_message :
    SignalingMessage
      ((patchInterval (capableMessage sourcePort domain sequence 0) logInterval).take
        ptpCapableIntervalMessageLength) sourcePort domain
      (capableTlv 5 logInterval 3 (by decide)) := by
  rw [capableIntervalMessage_eq]
  apply signalingBytes_message
  rw [capableTlv_length]
  rfl

end Written

/-! ## What is sent is what they ask -/

section Sent

variable {m : Bytes} {sourcePort : PortIdentity} {domain : UInt8} {tlv : Tlv}

/-- The normalization keeps it: of the bytes the readers look at, it writes the version and
    the minor SdoId. -/
theorem SignalingMessage.normalized (h : SignalingMessage m sourcePort domain tlv) (gptp : Bool)
    (minorVersion : UInt8) :
    SignalingMessage (ptpGptpWireNormalize m gptp minorVersion) sourcePort domain tlv := by
  have hlen : 34 ≤ m.length := by
    rw [h.size]
    omega
  have htype : m.u8 0 &&& 15 = 12 := by
    rw [h.type]
    decide
  have hkept : ∀ i, (i = 0 ∨ (2 ≤ i ∧ i < 5) ∨ (20 ≤ i ∧ i < 32) ∨ 34 ≤ i) →
      ¬ wireTouches (m.u8 0) i := by
    intro i hi
    unfold wireTouches
    rw [htype]
    rintro (h' | h' | h' | h' | ⟨-, h'⟩ | ⟨h', -⟩ | ⟨h', -⟩ | ⟨h', -⟩)
    all_goals first | omega | cases h'
  have hu8 : ∀ i, (i = 0 ∨ (2 ≤ i ∧ i < 5) ∨ (20 ≤ i ∧ i < 32) ∨ 34 ≤ i) →
      (ptpGptpWireNormalize m gptp minorVersion).u8 i = m.u8 i :=
    fun i hi => u8_normalize (hkept i hi) _ _
  have hfield : ∀ start count, (20 ≤ start ∧ start + count ≤ 32) ∨ 34 ≤ start →
      (ptpGptpWireNormalize m gptp minorVersion).field start count = m.field start count :=
    fun start count hin => field_normalize (fun i hlow hhigh => hkept i (by omega)) _ _
  refine ⟨?_, ?_, ?_, version_normalize hlen h.version _ _, ?_,
    minorSdoId_normalize hlen h.minorSdoId _ _, ?_, ?_, ?_⟩
  · rw [ptpGptpWireNormalize_length, h.size]
  · rw [ptpGptpWireNormalize_length, ← h.length]
    unfold Bytes.word
    rw [hu8 2 (by omega), hu8 3 (by omega)]
  · rw [hu8 0 (by omega), h.type]
  · rw [hu8 4 (by omega), h.domain]
  · rw [← h.source]
    unfold Bytes.port
    rw [hfield _ _ (by omega), hfield _ _ (by omega)]
  · rw [← h.target]
    unfold Bytes.port
    rw [hfield _ _ (by omega), hfield _ _ (by omega)]
  · rw [← Bytes.toList_field, hfield _ _ (by omega), Bytes.toList_field, h.chain]

/-- What is read of a message with anything behind it. -/
theorem SignalingMessage.header (h : SignalingMessage m sourcePort domain tlv) (rest : Bytes)
    {received : Nat} (hreceived : m.length ≤ received) {localPort : PortIdentity}
    (hlocal : sourcePort.clock ≠ localPort.clock) :
    SignalingHeader (m ++ rest) received domain localPort ∧ (m ++ rest).word 2 = m.length ∧
      (m ++ rest).port 20 = sourcePort ∧
        (m ++ rest).span 44 tlv.encode.length = tlv.encode := by
  have hagree := Agree.append m rest
  have hsize := h.size
  have hword : (m ++ rest).word 2 = m.length := by
    rw [hagree.word (by omega), h.length]
  have hport : ∀ i, i + 10 ≤ m.length → (m ++ rest).port i = m.port i := by
    intro i hi
    unfold Bytes.port
    rw [hagree.field (by omega), hagree.field (by omega)]
  have hsource : (m ++ rest).port 20 = sourcePort := by
    rw [hport 20 (by omega), h.source]
  refine ⟨⟨by omega, by omega, ?_, ?_, ?_, ?_, .inl ?_, ?_⟩, hword, hsource, ?_⟩
  · rw [hagree 0 (by omega), h.type]
  · rw [hagree 1 (by omega), h.version]
  · rw [hagree 4 (by omega), h.domain]
  · rw [hagree 5 (by omega), h.minorSdoId]
  · rw [hport 34 (by omega), h.target]
  · rw [← hsource] at hlocal
    exact hlocal
  · rw [hagree.span (by omega), h.chain]

/-- The length check answers the message's own length. -/
theorem SignalingMessage.boundedLength (h : SignalingMessage m sourcePort domain tlv)
    (rest : Bytes) {received : Nat} (hreceived : m.length ≤ received) :
    ptpMessageBoundedLength (m ++ rest) received = m.length := by
  have hagree := Agree.append m rest
  have hsize := h.size
  have hword : (m ++ rest).word 2 = m.length := by
    rw [hagree.word (by omega), h.length]
  have htype : (m ++ rest).msgtype = .signaling := by
    unfold Bytes.msgtype
    rw [hagree 0 (by omega), h.type]
    decide
  have hminimum : minimumLength (m ++ rest) = 44 := by
    unfold minimumLength
    rw [htype]
  have hversion : (m ++ rest).u8 1 &&& 15 = 2 := by
    rw [hagree 1 (by omega), h.version]
  unfold ptpMessageBoundedLength
  dsimp only
  rw [hminimum, hword, if_neg, if_neg (by omega)]
  rintro (hshort | hother)
  · omega
  · exact hother hversion

/-- The TLV of a kind is found by who looks for that kind, and by nobody else. -/
theorem SignalingMessage.find (h : SignalingMessage m sourcePort domain tlv) (rest : Bytes)
    {received : Nat} (hreceived : m.length ≤ received) {localPort : PortIdentity}
    (hlocal : sourcePort.clock ≠ localPort.clock) {kind : UInt8}
    (hkind : signalingKind tlv = some kind) (hbody : tlv.body.length = expectedBody kind)
    (subtype : UInt8) :
    ptpSignalingFindTlv (m ++ rest) received domain localPort subtype =
      if kind = subtype then .decoded 44 else .ignored := by
  obtain ⟨hheader, hword, -, hchain⟩ := h.header rest hreceived hlocal
  have hsize := h.size
  have hparse : Tlv.parse ((m ++ rest).span 44 ((m ++ rest).word 2 - 44)) = some [tlv] := by
    rw [Tlv.parse_eq_some_iff, hword, show m.length - 44 = tlv.encode.length by omega, hchain,
      Tlv.encodeAll_cons, Tlv.encodeAll_nil, List.append_nil]
  have heven : ¬ tlv.body.length % 2 = 1 := by
    rw [hbody]
    unfold expectedBody
    split <;> decide
  rw [hheader.find, hparse, judgeTlvs, scanTlvs, if_neg heven, hkind]
  dsimp only
  rw [if_neg (by simp [hbody])]
  split <;> rfl

end Sent

/-! ## There and back -/

/-- Only this reader reads the message, as this. -/
structure ReadAs (message : Bytes) (received length : Nat) (domain : UInt8)
    (localPort : PortIdentity) (capable interval : PtpSignaling PtpCapableMessage) : Prop where
  bounded : ptpMessageBoundedLength message received = length
  capable : ptpSignalingReadCapable message received domain localPort = capable
  interval : ptpSignalingReadCapableInterval message received domain localPort = interval
  timing : ptpSignalingReadMessageInterval message received domain localPort = .ignored

/-- What a writer did with its buffer, and what comes of it on the way. -/
structure RoundTrip (written : Bytes × Nat) (buffer : Bytes) (length : Nat) (admitted : Prop)
    (sourcePort : PortIdentity) (domain : UInt8)
    (capable interval : PtpSignaling PtpCapableMessage) : Prop where
  refused : ¬ admitted → written = (buffer, 0)
  answer : admitted → written.2 = length
  /-- Whatever the buffer held, however it is normalized, and whatever follows it. -/
  read : admitted → ∀ gptp minorVersion localPort, sourcePort.clock ≠ localPort.clock →
    ∀ rest received, length ≤ received →
      ReadAs (ptpGptpWireNormalize (written.1.take length) gptp minorVersion ++ rest) received length
        domain localPort capable interval

/-- A capable TLV is of the kind it was written as. -/
theorem signalingKind_capableTlv {kind : UInt8} (h : kind = 4 ∨ kind = 5) (logInterval : Int8)
    (padding : Nat) (hpadding : padding < 65529) :
    signalingKind (capableTlv kind logInterval padding hpadding) = some kind := by
  have horganization : 6 ≤ (capableTlv kind logInterval padding hpadding).body.length ∧
      Bytes.field (capableTlv kind logInterval padding hpadding).body 0 5 =
        ieee8021OrgId := by
    refine ⟨?_, rfl⟩
    show 6 ≤ ([0, 0x80, 0xc2, 0, 0, kind, logInterval.toUInt8] ++ List.replicate padding 0).length
    rw [List.length_append]
    exact Nat.le_add_right_of_le (Nat.le_succ 6)
  have hkind : Bytes.u8 (capableTlv kind logInterval padding hpadding).body 5 = kind := rfl
  unfold signalingKind
  rw [if_pos horganization, hkind]
  exact if_pos (.inr ⟨h, rfl⟩)

/-- A message with one capable TLV is read as that. -/
theorem SignalingMessage.readAs {m : Bytes} {sourcePort : PortIdentity} {domain kind : UInt8}
    {logInterval : Int8} {padding : Nat} {hpadding : padding < 65529}
    (h : SignalingMessage m sourcePort domain (capableTlv kind logInterval padding hpadding))
    (hkind : kind = 4 ∨ kind = 5) (hbody : 7 + padding = expectedBody kind) (rest : Bytes)
    {received : Nat} (hreceived : m.length ≤ received) {localPort : PortIdentity}
    (hlocal : sourcePort.clock ≠ localPort.clock) :
    ReadAs (m ++ rest) received m.length domain localPort
      (if kind = 4 then .decoded ⟨sourcePort, logInterval.toInt⟩ else .ignored)
      (if kind = 5 then .decoded ⟨sourcePort, logInterval.toInt⟩ else .ignored) := by
  have hlength : (capableTlv kind logInterval padding hpadding).body.length = expectedBody kind := by
    rw [← hbody]
    simp [capableTlv]
    omega
  have hfind := h.find rest hreceived hlocal (signalingKind_capableTlv hkind _ _ _) hlength
  obtain ⟨-, -, hsource, hchain⟩ := h.header rest hreceived hlocal
  have hinterval : (m ++ rest).u8 54 = logInterval.toUInt8 := by
    have hsize : 10 < (capableTlv kind logInterval padding hpadding).encode.length := by
      rw [Tlv.encode_length, hlength, ← hbody]
      omega
    rw [← Bytes.u8_span _ hsize, hchain]
    rfl
  have hread : ∀ subtype, ptpSignalingReadCapableTlv (m ++ rest) received domain localPort subtype =
      if kind = subtype then .decoded ⟨sourcePort, logInterval.toInt⟩ else .ignored := by
    intro subtype
    unfold ptpSignalingReadCapableTlv
    rw [hfind]
    split
    · show PtpSignaling.decoded (⟨(m ++ rest).port 20, _⟩ : PtpCapableMessage) = _
      rw [hsource, show 44 + 10 = 54 from rfl, hinterval, Int8.toInt8_toUInt8]
    · rfl
  refine ⟨h.boundedLength rest hreceived, hread 4, hread 5, ?_⟩
  unfold ptpSignalingReadMessageInterval
  rw [hfind, if_neg]
  · rfl
  · rintro rfl
    rcases hkind with h2 | h2 <;> cases h2

section Writers

variable (buffer : Bytes) (capacity : Nat) (sourcePort : PortIdentity) (domain : UInt8)
  (sequence : UInt16) (logInterval : Int8)

theorem capable_roundTrip :
    RoundTrip (ptpSignalingWriteCapable buffer capacity sourcePort domain sequence logInterval)
      buffer ptpCapableMessageLength
      (ptpCapableMessageLength ≤ capacity ∧ -24 ≤ logInterval.toInt ∧ logInterval.toInt ≤ 24)
      sourcePort domain (.decoded ⟨sourcePort, logInterval.toInt⟩) .ignored := by
  have hlength := capableMessage_length sourcePort domain sequence logInterval
  have hwritten : ptpCapableMessageLength ≤ capacity ∧ -24 ≤ logInterval.toInt ∧
      logInterval.toInt ≤ 24 →
      ptpSignalingWriteCapable buffer capacity sourcePort domain sequence logInterval =
        (capableMessage sourcePort domain sequence logInterval ++
          buffer.drop ptpCapableMessageLength, ptpCapableMessageLength) := by
    intro hadmitted
    unfold ptpSignalingWriteCapable
    rw [if_neg (by omega)]
  refine ⟨?_, ?_, ?_⟩
  · intro hrefused
    unfold ptpSignalingWriteCapable
    rw [if_pos (by omega)]
  · intro hadmitted
    rw [hwritten hadmitted]
  · intro hadmitted gptp minorVersion localPort hlocal rest received hreceived
    have htaken : (capableMessage sourcePort domain sequence logInterval ++
        buffer.drop ptpCapableMessageLength).take ptpCapableMessageLength =
          capableMessage sourcePort domain sequence logInterval := List.take_left' hlength
    have hmessage := (capableMessage_message sourcePort domain sequence logInterval).normalized
      gptp minorVersion
    have hsize : (ptpGptpWireNormalize (capableMessage sourcePort domain sequence logInterval) gptp
        minorVersion).length = ptpCapableMessageLength := by
      rw [ptpGptpWireNormalize_length, hlength]
    rw [hwritten hadmitted, htaken]
    have hread := hmessage.readAs (.inl rfl) rfl rest (hsize.trans_le hreceived) hlocal
    rw [hsize] at hread
    exact hread

theorem capableInterval_roundTrip :
    RoundTrip
      (ptpSignalingWriteCapableInterval buffer capacity sourcePort domain sequence logInterval)
      buffer ptpCapableIntervalMessageLength
      (ptpCapableIntervalMessageLength ≤ capacity ∧ requestableInterval logInterval) sourcePort
      domain .ignored (.decoded ⟨sourcePort, logInterval.toInt⟩) := by
  have hencoded : ptpSignalingWriteCapable (List.replicate ptpCapableMessageLength 0)
      ptpCapableMessageLength sourcePort domain sequence 0 =
        (capableMessage sourcePort domain sequence 0, ptpCapableMessageLength) := by
    unfold ptpSignalingWriteCapable
    rw [if_neg (by decide), List.drop_replicate, Nat.sub_self, List.replicate_zero,
      List.append_nil]
  have hwritten : ptpCapableIntervalMessageLength ≤ capacity ∧ requestableInterval logInterval →
      ptpSignalingWriteCapableInterval buffer capacity sourcePort domain sequence logInterval =
        ((patchInterval (capableMessage sourcePort domain sequence 0) logInterval).take
            ptpCapableIntervalMessageLength ++ buffer.drop ptpCapableIntervalMessageLength,
          ptpCapableIntervalMessageLength) := by
    rintro ⟨hcapacity, hrequestable⟩
    unfold ptpSignalingWriteCapableInterval
    rw [if_neg (not_or.mpr ⟨Nat.not_lt.mpr hcapacity, not_not.mpr hrequestable⟩), hencoded]
    rfl
  have hmessage := capableIntervalMessage_message sourcePort domain sequence logInterval
  have hlength := hmessage.size
  rw [capableTlv_length, show 44 + (11 + 3) = ptpCapableIntervalMessageLength from rfl] at hlength
  generalize (patchInterval (capableMessage sourcePort domain sequence 0) logInterval).take
    ptpCapableIntervalMessageLength = encoded at hwritten hmessage hlength
  refine ⟨?_, ?_, ?_⟩
  · intro hrefused
    unfold ptpSignalingWriteCapableInterval
    rw [if_pos]
    rw [not_and_or] at hrefused
    exact hrefused.imp Nat.lt_of_not_le id
  · intro hadmitted
    rw [hwritten hadmitted]
  · intro hadmitted gptp minorVersion localPort hlocal rest received hreceived
    rw [hwritten hadmitted, List.take_left' hlength]
    have hsize : (ptpGptpWireNormalize encoded gptp minorVersion).length =
        ptpCapableIntervalMessageLength := by
      rw [ptpGptpWireNormalize_length, hlength]
    have hread := (hmessage.normalized gptp minorVersion).readAs (.inr rfl) rfl rest
      (hsize.trans_le hreceived) hlocal
    rw [hsize] at hread
    exact hread

end Writers

/-- **What is written is read back, by its own reader only, and a writer that refuses writes
    nothing.** -/
theorem signaling_roundTrip (buffer : Bytes) (capacity : Nat) (sourcePort : PortIdentity)
    (domain : UInt8) (sequence : UInt16) (logInterval : Int8) :
    RoundTrip (ptpSignalingWriteCapable buffer capacity sourcePort domain sequence logInterval)
        buffer ptpCapableMessageLength
        (ptpCapableMessageLength ≤ capacity ∧ -24 ≤ logInterval.toInt ∧ logInterval.toInt ≤ 24)
        sourcePort domain (.decoded ⟨sourcePort, logInterval.toInt⟩) .ignored ∧
      RoundTrip
        (ptpSignalingWriteCapableInterval buffer capacity sourcePort domain sequence logInterval)
        buffer ptpCapableIntervalMessageLength
        (ptpCapableIntervalMessageLength ≤ capacity ∧ requestableInterval logInterval)
        sourcePort domain .ignored (.decoded ⟨sourcePort, logInterval.toInt⟩) :=
  ⟨capable_roundTrip buffer capacity sourcePort domain sequence logInterval,
    capableInterval_roundTrip buffer capacity sourcePort domain sequence logInterval⟩

end EspPtp
