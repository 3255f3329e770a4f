import EspPtp.Message

/-!
# Messages as bytes (`ptp.h`, `ptp_message_bounds.h`)

A received message is a byte buffer, and the wire structures are views of it: the source
reads them through a union with the raw bytes. A buffer is a list here, and a byte past
its end reads as zero, so that a list stands for the whole 256-byte union with its tail
cleared.

`ptpMessageBoundedLength` is what every received message has to pass before a field of it
is looked at.
-/

namespace EspPtp

/-- Raw bytes of a message. -/
abbrev Bytes := List UInt8

namespace Bytes

variable (m : Bytes)

def u8 (i : Nat) : UInt8 := m.getD i 0

/-- `((size_t)m[i] << 8) | m[i + 1]`. -/
def word (i : Nat) : Nat := (m.u8 i).toNat * 256 + (m.u8 (i + 1)).toNat

/-- The `n` bytes at `i`. -/
def field (i n : Nat) : Vector UInt8 n := Vector.ofFn fun k => m.u8 (i + k)

end Bytes

/-! ## The views -/

def PtpHeader.read (m : Bytes) : PtpHeader where
  messagetype := m.u8 0
  version := m.u8 1
  messagelength := m.field 2 2
  domain := m.u8 4
  reserved1 := m.u8 5
  flags := m.field 6 2
  correction := m.field 8 8
  reserved2 := m.field 16 4
  sourceidentity := m.field 20 8
  sourceportindex := m.field 28 2
  sequenceid := m.field 30 2
  controlfield := m.u8 32
  logmessageinterval := m.u8 33

def PtpAnnounce.read (m : Bytes) : PtpAnnounce where
  header := PtpHeader.read m
  origintimestamp := m.field 34 10
  utcoffset := m.field 44 2
  reserved := m.u8 46
  btcPriority1 := m.u8 47
  btcQuality := m.field 48 4
  btcPriority2 := m.u8 52
  btcIdentity := m.field 53 8
  stepsremoved := m.field 61 2
  timesource := m.u8 63

def PtpSync.read (m : Bytes) : PtpSync where
  header := PtpHeader.read m
  origintimestamp := m.field 34 10

def PtpFollowUp.read (m : Bytes) : PtpFollowUp where
  header := PtpHeader.read m
  origintimestamp := m.field 34 10
  informationtlv := m.field 44 32

def PtpDelayReq.read (m : Bytes) : PtpDelayReq where
  header := PtpHeader.read m
  origintimestamp := m.field 34 10

def PtpDelayResp.read (m : Bytes) : PtpDelayResp where
  header := PtpHeader.read m
  receivetimestamp := m.field 34 10
  reqidentity := m.field 44 8
  reqportindex := m.field 52 2

def PtpDelayRespFollowUp.read (m : Bytes) : PtpDelayRespFollowUp where
  header := PtpHeader.read m
  origintimestamp := m.field 34 10
  reqidentity := m.field 44 8
  reqportindex := m.field 52 2

/-! ## Writing -/

def PtpHeader.write (h : PtpHeader) : Bytes :=
  [h.messagetype, h.version] ++ h.messagelength.toList ++ [h.domain, h.reserved1] ++
    h.flags.toList ++ h.correction.toList ++ h.reserved2.toList ++ h.sourceidentity.toList ++
    h.sourceportindex.toList ++ h.sequenceid.toList ++ [h.controlfield, h.logmessageinterval]

@[simp] theorem PtpHeader.write_length (h : PtpHeader) : h.write.length = 34 := by
  simp [PtpHeader.write]

/-- `ptp_set_message_length`. -/
def ptpSetMessageLength (h : PtpHeader) (length : Nat) : PtpHeader :=
  { h with messagelength := octets (length / 256).toUInt8 length.toUInt8 }

def PtpFollowUp.write (msg : PtpFollowUp) : Bytes :=
  msg.header.write ++ msg.origintimestamp.toList ++ msg.informationtlv.toList

namespace Bytes

/-- `memset(m + start, 0, count)`. -/
def clear (m : Bytes) (start count : Nat) : Bytes :=
  m.mapIdx fun i byte => if start ≤ i ∧ i < start + count then 0 else byte

@[simp] theorem clear_length (m : Bytes) (start count : Nat) :
    (m.clear start count).length = m.length := by
  simp [clear]

@[simp] theorem u8_clear (m : Bytes) (start count i : Nat) :
    (m.clear start count).u8 i = if start ≤ i ∧ i < start + count then 0 else m.u8 i := by
  unfold u8 clear
  rw [List.getD_eq_getElem?_getD, List.getD_eq_getElem?_getD, List.getElem?_mapIdx]
  cases m[i]? <;> simp

@[simp] theorem u8_set (m : Bytes) (i j : Nat) (byte : UInt8) :
    u8 (m.set i byte) j = if i = j ∧ i < m.length then byte else m.u8 j := by
  unfold u8
  rw [List.getD_eq_getElem?_getD, List.getD_eq_getElem?_getD, List.getElem?_set]
  by_cases hij : i = j
  · subst hij
    by_cases hlt : i < m.length <;> simp [hlt]
  · simp [hij]

end Bytes

/-- `ptp_gptp_wire_normalize`. -/
def ptpGptpWireNormalize (wire : Bytes) (gptp : Bool) (minorVersion : UInt8) : Bytes :=
  if !gptp ∨ wire.length < 34 then wire
  else
    let length := wire.length
    let wire : Bytes := (wire.set 1 ((minorVersion <<< 4) ||| 0x02)).set 5 0
    let wire : Bytes := (wire.clear 16 4).set 32 0
    let type := wire.u8 0 &&& 15
    let wire : Bytes := if type = 12 then wire.set 33 0x7f else wire
    if type = 11 ∧ length ≥ 64 then (wire.clear 34 10).set 46 0
    else if type = 2 ∧ length ≥ 54 then wire.clear 34 20
    else if type = 0 ∧ wire.u8 6 &&& 2 ≠ 0 ∧ length ≥ 44 then wire.clear 34 10
    else wire

/-! ## Message types -/

/-- `PTP_MSGTYPE_*`; `other` are the types the daemon has no name for. -/
inductive PtpMsgtype where
  | sync
  | delayReq
  | pdelayReq
  | pdelayResp
  | followUp
  | delayResp
  | pdelayRespFollowUp
  | announce
  | signaling
  | other
  deriving DecidableEq, Inhabited, Repr

/-- `messagetype & PTP_MSGTYPE_MASK`. -/
def PtpMsgtype.ofByte (messagetype : UInt8) : PtpMsgtype :=
  match (messagetype &&& 0x0f).toNat with
  | 0x0 => .sync
  | 0x1 => .delayReq
  | 0x2 => .pdelayReq
  | 0x3 => .pdelayResp
  | 0x8 => .followUp
  | 0x9 => .delayResp
  | 0xa => .pdelayRespFollowUp
  | 0xb => .announce
  | 0xc => .signaling
  | _ => .other

/-- The type of a message. -/
def Bytes.msgtype (m : Bytes) : PtpMsgtype := PtpMsgtype.ofByte (m.u8 0)

/-- `PTP_MSGTYPE_SDOID_GPTP` is set. -/
def Bytes.isGptp (m : Bytes) : Bool := decide (m.u8 0 &&& 0x10 ≠ 0)

/-! ## Bounds -/

/-- The shortest message of a type. -/
def minimumLength (m : Bytes) : Nat :=
  match m.msgtype with
  | .sync | .delayReq => 44
  | .pdelayReq | .pdelayResp | .delayResp | .pdelayRespFollowUp => 54
  -- A gPTP Follow_Up carries its information TLV.
  | .followUp => if m.u8 0 >>> 4 = 1 then 76 else 44
  | .announce => 64
  | .signaling => 44
  | .other => 34

/-- `ptp_message_bounded_length`; zero is no message. -/
def ptpMessageBoundedLength (message : Bytes) (received : Nat) : Nat :=
  if received < 34 ∨ message.u8 1 &&& 15 ≠ 2 then 0
  else
    let length := message.word 2
    if length < minimumLength message ∨ length > received then 0 else length

/-- `ptp_timing_payload_valid`: a Follow_Up with its information TLV. -/
def ptpTimingPayloadValid (message : Bytes) (size : Nat) : Bool :=
  if size < 76 then false
  else
    let length := message.word 2
    if message.u8 0 &&& 15 ≠ 8 ∨ message.u8 1 &&& 15 ≠ 2 ∨ length < 76 ∨ length > size then
      false
    else decide (message.field 44 10 = #v[0, 3, 0, 28, 0, 0x80, 0xc2, 0, 0, 1])

end EspPtp
