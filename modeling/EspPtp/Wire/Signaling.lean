import EspPtp.Capable.Receive
import EspPtp.Wifi.Peers
import EspPtp.Wire.Buffer

/-!
# Signaling messages (`ptp_signaling.h`)

A Signaling message is a header, a target port and a chain of TLVs. The whole chain is
checked before any recognized TLV of it is exposed: `ptpSignalingFindTlv` walks it to the
end, and the three readers only look at what it found.
-/

namespace EspPtp

/-- `PTP_SIGNALING_MALFORMED`, `PTP_SIGNALING_IGNORED`, or what was read. -/
inductive PtpSignaling (α : Type) where
  | malformed
  | ignored
  | decoded (value : α)
  deriving DecidableEq, Inhabited, Repr

/-- What a decoded message says. -/
def PtpSignaling.map {α β : Type} (f : α → β) : PtpSignaling α → PtpSignaling β
  | .malformed => .malformed
  | .ignored => .ignored
  | .decoded value => .decoded (f value)

def PtpSignaling.isMalformed {α : Type} : PtpSignaling α → Bool
  | .malformed => true
  | _ => false

/-- The ten bytes at `i` as a port identity. -/
def Bytes.port (m : Bytes) (i : Nat) : PortIdentity := ⟨m.field i 8, m.field (i + 8) 2⟩

/-- The target of a message to every port. -/
def PortIdentity.wildcard : PortIdentity := ⟨Vector.replicate 8 255, Vector.replicate 2 255⟩

/-- The organization of the TLVs this daemon knows, IEEE 802.1. -/
abbrev ieee8021OrgId : Vector UInt8 5 := #v[0, 0x80, 0xc2, 0, 0]

/-- The kind of the TLV at `offset`, when it is one of the three this daemon knows: IEEE
    802.1, a known kind, and the type of that kind. -/
def knownTlv (message : Bytes) (offset body : Nat) : Option UInt8 :=
  if body ≥ 6 ∧ message.field (offset + 4) 5 = ieee8021OrgId then
    let kind := message.u8 (offset + 9)
    -- Message interval requests propagate, the other two do not.
    let expectedType := if kind = 2 then 0x0003 else 0x8000
    if (kind = 2 ∨ kind = 4 ∨ kind = 5) ∧ message.word offset = expectedType then some kind
    else none
  else none

/-- The body a known TLV must have. -/
def expectedBody (kind : UInt8) : Nat := if kind = 5 then 10 else 12

/-- The loop of `ptp_signaling_find_tlv`; `seen` holds the kinds met so far. -/
def findTlvLoop (message : Bytes) (length : Nat) (subtype : UInt8) (offset : Nat)
    (seen : List UInt8) (found : Option Nat) : PtpSignaling Nat :=
  if offset < length then
    if length - offset < 4 then .malformed
    else
      let body := message.word (offset + 2)
      if body > length - offset - 4 ∨ body % 2 = 1 then .malformed
      else
        match knownTlv message offset body with
        | none => findTlvLoop message length subtype (offset + body + 4) seen found
        | some kind =>
          if body ≠ expectedBody kind ∨ kind ∈ seen then .malformed
          else
            findTlvLoop message length subtype (offset + body + 4) (kind :: seen)
              (if kind = subtype then some offset else found)
  else
    match found with
    | none => .ignored
    | some offset => .decoded offset
termination_by length - offset

/-- `ptp_signaling_find_tlv`: the offset of the TLV of a kind. -/
def ptpSignalingFindTlv (message : Bytes) (received : Nat) (domain : UInt8)
    (localPort : PortIdentity) (subtype : UInt8) : PtpSignaling Nat :=
  if received < 44 then .malformed
  else
    let length := message.word 2
    if length < 44 ∨ length > received then .malformed
    else if message.u8 0 ≠ 0x1c ∨ message.u8 1 &&& 15 ≠ 2 ∨ message.u8 4 ≠ domain ∨
        message.u8 5 ≠ 0 then .ignored
    else if message.port 34 ≠ .wildcard ∧ message.port 34 ≠ localPort then .ignored
    else if message.field 20 8 = localPort.clock then .ignored
    else findTlvLoop message length subtype 44 [] none

/-- What is found is in a gPTP Signaling message. -/
theorem ptpSignalingFindTlv_sdoid {message : Bytes} {received : Nat} {domain : UInt8}
    {localPort : PortIdentity} {subtype : UInt8} {offset : Nat}
    (h : ptpSignalingFindTlv message received domain localPort subtype = .decoded offset) :
    message.u8 0 = 0x1c := by
  by_contra hne
  unfold ptpSignalingFindTlv at h
  dsimp only at h
  split_ifs at h with _ _ hheader
  exact hheader (Or.inl hne)

theorem PtpSignaling.map_decoded {α β : Type} {f : α → β} {x : PtpSignaling α} {value : β}
    (h : x.map f = .decoded value) : ∃ found, x = .decoded found ∧ f found = value := by
  cases x with
  | malformed => cases h
  | ignored => cases h
  | decoded found =>
    cases h
    exact ⟨found, rfl, rfl⟩

/-- `ptp_signaling_read_capable_tlv`. -/
def ptpSignalingReadCapableTlv (message : Bytes) (received : Nat) (domain : UInt8)
    (localPort : PortIdentity) (subtype : UInt8) : PtpSignaling PtpCapableMessage :=
  (ptpSignalingFindTlv message received domain localPort subtype).map fun tlv =>
    { sourcePort := message.port 20
      logInterval := (message.u8 (tlv + 10)).toInt8.toInt }

/-- `ptp_signaling_read_capable`. -/
def ptpSignalingReadCapable (message : Bytes) (received : Nat) (domain : UInt8)
    (localPort : PortIdentity) : PtpSignaling PtpCapableMessage :=
  ptpSignalingReadCapableTlv message received domain localPort 4

/-- `ptp_signaling_read_capable_interval`. -/
def ptpSignalingReadCapableInterval (message : Bytes) (received : Nat) (domain : UInt8)
    (localPort : PortIdentity) : PtpSignaling PtpCapableMessage :=
  ptpSignalingReadCapableTlv message received domain localPort 5

/-- `ptp_signaling_read_message_interval`. -/
def ptpSignalingReadMessageInterval (message : Bytes) (received : Nat) (domain : UInt8)
    (localPort : PortIdentity) : PtpSignaling PtpIntervalMessage :=
  (ptpSignalingFindTlv message received domain localPort 2).map fun tlv =>
    { sourcePort := message.port 20
      logLinkDelay := (message.u8 (tlv + 10)).toInt8.toInt
      logSync := (message.u8 (tlv + 11)).toInt8.toInt
      logAnnounce := (message.u8 (tlv + 12)).toInt8.toInt
      flags := message.u8 (tlv + 13) }

end EspPtp
