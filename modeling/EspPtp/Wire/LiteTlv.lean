import EspPtp.Wire.Buffer

/-!
# The AVB Lite TLVs of `ptp.c`

Organization extensions behind the standard body of a message. `ptpFindLiteTlv` returns the
offset of the TLV's value where the source returns a pointer to it.
-/

namespace EspPtp

/-- `PTP_ENDPOINT_DECL_TLV_ORG_ID_BYTES`. -/
def liteOrgId : Vector UInt8 3 := #v[0x8c, 0x1f, 0x64]

/-- `PTP_ENDPOINT_DECL_TLV_SUBTYPE_BYTES`. -/
def endpointDeclSubtype : Vector UInt8 3 := #v[0x36, 0xc0, 0x01]

/-- `PTP_GM_LINK_TLV_SUBTYPE_BYTES`. -/
def gmLinkSubtype : Vector UInt8 3 := #v[0x36, 0xc0, 0x04]

/-- `ptp_find_lite_tlv`, from an offset on. -/
def ptpFindLiteTlv (message : Bytes) (totalLen : Nat) (subtype : Vector UInt8 3)
    (minLen offset : Nat) : Option Nat :=
  if offset + 4 ≤ totalLen then
    let type := message.word offset
    let len := message.word (offset + 2)
    let body := offset + 4
    if body + len > totalLen then none
    else if (type = 0x0003 ∨ type = 0x8000) ∧ len ≥ minLen ∧ len ≥ 6 ∧
        message.field body 3 = liteOrgId ∧ message.field (body + 3) 3 = subtype then
      some body
    else ptpFindLiteTlv message totalLen subtype minLen (body + len)
  else none
termination_by totalLen - offset

/-- `ptp_msg_has_endpoint_decl_tlv`. -/
def ptpMsgHasEndpointDeclTlv (message : Bytes) (totalLen baseLen : Nat) : Bool :=
  match ptpFindLiteTlv message totalLen endpointDeclSubtype 7 baseLen with
  | none => false
  | some value => decide (message.u8 (value + 6) = 0x01)

/-- The TLV `ptp_append_endpoint_decl_tlv` appends. -/
def endpointDeclTlv : Bytes :=
  [0x80, 0x00, 0x00, 0x08] ++ liteOrgId.toList ++ endpointDeclSubtype.toList ++ [0x01, 0]

/-- The link speed in the Grandmaster Link TLV of an Announce, zero without one. -/
def announceGmLinkMbps (message : Bytes) (length : Nat) : UInt32 :=
  match ptpFindLiteTlv message length gmLinkSubtype 10 64 with
  | none => 0
  | some value =>
    ((message.u8 (value + 6)).toUInt32 <<< 24) ||| ((message.u8 (value + 7)).toUInt32 <<< 16) |||
      ((message.u8 (value + 8)).toUInt32 <<< 8) ||| (message.u8 (value + 9)).toUInt32

end EspPtp
