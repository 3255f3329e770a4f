import EspPtp.Daemon.EndpointBeacon

/-!
# Frames of the wired port (`ptp_net_send_to`, `ptp_net_recv`)

A message leaves in an Ethernet frame to a group address of its profile, or to a station. In
the AVB Lite profile the frame has a priority tag, which moves the message by four bytes and
takes another way to the driver. The receiver takes frames with and without one, drops what is
for another station, and keeps the two addresses and the stamp next to the message.

What the sender put in comes out (`ptpNetRecv_sent`), with whatever the link padded the frame
to behind it.
-/

namespace EspPtp

variable {F : Type} {n : Nat}

/-! ## Sending -/

/-- `PTP4L_MULTICAST_ADDR`. -/
def ptp4lMulticastAddr : MacAddr := #v[0x01, 0x1b, 0x19, 0x00, 0x00, 0x00]

/-- `ETH_TYPE_PTP`. -/
def ethTypePtp : Bytes := [0x88, 0xf7]

/-- A tag of VLAN 0 and `PTP_PRIORITY_TAG_PCP`. -/
def ptpPriorityTag : Bytes := [0x81, 0x00, (7 : UInt8) <<< 5, 0x00]

namespace PtpState

variable (cfg : Config) (s : PtpState F n)

/-- The address a message is sent to: the station's, or the profile's (`ptp_net_send`). -/
def destination (frame : PtpFrame) : MacAddr :=
  frame.unicastTo.getD (if s.isGptp then lldpMulticastAddr else ptp4lMulticastAddr)

/-- `ptp_tags_frame`. -/
def tagsFrame (destMac : MacAddr) : Bool :=
  cfg.litePriorityTag && !s.isGptp && decide (destMac ≠ lldpMulticastAddr)

/-- The frame `ptp_net_send_to` or `ptp_net_send_tagged` hands to the driver. -/
def ethFrame (intfHwAddr : MacAddr) (frame : PtpFrame) : Bytes :=
  let destMac := s.destination frame
  destMac.toList ++ intfHwAddr.toList ++
    (if s.tagsFrame cfg destMac then ptpPriorityTag else []) ++ ethTypePtp ++
    s.onWire frame.message

end PtpState

/-! ## Receiving -/

/-- `ETH_HEADER_LEN` and `PTP_VLAN_TAG_LEN`. -/
def ethHeaderLen : Nat := 14
def ptpVlanTagLen : Nat := 4

/-- The size of the receive buffer, `sizeof(ptp_msgbuf)`. -/
def ptpMsgbufLen : Nat := 256

/-- Where the message of a frame begins. -/
def ethPayloadStart (ethFrame : Bytes) : Nat :=
  if ethHeaderLen + ptpVlanTagLen < ethFrame.length ∧ ethFrame.u8 12 = 0x81 ∧
      ethFrame.u8 13 = 0x00 ∧ ethFrame.u8 16 = 0x88 ∧ ethFrame.u8 17 = 0xf7 then
    ethHeaderLen + ptpVlanTagLen
  else ethHeaderLen

/-- Unicast to this address, or to a group. -/
def ethAddressed (intfHwAddr destMac : MacAddr) : Bool :=
  decide (macOctet0 destMac &&& 1 ≠ 0) || decide (destMac = intfHwAddr)

/-- The stamp `read` leaves in `rxtime`. -/
def RxScratch.stamped (rx : RxScratch) (ethFrame : Bytes) (stamp : Option Timespec) : RxScratch :=
  if ethFrame = [] then rx else { rx with rxtime := stamp.getD rx.rxtime }

/-- `ptp_net_recv` of what `read` on the socket gives, a frame and the stamp that came with it.
    Its answer is the length of the message, `none` for `ERROR`. -/
def ptpNetRecv (intfHwAddr : MacAddr) (rx : RxScratch) (ethFrame : Bytes)
    (stamp : Option Timespec) : RxScratch × Option Nat :=
  let rx := rx.stamped ethFrame stamp
  let ethFrame : Bytes := ethFrame.take (ptpMsgbufLen + ethHeaderLen + ptpVlanTagLen)
  if ethFrame.length ≤ ethHeaderLen then (rx, none)
  else if !ethAddressed intfHwAddr (ethFrame.field 0 6) then (rx, none)
  else
    let payload : Bytes := (ethFrame.drop (ethPayloadStart ethFrame)).take ptpMsgbufLen
    ({ rx with
        rxDestMac := ethFrame.field 0 6
        rxDestMacValid := true
        rxSourceMac := ethFrame.field 6 6
        rxSourceMacValid := true
        rxbuf := payload ++ rx.rxbuf.drop payload.length }, some payload.length)

/-! ## What was sent is received -/

section Frame

variable (destMac sourceMac : MacAddr) (tag payload : Bytes)

/-- The parts of a frame. -/
def ethFrameOf : Bytes :=
  destMac.toList ++ sourceMac.toList ++ tag ++ ethTypePtp ++ payload

theorem ethFrameOf_length :
    (ethFrameOf destMac sourceMac tag payload).length = 14 + tag.length + payload.length := by
  simp [ethFrameOf, ethTypePtp]
  omega

theorem ethFrameOf_destMac : (ethFrameOf destMac sourceMac tag payload).field 0 6 = destMac := by
  simp [ethFrameOf, Bytes.field_toList_append]

theorem ethFrameOf_sourceMac :
    (ethFrameOf destMac sourceMac tag payload).field 6 6 = sourceMac := by
  simp [ethFrameOf, Bytes.field_append_right, Bytes.field_toList_append]

/-- The bytes behind the addresses. -/
theorem u8_ethFrameOf {i : Nat} (h : 12 ≤ i) :
    (ethFrameOf destMac sourceMac tag payload).u8 i =
      Bytes.u8 (tag ++ ethTypePtp ++ payload) (i - 12) := by
  have haddresses : (destMac.toList ++ sourceMac.toList).length = 12 := by simp
  unfold ethFrameOf
  rw [List.append_assoc, List.append_assoc, Bytes.u8_append_right (by omega), haddresses,
    List.append_assoc]

/-- Whether there is a tag or not, the message is found. -/
theorem drop_ethPayloadStart (htag : tag = [] ∨ tag = ptpPriorityTag) (hne : payload ≠ []) :
    (ethFrameOf destMac sourceMac tag payload).drop
      (ethPayloadStart (ethFrameOf destMac sourceMac tag payload)) = payload := by
  have hlength := ethFrameOf_length destMac sourceMac tag payload
  have hpos : 0 < payload.length := List.length_pos_iff.mpr hne
  have hstart : ethPayloadStart (ethFrameOf destMac sourceMac tag payload) = 14 + tag.length := by
    unfold ethPayloadStart ethHeaderLen ptpVlanTagLen
    rw [hlength, u8_ethFrameOf _ _ _ _ (by decide), u8_ethFrameOf _ _ _ _ (by decide),
      u8_ethFrameOf _ _ _ _ (by decide), u8_ethFrameOf _ _ _ _ (by decide)]
    rcases htag with rfl | rfl
    · -- Here the type of the frame stands where the tag would begin.
      simp [ethTypePtp, Bytes.u8]
    · have hlong : 14 + 4 < 14 + ptpPriorityTag.length + payload.length := by
        simp [ptpPriorityTag]
        omega
      simp only [hlong, true_and]
      simp [ethTypePtp, ptpPriorityTag, Bytes.u8]
  have hfront : (destMac.toList ++ sourceMac.toList ++ tag ++ ethTypePtp).length =
      14 + tag.length := by
    simp [ethTypePtp]
    omega
  rw [hstart]
  unfold ethFrameOf
  rw [← hfront, List.drop_left]

/-- A frame that was cut is the frame of what is left of its message. -/
theorem take_ethFrameOf {count : Nat} (h : 14 + tag.length ≤ count) :
    (ethFrameOf destMac sourceMac tag payload).take count =
      ethFrameOf destMac sourceMac tag (payload.take (count - (14 + tag.length))) := by
  have hfront : (destMac.toList ++ sourceMac.toList ++ tag ++ ethTypePtp).length =
      14 + tag.length := by
    simp [ethTypePtp]
    omega
  unfold ethFrameOf
  rw [List.take_append, List.take_of_length_le (by omega), hfront]

end Frame

/-- What the receiver keeps of a frame for it. -/
def RxScratch.taken (rx : RxScratch) (destMac sourceMac : MacAddr) (payload : Bytes) : RxScratch :=
  { rx with
    rxDestMac := destMac
    rxDestMacValid := true
    rxSourceMac := sourceMac
    rxSourceMacValid := true
    rxbuf := payload ++ rx.rxbuf.drop payload.length }

/-- A frame of these parts is received, whatever its tag. -/
theorem ptpNetRecv_ethFrameOf (intfHwAddr : MacAddr) (rx : RxScratch) (destMac sourceMac : MacAddr)
    {tag payload : Bytes} (htag : tag = [] ∨ tag = ptpPriorityTag) (hne : payload ≠ [])
    (stamp : Option Timespec) :
    ptpNetRecv intfHwAddr rx (ethFrameOf destMac sourceMac tag payload) stamp =
      if ethAddressed intfHwAddr destMac then
        (RxScratch.taken { rx with rxtime := stamp.getD rx.rxtime } destMac sourceMac
          (payload.take ptpMsgbufLen), some (payload.take ptpMsgbufLen).length)
      else ({ rx with rxtime := stamp.getD rx.rxtime }, none) := by
  have hlong : 0 < payload.length := List.length_pos_iff.mpr hne
  have hshort : tag.length ≤ 4 := by
    rcases htag with rfl | rfl
    · exact Nat.zero_le _
    · exact Nat.le_refl _
  have hwhole : ethFrameOf destMac sourceMac tag payload ≠ [] := by
    intro hnil
    have hlength := ethFrameOf_length destMac sourceMac tag payload
    rw [hnil, List.length_nil] at hlength
    omega
  have hstamped : rx.stamped (ethFrameOf destMac sourceMac tag payload) stamp =
      { rx with rxtime := stamp.getD rx.rxtime } := if_neg hwhole
  -- At most four bytes more than the buffer takes are read.
  have hcut : ((payload.take (274 - (14 + tag.length))).take ptpMsgbufLen) =
      payload.take ptpMsgbufLen := by
    rw [List.take_take]
    congr 1
    unfold ptpMsgbufLen
    omega
  have hleft : payload.take (274 - (14 + tag.length)) ≠ [] := by
    rw [← List.length_pos_iff, List.length_take]
    omega
  unfold ptpNetRecv
  rw [hstamped]
  unfold ptpMsgbufLen ethHeaderLen ptpVlanTagLen
  dsimp only
  rw [take_ethFrameOf _ _ _ _ (by omega), ethFrameOf_length, ethFrameOf_destMac,
    ethFrameOf_sourceMac, drop_ethPayloadStart _ _ _ _ htag hleft, if_neg ?_]
  · cases ethAddressed intfHwAddr destMac with
    | false => rfl
    | true =>
      have hcut' : ((payload.take (256 + 14 + 4 - (14 + tag.length))).take 256) =
          payload.take 256 := hcut
      simp only [Bool.not_true, Bool.false_eq_true, if_false, if_true]
      rw [hcut']
      rfl
  · have hpos : 0 < (payload.take (256 + 14 + 4 - (14 + tag.length))).length :=
      List.length_pos_iff.mpr hleft
    omega

/-- **What one clock sends over the wire another receives**: tagged or not, the message as it is
    on the wire, what the link padded it with behind it, and both addresses, if it is for the
    other clock or for a group; and otherwise nothing but the stamp. -/
theorem ptpNetRecv_sent (cfg : Config) (s : PtpState F n) (sourceMac intfHwAddr : MacAddr)
    (frame : PtpFrame) (hne : frame.message ≠ []) (padding : Bytes) (rx : RxScratch)
    (stamp : Option Timespec) :
    ptpNetRecv intfHwAddr rx (s.ethFrame cfg sourceMac frame ++ padding) stamp =
      if ethAddressed intfHwAddr (s.destination frame) then
        (RxScratch.taken { rx with rxtime := stamp.getD rx.rxtime } (s.destination frame) sourceMac
          ((s.onWire frame.message ++ padding).take ptpMsgbufLen),
          some ((s.onWire frame.message ++ padding).take ptpMsgbufLen).length)
      else ({ rx with rxtime := stamp.getD rx.rxtime }, none) := by
  have hwire : s.onWire frame.message ++ padding ≠ [] := by
    have hlength : (s.onWire frame.message).length = frame.message.length :=
      ptpGptpWireNormalize_length ..
    intro hnil
    rw [List.append_eq_nil_iff] at hnil
    rw [hnil.1, List.length_nil] at hlength
    exact hne (List.length_eq_zero_iff.mp hlength.symm)
  have hframe : s.ethFrame cfg sourceMac frame ++ padding =
      ethFrameOf (s.destination frame) sourceMac
        (if s.tagsFrame cfg (s.destination frame) then ptpPriorityTag else [])
        (s.onWire frame.message ++ padding) := by
    unfold PtpState.ethFrame ethFrameOf
    simp only [List.append_assoc]
  rw [hframe]
  apply ptpNetRecv_ethFrameOf _ _ _ _ _ hwire
  cases s.tagsFrame cfg (s.destination frame) with
  | false => exact .inl rfl
  | true => exact .inr rfl

end EspPtp
