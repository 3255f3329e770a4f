import EspPtp.Daemon.ScaledNs
import EspPtp.Lib.LittleEndian
import EspPtp.Link.Sent
import EspPtp.Wire.Timestamp

/-!
# The beacon time element (`publish_ies` of `ptp_beacon_ie.c`, `on_vendor_ie` of `ptp_wifi.c`)

An access point tells its stations the time in a vendor element of its beacons: a Follow_Up
with the time of its clock, and behind it the TSF of the radio. The host writes the first and
leaves a gap of zeros for the second, which only the coprocessor knows; the station reads both.

The element's identifiers and the lengths of its parts are in a header that is not here, nor is
the coprocessor. They are parameters, with what the two sides rely on.
-/

namespace EspPtp

open Lib

/-- The constants of `hosted_avb_proto.h`: `PTP_VND_IE_OUI0` and so on. -/
structure VndIe where
  oui : Vector UInt8 3
  ouiTypeAvbWireless : UInt8
  subid0 : UInt8
  subid1BeaconTime : UInt8
  subidLen : Nat
  tsfMappingPayloadLen : Nat
  captureBracketLen : Nat
  /-- The two bytes of the identifier are in it. -/
  subidRoom : 2 ≤ subidLen
  /-- A TSF is read into 64 bits. -/
  tsfFits : tsfMappingPayloadLen ≤ 8
  /-- The length of an element is a byte. -/
  elementFits : 4 + subidLen + 76 + tsfMappingPayloadLen ≤ 255

/-- What a station reads of an element. -/
structure BeaconTime where
  followUp : PtpFollowUp
  tsfUs : Int
  deriving DecidableEq, Inhabited

/-- The seconds of an origin timestamp, shifted in byte by byte. -/
def originSecs (timestamp : Vector UInt8 10) : UInt64 :=
  (timestamp.toList.take 6).foldl (fun (secs : UInt64) byte => (secs <<< 8) ||| byte.toUInt64) 0

/-- `s_gptp_marker_ns`: the origin timestamp, its nanoseconds unsigned, and the correction. -/
def BeaconTime.gptpMarkerNs (element : BeaconTime) : Int :=
  let timestamp := element.followUp.origintimestamp
  let nsecs : UInt32 := (timestamp[6]!.toUInt32 <<< 24) ||| (timestamp[7]!.toUInt32 <<< 16) |||
    (timestamp[8]!.toUInt32 <<< 8) ||| timestamp[9]!.toUInt32
  (1000000000 * originSecs timestamp).toInt64.toInt + nsecs.toNat +
    followUpCorrectionNs element.followUp.header

namespace VndIe

variable (vnd : VndIe)

/-! ## The host -/

/-- The identifiers in front of the Follow_Up. -/
def identifier : Bytes :=
  vnd.oui.toList ++ [vnd.ouiTypeAvbWireless, vnd.subid0, vnd.subid1BeaconTime] ++
    List.replicate (vnd.subidLen - 2) 0

/-- The length of an element behind its first two bytes. -/
def elementLen : Nat := 4 + vnd.subidLen + 76 + vnd.tsfMappingPayloadLen

/-- `publish_ies`: the element in the request to the coprocessor, none for a Follow_Up of
    another length. -/
def publishIes (fuInfo : Bytes) : Option Bytes :=
  if fuInfo.length ≠ 76 then none
  else
    some ([0xdd, UInt8.ofNat vnd.elementLen] ++ vnd.identifier ++ fuInfo ++
      List.replicate vnd.tsfMappingPayloadLen 0)

/-! ## The coprocessor -/

/-- **What the coprocessor does to the element**: its TSF is in the place left for it. -/
def Patches (patch : Bytes → Nat → Bytes) : Prop :=
  ∀ (front : Bytes) (tsfUs : Nat), tsfUs < 256 ^ vnd.tsfMappingPayloadLen →
    patch (front ++ List.replicate vnd.tsfMappingPayloadLen 0) tsfUs =
      front ++ leBytes vnd.tsfMappingPayloadLen tsfUs

/-! ## The station -/

/-- `tsf_us`. -/
def tsfUs (tsf : Bytes) : Int :=
  ((List.range vnd.tsfMappingPayloadLen).foldl (fun (tsfUs : UInt64) i =>
    tsfUs ||| ((tsf.getD i 0).toUInt64 <<< UInt64.ofNat (8 * i))) 0).toInt64.toInt

/-- The lengths of a time element behind its identifier. -/
def lengthValid (payloadLen : Int) : Bool :=
  let markersLen : Int := 76 + vnd.tsfMappingPayloadLen
  decide (payloadLen = markersLen) || decide (payloadLen = markersLen + vnd.captureBracketLen)

/-- The checks of `on_vendor_ie`, and what it reads of an element that passes them. -/
def beaconTime (ie : Bytes) : Option BeaconTime :=
  let payloadLen : Int := (ie.u8 1).toNat - 4
  let payload : Bytes := ie.drop 6
  if ie.field 2 3 ≠ vnd.oui then none
  else if ie.u8 5 ≠ vnd.ouiTypeAvbWireless then none
  else if payloadLen < vnd.subidLen ∨ payload.u8 0 ≠ vnd.subid0 ∨
      payload.u8 1 ≠ vnd.subid1BeaconTime then none
  else
    let payload : Bytes := payload.drop vnd.subidLen
    if !vnd.lengthValid (payloadLen - vnd.subidLen) then none
    else
      let followUp := PtpFollowUp.read payload
      if followUp.header.messagetype &&& 15 ≠ 8 then none
      else some ⟨followUp, vnd.tsfUs (payload.drop 76)⟩

end VndIe

/-! ## What was published is read -/

/-- A word below 2⁶³ is the same as a signed one. -/
theorem toInt_toInt64_of_lt {word : UInt64} (h : word.toNat < 2 ^ 63) :
    word.toInt64.toInt = word.toNat := by
  have hint := Int64.toInt_ofNat_of_lt h
  rwa [← UInt64.toInt64_ofNat', UInt64.ofNat_toNat] at hint

@[simp] theorem PtpFollowUp.write_length (msg : PtpFollowUp) : msg.write.length = 76 := by
  simp [PtpFollowUp.write, PtpHeader.write_length]

/-- A Follow_Up is read back. -/
theorem PtpFollowUp.read_write (msg : PtpFollowUp) (rest : Bytes) :
    PtpFollowUp.read (msg.write ++ rest) = msg := by
  unfold read write
  simp only [List.append_assoc, PtpHeader.read_write]
  simp [Bytes.field_append_right, Bytes.field_toList_append, PtpHeader.write_length]

namespace VndIe

variable {vnd : VndIe}

@[simp] theorem identifier_length : vnd.identifier.length = 4 + vnd.subidLen := by
  have hroom := vnd.subidRoom
  simp [identifier]
  omega

/-- A TSF below 2⁶³ comes out of its bytes. -/
theorem tsfUs_leBytes {tsfUs : Nat} (h : tsfUs < 256 ^ vnd.tsfMappingPayloadLen)
    (hsigned : tsfUs < 2 ^ 63) : vnd.tsfUs (leBytes vnd.tsfMappingPayloadLen tsfUs) = tsfUs := by
  have hread := toNat_foldl_or (leBytes vnd.tsfMappingPayloadLen tsfUs)
    (by rw [leBytes_length]; exact vnd.tsfFits)
  rw [leBytes_length, leNat_leBytes h] at hread
  unfold VndIe.tsfUs
  generalize List.foldl _ (0 : UInt64) _ = word at hread
  rw [← hread] at hsigned ⊢
  exact toInt_toInt64_of_lt hsigned

/-- The element on the air. -/
def onAir (vnd : VndIe) (fuInfo : Bytes) (tsfUs : Nat) : Bytes :=
  [0xdd, UInt8.ofNat vnd.elementLen] ++ vnd.identifier ++ fuInfo ++
    leBytes vnd.tsfMappingPayloadLen tsfUs

theorem publishIes_onAir {patch : Bytes → Nat → Bytes} (hpatch : vnd.Patches patch)
    {fuInfo : Bytes} (hlength : fuInfo.length = 76) {tsfUs : Nat}
    (htsf : tsfUs < 256 ^ vnd.tsfMappingPayloadLen) :
    (vnd.publishIes fuInfo).map (patch · tsfUs) = some (vnd.onAir fuInfo tsfUs) := by
  unfold publishIes
  rw [if_neg (not_not_intro hlength)]
  exact congrArg some (hpatch _ tsfUs htsf)

section OnAir

variable (vnd) (fuInfo : Bytes) (tsfUs : Nat)

/-- The element in three parts: its head, its identifier from the sub-ID on, and the markers. -/
theorem onAir_eq : vnd.onAir fuInfo tsfUs =
    ([0xdd, UInt8.ofNat vnd.elementLen] ++ (vnd.oui.toList ++ [vnd.ouiTypeAvbWireless])) ++
      (([vnd.subid0, vnd.subid1BeaconTime] ++ List.replicate (vnd.subidLen - 2) 0) ++
        (fuInfo ++ leBytes vnd.tsfMappingPayloadLen tsfUs)) := by
  simp [onAir, identifier]

theorem onAir_length : ((vnd.onAir fuInfo tsfUs).u8 1).toNat = vnd.elementLen := by
  have hfits := vnd.elementFits
  have hbyte : (UInt8.ofNat vnd.elementLen).toNat = vnd.elementLen % 256 := UInt8.toNat_ofNat'
  rw [show (vnd.onAir fuInfo tsfUs).u8 1 = UInt8.ofNat vnd.elementLen from rfl, hbyte]
  unfold elementLen
  omega

theorem onAir_oui : (vnd.onAir fuInfo tsfUs).field 2 3 = vnd.oui ∧
    (vnd.onAir fuInfo tsfUs).u8 5 = vnd.ouiTypeAvbWireless := by
  rw [onAir_eq, List.append_assoc, List.append_assoc]
  constructor
  · rw [Bytes.field_append_right (Nat.le_refl 2)]
    exact Bytes.field_toList_append _ _
  · rw [Bytes.u8_append_right (by simp), Bytes.u8_append_right (by simp)]
    simp [Bytes.u8]

theorem onAir_payload : (vnd.onAir fuInfo tsfUs).drop 6 =
    ([vnd.subid0, vnd.subid1BeaconTime] ++ List.replicate (vnd.subidLen - 2) 0) ++
      (fuInfo ++ leBytes vnd.tsfMappingPayloadLen tsfUs) := by
  rw [onAir_eq]
  exact List.drop_left' (by simp)

theorem onAir_markers : ((vnd.onAir fuInfo tsfUs).drop 6).drop vnd.subidLen =
    fuInfo ++ leBytes vnd.tsfMappingPayloadLen tsfUs := by
  have hroom := vnd.subidRoom
  rw [onAir_payload]
  exact List.drop_left' (by simp; omega)

end OnAir

/-- **A Follow_Up that is published, patched and read** is the same, and the TSF with it. -/
theorem beaconTime_onAir {msg : PtpFollowUp} (htype : msg.header.messagetype &&& 15 = 8)
    {tsfUs : Nat} (htsf : tsfUs < 256 ^ vnd.tsfMappingPayloadLen) (hsigned : tsfUs < 2 ^ 63) :
    vnd.beaconTime (vnd.onAir msg.write tsfUs) = some ⟨msg, tsfUs⟩ := by
  obtain ⟨houi, htypeByte⟩ := onAir_oui vnd msg.write tsfUs
  have hlength := onAir_length vnd msg.write tsfUs
  have hsubid : ¬ (((vnd.onAir msg.write tsfUs).u8 1).toNat - 4 < (vnd.subidLen : Int) ∨
      Bytes.u8 ((vnd.onAir msg.write tsfUs).drop 6) 0 ≠ vnd.subid0 ∨
      Bytes.u8 ((vnd.onAir msg.write tsfUs).drop 6) 1 ≠ vnd.subid1BeaconTime) := by
    rw [hlength, onAir_payload]
    unfold elementLen
    simp [Bytes.u8]
    omega
  have hvalid : vnd.lengthValid
      (((vnd.onAir msg.write tsfUs).u8 1).toNat - 4 - vnd.subidLen) = true := by
    rw [hlength]
    unfold lengthValid elementLen
    simp
    omega
  unfold beaconTime
  dsimp only
  rw [if_neg (not_not_intro houi), if_neg (not_not_intro htypeByte), if_neg hsubid, hvalid,
    onAir_markers, PtpFollowUp.read_write, if_neg (by decide), if_neg (not_not_intro htype),
    List.drop_left' (PtpFollowUp.write_length msg), tsfUs_leBytes htsf hsigned]

end VndIe

/-! ## What was marshalled -/

section Marshalled

variable {F : Type} {n : Nat} (cfg : Config) (s : PtpState F n) (portIndex : Nat) (now : Timespec)

/-- What the normalization leaves of a Follow_Up of the beacons. -/
structure MarshalledAt (msg : PtpFollowUp) : Prop where
  type : msg.header.messagetype &&& 15 = 8
  correction : msg.header.correction = s.ownIdentity.header.correction
  origintimestamp : msg.origintimestamp = timespecToPtpFormat cfg now

theorem ptpMarshalFollowUp_marshalled :
    MarshalledAt cfg s now (ptpMarshalFollowUp cfg s portIndex now).2 := by
  have htype : (followUpHeader cfg s portIndex).messagetype &&& 15 = 8 := by
    unfold followUpHeader
    dsimp only
    split <;> decide
  have hsent : SentHeader
      (ptpGptpWireNormalize ((followUpHeader cfg s portIndex).write ++
        ((timespecToPtpFormat cfg now).toList ++ (informationTlv (ptpFillGmFields s).2).toList))
        s.isGptp 1 ++ []) (followUpHeader cfg s portIndex) :=
    sentHeader (by rw [htype]; decide) s.isGptp 1 []
  have hwrite : (followUpHeader cfg s portIndex).write ++
      ((timespecToPtpFormat cfg now).toList ++ (informationTlv (ptpFillGmFields s).2).toList) =
        PtpFollowUp.write
          { header := followUpHeader cfg s portIndex
            origintimestamp := timespecToPtpFormat cfg now
            informationtlv := informationTlv (ptpFillGmFields s).2 } := by
    rw [← List.append_assoc]
    rfl
  rw [hwrite, List.append_nil] at hsent
  refine ⟨(congrArg (· &&& 15) hsent.messagetype).trans htype, hsent.correction, ?_⟩
  -- The time of a Follow_Up is not among the bytes that are touched.
  unfold ptpMarshalFollowUp PtpFollowUp.read
  dsimp only
  apply Vector.ext
  intro i hi
  rw [Bytes.field, Vector.getElem_ofFn, u8_body_normalize (.inl ?_) (by omega), ← hwrite,
    Bytes.u8_append_right (by rw [PtpHeader.write_length]; omega), PtpHeader.write_length,
    Nat.add_sub_cancel_left, Bytes.u8_append_left (by simpa using hi), Bytes.u8,
    List.getD_eq_getElem _ _ (by simpa using hi), Vector.getElem_toList]
  rw [← hwrite, PtpHeader.u8_zero (PtpHeader.read_write _ _)]
  exact htype

variable {cfg s now}

theorem take_toList_timestamp (timestamp : Vector UInt8 10) :
    timestamp.toList.take 6 = [timestamp[0]!, timestamp[1]!, timestamp[2]!, timestamp[3]!,
      timestamp[4]!, timestamp[5]!] := by
  apply List.ext_getElem
  · simp
  · intro i hi _
    have hlt : i < 6 := by simpa using hi
    interval_cases i <;> simp

/-- **The marker is the time of the access point's clock**, as long as that fits the format and
    64 bits of nanoseconds. -/
theorem gptpMarkerNs_marshalled {msg : PtpFollowUp} (h : MarshalledAt cfg s now msg)
    (hcorrection : s.ownIdentity.header.correction = Vector.replicate 8 0)
    (hnow : now.Encodable cfg) (hfits : timespecToNs now < 2 ^ 63) (tsfUs : Int) :
    (BeaconTime.mk msg tsfUs).gptpMarkerNs = timespecToNs now := by
  have hread := ptpFormatToTimespec_timespecToPtpFormat cfg hnow
  rw [← h.origintimestamp] at hread
  obtain ⟨hpos, -, hnsec⟩ := hnow
  have hsec := tvSec_ptpFormatToTimespec msg.origintimestamp
  have hnanos := tvNsec_ptpFormatToTimespec msg.origintimestamp
  rw [hread] at hsec hnanos
  unfold Timespec.Normalized nsecPerSec at hnsec
  unfold timespecToNs nsecPerSec at hfits ⊢
  have hsecs : (originSecs msg.origintimestamp).toNat = Timestamp.seconds msg.origintimestamp := by
    unfold originSecs
    rw [toNat_foldl_shift _ _ (by simp), take_toList_timestamp]
    simp [Timestamp.seconds]
    ring
  have hnsecs : ((msg.origintimestamp[6]!.toUInt32 <<< 24) |||
      (msg.origintimestamp[7]!.toUInt32 <<< 16) ||| (msg.origintimestamp[8]!.toUInt32 <<< 8) |||
      msg.origintimestamp[9]!.toUInt32).toNat = Timestamp.nanoseconds msg.origintimestamp :=
    toNat_word32 ..
  have hzero : followUpCorrectionNs msg.header = 0 := by
    rw [followUpCorrectionNs_eq, h.correction, hcorrection]
    decide
  have hproduct : (1000000000 * originSecs msg.origintimestamp).toNat =
      1000000000 * Timestamp.seconds msg.origintimestamp := by
    rw [UInt64.toNat_mul, hsecs]
    show 1000000000 * _ % 2 ^ 64 = _
    omega
  have hmarker : (1000000000 * originSecs msg.origintimestamp).toInt64.toInt =
      now.tvSec * 1000000000 := by
    rw [toInt_toInt64_of_lt (by omega), hproduct]
    omega
  have hlow : Timestamp.nanoseconds msg.origintimestamp < 2 ^ 32 := by
    rw [← hnsecs]
    exact UInt32.toNat_lt _
  rw [Int.bmod_def] at hnanos
  unfold BeaconTime.gptpMarkerNs
  dsimp only
  rw [hmarker, hnsecs, hzero]
  split at hnanos <;> omega

end Marshalled

end EspPtp
