import EspPtp.Daemon.AnnounceChain
import EspPtp.Link.Clock

/-!
# What a wired clock says

A message is put together around a header, touched by the normalization, and read back from a
buffer with something behind it. `SentHeader` are the fields of the header that come through
all that, in any message but Signaling. With them, an Announce says who its sender is and how
good, a Sync says which one it is, and a Follow_Up says when that Sync left.
-/

namespace EspPtp

open Lib

variable {F : Type} {n : Nat}

/-! ## Headers -/

/-- What of a header is read back. -/
structure SentHeader (m : Bytes) (header : PtpHeader) : Prop where
  messagetype : m.u8 0 = header.messagetype
  messagelength : m.field 2 2 = header.messagelength
  domain : m.u8 4 = header.domain
  flags : m.field 6 2 = header.flags
  correction : m.field 8 8 = header.correction
  sourceidentity : m.field 20 8 = header.sourceidentity
  sourceportindex : m.field 28 2 = header.sourceportindex
  sequenceid : m.field 30 2 = header.sequenceid
  logmessageinterval : m.u8 33 = header.logmessageinterval

theorem PtpHeader.u8_four {m : Bytes} {h : PtpHeader} (hread : PtpHeader.read m = h) :
    m.u8 4 = h.domain := by
  rw [← hread]
  rfl

theorem PtpHeader.u8_last {m : Bytes} {h : PtpHeader} (hread : PtpHeader.read m = h) :
    m.u8 33 = h.logmessageinterval := by
  rw [← hread]
  rfl

section Header

variable {header : PtpHeader} {body : Bytes}

/-- The bytes of the header that are sent as they are. -/
theorem header_untouched {messagetype : UInt8} (htype : messagetype &&& 15 ≠ 12) {i : Nat}
    (h : i = 0 ∨ (2 ≤ i ∧ i < 5) ∨ (6 ≤ i ∧ i < 16) ∨ (20 ≤ i ∧ i < 32) ∨ i = 33) :
    ¬ wireTouches messagetype i := by
  unfold wireTouches
  rintro (h' | h' | h' | h' | ⟨h', -⟩ | ⟨-, h'⟩ | ⟨-, h'⟩ | ⟨-, h'⟩)
  all_goals first | omega | exact htype h'

/-- A header is read back, whatever follows the message. -/
theorem sentHeader (htype : header.messagetype &&& 15 ≠ 12) (gptp : Bool) (minorVersion : UInt8)
    (rest : Bytes) :
    SentHeader (ptpGptpWireNormalize (header.write ++ body) gptp minorVersion ++ rest) header := by
  have hread := PtpHeader.read_write header body
  have hlen : 34 ≤ (ptpGptpWireNormalize (header.write ++ body) gptp minorVersion).length := by
    simp
  have hzero := PtpHeader.u8_zero hread
  have hbyte : ∀ i, i = 0 ∨ (2 ≤ i ∧ i < 5) ∨ (6 ≤ i ∧ i < 16) ∨ (20 ≤ i ∧ i < 32) ∨ i = 33 →
      (ptpGptpWireNormalize (header.write ++ body) gptp minorVersion ++ rest : Bytes).u8 i =
        Bytes.u8 (header.write ++ body) i := by
    intro i hi
    rw [Bytes.u8_append_left (by omega), u8_normalize]
    rw [hzero]
    exact header_untouched htype hi
  have hfield : ∀ start count,
      (∀ i, start ≤ i → i < start + count →
        (2 ≤ i ∧ i < 5) ∨ (6 ≤ i ∧ i < 16) ∨ (20 ≤ i ∧ i < 32)) →
      (ptpGptpWireNormalize (header.write ++ body) gptp minorVersion ++ rest : Bytes).field start
        count = Bytes.field (header.write ++ body) start count := by
    intro start count hin
    apply Vector.ext
    intro i hi
    rw [Bytes.field, Bytes.field, Vector.getElem_ofFn, Vector.getElem_ofFn]
    apply hbyte
    rcases hin (start + i) (by omega) (by omega) with hplace | hplace | hplace
    · exact .inr (.inl hplace)
    · exact .inr (.inr (.inl hplace))
    · exact .inr (.inr (.inr (.inl hplace)))
  refine ⟨?_, ?_, ?_, ?_, ?_, ?_, ?_, ?_, ?_⟩
  · rw [hbyte 0 (by decide)]
    exact hzero
  · rw [hfield 2 2 (by omega)]
    exact congrArg PtpHeader.messagelength hread
  · rw [hbyte 4 (by decide)]
    exact PtpHeader.u8_four hread
  · rw [hfield 6 2 (by omega)]
    exact congrArg PtpHeader.flags hread
  · rw [hfield 8 8 (by omega)]
    exact congrArg PtpHeader.correction hread
  · rw [hfield 20 8 (by omega)]
    exact congrArg PtpHeader.sourceidentity hread
  · rw [hfield 28 2 (by omega)]
    exact congrArg PtpHeader.sourceportindex hread
  · rw [hfield 30 2 (by omega)]
    exact congrArg PtpHeader.sequenceid hread
  · rw [hbyte 33 (by decide)]
    exact PtpHeader.u8_last hread

end Header

namespace SentHeader

variable {m : Bytes} {header : PtpHeader}

theorem sourcePort (h : SentHeader m header) :
    (PtpHeader.read m).sourcePort = header.sourcePort := by
  unfold PtpHeader.sourcePort PtpHeader.read
  dsimp only
  rw [h.sourceidentity, h.sourceportindex]

theorem sequence (h : SentHeader m header) :
    ptpGetSequence (PtpHeader.read m) = ptpGetSequence header := by
  unfold ptpGetSequence PtpHeader.read
  dsimp only
  rw [h.sequenceid]

theorem msgtype (h : SentHeader m header) : m.msgtype = PtpMsgtype.ofByte header.messagetype := by
  unfold Bytes.msgtype
  rw [h.messagetype]

theorem isTwoStep (h : SentHeader m header) :
    (PtpHeader.read m).isTwoStep = header.isTwoStep := by
  unfold PtpHeader.isTwoStep PtpHeader.read
  dsimp only
  rw [h.flags]

end SentHeader

/-- What the normalization leaves alone of a body: all of it, but for the reserved time of a
    two-step Sync, an Announce, and a Pdelay_Req. -/
theorem u8_body_normalize {wire : Bytes} {i : Nat}
    (htype : wire.u8 0 &&& 15 = 8 ∨ (wire.u8 0 &&& 15 = 0 ∧ wire.u8 6 &&& 2 = 0)) (hi : 34 ≤ i)
    (gptp : Bool) (minorVersion : UInt8) :
    (ptpGptpWireNormalize wire gptp minorVersion).u8 i = wire.u8 i := by
  have hbyte : ∀ k, k = 0 ∨ k = 6 ∨ 34 ≤ k →
      (wireBase wire minorVersion).u8 k = wire.u8 k := by
    intro k hk
    exact u8_wireBase _ _ (by omega) (by omega) (by omega) (by omega)
  have hbase : (Bytes.clear ((wire.set 1 ((minorVersion <<< 4) ||| 0x02)).set 5 0) 16 4).set 32 0 =
      wireBase wire minorVersion := rfl
  have hother : ∀ type : UInt8, type = 12 ∨ type = 11 ∨ type = 2 → ¬ wire.u8 0 &&& 15 = type := by
    rintro type hne rfl
    rcases htype with h | ⟨h, -⟩ <;> rw [h] at hne <;> revert hne <;> decide
  have hsync : ¬ (wire.u8 0 &&& 15 = 0 ∧ wire.u8 6 &&& 2 ≠ 0) := by
    rintro ⟨hzero, hflag⟩
    rcases htype with h | ⟨-, h⟩
    · rw [h] at hzero
      cases hzero
    · exact hflag h
  unfold ptpGptpWireNormalize
  dsimp only
  by_cases hnone : !gptp ∨ wire.length < 34
  · rw [if_pos hnone]
  · rw [if_neg hnone, hbase, hbyte 0 (.inl rfl), if_neg (hother 12 (.inl rfl)),
      hbyte 6 (.inr (.inl rfl)),
      if_neg (fun h => hother 11 (.inr (.inl rfl)) h.1),
      if_neg (fun h => hother 2 (.inr (.inr rfl)) h.1), if_neg (fun h => hsync ⟨h.1, h.2.1⟩)]
    exact hbyte i (.inr (.inr hi))

theorem field_body_onWire (s : PtpState F n) {m rest : Bytes} {start count : Nat}
    (htype : m.u8 0 &&& 15 = 8 ∨ (m.u8 0 &&& 15 = 0 ∧ m.u8 6 &&& 2 = 0)) (hstart : 34 ≤ start)
    (hend : start + count ≤ m.length) :
    (s.onWire m ++ rest : Bytes).field start count = m.field start count := by
  unfold PtpState.onWire
  rw [Bytes.field_append_left (by rw [ptpGptpWireNormalize_length]; exact hend)]
  apply Vector.ext
  intro i hi
  rw [Bytes.field, Bytes.field, Vector.getElem_ofFn, Vector.getElem_ofFn,
    u8_body_normalize htype (by omega)]

/-! ## The three messages -/

/-- The port of a wired clock. -/
def WiredNode.port (node : WiredNode) : PortIdentity :=
  ⟨clockIdentityOf node.intfHwAddr, octets 0 1⟩

theorem WiredNode.sourcePort_ownIdentity (node : WiredNode) :
    node.ownIdentity.header.sourcePort = node.port := by
  unfold WiredNode.ownIdentity
  dsimp only
  split <;> rfl

/-- Which message it is: an Announce, the Sync of so many sent before, or its Follow_Up. -/
inductive Saying where
  | announce
  | sync (number : Nat) (gettime : Timespec)
  | followUp (number : Nat) (departure : Timespec)
  deriving DecidableEq

/-- An Announce of this clock. -/
structure SaysAnnounce (node : WiredNode) (m : Bytes) : Prop where
  type : m.msgtype = .announce
  rank : announceRank (PtpAnnounce.read m) = announceRank node.ownIdentity

/-- A Sync or Follow_Up of this clock, and its number. -/
structure SaysNumber (node : WiredNode) (number : Nat) (header : PtpHeader) : Prop where
  port : header.sourcePort = node.port
  sequence : ptpGetSequence header = UInt16.ofNat (number + 1)

structure SaysSync (node : WiredNode) (number : Nat) (gettime : Timespec) (m : Bytes) : Prop where
  type : m.msgtype = .sync
  numbered : SaysNumber node number (PtpSync.read m).header
  steps : (PtpSync.read m).header.isTwoStep = node.twoStep
  origin : node.twoStep = false →
    (PtpSync.read m).origintimestamp = timespecToPtpFormat node.cfg gettime

structure SaysFollowUp (node : WiredNode) (number : Nat) (departure : Timespec) (m : Bytes) :
    Prop where
  type : m.msgtype = .followUp
  numbered : SaysNumber node number (PtpFollowUp.read m).header
  origin : (PtpFollowUp.read m).origintimestamp = timespecToPtpFormat node.cfg departure

/-- What a message of this clock says, with whatever is behind it in the buffer. -/
def WiredNode.Says (node : WiredNode) (message : Bytes) : Saying → Prop
  | .announce => ∀ rest, SaysAnnounce node (message ++ rest)
  | .sync number gettime => ∀ rest, SaysSync node number gettime (message ++ rest)
  | .followUp number departure => ∀ rest, SaysFollowUp node number departure (message ++ rest)

section Sent

variable {node : WiredNode} {s : PtpState F n}

theorem announceHeader_type (cfg : Config) (s : PtpState F n) :
    (s.announceHeader cfg).messagetype &&& 15 = 11 := by
  unfold PtpState.announceHeader
  dsimp only
  split <;> rfl

/-- The Announce on the wire is put together as that of an access point is. -/
theorem onWire_announceMessage (cfg : Config) (s : PtpState F n) (origin : Timespec) :
    s.onWire (s.announceMessage cfg origin) =
      s.announceWire 0
        { s.ownIdentity with
          header := (ptpIncrementSequence s.announceSeq (s.announceHeader cfg)).2
          origintimestamp := timespecToPtpFormat cfg origin } s.announceTlvs := rfl

/-- **An Announce says who its sender is, and how good.** -/
theorem says_announce (hown : s.ownIdentity = node.ownIdentity) (origin : Timespec) :
    node.Says (s.onWire (s.announceMessage node.cfg origin)) .announce := by
  intro rest
  rw [onWire_announceMessage]
  let msg : PtpAnnounce :=
    { s.ownIdentity with
      header := (ptpIncrementSequence s.announceSeq (s.announceHeader node.cfg)).2
      origintimestamp := timespecToPtpFormat node.cfg origin }
  have htype : msg.header.messagetype &&& 15 = 11 := announceHeader_type node.cfg s
  have hlen : (s.announceWire 0 msg s.announceTlvs).length = 64 + s.announceTlvs.length :=
    announceWire_length
  have hbody := PtpAnnounce.read_write (announceBody msg s.announceTlvs) s.announceTlvs
  have hheader : SentHeader (s.announceWire 0 msg s.announceTlvs ++ rest)
      (announceBody msg s.announceTlvs).header := by
    have hwrite : (announceBody msg s.announceTlvs).write ++ s.announceTlvs =
        (announceBody msg s.announceTlvs).header.write ++
          ((announceBody msg s.announceTlvs).write ++ s.announceTlvs).drop 34 := by
      unfold PtpAnnounce.write
      simp only [List.append_assoc]
      rw [List.drop_left' (PtpHeader.write_length _)]
    rw [announceWire_eq, hwrite]
    apply sentHeader
    intro h12
    rw [show (announceBody msg s.announceTlvs).header.messagetype = msg.header.messagetype from rfl,
      htype] at h12
    cases h12
  have hread : ∀ start count, 47 ≤ start → start + count ≤ 64 →
      (s.announceWire 0 msg s.announceTlvs ++ rest : Bytes).field start count =
        Bytes.field ((announceBody msg s.announceTlvs).write ++ s.announceTlvs) start count := by
    intro start count hstart hend
    rw [Bytes.field_append_left (by omega), field_announceWire htype hstart]
  have hbyte : ∀ i, 47 ≤ i → i < 64 →
      (s.announceWire 0 msg s.announceTlvs ++ rest : Bytes).u8 i =
        Bytes.u8 ((announceBody msg s.announceTlvs).write ++ s.announceTlvs) i := by
    intro i hi hend
    rw [Bytes.u8_append_left (by omega), u8_announceWire htype (.inr (.inr hi))]
  have hsystem : systemIdentity (PtpAnnounce.read (s.announceWire 0 msg s.announceTlvs ++ rest)) =
      systemIdentity node.ownIdentity := by
    have hsame : systemIdentity
        (PtpAnnounce.read ((announceBody msg s.announceTlvs).write ++ s.announceTlvs)) =
          systemIdentity node.ownIdentity := by
      rw [hbody, ← hown]
      rfl
    rw [← hsame]
    unfold systemIdentity PtpAnnounce.read
    dsimp only
    rw [hbyte 47 (by decide) (by decide), hbyte 52 (by decide) (by decide),
      hread 48 4 (by decide) (by decide), hread 53 8 (by decide) (by decide)]
  have hsteps : (PtpAnnounce.read (s.announceWire 0 msg s.announceTlvs ++ rest)).stepsremoved =
      node.ownIdentity.stepsremoved := by
    have hsame : (PtpAnnounce.read
        ((announceBody msg s.announceTlvs).write ++ s.announceTlvs)).stepsremoved =
          node.ownIdentity.stepsremoved := by
      rw [hbody, ← hown]
      rfl
    rw [← hsame]
    exact hread 61 2 (by decide) (by decide)
  have hidentity : (PtpHeader.read (s.announceWire 0 msg s.announceTlvs ++ rest)).sourceidentity =
      node.ownIdentity.header.sourceidentity := by
    rw [← hown]
    exact hheader.sourceidentity
  have hport : (PtpHeader.read (s.announceWire 0 msg s.announceTlvs ++ rest)).sourceportindex =
      node.ownIdentity.header.sourceportindex := by
    rw [← hown]
    exact hheader.sourceportindex
  refine ⟨?_, ?_⟩
  · rw [hheader.msgtype]
    unfold PtpMsgtype.ofByte
    rw [show (announceBody msg s.announceTlvs).header.messagetype &&& 0x0f = 11 from htype]
    rfl
  · have hread : (PtpAnnounce.read (s.announceWire 0 msg s.announceTlvs ++ rest)).header =
        PtpHeader.read (s.announceWire 0 msg s.announceTlvs ++ rest) := rfl
    unfold announceRank
    rw [hsystem, hsteps, hread, hidentity, hport]

theorem syncHeader_type (node : WiredNode) (s : PtpState F n) :
    (node.numberedSyncHeader s).messagetype &&& 15 = 0 := by
  unfold WiredNode.numberedSyncHeader WiredNode.syncHeader ptpIncrementSequence
  dsimp only
  split <;> rfl

theorem followUpHeader_type (node : WiredNode) (s : PtpState F n) :
    (node.followUpHeader s).messagetype &&& 15 = 8 := by
  unfold WiredNode.followUpHeader
  dsimp only
  split <;> rfl

/-- The header of a Sync has the clock's port, and the number that is counted. -/
theorem numberedSyncHeader_number {number : Nat} (hown : s.ownIdentity = node.ownIdentity)
    (hnumber : s.syncSeq = UInt16.ofNat number) :
    SaysNumber node number (node.numberedSyncHeader s) where
  port := by
    rw [← node.sourcePort_ownIdentity, ← hown]
    rfl
  sequence := by
    unfold WiredNode.numberedSyncHeader
    rw [ptpGetSequence_increment, hnumber]
    exact (UInt16.ofNat_add number 1).symm

/-- A Sync is flagged as the build sends it. -/
theorem numberedSyncHeader_isTwoStep (hown : s.ownIdentity = node.ownIdentity) :
    (node.numberedSyncHeader s).isTwoStep = node.twoStep := by
  have hflags : octet0 (node.numberedSyncHeader s).flags = if node.twoStep then 2 else 0 := by
    unfold WiredNode.numberedSyncHeader WiredNode.syncHeader ptpIncrementSequence
    dsimp only
    rw [hown]
    have hzero : octet0 node.ownIdentity.header.flags = 0 := by
      unfold WiredNode.ownIdentity
      dsimp only
      split <;> rfl
    rw [hzero]
    rfl
  unfold PtpHeader.isTwoStep
  rw [hflags]
  cases node.twoStep <;> decide

/-- **A Sync says which one it is, and the time its sender read for it.** -/
theorem says_sync {number : Nat} (hown : s.ownIdentity = node.ownIdentity)
    (hnumber : s.syncSeq = UInt16.ofNat number) (gettime : Timespec) :
    node.Says (s.onWire (node.syncMessage s gettime)) (.sync number gettime) := by
  intro rest
  have htype := syncHeader_type node s
  have htells := numberedSyncHeader_number hown hnumber
  have hsent : SentHeader (s.onWire (node.syncMessage s gettime) ++ rest)
      (node.numberedSyncHeader s) := by
    apply sentHeader
    rw [htype]
    decide
  refine ⟨?_, ⟨hsent.sourcePort.trans htells.port, hsent.sequence.trans htells.sequence⟩, ?_, ?_⟩
  · rw [hsent.msgtype]
    unfold PtpMsgtype.ofByte
    rw [show (node.numberedSyncHeader s).messagetype &&& 0x0f = 0 from htype]
    rfl
  · rw [← numberedSyncHeader_isTwoStep hown]
    exact hsent.isTwoStep
  · intro honeStep
    have hread : PtpHeader.read (node.syncMessage s gettime) = node.numberedSyncHeader s :=
      PtpHeader.read_write _ _
    have hzero := PtpHeader.u8_zero hread
    have hsix : (node.syncMessage s gettime).u8 6 = octet0 (node.numberedSyncHeader s).flags := by
      rw [← hread]
      rfl
    have hflag : octet0 (node.numberedSyncHeader s).flags &&& 2 = 0 := by
      have hsteps := numberedSyncHeader_isTwoStep hown
      rw [honeStep] at hsteps
      exact not_not.mp (of_decide_eq_false hsteps)
    have hlen : 34 + 10 ≤ (node.syncMessage s gettime).length := by simp [WiredNode.syncMessage]
    refine (field_body_onWire s (.inr ⟨hzero ▸ htype, hsix ▸ hflag⟩) (le_refl 34) hlen).trans ?_
    have hnil := Bytes.field_toList_append (timespecToPtpFormat node.cfg gettime) []
    rw [List.append_nil] at hnil
    unfold WiredNode.syncMessage
    rw [Bytes.field_append_right (by simp), PtpHeader.write_length]
    exact hnil

/-- **A Follow_Up says when its Sync left.** -/
theorem says_followUp {number : Nat} (hown : s.ownIdentity = node.ownIdentity)
    (hnumber : s.syncSeq = UInt16.ofNat number) (departure : Timespec) :
    node.Says (s.onWire (node.followUpMessage s departure)) (.followUp number departure) := by
  intro rest
  have htype := followUpHeader_type node s
  have htells := numberedSyncHeader_number hown hnumber
  have hwrite : node.followUpMessage s departure =
      (node.followUpHeader s).write ++
        ((timespecToPtpFormat node.cfg departure).toList ++ syncInformationTlv.toList) := by
    unfold WiredNode.followUpMessage PtpFollowUp.write
    rw [List.append_assoc]
  have hsent : SentHeader (s.onWire (node.followUpMessage s departure) ++ rest)
      (node.followUpHeader s) := by
    unfold PtpState.onWire
    rw [hwrite]
    apply sentHeader
    rw [htype]
    decide
  refine ⟨?_, ⟨hsent.sourcePort.trans htells.port, hsent.sequence.trans htells.sequence⟩, ?_⟩
  · rw [hsent.msgtype]
    unfold PtpMsgtype.ofByte
    rw [show (node.followUpHeader s).messagetype &&& 0x0f = 8 from htype]
    rfl
  · have hzero : (node.followUpMessage s departure).u8 0 = (node.followUpHeader s).messagetype := by
      rw [hwrite]
      exact PtpHeader.u8_zero (PtpHeader.read_write _ _)
    have hlen : 34 + 10 ≤ (node.followUpMessage s departure).length := by
      rw [hwrite]
      simp
    refine (field_body_onWire s (.inl (hzero ▸ htype)) (le_refl 34) hlen).trans ?_
    rw [hwrite, Bytes.field_append_right (by simp), PtpHeader.write_length]
    exact Bytes.field_toList_append _ _

end Sent

end EspPtp
