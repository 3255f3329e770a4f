import EspPtp.Daemon.Pairing
import EspPtp.Link.Numbers
import EspPtp.Link.Sent

/-!
# Clocks on one segment

Any number of clocks share a wire. Each announces itself and sends Sync while it follows
nobody, and receives what the wire delivers. The wire keeps every frame that was ever sent: a
delivery is any of them to any clock, so frames are lost, repeated, delayed and reordered, and
come back to their sender. Between two deliveries a clock does whatever else it does, profile
changes and frames of its other ports included.

The ghosts are what a frame says (`Saying`), and how often `ptp_send_sync` was called.
-/

namespace EspPtp

open Lib

variable {F : Type} {N n : Nat}

/-! ## The wire -/

/-- A frame that was sent. -/
structure SegmentFrame (N : Nat) where
  sender : Fin N
  saying : Saying
  bytes : Bytes
  deriving DecidableEq

/-- What the wire and the driver add to a frame, and what its handlers read. -/
structure Delivery where
  padding : Bytes
  stamp : Option Timespec
  reads : RxReadings
  deriving DecidableEq, Inhabited

/-- What a message of a clock says that sent `number` Syncs before. -/
def sayingOf (number : Nat) (reads : PeriodicReadings) (message : Bytes) : Saying :=
  match message.msgtype with
  | .announce => .announce
  | .sync => .sync number reads.sync.gettime
  | _ => .followUp number reads.sync.departure

/-- The pass calls `ptp_send_sync`. -/
def WiredNode.sendsSync (node : WiredNode) (clock : WiredClock F n) (reads : PeriodicReadings) :
    Bool :=
  node.originates clock.daemon reads.capability && node.syncDue clock reads.mono

/-- What of the daemon a segment does not look at: everything but the frames of the segment, and
    times that come by radio. The two counters it leaves alone. -/
structure DaemonEvent.IsAside (e : DaemonEvent F n) : Prop where
  noInjection : ¬ e.IsInjection
  noPair : ∀ p remoteNs localNs times, e ≠ .injectSyncPair p remoteNs localNs times
  numbers : e.LeavesNumbers
  elsewhere : ∀ frame, e = .received frame → frame.ingress ≠ bootstrapPort ∨
    frame.scratch.rxbuf.msgtype ∉ ([.announce, .sync, .followUp] : List PtpMsgtype)

/-- The clocks, and what was sent. -/
structure Segment (F : Type) (N n : Nat) where
  clocks : Fin N → WiredClock F n
  /-- How often each called `ptp_send_sync`. -/
  syncs : Fin N → Nat
  wire : List (SegmentFrame N)

inductive SegmentEvent (F : Type) (N n : Nat) where
  /-- `ptp_periodic_send`. -/
  | periodic (i : Fin N) (reads : PeriodicReadings)
  /-- A frame that was sent some time, to a clock. -/
  | deliver (i : Fin N) (index : Nat) (delivery : Delivery)
  | aside (i : Fin N) (e : { e : DaemonEvent F n // e.IsAside })

namespace Segment

variable (seg : Segment F N n)

/-- Another daemon for one of the clocks. -/
def withDaemon (i : Fin N) (daemon : PtpState F n) : Segment F N n :=
  { seg with clocks := Function.update seg.clocks i { seg.clocks i with daemon := daemon } }

/-- A clock's turn to send. -/
def periodic (node : WiredNode) (i : Fin N) (reads : PeriodicReadings) : Segment F N n :=
  let clock := seg.clocks i
  let sent := node.ptpPeriodicSend clock reads
  { clocks := Function.update seg.clocks i sent.1
    syncs := Function.update seg.syncs i
      (seg.syncs i + if node.sendsSync clock reads then 1 else 0)
    wire := seg.wire ++ sent.2.map fun frame =>
      { sender := i
        saying := sayingOf (seg.syncs i) reads frame.message
        bytes := clock.daemon.ethFrame node.cfg node.intfHwAddr frame } }

end Segment

/-- `ptp_net_recv` in the state of a clock. -/
def WiredNode.netRecv (node : WiredNode) (s : PtpState F n) (bytes : Bytes) (delivery : Delivery) :
    RxScratch × Option Nat :=
  ptpNetRecv node.intfHwAddr s.port0.toRxScratch (bytes ++ delivery.padding) delivery.stamp

/-- The frame `ptp_process_rx_packet` gets, if it gets one. -/
def WiredNode.takes (node : WiredNode) (s : PtpState F n) (bytes : Bytes) (delivery : Delivery) :
    Option (RxFrame n) :=
  let taken := node.netRecv s bytes delivery
  taken.2.map fun received => ⟨taken.1, received, bootstrapPort, delivery.reads⟩

section Receive

variable [CDouble F]

/-- `ptp_net_recv`, and `ptp_process_rx_packet` on what it takes. -/
def WiredNode.receive (node : WiredNode) (s : PtpState F n) (bytes : Bytes) (delivery : Delivery) :
    PtpState F n :=
  match node.takes s bytes delivery with
  | none => s.withPort0 { s.port0 with toRxScratch := (node.netRecv s bytes delivery).1 }
  | some frame => s.receive node.cfg frame

def Segment.act (nodes : Fin N → WiredNode) (seg : Segment F N n) :
    SegmentEvent F N n → Segment F N n
  | .periodic i reads => seg.periodic (nodes i) i reads
  | .deliver i index delivery =>
    match seg.wire[index]? with
    | none => seg
    | some frame =>
      seg.withDaemon i ((nodes i).receive (seg.clocks i).daemon frame.bytes delivery)
  | .aside i e => seg.withDaemon i (e.val.apply (nodes i).cfg (seg.clocks i).daemon)

/-- The step of a run, which answers with the segment it found. -/
def segmentStep (nodes : Fin N → WiredNode) (seg : Segment F N n) (e : SegmentEvent F N n) :
    Segment F N n × Segment F N n :=
  (seg.act nodes e, seg)

/-- An event of a run and the segment it found. -/
abbrev SegmentVisit (F : Type) (N n : Nat) := SegmentEvent F N n × Segment F N n

end Receive

/-- A segment whose clocks have just been started. -/
structure Segment.Fresh (nodes : Fin N → WiredNode) (seg : Segment F N n) : Prop where
  ownIdentity : ∀ i, (seg.clocks i).daemon.ownIdentity = (nodes i).ownIdentity
  syncSeq : ∀ i, (seg.clocks i).daemon.syncSeq = 0
  source : ∀ i, (seg.clocks i).daemon.view.source = default
  valid : ∀ i, (seg.clocks i).daemon.view.valid = false
  pending : ∀ i, (seg.clocks i).daemon.view.pending = none
  syncs : ∀ i, seg.syncs i = 0
  wire : seg.wire = []

/-! ## What is on the wire -/

/-- The frame carries what its sender says. -/
structure SegmentFrame.Sound (nodes : Fin N → WiredNode) (frame : SegmentFrame N) : Prop where
  intro ::
  parts : ∃ destMac tag message, frame.bytes =
      ethFrameOf destMac (nodes frame.sender).intfHwAddr tag message ∧
    (tag = [] ∨ tag = ptpPriorityTag) ∧ message ≠ [] ∧ message.length ≤ ptpMsgbufLen ∧
    (nodes frame.sender).Says message frame.saying

/-- What a clock takes of a sound frame begins with its message. -/
theorem SegmentFrame.Sound.takes {nodes : Fin N → WiredNode} {frame : SegmentFrame N}
    (h : frame.Sound nodes) {node : WiredNode} {s : PtpState F n} {delivery : Delivery}
    {rx : RxFrame n} (htakes : node.takes s frame.bytes delivery = some rx) :
    rx.ingress = bootstrapPort ∧ rx.reads = delivery.reads ∧
      rx.scratch.rxtime = delivery.stamp.getD s.port0.rxtime ∧
      ∃ message rest, rx.scratch.rxbuf = message ++ rest ∧
        (nodes frame.sender).Says message frame.saying := by
  obtain ⟨⟨destMac, tag, message, hbytes, htag, hne, hfits, htells⟩⟩ := h
  have hframe : frame.bytes ++ delivery.padding =
      ethFrameOf destMac (nodes frame.sender).intfHwAddr tag (message ++ delivery.padding) := by
    rw [hbytes]
    unfold ethFrameOf
    simp only [List.append_assoc]
  -- The message fits the buffer, so only padding may be cut off.
  have hpayload : (message ++ delivery.padding).take ptpMsgbufLen =
      message ++ delivery.padding.take (ptpMsgbufLen - message.length) := by
    rw [List.take_append, List.take_of_length_le hfits]
  unfold WiredNode.takes WiredNode.netRecv at htakes
  rw [hframe, ptpNetRecv_ethFrameOf _ _ _ _ htag (by simp [hne])] at htakes
  split at htakes
  · cases htakes
    refine ⟨rfl, rfl, rfl, message, delivery.padding.take (ptpMsgbufLen - message.length) ++
      s.port0.rxbuf.drop ((message ++ delivery.padding).take ptpMsgbufLen).length, ?_, htells⟩
    unfold RxScratch.taken
    dsimp only
    rw [hpayload, List.append_assoc]
  · cases htakes

/-- A message that says this fits and is not empty. -/
theorem ethFrame_sound (nodes : Fin N → WiredNode) (i : Fin N) (s : PtpState F n)
    (frame : PtpFrame) {saying : Saying}
    (hne : frame.message ≠ []) (hfits : frame.message.length ≤ ptpMsgbufLen)
    (htells : (nodes i).Says (s.onWire frame.message) saying) :
    SegmentFrame.Sound nodes
      ⟨i, saying, s.ethFrame (nodes i).cfg (nodes i).intfHwAddr frame⟩ := by
  have hlength : (s.onWire frame.message).length = frame.message.length :=
    ptpGptpWireNormalize_length ..
  refine ⟨s.destination frame,
    if s.tagsFrame (nodes i).cfg (s.destination frame) then ptpPriorityTag else [],
    s.onWire frame.message, rfl, ?_, ?_, ?_, htells⟩
  · cases s.tagsFrame (nodes i).cfg (s.destination frame) with
    | false => exact .inl rfl
    | true => exact .inr rfl
  · intro hnil
    rw [hnil, List.length_nil] at hlength
    exact hne (List.length_eq_zero_iff.mp hlength.symm)
  · rw [hlength]
    exact hfits

section Pass

variable {nodes : Fin N → WiredNode} {i : Fin N} {clock : WiredClock F n}
  {reads : PeriodicReadings} {number : Nat}

/-- The type of a message before it is normalized. -/
theorem msgtype_announceMessage (cfg : Config) (s : PtpState F n) (origin : Timespec) :
    (s.announceMessage cfg origin).msgtype = .announce := by
  have hzero : (s.announceMessage cfg origin).u8 0 = (s.announceHeader cfg).messagetype := by
    unfold PtpState.announceMessage
    exact (PtpHeader.u8_zero (PtpAnnounce.header_write _ _)).trans rfl
  unfold Bytes.msgtype PtpMsgtype.ofByte
  rw [hzero, show (s.announceHeader cfg).messagetype &&& 0x0f = 11 from announceHeader_type cfg s]
  rfl

theorem msgtype_syncMessage (node : WiredNode) (s : PtpState F n) (gettime : Timespec) :
    (node.syncMessage s gettime).msgtype = .sync := by
  have hzero : (node.syncMessage s gettime).u8 0 = (node.numberedSyncHeader s).messagetype :=
    PtpHeader.u8_zero (PtpHeader.read_write _ _)
  unfold Bytes.msgtype PtpMsgtype.ofByte
  rw [hzero, show (node.numberedSyncHeader s).messagetype &&& 0x0f = 0 from syncHeader_type node s]
  rfl

theorem msgtype_followUpMessage (node : WiredNode) (s : PtpState F n) (departure : Timespec) :
    (node.followUpMessage s departure).msgtype = .followUp := by
  have hzero : (node.followUpMessage s departure).u8 0 = (node.followUpHeader s).messagetype := by
    unfold WiredNode.followUpMessage PtpFollowUp.write
    rw [List.append_assoc]
    exact PtpHeader.u8_zero (PtpHeader.read_write _ _)
  unfold Bytes.msgtype PtpMsgtype.ofByte
  rw [hzero, show (node.followUpHeader s).messagetype &&& 0x0f = 8 from followUpHeader_type node s]
  rfl

/-- The lengths of the three messages. -/
theorem announceMessage_length (cfg : Config) (s : PtpState F n) (origin : Timespec) :
    64 ≤ (s.announceMessage cfg origin).length ∧ (s.announceMessage cfg origin).length ≤ 90 := by
  have htlvs : s.announceTlvs.length ≤ 26 := by
    unfold PtpState.announceTlvs ownPathTraceTlv gmLinkTlv
    dsimp only
    split <;> simp
  unfold PtpState.announceMessage
  rw [List.length_append, PtpAnnounce.write_length]
  omega

theorem syncMessage_length (node : WiredNode) (s : PtpState F n) (gettime : Timespec) :
    (node.syncMessage s gettime).length = 44 := by
  simp [WiredNode.syncMessage]

theorem followUpMessage_length (node : WiredNode) (s : PtpState F n) (departure : Timespec) :
    (node.followUpMessage s departure).length = 76 := by
  simp [WiredNode.followUpMessage, PtpFollowUp.write]

/-- The Announce of a pass changes nothing that its Sync is made from. -/
theorem periodicAnnounce_daemon (node : WiredNode) (clock : WiredClock F n)
    (reads : PeriodicReadings) :
    ∃ announceSeq, (node.periodicAnnounce clock reads).1.daemon =
        { clock.daemon with announceSeq := announceSeq } ∧
      node.syncDue (node.periodicAnnounce clock reads).1 reads.mono =
        node.syncDue clock reads.mono := by
  unfold WiredNode.periodicAnnounce ptpSendAnnounce
  split
  · exact ⟨_, rfl, rfl⟩
  · exact ⟨_, rfl, rfl⟩

/-- What a pass sends: an Announce, or the Sync that is due and its Follow_Up. -/
theorem ptpPeriodicSend_frames {node : WiredNode} {frame : PtpFrame}
    (hframe : frame ∈ (node.ptpPeriodicSend clock reads).2) :
    frame = ⟨clock.daemon.announceMessage node.cfg reads.announceOrigin, none⟩ ∨
      node.sendsSync clock reads = true ∧ reads.sync.sent = true ∧
        (frame = ⟨node.syncMessage clock.daemon reads.sync.gettime, none⟩ ∨
          frame = ⟨node.followUpMessage clock.daemon reads.sync.departure, none⟩) := by
  have hannounce : ∀ f ∈ (node.periodicAnnounce clock reads).2,
      f = ⟨clock.daemon.announceMessage node.cfg reads.announceOrigin, none⟩ := by
    intro f hf
    unfold WiredNode.periodicAnnounce ptpSendAnnounce at hf
    split at hf
    · dsimp only at hf
      split at hf
      · exact List.mem_singleton.mp hf
      · cases hf
    · cases hf
  obtain ⟨announceSeq, hafter, hdue⟩ := periodicAnnounce_daemon node clock reads
  unfold WiredNode.ptpPeriodicSend at hframe
  split at hframe
  · rename_i horiginates
    rcases List.mem_append.mp hframe with h | h
    · exact .inl (hannounce frame h)
    · right
      unfold WiredNode.periodicSync WiredNode.ptpSendSync at h
      rw [hafter] at h
      split at h
      · rename_i hsyncs
        refine ⟨?_, ?_⟩
        · unfold WiredNode.sendsSync
          rw [horiginates, ← hdue, hsyncs]
          rfl
        · dsimp only at h
          split at h
          · cases h
          · rename_i hsent
            refine ⟨by simpa using hsent, ?_⟩
            rcases List.mem_cons.mp h with h | h
            · exact .inl h
            · split at h
              · exact .inr (List.mem_singleton.mp h)
              · cases h
      · cases h
  · cases hframe

/-- **Everything a pass sends says what it is.** -/
theorem ptpPeriodicSend_sound (hown : clock.daemon.ownIdentity = (nodes i).ownIdentity)
    (hnumber : clock.daemon.syncSeq = UInt16.ofNat number) {frame : PtpFrame}
    (hframe : frame ∈ ((nodes i).ptpPeriodicSend clock reads).2) :
    SegmentFrame.Sound nodes
      ⟨i, sayingOf number reads frame.message,
        clock.daemon.ethFrame (nodes i).cfg (nodes i).intfHwAddr frame⟩ := by
  rcases ptpPeriodicSend_frames hframe with rfl | ⟨-, -, rfl | rfl⟩
  · obtain ⟨hlow, hhigh⟩ := announceMessage_length (nodes i).cfg clock.daemon reads.announceOrigin
    have hpos : 0 < (clock.daemon.announceMessage (nodes i).cfg reads.announceOrigin).length := by
      omega
    refine ethFrame_sound nodes i clock.daemon ⟨_, none⟩ (List.length_pos_iff.mp hpos)
      (le_trans hhigh (by decide)) ?_
    unfold sayingOf
    rw [msgtype_announceMessage]
    exact says_announce hown reads.announceOrigin
  · have hlen := syncMessage_length (nodes i) clock.daemon reads.sync.gettime
    refine ethFrame_sound nodes i clock.daemon ⟨_, none⟩
      (List.length_pos_iff.mp (hlen ▸ by decide)) (le_trans (le_of_eq hlen) (by decide)) ?_
    unfold sayingOf
    rw [msgtype_syncMessage]
    exact says_sync hown hnumber reads.sync.gettime
  · have hlen := followUpMessage_length (nodes i) clock.daemon reads.sync.departure
    refine ethFrame_sound nodes i clock.daemon ⟨_, none⟩
      (List.length_pos_iff.mp (hlen ▸ by decide)) (le_trans (le_of_eq hlen) (by decide)) ?_
    unfold sayingOf
    rw [msgtype_followUpMessage]
    exact says_followUp hown hnumber reads.sync.departure

/-- The counters after a pass. -/
theorem ptpPeriodicSend_numbers (node : WiredNode) (clock : WiredClock F n)
    (reads : PeriodicReadings) :
    (node.ptpPeriodicSend clock reads).1.daemon.ownIdentity = clock.daemon.ownIdentity ∧
      (node.ptpPeriodicSend clock reads).1.daemon.view = clock.daemon.view ∧
      (node.ptpPeriodicSend clock reads).1.daemon.syncSeq =
        clock.daemon.syncSeq + UInt16.ofNat (if node.sendsSync clock reads then 1 else 0) := by
  obtain ⟨announceSeq, hdaemon, hdue⟩ := periodicAnnounce_daemon node clock reads
  unfold WiredNode.ptpPeriodicSend WiredNode.sendsSync
  cases node.originates clock.daemon reads.capability with
  | false => exact ⟨rfl, rfl, (UInt16.add_zero _).symm⟩
  | true =>
    rw [if_pos rfl, Bool.true_and]
    dsimp only
    unfold WiredNode.periodicSync WiredNode.ptpSendSync
    rw [hdue, hdaemon]
    -- The number goes up with every Sync that is due, sent or not.
    cases node.syncDue clock reads.mono with
    | false =>
      rw [if_neg Bool.false_ne_true, if_neg Bool.false_ne_true]
      refine ⟨?_, ?_, ?_⟩
      · rw [hdaemon]
      · rw [hdaemon]
        rfl
      · rw [hdaemon]
        exact (UInt16.add_zero _).symm
    | true => exact ⟨rfl, rfl, rfl⟩

end Pass

end EspPtp
