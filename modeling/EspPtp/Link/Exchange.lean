import EspPtp.Daemon.Trailing
import EspPtp.Link.Following

/-!
# What gets through

Nothing but lost frames keeps a clock from being set. `Exchange` is what two clocks need for
it: one follows the other, they agree on domain and profile, and the other's Sync is sent with
its Follow_Up. If the two come, in this order and within a second, with anything else going on at
the other clocks, the first is set by when the Sync left at when it came
(`exchange_sets_clock`).
-/

namespace EspPtp

open Lib

variable {F : Type} {N n : Nat}

/-! ## The checks before the dispatch -/

/-- What they look at in a message of a timing type. -/
structure TimingHeader (cfg : Config) (gptp : Bool) (length : Nat) (m : Bytes) : Prop where
  version : m.u8 1 &&& 15 = 2
  length : m.word 2 = length
  domain : m.u8 4 = cfg.domain
  profile : m.isGptp = gptp

section Sender

variable {node : WiredNode} {s : PtpState F n}

end Sender

/-! ## The receiver -/

/-- A clock that can be set by this one. -/
structure ReadyFor [CDouble F] (cfg : Config) (s : PtpState F n) (node : WiredNode)
    (times : CapabilityTimes) : Prop where
  client : cfg.actsAsClient = true
  wired : s.port0.medium = .ethHwts
  heeded : s.ignoresSync = false
  capable : s.lacksCapability cfg times = false
  source : s.selectedSource.header.sourcePort = node.port
  domain : node.cfg.domain = cfg.domain

/-- The state in which a two-step Sync waits. -/
def PtpState.waiting (s : PtpState F n) (msg : PtpSync) (times : SyncTimes) : PtpState F n :=
  let s := s.withPort0 { s.port0 with lastReceivedSync := times.mono, twostepPending := false }
  s.withPort0
    { s.port0 with
      twostepRxtime := s.port0.rxtime
      twostepPacket := msg
      twostepReceivedUs := times.receivedUs
      twostepPending := true }

section Receiver

variable [CDouble F] {cfg : Config} {s : PtpState F n} {node : WiredNode} {rx : RxFrame n}

/-- A message of the clock followed passes the checks. -/
theorem ReadyFor.passes {times : CapabilityTimes} (h : ReadyFor cfg s node times) {length : Nat}
    (hheader : TimingHeader node.cfg s.isGptp length rx.scratch.rxbuf)
    (hmin : minimumLength rx.scratch.rxbuf ≤ length) (hfits : length ≤ rx.received)
    (hpayload : rx.scratch.rxbuf.msgtype = .followUp →
      ptpTimingPayloadValid rx.scratch.rxbuf length = true) (hport : rx.ingress = bootstrapPort) :
    FramePasses cfg (s.load rx) rx.received rx.ingress := by
  have hlong := minimumLength_header rx.scratch.rxbuf
  have hbounded : ptpMessageBoundedLength rx.scratch.rxbuf rx.received = length := by
    have hlooked : ¬ (rx.received < 34 ∨ rx.scratch.rxbuf.u8 1 &&& 15 ≠ 2) := by
      rintro (hshort | hversion)
      · omega
      · exact hversion hheader.version
    unfold ptpMessageBoundedLength
    dsimp only
    rw [if_neg hlooked, hheader.length, if_neg (by omega)]
  have hsender : ∀ sender, senderCheck cfg s.isGptp (s.load rx).port0 sender = none := by
    intro sender
    have hwired : (s.load rx).port0.medium = .ethHwts := by
      unfold PtpState.load
      rw [PtpState.withPort0_port0]
      exact h.wired
    unfold senderCheck
    rw [hwired]
    simp
  refine ⟨?_, ?_, ?_, ?_, ?_⟩
  · rw [load_rxbuf, hbounded]
    omega
  · rw [load_rxbuf, hbounded]
    intro _ htype
    exact hpayload htype
  · rw [load_rxbuf, hheader.domain]
    exact h.domain
  · rw [load_rxbuf]
    exact hheader.profile
  · rw [hport]
    intro checked hchecked
    have hnone := hsender (s.load rx).port0.sender
    rw [show senderCheck cfg (s.load rx).isGptp ((s.load rx).ports bootstrapPort) _ = none
      from hnone] at hchecked
    cases hchecked

/-- A clock stays ready while frames are loaded, arrive, and wait. -/
theorem ReadyFor.same {s' : PtpState F n} {times : CapabilityTimes}
    (h : ReadyFor cfg s node times) (hsame : s'.unstamped = (s.load rx).unstamped) :
    ReadyFor cfg s' node times := by
  have hport0 : s'.port0.unstamped = (s.load rx).port0.unstamped :=
    congrArg (fun t => t.port0) hsame
  have hpeer : s'.port0.toPtpPeerPort = s.port0.toPtpPeerPort := by
    have hkept := congrArg PtpPort.toPtpPeerPort hport0
    unfold PtpState.load at hkept
    rw [PtpState.withPort0_port0] at hkept
    exact hkept
  have hmedium : s'.port0.medium = s.port0.medium := congrArg PtpPeerPort.medium hpeer
  have hgptp : s'.isGptp = s.isGptp := congrArg (fun t => t.isGptp) hsame
  refine ⟨h.client, hmedium.trans h.wired, ?_, ?_, ?_, h.domain⟩
  · exact (congrArg (fun t => t.ignoresSync) hsame).trans h.heeded
  · have hlacks := h.capable
    unfold PtpState.lacksCapability PtpState.wiredCapability at hlacks ⊢
    rw [hgptp, hmedium, hpeer]
    exact hlacks
  · exact (congrArg (fun t => t.selectedSource.header.sourcePort) hsame).trans h.source

/-- It is ready while that Sync waits. -/
theorem ReadyFor.waiting {times : CapabilityTimes} (h : ReadyFor cfg s node times) (msg : PtpSync)
    (syncTimes : SyncTimes) : ReadyFor cfg (s.waiting msg syncTimes) node times := by
  have hport0 : (s.waiting msg syncTimes).port0.toPtpPeerPort = s.port0.toPtpPeerPort := by
    unfold PtpState.waiting
    dsimp only
    rw [PtpState.withPort0_port0, PtpState.withPort0_port0]
  refine ⟨h.client, ?_, h.heeded, ?_, h.source, h.domain⟩
  · rw [hport0]
    exact h.wired
  · have hlacks := h.capable
    unfold PtpState.lacksCapability PtpState.wiredCapability at hlacks ⊢
    rw [hport0]
    exact hlacks

/-- The Follow_Up of the Sync that waits is accepted. -/
theorem ReadyFor.accepts (h : ReadyFor cfg s node rx.reads.capability) {msg : PtpSync}
    {syncTimes : SyncTimes} {s₁ : PtpState F n}
    (hwaits : s = s₁.waiting msg syncTimes)
    (hpasses : FramePasses cfg (s.load rx) rx.received rx.ingress)
    (hport : rx.ingress = bootstrapPort) (htype : rx.scratch.rxbuf.msgtype = .followUp)
    (hsource : (PtpFollowUp.read rx.scratch.rxbuf).header.sourcePort = msg.header.sourcePort)
    (hsequence : ptpGetSequence (PtpFollowUp.read rx.scratch.rxbuf).header =
      ptpGetSequence msg.header)
    (hnotBefore : syncTimes.receivedUs ≤ rx.reads.followup.nowUs)
    (hinTime : rx.reads.followup.nowUs - syncTimes.receivedUs ≤ 1000000)
    (hpayload : ptpTimingPayloadValid rx.scratch.rxbuf 76 = true)
    (hinterval : s.isGptp = true →
      ptpSyncReceiptInterval msg.header.logmessageinterval.toInt8.toInt ≠ 0) :
    AcceptedFollowUp cfg (s.load rx) rx.received rx.ingress rx.reads ∧
      (s.load rx).port0.twostepRxtime = s₁.port0.rxtime := by
  have hready : ReadyFor cfg (s.load rx) node rx.reads.capability := h.same rfl
  have hpacket : (s.load rx).port0.twostepPending = true ∧
      (s.load rx).port0.twostepPacket = msg ∧
      (s.load rx).port0.twostepReceivedUs = syncTimes.receivedUs ∧
      (s.load rx).port0.twostepRxtime = s₁.port0.rxtime := by
    rw [hwaits]
    unfold PtpState.load PtpState.waiting
    dsimp only
    simp only [PtpState.withPort0_port0, and_self]
  obtain ⟨hpending, hmsg, hreceived, hrxtime⟩ := hpacket
  refine ⟨⟨hpasses, hport, ?_, hready.client, hready.capable, hready.heeded, ?_⟩, hrxtime⟩
  · rw [load_rxbuf]
    exact htype
  · unfold followupAccepted
    dsimp only
    rw [load_rxbuf, hpending, hmsg, hreceived, hsource, hsequence, hpayload,
      show (s.load rx).isGptp = s.isGptp from rfl]
    simp only [Bool.and_eq_true, decide_eq_true_eq, true_and, and_true]
    refine ⟨⟨by omega, hinTime⟩, ?_⟩
    cases hgptp : s.isGptp with
    | false => rfl
    | true => simpa using hinterval hgptp

end Receiver

/-! ## The others meanwhile -/

/-- Whose event it is. -/
def SegmentEvent.clock : SegmentEvent F N n → Fin N
  | .periodic i _ | .deliver i _ _ | .aside i _ => i

section Others

variable [CDouble F] (nodes : Fin N → WiredNode)

end Others

/-! ## The exchange -/

/-- What an exchange between two clocks needs. -/
structure Exchange [CDouble F] (nodes : Fin N → WiredNode) (seg : Segment F N n) (i j : Fin N)
    (reads : PeriodicReadings) (syncDelivery followUpDelivery : Delivery) : Prop where
  follows : seg.Follows nodes i j
  client : (nodes i).cfg.actsAsClient = true
  wired : (seg.clocks i).daemon.port0.medium = .ethHwts
  domain : (nodes j).cfg.domain = (nodes i).cfg.domain
  profile : (seg.clocks j).daemon.isGptp = (seg.clocks i).daemon.isGptp
  priority : (seg.clocks i).daemon.isGptp = true →
    (seg.clocks i).daemon.selectedSource.btcPriority1 ≠ 255
  interval : (seg.clocks i).daemon.isGptp = true →
    ptpSyncReceiptInterval (UInt8.ofInt (nodes j).cfg.syncLogInterval).toInt8.toInt ≠ 0
  capable : ∀ delivery ∈ [syncDelivery, followUpDelivery],
    (seg.clocks i).daemon.lacksCapability (nodes i).cfg delivery.reads.capability = false
  twoStep : (nodes j).twoStep = true
  sends : (nodes j).sendsSync (seg.clocks j) reads = true
  sent : reads.sync.sent = true
  followUpSent : reads.sync.followUpSent = true
  encodable : reads.sync.departure.Encodable (nodes j).cfg
  notBefore : syncDelivery.reads.sync.receivedUs ≤ followUpDelivery.reads.followup.nowUs
  inTime : followUpDelivery.reads.followup.nowUs - syncDelivery.reads.sync.receivedUs ≤ 1000000

section Main

variable [CDouble F] {nodes : Fin N → WiredNode}

namespace Exchange

variable {seg : Segment F N n} {i j : Fin N} {reads : PeriodicReadings}
  {syncDelivery followUpDelivery : Delivery}

/-- The clock that is followed follows nobody, so it is another. -/
theorem ne (h : Exchange nodes seg i j reads syncDelivery followUpDelivery) : j ≠ i := by
  rintro rfl
  have hsends := h.sends
  unfold WiredNode.sendsSync WiredNode.originates at hsends
  rw [h.follows.valid] at hsends
  simp at hsends

end Exchange

end Main

/-! ## The two clocks again -/

namespace Sample

end Sample

end EspPtp
