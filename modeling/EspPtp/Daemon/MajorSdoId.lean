import EspPtp.Daemon.Ingress
import EspPtp.Daemon.Source
import EspPtp.Peer.Traces

/-!
# Whose frames the gPTP profile acts on

A gPTP message has majorSdoId 1, the high nibble of its first byte. The bounds check, the
qualification of a peer and the Signaling reader compare the nibble or the byte; the
admission tests one bit of it (`PTP_MSGTYPE_SDOID_GPTP`), and so lets the other odd values
pass. From there on a stray frame is handled like a gPTP frame of its type.

`StrayActs` says when that shows: the frame passes the checks and its handler has something
to do. What a handler has to do is said for each type, in terms of the state the frame
finds, and `rxDispatch_acts_iff` proves it exact.
-/

namespace EspPtp

open Lib

variable {F : Type} {n : Nat}

/-- The high nibble of the first byte. -/
def Bytes.majorSdoId (m : Bytes) : UInt8 := m.u8 0 >>> 4

/-- A gPTP frame of the configured domain. -/
structure GptpFrame (cfg : Config) (message : Bytes) : Prop where
  sdo : message.majorSdoId = 1
  version : message.u8 1 &&& 15 = 2
  domain : message.u8 4 = cfg.domain

/-- A frame acts: more than the stamps of its arrival changes, or something is sent. -/
def Acts (s : PtpState F n) (after : PtpState F n × List PtpFrame) : Prop :=
  after.1.unstamped ≠ s.unstamped ∨ after.2 ≠ []

/-! ## What a handler has to do -/

/-- The Announce is not refused, and so its time is taken. -/
def AnnounceNoted (s : PtpState F n) (message : Bytes) (length : Nat) : Prop :=
  (ptpPathTraceParse message length s.ownIdentity.header.sourceidentity).isSome ∧
    announceRefused s (PtpAnnounce.read message) = false

namespace PtpState

variable (cfg : Config) (s : PtpState F n)

/-- A Sync waits on a wired port, and is given up without the capability. -/
def losesPending : Prop := s.port0.medium = .ethHwts ∧ s.port0.twostepPending = true

/-- The clock listens to Announce, Sync and Follow_Up: it is a client, and has the capability
    at some time. -/
def hears : Prop := cfg.actsAsClient ∧ ∃ times, s.lacksCapability cfg times = false

/-- The handler of the frame's type changes or sends something, at some time. -/
def handlerActs (length : Nat) : Prop :=
  let message := s.port0.rxbuf
  match message.msgtype with
  | .announce =>
    s.losesPending ∨ (s.hears cfg ∧ AnnounceNoted s message length)
  | .sync =>
    s.losesPending ∨ (s.hears cfg ∧ s.ignoresSync = false ∧
      (PtpSync.read message).header.sourcePort = s.selectedSource.header.sourcePort)
  | .followUp =>
    s.losesPending ∨ (s.hears cfg ∧ s.ignoresSync = false ∧
      ∃ nowUs, followupAccepted s message nowUs = true)
  | .delayReq | .pdelayReq => cfg.actsAsServer
  | .pdelayResp =>
    cfg.actsAsClient ∧ (s.marksEndpoint length ∨ s.port0.spoiled ∨ ∃ nowUs,
      ResponseNoted s.port0.peerExchange (PtpDelayResp.read message) s.port0.rxtime nowUs)
  | .pdelayRespFollowUp =>
    s.marksEndpoint length ∨ s.port0.spoiled ∨ ∃ nowUs,
      FollowUpNoted s.port0.peerExchange (PtpDelayRespFollowUp.read message) nowUs
  -- The reader of Signaling looks at the whole first byte, and no Delay_Resp is taken.
  | .signaling | .delayResp | .other => False

end PtpState

/-- A frame that is not of gPTP passes the checks, and its handler has something to do. -/
structure StrayActs (cfg : Config) (s : PtpState F n) (received : Nat) : Prop where
  stray : s.port0.rxbuf.majorSdoId ≠ 1
  passes : FramePasses cfg s received 0
  handled : s.handlerActs cfg (ptpMessageBoundedLength s.port0.rxbuf received)

/-! ## Changes that show -/

namespace PtpState

theorem unstamped_withPort0_iff (s : PtpState F n) (port : PtpPort F) :
    (s.withPort0 port).unstamped = s.unstamped ↔ port.unstamped = s.port0.unstamped := by
  constructor
  · intro h
    have hport := congrArg (fun t : PtpState F n => t.port0) h
    rw [← s.withPort0_port0 port]
    exact hport
  · exact s.unstamped_withPort

theorem isGptp_congr {s s' : PtpState F n} (h : s'.unstamped = s.unstamped) :
    s'.isGptp = s.isGptp := by
  have hprofile : s'.unstamped.isGptp = s.unstamped.isGptp := congrArg isGptp h
  exact hprofile

theorem view_congr {s s' : PtpState F n} (h : s'.unstamped = s.unstamped) :
    s'.view = s.view := by
  have hview : s'.unstamped.view = s.unstamped.view := congrArg view h
  exact hview

/-- What is no stamp is the same. -/
theorem port0_congr {α : Type} {s s' : PtpState F n} (h : s'.unstamped = s.unstamped)
    (f : PtpPort F → α) (hf : ∀ port : PtpPort F, f port.unstamped = f port) :
    f s'.port0 = f s.port0 := by
  have hport : s'.port0.unstamped = s.port0.unstamped :=
    congrArg (fun t : PtpState F n => t.port0) h
  rw [← hf s'.port0, hport, hf]

/-- What a handler has to do is said without the stamps. -/
theorem handlerActs_congr {cfg : Config} {s s' : PtpState F n}
    (h : s'.unstamped = s.unstamped) (length : Nat) :
    s'.handlerActs cfg length ↔ s.handlerActs cfg length := by
  have hsame : s'.unstamped.handlerActs cfg length = s.unstamped.handlerActs cfg length :=
    congrArg (fun t : PtpState F n => t.handlerActs cfg length) h
  exact Iff.of_eq hsame

/-- What the update of port 0 leaves alone. -/
theorem withPort0_kept {α : Type} (s : PtpState F n) (f : PtpPort F → α) {port : PtpPort F}
    (h : f port = f s.port0) : f (s.withPort0 port).port0 = f s.port0 := by
  rw [withPort0_port0, h]

theorem withPort0_self (s : PtpState F n) : s.withPort0 s.port0 = s := by
  unfold withPort0 withPort port0
  rw [Function.update_eq_self]

end PtpState

theorem Acts.congr {s s' : PtpState F n} (h : s'.unstamped = s.unstamped)
    (after : PtpState F n × List PtpFrame) : Acts s' after ↔ Acts s after := by
  unfold Acts
  rw [h]

/-- Nothing is sent. -/
theorem acts_silent (s after : PtpState F n) :
    Acts s (after, []) ↔ after.unstamped ≠ s.unstamped := by
  simp [Acts]

theorem not_acts_self (s : PtpState F n) : ¬ Acts s (s, []) := by
  simp [Acts]

/-! ## Announce, Sync and Follow_Up -/

section Timing

variable [CDouble F] {cfg : Config} {s : PtpState F n}

omit [CDouble F] in
/-- The capability of a wired peer ends. -/
theorem lacksCapability_later (cfg : Config) (hgptp : s.isGptp = true) (hwired : s.port0.medium = .ethHwts) :
    ∃ times, s.lacksCapability cfg times = true := by
  let span := s.port0.delayreqIntervalMs * 1000 * 3
  refine ⟨⟨s.port0.peerCapability.receivedUs + max span 0, 0⟩, ?_⟩
  have hlate : ¬ s.port0.peerCapability.receivedUs + max span 0 -
      s.port0.peerCapability.receivedUs < span := by omega
  unfold PtpState.lacksCapability PtpState.wiredCapability ptpWiredCapability ptpPeerCapable
  simp only [hgptp, hwired, decide_true, Bool.true_and]
  rw [decide_eq_false hlate, Bool.and_false]
  rfl

/-- Without the capability a waiting Sync is given up, and nothing else. -/
theorem rxTiming_lacks_iff (length : Nat) (reads : RxReadings)
    (hlacks : s.lacksCapability cfg reads.capability = true) :
    (rxTiming cfg s length reads).unstamped ≠ s.unstamped ↔ s.losesPending := by
  unfold rxTiming
  dsimp only
  rw [if_pos hlacks, ne_eq, PtpState.unstamped_withPort0_iff]
  unfold PtpState.lacksCapability at hlacks
  simp only [Bool.and_eq_true, decide_eq_true_eq] at hlacks
  unfold PtpState.losesPending
  cases hpending : s.port0.twostepPending with
  | false =>
    apply iff_of_false
    · intro hchanged
      apply hchanged
      rw [← hpending]
    · rintro ⟨-, hpending⟩
      cases hpending
  | true =>
    apply iff_of_true
    · intro hsame
      have hcleared : false = s.port0.twostepPending := congrArg PtpPort.twostepPending hsame
      rw [hpending] at hcleared
      cases hcleared
    · exact ⟨hlacks.1.2, rfl⟩

/-- A frame of the timing messages acts if it costs a waiting Sync, or if the clock hears it
    and the handler has something to do. -/
theorem rxTiming_acts_iff {ι : Type} {Handled : Prop} (hgptp : s.isGptp = true) (length : Nat)
    (read : RxReadings → ι) (handle : ι → PtpState F n)
    (hreads : ∀ times i, ∃ reads : RxReadings, reads.capability = times ∧ read reads = i)
    (hreaches : ∀ reads : RxReadings, s.lacksCapability cfg reads.capability = false →
      cfg.actsAsClient = true → rxTiming cfg s length reads = handle (read reads))
    (hhandle : (∃ i, (handle i).unstamped ≠ s.unstamped) ↔ Handled) :
    (∃ reads, (rxTiming cfg s length reads).unstamped ≠ s.unstamped) ↔
      s.losesPending ∨ (s.hears cfg ∧ Handled) := by
  constructor
  · rintro ⟨reads, hchanged⟩
    cases hlacks : s.lacksCapability cfg reads.capability with
    | true => exact .inl ((rxTiming_lacks_iff length reads hlacks).mp hchanged)
    | false =>
      cases hclient : cfg.actsAsClient with
      | false =>
        unfold rxTiming at hchanged
        simp [hlacks, hclient] at hchanged
      | true =>
        rw [hreaches reads hlacks hclient] at hchanged
        exact .inr ⟨⟨hclient, _, hlacks⟩, hhandle.mp ⟨_, hchanged⟩⟩
  · rintro (hloses | ⟨⟨hclient, times, hlacks⟩, hhandled⟩)
    · obtain ⟨times, hlacks⟩ := lacksCapability_later cfg hgptp hloses.1
      exact ⟨_, (rxTiming_lacks_iff length { (default : RxReadings) with capability := times }
        hlacks).mpr hloses⟩
    · obtain ⟨i, hchanged⟩ := hhandle.mpr hhandled
      obtain ⟨reads, rfl, rfl⟩ := hreads times i
      refine ⟨reads, ?_⟩
      rw [hreaches reads hlacks hclient]
      exact hchanged

theorem announceReceived_recorded (cfg : Config) (s : PtpState F n) (message : Bytes)
    (length : Nat) (path : PtpPathTrace) (receiptUs : Int) :
    (announceReceived cfg s message length path receiptUs).port0.lastReceivedAnnounce =
      s.port0.lastReceivedAnnounce := by
  have hstored : ∀ t : PtpState F n, (t.storeSource cfg message length path).port0 = t.port0 :=
    fun _ => rfl
  have hswitched : ∀ t : PtpState F n,
      t.switchSource.port0.lastReceivedAnnounce = t.port0.lastReceivedAnnounce := by
    intro t
    exact t.invalidateTiming.withPort0_kept PtpPort.lastReceivedAnnounce rfl
  unfold announceReceived
  dsimp only
  split
  · split <;> rfl
  · split
    · rfl
    · rw [hstored]
      generalize announceChanged s.toPtpSelection _ = changed
      have hreceipt : (if (changed || announceVectorChanged s.toPtpSelection
          (PtpAnnounce.read message)) then
            s.withPort0 { s.port0 with syncReceipt := announceReceipt cfg s.port0 receiptUs }
          else s).port0.lastReceivedAnnounce = s.port0.lastReceivedAnnounce := by
        split
        · exact s.withPort0_kept PtpPort.lastReceivedAnnounce rfl
        · rfl
      cases changed with
      | true => exact (hswitched _).trans hreceipt
      | false => exact hreceipt

/-- An Announce that is taken note of leaves its time. -/
theorem ptpProcessAnnounce_recorded (cfg : Config) {message : Bytes} {length : Nat}
    (times : AnnounceTimes)
    (hbound : (announceNeighbor s.port0 (PtpAnnounce.read message)).2 = true)
    (hnoted : AnnounceNoted s message length) :
    (ptpProcessAnnounce cfg s message length times).port0.lastReceivedAnnounce = times.mono := by
  obtain ⟨hparsed, hheard⟩ := hnoted
  obtain ⟨path, hpath⟩ := Option.isSome_iff_exists.mp hparsed
  unfold ptpProcessAnnounce
  simp only [hpath, hheard, hbound, Bool.false_eq_true, if_false, Bool.not_true]
  rw [announceReceived_recorded, PtpState.withPort0_port0]

theorem ptpProcessAnnounce_ignored {message : Bytes} {length : Nat} (times : AnnounceTimes)
    (hignored : ¬ AnnounceNoted s message length) :
    ptpProcessAnnounce cfg s message length times = s := by
  unfold AnnounceNoted at hignored
  unfold ptpProcessAnnounce
  dsimp only
  cases hpath : ptpPathTraceParse message length s.ownIdentity.header.sourceidentity with
  | none => rfl
  | some path =>
    rw [hpath] at hignored
    have hrefused : announceRefused s (PtpAnnounce.read message) = true := by
      simpa using hignored
    simp only [hrefused, if_true]

/-- An Announce that is not refused acts. -/
theorem ptpProcessAnnounce_acts_iff {message : Bytes} {length : Nat}
    (hbound : (announceNeighbor s.port0 (PtpAnnounce.read message)).2 = true) :
    (∃ times, (ptpProcessAnnounce cfg s message length times).unstamped ≠ s.unstamped) ↔
      AnnounceNoted s message length := by
  constructor
  · rintro ⟨times, hchanged⟩
    by_contra hignored
    rw [ptpProcessAnnounce_ignored times hignored] at hchanged
    exact hchanged rfl
  · intro hnoted
    -- Any time but the one of the last Announce shows.
    let mono : Timespec :=
      { s.port0.lastReceivedAnnounce with tvSec := s.port0.lastReceivedAnnounce.tvSec + 1 }
    refine ⟨⟨mono, 0⟩, fun hsame => ?_⟩
    have hkept := PtpState.port0_congr hsame PtpPort.lastReceivedAnnounce fun _ => rfl
    rw [ptpProcessAnnounce_recorded cfg ⟨mono, 0⟩ hbound hnoted] at hkept
    have hseconds := congrArg Timespec.tvSec hkept
    dsimp only [mono] at hseconds
    omega

/-- A Sync of the selected source acts. -/
theorem ptpProcessSync_acts_iff {msg : PtpSync} :
    (∃ times, (ptpProcessSync cfg s msg times).unstamped ≠ s.unstamped) ↔
      msg.header.sourcePort = s.selectedSource.header.sourcePort := by
  constructor
  · rintro ⟨times, hchanged⟩
    by_contra hother
    rw [ptpProcessSync_other cfg hother] at hchanged
    exact hchanged rfl
  · intro hport
    let times : SyncTimes :=
      { (default : SyncTimes) with receivedUs := s.port0.twostepReceivedUs + 1 }
    refine ⟨times, fun hsame => ?_⟩
    have hview := PtpState.view_congr hsame
    cases htwo : msg.header.isTwoStep with
    | true =>
      rw [ptpProcessSync_twoStep cfg hport htwo] at hview
      have hpending : some ⟨msg, s.port0.rxtime, times.receivedUs⟩ = s.view.pending :=
        congrArg SourceView.pending hview
      unfold PtpState.view PtpPort.heard at hpending
      dsimp only at hpending
      split_ifs at hpending
      have htime := congrArg PendingSync.receivedUs (Option.some.inj hpending)
      dsimp only [times] at htime
      omega
    | false =>
      have hupdated := ptpProcessSync_oneStep cfg hport htwo times
      rw [hview] at hupdated
      have hcount : s.view.clockUpdates + 1 = s.view.clockUpdates := by
        rcases hupdated with h | h <;> exact (congrArg SourceView.clockUpdates h).symm
      simp at hcount

/-- A Follow_Up acts if it is accepted. -/
theorem ptpProcessFollowup_acts_iff {message : Bytes} :
    (∃ times, (ptpProcessFollowup cfg s message times).unstamped ≠ s.unstamped) ↔
      ∃ nowUs, followupAccepted s message nowUs = true := by
  constructor
  · rintro ⟨times, hchanged⟩
    refine ⟨times.nowUs, ?_⟩
    by_contra hrefused
    rw [ptpProcessFollowup_refused cfg (Bool.eq_false_iff.mpr hrefused)] at hchanged
    exact hchanged rfl
  · rintro ⟨nowUs, haccepted⟩
    refine ⟨{ (default : FollowupTimes) with nowUs := nowUs }, fun hsame => ?_⟩
    -- The Sync that waited is taken.
    obtain ⟨sync, hpending, -, -⟩ := followupAccepted_pending haccepted
    obtain ⟨receipt, timing, hview, -, -⟩ := ptpProcessFollowup_view cfg s message
      { (default : FollowupTimes) with nowUs := nowUs } haccepted
    rw [PtpState.view_congr hsame] at hview
    have hnone : s.view.pending = none := congrArg SourceView.pending hview
    rw [hpending] at hnone
    cases hnone

omit [CDouble F] in
/-- A server acts on no Sync and no Follow_Up. -/
theorem heeded_acts_iff {ι : Type} {handle : ι → PtpState F n} {Handled : Prop}
    (hhandle : (∃ i, (handle i).unstamped ≠ s.unstamped) ↔ Handled) :
    (∃ i, (if s.ignoresSync then s else handle i).unstamped ≠ s.unstamped) ↔
      s.ignoresSync = false ∧ Handled := by
  cases s.ignoresSync with
  | true => simp
  | false => simpa using hhandle

theorem rxTiming_announce_iff (hgptp : s.isGptp = true)
    (htype : s.port0.rxbuf.msgtype = .announce)
    (hbound : (announceNeighbor s.port0 (PtpAnnounce.read s.port0.rxbuf)).2 = true)
    (length : Nat) :
    (∃ reads, (rxTiming cfg s length reads).unstamped ≠ s.unstamped) ↔
      s.losesPending ∨ (s.hears cfg ∧ AnnounceNoted s s.port0.rxbuf length) := by
  apply rxTiming_acts_iff hgptp length RxReadings.announce
    (ptpProcessAnnounce cfg s s.port0.rxbuf length)
  · intro times announce
    exact ⟨{ (default : RxReadings) with capability := times, announce := announce }, rfl, rfl⟩
  · intro reads hlacks hclient
    unfold rxTiming
    simp only [hlacks, hclient, htype, Bool.false_eq_true, if_false, Bool.not_true]
  · exact ptpProcessAnnounce_acts_iff hbound

theorem rxTiming_sync_iff (hgptp : s.isGptp = true) (htype : s.port0.rxbuf.msgtype = .sync)
    (length : Nat) :
    (∃ reads, (rxTiming cfg s length reads).unstamped ≠ s.unstamped) ↔
      s.losesPending ∨ (s.hears cfg ∧ s.ignoresSync = false ∧
        (PtpSync.read s.port0.rxbuf).header.sourcePort =
          s.selectedSource.header.sourcePort) := by
  apply rxTiming_acts_iff hgptp length RxReadings.sync fun times =>
    if s.ignoresSync then s else ptpProcessSync cfg s (PtpSync.read s.port0.rxbuf) times
  · intro times sync
    exact ⟨{ (default : RxReadings) with capability := times, sync := sync }, rfl, rfl⟩
  · intro reads hlacks hclient
    unfold rxTiming
    simp only [hlacks, hclient, htype, Bool.false_eq_true, if_false, Bool.not_true]
  · exact heeded_acts_iff ptpProcessSync_acts_iff

theorem rxTiming_followUp_iff (hgptp : s.isGptp = true)
    (htype : s.port0.rxbuf.msgtype = .followUp) (length : Nat) :
    (∃ reads, (rxTiming cfg s length reads).unstamped ≠ s.unstamped) ↔
      s.losesPending ∨ (s.hears cfg ∧ s.ignoresSync = false ∧
        ∃ nowUs, followupAccepted s s.port0.rxbuf nowUs = true) := by
  apply rxTiming_acts_iff hgptp length RxReadings.followup fun times =>
    if s.ignoresSync then s else ptpProcessFollowup cfg s s.port0.rxbuf times
  · intro times followup
    exact ⟨{ (default : RxReadings) with capability := times, followup := followup }, rfl, rfl⟩
  · intro reads hlacks hclient
    unfold rxTiming
    simp only [hlacks, hclient, htype, Bool.false_eq_true, if_false, Bool.not_true]
  · exact heeded_acts_iff ptpProcessFollowup_acts_iff

end Timing

/-! ## The answers of a peer -/

section Answers

variable {cfg : Config} {s : PtpState F n}

theorem noteEndpoint_marks {length : Nat} (h : s.marksEndpoint length) :
    (s.noteEndpoint length).port0.peerIsEndpoint = true := by
  unfold PtpState.noteEndpoint
  rw [if_pos h.2, PtpState.withPort0_port0]

theorem noteEndpoint_idle {length : Nat} (h : ¬ s.marksEndpoint length) :
    s.noteEndpoint length = s := by
  unfold PtpState.noteEndpoint
  by_cases htlv : ptpMsgHasEndpointDeclTlv s.port0.rxbuf length 54
  · rw [if_pos htlv]
    have hset : s.port0.peerIsEndpoint = true := by
      rw [← Bool.not_eq_false]
      exact fun hflag => h ⟨hflag, htlv⟩
    rw [← hset]
    exact s.withPort0_self
  · rw [if_neg htlv]

/-- What the two handlers of a peer's answers have in common: the declaration is believed,
    the exchange takes a note or not, and the qualification of a spoiled exchange ends. -/
structure AnswerHandler (s : PtpState F n) (handle : PtpState F n → RxReadings → PtpState F n)
    (Noted : RxReadings → Prop) : Prop where
  endpoint : ∀ t reads, (handle t reads).port0.peerIsEndpoint = t.port0.peerIsEndpoint
  noted : ∀ reads, Noted reads → (handle s reads).port0.peerExchange ≠ s.port0.peerExchange
  idle : ∀ reads, ¬ Noted reads →
    handle s reads = s.withPort0
      { s.port0 with toPtpPeerPort := clearQualified s.port0.toPtpPeerPort }

/-- When such a handler changes anything. -/
theorem AnswerHandler.acts_iff {handle : PtpState F n → RxReadings → PtpState F n}
    {Noted : RxReadings → Prop} (h : AnswerHandler s handle Noted) (length : Nat) :
    (∃ reads, (handle (s.noteEndpoint length) reads).unstamped ≠ s.unstamped) ↔
      s.marksEndpoint length ∨ s.port0.spoiled ∨ ∃ reads, Noted reads := by
  by_cases hmarks : s.marksEndpoint length
  · apply iff_of_true _ (.inl hmarks)
    refine ⟨default, fun hsame => ?_⟩
    have hflag := PtpState.port0_congr hsame PtpPort.peerIsEndpoint fun _ => rfl
    rw [h.endpoint, noteEndpoint_marks hmarks, hmarks.1] at hflag
    cases hflag
  · rw [noteEndpoint_idle hmarks]
    have hidle : ∀ reads, ¬ Noted reads →
        ((handle s reads).unstamped = s.unstamped ↔ ¬ s.port0.spoiled) := by
      intro reads hnot
      rw [h.idle reads hnot, PtpState.unstamped_withPort0_iff, ← clearQualified_same_iff]
      constructor
      · intro hsame
        exact congrArg PtpPort.toPtpPeerPort hsame
      · intro hsame
        rw [hsame]
    constructor
    · rintro ⟨reads, hchanged⟩
      by_cases hnoted : Noted reads
      · exact .inr (.inr ⟨reads, hnoted⟩)
      · by_contra hnothing
        exact hchanged ((hidle reads hnoted).mpr fun hspoiled => hnothing (.inr (.inl hspoiled)))
    · have hnotes : ∀ reads, Noted reads → (handle s reads).unstamped ≠ s.unstamped := by
        intro reads hnoted hsame
        exact h.noted reads hnoted
          (PtpState.port0_congr hsame (fun port => port.peerExchange) fun _ => rfl)
      rintro (hmarked | hspoiled | ⟨reads, hnoted⟩)
      · exact absurd hmarked hmarks
      · refine ⟨default, ?_⟩
        by_cases hnoted : Noted default
        · exact hnotes default hnoted
        · rw [ne_eq, hidle default hnoted, not_not]
          exact hspoiled
      · exact ⟨reads, hnotes reads hnoted⟩

theorem delayRespGptp_exchange (s : PtpState F n) (msg : PtpDelayResp) (nowUs : Int) :
    (delayRespGptp s msg nowUs).port0.peerExchange =
      (ptpPeerResponse s.port0.peerExchange msg s.port0.rxtime nowUs).1 := by
  unfold delayRespGptp delayRespSection
  dsimp only
  split <;> (rw [PtpState.withPort0_port0]; exact clearQualified_exchange _)

/-- `ptp_process_delay_resp` in the gPTP profile. -/
theorem delayRespGptp_handler :
    AnswerHandler s
      (fun t reads =>
        delayRespGptp t (PtpDelayResp.read s.port0.rxbuf) reads.delayResp.nowUs)
      fun reads =>
        ResponseNoted s.port0.peerExchange (PtpDelayResp.read s.port0.rxbuf) s.port0.rxtime
          reads.delayResp.nowUs where
  endpoint := by
    intro t reads
    unfold delayRespGptp
    dsimp only
    split <;> exact t.withPort0_kept PtpPort.peerIsEndpoint rfl
  noted := by
    intro reads hnoted hsame
    rw [delayRespGptp_exchange] at hsame
    exact ptpPeerResponse_kept_iff.mp hsame hnoted
  idle := by
    intro reads hnot
    unfold delayRespGptp delayRespSection
    dsimp only
    rw [ptpPeerResponse_nothing hnot]

variable [CDouble F]

/-- In the gPTP profile no Delay_Resp is taken. -/
theorem rxDelayResp_other (cfg : Config) (length : Nat) (hgptp : s.isGptp = true)
    (hother : s.port0.rxbuf.msgtype ≠ .pdelayResp) (reads : RxReadings) :
    rxDelayResp cfg s length reads = s := by
  unfold rxDelayResp
  exact if_pos ⟨hgptp, hother⟩

theorem rxDelayResp_acts_iff (cfg : Config) (hgptp : s.isGptp = true)
    (htype : s.port0.rxbuf.msgtype = .pdelayResp) (length : Nat) :
    (∃ reads, (rxDelayResp cfg s length reads).unstamped ≠ s.unstamped) ↔
      s.marksEndpoint length ∨ s.port0.spoiled ∨ ∃ nowUs, ResponseNoted s.port0.peerExchange
        (PtpDelayResp.read s.port0.rxbuf) s.port0.rxtime nowUs := by
  have hhandler : ∀ reads : RxReadings, rxDelayResp cfg s length reads =
      delayRespGptp (s.noteEndpoint length) (PtpDelayResp.read s.port0.rxbuf)
        reads.delayResp.nowUs := by
    intro reads
    have hframe : (s.noteEndpoint length).isGptp = true :=
      (noteEndpoint_frame s length).1.trans hgptp
    unfold rxDelayResp ptpProcessDelayResp
    dsimp only
    rw [if_neg fun h => h.2 htype, if_pos hframe]
  have htimes : (∃ nowUs, ResponseNoted s.port0.peerExchange (PtpDelayResp.read s.port0.rxbuf)
        s.port0.rxtime nowUs) ↔
      ∃ reads : RxReadings, ResponseNoted s.port0.peerExchange
        (PtpDelayResp.read s.port0.rxbuf) s.port0.rxtime reads.delayResp.nowUs := by
    constructor
    · rintro ⟨nowUs, hnoted⟩
      exact ⟨{ (default : RxReadings) with delayResp := ⟨nowUs, 0⟩ }, hnoted⟩
    · rintro ⟨reads, hnoted⟩
      exact ⟨reads.delayResp.nowUs, hnoted⟩
  rw [htimes, ← delayRespGptp_handler.acts_iff length]
  simp only [hhandler]

/-- What a commit does not write of port 0 is as the first section leaves it. -/
theorem ptpProcessDelayRespFollowUp_kept {α : Type} (cfg : Config) (f : PtpPort F → α)
    (hf : ∀ (port : PtpPort F) (peer : PtpPeerPort F),
      peer.peerExchange = port.peerExchange → f { port with toPtpPeerPort := peer } = f port)
    (t : PtpState F n) (hgptp : t.isGptp = true) (msg : PtpDelayRespFollowUp)
    (times : FollowUpUs) :
    f (ptpProcessDelayRespFollowUp cfg t msg 0 times).port0 =
      f { t.port0 with
          toPtpPeerPort := (followUpFinish t.port0.toPtpPeerPort msg 0 times.finishUs).1 } := by
  unfold ptpProcessDelayRespFollowUp
  rw [if_neg (by simp [hgptp])]
  generalize followUpFinish t.port0.toPtpPeerPort msg 0 times.finishUs = finished
  dsimp only
  cases finished.2 with
  | none => rw [PtpState.withPort0_port0]
  | some handling =>
    dsimp only
    cases evaluateFollowUp cfg handling with
    | none =>
      dsimp only
      rw [PtpState.withPort0_port0]
    | some evaluation =>
      dsimp only
      rw [PtpState.withPort0_port0, PtpState.withPort0_port0]
      exact hf _ _ (followUpCommit_exchange ..)

/-- `ptp_process_delay_resp_follow_up` in the gPTP profile. -/
theorem ptpProcessDelayRespFollowUp_handler (hgptp : s.isGptp = true) :
    AnswerHandler s
      (fun t reads =>
        ptpProcessDelayRespFollowUp cfg t (PtpDelayRespFollowUp.read s.port0.rxbuf) 0
          reads.pdelayFollowUp)
      fun reads =>
        FollowUpNoted s.port0.peerExchange (PtpDelayRespFollowUp.read s.port0.rxbuf)
          reads.pdelayFollowUp.finishUs where
  endpoint := by
    intro t reads
    cases hprofile : t.isGptp with
    | false =>
      unfold ptpProcessDelayRespFollowUp
      simp [hprofile]
    | true =>
      exact ptpProcessDelayRespFollowUp_kept cfg PtpPort.peerIsEndpoint (fun _ _ _ => rfl) t
        hprofile _ _
  noted := by
    intro reads hnoted hsame
    have hexchange := ptpProcessDelayRespFollowUp_kept cfg (fun port => port.peerExchange)
      (fun _ _ hkept => hkept) s hgptp (PtpDelayRespFollowUp.read s.port0.rxbuf)
      reads.pdelayFollowUp
    dsimp only at hsame hexchange
    rw [hsame] at hexchange
    unfold followUpFinish at hexchange
    rw [if_neg (by simp)] at hexchange
    dsimp only at hexchange
    rw [clearQualified_exchange] at hexchange
    exact ptpPeerFinish_kept_iff.mp hexchange.symm hnoted
  idle := by
    intro reads hnot
    unfold ptpProcessDelayRespFollowUp followUpFinish
    rw [if_neg (by simp [hgptp]), if_neg (by simp)]
    dsimp only
    rw [ptpPeerFinish_nothing hnot]
    rfl

theorem ptpProcessDelayRespFollowUp_acts_iff (hgptp : s.isGptp = true) (length : Nat) :
    (∃ reads : RxReadings, (ptpProcessDelayRespFollowUp cfg (s.noteEndpoint length)
        (PtpDelayRespFollowUp.read s.port0.rxbuf) 0 reads.pdelayFollowUp).unstamped ≠
          s.unstamped) ↔
      s.marksEndpoint length ∨ s.port0.spoiled ∨ ∃ nowUs, FollowUpNoted s.port0.peerExchange
        (PtpDelayRespFollowUp.read s.port0.rxbuf) nowUs := by
  have htimes : (∃ nowUs, FollowUpNoted s.port0.peerExchange
        (PtpDelayRespFollowUp.read s.port0.rxbuf) nowUs) ↔
      ∃ reads : RxReadings, FollowUpNoted s.port0.peerExchange
        (PtpDelayRespFollowUp.read s.port0.rxbuf) reads.pdelayFollowUp.finishUs := by
    constructor
    · rintro ⟨nowUs, hnoted⟩
      exact ⟨{ (default : RxReadings) with pdelayFollowUp := ⟨nowUs, 0⟩ }, hnoted⟩
    · rintro ⟨reads, hnoted⟩
      exact ⟨reads.pdelayFollowUp.finishUs, hnoted⟩
  rw [htimes]
  exact (ptpProcessDelayRespFollowUp_handler hgptp).acts_iff length

end Answers

/-! ## Requests -/

theorem onRequest_idle {α : Type} (s : PtpState F n) (ingress : Fin (n + 1))
    {request : PtpSignaling α} (h : ∀ value, request ≠ .decoded value)
    (act : PtpPort F → α → PtpPort F) : s.onRequest ingress request act = s := by
  cases request with
  | decoded value => exact absurd rfl (h value)
  | _ => rfl

/-- A Signaling message that is not of gPTP is not taken. -/
theorem rxSignaling_stray (cfg : Config) (s : PtpState F n) (length : Nat)
    (ingress : Fin (n + 1)) (reads : RxReadings) (hstray : s.port0.rxbuf.majorSdoId ≠ 1) :
    rxSignaling cfg s length ingress reads = s := by
  have hbyte : s.port0.rxbuf.u8 0 ≠ 0x1c := by
    intro hbyte
    apply hstray
    unfold Bytes.majorSdoId
    rw [hbyte]
    rfl
  unfold rxSignaling
  dsimp only
  split
  · rfl
  · rename_i requests hrequests
    obtain ⟨localPort, -, hread⟩ := Option.bind_eq_some_iff.mp hrequests
    have hnone : ¬ _ := fun hcarries => hbyte (signalingRequests_sdoid hread hcarries)
    rw [onRequest_idle s ingress fun value h => hnone (.inl ⟨value, h⟩),
      onRequest_idle s ingress fun value h => hnone (.inr (.inl ⟨value, h⟩)),
      onRequest_idle s ingress fun value h => hnone (.inr (.inr ⟨value, h⟩))]

/-- In the gPTP profile every delay request is answered, unless the send fails. -/
theorem rxDelayReq_acts (cfg : Config) (s : PtpState F n) (length : Nat)
    (hgptp : s.isGptp = true) : ∃ reads, Acts s (rxDelayReq cfg s length reads) := by
  let answers : DelayReqAnswers := { (default : DelayReqAnswers) with response := some default }
  refine ⟨{ (default : RxReadings) with delayReq := answers }, .inr ?_⟩
  have hanswers : (s.noteEndpoint length).answersRequest answers := by
    refine ⟨.inl ?_, rfl⟩
    rw [(noteEndpoint_frame s length).1, hgptp]
  rcases ptpProcessDelayReq_cases cfg (s.noteEndpoint length) (PtpDelayReq.read s.port0.rxbuf)
      answers with ⟨-, hsent⟩ | ⟨hsilent, -⟩
  · exact hsent
  · exact absurd hanswers hsilent

/-- The access point a station is associated with can be bound. -/
theorem announceNeighbor_associated {port : PtpPort F}
    (hassociation : port.rxAssociation = port.wifiNeighbor.association)
    (haccepts : port.rxSourceMacValid = true →
      ptpWifiNeighborAccepts port.wifiNeighbor port.rxSourceMac = true) (msg : PtpAnnounce) :
    (announceNeighbor port msg).2 = true := by
  unfold announceNeighbor
  split
  · rename_i hstation
    dsimp only
    unfold ptpWifiNeighborBind
    rw [if_neg]
    rintro (hother | hrefused)
    · exact hother hassociation
    · rw [haccepts hstation.2.2] at hrefused
      cases hrefused
  · rfl

/-- After the sender check the access point of a station can be bound. -/
theorem rxSender_bound (cfg : Config) {s : PtpState F n} (hgptp : s.isGptp = true)
    (haccepted : (rxSender cfg s 0).2 = true) (msg : PtpAnnounce) :
    (announceNeighbor (rxSender cfg s 0).1.port0 msg).2 = true := by
  by_cases hsta : s.port0.medium = .wifiFtm ∧ s.port0.wifiMode = .sta
  · have hcheck : senderCheck cfg s.isGptp (s.ports 0) s.port0.sender =
        some (staSender s.port0 s.port0.sender) := if_pos ⟨hgptp, hsta⟩
    unfold rxSender at haccepted ⊢
    rw [hcheck] at haccepted ⊢
    dsimp only [staSender] at haccepted ⊢
    rw [PtpState.withPort0_port0]
    apply announceNeighbor_associated
    · rfl
    · intro hvalid
      have hmac : s.port0.rxSourceMacValid = true := hvalid
      unfold RxScratch.sender at haccepted
      rw [if_pos hmac] at haccepted
      exact haccepted
  · have hother : ∀ port : PtpPort F, port.medium = s.port0.medium →
        port.wifiMode = s.port0.wifiMode → (announceNeighbor port msg).2 = true := by
      intro port hmedium hmode
      unfold announceNeighbor
      rw [if_neg]
      rintro ⟨hwifi, hstation, -⟩
      exact hsta ⟨hmedium ▸ hwifi, hmode ▸ hstation⟩
    unfold rxSender
    cases senderCheck cfg s.isGptp (s.ports 0) s.port0.sender with
    | none => exact hother _ rfl rfl
    | some answer =>
      dsimp only
      rw [PtpState.withPort0_port0]
      exact hother _ rfl rfl

theorem announceNeighbor_received (port : PtpPort F) (mono : Timespec) (msg : PtpAnnounce) :
    (announceNeighbor { port with lastReceivedMulticast := mono } msg).2 =
      (announceNeighbor port msg).2 := by
  unfold announceNeighbor
  dsimp only
  by_cases hstation :
      port.medium = .wifiFtm ∧ port.wifiMode = .sta ∧ port.rxSourceMacValid = true
  · rw [if_pos hstation, if_pos hstation]
  · rw [if_neg hstation, if_neg hstation]

/-- And so it can be at the dispatch. -/
theorem rxArrival_bound (cfg : Config) {s : PtpState F n} (hgptp : s.isGptp = true)
    {received length : Nat} {mono : Timespec}
    (harrives : (rxArrival cfg s received 0 mono).2 = some length) (msg : PtpAnnounce) :
    (announceNeighbor (rxArrival cfg s received 0 mono).1.port0 msg).2 = true := by
  unfold rxArrival at harrives ⊢
  cases hanswer : rxAdmission cfg s.isGptp s.port0.rxbuf received with
  | dropped | otherSdoid =>
    rw [hanswer] at harrives
    cases harrives
  | admitted given =>
    rw [hanswer] at harrives
    dsimp only at harrives ⊢
    generalize hversion : s.withPort 0 _ = s₁ at harrives ⊢
    have hprofile : s₁.isGptp = true := by
      rw [← hversion]
      exact hgptp
    cases haccepted : (rxSender cfg s₁ 0).2 with
    | false =>
      rw [haccepted] at harrives
      cases harrives
    | true =>
      have hbound := rxSender_bound cfg hprofile haccepted msg
      rw [if_neg (by decide)]
      dsimp only
      have hport : ((rxSender cfg s₁ 0).1.withPort 0
          { (rxSender cfg s₁ 0).1.ports 0 with lastReceivedMulticast := mono }).port0 =
          { (rxSender cfg s₁ 0).1.port0 with lastReceivedMulticast := mono } :=
        PtpState.withPort0_port0 ..
      rw [hport, announceNeighbor_received]
      exact hbound

/-! ## The frame -/

variable [CDouble F]

/-- **A stray frame that reaches the dispatch acts exactly when its handler has something to
    do.** -/
theorem rxDispatch_acts_iff (cfg : Config) (s : PtpState F n) (length : Nat)
    (hgptp : s.isGptp = true) (hstray : s.port0.rxbuf.majorSdoId ≠ 1)
    (hbound : (announceNeighbor s.port0 (PtpAnnounce.read s.port0.rxbuf)).2 = true) :
    (∃ reads, Acts s (rxDispatch cfg s length 0 reads)) ↔ s.handlerActs cfg length := by
  have hquiet : ¬ ∃ _reads : RxReadings, Acts s (s, []) := by
    rintro ⟨-, hacts⟩
    exact not_acts_self s hacts
  unfold rxDispatch PtpState.handlerActs
  dsimp only
  cases htype : s.port0.rxbuf.msgtype with
  | signaling =>
    simp only [rxSignaling_stray cfg s length 0 _ hstray, iff_false]
    exact hquiet
  | announce =>
    simp only [ne_eq, not_true_eq_false, if_false, acts_silent]
    exact rxTiming_announce_iff hgptp htype hbound length
  | sync =>
    simp only [ne_eq, not_true_eq_false, if_false, acts_silent]
    exact rxTiming_sync_iff hgptp htype length
  | followUp =>
    simp only [ne_eq, not_true_eq_false, if_false, acts_silent]
    exact rxTiming_followUp_iff hgptp htype length
  | delayResp =>
    cases hclient : cfg.actsAsClient with
    | false => simpa using hquiet
    | true =>
      have hother : s.port0.rxbuf.msgtype ≠ .pdelayResp := by simp [htype]
      simpa [rxDelayResp_other cfg length hgptp hother] using hquiet
  | pdelayResp =>
    cases hclient : cfg.actsAsClient with
    | false => simpa using hquiet
    | true =>
      simp only [Bool.not_true, Bool.false_eq_true, ne_eq, not_true_eq_false, or_self, if_false,
        acts_silent, true_and]
      exact rxDelayResp_acts_iff cfg hgptp htype length
  | delayReq | pdelayReq =>
    cases hserver : cfg.actsAsServer with
    | false => simpa using hquiet
    | true => simpa using rxDelayReq_acts cfg s length hgptp
  | pdelayRespFollowUp =>
    simp only [ne_eq, not_true_eq_false, if_false, acts_silent]
    exact ptpProcessDelayRespFollowUp_acts_iff hgptp length
  | other => simpa using hquiet

/-- A frame that does not pass the checks leaves its stamps. -/
theorem ptpProcessRxPacket_passes {cfg : Config} {s : PtpState F n} {received : Nat}
    {reads : RxReadings} (hacts : Acts s (ptpProcessRxPacket cfg s received 0 reads)) :
    FramePasses cfg s received 0 := by
  have hstamps := rxArrival_unstamped cfg s received 0 reads.mono
  have harrives : ∀ length, _ := rxArrival_some_iff cfg s received 0 reads.mono
  unfold ptpProcessRxPacket at hacts
  generalize rxArrival cfg s received 0 reads.mono = arrival at hstamps harrives hacts
  obtain ⟨s', passed⟩ := arrival
  cases passed with
  | none =>
    rcases hacts with hchanged | hsent
    · exact absurd hstamps hchanged
    · exact absurd rfl hsent
  | some length => exact ((harrives length).mp rfl).1

theorem ptpProcessRxPacket_dispatched {cfg : Config} {s : PtpState F n} {received : Nat}
    (hpasses : FramePasses cfg s received 0) (reads : RxReadings) :
    ptpProcessRxPacket cfg s received 0 reads =
      rxDispatch cfg (rxArrival cfg s received 0 reads.mono).1
        (ptpMessageBoundedLength s.port0.rxbuf received) 0 reads := by
  have harrives := (rxArrival_some_iff cfg s received 0 reads.mono _).mpr ⟨hpasses, rfl⟩
  unfold ptpProcessRxPacket
  dsimp only
  rw [harrives]

/-- The stamps of the arrival make no difference to the dispatch. -/
theorem rxDispatch_arrived_iff {cfg : Config} {s : PtpState F n} {received : Nat}
    (hgptp : s.isGptp = true) (hstray : s.port0.rxbuf.majorSdoId ≠ 1)
    (hpasses : FramePasses cfg s received 0) (mono : Timespec) :
    (∃ reads, Acts s (rxDispatch cfg (rxArrival cfg s received 0 mono).1
        (ptpMessageBoundedLength s.port0.rxbuf received) 0 reads)) ↔
      s.handlerActs cfg (ptpMessageBoundedLength s.port0.rxbuf received) := by
  have hstamps := rxArrival_unstamped cfg s received 0 mono
  have hbound := rxArrival_bound cfg hgptp
    ((rxArrival_some_iff cfg s received 0 mono _).mpr ⟨hpasses, rfl⟩)
  generalize (rxArrival cfg s received 0 mono).1 = s' at hstamps hbound ⊢
  have hrxbuf := PtpState.port0_congr hstamps (fun port => port.rxbuf) fun _ => rfl
  have hprofile : s'.isGptp = true := (PtpState.isGptp_congr hstamps).trans hgptp
  rw [← hrxbuf] at hstray
  rw [← PtpState.handlerActs_congr hstamps,
    ← rxDispatch_acts_iff cfg s' _ hprofile hstray (hbound _)]
  simp only [Acts.congr hstamps]

/-- When a stray frame acts, at some time. -/
theorem ptpProcessRxPacket_stray_iff (cfg : Config) (s : PtpState F n) (received : Nat)
    (hgptp : s.isGptp = true) (hstray : s.port0.rxbuf.majorSdoId ≠ 1)
    (hpasses : FramePasses cfg s received 0) :
    (∃ reads, Acts s (ptpProcessRxPacket cfg s received 0 reads)) ↔
      s.handlerActs cfg (ptpMessageBoundedLength s.port0.rxbuf received) := by
  constructor
  · rintro ⟨reads, hacts⟩
    rw [ptpProcessRxPacket_dispatched hpasses] at hacts
    exact (rxDispatch_arrived_iff hgptp hstray hpasses reads.mono).mp ⟨reads, hacts⟩
  · intro hhandled
    obtain ⟨reads, hacts⟩ :=
      (rxDispatch_arrived_iff hgptp hstray hpasses default).mpr hhandled
    -- The handlers do not read the time of the arrival.
    refine ⟨{ reads with mono := default }, ?_⟩
    rw [ptpProcessRxPacket_dispatched hpasses]
    exact hacts

/-- What passes the checks is a message of version 2. -/
theorem ptpMessageBoundedLength_version {message : Bytes} {received : Nat}
    (h : ptpMessageBoundedLength message received ≠ 0) : message.u8 1 &&& 15 = 2 := by
  by_contra hversion
  unfold ptpMessageBoundedLength at h
  rw [if_pos (.inr hversion)] at h
  exact h rfl

/-- **Only gPTP frames act, except where a stray frame has something to do.** -/
theorem onlyGptpFramesAct_iff (cfg : Config) (s : PtpState F n) (received : Nat)
    (hgptp : s.isGptp = true) :
    (∀ reads, Acts s (ptpProcessRxPacket cfg s received 0 reads) →
        GptpFrame cfg s.port0.rxbuf) ↔
      ¬ StrayActs cfg s received := by
  constructor
  · rintro honly ⟨hstray, hpasses, hhandled⟩
    obtain ⟨reads, hacts⟩ :=
      (ptpProcessRxPacket_stray_iff cfg s received hgptp hstray hpasses).mpr hhandled
    exact hstray (honly reads hacts).sdo
  · intro hnone reads hacts
    have hpasses := ptpProcessRxPacket_passes hacts
    refine ⟨?_, ptpMessageBoundedLength_version hpasses.bounded, hpasses.domain⟩
    by_contra hstray
    have hhandled :=
      (ptpProcessRxPacket_stray_iff cfg s received hgptp hstray hpasses).mp ⟨reads, hacts⟩
    exact hnone ⟨hstray, hpasses, hhandled⟩

/-! ## Two frames of majorSdoId 3 -/

namespace Sample

/-- The daemon of `twoPorts`, with another frame on its wired port. -/
def holding (m : Bytes) : PtpState ℚ 1 :=
  (twoPorts station).withPort0 { (twoPorts station).port0 with rxbuf := m }

def strayPdelayReq : Bytes := 0x32 :: pdelayReqFrame.tail

def strayDelayResp : Bytes := 0x39 :: pdelayReqFrame.tail

end Sample

/-- A Delay_Resp passes the checks and finds nothing to do. -/
theorem onlyGptpFramesAct_iff_response :
    (Sample.holding Sample.strayDelayResp).isGptp = true ∧
      ∀ reads, Acts (Sample.holding Sample.strayDelayResp)
          (ptpProcessRxPacket Sample.config (Sample.holding Sample.strayDelayResp) 66 0 reads) →
        GptpFrame Sample.config (Sample.holding Sample.strayDelayResp).port0.rxbuf := by
  refine ⟨rfl, (onlyGptpFramesAct_iff Sample.config _ 66 rfl).mpr ?_⟩
  rintro ⟨-, -, hhandled⟩
  exact hhandled

/-- A Pdelay_Req is answered. -/
theorem not_onlyGptpFramesAct :
    ¬ ∀ (cfg : Config) (s : PtpState ℚ 1) (received : Nat) (reads : RxReadings),
      s.isGptp = true → Acts s (ptpProcessRxPacket cfg s received 0 reads) →
        GptpFrame cfg s.port0.rxbuf := by
  intro hclaim
  have hacts : Acts (Sample.holding Sample.strayPdelayReq)
      (ptpProcessRxPacket Sample.config (Sample.holding Sample.strayPdelayReq) 66 0
        Sample.answered) := .inr (by decide +kernel)
  have hframe := hclaim _ _ _ _ rfl hacts
  exact absurd hframe.sdo (by decide +kernel)

end EspPtp
