import EspPtp.Daemon.Loop
import EspPtp.Lib.History

/-!
# Runs of the daemon

A run is a list of events: the sections of the daemon's passes, the frames, and what other
tasks do, in any order. Its history is the `trace` of `daemonStep`. The order of a pass is one of them, and what is proved of all orders
holds of it.

`elsewhere` is everything else, the whole of `ptp_periodic_send` included but for the time
base it fills in: it may do to the daemon what it likes, outside `SourceView`. That is how
peer delays, capabilities, associations and links change between two events.
-/

namespace EspPtp

open Lib

/-- A frame in port 0's receive buffer, as much of it as was received, and where. -/
structure RxFrame (n : Nat) where
  scratch : RxScratch
  received : Nat
  ingress : Fin (n + 1)
  reads : RxReadings
  deriving DecidableEq, Inhabited

variable {F : Type} {n : Nat}

/-- The frame is in the buffer. -/
def PtpState.load (s : PtpState F n) (frame : RxFrame n) : PtpState F n :=
  s.withPort0 { s.port0 with toRxScratch := frame.scratch }

@[simp] theorem load_view (s : PtpState F n) (frame : RxFrame n) : (s.load frame).view = s.view :=
  s.view_withPort0 rfl

@[simp] theorem load_rxbuf (s : PtpState F n) (frame : RxFrame n) :
    (s.load frame).port0.rxbuf = frame.scratch.rxbuf := by
  simp [PtpState.load]

@[simp] theorem load_rxtime (s : PtpState F n) (frame : RxFrame n) :
    (s.load frame).port0.rxtime = frame.scratch.rxtime := by
  simp [PtpState.load]

@[simp] theorem load_isGptp (s : PtpState F n) (frame : RxFrame n) :
    (s.load frame).isGptp = s.isGptp := rfl

/-- Something that leaves the time source alone. -/
structure Elsewhere (F : Type) (n : Nat) where
  act : PtpState F n → PtpState F n
  view : ∀ s, (act s).view = s.view

inductive DaemonEvent (F : Type) (n : Nat) where
  /-- The top of a pass. -/
  | capability (times : CapabilityTimes)
  | received (frame : RxFrame n)
  | validity (times : ValidityTimes)
  | localSource (answers : LocalSourceAnswers)
  /-- A Follow_Up is sent, or put into a beacon. -/
  | gmFields
  | fallback (nowUs : Int) (dropping : Bool)
  | armFallback
  | setProfile (profile : PtpProfile)
  | injectSync (p : Fin (n + 1)) (message : Bytes) (times : InjectTimes)
  | injectSyncPair (p : Fin (n + 1)) (remoteNs localNs : Int) (times : InjectTimes)
  | ftmObserved (p : Fin (n + 1)) (sourceIdentity : ClockIdentity) (domain : UInt8)
      (logInterval receivedUs nowUs : Int) (mono : Timespec)
  | elsewhere (other : Elsewhere F n)

/-- `ptpd_inject_sync`, which makes up a source of its own. -/
def DaemonEvent.IsInjection : DaemonEvent F n → Prop
  | .injectSync .. => True
  | _ => False

variable [CDouble F]

/-- `ptp_process_rx_packet` on a frame. -/
def PtpState.receive (cfg : Config) (s : PtpState F n) (frame : RxFrame n) : PtpState F n :=
  (ptpProcessRxPacket cfg (s.load frame) frame.received frame.ingress frame.reads).1

/-- The frame's handler, in this state. -/
def RxFrame.handled (cfg : Config) (s : PtpState F n) (frame : RxFrame n) : RxHandled :=
  rxHandled cfg (s.load frame) frame.received frame.ingress frame.reads

def DaemonEvent.apply (cfg : Config) (s : PtpState F n) : DaemonEvent F n → PtpState F n
  | .capability times => checkCapability cfg s times
  | .received frame => s.receive cfg frame
  | .validity times => revalidate cfg s times
  | .localSource answers => ptpPublishLocalSource cfg s answers
  | .gmFields => (ptpFillGmFields s).1
  | .fallback nowUs dropping => ptpCheckProfileFallback cfg s nowUs dropping
  | .armFallback => ptpArmProfileFallback cfg s
  | .setProfile profile => ptpdSetProfile cfg s profile
  | .injectSync p message times => ptpdInjectSync cfg s p message times
  | .injectSyncPair p remoteNs localNs times => ptpdInjectSyncPair cfg s p remoteNs localNs times
  | .ftmObserved p identity domain logInterval receivedUs nowUs mono =>
    ptpdFtmSourceObserved cfg s p identity domain logInterval receivedUs nowUs mono
  | .elsewhere other => other.act s

/-- The step of a run, which answers with the state it found: the history of a run is the
    list of its events, each with that state. -/
def daemonStep (cfg : Config) (s : PtpState F n) (e : DaemonEvent F n) :
    PtpState F n × PtpState F n :=
  (e.apply cfg s, s)

/-- An event of a run and the state it found. -/
abbrev Visit (F : Type) (n : Nat) := DaemonEvent F n × PtpState F n

/-! ## What the events do to the view -/

theorem receive_effect (cfg : Config) (s : PtpState F n) (frame : RxFrame n) :
    RxEffect s.view (s.receive cfg frame).view frame.scratch.rxtime frame.reads
      (frame.handled cfg s) := by
  have heffect := ptpProcessRxPacket_effect cfg (s.load frame) frame.received frame.ingress
    frame.reads
  rw [load_view, load_rxtime] at heffect
  exact heffect

/-- The time base after fields were filled in. Only a clock that is its own source says
    something about them. -/
structure Filled (v v' : SourceView) : Prop where
  frame : v' =
    { v with gmFieldsOwn := v'.gmFieldsOwn, ownTimeBaseIndicator := v'.ownTimeBaseIndicator }
  own : v.valid = false → v'.gmFieldsOwn = true
  kept : v.valid = false → v.gmFieldsOwn = true →
    v'.ownTimeBaseIndicator = v.ownTimeBaseIndicator

omit [CDouble F] in
theorem not_relaying {s : PtpState F n} (h : s.view.valid = false) : s.relaying = false := by
  unfold PtpState.relaying
  rw [show s.selectedSourceValid = false from h]
  rfl

omit [CDouble F] in
/-- The time base only reads the count of clock updates. -/
theorem ptpFillGmFields_clockUpdates (s : PtpState F n) :
    (ptpFillGmFields s).1.clockUpdates = s.clockUpdates := by
  have hsource : ∀ (t : PtpTimeBase) (relaying : Bool),
      (gmFieldsSource t relaying).1.clockUpdates = t.clockUpdates := by
    intro t relaying
    unfold gmFieldsSource
    split_ifs <;> rfl
  have hphase : ∀ (t : PtpTimeBase) (relaying : Bool) (fields : GmFields) (btc : ClockIdentity),
      (gmFieldsPhase t relaying fields btc).1.clockUpdates = t.clockUpdates := by
    intro t relaying fields btc
    unfold gmFieldsPhase
    dsimp only
    split_ifs <;> rfl
  unfold ptpFillGmFields
  exact (hphase ..).trans (hsource ..)

omit [CDouble F] in
theorem ptpFillGmFields_view (s : PtpState F n) :
    Filled s.view (ptpFillGmFields s).1.view where
  frame := by
    have hcount : (ptpFillGmFields s).1.view.clockUpdates = s.view.clockUpdates :=
      ptpFillGmFields_clockUpdates s
    rw [← hcount]
    rfl
  own h := (ptpFillGmFields_own (not_relaying h)).1
  kept h hown := (ptpFillGmFields_own (not_relaying h)).2.1 hown

omit [CDouble F] in
theorem ptpMarshalFollowUp_view (cfg : Config) (s : PtpState F n) (now : Timespec)
    (h : s.relaying = false) :
    Filled s.view (ptpMarshalFollowUp cfg s 0 now).1.view ∧
      (ptpMarshalFollowUp cfg s 0 now).1.view.gmFieldsOwn = true ∧
      (ptpMarshalFollowUp cfg s 0 now).2.timeBaseIndicator =
        be16Bytes (ptpMarshalFollowUp cfg s 0 now).1.view.ownTimeBaseIndicator := by
  have hown := ptpFillGmFields_own h
  refine ⟨ptpFillGmFields_view s, hown.1, ?_⟩
  rw [ptpMarshalFollowUp_indicator]
  exact hown.2.2

/-- What the local source publishes, in what matters here. -/
structure PublishesLocal (v v' : SourceView) (publishedUs : Int)
    (snapshot : PtpTimingSnapshot) : Prop where
  valid : snapshot.valid = true
  receivedUs : snapshot.receivedUs = publishedUs
  btc : snapshot.btcIdentity = v.ownIdentity.btcIdentity
  indicator : snapshot.followUp.timeBaseIndicator = be16Bytes v'.ownTimeBaseIndicator
  generation : snapshot.generation =
    if v.timing.timingSnapshot.generation = 0 then 1 else v.timing.timingSnapshot.generation

/-- `originates`, on the view. -/
def SourceView.originates (cfg : Config) (v : SourceView) : Bool :=
  decide (v.profile = .gptp) && !cfg.useSwClock && !v.valid &&
    decide (v.ownIdentity.btcPriority1 < 255)

/-- What `ptp_publish_local_source` does: nothing, an end of the publications, or one more. -/
inductive LocalSourceEffect (cfg : Config) (v v' : SourceView) (publishedUs : Int) : Prop where
  | kept (h : v' = v)
  | ended (horiginates : v.originates cfg = false) (h : v' =
      { v with
        timing := { v.timing with
          localSourceSnapshot := { v.timing.localSourceSnapshot with valid := false } } })
  | published (v₁ : SourceView) (snapshot : PtpTimingSnapshot)
      (horiginates : v.originates cfg = true) (hfilled : Filled v v₁)
      (hown : v₁.gmFieldsOwn = true)
      (hsnapshot : PublishesLocal v v₁ publishedUs snapshot)
      (h : v' =
        { v₁ with
          timing :=
            { timingSnapshot :=
                { v.timing.timingSnapshot with generation := snapshot.generation }
              localSourceSnapshot := snapshot } })

theorem originates_valid {cfg : Config} {v : SourceView} (h : v.originates cfg = true) :
    v.valid = false := by
  unfold SourceView.originates at h
  simp only [Bool.and_eq_true, Bool.not_eq_true'] at h
  exact h.1.2

omit [CDouble F] in
theorem ptpPublishLocalSource_view (cfg : Config) (s : PtpState F n)
    (answers : LocalSourceAnswers) :
    LocalSourceEffect cfg s.view (ptpPublishLocalSource cfg s answers).view
      answers.publishedUs := by
  unfold ptpPublishLocalSource
  cases horiginates : s.originates cfg with
  | false => exact .ended horiginates rfl
  | true =>
    rw [if_neg (by decide)]
    cases answers.origin with
    | none => exact .kept rfl
    | some origin =>
      dsimp only
      by_cases hnegative : origin.tvSec < 0
      · rw [if_pos hnegative]
        exact .kept rfl
      · rw [if_neg hnegative]
        have hrelaying : s.relaying = false := not_relaying (originates_valid horiginates)
        obtain ⟨hfilled, hown, hindicator⟩ :=
          ptpMarshalFollowUp_view cfg s answers.now hrelaying
        generalize ptpMarshalFollowUp cfg s 0 answers.now = marshalled at hfilled hown hindicator
        obtain ⟨s₁, msg⟩ := marshalled
        dsimp only at hfilled hown hindicator ⊢
        have hsnapshot : s₁.timingSnapshot = s.timingSnapshot :=
          congrArg (fun v => v.timing.timingSnapshot) hfilled.frame
        rw [hsnapshot]
        let generation : UInt32 :=
          if s.timingSnapshot.generation = 0 then 1 else s.timingSnapshot.generation
        exact .published s₁.view (localSnapshot cfg s generation msg origin answers.publishedUs)
          horiginates hfilled hown ⟨rfl, rfl, rfl, hindicator, rfl⟩ rfl

/-- A source made up by an injection. -/
inductive Synthesized (v v' : SourceView) : Prop where
  | kept (h : v' = v)
  | source (source : PtpAnnounce) (h : v' = { v with valid := true, source := source })

omit [CDouble F] in
theorem synthesizeSource_view (s : PtpState F n) (header : PtpHeader) :
    Synthesized s.view (synthesizeSource s header).view := by
  unfold synthesizeSource
  split
  · exact .source _ rfl
  · exact .kept rfl

/-- A call of `ptp_update_local_clock` or none. -/
inductive MaybeClockUpdated (v v' : SourceView) : Prop where
  | kept (h : v' = v)
  | updated (h : ClockUpdated v v')

theorem ptpdInjectSyncPair_view (cfg : Config) (s : PtpState F n) (p : Fin (n + 1))
    (remoteNs localNs : Int) (times : InjectTimes) :
    MaybeClockUpdated s.view (ptpdInjectSyncPair cfg s p remoteNs localNs times).view := by
  unfold ptpdInjectSyncPair
  dsimp only
  split
  · exact .kept rfl
  · apply MaybeClockUpdated.updated
    generalize hheard : s.withPort p _ = s₁
    have hview : s₁.view = s.view := hheard ▸ s.view_withPort rfl
    rw [← hview]
    exact ptpUpdateLocalClock_view ..

theorem ptpdInjectSync_view (cfg : Config) (s : PtpState F n) (p : Fin (n + 1))
    (message : Bytes) (times : InjectTimes) :
    ∃ v₁, Synthesized s.view v₁ ∧
      MaybeClockUpdated v₁ (ptpdInjectSync cfg s p message times).view := by
  unfold ptpdInjectSync
  dsimp only
  split
  · exact ⟨s.view, .kept rfl, .kept rfl⟩
  · refine ⟨_, synthesizeSource_view s (PtpFollowUp.read message).header, .updated ?_⟩
    generalize synthesizeSource s (PtpFollowUp.read message).header = s₁
    generalize hheard : s₁.withPort p _ = s₂
    have hview : s₂.view = s₁.view := hheard ▸ s₁.view_withPort rfl
    rw [← hview]
    exact ptpUpdateLocalClock_view ..

omit [CDouble F] in
/-- An observation of a beacon leaves everything alone but the receipt time, and that only
    while there is a source. It is no observation of the future. -/
theorem ptpdFtmSourceObserved_view (cfg : Config) (s : PtpState F n) (p : Fin (n + 1))
    (identity : ClockIdentity) (domain : UInt8) (logInterval receivedUs nowUs : Int)
    (mono : Timespec) :
    (ptpdFtmSourceObserved cfg s p identity domain logInterval receivedUs nowUs mono).view =
        s.view ∨
      s.view.valid = true ∧ ∃ receipt, receipt.receivedUs ≤ nowUs ∧
        (ptpdFtmSourceObserved cfg s p identity domain logInterval receivedUs nowUs mono).view =
          { s.view with receipt := receipt } := by
  unfold ptpdFtmSourceObserved
  dsimp only
  by_cases hrefused : !cfg.useSwClock ∨ !(s.ports p).linkUp ∨ !s.selectedSourceValid ∨
      !s.isGptp ∨ s.selectedSource.btcPriority1 = 255 ∨ domain ≠ cfg.domain ∨
      identity ≠ s.selectedSource.header.sourceidentity
  · rw [if_pos hrefused]
    exact .inl rfl
  · rw [if_neg hrefused]
    have hvalid : s.view.valid = true := by
      simp only [not_or, Bool.not_eq_true', Bool.not_eq_false] at hrefused
      exact hrefused.2.2.1
    generalize hobserved :
      (if (s.ports p).receiptWindowUs > 0 then _ else _ : PtpSyncReceipt × Bool) = observed
    have hpast : observed.2 = true → observed.1.receivedUs ≤ nowUs := by
      have hwindow : ∀ windowUs,
          let taken := ptpSyncReceiptObserveWindow (s.ports p).syncReceipt receivedUs windowUs nowUs
          taken.2 = true → taken.1.receivedUs ≤ nowUs := by
        intro windowUs
        dsimp only
        rcases ptpSyncReceiptObserveWindow_cases (s.ports p).syncReceipt receivedUs windowUs nowUs
          with hrefused | ⟨hpast, htaken⟩
        · rw [hrefused]
          intro hfalse
          cases hfalse
        · rw [htaken]
          exact fun _ => hpast
      rw [← hobserved]
      split
      · exact hwindow _
      · exact hwindow _
    cases htaken : observed.2 with
    | false => exact .inl rfl
    | true =>
      rw [if_pos rfl]
      by_cases hp : p = 0
      · subst hp
        right
        refine ⟨hvalid, observed.1, hpast htaken, ?_⟩
        exact PtpState.view_withPort0_heard ..
      · left
        unfold PtpState.view
        rw [show (s.withPort p _).port0 = s.port0 from s.withPort_ports_of_ne (Ne.symm hp) _]
        rfl

/-! ## Which source is selected -/

/-- Which source is selected, and which Sync waits, is as it was. -/
structure SelectionKept (v v' : SourceView) : Prop where
  valid : v'.valid = v.valid
  source : v'.source = v.source
  announced : v'.announced = v.announced
  pending : v'.pending = v.pending
  profile : v'.profile = v.profile

theorem SelectionKept.rfl {v : SourceView} : SelectionKept v v :=
  ⟨Eq.refl _, Eq.refl _, Eq.refl _, Eq.refl _, Eq.refl _⟩

theorem Filled.selectionKept {v v' : SourceView} (h : Filled v v') : SelectionKept v v' := by
  rw [h.frame]
  exact ⟨rfl, rfl, rfl, rfl, rfl⟩

theorem ClockUpdated.selectionKept {v v' : SourceView} (h : ClockUpdated v v') :
    SelectionKept v v' := by
  cases h with
  | trimmed h =>
    rw [h]
    exact ⟨rfl, rfl, rfl, rfl, rfl⟩
  | jumped h =>
    rw [h]
    exact ⟨rfl, rfl, rfl, rfl, rfl⟩

/-- The events that neither select a source nor judge it. -/
def DaemonEvent.indifferent : DaemonEvent F n → Bool
  | .localSource _ | .gmFields | .injectSyncPair .. | .ftmObserved .. | .elsewhere _ => true
  | _ => false

theorem indifferent_kept (cfg : Config) (s : PtpState F n) {e : DaemonEvent F n}
    (hindifferent : e.indifferent = true) : SelectionKept s.view (e.apply cfg s).view := by
  cases e with
  | localSource answers =>
    unfold DaemonEvent.apply
    dsimp only
    rcases ptpPublishLocalSource_view cfg s answers with
      h | ⟨-, h⟩ | ⟨v₁, snapshot, -, hfilled, -, -, h⟩
    · rw [h]
      exact .rfl
    · rw [h]
      exact ⟨rfl, rfl, rfl, rfl, rfl⟩
    · have hkept := hfilled.selectionKept
      rw [h]
      exact ⟨hkept.valid, hkept.source, hkept.announced, hkept.pending, hkept.profile⟩
  | gmFields => exact (ptpFillGmFields_view s).selectionKept
  | injectSyncPair p remoteNs localNs times =>
    unfold DaemonEvent.apply
    dsimp only
    rcases ptpdInjectSyncPair_view cfg s p remoteNs localNs times with h | h
    · rw [h]
      exact .rfl
    · exact h.selectionKept
  | ftmObserved p identity domain logInterval receivedUs nowUs mono =>
    unfold DaemonEvent.apply
    dsimp only
    rcases ptpdFtmSourceObserved_view cfg s p identity domain logInterval receivedUs nowUs mono
      with h | ⟨-, receipt, -, h⟩
    · rw [h]
      exact .rfl
    · rw [h]
      exact ⟨rfl, rfl, rfl, rfl, rfl⟩
  | elsewhere other =>
    unfold DaemonEvent.apply
    dsimp only
    rw [other.view]
    exact .rfl
  | _ => cases hindifferent

/-! ## A daemon and its neighbor -/

namespace Sample

/-- A wired port whose peer was measured just now. -/
def capablePort : PtpPort ℚ :=
  { (default : PtpPort ℚ) with
    medium := .ethHwts
    enabled := true
    linkUp := true
    delayreqIntervalMs := 1000
    peerCapability := ⟨0, 0, true⟩ }

/-- A daemon in the gPTP profile that follows nobody. -/
def alone : PtpState ℚ 0 :=
  { (default : PtpState ℚ 0) with
    activePtpProfile := .gptp
    preferredPtpProfile := .gptp
    ownIdentity :=
      { (default : PtpAnnounce) with
        header := { (default : PtpHeader) with sourceidentity := Vector.replicate 8 1 }
        btcPriority1 := 248
        btcIdentity := Vector.replicate 8 1 }
    ports := fun _ => capablePort }

/-- A header of port 1 of clock `02…02`. -/
def neighborHeader (type length flags sequence : UInt8) : Bytes :=
  [type, 0x12, 0, length, 0, 0, flags, 8] ++ List.replicate 12 0 ++ List.replicate 8 2 ++
    [0, 1, 0, sequence, 0, 0]

/-- Its Announce, as a grandmaster of this priority. -/
def neighborAnnounce (priority1 : UInt8) : Bytes :=
  neighborHeader 0x1b 64 0 1 ++ List.replicate 13 0 ++ [priority1, 0, 0, 0, 0, 0] ++
    List.replicate 8 2 ++ [0, 0, 0]

/-- Its Sync, with or without a Follow_Up to come. -/
def neighborSync (twoStep : Bool) (origin : Vector UInt8 10) : Bytes :=
  neighborHeader 0x10 44 (if twoStep then 2 else 0) 7 ++ origin.toList

/-- Its Follow_Up, with the time base it names. -/
def neighborFollowUp (indicator : UInt8) : Bytes :=
  neighborHeader 0x18 76 0 7 ++ List.replicate 10 0 ++
    ([0, 3, 0, 28, 0, 0x80, 0xc2, 0, 0, 1, 0, 0, 0, 0, 0, indicator] ++ List.replicate 16 0)

/-- The message, received on port 0. -/
def frameOf (message : Bytes) (reads : RxReadings) : RxFrame 0 where
  scratch := { (default : RxScratch) with rxbuf := message }
  received := message.length
  ingress := ⟨0, Nat.one_pos⟩
  reads := reads

/-- The peer's capability is lost, or back. -/
def peerChanges (capable : Bool) : Elsewhere ℚ 0 where
  act s := s.withPort0 { s.port0 with peerCapability := ⟨0, 0, capable⟩ }
  view s := s.view_withPort0 rfl

end Sample

end EspPtp
