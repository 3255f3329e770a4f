import EspPtp.Link.Segment

/-!
# Runs of a segment

What holds of a segment in every run: everything on the wire says what its sender says, the
counters of all clocks agree with what was sent, and each clock has its source and its waiting
Sync from the wire. `Heard` is the last of these, about the view of one clock; the two ways in
which a view changes are a frame of the segment (`Heard.received`) and anything else
(`Heard.aside`).
-/

namespace EspPtp

open Lib

variable {F : Type} {N n : Nat}

/-! ## What a frame is handled as -/

section Handled

variable (cfg : Config) (s : PtpState F n) (received : Nat) (ingress : Fin (n + 1))
  (reads : RxReadings)

/-- What the handlers make of a frame they make of what is in the buffer. -/
theorem rxHandled_cases :
    rxHandled cfg s received ingress reads = .nothing ∨
      ingress = bootstrapPort ∧ ∃ s' : PtpState F n, ∃ length, s'.unstamped = s.unstamped ∧
        rxHandled cfg s received ingress reads = rxTimingHandled cfg s' length reads := by
  unfold rxHandled
  dsimp only
  cases (rxArrival cfg s received ingress reads.mono).2 with
  | none => exact .inl rfl
  | some length =>
    by_cases hport : ingress = bootstrapPort
    · refine .inr ⟨hport, _, length, rxArrival_unstamped cfg s received ingress reads.mono, ?_⟩
      exact if_pos hport
    · exact .inl (if_neg hport)

variable {cfg s received ingress reads}

/-- An Announce that is stored is better than this clock. -/
theorem rxHandled_announce {msg : PtpAnnounce}
    (h : rxHandled cfg s received ingress reads = .announce msg) :
    s.port0.rxbuf.msgtype = .announce ∧ msg = PtpAnnounce.read s.port0.rxbuf ∧
      isBetterClock msg s.ownIdentity = true := by
  rcases rxHandled_cases cfg s received ingress reads with
    hnothing | ⟨-, s', length, hsame, hhandled⟩
  · rw [hnothing] at h
    cases h
  · have hrxbuf : s'.port0.rxbuf = s.port0.rxbuf := congrArg (fun t => t.port0.rxbuf) hsame
    have hown : s'.ownIdentity = s.ownIdentity := congrArg (fun t => t.ownIdentity) hsame
    rw [hhandled] at h
    unfold rxTimingHandled at h
    rw [hrxbuf] at h
    dsimp only at h
    cases htype : s.port0.rxbuf.msgtype with
    | announce =>
      rw [htype] at h
      dsimp only at h
      split_ifs at h with _ _ haccepts
      cases h
      refine ⟨rfl, rfl, ?_⟩
      unfold announceAccepts announceWins at haccepts
      rw [Bool.and_eq_true, Bool.and_eq_true, hown] at haccepts
      exact haccepts.2.1
    | _ =>
      rw [htype] at h
      dsimp only at h
      split_ifs at h

/-- A Sync that is processed is in the buffer. -/
theorem rxHandled_sync {msg : PtpSync}
    (h : rxHandled cfg s received ingress reads = .sync msg) :
    s.port0.rxbuf.msgtype = .sync ∧ msg = PtpSync.read s.port0.rxbuf := by
  rcases rxHandled_cases cfg s received ingress reads with
    hnothing | ⟨-, s', length, hsame, hhandled⟩
  · rw [hnothing] at h
    cases h
  · have hrxbuf : s'.port0.rxbuf = s.port0.rxbuf := congrArg (fun t => t.port0.rxbuf) hsame
    rw [hhandled] at h
    unfold rxTimingHandled at h
    rw [hrxbuf] at h
    dsimp only at h
    cases htype : s.port0.rxbuf.msgtype with
    | sync =>
      rw [htype] at h
      dsimp only at h
      split_ifs at h
      cases h
      exact ⟨rfl, rfl⟩
    | _ =>
      rw [htype] at h
      dsimp only at h
      split_ifs at h

/-- A frame aside is not handled by the timing handlers. -/
theorem rxHandled_aside (h : ingress ≠ bootstrapPort ∨
    s.port0.rxbuf.msgtype ∉ ([.announce, .sync, .followUp] : List PtpMsgtype)) :
    rxHandled cfg s received ingress reads = .nothing := by
  rcases rxHandled_cases cfg s received ingress reads with
    hnothing | ⟨hport, s', length, hsame, hhandled⟩
  · exact hnothing
  · have hrxbuf : s'.port0.rxbuf = s.port0.rxbuf := congrArg (fun t => t.port0.rxbuf) hsame
    have htype := h.resolve_left (not_not.mpr hport)
    simp only [List.mem_cons, List.not_mem_nil, or_false, not_or] at htype
    rw [hhandled]
    exact rxTimingHandled_nothing cfg length reads (hrxbuf ▸ htype.1) (hrxbuf ▸ htype.2.1)
      (hrxbuf ▸ htype.2.2)

end Handled

/-! ## What a clock has from the wire -/

section Run

variable {nodes : Fin N → WiredNode}

/-- In this event clock `j` sends the Sync it counts so. -/
structure SyncPass (nodes : Fin N → WiredNode) (x : SegmentVisit F N n) (j : Fin N) (number : Nat)
    (sync : SendSyncReadings) : Prop where
  periodic : ∃ reads, x.1 = .periodic j reads ∧ reads.sync = sync ∧
    (nodes j).sendsSync (x.2.clocks j) reads = true
  number : x.2.syncs j = number
  sent : sync.sent = true

/-- A clock that sends Sync follows nobody. -/
theorem SyncPass.alone {x : SegmentVisit F N n} {j : Fin N} {number : Nat}
    {sync : SendSyncReadings} (h : SyncPass nodes x j number sync) :
    (x.2.clocks j).daemon.view.valid = false := by
  obtain ⟨reads, -, -, hsends⟩ := h.periodic
  unfold WiredNode.sendsSync WiredNode.originates at hsends
  simp only [Bool.and_eq_true, Bool.not_eq_true'] at hsends
  exact hsends.1.1.1.1.1.2

/-- The pass in which it was said. -/
inductive Said (nodes : Fin N → WiredNode) (history : List (SegmentVisit F N n)) (j : Fin N) :
    Saying → Prop where
  | announce : Said nodes history j .announce
  | sync (x : SegmentVisit F N n) (mem : x ∈ history) (number : Nat) (reads : SendSyncReadings)
      (pass : SyncPass nodes x j number reads) : Said nodes history j (.sync number reads.gettime)
  | followUp (x : SegmentVisit F N n) (mem : x ∈ history) (number : Nat)
      (reads : SendSyncReadings) (pass : SyncPass nodes x j number reads) :
      Said nodes history j (.followUp number reads.departure)

theorem Said.append {history more : List (SegmentVisit F N n)} {j : Fin N} {saying : Saying}
    (h : Said nodes history j saying) : Said nodes (history ++ more) j saying := by
  cases h with
  | announce => exact .announce
  | sync x hmem number reads hpass => exact .sync x (List.mem_append_left _ hmem) number reads hpass
  | followUp x hmem number reads hpass =>
    exact .followUp x (List.mem_append_left _ hmem) number reads hpass

/-- Each frame of a pass is said in it. -/
theorem said_periodic {history : List (SegmentVisit F N n)} {seg : Segment F N n} {i : Fin N}
    {reads : PeriodicReadings} {frame : PtpFrame}
    (hframe : frame ∈ ((nodes i).ptpPeriodicSend (seg.clocks i) reads).2) :
    Said nodes (history ++ [(.periodic i reads, seg)]) i
      (sayingOf (seg.syncs i) reads frame.message) := by
  have hmem : (.periodic i reads, seg) ∈
      history ++ [((.periodic i reads, seg) : SegmentVisit F N n)] :=
    List.mem_append_right _ List.mem_cons_self
  unfold sayingOf
  rcases ptpPeriodicSend_frames hframe with rfl | ⟨hsends, hsent, rfl | rfl⟩
  · rw [msgtype_announceMessage]
    exact .announce
  · rw [msgtype_syncMessage]
    exact .sync _ hmem _ _ ⟨⟨reads, rfl, rfl, hsends⟩, rfl, hsent⟩
  · rw [msgtype_followUpMessage]
    exact .followUp _ hmem _ _ ⟨⟨reads, rfl, rfl, hsends⟩, rfl, hsent⟩

/-- In this event clock `i` takes a frame of clock `j` that says this. -/
inductive Delivers (nodes : Fin N → WiredNode) (x : SegmentVisit F N n) (i j : Fin N)
    (saying : Saying) (rx : RxFrame n) : Prop where
  | intro (index : Nat) (delivery : Delivery) (frame : SegmentFrame N)
      (event : x.1 = .deliver i index delivery) (sent : x.2.wire[index]? = some frame)
      (sender : frame.sender = j) (tells : frame.saying = saying)
      (takes : (nodes i).takes (x.2.clocks i).daemon frame.bytes delivery = some rx)

/-- The Sync came from clock `j`, where it was this one. -/
inductive SyncArrived (nodes : Fin N → WiredNode) (history : List (SegmentVisit F N n))
    (i j : Fin N) (number : Nat) (sync : PendingSync) : Prop where
  | intro (x : SegmentVisit F N n) (rx : RxFrame n) (gettime : Timespec) (mem : x ∈ history)
      (delivers : Delivers nodes x i j (.sync number gettime) rx)
      (packet : sync.packet = PtpSync.read rx.scratch.rxbuf)
      (rxtime : sync.rxtime = rx.scratch.rxtime)
      (receivedUs : sync.receivedUs = rx.reads.sync.receivedUs)
      (tells : SaysNumber (nodes j) number sync.packet.header)

/-- Whom clock `i` has for its source, and the Sync that waits. -/
structure Heard (nodes : Fin N → WiredNode) (history : List (SegmentVisit F N n)) (i : Fin N)
    (v : SourceView) : Prop where
  announced : v.valid = true → v.source.IsAnnounce
  better : v.source.IsAnnounce → ∃ j, announceRank v.source = announceRank (nodes j).ownIdentity ∧
    announceRank (nodes j).ownIdentity < announceRank (nodes i).ownIdentity
  waiting : ∀ sync, v.pending = some sync → ∃ j number, SyncArrived nodes history i j number sync
  current : ∀ sync, v.pending = some sync → v.source.IsAnnounce →
    sync.packet.header.sourcePort = v.source.header.sourcePort

theorem SyncArrived.append {history more : List (SegmentVisit F N n)} {i j : Fin N} {number : Nat}
    {sync : PendingSync} (h : SyncArrived nodes history i j number sync) :
    SyncArrived nodes (history ++ more) i j number sync := by
  obtain ⟨x, rx, gettime, hmem, hdelivers, hpacket, hrxtime, hreceived, htells⟩ := h
  exact ⟨x, rx, gettime, List.mem_append_left _ hmem, hdelivers, hpacket, hrxtime, hreceived,
    htells⟩

namespace Heard

variable {history : List (SegmentVisit F N n)} {i : Fin N} {v v' : SourceView}
  {x : SegmentVisit F N n}

/-- Nothing new is heard: the Sync waits still, or no longer, and the source is the same, or
    none. -/
theorem change (h : Heard nodes history i v)
    (hpending : v'.pending = v.pending ∨ v'.pending = none)
    (hvalid : v'.valid = true → v'.source.IsAnnounce)
    (hsource : v'.source.IsAnnounce → v'.source = v.source) :
    Heard nodes (history ++ [x]) i v' := by
  have hwas : ∀ sync, v'.pending = some sync → v.pending = some sync := by
    intro sync hsync
    rcases hpending with hsame | hnone
    · rw [← hsame]
      exact hsync
    · rw [hnone] at hsync
      cases hsync
  refine ⟨hvalid, ?_, ?_, ?_⟩
  · intro hannounce
    have hsame := hsource hannounce
    rw [hsame] at hannounce ⊢
    exact h.better hannounce
  · intro sync hsync
    obtain ⟨j, number, harrived⟩ := h.waiting sync (hwas sync hsync)
    exact ⟨j, number, harrived.append⟩
  · intro sync hsync hannounce
    have hsame := hsource hannounce
    rw [hsame] at hannounce ⊢
    exact h.current sync (hwas sync hsync) hannounce

theorem kept (h : Heard nodes history i v) (hkept : SelectionKept v v') :
    Heard nodes (history ++ [x]) i v' := by
  apply h.change (.inl hkept.pending)
  · rw [hkept.valid, hkept.source]
    exact h.announced
  · intro _
    exact hkept.source

theorem profileEffect (h : Heard nodes history i v) (heffect : ProfileEffect v v') :
    Heard nodes (history ++ [x]) i v' := by
  rcases heffect with rfl | ⟨profile, rfl⟩
  · exact h.kept .rfl
  · apply h.change (.inr rfl)
    · intro hvalid
      cases hvalid
    · intro hannounce
      exact absurd hannounce not_isAnnounce_default

variable [CDouble F]

/-- A frame that is handled as nothing. -/
theorem ignored {s : PtpState F n} {frame : RxFrame n} {cfg : Config}
    (h : Heard nodes history i s.view) (hnothing : frame.handled cfg s = .nothing) :
    Heard nodes (history ++ [x]) i (s.receive cfg frame).view := by
  have heffect := receive_effect cfg s frame
  rw [hnothing] at heffect
  cases heffect with
  | kept hview =>
    rw [hview]
    exact h.kept .rfl
  | cleared hview =>
    rw [hview]
    exact h.change (.inr rfl) h.announced fun _ => rfl
  | dropped hview =>
    rw [hview]
    refine h.change (.inl rfl) ?_ ?_
    · intro hvalid
      cases hvalid
    · intro hannounce
      exact absurd hannounce not_isAnnounce_default

/-- Whatever else a clock does. -/
theorem aside {s : PtpState F n} {cfg : Config} (h : Heard nodes history i s.view)
    {e : DaemonEvent F n} (haside : e.IsAside) :
    Heard nodes (history ++ [x]) i (e.apply cfg s).view := by
  cases e with
  | received frame =>
    have hnothing : frame.handled cfg s = .nothing := by
      apply rxHandled_aside
      rw [load_rxbuf]
      exact haside.elsewhere frame rfl
    exact h.ignored hnothing
  | capability times =>
    show Heard nodes (history ++ [x]) i (checkCapability cfg s times).view
    rw [checkCapability_view]
    split
    · refine h.change (.inr rfl) ?_ fun _ => rfl
      intro hvalid
      cases hvalid
    · exact h.kept .rfl
  | validity times =>
    show Heard nodes (history ++ [x]) i (revalidate cfg s times).view
    rw [revalidate_view]
    exact h.change (.inl rfl) isSelectedSourceValid_isAnnounce fun _ => rfl
  | fallback nowUs dropping => exact h.profileEffect (ptpCheckProfileFallback_view ..)
  | armFallback => exact h.profileEffect (ptpArmProfileFallback_view ..)
  | setProfile profile => exact h.profileEffect (ptpdSetProfile_view ..)
  | injectSync p message times => exact absurd trivial haside.noInjection
  | localSource _ | gmFields | injectSyncPair | ftmObserved | elsewhere _ =>
    exact h.kept (indifferent_kept cfg s rfl)

/-- A frame of the segment. What it says decides what the handlers can make of it. -/
theorem received {s : PtpState F n} {rx : RxFrame n} {j : Fin N} {saying : Saying}
    {message rest : Bytes} (h : Heard nodes history i s.view)
    (hown : s.ownIdentity = (nodes i).ownIdentity)
    (hdelivers : Delivers nodes x i j saying rx)
    (hbuf : rx.scratch.rxbuf = message ++ rest) (htells : (nodes j).Says message saying) :
    Heard nodes (history ++ [x]) i (s.receive (nodes i).cfg rx).view := by
  have heffect := receive_effect (nodes i).cfg s rx
  have hnone : ∀ w : SourceView, w.pending = none → (w.valid = true → w.source.IsAnnounce) →
      w.source = s.view.source → Heard nodes (history ++ [x]) i w := by
    intro w hpending hannounced hsource
    exact h.change (.inr hpending) hannounced fun _ => hsource
  cases hhandled : rx.handled (nodes i).cfg s with
  | nothing => exact h.ignored hhandled
  | announce msg =>
    obtain ⟨htype, hmsg, hbetter⟩ := rxHandled_announce hhandled
    rw [load_rxbuf, hbuf] at htype hmsg
    rw [show (s.load rx).ownIdentity = s.ownIdentity from rfl, hown, isBetterClock_iff] at hbetter
    -- It is the Announce of its sender, which is better than this clock.
    have hrank : announceRank msg = announceRank (nodes j).ownIdentity := by
      cases saying with
      | announce =>
        rw [hmsg]
        exact (htells rest).rank
      | sync number gettime =>
        rw [(htells rest).type] at htype
        cases htype
      | followUp number departure =>
        rw [(htells rest).type] at htype
        cases htype
    rw [hhandled] at heffect
    cases heffect with
    | accepted _ receipt changed hannounce hreceipt hchanged hview =>
      rw [hview]
      -- A change of source drops the Sync that waits; else that is of the same source still.
      refine ⟨fun _ => hannounce, fun _ => ⟨j, hrank, hrank ▸ hbetter⟩, ?_, ?_⟩
      · intro sync hsync
        cases changed with
        | true => cases hsync
        | false =>
          obtain ⟨k, number, harrived⟩ := h.waiting sync hsync
          exact ⟨k, number, harrived.append⟩
      · intro sync hsync _
        cases changed with
        | true => cases hsync
        | false =>
          obtain ⟨hvalid, hport⟩ := hchanged rfl
          exact (h.current sync hsync (h.announced hvalid)).trans hport.symm
  | sync msg =>
    obtain ⟨htype, hmsg⟩ := rxHandled_sync hhandled
    rw [load_rxbuf, hbuf] at htype hmsg
    rw [hhandled] at heffect
    cases heffect with
    | waits _ hvalid hport htwo hview =>
      have harrived : ∃ number gettime, saying = .sync number gettime := by
        cases saying with
        | announce =>
          rw [(htells rest).type] at htype
          cases htype
        | sync number gettime => exact ⟨number, gettime, rfl⟩
        | followUp number departure =>
          rw [(htells rest).type] at htype
          cases htype
      obtain ⟨number, gettime, rfl⟩ := harrived
      rw [hview]
      refine ⟨h.announced, h.better, ?_, ?_⟩
      · intro sync hsync
        cases hsync
        refine ⟨j, number, x, rx, gettime, List.mem_append_right _ List.mem_cons_self, hdelivers,
          ?_, rfl, rfl, ?_⟩
        · rw [hbuf]
          exact hmsg
        · rw [show (PendingSync.mk msg rx.scratch.rxtime rx.reads.sync.receivedUs).packet = msg
            from rfl, hmsg]
          exact (htells rest).numbered
      · intro sync hsync _
        cases hsync
        exact hport
    | stepped _ hvalid hport htwo hupdated =>
      -- A one-step Sync sets the clock at once and leaves nothing waiting.
      have hkept := hupdated.selectionKept
      refine hnone _ hkept.pending ?_ hkept.source
      rw [hkept.valid, hkept.source]
      exact h.announced
  | followUp msg =>
    rw [hhandled] at heffect
    cases heffect with
    | followed _ sync receipt timing hvalid hpending hfollows hreceipt htiming hview =>
      rw [hview]
      exact hnone _ rfl h.announced rfl

end Heard

/-! ## What holds in every run -/

/-- The invariant of a segment. -/
structure SegmentInv (nodes : Fin N → WiredNode) (history : List (SegmentVisit F N n))
    (seg : Segment F N n) : Prop where
  ownIdentity : ∀ i, (seg.clocks i).daemon.ownIdentity = (nodes i).ownIdentity
  numbered : ∀ i, (seg.clocks i).daemon.syncSeq = UInt16.ofNat (seg.syncs i)
  wire : ∀ frame ∈ seg.wire, frame.Sound nodes
  said : ∀ frame ∈ seg.wire, Said nodes history frame.sender frame.saying
  heard : ∀ i, Heard nodes history i (seg.clocks i).daemon.view

namespace SegmentInv

variable {history : List (SegmentVisit F N n)} {seg : Segment F N n}

theorem start (h : seg.Fresh nodes) : SegmentInv nodes ([] : List (SegmentVisit F N n)) seg where
  ownIdentity := h.ownIdentity
  numbered i := by
    rw [h.syncSeq i, h.syncs i]
    rfl
  wire := by
    rw [h.wire]
    intro frame hframe
    cases hframe
  said := by
    rw [h.wire]
    intro frame hframe
    cases hframe
  heard i := by
    have hnot : ¬ (seg.clocks i).daemon.view.source.IsAnnounce := by
      rw [h.source i]
      exact not_isAnnounce_default
    refine ⟨?_, fun hannounce => absurd hannounce hnot, ?_, ?_⟩
    · rw [h.valid i]
      intro hvalid
      cases hvalid
    · rw [h.pending i]
      intro sync hsync
      cases hsync
    · rw [h.pending i]
      intro sync hsync
      cases hsync

theorem unchanged (h : SegmentInv nodes history seg) {x : SegmentVisit F N n} :
    SegmentInv nodes (history ++ [x]) seg :=
  ⟨h.ownIdentity, h.numbered, h.wire, fun frame hframe => (h.said frame hframe).append,
    fun i => (h.heard i).kept .rfl⟩

/-- A step of one clock that draws no number and sends nothing. -/
theorem withDaemon (h : SegmentInv nodes history seg) (i : Fin N) {daemon : PtpState F n}
    {x : SegmentVisit F N n} (hnumbers : daemon.numbers = (seg.clocks i).daemon.numbers)
    (hheard : Heard nodes (history ++ [x]) i daemon.view) :
    SegmentInv nodes (history ++ [x]) (seg.withDaemon i daemon) := by
  have hown : daemon.ownIdentity = (seg.clocks i).daemon.ownIdentity :=
    congrArg TransmitNumbers.ownIdentity hnumbers
  have hseq : daemon.syncSeq = (seg.clocks i).daemon.syncSeq :=
    congrArg TransmitNumbers.syncSeq hnumbers
  have hclock : ∀ k, ((seg.withDaemon i daemon).clocks k).daemon =
      if k = i then daemon else (seg.clocks k).daemon := by
    intro k
    unfold Segment.withDaemon
    by_cases hk : k = i
    · subst hk
      simp
    · simp [hk]
  refine ⟨?_, ?_, h.wire, fun frame hframe => (h.said frame hframe).append, ?_⟩
  · intro k
    rw [hclock]
    split
    · rename_i hk
      rw [hk, hown]
      exact h.ownIdentity i
    · exact h.ownIdentity k
  · intro k
    rw [hclock]
    split
    · rename_i hk
      rw [hk, hseq]
      exact h.numbered i
    · exact h.numbered k
  · intro k
    rw [hclock]
    split
    · rename_i hk
      rw [hk]
      exact hheard
    · exact (h.heard k).kept .rfl

/-- A clock's turn to send. -/
theorem periodic (h : SegmentInv nodes history seg) (i : Fin N) (reads : PeriodicReadings) :
    SegmentInv nodes (history ++ [(.periodic i reads, seg)]) (seg.periodic (nodes i) i reads) := by
  obtain ⟨hown, hview, hseq⟩ := ptpPeriodicSend_numbers (nodes i) (seg.clocks i) reads
  have hclock : ∀ k, (seg.periodic (nodes i) i reads).clocks k =
      if k = i then ((nodes i).ptpPeriodicSend (seg.clocks i) reads).1 else seg.clocks k := by
    intro k
    unfold Segment.periodic
    by_cases hk : k = i
    · subst hk
      simp
    · simp [hk]
  have hsyncs : ∀ k, (seg.periodic (nodes i) i reads).syncs k =
      seg.syncs k +
        if k = i ∧ (nodes i).sendsSync (seg.clocks i) reads = true then 1 else 0 := by
    intro k
    unfold Segment.periodic
    by_cases hk : k = i
    · subst hk
      simp
    · simp [hk]
  refine ⟨?_, ?_, ?_, ?_, ?_⟩
  · intro k
    rw [hclock]
    split
    · rename_i hk
      rw [hk, hown]
      exact h.ownIdentity i
    · exact h.ownIdentity k
  · intro k
    rw [hclock, hsyncs]
    split
    · rename_i hk
      subst hk
      rw [hseq, h.numbered k, UInt16.ofNat_add]
      simp
    · rename_i hk
      simp [hk, h.numbered k]
  · intro frame hframe
    rcases List.mem_append.mp hframe with hbefore | hsent
    · exact h.wire frame hbefore
    · obtain ⟨message, hmessage, rfl⟩ := List.mem_map.mp hsent
      exact ptpPeriodicSend_sound (h.ownIdentity i) (h.numbered i) hmessage
  · intro frame hframe
    rcases List.mem_append.mp hframe with hbefore | hsent
    · exact (h.said frame hbefore).append
    · obtain ⟨message, hmessage, rfl⟩ := List.mem_map.mp hsent
      exact said_periodic hmessage
  · intro k
    rw [hclock]
    split
    · rename_i hk
      subst hk
      rw [hview]
      exact (h.heard k).kept .rfl
    · exact (h.heard k).kept .rfl

variable [CDouble F]

/-- **One event keeps the invariant.** -/
theorem step (h : SegmentInv nodes history seg) (e : SegmentEvent F N n) :
    SegmentInv nodes (history ++ [(e, seg)]) (seg.act nodes e) := by
  cases e with
  | periodic i reads => exact h.periodic i reads
  | aside i e =>
    refine h.withDaemon i ?_ ((h.heard i).aside e.property)
    exact apply_numbers _ _ e.property.noInjection e.property.numbers
  | deliver i index delivery =>
    unfold Segment.act
    dsimp only
    cases hsent : seg.wire[index]? with
    | none =>
      exact h.unchanged
    | some frame =>
      have hsound := h.wire frame (List.mem_of_getElem? hsent)
      dsimp only
      unfold WiredNode.receive
      cases htakes : (nodes i).takes (seg.clocks i).daemon frame.bytes delivery with
      | none =>
        -- The frame is for another: the receive stamp is all that it touches.
        refine h.withDaemon i rfl ?_
        dsimp only
        rw [PtpState.view_withPort0 _ (by rfl)]
        exact (h.heard i).kept .rfl
      | some rx =>
        obtain ⟨-, -, -, message, rest, hbuf, htells⟩ := hsound.takes htakes
        refine h.withDaemon i (receive_numbers ..) ?_
        exact (h.heard i).received (h.ownIdentity i)
          ⟨index, delivery, frame, rfl, hsent, rfl, rfl, htakes⟩ hbuf htells

/-- It holds in every run. -/
theorem run {seg₀ : Segment F N n} (hfresh : seg₀.Fresh nodes)
    (events : List (SegmentEvent F N n)) :
    SegmentInv nodes (trace (segmentStep nodes) seg₀ events)
      (Lib.run (segmentStep nodes) seg₀ events) := by
  apply run_induction
  · exact start hfresh
  · intro history seg e h
    exact h.step e

end SegmentInv

end Run

end EspPtp
