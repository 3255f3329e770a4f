import EspPtp.Link.SegmentRun

/-!
# Who follows whom

On a segment every clock follows a better one, so nobody follows himself, through however many
others. And what a clock is set by is what the clock it follows sent: the time a Sync left it, at
the time that Sync came, and the two are of one Sync as far as sixteen bits tell.
-/

namespace EspPtp

open Lib

variable {F : Type} {N n : Nat}

/-- A clock's identity is its address. -/
theorem clockIdentityOf_injective {a b : MacAddr} (h : clockIdentityOf a = clockIdentityOf b) :
    a = b := by
  have hlist : ([a[0]!, a[1]!, a[2]!, 0xff, 0xfe, a[3]!, a[4]!, a[5]!] : Bytes) =
      [b[0]!, b[1]!, b[2]!, 0xff, 0xfe, b[3]!, b[4]!, b[5]!] := congrArg Vector.toList h
  simp only [List.cons.injEq] at hlist
  obtain ⟨h0, h1, h2, -, -, h3, h4, h5, -⟩ := hlist
  have hat : ∀ i, i < 6 → a[i]! = b[i]! := by
    intro i hi
    have hcases : i = 0 ∨ i = 1 ∨ i = 2 ∨ i = 3 ∨ i = 4 ∨ i = 5 := by omega
    rcases hcases with rfl | rfl | rfl | rfl | rfl | rfl <;> assumption
  apply Vector.ext
  intro i hi
  rw [← getElem!_pos a i hi, ← getElem!_pos b i hi]
  exact hat i hi

/-- No two clocks have one address. -/
def Distinct (nodes : Fin N → WiredNode) : Prop :=
  ∀ i j, (nodes i).intfHwAddr = (nodes j).intfHwAddr → i = j

theorem Distinct.port {nodes : Fin N → WiredNode} (h : Distinct nodes) {i j : Fin N}
    (hport : (nodes i).port = (nodes j).port) : i = j := by
  apply h
  apply clockIdentityOf_injective
  unfold WiredNode.port at hport
  exact congrArg PortIdentity.clock hport

/-- Clock `i` has clock `j` for its source. -/
structure Segment.Follows (nodes : Fin N → WiredNode) (seg : Segment F N n) (i j : Fin N) :
    Prop where
  valid : (seg.clocks i).daemon.selectedSourceValid = true
  source : (seg.clocks i).daemon.selectedSource.header.sourcePort = (nodes j).port

/-- The clock a segment's clock follows is better than it. -/
theorem Heard.follows_better {nodes : Fin N → WiredNode} (hdistinct : Distinct nodes)
    {history : List (SegmentVisit F N n)} {i j : Fin N} {seg : Segment F N n}
    (h : Heard nodes history i (seg.clocks i).daemon.view) (hfollows : seg.Follows nodes i j) :
    announceRank (nodes j).ownIdentity < announceRank (nodes i).ownIdentity := by
  obtain ⟨k, hrank, hbetter⟩ := h.better (h.announced hfollows.valid)
  have hport : (nodes k).port = (nodes j).port := by
    rw [← (nodes k).sourcePort_ownIdentity, ← announceRank_sourcePort hrank]
    exact hfollows.source
  rw [← hdistinct.port hport]
  exact hbetter

/-! ## Two clocks -/

namespace Sample

/-- The first of two clocks, and the second. -/
def firstClock : Fin 2 := ⟨0, Nat.zero_lt_two⟩
def secondClock : Fin 2 := ⟨1, Nat.one_lt_two⟩

/-- They differ in their address. -/
def segmentNodes (i : Fin 2) : WiredNode where
  cfg := Sample.config
  twostepSync := true
  intfHwAddr := Vector.replicate 6 (if i.val = 0 then 0x21 else 0x22)
  priority1 := 128
  clockClass := 248
  accuracy := 0xfe
  priority2 := 128
  clocksource := 0xa0

/-- A clock that has just been started, in the standard profile. -/
def segmentDaemon (node : WiredNode) : PtpState ℚ 0 :=
  { (default : PtpState ℚ 0) with
    activePtpProfile := .standard
    ownIdentity := node.ownIdentity
    ports := fun _ =>
      { (default : PtpPort ℚ) with
        medium := .ethHwts
        enabled := true
        linkUp := true
        socketOpen := true } }

def segment : Segment ℚ 2 0 where
  clocks i := ⟨segmentDaemon (segmentNodes i), ⟨0, 0⟩, ⟨0, 0⟩⟩
  syncs _ := 0
  wire := []

theorem segment_fresh : segment.Fresh segmentNodes where
  ownIdentity _ := rfl
  syncSeq _ := rfl
  source _ := rfl
  valid _ := rfl
  pending _ := rfl
  syncs _ := rfl
  wire := rfl

theorem segmentNodes_distinct : Distinct segmentNodes := by
  unfold Distinct
  decide

/-- The selected source is judged. -/
theorem validity_isAside : (DaemonEvent.validity default : DaemonEvent ℚ 0).IsAside where
  noInjection := id
  noPair := by
    intro p remoteNs localNs times h
    cases h
  numbers := by
    intro other h
    cases h
  elsewhere := by
    intro frame h
    cases h

/-- The first clock announces itself and sends a Sync, the second hears all of it. -/
def exchanged : List (SegmentEvent ℚ 2 0) :=
  [.periodic firstClock
      { (default : PeriodicReadings) with
        mono := ⟨10, 0⟩
        announceSent := true
        sync := ⟨⟨10, 1⟩, true, some ⟨10, 5⟩, true⟩ },
    .deliver secondClock 0 ⟨[], none, default⟩,
    .aside secondClock ⟨.validity default, validity_isAside⟩,
    .deliver secondClock 1 ⟨[], some ⟨7, 7⟩, default⟩,
    .deliver secondClock 2 ⟨[], none, default⟩]

end Sample

/-! ## No loop -/

variable [CDouble F]

/-- **There is no timing loop, whatever is lost, repeated or delayed.** -/
theorem no_timing_loop {nodes : Fin N → WiredNode} (hdistinct : Distinct nodes)
    {seg₀ : Segment F N n} (hfresh : seg₀.Fresh nodes) (events : List (SegmentEvent F N n))
    (i : Fin N) :
    ¬ Relation.TransGen ((run (segmentStep nodes) seg₀ events).Follows nodes) i i := by
  have hinv := SegmentInv.run hfresh events
  have hless : ∀ {a b : Fin N},
      Relation.TransGen ((run (segmentStep nodes) seg₀ events).Follows nodes) a b →
        announceRank (nodes b).ownIdentity < announceRank (nodes a).ownIdentity := by
    intro a b hab
    induction hab with
    | single hfollows => exact (hinv.heard a).follows_better hdistinct hfollows
    | tail _ hfollows ih => exact lt_trans ((hinv.heard _).follows_better hdistinct hfollows) ih
  intro hloop
  exact lt_irrefl _ (hless hloop)

/-- The second clock follows the first. -/
theorem no_timing_loop_exchanged :
    (run (segmentStep Sample.segmentNodes) Sample.segment Sample.exchanged).Follows
        Sample.segmentNodes Sample.secondClock Sample.firstClock ∧
      ¬ Relation.TransGen
        ((run (segmentStep Sample.segmentNodes) Sample.segment Sample.exchanged).Follows
          Sample.segmentNodes) Sample.secondClock Sample.secondClock :=
  ⟨⟨by decide +kernel, by decide +kernel⟩,
    no_timing_loop Sample.segmentNodes_distinct Sample.segment_fresh Sample.exchanged
      Sample.secondClock⟩

/-! ## What sets a clock -/

/-- What a clock is set by in this event, when it follows clock `j`. -/
inductive Learns (nodes : Fin N → WiredNode) (history : List (SegmentVisit F N n))
    (x : SegmentVisit F N n) (i j : Fin N) : ClockCall → Prop where
  /-- The time `j` read before it sent a Sync, at the time that came. -/
  | oneStep (number : Nat) (gettime : Timespec) (rx : RxFrame n)
      (delivers : Delivers nodes x i j (.sync number gettime) rx)
      (said : Said nodes history j (.sync number gettime))
      (oneStep : (nodes j).twoStep = false) :
      Learns nodes history x i j
        ⟨ptpFormatToTimespec (timespecToPtpFormat (nodes j).cfg gettime), rx.scratch.rxtime⟩
  /-- The time a Sync left `j`, at the time a Sync came that has its number, not a second
      before. -/
  | twoStep (number waiting : Nat) (departure gettime : Timespec) (rx earlier : RxFrame n)
      (y : SegmentVisit F N n)
      (delivers : Delivers nodes x i j (.followUp number departure) rx)
      (said : Said nodes history j (.followUp number departure))
      (before : y ∈ history) (arrived : Delivers nodes y i j (.sync waiting gettime) earlier)
      (same : waiting % 2 ^ 16 = number % 2 ^ 16)
      (notBefore : earlier.reads.sync.receivedUs ≤ rx.reads.followup.nowUs)
      (inTime : rx.reads.followup.nowUs - earlier.reads.sync.receivedUs ≤ 1000000) :
      Learns nodes history x i j
        ⟨ptpFormatToTimespec (timespecToPtpFormat (nodes j).cfg departure),
          earlier.scratch.rxtime⟩

/-- A clock that is set in this event is set by what a better clock sent, which it follows. -/
def SetsClock (nodes : Fin N → WiredNode) (history : List (SegmentVisit F N n))
    (x : SegmentVisit F N n) : Prop :=
  ∀ i, ((x.2.act nodes x.1).clocks i).daemon.clockUpdates ≠
      (x.2.clocks i).daemon.clockUpdates →
    ∃ j saying rx u, Delivers nodes x i j saying rx ∧
      rx.update (nodes i).cfg (x.2.clocks i).daemon = some u ∧ x.2.Follows nodes i j ∧
      announceRank (nodes j).ownIdentity < announceRank (nodes i).ownIdentity ∧
      Learns nodes history x i j u.call

/-- Numbers that are one in sixteen bits. -/
theorem ofNat_succ_mod {a b : Nat} (h : UInt16.ofNat (a + 1) = UInt16.ofNat (b + 1)) :
    a % 2 ^ 16 = b % 2 ^ 16 := by
  have hnat := congrArg UInt16.toNat h
  rw [UInt16.toNat_ofNat', UInt16.toNat_ofNat'] at hnat
  omega

/-- An update that a frame of the segment makes. -/
theorem SegmentInv.learns {nodes : Fin N → WiredNode} (hdistinct : Distinct nodes)
    {history : List (SegmentVisit F N n)} {seg : Segment F N n}
    (h : SegmentInv nodes history seg) {e : SegmentEvent F N n} {i j : Fin N} {saying : Saying}
    {rx : RxFrame n} {u : ClockUpdate F n} (hdelivers : Delivers nodes (e, seg) i j saying rx)
    (hu : rx.update (nodes i).cfg (seg.clocks i).daemon = some u) :
    seg.Follows nodes i j ∧ Learns nodes history (e, seg) i j u.call := by
  obtain ⟨index, delivery, frame, hevent, hsent, hsender, hsaying, htakes⟩ := id hdelivers
  have hmem := List.mem_of_getElem? hsent
  have hsaid := h.said frame hmem
  obtain ⟨-, -, -, message, rest, hbuf, hmeaning⟩ := (h.wire frame hmem).takes htakes
  rw [hsender, hsaying] at hsaid hmeaning
  have hheard := h.heard i
  rcases rxClockUpdate_some _ _ _ _ _ hu with ⟨hsync, hcall⟩ | ⟨hfollowUp, hcall⟩
  · -- A one-step Sync: only a build without Follow_Ups sends such.
    have htype := hsync.type
    have hone := hsync.oneStep
    have hsource := hsync.source
    rw [load_rxbuf, hbuf] at htype hone hsource hcall
    cases saying with
    | announce =>
      rw [(hmeaning rest).type] at htype
      cases htype
    | followUp number departure =>
      rw [(hmeaning rest).type] at htype
      cases htype
    | sync number gettime =>
      have hmeant := hmeaning rest
      have hbuild : (nodes j).twoStep = false := hmeant.steps.symm.trans hone
      refine ⟨⟨?_, ?_⟩, ?_⟩
      · exact ignoresSync_valid hsync.heeded
      · exact hsource.symm.trans hmeant.numbered.port
      · rw [hcall, show originTimestamp (message ++ rest) = _ from hmeant.origin hbuild]
        exact .oneStep number gettime rx hdelivers hsaid hbuild
  · -- A Follow_Up, with the Sync that waits.
    have htype := hfollowUp.type
    rw [load_rxbuf, hbuf] at htype hcall
    have hvalid := ignoresSync_valid hfollowUp.heeded
    obtain ⟨sync, hpending, hfollows, hrxtime⟩ := followupAccepted_pending hfollowUp.accepted
    rw [load_view] at hpending hvalid
    rw [load_rxbuf, hbuf] at hfollows
    cases saying with
    | announce =>
      rw [(hmeaning rest).type] at htype
      cases htype
    | sync number gettime =>
      rw [(hmeaning rest).type] at htype
      cases htype
    | followUp number departure =>
      have hmeant := hmeaning rest
      obtain ⟨k, waiting, y, earlier, gettime, hbefore, harrived, -, htime, hreceived, hnumber⟩ :=
        hheard.waiting sync hpending
      have hsource := hheard.current sync hpending (hheard.announced hvalid)
      -- The Sync that waits is of the clock that sent the Follow_Up.
      have hsame : k = j := by
        apply hdistinct.port
        rw [← hnumber.port, ← hmeant.numbered.port]
        exact hfollows.port.symm
      subst hsame
      refine ⟨⟨hvalid, hsource.symm.trans hnumber.port⟩, ?_⟩
      have hcallIs : u.call = ⟨ptpFormatToTimespec (timespecToPtpFormat (nodes k).cfg departure),
          earlier.scratch.rxtime⟩ := by
        rw [hcall, ← htime, hrxtime,
          show originTimestamp (message ++ rest) = _ from hmeant.origin]
      rw [hcallIs]
      refine .twoStep number waiting departure gettime rx earlier y hdelivers hsaid hbefore
        harrived ?_ ?_ ?_
      · apply ofNat_succ_mod
        rw [← hnumber.sequence, ← hmeant.numbered.sequence]
        exact hfollows.sequence.symm
      · rw [← hreceived]
        exact hfollows.notBefore
      · rw [← hreceived]
        exact hfollows.inTime

omit [CDouble F] in
theorem ProfileEffect.clockUpdates {v v' : SourceView} (h : ProfileEffect v v') :
    v'.clockUpdates = v.clockUpdates := by
  cases h with
  | kept h => rw [h]
  | reset profile h =>
    rw [h]
    rfl

omit [CDouble F] in
theorem Filled.clockUpdates {v v' : SourceView} (h : Filled v v') :
    v'.clockUpdates = v.clockUpdates := by
  rw [h.frame]

/-- What a clock does besides the frames of the segment leaves its time alone. -/
theorem aside_clockUpdates (cfg : Config) (s : PtpState F n) {e : DaemonEvent F n}
    (haside : e.IsAside) : (e.apply cfg s).view.clockUpdates = s.view.clockUpdates := by
  cases e with
  | received frame =>
    have hnothing : frame.handled cfg s = .nothing := by
      apply rxHandled_aside
      rw [load_rxbuf]
      exact haside.elsewhere frame rfl
    apply (receive_effect cfg s frame).clockUpdates <;> simp [hnothing]
  | capability times =>
    show (checkCapability cfg s times).view.clockUpdates = _
    rw [checkCapability_view]
    split <;> rfl
  | validity times =>
    show (revalidate cfg s times).view.clockUpdates = _
    rw [revalidate_view]
  | fallback nowUs dropping => exact (ptpCheckProfileFallback_view ..).clockUpdates
  | armFallback => exact (ptpArmProfileFallback_view ..).clockUpdates
  | setProfile profile => exact (ptpdSetProfile_view ..).clockUpdates
  | injectSync p message times => exact absurd trivial haside.noInjection
  | injectSyncPair p remoteNs localNs times => exact absurd rfl (haside.noPair _ _ _ _)
  | localSource answers =>
    show (ptpPublishLocalSource cfg s answers).view.clockUpdates = _
    rcases ptpPublishLocalSource_view cfg s answers with
      h | ⟨-, h⟩ | ⟨v₁, snapshot, -, hfilled, -, -, h⟩
    · rw [h]
    · rw [h]
    · rw [h]
      exact hfilled.clockUpdates
  | gmFields => exact (ptpFillGmFields_view s).clockUpdates
  | ftmObserved p identity domain logInterval receivedUs nowUs mono =>
    show (ptpdFtmSourceObserved ..).view.clockUpdates = _
    rcases ptpdFtmSourceObserved_view cfg s p identity domain logInterval receivedUs nowUs mono
      with h | ⟨-, receipt, -, h⟩
    · rw [h]
    · rw [h]
  | elsewhere other => exact congrArg SourceView.clockUpdates (other.view s)

/-- A clock is set only by a frame it takes. -/
theorem act_clockUpdates (nodes : Fin N → WiredNode) (seg : Segment F N n)
    (e : SegmentEvent F N n) (i : Fin N)
    (h : ((seg.act nodes e).clocks i).daemon.clockUpdates ≠ (seg.clocks i).daemon.clockUpdates) :
    ∃ j saying rx u, Delivers nodes (e, seg) i j saying rx ∧
      rx.update (nodes i).cfg (seg.clocks i).daemon = some u := by
  cases e with
  | periodic k reads =>
    exfalso
    apply h
    unfold Segment.act Segment.periodic
    dsimp only
    by_cases hk : i = k
    · subst hk
      rw [Function.update_self]
      exact congrArg SourceView.clockUpdates
        (ptpPeriodicSend_numbers (nodes i) (seg.clocks i) reads).2.1
    · rw [Function.update_of_ne hk]
  | aside k e =>
    exfalso
    apply h
    unfold Segment.act Segment.withDaemon
    dsimp only
    by_cases hk : i = k
    · subst hk
      rw [Function.update_self]
      exact aside_clockUpdates (nodes i).cfg (seg.clocks i).daemon e.property
    · rw [Function.update_of_ne hk]
  | deliver k index delivery =>
    unfold Segment.act at h
    dsimp only at h
    cases hsent : seg.wire[index]? with
    | none =>
      rw [hsent] at h
      exact absurd rfl h
    | some frame =>
      rw [hsent] at h
      unfold Segment.withDaemon at h
      dsimp only at h
      by_cases hk : i = k
      · subst hk
        rw [Function.update_self] at h
        unfold WiredNode.receive at h
        cases htakes : (nodes i).takes (seg.clocks i).daemon frame.bytes delivery with
        | none =>
          rw [htakes] at h
          exact absurd rfl h
        | some rx =>
          rw [htakes] at h
          have hcalls := ptpProcessRxPacket_calls (nodes i).cfg ((seg.clocks i).daemon.load rx)
            rx.received rx.ingress rx.reads
          cases hu : rx.update (nodes i).cfg (seg.clocks i).daemon with
          | none =>
            have hcount := hcalls.counted
            rw [show rxClockUpdate _ _ _ _ _ = none from hu] at hcount
            exact absurd (hcount.trans (UInt32.add_zero _)) h
          | some u =>
            exact ⟨frame.sender, frame.saying, rx, u,
              ⟨index, delivery, frame, rfl, hsent, rfl, rfl, htakes⟩, hu⟩
      · rw [Function.update_of_ne hk] at h
        exact absurd rfl h

/-- What a run keeps. -/
structure SegmentRun (nodes : Fin N → WiredNode) (history : List (SegmentVisit F N n))
    (seg : Segment F N n) : Prop where
  inv : SegmentInv nodes history seg
  sets : Always (SetsClock nodes) history

/-- **In every run of a segment, a clock is set only by what a better clock sent, which it
    follows**: by when a Sync left it, at when that Sync, or one of the same number, came. -/
theorem clocks_set_by_sent {nodes : Fin N → WiredNode} (hdistinct : Distinct nodes)
    {seg₀ : Segment F N n} (hfresh : seg₀.Fresh nodes) (events : List (SegmentEvent F N n)) :
    Always (SetsClock nodes) (trace (segmentStep nodes) seg₀ events) := by
  have hrun : SegmentRun nodes (trace (segmentStep nodes) seg₀ events)
      (run (segmentStep nodes) seg₀ events) := by
    apply run_induction
    · exact ⟨.start hfresh, .nil⟩
    · intro history seg e h
      refine ⟨h.inv.step e, h.sets.snoc ?_⟩
      intro i hset
      obtain ⟨j, saying, rx, u, hdelivers, hu⟩ := act_clockUpdates nodes seg e i hset
      obtain ⟨hfollows, hlearns⟩ := h.inv.learns hdistinct hdelivers hu
      exact ⟨j, saying, rx, u, hdelivers, hu, hfollows,
        (h.inv.heard i).follows_better hdistinct hfollows, hlearns⟩
  exact hrun.sets

/-- The second clock is set once. -/
theorem clocks_set_by_sent_exchanged :
    Always (SetsClock Sample.segmentNodes)
        (trace (segmentStep Sample.segmentNodes) Sample.segment Sample.exchanged) ∧
      ((run (segmentStep Sample.segmentNodes) Sample.segment
        Sample.exchanged).clocks Sample.secondClock).daemon.clockUpdates = 1 :=
  ⟨clocks_set_by_sent Sample.segmentNodes_distinct Sample.segment_fresh Sample.exchanged,
    by decide +kernel⟩

end EspPtp
