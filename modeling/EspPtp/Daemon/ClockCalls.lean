import EspPtp.Daemon.Arrival
import EspPtp.Daemon.Run
import EspPtp.Wire.Timestamp

/-!
# What moves the clock

Of all a received frame can do, calling `ptp_update_local_clock` is what matters to the
time of this clock. Two handlers call it: the one of Sync, with the origin timestamp of a
one-step Sync, and the one of Follow_Up. `rxClockUpdate` is the call a frame makes, read off
the handlers, and `ptpProcessRxPacket_update` that it is the one they make.

Two things go wrong with it. A Sync's own timestamp is not the gPTP profile's to use, and
`ptp_process_sync` does not ask for the profile. And the nanoseconds of a timestamp are 32
bits on the wire, which only the peer delay's handlers compare with a second.
-/

namespace EspPtp

open Lib

variable {F : Type} [CDouble F] {n : Nat}

/-- A call of `ptp_update_local_clock`: the state it finds, its two times, and what the
    clock answers. -/
structure ClockUpdate (F : Type) (n : Nat) where
  state : PtpState F n
  call : ClockCall
  clock : ClockAnswers

namespace ClockUpdate

/-- What the call does and returns. -/
def result (cfg : Config) (u : ClockUpdate F n) : PtpState F n × Bool :=
  ptpUpdateLocalClock cfg u.state u.call.remote u.call.localTime u.clock

/-- The offset is too large for the rate alone. -/
def jumps (cfg : Config) (u : ClockUpdate F n) : Bool :=
  decide (((sourceOffsetNs cfg u.state u.call.remote u.call.localTime).natAbs : Int) >
    cfg.settimeThresholdMs * 1000000)

/-- The time handed to `ptp_settime`, if the clock jumps. -/
def settime (cfg : Config) (u : ClockUpdate F n) : Option Timespec :=
  if u.jumps cfg then
    some (timespecAdd (timespecSub u.clock.now u.call.localTime) u.call.remote)
  else none

/-- It is the time the daemon keeps of the jump. -/
theorem settime_kept {cfg : Config} {u : ClockUpdate F n} {time : Timespec}
    (h : u.settime cfg = some time) : (u.result cfg).1.lastDeltaTimestamp = time := by
  unfold settime jumps at h
  unfold result ptpUpdateLocalClock
  dsimp only
  split at h
  · rename_i hjumps
    cases h
    rw [if_pos hjumps]
    rfl
  · cases h

end ClockUpdate

/-! ## The call a frame makes -/

/-- What `ptp_process_sync` has done when it calls. -/
def syncTaken (s : PtpState F n) (times : SyncTimes) : PtpState F n :=
  s.withPort0 { s.port0 with lastReceivedSync := times.mono, twostepPending := false }

/-- The call the timing handlers make. -/
def rxTimingUpdate (cfg : Config) (s : PtpState F n) (reads : RxReadings) :
    Option (ClockUpdate F n) :=
  let message := s.port0.rxbuf
  if s.lacksCapability cfg reads.capability || !cfg.actsAsClient || s.ignoresSync then none
  else
    match message.msgtype with
    | .sync =>
      (syncClockCall s (PtpSync.read message)).map fun call =>
        ⟨syncTaken s reads.sync, call, reads.sync.clock⟩
    | .followUp =>
      (followupClockCall s message reads.followup.nowUs).map fun call =>
        ⟨followupTaken s (PtpFollowUp.read message), call, reads.followup.clock⟩
    | _ => none

/-- The call `ptp_process_rx_packet` makes. -/
def rxClockUpdate (cfg : Config) (s : PtpState F n) (received : Nat) (ingress : Fin (n + 1))
    (reads : RxReadings) : Option (ClockUpdate F n) :=
  let arrival := rxArrival cfg s received ingress reads.mono
  match arrival.2 with
  | none => none
  | some _ => if ingress = bootstrapPort then rxTimingUpdate cfg arrival.1 reads else none

/-- The state a call leaves, but for what the handler of Follow_Up goes on to publish. -/
inductive CallMade (cfg : Config) (reads : RxReadings) (s' : PtpState F n) :
    Option (ClockUpdate F n) → Prop where
  | none : CallMade cfg reads s' none
  | sync (u : ClockUpdate F n) (h : s' = (u.result cfg).1) : CallMade cfg reads s' (some u)
  | followUp (u : ClockUpdate F n) (message : Bytes)
      (h : s' = followupPublish cfg (u.result cfg).1 message u.state.timingSnapshot.generation
        (u.result cfg).2 reads.followup) : CallMade cfg reads s' (some u)

/-- A step that makes this call and no other. -/
structure Calls (cfg : Config) (reads : RxReadings) (s s' : PtpState F n)
    (update : Option (ClockUpdate F n)) : Prop where
  made : CallMade cfg reads s' update
  counted : s'.clockUpdates = s.clockUpdates + if update.isSome then 1 else 0

omit [CDouble F] in
theorem lacksCapability_eq (cfg : Config) {s s' : PtpState F n} (h : s'.unstamped = s.unstamped)
    (times : CapabilityTimes) : s'.lacksCapability cfg times = s.lacksCapability cfg times := by
  show s'.unstamped.lacksCapability cfg times = _
  rw [h]
  rfl

omit [CDouble F] in
theorem followupAccepted_eq {s s' : PtpState F n} (h : s'.unstamped = s.unstamped)
    (message : Bytes) (nowUs : Int) :
    followupAccepted s' message nowUs = followupAccepted s message nowUs := by
  show followupAccepted s'.unstamped message nowUs = _
  rw [h]
  rfl

/-- A frame that is only looked at, or dropped, or an Announce, calls nothing. -/
theorem RxEffect.clockUpdates {v v' : SourceView} {rxtime : Timespec} {reads : RxReadings}
    {handled : RxHandled} (h : RxEffect v v' rxtime reads handled) (hsync : ∀ msg, handled ≠ .sync msg)
    (hfollowUp : ∀ msg, handled ≠ .followUp msg) : v'.clockUpdates = v.clockUpdates := by
  cases h with
  | kept h => rw [h]
  | cleared h => rw [h]
  | dropped h =>
    rw [h]
    rfl
  | accepted msg receipt changed htype hreceipt hchanged h =>
    rw [h]
    rfl
  | waits msg => exact absurd rfl (hsync msg)
  | stepped msg => exact absurd rfl (hsync msg)
  | followed msg => exact absurd rfl (hfollowUp msg)

theorem ptpUpdateLocalClock_clockUpdates (cfg : Config) (u : ClockUpdate F n) :
    (u.result cfg).1.clockUpdates = u.state.clockUpdates + 1 := by
  rcases ptpUpdateLocalClock_view cfg u.state u.call.remote u.call.localTime u.clock with h | h
  · exact congrArg SourceView.clockUpdates h
  · exact congrArg SourceView.clockUpdates h

theorem Calls.quiet {cfg : Config} {reads : RxReadings} {s s' : PtpState F n}
    (h : s'.view.clockUpdates = s.view.clockUpdates) : Calls cfg reads s s' none :=
  ⟨.none, h.trans (UInt32.add_zero _).symm⟩

/-- The handler of Sync calls as `syncClockCall` says. -/
theorem ptpProcessSync_calls (cfg : Config) (s : PtpState F n) (msg : PtpSync)
    (reads : RxReadings) :
    Calls cfg reads s (ptpProcessSync cfg s msg reads.sync)
      ((syncClockCall s msg).map fun call =>
        ⟨syncTaken s reads.sync, call, reads.sync.clock⟩) := by
  unfold syncClockCall
  by_cases hport : msg.header.sourcePort ≠ s.selectedSource.header.sourcePort
  · rw [if_pos (.inl hport), ptpProcessSync_other cfg hport]
    exact .quiet rfl
  · cases htwo : msg.header.isTwoStep with
    | true =>
      rw [if_pos (.inr rfl)]
      have hview := ptpProcessSync_twoStep cfg (not_not.mp hport) htwo reads.sync
      apply Calls.quiet
      rw [hview]
    | false =>
      rw [if_neg (by simp [hport])]
      let update : ClockUpdate F n :=
        ⟨syncTaken s reads.sync, ⟨ptpFormatToTimespec msg.origintimestamp, s.port0.rxtime⟩,
          reads.sync.clock⟩
      have hresult : ptpProcessSync cfg s msg reads.sync = (update.result cfg).1 := by
        unfold ptpProcessSync
        dsimp only
        rw [if_neg hport, if_neg (by simp [htwo]), PtpState.withPort0_port0]
        rfl
      refine ⟨.sync update hresult, ?_⟩
      rw [hresult, ptpUpdateLocalClock_clockUpdates]
      rfl

/-- The handler of Follow_Up calls as `followupClockCall` says. -/
theorem ptpProcessFollowup_calls (cfg : Config) (s : PtpState F n) (message : Bytes)
    (reads : RxReadings) :
    Calls cfg reads s (ptpProcessFollowup cfg s message reads.followup)
      ((followupClockCall s message reads.followup.nowUs).map fun call =>
        ⟨followupTaken s (PtpFollowUp.read message), call, reads.followup.clock⟩) := by
  unfold followupClockCall
  cases haccepted : followupAccepted s message reads.followup.nowUs with
  | false =>
    rw [ptpProcessFollowup_refused cfg haccepted]
    exact .quiet rfl
  | true =>
    rw [if_pos rfl]
    obtain ⟨receipt, timing, hview, -, -⟩ :=
      ptpProcessFollowup_view cfg s message reads.followup haccepted
    refine ⟨.followUp _ message ?_, congrArg SourceView.clockUpdates hview⟩
    have hrxtime : (followupTaken s (PtpFollowUp.read message)).port0.twostepRxtime =
        s.port0.twostepRxtime := by
      unfold followupTaken
      dsimp only
      split <;> simp [PtpState.port0, PtpState.withPort0, PtpState.withPort]
    unfold ptpProcessFollowup
    dsimp only
    rw [if_neg (by simp [haccepted]), hrxtime]
    rfl

theorem ptpProcessAnnounce_clockUpdates (cfg : Config) (s : PtpState F n) (message : Bytes)
    (length : Nat) (times : AnnounceTimes) :
    (ptpProcessAnnounce cfg s message length times).view.clockUpdates = s.view.clockUpdates := by
  have heffect := ptpProcessAnnounce_view cfg s message length times
  cases haccepts : announceAccepts s message length with
  | true =>
    obtain ⟨receipt, changed, -, -, hview⟩ := heffect.accepted haccepts
    rw [hview]
    rfl
  | false =>
    cases hdrops : announceDrops s message length with
    | true =>
      rw [heffect.dropped hdrops]
      rfl
    | false => rw [heffect.ignored haccepts hdrops]

theorem rxTiming_calls (cfg : Config) (s : PtpState F n) (length : Nat) (reads : RxReadings) :
    Calls cfg reads s (rxTiming cfg s length reads) (rxTimingUpdate cfg s reads) := by
  unfold rxTiming rxTimingUpdate
  dsimp only
  cases s.lacksCapability cfg reads.capability with
  | true =>
    apply Calls.quiet
    rw [if_pos rfl, PtpState.view_withPort0_heard]
  | false =>
    cases cfg.actsAsClient with
    | false => exact .quiet rfl
    | true =>
      cases s.port0.rxbuf.msgtype with
      | sync =>
        cases s.ignoresSync with
        | true => exact .quiet rfl
        | false => exact ptpProcessSync_calls ..
      | followUp =>
        cases s.ignoresSync with
        | true => exact .quiet rfl
        | false => exact ptpProcessFollowup_calls ..
      | announce =>
        have hcount := ptpProcessAnnounce_clockUpdates cfg s s.port0.rxbuf length reads.announce
        cases s.ignoresSync with
        | true => exact .quiet hcount
        | false => exact .quiet hcount
      | _ => cases s.ignoresSync <;> exact .quiet rfl

/-- **The call is the one the dispatcher makes**: with it comes the state, and without it
    the clock is left alone. -/
theorem ptpProcessRxPacket_calls (cfg : Config) (s : PtpState F n) (received : Nat)
    (ingress : Fin (n + 1)) (reads : RxReadings) :
    Calls cfg reads s (ptpProcessRxPacket cfg s received ingress reads).1
      (rxClockUpdate cfg s received ingress reads) := by
  have heffect := (ptpProcessRxPacket_effect cfg s received ingress reads).clockUpdates
  have harrival := rxArrival_view cfg s received ingress reads.mono
  unfold ptpProcessRxPacket rxHandled at heffect
  unfold ptpProcessRxPacket rxClockUpdate
  generalize rxArrival cfg s received ingress reads.mono = arrival at heffect harrival ⊢
  obtain ⟨s', passed⟩ := arrival
  cases passed with
  | none => exact .quiet (congrArg SourceView.clockUpdates harrival)
  | some length =>
    dsimp only at harrival heffect ⊢
    have hcounted : s'.clockUpdates = s.clockUpdates := congrArg SourceView.clockUpdates harrival
    by_cases hport : ingress = 0
    · rw [if_pos hport]
      rw [if_pos hport] at heffect
      have htiming : ∀ s'' : PtpState F n, Calls cfg reads s' s'' (rxTimingUpdate cfg s' reads) →
          Calls cfg reads s s'' (rxTimingUpdate cfg s' reads) := by
        intro s'' h
        exact ⟨h.made, by rw [h.counted, hcounted]⟩
      cases htype : s'.port0.rxbuf.msgtype with
      | announce | sync | followUp =>
        have hdispatch : rxDispatch cfg s' length ingress reads =
            (rxTiming cfg s' length reads, []) := by
          unfold rxDispatch
          simp [htype, hport]
        rw [hdispatch]
        exact htiming _ (rxTiming_calls cfg s' length reads)
      | _ =>
        have hnone : rxTimingUpdate cfg s' reads = none := by
          unfold rxTimingUpdate
          simp [htype]
        have hnothing : rxTimingHandled cfg s' length reads = .nothing := by
          unfold rxTimingHandled
          simp [htype]
        rw [hnone]
        rw [hnothing] at heffect
        exact .quiet (heffect (by simp) (by simp))
    · rw [if_neg hport]
      rw [if_neg hport] at heffect
      exact .quiet (heffect (by simp) (by simp))

/-! ## Which frames make one -/

/-- The frame's origin timestamp, where Sync and Follow_Up have it. -/
def originTimestamp (message : Bytes) : Vector UInt8 10 := message.field 34 10

/-- A one-step Sync of the selected source that gets to its handler. -/
structure OneStepSync (cfg : Config) (s : PtpState F n) (received : Nat)
    (ingress : Fin (n + 1)) (reads : RxReadings) : Prop where
  passes : FramePasses cfg s received ingress
  port : ingress = 0
  type : s.port0.rxbuf.msgtype = .sync
  client : cfg.actsAsClient = true
  capable : s.lacksCapability cfg reads.capability = false
  heeded : s.ignoresSync = false
  source : (PtpSync.read s.port0.rxbuf).header.sourcePort = s.selectedSource.header.sourcePort
  oneStep : (PtpSync.read s.port0.rxbuf).header.isTwoStep = false

/-- A Follow_Up of the waiting Sync that gets to its handler. -/
structure AcceptedFollowUp (cfg : Config) (s : PtpState F n) (received : Nat)
    (ingress : Fin (n + 1)) (reads : RxReadings) : Prop where
  passes : FramePasses cfg s received ingress
  port : ingress = 0
  type : s.port0.rxbuf.msgtype = .followUp
  client : cfg.actsAsClient = true
  capable : s.lacksCapability cfg reads.capability = false
  heeded : s.ignoresSync = false
  accepted : followupAccepted s s.port0.rxbuf reads.followup.nowUs = true

section Cases

variable (cfg : Config) (s : PtpState F n) (received : Nat) (ingress : Fin (n + 1))
  (reads : RxReadings)

/-- A frame that moves the clock. -/
def MovesClock : Prop :=
  OneStepSync cfg s received ingress reads ∨ AcceptedFollowUp cfg s received ingress reads

/-- What a passing frame does is decided by the same after its arrival. -/
theorem rxClockUpdate_passes (hpasses : FramePasses cfg s received ingress)
    (hport : ingress = 0) :
    ∃ s' length, s'.unstamped = s.unstamped ∧
      rxClockUpdate cfg s received ingress reads = rxTimingUpdate cfg s' reads ∧
      rxHandled cfg s received ingress reads = rxTimingHandled cfg s' length reads := by
  have hsame := rxArrival_unstamped cfg s received ingress reads.mono
  have harrives := (rxArrival_some_iff cfg s received ingress reads.mono _).mpr ⟨hpasses, rfl⟩
  refine ⟨_, ptpMessageBoundedLength s.port0.rxbuf received, hsame, ?_, ?_⟩
  · unfold rxClockUpdate
    dsimp only
    rw [harrives, hport]
    rfl
  · unfold rxHandled
    dsimp only
    rw [harrives, hport]
    rfl

/-- Only a frame that passes the checks of port 0 makes a call. -/
theorem rxClockUpdate_bootstrap {u : ClockUpdate F n}
    (h : rxClockUpdate cfg s received ingress reads = some u) :
    FramePasses cfg s received ingress ∧ ingress = 0 := by
  have hpasses := rxArrival_some_iff cfg s received ingress reads.mono
  unfold rxClockUpdate at h
  dsimp only at h
  split at h
  · cases h
  · rename_i length harrives
    split at h
    · rename_i hport
      exact ⟨((hpasses length).mp harrives).1, hport⟩
    · cases h

/-- A call takes the frame's origin timestamp, and only frames that move the clock make
    one. -/
theorem rxClockUpdate_some {u : ClockUpdate F n}
    (h : rxClockUpdate cfg s received ingress reads = some u) :
    (OneStepSync cfg s received ingress reads ∧
        u.call = ⟨ptpFormatToTimespec (originTimestamp s.port0.rxbuf), s.port0.rxtime⟩) ∨
      (AcceptedFollowUp cfg s received ingress reads ∧
        u.call = ⟨ptpFormatToTimespec (originTimestamp s.port0.rxbuf), s.port0.twostepRxtime⟩) := by
  obtain ⟨hpasses, hport⟩ := rxClockUpdate_bootstrap cfg s received ingress reads h
  obtain ⟨s', length, hsame, hupdate, -⟩ :=
    rxClockUpdate_passes cfg s received ingress reads hpasses hport
  rw [hupdate] at h
  have hrxbuf : s'.port0.rxbuf = s.port0.rxbuf := congrArg (fun t => t.port0.rxbuf) hsame
  have hrxtime : s'.port0.rxtime = s.port0.rxtime := congrArg (fun t => t.port0.rxtime) hsame
  have htwostep : s'.port0.twostepRxtime = s.port0.twostepRxtime :=
    congrArg (fun t => t.port0.twostepRxtime) hsame
  have hsource : s'.selectedSource = s.selectedSource :=
    congrArg (fun t => t.selectedSource) hsame
  have hignores : s'.ignoresSync = s.ignoresSync := congrArg (fun t => t.ignoresSync) hsame
  unfold rxTimingUpdate at h
  rw [lacksCapability_eq cfg hsame, hrxbuf, hignores] at h
  dsimp only at h
  split at h
  · cases h
  · rename_i hacts
    simp only [Bool.or_eq_true, Bool.not_eq_true', not_or, Bool.not_eq_true,
      Bool.not_eq_false] at hacts
    obtain ⟨⟨hcapable, hclient⟩, hheeded⟩ := hacts
    split at h
    · rename_i htype
      obtain ⟨call, hcall, rfl⟩ := Option.map_eq_some_iff.mp h
      unfold syncClockCall at hcall
      split at hcall
      · cases hcall
      · rename_i htaken
        cases hcall
        simp only [not_or, ne_eq, not_not, Bool.not_eq_true, hsource] at htaken
        left
        refine ⟨⟨hpasses, hport, htype, hclient, hcapable, hheeded, htaken.1, htaken.2⟩, ?_⟩
        rw [← hrxtime]
        rfl
    · rename_i htype
      obtain ⟨call, hcall, rfl⟩ := Option.map_eq_some_iff.mp h
      unfold followupClockCall at hcall
      rw [followupAccepted_eq hsame] at hcall
      split at hcall
      · rename_i haccepted
        cases hcall
        right
        refine ⟨⟨hpasses, hport, htype, hclient, hcapable, hheeded, haccepted⟩, ?_⟩
        rw [← htwostep]
        rfl
      · cases hcall
    · cases h

variable {cfg s received ingress reads}

theorem rxClockUpdate_remote {u : ClockUpdate F n}
    (h : rxClockUpdate cfg s received ingress reads = some u) :
    u.call.remote = ptpFormatToTimespec (originTimestamp s.port0.rxbuf) ∧
      MovesClock cfg s received ingress reads := by
  rcases rxClockUpdate_some cfg s received ingress reads h with ⟨hsync, hcall⟩ | ⟨hfollowUp, hcall⟩
  · rw [hcall]
    exact ⟨rfl, .inl hsync⟩
  · rw [hcall]
    exact ⟨rfl, .inr hfollowUp⟩

/-- The one-step Sync does make a call. -/
theorem OneStepSync.calls (h : OneStepSync cfg s received ingress reads) :
    (∃ u, rxClockUpdate cfg s received ingress reads = some u) ∧
      rxHandled cfg s received ingress reads = .sync (PtpSync.read s.port0.rxbuf) := by
  obtain ⟨s', length, hsame, hupdate, hhandled⟩ :=
    rxClockUpdate_passes cfg s received ingress reads h.passes h.port
  have hrxbuf : s'.port0.rxbuf = s.port0.rxbuf := congrArg (fun t => t.port0.rxbuf) hsame
  have hsource : s'.selectedSource = s.selectedSource :=
    congrArg (fun t => t.selectedSource) hsame
  have hignores : s'.ignoresSync = s.ignoresSync := congrArg (fun t => t.ignoresSync) hsame
  rw [hupdate, hhandled]
  unfold rxTimingUpdate rxTimingHandled syncClockCall
  rw [lacksCapability_eq cfg hsame, hrxbuf, hignores, hsource]
  simp [h.capable, h.client, h.heeded, h.type, h.source, h.oneStep]

/-- So does the Follow_Up. -/
theorem AcceptedFollowUp.calls (h : AcceptedFollowUp cfg s received ingress reads) :
    (∃ u, rxClockUpdate cfg s received ingress reads = some u) ∧
      rxHandled cfg s received ingress reads = .followUp (PtpFollowUp.read s.port0.rxbuf) := by
  obtain ⟨s', length, hsame, hupdate, hhandled⟩ :=
    rxClockUpdate_passes cfg s received ingress reads h.passes h.port
  have hrxbuf : s'.port0.rxbuf = s.port0.rxbuf := congrArg (fun t => t.port0.rxbuf) hsame
  have hignores : s'.ignoresSync = s.ignoresSync := congrArg (fun t => t.ignoresSync) hsame
  rw [hupdate, hhandled]
  unfold rxTimingUpdate rxTimingHandled followupClockCall
  rw [lacksCapability_eq cfg hsame, hrxbuf, hignores]
  dsimp only
  rw [followupAccepted_eq hsame]
  simp [h.capable, h.client, h.heeded, h.type, h.accepted]

/-- Only frames that are handled as Sync or Follow_Up make calls. -/
theorem rxClockUpdate_none (hsync : ∀ msg, rxHandled cfg s received ingress reads ≠ .sync msg)
    (hfollowUp : ∀ msg, rxHandled cfg s received ingress reads ≠ .followUp msg) :
    rxClockUpdate cfg s received ingress reads = none := by
  cases h : rxClockUpdate cfg s received ingress reads with
  | none => rfl
  | some u =>
    rcases (rxClockUpdate_remote h).2 with hmoves | hmoves
    · exact absurd hmoves.calls.2 (hsync _)
    · exact absurd hmoves.calls.2 (hfollowUp _)

end Cases

/-! ## The timestamps of gPTP -/

/-- The call takes the timestamp of a Follow_Up that passed `ptp_timing_payload_valid`. -/
structure QualifiedCall (message : Bytes) (received : Nat) (call : ClockCall) : Prop where
  type : message.msgtype = .followUp
  payload : ptpTimingPayloadValid message (ptpMessageBoundedLength message received) = true
  remote : call.remote = ptpFormatToTimespec (PtpFollowUp.read message).origintimestamp

/-- In the gPTP profile only a one-step Sync makes a call that is not qualified. -/
theorem rxClockUpdate_qualified_iff (cfg : Config) (s : PtpState F n) (received : Nat)
    (ingress : Fin (n + 1)) (reads : RxReadings) (hgptp : s.isGptp = true) :
    (∀ u ∈ rxClockUpdate cfg s received ingress reads,
        QualifiedCall s.port0.rxbuf received u.call) ↔
      ¬ OneStepSync cfg s received ingress reads := by
  constructor
  · intro hqualified hsync
    obtain ⟨⟨u, hu⟩, -⟩ := hsync.calls
    have htype := (hqualified u hu).type
    rw [hsync.type] at htype
    cases htype
  · intro hnone u hu
    obtain ⟨hremote, hsync | hfollowUp⟩ := rxClockUpdate_remote hu
    · exact absurd hsync hnone
    · exact ⟨hfollowUp.type, hfollowUp.passes.payload hgptp hfollowUp.type, hremote⟩

/-- The call of `ptp_update_local_clock` a frame makes in a run. -/
def RxFrame.update (cfg : Config) (s : PtpState F n) (frame : RxFrame n) :
    Option (ClockUpdate F n) :=
  rxClockUpdate cfg (s.load frame) frame.received frame.ingress frame.reads

/-- The frame is a one-step Sync that gets to its handler. -/
def RxFrame.IsOneStepSync (cfg : Config) (s : PtpState F n) (frame : RxFrame n) : Prop :=
  OneStepSync cfg (s.load frame) frame.received frame.ingress frame.reads

/-- **In a run, the gPTP clock follows qualified Follow_Ups exactly if no one-step Sync of
    the selected source comes.** -/
theorem gptp_calls_qualified_iff (cfg : Config) (s₀ : PtpState F n)
    (events : List (DaemonEvent F n)) :
    (∀ s frame, (.received frame, s) ∈ trace (daemonStep cfg) s₀ events → s.isGptp = true →
        ∀ u ∈ frame.update cfg s,
          QualifiedCall frame.scratch.rxbuf frame.received u.call) ↔
      ∀ s frame, (.received frame, s) ∈ trace (daemonStep cfg) s₀ events → s.isGptp = true →
        ¬ frame.IsOneStepSync cfg s := by
  have hframe : ∀ (s : PtpState F n) (frame : RxFrame n), s.isGptp = true →
      ((∀ u ∈ frame.update cfg s, QualifiedCall frame.scratch.rxbuf frame.received u.call) ↔
        ¬ frame.IsOneStepSync cfg s) := by
    intro s frame hgptp
    have hiff := rxClockUpdate_qualified_iff cfg (s.load frame) frame.received frame.ingress
      frame.reads hgptp
    rw [load_rxbuf] at hiff
    exact hiff
  constructor
  · intro h s frame hr hgptp
    exact (hframe s frame hgptp).mp (h s frame hr hgptp)
  · intro h s frame hr hgptp
    exact (hframe s frame hgptp).mpr (h s frame hr hgptp)

/-! ## Times of day -/

/-- The remote time is a time of day, and so is the time the clock is set to, if the local
    times are. -/
structure NormalizedUpdate (cfg : Config) (u : ClockUpdate F n) : Prop where
  remote : u.call.remote.Normalized
  settime : u.clock.now.Normalized → u.call.localTime.Normalized →
    ∀ time ∈ u.settime cfg, time.Normalized

/-- One subtraction and one addition keep times of day. -/
theorem NormalizedUpdate.of_remote {cfg : Config} {u : ClockUpdate F n}
    (h : u.call.remote.Normalized) : NormalizedUpdate cfg u where
  remote := h
  settime hnow hlocal time htime := by
    unfold ClockUpdate.settime at htime
    split at htime
    · cases htime
      exact (hnow.sub hlocal).add h
    · cases htime

/-- **The times that reach the servo are times of day exactly if the frame leaves the clock
    alone, or has its nanoseconds below a second.** -/
theorem rxClockUpdate_normalized_iff (cfg : Config) (s : PtpState F n) (received : Nat)
    (ingress : Fin (n + 1)) (reads : RxReadings) :
    (∀ u ∈ rxClockUpdate cfg s received ingress reads, NormalizedUpdate cfg u) ↔
      (MovesClock cfg s received ingress reads →
        Timestamp.nanoseconds (originTimestamp s.port0.rxbuf) < 1000000000) := by
  constructor
  · intro hnormalized hmoves
    have hcalls : ∃ u, rxClockUpdate cfg s received ingress reads = some u := by
      rcases hmoves with hsync | hfollowUp
      · exact hsync.calls.1
      · exact hfollowUp.calls.1
    obtain ⟨u, hu⟩ := hcalls
    obtain ⟨hremote, -⟩ := rxClockUpdate_remote hu
    rw [← ptpFormatToTimespec_normalized_iff, ← hremote]
    exact (hnormalized u hu).remote
  · intro hbelow u hu
    obtain ⟨hremote, hmoves⟩ := rxClockUpdate_remote hu
    apply NormalizedUpdate.of_remote
    rw [hremote, ptpFormatToTimespec_normalized_iff]
    exact hbelow hmoves

/-! ## A one-step Sync -/

namespace Sample

/-- The daemon follows the neighbor. -/
def following : PtpState ℚ 0 :=
  { alone with
    selectedSourceValid := true
    selectedSource := PtpAnnounce.read (neighborAnnounce 100) }

/-- A Sync without the two-step flag, sent at nine seconds and a billion nanoseconds. -/
def oneStepSyncFrame : RxFrame 0 :=
  frameOf (neighborSync false #v[0, 0, 0, 0, 0, 9, 0x3b, 0x9a, 0xca, 0]) default

/-- The Sync gets to its handler. -/
theorem oneStepSyncFrame_handled :
    OneStepSync config (following.load oneStepSyncFrame) 44 0 default where
  passes :=
    { bounded := by decide +kernel
      payload := by decide +kernel
      domain := by decide +kernel
      profile := by decide +kernel
      sender := by
        intro checked hchecked
        have hnone : senderCheck config (following.load oneStepSyncFrame).isGptp
            ((following.load oneStepSyncFrame).ports 0)
            (following.load oneStepSyncFrame).port0.sender = none := by decide +kernel
        rw [hnone] at hchecked
        cases hchecked }
  port := rfl
  type := by decide +kernel
  client := rfl
  capable := by decide +kernel
  heeded := by decide +kernel
  source := by decide +kernel
  oneStep := by decide +kernel

end Sample

/-- The Sync's own timestamp moves the gPTP clock. -/
theorem not_gptp_calls_qualified :
    ¬ ∀ (cfg : Config) (s₀ : PtpState ℚ 0) (events : List (DaemonEvent ℚ 0)),
      ∀ s frame, (.received frame, s) ∈ trace (daemonStep cfg) s₀ events → s.isGptp = true →
        ∀ u ∈ frame.update cfg s,
          QualifiedCall frame.scratch.rxbuf frame.received u.call := by
  intro hclaim
  obtain ⟨⟨u, hu⟩, -⟩ := Sample.oneStepSyncFrame_handled.calls
  have hqualified := hclaim Sample.config Sample.following [.received Sample.oneStepSyncFrame]
    Sample.following Sample.oneStepSyncFrame List.mem_cons_self rfl u hu
  exact absurd hqualified.type (by decide +kernel)

/-- And it is not a time of day. -/
theorem not_rxClockUpdate_normalized :
    ¬ ∀ (cfg : Config) (s : PtpState ℚ 0) (received : Nat) (ingress : Fin 1)
      (reads : RxReadings),
      ∀ u ∈ rxClockUpdate cfg s received ingress reads, NormalizedUpdate cfg u := by
  intro hclaim
  obtain ⟨⟨u, hu⟩, -⟩ := Sample.oneStepSyncFrame_handled.calls
  obtain ⟨hremote, -⟩ := rxClockUpdate_remote hu
  have hnormalized := (hclaim _ _ _ _ _ u hu).remote
  rw [hremote] at hnormalized
  exact absurd hnormalized (by decide +kernel)

end EspPtp
