import EspPtp.Daemon.Run

/-!
# The generation identifies the time source

Consumers of the two snapshots keep the generation of what they last saw, and compare. Two
valid snapshots with one generation should therefore say the same: the same grandmaster, the
same time base.

What makes it so is that whatever could change either also counts the generation on.
`Taken` is what the present generation stands for once a valid snapshot carries it, and
`GenerationStep` that no event changes that without counting on. One does: a source whose
capability came back is selected again by the validity check alone, and the local source may
have been published meanwhile. `KeepsGeneration` leaves it out.
-/

namespace EspPtp

open Lib

variable {F : Type} {n : Nat}

/-! ## What is returned -/

/-- What a snapshot says of the time source: the grandmaster, and bytes 58 and 59 of the
    Follow_Up. -/
def PtpTimingSnapshot.identity (snapshot : PtpTimingSnapshot) :
    ClockIdentity × Vector UInt8 2 :=
  (snapshot.btcIdentity, snapshot.followUp.timeBaseIndicator)

/-- A snapshot that one of the two functions returned, and returned as valid. -/
inductive Returned (t : PtpTiming) (snapshot : PtpTimingSnapshot) : Prop where
  | timing (nowUs : Int) (h : snapshot = ptpdTimingSnapshot t nowUs)
      (hvalid : snapshot.valid = true)
  | timeSource (nowUs : Int) (h : snapshot = ptpdTimeSourceSnapshot t nowUs)
      (hvalid : snapshot.valid = true)

/-- The time source a valid snapshot names. -/
inductive Taken (t : PtpTiming) (identity : ClockIdentity × Vector UInt8 2) : Prop where
  | received (hvalid : t.timingSnapshot.valid = true) (h : identity = t.timingSnapshot.identity)
  | localSource (hvalid : t.localSourceSnapshot.valid = true)
      (h : identity = t.localSourceSnapshot.identity)

theorem PtpTimingSnapshot.valid_of_fresh {snapshot : PtpTimingSnapshot} {nowUs : Int}
    (h : (snapshot.fresh nowUs).valid = true) : snapshot.valid = true := by
  rw [← fresh_valid h]
  exact h

/-- What is returned is one of the two, as it was published. -/
theorem Returned.cases {t : PtpTiming} {snapshot : PtpTimingSnapshot} (h : Returned t snapshot) :
    (snapshot = t.timingSnapshot ∧ t.timingSnapshot.valid = true) ∨
      (snapshot = t.localSourceSnapshot ∧ t.localSourceSnapshot.valid = true) := by
  cases h with
  | timing nowUs h hvalid =>
    subst h
    unfold ptpdTimingSnapshot at hvalid ⊢
    exact .inl ⟨PtpTimingSnapshot.fresh_valid hvalid, PtpTimingSnapshot.valid_of_fresh hvalid⟩
  | timeSource nowUs h hvalid =>
    subst h
    unfold ptpdTimeSourceSnapshot at hvalid ⊢
    cases hlocal : t.localSourceSnapshot.valid with
    | true =>
      rw [hlocal, if_pos rfl] at hvalid
      rw [if_pos rfl]
      exact .inr ⟨PtpTimingSnapshot.fresh_valid hvalid, rfl⟩
    | false =>
      rw [hlocal, if_neg (by decide)] at hvalid
      rw [if_neg (by decide)]
      exact .inl ⟨PtpTimingSnapshot.fresh_valid hvalid, PtpTimingSnapshot.valid_of_fresh hvalid⟩

/-! ## The invariant -/

/-- The present generation. -/
def SourceView.generation (v : SourceView) : UInt32 := v.timing.timingSnapshot.generation

/-- The local source was published under the present generation, and would be published
    again as it was. -/
structure OwnPublished (cfg : Config) (v : SourceView) : Prop where
  originates : v.originates cfg = true
  gmFieldsOwn : v.gmFieldsOwn = true
  generation : v.timing.localSourceSnapshot.generation = v.generation
  identity : v.timing.localSourceSnapshot.identity =
    (v.ownIdentity.btcIdentity, be16Bytes v.ownTimeBaseIndicator)

structure GenerationInv (cfg : Config) (v : SourceView) : Prop where
  localSource : v.timing.localSourceSnapshot.valid = true → OwnPublished cfg v
  received : v.timing.timingSnapshot.valid = true →
    v.valid = true ∧ v.timing.timingSnapshot.receivedUs ≠ 0

/-- A selected source and a local one exclude each other. -/
theorem GenerationInv.local_invalid {cfg : Config} {v : SourceView} (h : GenerationInv cfg v)
    (hvalid : v.valid = true) : v.timing.localSourceSnapshot.valid = false := by
  cases hlocal : v.timing.localSourceSnapshot.valid with
  | false => rfl
  | true =>
    have hnot := originates_valid (h.localSource hlocal).originates
    rw [hvalid] at hnot
    cases hnot

/-- An event keeps the invariant, and what the generation stands for unless it counts on. -/
structure GenerationStep (cfg : Config) (v v' : SourceView) : Prop where
  inv : GenerationInv cfg v'
  taken : v'.generation = v.generation → ∀ identity, Taken v.timing identity →
    Taken v'.timing identity

namespace GenerationInv

variable {cfg : Config} {v v' : SourceView}

/-- Neither what is published changes, nor what is published next. -/
theorem quiet (h : GenerationInv cfg v) (htiming : v'.timing = v.timing)
    (hvalid : v'.valid = v.valid) (hprofile : v'.profile = v.profile)
    (hown : v'.ownIdentity = v.ownIdentity) (hfields : v'.gmFieldsOwn = v.gmFieldsOwn)
    (hindicator : v'.ownTimeBaseIndicator = v.ownTimeBaseIndicator) : GenerationStep cfg v v' := by
  refine ⟨⟨?_, ?_⟩, ?_⟩
  · rw [htiming]
    intro hlocal
    obtain ⟨horiginates, hfieldsOwn, hgeneration, hidentity⟩ := h.localSource hlocal
    refine ⟨?_, ?_, ?_, ?_⟩
    · unfold SourceView.originates at horiginates ⊢
      rw [hvalid, hprofile, hown]
      exact horiginates
    · rw [hfields]
      exact hfieldsOwn
    · unfold SourceView.generation at hgeneration ⊢
      rw [htiming]
      exact hgeneration
    · rw [htiming, hown, hindicator]
      exact hidentity
  · rw [htiming, hvalid]
    exact h.received
  · intro _ identity htaken
    rw [htiming]
    exact htaken

theorem same (h : GenerationInv cfg v) : GenerationStep cfg v v :=
  h.quiet rfl rfl rfl rfl rfl rfl

/-- Everything published is retired. -/
theorem retired {timing : PtpTiming} (htiming : v'.timing = ptpInvalidateTiming timing)
    (hcounts : v'.generation ≠ v.generation) : GenerationStep cfg v v' := by
  refine ⟨⟨?_, ?_⟩, fun hsame => absurd hsame hcounts⟩ <;>
  · rw [htiming]
    intro hvalid
    cases hvalid

theorem counts_once (htiming : v'.timing = ptpInvalidateTiming v.timing) :
    v'.generation ≠ v.generation := by
  unfold SourceView.generation
  rw [htiming]
  exact fun h => by simp [ptpInvalidateTiming] at h

/-- Filling in the time base of its own source changes nothing. -/
theorem filled (h : GenerationInv cfg v) (hfilled : Filled v v') : GenerationStep cfg v v' := by
  obtain ⟨hframe, hfills, hkept⟩ := hfilled
  refine ⟨⟨?_, ?_⟩, ?_⟩
  · intro hlocal
    have hwas : v.timing.localSourceSnapshot.valid = true := by
      rw [hframe] at hlocal
      exact hlocal
    obtain ⟨horiginates, hfieldsOwn, hgeneration, hidentity⟩ := h.localSource hwas
    have hvalid := originates_valid horiginates
    refine ⟨?_, hfills hvalid, ?_, ?_⟩
    · rw [hframe]
      exact horiginates
    · rw [hframe]
      exact hgeneration
    · rw [hkept hvalid hfieldsOwn, hframe]
      exact hidentity
  · rw [hframe]
    exact h.received
  · intro _ identity htaken
    rw [hframe]
    exact htaken

/-- An update of the clock, where nothing it leaves alone was changed either. -/
theorem clockUpdated {w : SourceView} (h : GenerationInv cfg v) (htiming : w.timing = v.timing)
    (hvalid : w.valid = v.valid) (hprofile : w.profile = v.profile)
    (hown : w.ownIdentity = v.ownIdentity) (hfields : w.gmFieldsOwn = v.gmFieldsOwn)
    (hindicator : w.ownTimeBaseIndicator = v.ownTimeBaseIndicator) (hupdated : ClockUpdated w v') :
    GenerationStep cfg v v' := by
  cases hupdated with
  | trimmed heq =>
    rw [heq]
    exact h.quiet htiming hvalid hprofile hown hfields hindicator
  | jumped heq =>
    have hretired : v'.timing = ptpInvalidateTiming v.timing := by
      rw [heq, ← htiming]
    exact retired hretired (counts_once hretired)

/-- A Follow_Up of a selected source: if it does not count on, it names the source and the
    time base of the one before. -/
theorem followed (h : GenerationInv cfg v) (hvalid : v.valid = true) {receipt : PtpSyncReceipt}
    {timing : PtpTiming} {publishedUs : Int} (hread : publishedUs ≠ 0)
    (htiming : TimingChange v publishedUs timing) :
    GenerationStep cfg v (v.follow receipt timing) := by
  cases htiming with
  | kept heq =>
    subst heq
    exact h.quiet rfl rfl rfl rfl rfl rfl
  | retired heq =>
    subst heq
    exact retired rfl (counts_once rfl)
  | published snapshot hsnapshot heq =>
    subst heq
    obtain ⟨hpublished, hreceivedUs, hbtc, hgeneration⟩ := hsnapshot
    have hlocal := h.local_invalid hvalid
    refine ⟨⟨?_, fun _ => ⟨hvalid, ?_⟩⟩, ?_⟩
    · intro hstill
      have hwas : v.timing.localSourceSnapshot.valid = true := hstill
      rw [hlocal] at hwas
      cases hwas
    · show snapshot.receivedUs ≠ 0
      rw [hreceivedUs]
      exact hread
    · intro hsame identity htaken
      cases htaken with
      | localSource hwas =>
        rw [hlocal] at hwas
        cases hwas
      | received hwas hidentity =>
        apply Taken.received hpublished
        rw [hidentity]
        have hseen := (h.received hwas).2
        have hkept : snapshot.generation = v.timing.timingSnapshot.generation := hsame
        rw [hgeneration] at hkept
        unfold publishedGeneration at hkept
        by_cases hother : v.timing.timingSnapshot.receivedUs ≠ 0 ∧
            (v.timing.timingSnapshot.btcIdentity ≠ v.source.btcIdentity ∨
              v.timing.timingSnapshot.followUp.timeBaseIndicator ≠
                snapshot.followUp.timeBaseIndicator)
        · -- Another source or time base counts on.
          exfalso
          rw [if_pos hother] at hkept
          by_cases hzero : v.timing.timingSnapshot.generation = 0
          · rw [if_pos hzero, hzero] at hkept
            cases hkept
          · rw [if_neg hzero] at hkept
            exact absurd hkept (by simp)
        · simp only [not_and, not_or, not_not] at hother
          obtain ⟨hbtcSame, hindicatorSame⟩ := hother hseen
          unfold PtpTimingSnapshot.identity
          show _ = (snapshot.btcIdentity, snapshot.followUp.timeBaseIndicator)
          rw [hbtc, hbtcSame, hindicatorSame]

/-- A frame. -/
theorem received_step (h : GenerationInv cfg v) {rxtime : Timespec} {reads : RxReadings}
    {handled : RxHandled} (hread : reads.followup.publishedUs ≠ 0)
    (heffect : RxEffect v v' rxtime reads handled) : GenerationStep cfg v v' := by
  cases heffect with
  | kept heq =>
    subst heq
    exact h.same
  | cleared heq =>
    subst heq
    exact h.quiet rfl rfl rfl rfl rfl rfl
  | dropped heq =>
    subst heq
    exact retired rfl (counts_once rfl)
  | accepted msg receipt changed htype hreceipt hchanged heq =>
    subst heq
    cases changed with
    | true => exact retired rfl (counts_once rfl)
    | false => exact h.quiet rfl rfl rfl rfl rfl rfl
  | waits msg hvalid hport htwo heq =>
    subst heq
    exact h.quiet rfl rfl rfl rfl rfl rfl
  | stepped msg hvalid hport htwo hupdated =>
    refine h.clockUpdated ?_ ?_ ?_ ?_ ?_ ?_ hupdated <;> rfl
  | followed msg sync receipt timing hvalid hpending hfollows hreceipt htiming heq =>
    subst heq
    exact h.followed hvalid hread htiming

/-- The local source: as long as it is published it says the same. -/
theorem localSource_step (h : GenerationInv cfg v) {publishedUs : Int}
    (heffect : LocalSourceEffect cfg v v' publishedUs) : GenerationStep cfg v v' := by
  cases heffect with
  | kept heq =>
    subst heq
    exact h.same
  | ended horiginates heq =>
    subst heq
    -- What would not be published again was not published.
    have hlocal : v.timing.localSourceSnapshot.valid = false := by
      cases hwas : v.timing.localSourceSnapshot.valid with
      | false => rfl
      | true =>
        rw [(h.localSource hwas).originates] at horiginates
        cases horiginates
    refine ⟨⟨fun hstill => ?_, h.received⟩, fun _ identity htaken => ?_⟩
    · cases hstill
    · cases htaken with
      | received hwas hidentity => exact .received hwas hidentity
      | localSource hwas =>
        rw [hlocal] at hwas
        cases hwas
  | published v₁ snapshot horiginates hfilled hown hsnapshot heq =>
    subst heq
    obtain ⟨hpublished, -, hbtc, hindicator, hgeneration⟩ := hsnapshot
    have hvalid := originates_valid horiginates
    have hreceived : v.timing.timingSnapshot.valid = false := by
      cases hwas : v.timing.timingSnapshot.valid with
      | false => rfl
      | true =>
        rw [(h.received hwas).1] at hvalid
        cases hvalid
    refine ⟨⟨fun _ => ⟨?_, hown, rfl, ?_⟩, fun hstill => ?_⟩, fun hsame identity htaken => ?_⟩
    · rw [hfilled.frame]
      exact horiginates
    · show (snapshot.btcIdentity, snapshot.followUp.timeBaseIndicator) = _
      rw [hbtc, hindicator, hfilled.frame]
    · have hwas : v.timing.timingSnapshot.valid = true := hstill
      rw [hreceived] at hwas
      cases hwas
    · cases htaken with
      | received hwas =>
        rw [hreceived] at hwas
        cases hwas
      | localSource hwas hidentity =>
        apply Taken.localSource hpublished
        have hpast := h.localSource hwas
        rw [hidentity, hpast.identity]
        show _ = (snapshot.btcIdentity, snapshot.followUp.timeBaseIndicator)
        rw [hbtc, hindicator, hfilled.kept hvalid hpast.gmFieldsOwn]

/-- Another profile. -/
theorem profile_step (h : GenerationInv cfg v) (heffect : ProfileEffect v v') :
    GenerationStep cfg v v' := by
  cases heffect with
  | kept heq =>
    subst heq
    exact h.same
  | reset profile heq =>
    subst heq
    apply retired rfl
    unfold SourceView.generation SourceView.reset ptpInvalidateTiming
    intro hsame
    have htwo : v.timing.timingSnapshot.generation + 1 + 1 =
        v.timing.timingSnapshot.generation := hsame
    rw [UInt32.add_assoc] at htwo
    simp at htwo

/-- The source becomes valid, with nothing published by the local one. -/
theorem revived (h : GenerationInv cfg v) (htiming : v'.timing = v.timing)
    (hlocal : v.timing.localSourceSnapshot.valid = false) (hvalid : v'.valid = true) :
    GenerationStep cfg v v' := by
  refine ⟨⟨?_, ?_⟩, ?_⟩
  · rw [htiming, hlocal]
    intro hstill
    cases hstill
  · rw [htiming]
    exact fun hwas => ⟨hvalid, (h.received hwas).2⟩
  · intro _ identity htaken
    rw [htiming]
    exact htaken

/-- A source made up by an injection, and perhaps an update of the clock. -/
theorem injected {w : SourceView} (h : GenerationInv cfg v)
    (hlocal : v.valid = false → v.timing.localSourceSnapshot.valid = false)
    (hsource : Synthesized v w) (hupdated : MaybeClockUpdated w v') : GenerationStep cfg v v' := by
  cases hsource with
  | kept heq =>
    subst heq
    cases hupdated with
    | kept heq =>
      subst heq
      exact h.same
    | updated hupdated => exact h.clockUpdated rfl rfl rfl rfl rfl rfl hupdated
  | source source heq =>
    subst heq
    have hnone : v.timing.localSourceSnapshot.valid = false := by
      cases hvalid : v.valid with
      | false => exact hlocal hvalid
      | true => exact h.local_invalid hvalid
    rcases hupdated with heq | heq | heq
    · subst heq
      exact h.revived rfl hnone rfl
    · subst heq
      exact h.revived rfl hnone rfl
    · subst heq
      exact retired rfl (counts_once rfl)

end GenerationInv

/-! ## What can be read -/

/-- What is returned is taken, and its generation is the present one. -/
theorem GenerationInv.returned {cfg : Config} {s : PtpState F n} (h : GenerationInv cfg s.view)
    {snapshot : PtpTimingSnapshot} (hreturned : Returned s.toPtpTiming snapshot) :
    Taken s.toPtpTiming snapshot.identity ∧ snapshot.generation = s.view.generation := by
  rcases hreturned.cases with ⟨rfl, hvalid⟩ | ⟨rfl, hvalid⟩
  · exact ⟨.received hvalid rfl, rfl⟩
  · exact ⟨.localSource hvalid rfl, (h.localSource hvalid).generation⟩

/-- One of the two snapshots is valid at most. -/
theorem GenerationInv.unique {cfg : Config} {s : PtpState F n} (h : GenerationInv cfg s.view)
    {one other : ClockIdentity × Vector UInt8 2} (hone : Taken s.toPtpTiming one)
    (hother : Taken s.toPtpTiming other) : one = other := by
  have hexclude : s.timingSnapshot.valid = true → s.localSourceSnapshot.valid = true → False := by
    intro hreceived hlocal
    have hnone := h.local_invalid (h.received hreceived).1
    rw [show s.view.timing.localSourceSnapshot.valid = true from hlocal] at hnone
    cases hnone
  cases hone with
  | received hvalid hidentity =>
    cases hother with
    | received _ hother => exact hidentity.trans hother.symm
    | localSource hlocal => exact (hexclude hvalid hlocal).elim
  | localSource hlocal hidentity =>
    cases hother with
    | received hvalid => exact (hexclude hvalid hlocal).elim
    | localSource _ hother => exact hidentity.trans hother.symm

/-! ## Runs -/

variable [CDouble F]

/-- An event that does not select a source beside a published local one. The timer that
    stamps a publication has left zero. -/
def KeepsGeneration (cfg : Config) (s : PtpState F n) : DaemonEvent F n → Prop
  | .validity times =>
    s.selectedSourceValid = false → isSelectedSourceValid cfg s times = true →
      s.localSourceSnapshot.valid = false
  | .injectSync _ message _ =>
    message.msgtype = .followUp → s.selectedSourceValid = false →
      s.localSourceSnapshot.valid = false
  | .received frame => frame.reads.followup.publishedUs ≠ 0
  | _ => True

instance (cfg : Config) (s : PtpState F n) : ∀ e, Decidable (KeepsGeneration cfg s e)
  | .validity times =>
    inferInstanceAs (Decidable (s.selectedSourceValid = false →
      isSelectedSourceValid cfg s times = true → s.localSourceSnapshot.valid = false))
  | .injectSync _ message _ =>
    inferInstanceAs (Decidable (message.msgtype = .followUp → s.selectedSourceValid = false →
      s.localSourceSnapshot.valid = false))
  | .received frame => inferInstanceAs (Decidable (frame.reads.followup.publishedUs ≠ 0))
  | .capability _ | .localSource _ | .gmFields | .fallback .. | .armFallback | .setProfile _
  | .injectSyncPair .. | .ftmObserved .. | .elsewhere _ => inferInstanceAs (Decidable True)

/-- A capability that is missing retires what was heard. -/
theorem GenerationInv.capability_step {cfg : Config} {s : PtpState F n}
    (h : GenerationInv cfg s.view) (times : CapabilityTimes) :
    GenerationStep cfg s.view ((DaemonEvent.capability times).apply cfg s).view := by
  unfold DaemonEvent.apply
  dsimp only
  rw [checkCapability_view]
  cases s.lacksCapability cfg times with
  | false =>
    rw [if_neg (by decide)]
    exact h.same
  | true =>
    rw [if_pos rfl]
    cases hheard : s.view.valid || s.view.pending.isSome with
    | true =>
      rw [if_pos rfl]
      exact retired rfl (counts_once rfl)
    | false =>
      rw [if_neg (by decide)]
      simp only [Bool.or_eq_false_iff] at hheard
      exact h.quiet rfl hheard.1.symm rfl rfl rfl rfl

/-- A source that is lost retires what was published. -/
theorem GenerationInv.validity_step {cfg : Config} {s : PtpState F n}
    (h : GenerationInv cfg s.view) {times : ValidityTimes}
    (he : KeepsGeneration cfg s (.validity times)) :
    GenerationStep cfg s.view ((DaemonEvent.validity times).apply cfg s).view := by
  unfold DaemonEvent.apply
  dsimp only
  rw [revalidate_view]
  cases hwas : s.view.valid with
  | true =>
    cases isSelectedSourceValid cfg s times with
    | true => exact h.quiet rfl hwas.symm rfl rfl rfl rfl
    | false => exact retired rfl (counts_once rfl)
  | false =>
    cases hvalid : isSelectedSourceValid cfg s times with
    | true => exact h.revived rfl (he hwas hvalid) rfl
    | false => exact h.quiet rfl hwas.symm rfl rfl rfl rfl

/-- **What one event does to what the generation stands for.** -/
theorem GenerationInv.step {cfg : Config} {s : PtpState F n} (h : GenerationInv cfg s.view)
    (e : DaemonEvent F n) (he : KeepsGeneration cfg s e) :
    GenerationStep cfg s.view (e.apply cfg s).view := by
  cases e with
  | received frame => exact h.received_step he (receive_effect cfg s frame)
  | capability times => exact h.capability_step times
  | validity times => exact h.validity_step he
  | localSource answers => exact h.localSource_step (ptpPublishLocalSource_view cfg s answers)
  | gmFields => exact h.filled (ptpFillGmFields_view s)
  | fallback nowUs dropping => exact h.profile_step (ptpCheckProfileFallback_view ..)
  | armFallback => exact h.profile_step (ptpArmProfileFallback_view ..)
  | setProfile profile => exact h.profile_step (ptpdSetProfile_view ..)
  | injectSync p message times =>
    by_cases htype : message.msgtype = .followUp
    · obtain ⟨w, hsource, hupdated⟩ := ptpdInjectSync_view cfg s p message times
      exact h.injected (he htype) hsource hupdated
    · unfold DaemonEvent.apply ptpdInjectSync
      dsimp only
      rw [if_pos htype]
      exact h.same
  | injectSyncPair p remoteNs localNs times =>
    unfold DaemonEvent.apply
    dsimp only
    rcases ptpdInjectSyncPair_view cfg s p remoteNs localNs times with heq | hupdated
    · rw [heq]
      exact h.same
    · exact h.clockUpdated rfl rfl rfl rfl rfl rfl hupdated
  | ftmObserved p identity domain logInterval receivedUs nowUs mono =>
    unfold DaemonEvent.apply
    dsimp only
    rcases ptpdFtmSourceObserved_view cfg s p identity domain logInterval receivedUs nowUs mono
      with heq | ⟨-, receipt, -, heq⟩
    · rw [heq]
      exact h.same
    · rw [heq]
      exact h.quiet rfl rfl rfl rfl rfl rfl
  | elsewhere other =>
    unfold DaemonEvent.apply
    dsimp only
    rw [other.view]
    exact h.same

theorem run_daemonStep (cfg : Config) (s : PtpState F n) (events : List (DaemonEvent F n)) :
    run (daemonStep cfg) s events = events.foldl (fun s e => DaemonEvent.apply cfg s e) s :=
  run_eq_foldl (fun _ _ => rfl) s events

/-- How far a run moves the generation on. -/
def increments (cfg : Config) : PtpState F n → List (DaemonEvent F n) → Nat
  | _, [] => 0
  | s, e :: es =>
    ((e.apply cfg s).view.generation - s.view.generation).toNat +
      increments cfg (e.apply cfg s) es

@[simp] theorem increments_nil (cfg : Config) (s : PtpState F n) : increments cfg s [] = 0 := rfl

theorem increments_cons (cfg : Config) (s : PtpState F n) (e : DaemonEvent F n)
    (es : List (DaemonEvent F n)) :
    increments cfg s (e :: es) =
      ((e.apply cfg s).view.generation - s.view.generation).toNat +
        increments cfg (e.apply cfg s) es := rfl

theorem increments_append (cfg : Config) (s : PtpState F n) (before after : List (DaemonEvent F n)) :
    increments cfg s (before ++ after) =
      increments cfg s before + increments cfg (run (daemonStep cfg) s before) after := by
  induction before generalizing s with
  | nil => simp
  | cons e es ih =>
    rw [List.cons_append, run_cons, increments_cons, increments_cons, ih, Nat.add_assoc]
    rfl

/-- The generation counts. -/
theorem generation_run (cfg : Config) (s : PtpState F n) (events : List (DaemonEvent F n)) :
    (run (daemonStep cfg) s events).view.generation =
      s.view.generation + UInt32.ofNat (increments cfg s events) := by
  induction events generalizing s with
  | nil => simp
  | cons e es ih =>
    rw [run_cons, ih, increments_cons, UInt32.ofNat_add, UInt32.ofNat_toNat, ← UInt32.add_assoc,
      UInt32.add_comm s.view.generation, UInt32.sub_add_cancel]
    rfl

/-- The generation is the same again only if it never moved. -/
theorem increments_eq_zero {cfg : Config} {s : PtpState F n} {events : List (DaemonEvent F n)}
    (hround : increments cfg s events < 2 ^ 32)
    (hsame : (run (daemonStep cfg) s events).view.generation = s.view.generation) :
    increments cfg s events = 0 := by
  rw [generation_run] at hsame
  have hzero : UInt32.ofNat (increments cfg s events) = 0 := by simpa using hsame
  have hval := congrArg UInt32.toNat hzero
  rw [UInt32.toNat_ofNat_of_lt' hround] at hval
  exact hval

/-- **A run keeps what the generation stands for** until it counts on. -/
theorem GenerationInv.run {cfg : Config} {s : PtpState F n} (h : GenerationInv cfg s.view)
    {events : List (DaemonEvent F n)}
    (hevents : Lib.Admissible (fun s e => DaemonEvent.apply cfg s e) (KeepsGeneration cfg) s events) :
    GenerationInv cfg (run (daemonStep cfg) s events).view ∧
      (increments cfg s events = 0 → ∀ identity, Taken s.toPtpTiming identity →
        Taken (run (daemonStep cfg) s events).toPtpTiming identity) := by
  induction events generalizing s with
  | nil => exact ⟨h, fun _ _ htaken => htaken⟩
  | cons e es ih =>
    have hstep := h.step e hevents.1
    obtain ⟨hinv, htaken⟩ := ih hstep.inv hevents.2
    refine ⟨hinv, fun hnone identity hwas => ?_⟩
    rw [increments_cons] at hnone
    have hsame : (e.apply cfg s).view.generation = s.view.generation := by
      have hzero : (e.apply cfg s).view.generation - s.view.generation = 0 := by
        apply UInt32.toNat_inj.mp
        rw [UInt32.toNat_zero]
        omega
      rw [← UInt32.sub_add_cancel (e.apply cfg s).view.generation s.view.generation, hzero,
        UInt32.zero_add]
    exact htaken (by omega) identity (hstep.taken hsame identity hwas)

/-! ## The generation identifies the time source -/

/-- What two reads say that were made of the same run, the second after the first. -/
def SameSource (cfg : Config) (s₀ : PtpState F n) (before after : List (DaemonEvent F n)) : Prop :=
  ∀ first second,
    Returned (run (daemonStep cfg) s₀ before).toPtpTiming first →
    Returned (run (daemonStep cfg) s₀ (before ++ after)).toPtpTiming second →
    first.generation = second.generation → first.identity = second.identity

/-- **Snapshots of one generation name one time source**, in a run where no source is
    selected beside a published local one. -/
theorem generation_sameSource (cfg : Config) (s₀ : PtpState F n)
    (hreceived : s₀.timingSnapshot.valid = false) (hlocal : s₀.localSourceSnapshot.valid = false)
    (before after : List (DaemonEvent F n))
    (hevents : Lib.Admissible (fun s e => DaemonEvent.apply cfg s e) (KeepsGeneration cfg) s₀
      (before ++ after))
    (hround : increments cfg s₀ (before ++ after) < 2 ^ 32) :
    SameSource cfg s₀ before after := by
  intro first second hfirst hsecond hsame
  have hstart : GenerationInv cfg s₀.view := by
    refine ⟨fun hvalid => ?_, fun hvalid => ?_⟩
    · cases hlocal.symm.trans hvalid
    · cases hreceived.symm.trans hvalid
  obtain ⟨hbefore, hafter⟩ := Lib.Admissible.append.mp hevents
  rw [← run_daemonStep] at hafter
  have hthen := (hstart.run hbefore).1
  obtain ⟨hnow, hkept⟩ := hthen.run hafter
  rw [← run_append] at hnow hkept
  obtain ⟨htaken₁, hgeneration₁⟩ := hthen.returned hfirst
  obtain ⟨htaken₂, hgeneration₂⟩ := hnow.returned hsecond
  have hnone : increments cfg (run (daemonStep cfg) s₀ before) after = 0 := by
    apply increments_eq_zero
    · rw [increments_append] at hround
      omega
    · rw [← run_append, ← hgeneration₁, ← hgeneration₂, hsame]
  exact hnow.unique (hkept hnone _ htaken₁) htaken₂

/-! ## A source that comes back -/

namespace Sample

/-- A frame handled at this time. -/
def readAt (us : Int) : RxReadings :=
  { (default : RxReadings) with followup := ⟨us, ⟨default, true, true⟩, us, us⟩ }

/-- The neighbor is selected. -/
def selecting : List (DaemonEvent ℚ 0) :=
  [.received (frameOf (neighborAnnounce 100) (readAt 5)), .validity default]

/-- Its Sync and Follow_Up are received, and published. -/
def publishing : List (DaemonEvent ℚ 0) :=
  [.received (frameOf (neighborSync true (Vector.replicate 10 0)) (readAt 5)),
    .received (frameOf (neighborFollowUp 0) (readAt 5))]

/-- Without a capable peer the daemon is its own source. -/
def losing : List (DaemonEvent ℚ 0) :=
  [.elsewhere (peerChanges false), .capability default, .validity default,
    .localSource ⟨some default, 6, default⟩]

/-- The peer is capable again, before the receipts have timed out. -/
def regaining : List (DaemonEvent ℚ 0) :=
  [.elsewhere (peerChanges true), .capability default,
    .validity { (default : ValidityTimes) with receiptUs := 7 },
    .localSource ⟨some default, 8, default⟩] ++ publishing

end Sample

/-- The local source's publication, and the next one of the neighbor, which is valid again
    without an Announce, have one generation. -/
theorem not_generation_sameSource :
    ¬ ∀ (cfg : Config) (s₀ : PtpState ℚ 0) (before after : List (DaemonEvent ℚ 0)),
      s₀.timingSnapshot.valid = false → s₀.localSourceSnapshot.valid = false →
      increments cfg s₀ (before ++ after) < 2 ^ 32 → SameSource cfg s₀ before after := by
  intro hclaim
  have hsame := hclaim Sample.config Sample.alone
    (Sample.selecting ++ Sample.publishing ++ Sample.losing) Sample.regaining rfl rfl
    (by decide +kernel) _ _ (.timeSource 9 rfl (by decide +kernel))
    (.timeSource 9 rfl (by decide +kernel)) (by decide +kernel)
  exact absurd hsame (by decide +kernel)

/-- The neighbor is published, and still is when the fields are filled in. -/
theorem generation_sameSource_neighbor :
    SameSource Sample.config Sample.alone (Sample.selecting ++ Sample.publishing) [.gmFields] ∧
      (ptpdTimingSnapshot (run (daemonStep Sample.config) Sample.alone
        (Sample.selecting ++ Sample.publishing)).toPtpTiming 5).valid = true :=
  ⟨generation_sameSource Sample.config Sample.alone rfl rfl _ _ (by decide +kernel)
    (by decide +kernel), by decide +kernel⟩

end EspPtp
