import EspPtp.Daemon.ClockCalls

/-!
# Publishing against invalidations

Both publishers read the daemon's state, compute a snapshot, and write it in a section of
its own; `ptp_invalidate_timing`, from whatever task, can come between any two of these.
The steps below are what happens between two sections, or in one. The Follow_Up handler
reads the generation before and after the clock's update and compares it once more in the
section that publishes. `ptp_publish_local_source` checks first and writes last, and does
not look again.

The ghosts count: how many invalidations there were, and how many there had been when the
first thing was read that went into each of the two snapshots. A snapshot that is valid is
not older than the last invalidation if the two agree.
-/

namespace EspPtp

open Lib

variable {F : Type} {n : Nat}

/-! ## The system -/

/-- A Follow_Up in hand. -/
structure FollowHandling where
  message : Bytes
  /-- The invalidations before the handler read anything. -/
  firstRead : Nat
  deriving DecidableEq

/-- Where the daemon is with a publication. `seen` are the invalidations before the
    handler's first look at the generation. -/
inductive PublisherPhase where
  | idle
  | localEnding
  | localEligible (firstRead : Nat)
  | localComputed (firstRead : Nat) (next : PtpTimingSnapshot)
  | followTaken (handling : FollowHandling)
  | followPrevious (handling : FollowHandling) (previous : UInt32) (seen : Nat)
  | followUpdated (handling : FollowHandling) (previous : UInt32) (seen : Nat) (ok : Bool)
  | followCurrent (handling : FollowHandling) (previous : UInt32) (seen : Nat) (ok : Bool)
      (current : PtpTimingSnapshot)
  | followComputed (handling : FollowHandling) (previous : UInt32) (seen : Nat)
      (current next : PtpTimingSnapshot)
  deriving DecidableEq

/-- A publisher has read something, and does not look at the generation until it has
    published, or not yet. -/
def PublisherPhase.exposed : PublisherPhase → Bool
  | .localEligible _ | .localComputed .. | .followTaken _ => true
  | _ => false

/-- The count when the Follow_Up handler looked at the generation. -/
def PublisherPhase.seen? : PublisherPhase → Option Nat
  | .followPrevious _ _ seen | .followUpdated _ _ seen _ | .followCurrent _ _ seen _ _
  | .followComputed _ _ seen _ _ => some seen
  | _ => none

/-- The daemon's state, which other tasks write too, and the ghosts. -/
structure Publication (F : Type) (n : Nat) where
  daemon : PtpState F n
  phase : PublisherPhase
  invalidations : Nat
  timingRead : Nat
  localRead : Nat

/-- What another task writes besides. -/
structure OtherWrite (F : Type) (n : Nat) where
  act : PtpState F n → PtpState F n
  timing : ∀ s, (act s).toPtpTiming = s.toPtpTiming

inductive PublicationStep (F : Type) (n : Nat) where
  /-- `ptp_publish_local_source`. -/
  | localCheck
  | localEnd
  | localCompute (answers : LocalSourceAnswers)
  | localPublish
  /-- `ptp_process_followup`. -/
  | followTake (message : Bytes) (nowUs : Int)
  | followPrevious
  | followUpdate (clock : ClockAnswers)
  | followCurrent
  | followCompute (observedUs publishedUs : Int)
  | followPublish
  /-- Other tasks, or the daemon elsewhere. -/
  | invalidate
  | write (other : OtherWrite F n)

/-- A call of `ptp_invalidate_timing` outside the two publishers. -/
def PublicationStep.invalidates : PublicationStep F n → Bool
  | .invalidate => true
  | _ => false

namespace Publication

/-- A daemon with nothing published. -/
def start (s : PtpState F n) : Publication F n := ⟨s, .idle, 0, 0, 0⟩

/-! ## What is kept -/

/-- **No invalidation is lost**: what is valid was computed from what was read after the last
    of them. -/
structure NoneLost (p : Publication F n) : Prop where
  received : p.daemon.timingSnapshot.valid = true → p.timingRead = p.invalidations
  localSource : p.daemon.localSourceSnapshot.valid = true → p.localRead = p.invalidations

/-- The generation counts the invalidations since the handler looked at it. -/
structure Counts (p : Publication F n) (handling : FollowHandling) (previous : UInt32)
    (seen : Nat) : Prop where
  firstRead : handling.firstRead = seen
  before : seen ≤ p.invalidations
  round : p.invalidations < seen + 2 ^ 32
  generation : p.daemon.timingSnapshot.generation.toNat =
    (previous.toNat + (p.invalidations - seen)) % 2 ^ 32

/-- The generation is the same only if there was no invalidation. -/
theorem Counts.unchanged {p : Publication F n} {handling : FollowHandling} {previous : UInt32}
    {seen : Nat} (h : p.Counts handling previous seen)
    (hsame : p.daemon.timingSnapshot.generation = previous) :
    handling.firstRead = p.invalidations := by
  obtain ⟨hfirst, hbefore, hround, hgeneration⟩ := h
  have hlt := previous.toNat_lt
  rw [hsame] at hgeneration
  omega

/-- What holds of a publication under way. -/
def Consistent (p : Publication F n) : PublisherPhase → Prop
  | .idle | .localEnding => True
  | .localEligible firstRead | .localComputed firstRead _ => firstRead = p.invalidations
  | .followTaken handling => handling.firstRead = p.invalidations
  | .followPrevious handling previous seen | .followUpdated handling previous seen _
  | .followCurrent handling previous seen _ _ => p.Counts handling previous seen
  | .followComputed handling previous seen current _ =>
    p.Counts handling previous seen ∧ current.generation = previous

/-- The invariant. -/
structure Inv (p : Publication F n) : Prop where
  noneLost : p.NoneLost
  phase : p.Consistent p.phase

/-- The generation has not come round since the Follow_Up handler looked at it. -/
def InRound (p : Publication F n) : Prop :=
  ∀ seen ∈ p.phase.seen?, p.invalidations < seen + 2 ^ 32

theorem Inv.start {s : PtpState F n} (hreceived : s.timingSnapshot.valid = false)
    (hlocal : s.localSourceSnapshot.valid = false) : (Publication.start s).Inv := by
  refine ⟨⟨?_, ?_⟩, trivial⟩
  · intro hvalid
    cases hreceived.symm.trans hvalid
  · intro hvalid
    cases hlocal.symm.trans hvalid

/-- One more invalidation counts. -/
theorem Counts.invalidate {p p' : Publication F n} {handling : FollowHandling}
    {previous : UInt32} {seen : Nat} (h : p.Counts handling previous seen)
    (hcount : p'.invalidations = p.invalidations + 1)
    (hgeneration : p'.daemon.timingSnapshot.generation =
      p.daemon.timingSnapshot.generation + 1)
    (hround : p'.invalidations < seen + 2 ^ 32) : p'.Counts handling previous seen := by
  obtain ⟨hfirst, hbefore, hold, hwas⟩ := h
  refine ⟨hfirst, by omega, hround, ?_⟩
  rw [hgeneration, toNat_add_one_mod hwas, hcount]
  congr 1
  omega

/-- What a publication rests on only depends on the count and the generation. -/
theorem Counts.congr {p p' : Publication F n} {handling : FollowHandling} {previous : UInt32}
    {seen : Nat} (h : p.Counts handling previous seen)
    (hcount : p'.invalidations = p.invalidations)
    (hgeneration : p'.daemon.timingSnapshot.generation =
      p.daemon.timingSnapshot.generation) : p'.Counts handling previous seen := by
  obtain ⟨hfirst, hbefore, hround, hwas⟩ := h
  refine ⟨hfirst, ?_, ?_, ?_⟩
  · rw [hcount]
    exact hbefore
  · rw [hcount]
    exact hround
  · rw [hgeneration, hcount]
    exact hwas

theorem Consistent.congr {p p' : Publication F n} {phase : PublisherPhase}
    (h : p.Consistent phase) (hcount : p'.invalidations = p.invalidations)
    (hgeneration : p'.daemon.timingSnapshot.generation =
      p.daemon.timingSnapshot.generation) : p'.Consistent phase := by
  cases phase with
  | idle | localEnding => trivial
  | localEligible firstRead => exact h.trans hcount.symm
  | localComputed firstRead next => exact h.trans hcount.symm
  | followTaken handling => exact h.trans hcount.symm
  | followPrevious handling previous seen => exact Counts.congr h hcount hgeneration
  | followUpdated handling previous seen ok => exact Counts.congr h hcount hgeneration
  | followCurrent handling previous seen ok current => exact Counts.congr h hcount hgeneration
  | followComputed handling previous seen current next => exact ⟨h.1.congr hcount hgeneration, h.2⟩

/-- An invalidation that a publisher under way will notice. -/
theorem Consistent.invalidate {p p' : Publication F n} {phase : PublisherPhase}
    (h : p.Consistent phase) (hexposed : phase.exposed = false)
    (hcount : p'.invalidations = p.invalidations + 1)
    (hgeneration : p'.daemon.timingSnapshot.generation =
      p.daemon.timingSnapshot.generation + 1)
    (hround : ∀ seen ∈ phase.seen?, p'.invalidations < seen + 2 ^ 32) :
    p'.Consistent phase := by
  cases phase with
  | idle | localEnding => trivial
  | localEligible | localComputed | followTaken => cases hexposed
  | followPrevious handling previous seen =>
    exact Counts.invalidate h hcount hgeneration (hround seen rfl)
  | followUpdated handling previous seen ok =>
    exact Counts.invalidate h hcount hgeneration (hround seen rfl)
  | followCurrent handling previous seen ok current =>
    exact Counts.invalidate h hcount hgeneration (hround seen rfl)
  | followComputed handling previous seen current next =>
    exact ⟨h.1.invalidate hcount hgeneration (hround seen rfl), h.2⟩

end Publication

/-! ## The publishers, step by step -/

variable [CDouble F]

/-- The call of `ptp_update_local_clock` for a Follow_Up in hand. -/
def FollowHandling.update (s : PtpState F n) (handling : FollowHandling) (clock : ClockAnswers) :
    ClockUpdate F n :=
  ⟨s, ⟨ptpFormatToTimespec (PtpFollowUp.read handling.message).origintimestamp,
    s.port0.twostepRxtime⟩, clock⟩

namespace Publication

/-- The check of `ptp_publish_local_source`. -/
def localCheck (cfg : Config) (p : Publication F n) : Publication F n :=
  if p.daemon.originates cfg then { p with phase := .localEligible p.invalidations }
  else { p with phase := .localEnding }

/-- The section for a clock that is not its own source. -/
def localEnd (p : Publication F n) : Publication F n :=
  { p with
    daemon :=
      { p.daemon with
        localSourceSnapshot := { p.daemon.localSourceSnapshot with valid := false } }
    phase := .idle }

/-- The time and the message. -/
def localCompute (cfg : Config) (p : Publication F n) (firstRead : Nat)
    (answers : LocalSourceAnswers) : Publication F n :=
  match answers.origin with
  | none => { p with phase := .idle }
  | some origin =>
    if origin.tvSec < 0 then { p with phase := .idle }
    else
      let marshalled := ptpMarshalFollowUp cfg p.daemon 0 answers.now
      { p with
        daemon := marshalled.1
        phase := .localComputed firstRead
          (localSnapshot cfg p.daemon 0 marshalled.2 origin answers.publishedUs) }

/-- The section that publishes it. -/
def localPublish (p : Publication F n) (firstRead : Nat) (next : PtpTimingSnapshot) :
    Publication F n :=
  let t := p.daemon.timingSnapshot
  let generation := if t.generation = 0 then 1 else t.generation
  { p with
    daemon :=
      { p.daemon with
        timingSnapshot := { t with generation := generation }
        localSourceSnapshot := { next with generation := generation } }
    phase := .idle
    localRead := firstRead }

/-- The checks of `ptp_process_followup`, and what it takes over. -/
def followTake (p : Publication F n) (message : Bytes) (nowUs : Int) : Publication F n :=
  if followupAccepted p.daemon message nowUs then
    { p with
      daemon := followupTaken p.daemon (PtpFollowUp.read message)
      phase := .followTaken ⟨message, p.invalidations⟩ }
  else p

/-- The update of the clock. A jump is an invalidation, too. -/
def followUpdate (cfg : Config) (p : Publication F n) (handling : FollowHandling)
    (previous : UInt32) (seen : Nat) (clock : ClockAnswers) : Publication F n :=
  let update := handling.update p.daemon clock
  { p with
    daemon := (update.result cfg).1
    phase := .followUpdated handling previous seen (update.result cfg).2
    invalidations := if update.jumps cfg then p.invalidations + 1 else p.invalidations }

/-- The receipt of the Sync, and the snapshot. -/
def followCompute (cfg : Config) (p : Publication F n) (handling : FollowHandling)
    (previous : UInt32) (seen : Nat) (ok : Bool) (current : PtpTimingSnapshot)
    (observedUs publishedUs : Int) : Publication F n :=
  let s := p.daemon
  let observes := ok && s.isGptp && ptpTimingPayloadValid handling.message 76
  let s :=
    if observes then
      s.withPort0
        { s.port0 with
          syncReceipt :=
            (ptpSyncReceiptObserve s.port0.syncReceipt observedUs
              s.port0.twostepPacket.header.logmessageinterval.toInt8.toInt observedUs).1 }
    else s
  if observes && decide (current.generation = previous) && s.selectedSourceValid then
    { p with
      daemon := s
      phase := .followComputed handling previous seen current
        (followupSnapshot cfg { s with timingSnapshot := current }
          (PtpFollowUp.read handling.message) publishedUs) }
  else { p with daemon := s, phase := .idle }

/-- The section that publishes it, if nothing came in between. -/
def followPublish (p : Publication F n) (handling : FollowHandling)
    (current next : PtpTimingSnapshot) : Publication F n :=
  if p.daemon.timingSnapshot.generation = current.generation then
    { p with
      daemon := { p.daemon with timingSnapshot := next }
      phase := .idle
      timingRead := handling.firstRead }
  else { p with phase := .idle }

/-- `ptp_invalidate_timing`. -/
def invalidate (p : Publication F n) : Publication F n :=
  { p with
    daemon := p.daemon.invalidateTiming
    invalidations := p.invalidations + 1 }

/-- A step is taken in its phase. -/
def step (cfg : Config) (p : Publication F n) (e : PublicationStep F n) : Publication F n :=
  match e, p.phase with
  | .localCheck, .idle => p.localCheck cfg
  | .localEnd, .localEnding => p.localEnd
  | .localCompute answers, .localEligible firstRead => p.localCompute cfg firstRead answers
  | .localPublish, .localComputed firstRead next => p.localPublish firstRead next
  | .followTake message nowUs, .idle => p.followTake message nowUs
  | .followPrevious, .followTaken handling =>
    { p with
      phase := .followPrevious handling p.daemon.timingSnapshot.generation p.invalidations }
  | .followUpdate clock, .followPrevious handling previous seen =>
    p.followUpdate cfg handling previous seen clock
  | .followCurrent, .followUpdated handling previous seen ok =>
    { p with phase := .followCurrent handling previous seen ok p.daemon.timingSnapshot }
  | .followCompute observedUs publishedUs, .followCurrent handling previous seen ok current =>
    p.followCompute cfg handling previous seen ok current observedUs publishedUs
  | .followPublish, .followComputed handling _ _ current next =>
    p.followPublish handling current next
  | .invalidate, _ => p.invalidate
  | .write other, _ => { p with daemon := other.act p.daemon }
  | _, _ => p

/-! ## Undisturbed, they are the functions -/

/-- The steps of `ptp_publish_local_source`. -/
def localSteps (answers : LocalSourceAnswers) : List (PublicationStep F n) :=
  [.localCheck, .localEnd, .localCompute answers, .localPublish]

/-- The steps of `ptp_process_followup`. -/
def followSteps (message : Bytes) (times : FollowupTimes) : List (PublicationStep F n) :=
  [.followTake message times.nowUs, .followPrevious, .followUpdate times.clock, .followCurrent,
    .followCompute times.observedUs times.publishedUs, .followPublish]

theorem localSteps_eq (cfg : Config) (p : Publication F n) (h : p.phase = .idle)
    (answers : LocalSourceAnswers) :
    ((localSteps answers).foldl (step cfg) p).daemon =
      ptpPublishLocalSource cfg p.daemon answers := by
  unfold localSteps ptpPublishLocalSource
  simp only [List.foldl_cons, List.foldl_nil]
  cases horiginates : p.daemon.originates cfg with
  | false => simp [step, h, localCheck, horiginates, localEnd]
  | true =>
    cases horigin : answers.origin with
    | none => simp [step, h, localCheck, horiginates, localCompute, horigin]
    | some origin =>
      by_cases hnegative : origin.tvSec < 0
      · simp [step, h, localCheck, horiginates, localCompute, horigin, hnegative]
      · simp [step, h, localCheck, horiginates, localCompute, horigin, hnegative, localPublish,
          localSnapshot]

/-- The last two steps are what follows the update of the clock. -/
theorem followCompute_publish (cfg : Config) (p : Publication F n) (handling : FollowHandling)
    (previous : UInt32) (seen : Nat) (ok : Bool) (times : FollowupTimes) :
    (step cfg
        (p.followCompute cfg handling previous seen ok p.daemon.timingSnapshot times.observedUs
          times.publishedUs) .followPublish).daemon =
      followupPublish cfg p.daemon handling.message previous ok times := by
  unfold followCompute followupPublish
  dsimp only
  generalize hreceipt :
    (if ok && p.daemon.isGptp && ptpTimingPayloadValid handling.message 76 then _ else _ :
      PtpState F n) = s
  have hcurrent : s.timingSnapshot = p.daemon.timingSnapshot := by
    rw [← hreceipt]
    split <;> rfl
  rw [← hcurrent]
  split
  · -- The section finds the generation it compares with.
    unfold step followPublish
    dsimp only
    rw [if_pos rfl]
  · rfl

theorem followSteps_eq (cfg : Config) (p : Publication F n) (h : p.phase = .idle)
    (message : Bytes) (times : FollowupTimes) :
    ((followSteps message times).foldl (step cfg) p).daemon =
      ptpProcessFollowup cfg p.daemon message times := by
  unfold followSteps ptpProcessFollowup
  simp only [List.foldl_cons, List.foldl_nil]
  have htake : step cfg p (.followTake message times.nowUs) = p.followTake message times.nowUs := by
    unfold step
    rw [h]
  rw [htake]
  unfold followTake
  cases haccepted : followupAccepted p.daemon message times.nowUs with
  | false => simp [step, h]
  | true => exact followCompute_publish ..

/-! ## Runs -/

/-- The steps of the runs: nobody invalidates where a publisher would not notice, nor until
    the generation comes round. -/
def Sound (cfg : Config) (p : Publication F n) (e : PublicationStep F n) : Prop :=
  (e.invalidates = true → p.phase.exposed = false) ∧ (p.step cfg e).InRound

instance (cfg : Config) (p : Publication F n) (e : PublicationStep F n) :
    Decidable (p.Sound cfg e) :=
  inferInstanceAs (Decidable ((e.invalidates = true → p.phase.exposed = false) ∧
    ∀ seen ∈ (p.step cfg e).phase.seen?, (p.step cfg e).invalidations < seen + 2 ^ 32))

variable {cfg : Config} {p p' : Publication F n}

omit [CDouble F] in
/-- Nothing was published, and nothing retired. -/
theorem Inv.quiet (h : p.Inv) (htiming : p'.daemon.toPtpTiming = p.daemon.toPtpTiming)
    (hcount : p'.invalidations = p.invalidations) (hreceived : p'.timingRead = p.timingRead)
    (hlocal : p'.localRead = p.localRead) (hphase : p'.Consistent p'.phase) : p'.Inv := by
  refine ⟨⟨?_, ?_⟩, hphase⟩
  · rw [htiming, hreceived, hcount]
    exact h.noneLost.received
  · rw [htiming, hlocal, hcount]
    exact h.noneLost.localSource

omit [CDouble F] in
/-- After an invalidation nothing is valid. -/
theorem Inv.retired {timing : PtpTiming}
    (htiming : p'.daemon.toPtpTiming = ptpInvalidateTiming timing)
    (hphase : p'.Consistent p'.phase) : p'.Inv := by
  refine ⟨⟨?_, ?_⟩, hphase⟩ <;>
  · rw [htiming]
    intro hvalid
    cases hvalid

/-- The clock's update retires what was published exactly if it jumps. -/
theorem result_timing (cfg : Config) (u : ClockUpdate F n) :
    (u.result cfg).1.toPtpTiming =
      if u.jumps cfg then ptpInvalidateTiming u.state.toPtpTiming else u.state.toPtpTiming := by
  unfold ClockUpdate.result ClockUpdate.jumps ptpUpdateLocalClock
  dsimp only
  split
  · rfl
  · exact congrArg SourceView.timing
      (ptpLockLocalClockFreq_view cfg u.state u.call.remote u.call.localTime u.clock)

omit [CDouble F] in
theorem Inv.localCheck (h : p.Inv) : (p.localCheck cfg).Inv := by
  unfold Publication.localCheck
  split
  · exact h.quiet rfl rfl rfl rfl rfl
  · exact h.quiet rfl rfl rfl rfl trivial

omit [CDouble F] in
theorem Inv.localEnd (h : p.Inv) : p.localEnd.Inv := by
  refine ⟨⟨h.noneLost.received, ?_⟩, trivial⟩
  intro hvalid
  cases hvalid

omit [CDouble F] in
theorem Inv.localCompute (h : p.Inv) {firstRead : Nat} (hread : firstRead = p.invalidations)
    (answers : LocalSourceAnswers) : (p.localCompute cfg firstRead answers).Inv := by
  unfold Publication.localCompute
  split
  · exact h.quiet rfl rfl rfl rfl trivial
  · split
    · exact h.quiet rfl rfl rfl rfl trivial
    · exact h.quiet rfl rfl rfl rfl hread

omit [CDouble F] in
theorem Inv.localPublish (h : p.Inv) {firstRead : Nat} (hread : firstRead = p.invalidations)
    (next : PtpTimingSnapshot) : (p.localPublish firstRead next).Inv :=
  ⟨⟨h.noneLost.received, fun _ => hread⟩, trivial⟩

theorem Inv.followTake (h : p.Inv) (message : Bytes) (nowUs : Int) :
    (p.followTake message nowUs).Inv := by
  unfold Publication.followTake
  split
  · have htiming := congrArg SourceView.timing
      (followupTaken_view p.daemon (PtpFollowUp.read message))
    exact h.quiet htiming rfl rfl rfl rfl
  · exact h

/-- A jump is noticed like an invalidation of another task. -/
theorem Inv.followUpdate (h : p.Inv) {handling : FollowHandling} {previous : UInt32} {seen : Nat}
    (hcounts : p.Counts handling previous seen) (clock : ClockAnswers)
    (hround : (p.followUpdate cfg handling previous seen clock).InRound) :
    (p.followUpdate cfg handling previous seen clock).Inv := by
  have hseen := hround seen rfl
  have htiming := result_timing cfg (handling.update p.daemon clock)
  unfold Publication.followUpdate at hseen ⊢
  dsimp only at hseen ⊢
  cases hjumps : (handling.update p.daemon clock).jumps cfg with
  | true =>
    rw [hjumps, if_pos rfl] at hseen htiming
    refine Inv.retired htiming (Counts.invalidate hcounts ?_ ?_ ?_)
    · rw [if_pos rfl]
    · exact congrArg (fun t => t.timingSnapshot.generation) htiming
    · rw [if_pos rfl]
      exact hseen
  | false =>
    rw [hjumps, if_neg (by decide)] at htiming
    rw [if_neg (by decide)]
    exact h.quiet htiming rfl rfl rfl
      (Counts.congr hcounts rfl (congrArg (fun t => t.timingSnapshot.generation) htiming))

/-- The handler goes on only with the generation it looked at first. -/
theorem Inv.followCompute (h : p.Inv) {handling : FollowHandling} {previous : UInt32}
    {seen : Nat} (hcounts : p.Counts handling previous seen) (ok : Bool)
    (current : PtpTimingSnapshot) (observedUs publishedUs : Int) :
    (p.followCompute cfg handling previous seen ok current observedUs publishedUs).Inv := by
  unfold Publication.followCompute
  dsimp only
  generalize hreceipt :
    (if ok && p.daemon.isGptp && ptpTimingPayloadValid handling.message 76 then _ else _ :
      PtpState F n) = s
  have htiming : s.toPtpTiming = p.daemon.toPtpTiming := by
    rw [← hreceipt]
    split <;> rfl
  split
  · rename_i hpublishes
    simp only [Bool.and_eq_true, decide_eq_true_eq] at hpublishes
    refine h.quiet htiming rfl rfl rfl ⟨Counts.congr hcounts rfl ?_, hpublishes.1.2⟩
    exact congrArg (fun t => t.timingSnapshot.generation) htiming
  · exact h.quiet htiming rfl rfl rfl trivial

omit [CDouble F] in
/-- The section compares with what the handler looked at, so nothing was lost. -/
theorem Inv.followPublish (h : p.Inv) {handling : FollowHandling} {previous : UInt32}
    {seen : Nat} {current : PtpTimingSnapshot} (hcounts : p.Counts handling previous seen)
    (hcurrent : current.generation = previous) (next : PtpTimingSnapshot) :
    (p.followPublish handling current next).Inv := by
  unfold Publication.followPublish
  split
  · rename_i hsame
    exact ⟨⟨fun _ => hcounts.unchanged (hsame.trans hcurrent), h.noneLost.localSource⟩, trivial⟩
  · exact h.quiet rfl rfl rfl rfl trivial

omit [CDouble F] in
theorem Inv.invalidate (h : p.Inv) (hexposed : p.phase.exposed = false)
    (hround : p.invalidate.InRound) : p.invalidate.Inv :=
  Inv.retired rfl (h.phase.invalidate hexposed rfl rfl hround)

/-- **One step of a sound run keeps the invariant.** -/
theorem Inv.step (h : p.Inv) (e : PublicationStep F n) (hsound : p.Sound cfg e) :
    (p.step cfg e).Inv := by
  obtain ⟨hexposed, hround⟩ := hsound
  have hphase := h.phase
  generalize hat : p.phase = phase at hphase
  unfold Publication.step at hround ⊢
  rw [hat] at hround ⊢
  cases e with
  | invalidate =>
    rw [hat] at hexposed
    exact h.invalidate (hat ▸ hexposed rfl) hround
  | write other =>
    have hconsistent : p.Consistent phase := hphase
    exact h.quiet (other.timing _) rfl rfl rfl
      (hconsistent.congr rfl
        (congrArg (fun t => t.timingSnapshot.generation) (other.timing p.daemon)))
  | localCheck =>
    cases phase with
    | idle => exact h.localCheck
    | _ => exact h
  | localEnd =>
    cases phase with
    | localEnding => exact h.localEnd
    | _ => exact h
  | localCompute answers =>
    cases phase with
    | localEligible firstRead => exact h.localCompute hphase answers
    | _ => exact h
  | localPublish =>
    cases phase with
    | localComputed firstRead next => exact h.localPublish hphase next
    | _ => exact h
  | followTake message nowUs =>
    cases phase with
    | idle => exact h.followTake message nowUs
    | _ => exact h
  | followPrevious =>
    cases phase with
    | followTaken handling =>
      refine h.quiet rfl rfl rfl rfl ⟨hphase, Nat.le_refl _, hround _ rfl, ?_⟩
      show p.daemon.timingSnapshot.generation.toNat =
        (p.daemon.timingSnapshot.generation.toNat + (p.invalidations - p.invalidations)) % 2 ^ 32
      rw [Nat.sub_self, Nat.add_zero, Nat.mod_eq_of_lt (UInt32.toNat_lt _)]
    | _ => exact h
  | followUpdate clock =>
    cases phase with
    | followPrevious handling previous seen => exact h.followUpdate hphase clock hround
    | _ => exact h
  | followCurrent =>
    cases phase with
    | followUpdated handling previous seen ok =>
      exact h.quiet rfl rfl rfl rfl (Counts.congr hphase rfl rfl)
    | _ => exact h
  | followCompute observedUs publishedUs =>
    cases phase with
    | followCurrent handling previous seen ok current =>
      exact h.followCompute hphase ok current observedUs publishedUs
    | _ => exact h
  | followPublish =>
    cases phase with
    | followComputed handling previous seen current next =>
      exact h.followPublish hphase.1 hphase.2 next
    | _ => exact h

end Publication

/-- **In every run without an invalidation at an exposed moment, none is lost.** -/
theorem publication_noneLost (cfg : Config) (s : PtpState F n)
    (hreceived : s.timingSnapshot.valid = false) (hlocal : s.localSourceSnapshot.valid = false)
    {p : Publication F n}
    (h : Reached (Publication.step cfg) (Publication.Sound cfg) (Publication.start s) p) :
    p.NoneLost := by
  have hinv : p.Inv := by
    apply h.invariant
    · exact .start hreceived hlocal
    · intro q e hsound hq
      exact hq.step e hsound
  exact hinv.noneLost

/-! ## A change of profile in the middle -/

namespace Sample

/-- The profile's fields are set to standard, by another task. -/
def leaveGptp : OtherWrite ℚ 0 where
  act s := { s with activePtpProfile := .standard, preferredPtpProfile := .standard }
  timing _ := rfl

def originAnswers : LocalSourceAnswers := ⟨some ⟨1, 0⟩, 1, ⟨1, 0⟩⟩

/-- The local source is checked, then the profile changes and what is published is retired,
    and then the local source is published. -/
def lostInvalidation : List (PublicationStep ℚ 0) :=
  [.localCheck, .write leaveGptp, .invalidate, .localCompute originAnswers, .localPublish]

end Sample

/-- An invalidation before and one after a publication. -/
theorem publication_noneLost_local :
    (((Publication.start Sample.alone).daemon.timingSnapshot.valid = false ∧
        (Publication.start Sample.alone).daemon.localSourceSnapshot.valid = false) ∧
      ([.invalidate, .localCheck, .localCompute Sample.originAnswers, .localPublish,
          .write Sample.leaveGptp].foldl (Publication.step Sample.config)
        (Publication.start Sample.alone)).NoneLost) := by
  refine ⟨⟨rfl, rfl⟩, publication_noneLost Sample.config Sample.alone rfl rfl ?_⟩
  apply Reached.init.of_steps
  decide +kernel

/-- The local source is published although its check was made in the profile that was
    left. -/
theorem not_publication_noneLost :
    ¬ ∀ (cfg : Config) (s : PtpState ℚ 0) (steps : List (PublicationStep ℚ 0)),
      s.timingSnapshot.valid = false → s.localSourceSnapshot.valid = false →
      (steps.foldl (Publication.step cfg) (Publication.start s)).NoneLost := by
  intro hclaim
  have hlocal := (hclaim Sample.config Sample.alone Sample.lostInvalidation rfl rfl).localSource
  exact absurd (hlocal (by decide +kernel)) (by decide +kernel)

end EspPtp
