import EspPtp.Peer.Capability

/-!
# No measurement spans a clock step

The Follow_Up handler copies the rate out under the lock, updates the copy outside it and
writes it back under the lock. A clock step in between sets `reanchor` in the *original*;
what keeps the copy from overwriting it is that the step also abandons the exchange, so the
generation the commit compares has moved. Two consequences carry the rest:

* a commit finds the rate exactly as its handler copied it — there are no stale copies, only
  handlers that may not write;
* between the begin of a committed exchange and its commit, nothing renewed the generation.

A newly measured ratio then spans an interval that began in an earlier commit and that no
step or link change interrupted: a step would have left `reanchor` set, a link change another
lifecycle, and `ptp_peer_rate_update` measures in neither case.
-/

namespace EspPtp

open Lib

variable {F ι : Type}

/-- A clock step or a link change. -/
def PortOutcome.interrupts : PortOutcome F → Bool
  | .stepped | .link true => true
  | _ => false

/-- A commit. -/
def PortOutcome.commits : PortOutcome F → Bool
  | .committed _ => true
  | _ => false

theorem PortOutcome.interrupts_renews {out : PortOutcome F} (h : out.renews = false) :
    out.interrupts = false := by
  cases out with
  | link changed =>
    cases changed with
    | false => rfl
    | true => cases h
  | stepped => cases h
  | _ => rfl

/-- The request of generation `g` began and no other lifetime since. -/
def BegunSince (g : UInt32) (h : PortHistory F ι) : Prop :=
  Since (fun _ (x : PortEvent F ι × PortOutcome F) => x.2 = .begun g)
    (fun x => x.2.renews = false) h

/-- The exchange `first` began, was committed, and the history since its **begin** holds no
    clock step and no link change, and no other commit since its own. -/
def SampledSince (first : PeerCommit F) (h : PortHistory F ι) : Prop :=
  Since
    (fun before x => x.2 = .committed first ∧
      Since (fun _ (y : PortEvent F ι × PortOutcome F) =>
        y.2 = .begun first.handling.measurement.generation)
        (fun y => y.2.interrupts = false) before)
    (fun x => x.2.interrupts = false ∧ x.2.commits = false) h

variable [CDouble F]

/-! ## The sample of a commit -/

/-- The rate a measurement updates, and by what: the arguments `ptp_peer_rate_update` is
    called with. -/
def PeerHandling.updatedRate (handling : PeerHandling F) : PtpPeerRate F :=
  (ptpPeerRateUpdate handling.rate handling.measurement.lifecycle
    handling.followUp.header.sourcePort
    (ptpFormatToTimespec handling.followUp.origintimestamp)
    (ptpPeerCorrection handling.followUp.header.correction) handling.measurement.receive).1

theorem evaluateFollowUp_rate {cfg : Config} {handling : PeerHandling F}
    {evaluation : PeerEvaluation F} (h : evaluateFollowUp cfg handling = some evaluation) :
    evaluation.rate = handling.updatedRate := by
  unfold evaluateFollowUp at h
  dsimp only at h
  split at h
  · cases h
  · cases h
    rfl

/-- The record's sample is that of `handling`. -/
def PeerHandling.SampleOf (handling : PeerHandling F) (rate : PtpPeerRate F) : Prop :=
  PtpPeerRate.EndsIn handling.measurement.lifecycle handling.followUp.header.sourcePort
    (ptpFormatToTimespec handling.followUp.origintimestamp)
    (ptpPeerCorrection handling.followUp.header.correction) handling.measurement.receive rate

theorem evaluateFollowUp_sample {cfg : Config} {handling : PeerHandling F}
    {evaluation : PeerEvaluation F} (h : evaluateFollowUp cfg handling = some evaluation) :
    handling.SampleOf evaluation.rate := by
  rw [evaluateFollowUp_rate h]
  exact ptpPeerRateUpdate_endsIn ..

/-! ## The invariant -/

/-- **The invariant of the rate**: who holds a copy of it, and what its sample is of. -/
structure RateInv (h : PortHistory F ι) (s : PeerPortState F) : Prop where
  counts : PortCounts h s
  begun : s.exchange.InFlight → BegunSince s.exchange.generation h
  copied : ∀ handling, s.handling = some handling →
    handling.measurement.generation.toNat ≤ h.renewals ∧
    (handling.measurement.generation = s.exchange.generation →
      BegunSince s.exchange.generation h ∧ handling.rate = s.port.peerRate)
  lifecycle_le : s.port.peerRate.lifecycle.toNat ≤ h.links
  sampled : s.port.peerRate.anchored = true → s.port.peerRate.reanchor = false →
    s.port.peerRate.lifecycle = s.exchange.lifecycle →
    ∃ first, first.evaluation.rate = s.port.peerRate ∧
      first.handling.SampleOf s.port.peerRate ∧ SampledSince first h
  reanchored : Since (fun _ (x : PortEvent F ι × PortOutcome F) => x.2 = .stepped)
    (fun x => x.2.commits = false) h → s.port.peerRate.reanchor = true

theorem RateInv.init {s : PeerPortState F} (hs : s.Zeroed) :
    RateInv ([] : PortHistory F ι) s where
  counts := (CapabilityInv.init hs).counts
  begun := by
    rw [PeerPortState.exchange, hs.exchange]
    rintro (h | h) <;> cases h
  copied := by rw [hs.idle]; simp
  lifecycle_le := by rw [hs.rateLifecycle]; rfl
  sampled := by rw [hs.unanchored]; intro h; cases h
  reanchored := by
    rintro ⟨before, x, after, h, -⟩
    simp at h

section Steps

variable {h : PortHistory F ι} {s s' : PeerPortState F} {x : PortEvent F ι × PortOutcome F}

/-- The re-anchor flag stays set while nothing is committed. -/
theorem RateInv.reanchored_snoc (hi : RateInv h s) (hstepped : x.2 ≠ .stepped)
    (hflag : s.port.peerRate.reanchor = true → s'.port.peerRate.reanchor = true)
    (hs : Since (fun _ (x : PortEvent F ι × PortOutcome F) => x.2 = .stepped)
      (fun x => x.2.commits = false) (h ++ [x])) : s'.port.peerRate.reanchor = true := by
  rcases hs.of_snoc with hnow | ⟨hbefore, -⟩
  · exact absurd hnow hstepped
  · exact hflag (hi.reanchored hbefore)

/-- A step within the exchange's lifetime that leaves the rate alone. -/
theorem RateInv.keep (hi : RateInv h s) (hcounts : PortCounts (h ++ [x]) s')
    (hkept : ExchangeKept s.exchange s'.exchange) (hrate : s'.port.peerRate = s.port.peerRate)
    (hrenews : x.2.renews = false) (hcommits : x.2.commits = false)
    (hhandling : ∀ handling, s'.handling = some handling → s.handling = some handling ∨
      (handling.measurement.generation = s.exchange.generation ∧
        handling.rate = s.port.peerRate ∧ s.exchange.InFlight)) :
    RateInv (h ++ [x]) s' where
  counts := hcounts
  begun := by
    intro hflight
    rw [hkept.generation]
    exact (hi.begun (hkept.inFlight hflight)).snoc hrenews
  copied := by
    intro handling hs
    rw [PortHistory.renewals_snoc, hkept.generation, hrate]
    rcases hhandling handling hs with hold | ⟨hgen, hcopy, hflight⟩
    · obtain ⟨hle, hcurrent⟩ := hi.copied handling hold
      refine ⟨Nat.le_add_right_of_le hle, fun hg => ?_⟩
      exact ⟨(hcurrent hg).1.snoc hrenews, (hcurrent hg).2⟩
    · rw [hgen, hi.counts.generation]
      exact ⟨Nat.le_add_right _ _, fun _ => ⟨(hi.begun hflight).snoc hrenews, hcopy⟩⟩
  lifecycle_le := by
    rw [hrate]
    exact PortHistory.le_links_snoc x hi.lifecycle_le
  sampled := by
    rw [hrate, hkept.lifecycle]
    intro hanchored hreanchor hlife
    obtain ⟨first, hfirst, hsample, hsince⟩ := hi.sampled hanchored hreanchor hlife
    exact ⟨first, hfirst, hsample,
      hsince.snoc ⟨PortOutcome.interrupts_renews hrenews, hcommits⟩⟩
  reanchored := by
    refine hi.reanchored_snoc ?_ (by rw [hrate]; exact id)
    intro hstepped
    rw [hstepped] at hrenews
    cases hrenews

/-- What every step that renews the generation does to a handler in progress: its
    generation is in the past. -/
theorem RateInv.copied_renewed (hi : RateInv h s) (hcounts : PortCounts (h ++ [x]) s')
    (hrenews : x.2.renews = true) (hhandling : s'.handling = s.handling)
    (handling : PeerHandling F) (hs : s'.handling = some handling) :
    handling.measurement.generation.toNat ≤ PortHistory.renewals (h ++ [x]) ∧
    (handling.measurement.generation = s'.exchange.generation →
      BegunSince s'.exchange.generation (h ++ [x]) ∧ handling.rate = s'.port.peerRate) := by
  rw [hhandling] at hs
  have hle := (hi.copied handling hs).1
  have hnow := hcounts.generation
  rw [PortHistory.renewals_snoc, if_pos hrenews] at hnow ⊢
  refine ⟨by omega, fun heq => ?_⟩
  rw [heq] at hle
  omega

/-- What a commit may be made of: the exchange began and no lifetime since, the copy is the
    rate, and a newly measured ratio spans an interval without a step. -/
structure CommitClean (cfg : Config) (before : PortHistory F ι) (commit : PeerCommit F) :
    Prop where
  evaluated : evaluateFollowUp cfg commit.handling = some commit.evaluation
  begun : BegunSince commit.handling.measurement.generation before
  copy : commit.handling.rate = commit.previous
  /-- The first commit after a step finds its flag. -/
  reanchored : Since (fun _ (x : PortEvent F ι × PortOutcome F) => x.2 = .stepped)
    (fun x => x.2.commits = false) before → commit.previous.reanchor = true
  measured : commit.evaluation.rate.updates = commit.previous.updates + 1 →
    commit.previous.IntervalTo
      (ptpFormatToTimespec commit.handling.followUp.origintimestamp)
      (ptpPeerCorrection commit.handling.followUp.header.correction)
      commit.handling.measurement.receive commit.evaluation.rate.ratio ∧
    ∃ first, first.evaluation.rate = commit.previous ∧
      first.handling.SampleOf commit.previous ∧ SampledSince first before

theorem RateInv.commitClean {cfg : Config} (hi : RateInv h s) {commit : PeerCommit F}
    (hevaluate : evaluateFollowUp cfg commit.handling = some commit.evaluation)
    (hhandling : s.handling = some commit.handling)
    (hcurrent : commitCurrent s.port commit.handling.measurement = true)
    (hprevious : commit.previous = s.port.peerRate) : CommitClean cfg h commit := by
  obtain ⟨hgen, hlife, -⟩ := commitCurrent_iff.mp hcurrent
  obtain ⟨hbegun, hcopy⟩ := (hi.copied _ hhandling).2 hgen.symm
  refine ⟨hevaluate, ?_, by rw [hcopy, hprevious], ?_, ?_⟩
  · rw [← hgen]; exact hbegun
  · rw [hprevious]; exact hi.reanchored
  · intro hupdates
    rw [evaluateFollowUp_rate hevaluate, PeerHandling.updatedRate, hcopy, ← hprevious]
      at hupdates
    obtain ⟨hrateLife, -, hanchored, hreanchor, hinterval⟩ :=
      ptpPeerRateUpdate_measured hupdates
    rw [evaluateFollowUp_rate hevaluate, PeerHandling.updatedRate, hcopy, ← hprevious]
    refine ⟨hinterval, ?_⟩
    rw [hprevious] at hrateLife hanchored hreanchor ⊢
    exact hi.sampled hanchored hreanchor (hrateLife.trans hlife.symm)

/-- **One step keeps the invariant.** -/
theorem RateInv.step {cfg : Config} {event : PortEvent F Unit} {out : PortOutcome F}
    {h : PortHistory F Unit} (hi : RateInv h s)
    (hbound : PortHistory.Bounded (h ++ [(event, out)]))
    (heffect : PortEffect (fun _ : Unit => evaluateFollowUp cfg) s s' out) :
    RateInv (h ++ [(event, out)]) s' := by
  have hcounts := hi.counts.effect hbound heffect
  cases heffect with
  | quiet hout hkept _ hrate _ hhandling =>
    unfold PortOutcome.Silent at hout
    have hsilent : out.renews = false ∧ out.commits = false := by
      split at hout <;> first | exact ⟨rfl, rfl⟩ | cases hout
    exact hi.keep hcounts hkept hrate hsilent.1 hsilent.2 (PeerPortState.handling_of_eq hhandling)
  | linked hgen hlife hidle _ hrate _ hhandling =>
    refine ⟨hcounts, fun hflight => absurd hflight hidle,
      hi.copied_renewed hcounts rfl hhandling, ?_, ?_, ?_⟩
    · rw [hrate]
      exact PortHistory.le_links_snoc _ hi.lifecycle_le
    · -- The record's lifecycle is in the past.
      rw [hrate]
      exact fun _ _ heq => absurd heq (hcounts.relinked hi.lifecycle_le)
    · exact hi.reanchored_snoc (by simp) (by rw [hrate]; exact id)
  | begun hgen hlife _ hrate _ hhandling =>
    refine ⟨hcounts, fun _ => Since.now rfl, hi.copied_renewed hcounts rfl hhandling, ?_, ?_, ?_⟩
    · rw [hrate]
      exact PortHistory.le_links_snoc _ hi.lifecycle_le
    · rw [hrate, hlife]
      intro hanchored hreanchor heq
      obtain ⟨first, hfirst, hsample, hsince⟩ := hi.sampled hanchored hreanchor heq
      exact ⟨first, hfirst, hsample, hsince.snoc ⟨rfl, rfl⟩⟩
    · exact hi.reanchored_snoc (by simp) (by rw [hrate]; exact id)
  | responded _ hkept hrate _ hhandling =>
    exact hi.keep hcounts hkept hrate rfl rfl (PeerPortState.handling_of_eq hhandling)
  | finished hkept hrate _ hcopy =>
    refine hi.keep hcounts hkept hrate rfl rfl (fun handling hs => Or.inr ?_)
    obtain ⟨hgen, -, hrate, hflight⟩ := hcopy handling hs
    exact ⟨hgen, hrate, hflight⟩
  | stepped hgen hlife hidle _ hrate _ hhandling =>
    refine ⟨hcounts, fun hflight => absurd hflight hidle,
      hi.copied_renewed hcounts rfl hhandling, ?_, ?_, ?_⟩
    · rw [hrate]
      exact PortHistory.le_links_snoc _ hi.lifecycle_le
    · rw [hrate]
      intro _ hreanchor
      cases hreanchor
    · rw [hrate]
      exact fun _ => rfl
  | ended hout hstate =>
    subst hstate
    have hquiet : out.renews = false ∧ out.commits = false := by
      rcases hout with rfl | rfl | rfl <;> exact ⟨rfl, rfl⟩
    exact hi.keep hcounts (.of_core rfl) rfl hquiet.1 hquiet.2 (by simp)
  | committed commit _ hevaluate hhandling hcurrent hprevious hexchange hrate _ hdone =>
    have hclean := hi.commitClean hevaluate hhandling hcurrent hprevious
    obtain ⟨hgen, hlife, -⟩ := commitCurrent_iff.mp hcurrent
    have hsample := evaluateFollowUp_sample hevaluate
    refine ⟨hcounts, ?_, by rw [hdone]; simp, ?_, ?_, ?_⟩
    · rw [hexchange]
      exact fun hflight => (hi.begun hflight).snoc rfl
    · rw [hrate, hsample.lifecycle, ← hlife]
      exact PortHistory.le_links_snoc _ hi.counts.lifecycle.le
    · rw [hrate]
      intro _ _ _
      refine ⟨commit, rfl, hsample, Since.now ⟨rfl, ?_⟩⟩
      exact hclean.begun.mono (fun _ _ hb => hb)
        (fun _ hr => PortOutcome.interrupts_renews hr)
    · intro hs
      rcases hs.of_snoc with hnow | ⟨-, hheld⟩
      · cases hnow
      · cases hheld

end Steps

/-! ## The result -/

section Result

variable (cfg : Config) (ownClock : ClockIdentity)

/-- The machine of port 0 with the source's own evaluation. -/
abbrev peerPortStep : PeerPortState F → PortEvent F Unit → PeerPortState F × PortOutcome F :=
  portStep (fun _ => evaluateFollowUp cfg) cfg ownClock

/-- Every commit of the history is clean. -/
def CommitsClean (h : PortHistory F Unit) : Prop :=
  Always (fun before (x : PortEvent F Unit × PortOutcome F) =>
    ∀ commit, x.2 = .committed commit → CommitClean cfg before commit) h

/-- What holds of every run: the invariant now, and clean commits all along. -/
structure RateRun (h : PortHistory F Unit) (s : PeerPortState F) : Prop where
  inv : RateInv h s
  clean : CommitsClean cfg h

theorem rateRun_run {s : PeerPortState F} (hs : s.Zeroed) (events : List (PortEvent F Unit))
    (hbound : PortHistory.Bounded (trace (peerPortStep cfg ownClock) s events)) :
    RateRun cfg (trace (peerPortStep cfg ownClock) s events)
      (run (peerPortStep cfg ownClock) s events) := by
  refine run_induction_while PortHistory.Bounded (fun _ _ => PortHistory.Bounded.of_snoc)
    ⟨RateInv.init hs, Always.nil⟩ ?_ events hbound
  intro h s event hgood ⟨hi, hclean⟩
  have heffect := portStep_effect (fun _ => evaluateFollowUp cfg) cfg ownClock s event
  refine ⟨hi.step hgood heffect, hclean.snoc ?_⟩
  intro commit hout
  dsimp only at hout
  rw [hout] at heffect
  cases heffect with
  | quiet hsilent => cases hsilent
  | ended hend => rcases hend with hend | hend | hend <;> cases hend
  | committed _ _ hevaluate hhandling hcurrent hprevious =>
    exact hi.commitClean hevaluate hhandling hcurrent hprevious

/-- **No measurement spans a clock step.** In every run of port 0:

    * whatever a commit writes, its exchange began after the last step and link change, and
      its handler's copy of the rate is the rate;
    * a ratio newly measured by a commit is that of an interval from the sample of an earlier
      commit, the latest, and neither a step nor a link change happened since the exchange of
      *that* commit began;
    * the re-anchor flag of a step stays set until the next commit. -/
theorem peer_commits_span_no_step {s : PeerPortState F} (hs : s.Zeroed)
    (events : List (PortEvent F Unit))
    (hbound : PortHistory.Bounded (trace (peerPortStep cfg ownClock) s events)) :
    CommitsClean cfg (trace (peerPortStep cfg ownClock) s events) ∧
    (Since (fun _ (x : PortEvent F Unit × PortOutcome F) => x.2 = .stepped)
        (fun x => x.2.commits = false) (trace (peerPortStep cfg ownClock) s events) →
      (run (peerPortStep cfg ownClock) s events).port.peerRate.reanchor = true) :=
  have hrun := rateRun_run cfg ownClock hs events hbound
  ⟨hrun.clean, hrun.inv.reanchored⟩

end Result

namespace Sample

/-- The messages of an exchange at `second` on the neighbor's clock. -/
def responseAt (second : UInt8) : PtpDelayResp :=
  { response with receivetimestamp := #v[0, 0, 0, 0, 0, second, 0, 0, 0, 0] }

def followUpAt (second : UInt8) : PtpDelayRespFollowUp :=
  { followUp with origintimestamp := #v[0, 0, 0, 0, 0, second, 0, 0, 0, 0] }

/-- An exchange at `second`, transmitted and received around `localSecond`. -/
def exchangeAt (generation : UInt32) (second : UInt8) (localSecond : Int) :
    List (PortEvent ℚ Unit) :=
  [.sendDelayReqBegin 7 request 0 1000,
    .sendDelayReqPublish true generation ⟨localSecond, 0⟩ 10,
    .delayResp (responseAt second) ⟨localSecond, 400⟩ 20,
    .followUpFinish (followUpAt second) 0 30,
    .followUpCommit () 40]

/-- Two exchanges, a clock step, and two more. -/
def exchangesAroundStep : List (PortEvent ℚ Unit) :=
  exchangeAt 1 100 5 ++ exchangeAt 2 101 6 ++ .cleanAfterStep ::
    (exchangeAt 4 102 60 ++ exchangeAt 5 103 61)

end Sample

/-- The ratio is measured by the second exchange and by the fourth, and not across the step. -/
theorem peer_commits_span_no_step_around :
    CommitsClean Sample.config (trace (peerPortStep Sample.config Sample.request.sourceidentity)
      ⟨Sample.port, true, none⟩ Sample.exchangesAroundStep) ∧
    (Since (fun _ (x : PortEvent ℚ Unit × PortOutcome ℚ) => x.2 = .stepped)
        (fun x => x.2.commits = false)
        (trace (peerPortStep Sample.config Sample.request.sourceidentity)
          ⟨Sample.port, true, none⟩ Sample.exchangesAroundStep) →
      (run (peerPortStep Sample.config Sample.request.sourceidentity)
        ⟨Sample.port, true, none⟩ Sample.exchangesAroundStep).port.peerRate.reanchor = true) :=
  peer_commits_span_no_step Sample.config Sample.request.sourceidentity
    ⟨rfl, rfl, rfl, rfl, rfl⟩ Sample.exchangesAroundStep
    (show PortHistory.renewals _ < _ by decide +kernel)

example :
    (run (peerPortStep Sample.config Sample.request.sourceidentity)
      ⟨Sample.port, true, none⟩ Sample.exchangesAroundStep).port.peerRate.updates = 2 := by
  decide +kernel

end EspPtp
