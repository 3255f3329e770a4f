import EspPtp.Daemon.State
import EspPtp.Lib.RunningMean
import EspPtp.Peer.PortRun

/-!
# The average of the peer delay

A measured peer delay comes from `ptp_process_delay_resp_follow_up`, or from outside through
`ptpd_inject_peer_delay`; either way it moves a running mean by a truncated fraction of its
distance. The mean is between what it was and the delay. But a steady delay is only reached
where nothing is averaged.
-/

namespace EspPtp

open Lib

variable {F : Type} {n : Nat}

/-- What `ptpd_inject_peer_delay` answers. -/
inductive InjectDelayResult where
  | ok
  | esrch
  | einval
  | erange
  deriving DecidableEq, Repr

/-- The average of one more delay on a port; a `long` holds every accepted delay. -/
def peerDelayAveraged (cfg : Config) (port : PtpPort F) (peerDelayNs : Int) : PtpPort F :=
  let count :=
    if port.peerDelayAvgcount < cfg.delayreqAvgcount then port.peerDelayAvgcount + 1
    else port.peerDelayAvgcount
  { port with
    peerDelayAvgcount := count
    peerDelayNs := port.peerDelayNs + (peerDelayNs - port.peerDelayNs).tdiv count }

/-- `ptpd_inject_peer_delay`; `none` is a daemon that does not run. -/
def ptpdInjectPeerDelay (cfg : Config) (state : Option (PtpState F n))
    (portIndex peerDelayNs : Int) : Option (PtpState F n) × InjectDelayResult :=
  match state with
  | none => (none, .esrch)
  | some s =>
    if h : portIndex < 0 ∨ portIndex ≥ n + 1 then (some s, .einval)
    else if peerDelayNs < 0 ∨ peerDelayNs ≥ cfg.maxPeerDelayNs then (some s, .erange)
    else
      let index : Fin (n + 1) := ⟨portIndex.toNat, by omega⟩
      (some (s.withPort index (peerDelayAveraged cfg (s.ports index) peerDelayNs)), .ok)

/-- The running mean of a port. -/
def PtpPeerPort.delayMean (port : PtpPeerPort F) : RunningMean :=
  ⟨port.peerDelayAvgcount, port.peerDelayNs⟩

/-- What was evaluated is of another peer than the mean. -/
def PtpPeerPort.otherPeer (port : PtpPeerPort F) (evaluation : PeerEvaluation F) : Prop :=
  port.peerRate.lifecycle ≠ evaluation.rate.lifecycle ∨
    port.peerRate.responder ≠ evaluation.rate.responder

/-! ## The two updates -/

section Updates

variable {cfg : Config}

theorem peerDelayAveraged_mean (cfg : Config) (port : PtpPort F) (peerDelayNs : Int) :
    (peerDelayAveraged cfg port peerDelayNs).delayMean =
      port.delayMean.take cfg.delayreqAvgcount peerDelayNs := rfl

/-- A delay from outside. -/
theorem ptpdInjectPeerDelay_accepted (s : PtpState F n) (index : Fin (n + 1)) {peerDelayNs : Int}
    (hlow : 0 ≤ peerDelayNs) (hhigh : peerDelayNs < cfg.maxPeerDelayNs) :
    ptpdInjectPeerDelay cfg (some s) index peerDelayNs =
      (some (s.withPort index (peerDelayAveraged cfg (s.ports index) peerDelayNs)), .ok) := by
  have hindex : ¬ ((index : Int) < 0 ∨ (index : Int) ≥ n + 1) := by omega
  have hrange : ¬ (peerDelayNs < 0 ∨ peerDelayNs ≥ cfg.maxPeerDelayNs) := by omega
  rw [ptpdInjectPeerDelay, dif_neg hindex, if_neg hrange]
  simp

/-- A measured delay of the peer that is averaged. -/
theorem commitDelay_mean {port : PtpPeerPort F} {evaluation : PeerEvaluation F}
    (hsame : ¬ port.otherPeer evaluation) (hvalid : evaluation.delayValid = true) :
    (commitDelay cfg port evaluation).delayMean =
      port.delayMean.take cfg.delayreqAvgcount evaluation.roundedDelay := by
  unfold PtpPeerPort.otherPeer at hsame
  simp only [commitDelay, hsame, if_false, hvalid, if_true]
  by_cases hroom : port.peerDelayAvgcount < cfg.delayreqAvgcount
  · simp [PtpPeerPort.delayMean, RunningMean.take, hroom]
  · simp [PtpPeerPort.delayMean, RunningMean.take, hroom]

/-- The first of another peer is the mean. -/
theorem commitDelay_first {port : PtpPeerPort F} {evaluation : PeerEvaluation F}
    (hlimit : 1 ≤ cfg.delayreqAvgcount) (hother : port.otherPeer evaluation)
    (hvalid : evaluation.delayValid = true) :
    (commitDelay cfg port evaluation).peerDelayNs = evaluation.roundedDelay := by
  have hroom : 0 < cfg.delayreqAvgcount := hlimit
  unfold PtpPeerPort.otherPeer at hother
  simp only [commitDelay, hother, hvalid, if_true]
  simp [hroom]

end Updates

/-! ## A steady delay -/

section Steady

variable {σ : Type} {update : σ → σ} {mean : σ → RunningMean} {limit : Nat} {sample : Int}

/-- The mean follows the sample: it is between what it was and the sample, and comes to be
    the sample if that is steady. -/
def MeanFollows (update : σ → σ) (mean : σ → RunningMean) (sample : Int) (s : σ) : Prop :=
  (min (mean s).mean sample ≤ (mean (update s)).mean ∧
      (mean (update s)).mean ≤ max (mean s).mean sample) ∧
    ∃ k, (mean (update^[k] s)).mean = sample

/-- **When a mean follows**: with nothing to average, or nothing to move. -/
theorem follows_iff {P : σ → Prop} (hlimit : 1 ≤ limit)
    (hupdate : ∀ s, P s → P (update s) ∧ mean (update s) = (mean s).take limit sample)
    {s : σ} (hs : P s) (hcount : (mean s).count ≤ limit) :
    MeanFollows update mean sample s ↔
      limit = 1 ∨ (mean s).count = 0 ∨ (mean s).mean = sample := by
  -- To feed the owner of a mean is to feed the mean.
  have hfed : ∀ k, ∀ s, P s →
      mean (update^[k] s) = (RunningMean.take limit sample)^[k] (mean s) := by
    intro k
    induction k with
    | zero => exact fun s _ => rfl
    | succ k ih =>
      intro s hs
      obtain ⟨hkept, htaken⟩ := hupdate s hs
      rw [Function.iterate_succ_apply, Function.iterate_succ_apply, ih _ hkept, htaken]
  rw [MeanFollows, (hupdate s hs).2, and_iff_right (RunningMean.take_between hlimit),
    ← RunningMean.reaches_iff hlimit hcount]
  simp only [hfed _ s hs]

end Steady

/-- One accepted delay from outside. -/
def injectOnce (cfg : Config) (index : Fin (n + 1)) (sample : Int) (s : PtpState F n) :
    PtpState F n :=
  (ptpdInjectPeerDelay cfg (some s) index sample).1.getD s

theorem injectOnce_follows_iff {cfg : Config} (hlimit : 1 ≤ cfg.delayreqAvgcount)
    (s : PtpState F n) (index : Fin (n + 1)) {sample : Int} (hlow : 0 ≤ sample)
    (hhigh : sample < cfg.maxPeerDelayNs)
    (hcount : (s.ports index).peerDelayAvgcount ≤ cfg.delayreqAvgcount) :
    MeanFollows (injectOnce cfg index sample) (fun s => (s.ports index).delayMean) sample s ↔
      cfg.delayreqAvgcount = 1 ∨ (s.ports index).peerDelayAvgcount = 0 ∨
        (s.ports index).peerDelayNs = sample := by
  refine follows_iff (P := fun _ => True) hlimit ?_ trivial hcount
  intro s _
  refine ⟨trivial, ?_⟩
  rw [injectOnce, ptpdInjectPeerDelay_accepted s index hlow hhigh]
  simp [PtpState.withPort, peerDelayAveraged_mean]

section Commits

variable {cfg : Config} {ownClock : ClockIdentity} {handling : PeerHandling F}
  {evaluation : PeerEvaluation F} {nowUs : Int} {port : PtpPeerPort F}

/-- What a commit that counts does to the average. -/
theorem followUpCommit_current (hcurrent : commitCurrent port handling.measurement = true) :
    (followUpCommit cfg ownClock port handling evaluation nowUs).1.delayMean =
        (commitDelay cfg port evaluation).delayMean ∧
      commitCurrent (followUpCommit cfg ownClock port handling evaluation nowUs).1
          handling.measurement = true ∧
      (followUpCommit cfg ownClock port handling evaluation nowUs).1.peerRate =
        evaluation.rate := by
  have hkept := commitDelay_kept cfg port evaluation
  rw [followUpCommit, if_pos hcurrent]
  refine ⟨rfl, ?_, rfl⟩
  simp only [commitCurrent, hkept] at hcurrent ⊢
  exact hcurrent

theorem followUpCommit_follows_iff (hlimit : 1 ≤ cfg.delayreqAvgcount)
    (hcurrent : commitCurrent port handling.measurement = true)
    (hvalid : evaluation.delayValid = true)
    (hcount : port.peerDelayAvgcount ≤ cfg.delayreqAvgcount) :
    MeanFollows (fun port => (followUpCommit cfg ownClock port handling evaluation nowUs).1)
        PtpPeerPort.delayMean evaluation.roundedDelay port ↔
      port.otherPeer evaluation ∨ cfg.delayreqAvgcount = 1 ∨ port.peerDelayAvgcount = 0 ∨
        port.peerDelayNs = evaluation.roundedDelay := by
  by_cases hother : port.otherPeer evaluation
  · have hfirst : (followUpCommit cfg ownClock port handling evaluation nowUs).1.delayMean.mean =
        evaluation.roundedDelay := by
      rw [(followUpCommit_current hcurrent).1]
      exact commitDelay_first hlimit hother hvalid
    refine iff_of_true ⟨?_, 1, hfirst⟩ (.inl hother)
    rw [hfirst]
    exact ⟨min_le_right _ _, le_max_right _ _⟩
  · rw [or_iff_right hother]
    refine follows_iff
      (P := fun port => commitCurrent port handling.measurement = true ∧
        ¬ port.otherPeer evaluation) hlimit ?_ ⟨hcurrent, hother⟩ hcount
    rintro port ⟨hcurrent, hsame⟩
    obtain ⟨hmean, hstill, hrate⟩ :=
      @followUpCommit_current F cfg ownClock handling evaluation nowUs port hcurrent
    refine ⟨⟨hstill, ?_⟩, ?_⟩
    · rw [PtpPeerPort.otherPeer, hrate]
      simp
    · rw [hmean]
      exact commitDelay_mean hsame hvalid

end Commits

/-- **When the delay average follows its input**: where nothing is averaged, for the first
    sample of a mean or of another peer, or where the mean is there already. -/
theorem delayAverage_follows_iff (cfg : Config) (hlimit : 1 ≤ cfg.delayreqAvgcount) :
    (∀ (s : PtpState F n) (index : Fin (n + 1)) (sample : Int), 0 ≤ sample →
        sample < cfg.maxPeerDelayNs →
        (s.ports index).peerDelayAvgcount ≤ cfg.delayreqAvgcount →
        (MeanFollows (injectOnce cfg index sample) (fun s => (s.ports index).delayMean) sample s ↔
          cfg.delayreqAvgcount = 1 ∨ (s.ports index).peerDelayAvgcount = 0 ∨
            (s.ports index).peerDelayNs = sample)) ∧
      ∀ (ownClock : ClockIdentity) (port : PtpPeerPort F) (handling : PeerHandling F)
        (evaluation : PeerEvaluation F) (nowUs : Int),
        commitCurrent port handling.measurement = true → evaluation.delayValid = true →
        port.peerDelayAvgcount ≤ cfg.delayreqAvgcount →
        (MeanFollows (fun port => (followUpCommit cfg ownClock port handling evaluation nowUs).1)
            PtpPeerPort.delayMean evaluation.roundedDelay port ↔
          port.otherPeer evaluation ∨ cfg.delayreqAvgcount = 1 ∨ port.peerDelayAvgcount = 0 ∨
            port.peerDelayNs = evaluation.roundedDelay) :=
  ⟨fun s index _ hlow hhigh hcount => injectOnce_follows_iff hlimit s index hlow hhigh hcount,
    fun _ _ _ _ _ hcurrent hvalid hcount =>
      followUpCommit_follows_iff hlimit hcurrent hvalid hcount⟩

namespace Sample

/-- A daemon whose average of a hundred delays is zero. -/
def averaged : PtpState ℚ 0 :=
  (default : PtpState ℚ 0).withPort0 { (default : PtpPort ℚ) with peerDelayAvgcount := 100 }

end Sample

/-- The first delay from outside is the average; of the hundredth on it is not. -/
theorem delayAverage_follows_first :
    MeanFollows (injectOnce Sample.config 0 50) (fun s => (s.ports 0).delayMean) 50
        (default : PtpState ℚ 0) ∧
      ¬ MeanFollows (injectOnce Sample.config 0 50) (fun s => (s.ports 0).delayMean) 50
        Sample.averaged :=
  ⟨((delayAverage_follows_iff Sample.config (by decide)).1 (default : PtpState ℚ 0) 0 50
      (by decide) (by decide) (by decide)).mpr (.inr (.inl rfl)),
    fun h => absurd (((delayAverage_follows_iff Sample.config (by decide)).1 Sample.averaged 0 50
      (by decide) (by decide) (by decide)).mp h) (by decide)⟩

/-- A steady delay of 50 ns never becomes the average of a hundred that is zero. -/
theorem delayAverage_stuck :
    ¬ ∃ k, (((injectOnce Sample.config 0 50)^[k] Sample.averaged).ports 0).peerDelayNs = 50 := by
  intro hreached
  have hbetween := @RunningMean.take_between 100 50 ⟨100, 0⟩ (by decide)
  have hfollows := (@injectOnce_follows_iff ℚ 0 Sample.config (by decide) Sample.averaged 0 50
    (by decide) (by decide) (by decide)).mp ⟨hbetween, hreached⟩
  exact absurd hfollows (by decide)

end EspPtp
