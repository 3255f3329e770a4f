import EspPtp.Peer.PortRun

/-!
# asCapable is recent evidence

`peer_capability` is written outside the section that completed the exchange, by the
daemon, while the timer task begins requests and event handlers change the link. That it is
never claimed without a commit behind it comes from three guards: the commit compares the
generation, the lifecycle and the spoiled flag of the exchange under the lock; whatever
spoils an exchange clears `qualified` in the same section; and a link change does not touch
the capability at all but leaves it with an old lifecycle. `CapabilityInv` ties the three
together.
-/

namespace EspPtp

open Lib

variable {F ι : Type}

/-- What does not retire a capability: no link change, no unqualified commit, no call that
    left the exchange spoiled. -/
def PortOutcome.KeepsCapability : PortOutcome F → Prop
  | .link changed => changed = false
  | .committed commit => commit.qualified = true
  | .responded _ multiple | .finished _ multiple => multiple = false
  | _ => True

/-- The commit behind a capability: it qualified at `receivedUs`, and what it committed had
    been finished before. -/
def CommittedAt (receivedUs : Int) (before : PortHistory F ι)
    (x : PortEvent F ι × PortOutcome F) : Prop :=
  ∃ commit, x.2 = .committed commit ∧ commit.qualified = true ∧ commit.atUs = receivedUs ∧
    ∃ y ∈ before, ∃ multiple,
      y.2 = .finished (some commit.handling.measurement) multiple

structure CapabilityInv (h : PortHistory F ι) (s : PeerPortState F) : Prop where
  counts : PortCounts h s
  lifecycle_le : s.port.peerCapability.lifecycle.toNat ≤ h.links
  spoiled : s.exchange.multiple = true → s.port.peerCapability.qualified = false
  finished : ∀ handling, s.handling = some handling → ∃ x ∈ h, ∃ multiple,
    x.2 = .finished (some handling.measurement) multiple
  recent : s.port.peerCapability.qualified = true →
    s.port.peerCapability.lifecycle = s.exchange.lifecycle →
    Since (CommittedAt s.port.peerCapability.receivedUs)
      (fun x : PortEvent F ι × PortOutcome F => x.2.KeepsCapability) h

/-- Port 0 before its first event: what `memset` and the configuration leave. -/
structure PeerPortState.Zeroed (s : PeerPortState F) : Prop where
  exchange : s.port.peerExchange = PtpPeerExchange.zero
  unqualified : s.port.peerCapability = ⟨0, 0, false⟩
  unanchored : s.port.peerRate.anchored = false
  rateLifecycle : s.port.peerRate.lifecycle = 0
  idle : s.handling = none

theorem CapabilityInv.init {s : PeerPortState F} (hs : s.Zeroed) :
    CapabilityInv ([] : PortHistory F ι) s where
  counts := by
    constructor <;> (rw [PeerPortState.exchange, hs.exchange]; rfl)
  lifecycle_le := by rw [hs.unqualified]; rfl
  spoiled := by rw [hs.unqualified]; exact fun _ => rfl
  finished := by rw [hs.idle]; simp
  recent := by rw [hs.unqualified]; intro h; cases h

/-- A step that leaves the capability alone, within its lifecycle. -/
theorem CapabilityInv.keep {h : PortHistory F ι} {s s' : PeerPortState F}
    {x : PortEvent F ι × PortOutcome F} (hi : CapabilityInv h s)
    (hcounts : PortCounts (h ++ [x]) s')
    (hcap : s'.port.peerCapability = s.port.peerCapability)
    (hlife : s'.exchange.lifecycle = s.exchange.lifecycle)
    (hspoiled : s'.exchange.multiple = true → s.port.peerCapability.qualified = false)
    (hhandling : ∀ handling, s'.handling = some handling → s.handling = some handling ∨
      ∃ multiple, x.2 = .finished (some handling.measurement) multiple)
    (hkeeps : s.port.peerCapability.qualified = true → x.2.KeepsCapability) :
    CapabilityInv (h ++ [x]) s' where
  counts := hcounts
  lifecycle_le := by
    rw [hcap]
    exact PortHistory.le_links_snoc x hi.lifecycle_le
  spoiled := by rw [hcap]; exact hspoiled
  finished := by
    intro handling hs
    rcases hhandling handling hs with hold | ⟨multiple, hnew⟩
    · obtain ⟨y, hy, hfin⟩ := hi.finished handling hold
      exact ⟨y, List.mem_append_left _ hy, hfin⟩
    · exact ⟨x, by simp, multiple, hnew⟩
  recent := by
    rw [hcap, hlife]
    intro hq hl
    exact (hi.recent hq hl).snoc (hkeeps hq)

/-- A call that may have spoiled the exchange: it clears what it spoils. -/
theorem CapabilityInv.answered {h : PortHistory F ι} {s s' : PeerPortState F}
    {x : PortEvent F ι × PortOutcome F} (hi : CapabilityInv h s)
    (hcounts : PortCounts (h ++ [x]) s') (hkept : ExchangeKept s.exchange s'.exchange)
    (hcap : QualifiedCleared s s')
    (hhandling : ∀ handling, s'.handling = some handling → s.handling = some handling ∨
      ∃ multiple, x.2 = .finished (some handling.measurement) multiple)
    (hkeeps : s'.exchange.multiple = false → x.2.KeepsCapability) :
    CapabilityInv (h ++ [x]) s' := by
  unfold QualifiedCleared at hcap
  cases hm : s'.exchange.multiple with
  | false =>
    rw [hm] at hcap
    exact hi.keep hcounts hcap hkept.lifecycle (by simp [hm]) hhandling (fun _ => hkeeps hm)
  | true =>
    rw [hm, if_pos rfl] at hcap
    refine ⟨hcounts, ?_, ?_, ?_, ?_⟩
    · rw [hcap]
      exact PortHistory.le_links_snoc x hi.lifecycle_le
    · rw [hcap]; exact fun _ => rfl
    · intro handling hs
      rcases hhandling handling hs with hold | ⟨multiple, hnew⟩
      · obtain ⟨y, hy, hfin⟩ := hi.finished handling hold
        exact ⟨y, List.mem_append_left _ hy, hfin⟩
      · exact ⟨x, by simp, multiple, hnew⟩
    · rw [hcap]
      intro hq
      cases hq

theorem CapabilityInv.step {evaluate : ι → PeerHandling F → Option (PeerEvaluation F)}
    {h : PortHistory F ι} {s s' : PeerPortState F} {event : PortEvent F ι}
    {out : PortOutcome F} (hi : CapabilityInv h s)
    (hbound : PortHistory.Bounded (h ++ [(event, out)]))
    (heffect : PortEffect evaluate s s' out) : CapabilityInv (h ++ [(event, out)]) s' := by
  have hcounts := hi.counts.effect hbound heffect
  cases heffect with
  | quiet hout hkept hmultiple _ hcap hhandling =>
    refine hi.keep hcounts hcap hkept.lifecycle ?_ (PeerPortState.handling_of_eq hhandling) ?_
    · rw [hmultiple]; exact hi.spoiled
    · intro _
      unfold PortOutcome.Silent at hout
      split at hout <;> trivial
  | linked _ hlife _ hmultiple _ hcap hhandling =>
    refine ⟨hcounts, ?_, ?_, ?_, ?_⟩
    · rw [hcap]
      exact PortHistory.le_links_snoc _ hi.lifecycle_le
    · rw [hmultiple]; intro h; cases h
    · intro handling hs
      rw [hhandling] at hs
      obtain ⟨y, hy, hfin⟩ := hi.finished handling hs
      exact ⟨y, List.mem_append_left _ hy, hfin⟩
    · -- The capability keeps a lifecycle that has just been left for good.
      rw [hcap]
      exact fun _ heq => absurd heq (hcounts.relinked hi.lifecycle_le)
  | begun _ hlife hmultiple _ hcap hhandling =>
    refine hi.keep hcounts hcap hlife ?_ (PeerPortState.handling_of_eq hhandling) fun _ => trivial
    rw [hmultiple]
    intro h
    cases h
  | responded _ hkept _ hcap hhandling =>
    exact hi.answered hcounts hkept hcap (PeerPortState.handling_of_eq hhandling) id
  | finished hkept _ hcap _ =>
    refine hi.answered hcounts hkept hcap ?_ id
    intro handling hs
    exact Or.inr ⟨s'.exchange.multiple, by rw [hs]; rfl⟩
  | stepped _ hlife _ hmultiple _ hcap hhandling =>
    refine hi.keep hcounts hcap hlife ?_ (PeerPortState.handling_of_eq hhandling) fun _ => trivial
    rw [hmultiple]
    intro h
    cases h
  | ended hout hstate =>
    subst hstate
    refine hi.keep hcounts rfl rfl hi.spoiled (by simp) ?_
    intro hq
    rcases hout with rfl | rfl | rfl
    · trivial
    · trivial
    · -- An outdated replay leaves a spoiled exchange spoiled.
      by_contra hm
      rw [hi.spoiled (by simpa [PortOutcome.KeepsCapability] using hm)] at hq
      cases hq
  | committed commit _ _ hhandling hcurrent _ hexchange _ hcap hdone =>
    obtain ⟨-, hlife, hmultiple⟩ := commitCurrent_iff.mp hcurrent
    refine ⟨hcounts, ?_, ?_, ?_, ?_⟩
    · have hnow := hcounts.lifecycle
      rw [hexchange] at hnow
      rw [hcap, ← hlife]
      exact hnow.le
    · rw [hexchange, PeerPortState.exchange, hmultiple]
      intro h
      cases h
    · rw [hdone]; simp
    · rw [hcap]
      intro hq _
      exact Since.now ⟨commit, rfl, hq, rfl, hi.finished _ hhandling⟩

/-! ## The result -/

section Result

variable (evaluate : ι → PeerHandling F → Option (PeerEvaluation F)) (cfg : Config)
  (ownClock : ClockIdentity)

theorem capabilityInv_run {s : PeerPortState F} (hs : s.Zeroed) (events : List (PortEvent F ι))
    (hbound : PortHistory.Bounded (trace (portStep evaluate cfg ownClock) s events)) :
    CapabilityInv (trace (portStep evaluate cfg ownClock) s events)
      (run (portStep evaluate cfg ownClock) s events) :=
  run_induction_while PortHistory.Bounded (fun _ _ => PortHistory.Bounded.of_snoc)
    (CapabilityInv.init hs)
    (fun _ s event hgood hi => hi.step hgood (portStep_effect evaluate cfg ownClock s event))
    events hbound

/-- **Wired asCapable is recent evidence.** Whenever `ptp_wired_capability` answers true, a
    finished exchange was committed as qualified less than three intervals ago, and since
    then the link has not changed, no commit was unqualified, and no exchange was spoiled —
    whatever the evaluation of the measurements and the order of the tasks. -/
theorem ptpWiredCapability_recent {s : PeerPortState F} (hs : s.Zeroed)
    (events : List (PortEvent F ι))
    (hbound : PortHistory.Bounded (trace (portStep evaluate cfg ownClock) s events))
    (nowUs neighborUs : Int)
    (hcapable : ptpWiredCapability cfg (run (portStep evaluate cfg ownClock) s events).gptp
      (run (portStep evaluate cfg ownClock) s events).port nowUs neighborUs = true) :
    ∃ before event commit after,
      trace (portStep evaluate cfg ownClock) s events =
        before ++ (event, .committed commit) :: after ∧
      commit.qualified = true ∧ commit.atUs ≤ nowUs ∧
      nowUs - commit.atUs <
        3 * ((run (portStep evaluate cfg ownClock) s events).port.delayreqIntervalMs * 1000) ∧
      (∃ x ∈ before, ∃ multiple,
        x.2 = .finished (some commit.handling.measurement) multiple) ∧
      ∀ x ∈ after, x.2.KeepsCapability := by
  have hi := capabilityInv_run evaluate cfg ownClock hs events hbound
  generalize run (portStep evaluate cfg ownClock) s events = final at hi hcapable ⊢
  simp only [ptpWiredCapability, ptpPeerCapable, Bool.and_eq_true, decide_eq_true_eq]
    at hcapable
  obtain ⟨-, ⟨⟨⟨⟨⟨-, hqualified⟩, hlife⟩, -⟩, -⟩, hfrom⟩, hto⟩ := hcapable
  obtain ⟨before, ⟨event, out⟩, after, htrace, hcommit, hafter⟩ := hi.recent hqualified hlife
  obtain ⟨commit, hout, hq, hat, hfinished⟩ := hcommit
  dsimp only at hout
  subst hout
  exact ⟨before, event, commit, after, htrace, hq, by omega, by omega, hfinished, hafter⟩

end Result

namespace Sample

/-- Port 0 at boot, with an interval of a second. -/
def port : PtpPeerPort ℚ where
  medium := .ethHwts
  enabled := true
  linkUp := true
  capableReceive := default
  peerDelayAvgcount := 0
  peerDelayNs := 0
  delayreqIntervalMs := 1000
  peerExchange := PtpPeerExchange.zero
  peerRate := PtpPeerRate.fresh 0 ⟨Vector.replicate 8 0, Vector.replicate 2 0⟩
  peerCapability := ⟨0, 0, false⟩

/-- One exchange, committed with a delay of 300 ns. -/
def measuredExchange : List (PortEvent ℚ (PeerEvaluation ℚ)) :=
  [.sendDelayReqBegin 7 request 0 1000,
    .sendDelayReqPublish true 1 ⟨5, 20⟩ 10,
    .delayResp response ⟨5, 30⟩ 20,
    .followUpFinish followUp 0 30,
    .followUpCommit ⟨port.peerRate, true, 300⟩ 40]

end Sample

/-- The capability a first exchange commits, read a microsecond later. -/
theorem ptpWiredCapability_recent_first :
    ∃ before event commit after,
      trace (portStep (fun evaluation _ => some evaluation) Sample.config
        Sample.request.sourceidentity) ⟨Sample.port, true, none⟩ Sample.measuredExchange =
        before ++ (event, .committed commit) :: after ∧
      commit.qualified = true ∧ commit.atUs ≤ 41 ∧ 41 - commit.atUs < 3 * (1000 * 1000) ∧
      (∃ x ∈ before, ∃ multiple,
        x.2 = .finished (some commit.handling.measurement) multiple) ∧
      ∀ x ∈ after, x.2.KeepsCapability :=
  ptpWiredCapability_recent (fun evaluation _ => some evaluation) Sample.config
    Sample.request.sourceidentity ⟨rfl, rfl, rfl, rfl, rfl⟩ Sample.measuredExchange
    (show PortHistory.renewals _ < _ by decide) 41 41 (by decide)

end EspPtp
