import EspPtp.Peer.Port

/-!
# Runs of port 0

The sections of `Port.lean` as one machine. A run is a list of events in the order in which
the tasks took the lock; the unlocked writes that other sections later read
(`active_ptp_profile`, `delayreq_interval_ms`, the reset of the delay average) are events of
their own, with arbitrary values, so no ordering between tasks is assumed anywhere.

`PortEffect` is the specification of a step: every outcome, with what it says about the
generation and the lifecycle of the exchange, the rate, the capability and the handler in
progress. The invariants of later modules case on it.
-/

namespace EspPtp

open Lib

/-- Port 0, the profile, and the Follow_Up handler between its two sections. -/
structure PeerPortState (F : Type) where
  port : PtpPeerPort F
  gptp : Bool
  handling : Option (PeerHandling F)

/-- The critical sections, and the unlocked writes they read. -/
inductive PortEvent (F ι : Type) where
  | setPortLink (up : Bool)
  | sendDelayReqBegin (sequence : UInt16) (request : PtpHeader) (nowUs deadlineUs : Int)
  | sendDelayReqPublish (sent : Bool) (generation : UInt32) (transmit : Timespec) (nowUs : Int)
  /-- `ptp_check_profile_fallback`. -/
  | expire (nowUs : Int)
  /-- `ptp_arm_profile_fallback`. -/
  | clearLosses
  | delayResp (response : PtpDelayResp) (receive : Timespec) (nowUs : Int)
  | takeFollowUp (nowUs : Int)
  | followUpFinish (followUp : PtpDelayRespFollowUp) (expectedGeneration : UInt32)
    (nowUs : Int)
  | followUpCommit (input : ι) (nowUs : Int)
  | cleanAfterStep
  /-- The `capable_receive` writes of Announce, Signaling and profile handling. -/
  | setCapableReceive (capableReceive : PtpCapableReceive)
  | setProfile (gptp : Bool) (delayreqIntervalMs : Int)
  /-- The delay reset of `ptp_reset_for_profile`. -/
  | resetPeerDelay

/-- A Follow_Up whose second section wrote its result back. -/
structure PeerCommit (F : Type) where
  handling : PeerHandling F
  evaluation : PeerEvaluation F
  /-- `peer_rate` as the section found it. -/
  previous : PtpPeerRate F
  qualified : Bool
  atUs : Int

/-- What a section answered. `multiple` is the exchange's flag when it left the lock. -/
inductive PortOutcome (F : Type) where
  | nothing
  | link (changed : Bool)
  | begun (generation : UInt32)
  | responded (admission : PeerAdmission) (multiple : Bool)
  | finished (measurement : Option PtpPeerMeasurement) (multiple : Bool)
  | stepped
  | dropped
  | stale
  | committed (commit : PeerCommit F)

variable {F ι : Type}

section Step

variable (evaluate : ι → PeerHandling F → Option (PeerEvaluation F)) (cfg : Config)
  (ownClock : ClockIdentity)

/-- The second section on the handler in progress. -/
def commitStep (s : PeerPortState F) (handling : PeerHandling F) (input : ι) (nowUs : Int) :
    PeerPortState F × PortOutcome F :=
  match evaluate input handling with
  | none => ({ s with handling := none }, .dropped)
  | some evaluation =>
    let written := followUpCommit cfg ownClock s.port handling evaluation nowUs
    ({ s with port := written.1, handling := none },
      if written.2 then
        .committed
          { handling := handling
            evaluation := evaluation
            previous := s.port.peerRate
            qualified := written.1.peerCapability.qualified
            atUs := nowUs }
      else .stale)

def portStep (s : PeerPortState F) : PortEvent F ι → PeerPortState F × PortOutcome F
  | .setPortLink up =>
    ({ s with port := (ptpSetPortLink s.port up).1 }, .link (ptpSetPortLink s.port up).2)
  | .sendDelayReqBegin sequence request nowUs deadlineUs =>
    let answer := EspPtp.sendDelayReqBegin s.port sequence request nowUs deadlineUs
    ({ s with port := answer.1 }, .begun answer.2)
  | .sendDelayReqPublish sent generation transmit nowUs =>
    ({ s with port := EspPtp.sendDelayReqPublish s.port sent generation transmit nowUs },
      .nothing)
  | .expire nowUs =>
    ({ s with port.peerExchange := (ptpPeerExpire s.port.peerExchange nowUs).1 }, .nothing)
  | .clearLosses => ({ s with port.peerExchange.lostResponses := 0 }, .nothing)
  | .delayResp response receive nowUs =>
    let answer := delayRespSection s.port response receive nowUs
    ({ s with port := answer.1 }, .responded answer.2 answer.1.peerExchange.multiple)
  | .takeFollowUp nowUs =>
    ({ s with port.peerExchange := (ptpPeerTakeFollowUp s.port.peerExchange nowUs).1 },
      .nothing)
  | .followUpFinish followUp expectedGeneration nowUs =>
    let answer := EspPtp.followUpFinish s.port followUp expectedGeneration nowUs
    ({ s with port := answer.1, handling := answer.2 },
      .finished (answer.2.map PeerHandling.measurement) answer.1.peerExchange.multiple)
  | .followUpCommit input nowUs =>
    match s.handling with
    | none => (s, .nothing)
    | some handling => commitStep evaluate cfg ownClock s handling input nowUs
  | .cleanAfterStep => ({ s with port := ptpCleanAfterStep s.port }, .stepped)
  | .setCapableReceive capableReceive =>
    ({ s with port.capableReceive := capableReceive }, .nothing)
  | .setProfile gptp delayreqIntervalMs =>
    ({ s with gptp := gptp, port.delayreqIntervalMs := delayreqIntervalMs }, .nothing)
  | .resetPeerDelay =>
    ({ s with port.peerDelayAvgcount := 0, port.peerDelayNs := 0 }, .nothing)

end Step

/-! ## What the exchange keeps -/

/-- A request is on its way or published. -/
def PtpPeerExchange.InFlight (e : PtpPeerExchange) : Prop :=
  e.published = true ∨ e.sending = true

/-- A call that stays in the exchange's lifetime. -/
structure ExchangeKept (e e' : PtpPeerExchange) : Prop where
  generation : e'.generation = e.generation
  lifecycle : e'.lifecycle = e.lifecycle
  inFlight : e'.InFlight → e.InFlight

theorem ExchangeKept.of_core {e e' : PtpPeerExchange} (h : e'.core = e.core) :
    ExchangeKept e e' where
  generation := congrArg PeerCore.generation h
  lifecycle := congrArg PeerCore.lifecycle h
  inFlight := by
    have hpub : e'.published = e.published := congrArg PeerCore.published h
    have hsend : e'.sending = e.sending := congrArg PeerCore.sending h
    unfold PtpPeerExchange.InFlight
    rw [hpub, hsend]
    exact id

theorem ptpPeerExpire_kept (e : PtpPeerExchange) (nowUs : Int) :
    ExchangeKept e (ptpPeerExpire e nowUs).1 :=
  .of_core (ptpPeerExpire_core e nowUs)

theorem ptpPeerCancel_kept (e : PtpPeerExchange) (generation : UInt32) :
    ExchangeKept e (ptpPeerCancel e generation) := by
  unfold ptpPeerCancel
  split
  · exact .of_core rfl
  · refine ⟨rfl, rfl, ?_⟩
    rintro (h | h) <;> cases h

theorem ptpPeerPublish_kept (e : PtpPeerExchange) (generation : UInt32) (transmit : Timespec)
    (nowUs : Int) : ExchangeKept e (ptpPeerPublish e generation transmit nowUs).1 := by
  rcases ptpPeerPublish_cases e generation transmit nowUs with
    ⟨-, hsame⟩ | ⟨-, -, hsend, -, -, -, -, hcore⟩
  · rw [hsame]
    exact .of_core rfl
  · exact ⟨congrArg PeerCore.generation hcore, congrArg PeerCore.lifecycle hcore,
      fun _ => Or.inr hsend⟩

theorem ptpPeerTakeFollowUp_kept (e : PtpPeerExchange) (nowUs : Int) :
    ExchangeKept e (ptpPeerTakeFollowUp e nowUs).1 := by
  rcases ptpPeerTakeFollowUp_cases e nowUs with ⟨-, hsame⟩ | ⟨-, hpub, -, -, -, -, hcore⟩
  · rw [hsame]
    exact .of_core rfl
  · exact ⟨congrArg PeerCore.generation hcore, congrArg PeerCore.lifecycle hcore,
      fun _ => Or.inl hpub⟩

theorem ptpPeerResponse_kept (e : PtpPeerExchange) (response : PtpDelayResp)
    (receive : Timespec) (nowUs : Int) :
    ExchangeKept e (ptpPeerResponse e response receive nowUs).1 := by
  have hstep := ptpPeerResponse_step e response receive nowUs
  generalize ptpPeerResponse e response receive nowUs = answer at hstep ⊢
  obtain ⟨e', admission⟩ := answer
  dsimp only at hstep ⊢
  generalize hc : e'.core = core at hstep
  have hgen := congrArg PeerCore.generation hc
  have hlife := congrArg PeerCore.lifecycle hc
  cases hstep with
  | ignored _ => exact .of_core hc
  | faulted _ h _ _ _ => exact ⟨hgen, hlife, fun _ => h.inFlight⟩
  | accepted h _ _ => exact ⟨hgen, hlife, fun _ => h.inFlight⟩

theorem ptpPeerFinish_kept (e : PtpPeerExchange) (followUp : PtpDelayRespFollowUp)
    (nowUs : Int) : ExchangeKept e (ptpPeerFinish e followUp nowUs).1 := by
  have hstep := ptpPeerFinish_step e followUp nowUs
  generalize ptpPeerFinish e followUp nowUs = answer at hstep ⊢
  obtain ⟨e', m⟩ := answer
  dsimp only at hstep ⊢
  generalize hc : e'.core = core at hstep
  have hgen := congrArg PeerCore.generation hc
  have hlife := congrArg PeerCore.lifecycle hc
  cases hstep with
  | rejected _ => exact .of_core hc
  | repeated h _ => exact ⟨hgen, hlife, fun _ => h.inFlight⟩
  | retained h _ _ _ => exact ⟨hgen, hlife, fun _ => h.inFlight⟩
  | completed h _ _ _ => exact ⟨hgen, hlife, fun _ => h.inFlight⟩

/-- A measurement is of the request in flight. -/
theorem ptpPeerFinish_measurement {e : PtpPeerExchange} {followUp : PtpDelayRespFollowUp}
    {nowUs : Int} {m : PtpPeerMeasurement} (h : (ptpPeerFinish e followUp nowUs).2 = some m) :
    m.generation = e.generation ∧ m.lifecycle = e.lifecycle ∧ e.InFlight := by
  have hstep := ptpPeerFinish_step e followUp nowUs
  rw [h] at hstep
  generalize (ptpPeerFinish e followUp nowUs).1.core = core at hstep
  cases hstep with
  | completed hadm _ _ _ => exact ⟨rfl, rfl, hadm.inFlight⟩

/-! ## What a step can do -/

/-- The exchange of a port state. -/
abbrev PeerPortState.exchange (s : PeerPortState F) : PtpPeerExchange := s.port.peerExchange

/-- An outcome that reports no event of the exchange. -/
def PortOutcome.Silent : PortOutcome F → Prop
  | .nothing | .link false => True
  | _ => False

/-- The clearing of `qualified` after a call that may have spoiled the exchange. -/
def QualifiedCleared (s s' : PeerPortState F) : Prop :=
  s'.port.peerCapability =
    if s'.exchange.multiple then { s.port.peerCapability with qualified := false }
    else s.port.peerCapability

/-- **Everything a step of port 0 can do**, by its outcome. -/
inductive PortEffect (evaluate : ι → PeerHandling F → Option (PeerEvaluation F))
    (s s' : PeerPortState F) : PortOutcome F → Prop
  | quiet {out : PortOutcome F} (hout : out.Silent) (hkept : ExchangeKept s.exchange s'.exchange)
      (hmultiple : s'.exchange.multiple = s.exchange.multiple)
      (hrate : s'.port.peerRate = s.port.peerRate)
      (hcap : s'.port.peerCapability = s.port.peerCapability)
      (hhandling : s'.handling = s.handling) : PortEffect evaluate s s' out
  | linked (hgen : s'.exchange.generation = nextNonzero s.exchange.generation)
      (hlife : s'.exchange.lifecycle = nextNonzero s.exchange.lifecycle)
      (hidle : ¬ s'.exchange.InFlight) (hmultiple : s'.exchange.multiple = false)
      (hrate : s'.port.peerRate = s.port.peerRate)
      (hcap : s'.port.peerCapability = s.port.peerCapability)
      (hhandling : s'.handling = s.handling) : PortEffect evaluate s s' (.link true)
  | begun (hgen : s'.exchange.generation = nextNonzero s.exchange.generation)
      (hlife : s'.exchange.lifecycle = s.exchange.lifecycle)
      (hmultiple : s'.exchange.multiple = false)
      (hrate : s'.port.peerRate = s.port.peerRate)
      (hcap : s'.port.peerCapability = s.port.peerCapability)
      (hhandling : s'.handling = s.handling) : PortEffect evaluate s s' (.begun s'.exchange.generation)
  | responded (admission : PeerAdmission) (hkept : ExchangeKept s.exchange s'.exchange)
      (hrate : s'.port.peerRate = s.port.peerRate) (hcap : QualifiedCleared s s')
      (hhandling : s'.handling = s.handling) :
      PortEffect evaluate s s' (.responded admission s'.exchange.multiple)
  | finished (hkept : ExchangeKept s.exchange s'.exchange)
      (hrate : s'.port.peerRate = s.port.peerRate) (hcap : QualifiedCleared s s')
      (hcopy : ∀ handling, s'.handling = some handling →
        handling.measurement.generation = s.exchange.generation ∧
        handling.measurement.lifecycle = s.exchange.lifecycle ∧
        handling.rate = s.port.peerRate ∧ s.exchange.InFlight) :
      PortEffect evaluate s s'
        (.finished (s'.handling.map PeerHandling.measurement) s'.exchange.multiple)
  | stepped (hgen : s'.exchange.generation = nextNonzero s.exchange.generation)
      (hlife : s'.exchange.lifecycle = s.exchange.lifecycle)
      (hidle : ¬ s'.exchange.InFlight) (hmultiple : s'.exchange.multiple = false)
      (hrate : s'.port.peerRate = { s.port.peerRate with reanchor := true })
      (hcap : s'.port.peerCapability = s.port.peerCapability)
      (hhandling : s'.handling = s.handling) : PortEffect evaluate s s' .stepped
  | ended {out : PortOutcome F}
      (hout : out = .dropped ∨ out = .stale ∨ out = .finished none s.exchange.multiple)
      (hstate : s' = { s with handling := none }) : PortEffect evaluate s s' out
  | committed (commit : PeerCommit F) (input : ι)
      (hevaluate : evaluate input commit.handling = some commit.evaluation)
      (hhandling : s.handling = some commit.handling)
      (hcurrent : commitCurrent s.port commit.handling.measurement = true)
      (hprevious : commit.previous = s.port.peerRate)
      (hexchange : s'.exchange = s.exchange)
      (hrate : s'.port.peerRate = commit.evaluation.rate)
      (hcap : s'.port.peerCapability =
        { lifecycle := commit.handling.measurement.lifecycle
          receivedUs := commit.atUs
          qualified := commit.qualified })
      (hdone : s'.handling = none) : PortEffect evaluate s s' (.committed commit)

theorem ExchangeKept.trans {e e' e'' : PtpPeerExchange} (h : ExchangeKept e e')
    (h' : ExchangeKept e' e'') : ExchangeKept e e'' where
  generation := h'.generation.trans h.generation
  lifecycle := h'.lifecycle.trans h.lifecycle
  inFlight := fun hf => h.inFlight (h'.inFlight hf)

/-- Publishing or cancelling stays in the request's lifetime and spoils nothing. -/
theorem sendDelayReqPublish_kept (port : PtpPeerPort F) (sent : Bool) (generation : UInt32)
    (transmit : Timespec) (nowUs : Int) :
    let published := sendDelayReqPublish port sent generation transmit nowUs
    ExchangeKept port.peerExchange published.peerExchange ∧
      published.peerExchange.multiple = port.peerExchange.multiple := by
  have hcancel (e : PtpPeerExchange) : (ptpPeerCancel e generation).multiple = e.multiple := by
    unfold ptpPeerCancel
    split <;> rfl
  cases sent with
  | false => exact ⟨ptpPeerCancel_kept _ _, hcancel _⟩
  | true =>
    have hkept := ptpPeerPublish_kept port.peerExchange generation transmit nowUs
    simp only [sendDelayReqPublish, if_true]
    rcases ptpPeerPublish_cases port.peerExchange generation transmit nowUs with
      ⟨hno, hsame⟩ | ⟨hyes, -, -, -, -, -, -, hcore⟩
    · rw [hno, hsame]
      exact ⟨ptpPeerCancel_kept _ _, hcancel _⟩
    · rw [hyes]
      exact ⟨hkept, congrArg PeerCore.multiple hcore⟩

/-- A commit writes for the exchange that is current and not spoiled. -/
theorem commitCurrent_iff {port : PtpPeerPort F} {measurement : PtpPeerMeasurement} :
    commitCurrent port measurement = true ↔
      port.peerExchange.generation = measurement.generation ∧
      port.peerExchange.lifecycle = measurement.lifecycle ∧
      port.peerExchange.multiple = false := by
  simp [commitCurrent, and_assoc]

theorem clearQualified_exchange (port : PtpPeerPort F) :
    (clearQualified port).peerExchange = port.peerExchange := by
  unfold clearQualified
  split <;> rfl

theorem clearQualified_rate (port : PtpPeerPort F) :
    (clearQualified port).peerRate = port.peerRate := by
  unfold clearQualified
  split <;> rfl

theorem clearQualified_capability (port : PtpPeerPort F) :
    (clearQualified port).peerCapability =
      if port.peerExchange.multiple then { port.peerCapability with qualified := false }
      else port.peerCapability := by
  unfold clearQualified
  split <;> rfl

theorem commitDelay_kept (cfg : Config) (port : PtpPeerPort F)
    (evaluation : PeerEvaluation F) :
    (commitDelay cfg port evaluation).peerExchange = port.peerExchange := by
  unfold commitDelay
  dsimp only
  split_ifs <;> rfl

/-- The commit is no part of the exchange. -/
theorem followUpCommit_exchange (cfg : Config) (ownClock : ClockIdentity)
    (port : PtpPeerPort F) (handling : PeerHandling F) (evaluation : PeerEvaluation F)
    (nowUs : Int) :
    (followUpCommit cfg ownClock port handling evaluation nowUs).1.peerExchange =
      port.peerExchange := by
  unfold followUpCommit
  split
  · exact commitDelay_kept cfg port evaluation
  · rfl

section Effect

variable (evaluate : ι → PeerHandling F → Option (PeerEvaluation F)) (cfg : Config)
  (ownClock : ClockIdentity)

theorem commitStep_effect (s : PeerPortState F) (handling : PeerHandling F) (input : ι)
    (nowUs : Int) (hs : s.handling = some handling) :
    PortEffect evaluate s (commitStep evaluate cfg ownClock s handling input nowUs).1
      (commitStep evaluate cfg ownClock s handling input nowUs).2 := by
  unfold commitStep
  cases heval : evaluate input handling with
  | none => exact .ended (Or.inl rfl) rfl
  | some evaluation =>
    simp only [followUpCommit]
    by_cases hcurrent : commitCurrent s.port handling.measurement
    · simp only [if_pos hcurrent, if_true]
      refine .committed _ input heval hs hcurrent rfl ?_ rfl rfl rfl
      exact commitDelay_kept cfg s.port evaluation
    · simp only [if_neg hcurrent]
      exact .ended (Or.inr (Or.inl rfl)) rfl

theorem followUpFinish_effect (s : PeerPortState F) (followUp : PtpDelayRespFollowUp)
    (expectedGeneration : UInt32) (nowUs : Int) :
    let answer := followUpFinish s.port followUp expectedGeneration nowUs
    PortEffect evaluate s { s with port := answer.1, handling := answer.2 }
      (.finished (answer.2.map PeerHandling.measurement) answer.1.peerExchange.multiple) := by
  unfold followUpFinish
  split
  · exact .ended (Or.inr (Or.inr rfl)) rfl
  · refine .finished ?_ (clearQualified_rate _) ?_ ?_
    · have hkept := ptpPeerFinish_kept s.exchange followUp nowUs
      simpa only [PeerPortState.exchange, clearQualified_exchange] using hkept
    · simp only [QualifiedCleared, PeerPortState.exchange, clearQualified_exchange]
      exact clearQualified_capability _
    · intro handling hsome
      obtain ⟨m, hm, rfl⟩ := Option.map_eq_some_iff.mp hsome
      obtain ⟨hgen, hlife, hflight⟩ := ptpPeerFinish_measurement hm
      exact ⟨hgen, hlife, rfl, hflight⟩

/-- **The specification of a step.** -/
theorem portStep_effect (s : PeerPortState F) (event : PortEvent F ι) :
    PortEffect evaluate s (portStep evaluate cfg ownClock s event).1
      (portStep evaluate cfg ownClock s event).2 := by
  cases event with
  | setPortLink up =>
    simp only [portStep, ptpSetPortLink]
    split
    · exact .quiet trivial (.of_core rfl) rfl rfl rfl rfl
    · refine .linked rfl rfl ?_ rfl rfl rfl rfl
      rintro (h | h) <;> cases h
  | sendDelayReqBegin sequence request nowUs deadlineUs =>
    have hexpire := ptpPeerExpire_kept s.exchange nowUs
    refine .begun ?_ ?_ rfl rfl rfl rfl
    · exact congrArg nextNonzero hexpire.generation
    · exact hexpire.lifecycle
  | sendDelayReqPublish sent generation transmit nowUs =>
    have hkept := sendDelayReqPublish_kept s.port sent generation transmit nowUs
    exact .quiet trivial hkept.1 hkept.2 rfl rfl rfl
  | expire nowUs =>
    have hcore := ptpPeerExpire_core s.exchange nowUs
    exact .quiet trivial (.of_core hcore) (congrArg PeerCore.multiple hcore) rfl rfl rfl
  | clearLosses => exact .quiet trivial (.of_core rfl) rfl rfl rfl rfl
  | delayResp response receive nowUs =>
    refine .responded _ ?_ (clearQualified_rate _) ?_ rfl
    · have hkept := ptpPeerResponse_kept s.exchange response receive nowUs
      simpa only [PeerPortState.exchange, portStep, delayRespSection, clearQualified_exchange]
        using hkept
    · simp only [QualifiedCleared, PeerPortState.exchange, portStep, delayRespSection,
        clearQualified_exchange]
      exact clearQualified_capability _
  | takeFollowUp nowUs =>
    refine .quiet trivial (ptpPeerTakeFollowUp_kept s.exchange nowUs) ?_ rfl rfl rfl
    rcases ptpPeerTakeFollowUp_cases s.exchange nowUs with
      ⟨-, hsame⟩ | ⟨-, -, -, -, -, -, hcore⟩
    · exact congrArg PtpPeerExchange.multiple hsame
    · exact congrArg PeerCore.multiple hcore
  | followUpFinish followUp expectedGeneration nowUs =>
    exact followUpFinish_effect evaluate s followUp expectedGeneration nowUs
  | followUpCommit input nowUs =>
    simp only [portStep]
    split
    · exact .quiet trivial (.of_core rfl) rfl rfl rfl rfl
    · rename_i handling hs
      exact commitStep_effect evaluate cfg ownClock s handling input nowUs hs
  | cleanAfterStep =>
    refine .stepped rfl rfl ?_ rfl rfl rfl rfl
    rintro (h | h) <;> cases h
  | setCapableReceive _ => exact .quiet trivial (.of_core rfl) rfl rfl rfl rfl
  | setProfile _ _ => exact .quiet trivial (.of_core rfl) rfl rfl rfl rfl
  | resetPeerDelay => exact .quiet trivial (.of_core rfl) rfl rfl rfl rfl

end Effect

/-! ## Counting lifetimes -/

/-- A history of port 0: events with their outcomes, oldest first. -/
abbrev PortHistory (F ι : Type) := List (PortEvent F ι × PortOutcome F)

/-- The outcomes that start a generation. -/
def PortOutcome.renews : PortOutcome F → Bool
  | .link true | .begun _ | .stepped => true
  | _ => false

/-- The outcomes that start a lifecycle. -/
def PortOutcome.relinks : PortOutcome F → Bool
  | .link true => true
  | _ => false

def PortHistory.renewals (h : PortHistory F ι) : Nat := h.countP (·.2.renews)

def PortHistory.links (h : PortHistory F ι) : Nat := h.countP (·.2.relinks)

theorem PortOutcome.relinks_renews {out : PortOutcome F} (h : out.relinks = true) :
    out.renews = true := by
  cases out with
  | link changed =>
    cases changed with
    | false => cases h
    | true => rfl
  | _ => cases h

theorem PortHistory.links_le_renewals (h : PortHistory F ι) : h.links ≤ h.renewals :=
  List.countP_mono_left fun _ _ hx => PortOutcome.relinks_renews hx

theorem PortHistory.renewals_snoc (h : PortHistory F ι) (x : PortEvent F ι × PortOutcome F) :
    PortHistory.renewals (h ++ [x]) = h.renewals + if x.2.renews then 1 else 0 := by
  rw [PortHistory.renewals, List.countP_append, List.countP_singleton]
  rfl

theorem PortHistory.links_snoc (h : PortHistory F ι) (x : PortEvent F ι × PortOutcome F) :
    PortHistory.links (h ++ [x]) = h.links + if x.2.relinks then 1 else 0 := by
  rw [PortHistory.links, List.countP_append, List.countP_singleton]
  rfl

/-- The number of links never goes down. -/
theorem PortHistory.le_links_snoc {h : PortHistory F ι} (x : PortEvent F ι × PortOutcome F)
    {k : Nat} (hle : k ≤ h.links) : k ≤ PortHistory.links (h ++ [x]) := by
  rw [PortHistory.links_snoc]
  exact Nat.le_add_right_of_le hle

/-- Fewer lifetimes than the counters hold. -/
def PortHistory.Bounded (h : PortHistory F ι) : Prop := h.renewals < 2 ^ 32 - 1

theorem PortHistory.Bounded.of_snoc {h : PortHistory F ι}
    {x : PortEvent F ι × PortOutcome F} (hb : PortHistory.Bounded (h ++ [x])) : h.Bounded := by
  unfold PortHistory.Bounded at hb ⊢
  rw [PortHistory.renewals_snoc] at hb
  omega

/-- The counters of the exchange count. -/
structure PortCounts (h : PortHistory F ι) (s : PeerPortState F) : Prop where
  generation : s.exchange.generation.toNat = h.renewals
  lifecycle : s.exchange.lifecycle.toNat = h.links

/-- A new link leaves every lifecycle of the past behind. -/
theorem PortCounts.relinked {h : PortHistory F ι} {s : PeerPortState F} {event : PortEvent F ι}
    (hc : PortCounts (h ++ [(event, .link true)]) s) {lifecycle : UInt32}
    (hold : lifecycle.toNat ≤ h.links) : lifecycle ≠ s.exchange.lifecycle := by
  have hlinks := PortHistory.links_snoc h (event, PortOutcome.link true)
  have hnow := hc.lifecycle
  simp only [PortOutcome.relinks, if_true] at hlinks
  intro heq
  rw [← heq, hlinks] at hnow
  omega

/-- A handling that was there before. -/
theorem PeerPortState.handling_of_eq {s s' : PeerPortState F} {P : PeerHandling F → Prop}
    (h : s'.handling = s.handling) (handling : PeerHandling F)
    (hs : s'.handling = some handling) : s.handling = some handling ∨ P handling := by
  rw [h] at hs
  exact .inl hs

/-- The counters after a step, from the ones before. -/
theorem PortCounts.step {h : PortHistory F ι} {s s' : PeerPortState F}
    {x : PortEvent F ι × PortOutcome F} (hc : PortCounts h s)
    (hbound : PortHistory.Bounded (h ++ [x]))
    (hgen : s'.exchange.generation =
      if x.2.renews then nextNonzero s.exchange.generation else s.exchange.generation)
    (hlife : s'.exchange.lifecycle =
      if x.2.relinks then nextNonzero s.exchange.lifecycle else s.exchange.lifecycle) :
    PortCounts (h ++ [x]) s' := by
  have hlinks := PortHistory.links_le_renewals (h ++ [x])
  unfold PortHistory.Bounded at hbound
  rw [PortHistory.links_snoc, PortHistory.renewals_snoc] at hlinks
  rw [PortHistory.renewals_snoc] at hbound
  constructor
  · rw [hgen, PortHistory.renewals_snoc]
    split
    · rename_i hr
      rw [if_pos hr] at hbound
      rw [nextNonzero_toNat (by rw [hc.generation]; omega), hc.generation]
    · exact hc.generation
  · rw [hlife, PortHistory.links_snoc]
    split
    · rename_i hr
      rw [if_pos hr] at hlinks
      rw [nextNonzero_toNat (by rw [hc.lifecycle]; omega), hc.lifecycle]
    · exact hc.lifecycle

/-- What a step does to the two counters, by its outcome. -/
theorem PortEffect.counters {evaluate : ι → PeerHandling F → Option (PeerEvaluation F)}
    {s s' : PeerPortState F} {out : PortOutcome F} (heffect : PortEffect evaluate s s' out) :
    s'.exchange.generation =
        (if out.renews then nextNonzero s.exchange.generation else s.exchange.generation) ∧
      s'.exchange.lifecycle =
        if out.relinks then nextNonzero s.exchange.lifecycle else s.exchange.lifecycle := by
  cases heffect with
  | quiet hout hkept _ _ _ _ =>
    rw [hkept.generation, hkept.lifecycle]
    unfold PortOutcome.Silent at hout
    split at hout <;> first | exact ⟨rfl, rfl⟩ | cases hout
  | linked hgen hlife _ _ _ _ _ => exact ⟨hgen, hlife⟩
  | begun hgen hlife _ _ _ _ => exact ⟨hgen, hlife⟩
  | responded _ hkept _ _ _ => exact ⟨hkept.generation, hkept.lifecycle⟩
  | finished hkept _ _ _ => exact ⟨hkept.generation, hkept.lifecycle⟩
  | stepped hgen hlife _ _ _ _ _ => exact ⟨hgen, hlife⟩
  | ended hout hstate =>
    rw [hstate]
    rcases hout with rfl | rfl | rfl <;> exact ⟨rfl, rfl⟩
  | committed _ _ _ _ _ _ hexchange _ _ _ =>
    rw [hexchange]
    exact ⟨rfl, rfl⟩

theorem PortCounts.effect {evaluate : ι → PeerHandling F → Option (PeerEvaluation F)}
    {h : PortHistory F ι} {s s' : PeerPortState F} {event : PortEvent F ι}
    {out : PortOutcome F} (hc : PortCounts h s)
    (hbound : PortHistory.Bounded (h ++ [(event, out)]))
    (heffect : PortEffect evaluate s s' out) : PortCounts (h ++ [(event, out)]) s' :=
  hc.step hbound heffect.counters.1 heffect.counters.2

end EspPtp
