import EspPtp.Lib.History
import EspPtp.Peer.Core

/-!
# The early and the late path agree

The transmit stamp of a request is published by the timer task and the two answers are
received by the daemon, so there are three orders in which an ordinary exchange can come
together. When the stamp is there before the Follow_Up, `ptp_peer_finish` measures at
once; when it is not, the Follow_Up is retained and the daemon's next pass takes it back
and replays it. The result below is that the orders cannot be told apart by what they
measure, whatever stray answers come in between.

A pass of the daemon — `ptp_peer_take_follow_up` and, if it hands something out, the
replay — is one event here. Nothing of an exchange can happen between the two halves:
answers are read by the same task, and the take succeeds only after publication.
-/

namespace EspPtp

open Lib

/-- What an exchange is made of besides its request. -/
structure PeerAnswers where
  transmit : Timespec
  receive : Timespec
  response : PtpDelayResp
  followUp : PtpDelayRespFollowUp

/-- The answers **match** a request: sequence, requester, valid timestamps, and one
    responder that is not the requester. -/
structure PeerAnswers.Match (x : PeerAnswers) (sequence : UInt16) (request : PtpHeader) :
    Prop where
  transmitLow : 0 ≤ x.transmit.tvNsec
  transmitHigh : x.transmit.tvNsec < 1000000000
  receiveLow : 0 ≤ x.receive.tvNsec
  receiveHigh : x.receive.tvNsec < 1000000000
  responseSequence : ptpGetSequence x.response.header = sequence
  responseRequester : x.response.requester = request.sourcePort
  responseStamp : ptpPeerTimestampValid x.response.receivetimestamp = true
  followUpSequence : ptpGetSequence x.followUp.header = sequence
  followUpRequester : x.followUp.requester = request.sourcePort
  followUpStamp : ptpPeerTimestampValid x.followUp.origintimestamp = true
  oneResponder : x.response.header.sourcePort = x.followUp.header.sourcePort
  notSelf : x.response.header.sourceidentity ≠ request.sourceidentity

/-- What happens to an exchange between its begin and its end. -/
inductive ExchangeEvent where
  | publish (nowUs : Int)
  | response (nowUs : Int)
  | followUp (nowUs : Int)
  | strayResponse (response : PtpDelayResp) (receive : Timespec) (nowUs : Int)
  | strayFollowUp (followUp : PtpDelayRespFollowUp) (nowUs : Int)
  | poll (takeUs replayUs : Int)

/-- The deferred replay of a daemon pass. -/
def deferredReplay (e : PtpPeerExchange) (takeUs replayUs : Int) :
    PtpPeerExchange × Option PtpPeerMeasurement :=
  match ptpPeerTakeFollowUp e takeUs with
  | (e, none) => (e, none)
  | (e, some (followUp, generation)) => finishExpecting e followUp generation replayUs

/-- One event, with the measurement of a finish that returned `true` in it. -/
def exchangeStep (generation : UInt32) (x : PeerAnswers) (e : PtpPeerExchange) :
    ExchangeEvent → PtpPeerExchange × Option PtpPeerMeasurement
  | .publish nowUs => ((ptpPeerPublish e generation x.transmit nowUs).1, none)
  | .response nowUs => ((ptpPeerResponse e x.response x.receive nowUs).1, none)
  | .followUp nowUs => finishExpecting e x.followUp 0 nowUs
  | .strayResponse response receive nowUs => ((ptpPeerResponse e response receive nowUs).1, none)
  | .strayFollowUp followUp nowUs => finishExpecting e followUp 0 nowUs
  | .poll takeUs replayUs => deferredReplay e takeUs replayUs

theorem finishExpecting_wire (e : PtpPeerExchange) (followUp : PtpDelayRespFollowUp)
    (nowUs : Int) : finishExpecting e followUp 0 nowUs = ptpPeerFinish e followUp nowUs := by
  simp [finishExpecting]

/-! ## Schedules -/

/-- The three arrivals whose order is in question. -/
inductive Arrival where
  | publish
  | response
  | followUp

def ExchangeEvent.arrival : ExchangeEvent → Option Arrival
  | .publish _ => some .publish
  | .response _ => some .response
  | .followUp _ => some .followUp
  | _ => none

def arrivals (es : List ExchangeEvent) : List Arrival := es.filterMap ExchangeEvent.arrival

/-- The event happens before the deadline. -/
def ExchangeEvent.InTime (deadlineUs : Int) : ExchangeEvent → Prop
  | .publish nowUs | .response nowUs | .followUp nowUs => nowUs < deadlineUs
  | .strayResponse _ _ nowUs | .strayFollowUp _ nowUs => nowUs < deadlineUs
  | .poll takeUs replayUs => takeUs < deadlineUs ∧ replayUs < deadlineUs

/-- A stray answer has another sequence number or another requester. -/
def ExchangeEvent.StrayOk (sequence : UInt16) (requester : PortIdentity) :
    ExchangeEvent → Prop
  | .strayResponse answer _ _ =>
    ptpGetSequence answer.header ≠ sequence ∨ answer.requester ≠ requester
  | .strayFollowUp answer _ =>
    ptpGetSequence answer.header ≠ sequence ∨ answer.requester ≠ requester
  | _ => True

/-- What holds of every part of a schedule: it is before the deadline, its strays are
    strays, and the daemon runs after a publication. -/
structure Admissible (sequence : UInt16) (requester : PortIdentity) (deadlineUs : Int)
    (es : List ExchangeEvent) : Prop where
  inTime : ∀ ev ∈ es, ev.InTime deadlineUs
  stray : ∀ ev ∈ es, ev.StrayOk sequence requester
  polled : ∀ before nowUs after, es = before ++ .publish nowUs :: after →
    ∃ takeUs replayUs, .poll takeUs replayUs ∈ after

/-- **The interleavings of one exchange**: each arrival once, the response before the
    Follow_Up, and strays anywhere. -/
structure Interleaving (sequence : UInt16) (requester : PortIdentity) (deadlineUs : Int)
    (es : List ExchangeEvent) : Prop
    extends Admissible sequence requester deadlineUs es where
  order : arrivals es = [.publish, .response, .followUp] ∨
    arrivals es = [.response, .publish, .followUp] ∨
    arrivals es = [.response, .followUp, .publish]

theorem Admissible.suffix {sequence : UInt16} {requester : PortIdentity} {deadlineUs : Int}
    {before after : List ExchangeEvent}
    (h : Admissible sequence requester deadlineUs (before ++ after)) :
    Admissible sequence requester deadlineUs after where
  inTime := fun ev hev => h.inTime ev (List.mem_append_right _ hev)
  stray := fun ev hev => h.stray ev (List.mem_append_right _ hev)
  polled := by
    intro b nowUs a hsplit
    exact h.polled (before ++ b) nowUs a (by rw [hsplit, List.append_assoc])

theorem Admissible.tail {sequence : UInt16} {requester : PortIdentity} {deadlineUs : Int}
    {ev : ExchangeEvent} {es : List ExchangeEvent}
    (h : Admissible sequence requester deadlineUs (ev :: es)) :
    Admissible sequence requester deadlineUs es := by
  have happ : Admissible sequence requester deadlineUs ([ev] ++ es) := h
  exact happ.suffix

/-! ## Stages -/

/-- How far the Follow_Up has come. -/
inductive FollowUpStage where
  | awaited
  | retained
  | finished
  deriving DecidableEq

/-- The steering fields between two events: which of the arrivals they have seen. -/
structure CoreStage (c₀ : PeerCore) (x : PeerAnswers) (pub rsp : Bool)
    (stage : FollowUpStage) (c : PeerCore) : Prop where
  generation : c.generation = c₀.generation
  lifecycle : c.lifecycle = c₀.lifecycle
  sequence : c.sequence = c₀.sequence
  requester : c.requester = c₀.requester
  deadline : c.deadlineUs = c₀.deadlineUs
  published : c.published = pub
  sending : c.sending = !pub
  transmit : pub = true → c.transmit = x.transmit
  seen : c.responseSeen = rsp
  response : rsp = true → c.response = x.response ∧ c.receive = x.receive
  single : c.multiple = false
  pending : c.followUpPending = decide (stage = .retained)
  pendingFollowUp : stage = .retained → c.pendingFollowUp = x.followUp
  consumed : c.consumed = decide (stage = .finished)

/-- The record between two events. -/
structure Stage (c₀ : PeerCore) (x : PeerAnswers) (pub rsp : Bool) (stage : FollowUpStage)
    (e : PtpPeerExchange) : Prop where
  core : CoreStage c₀ x pub rsp stage e.core
  lost : stage = .finished → e.lostResponses = 0

theorem stage_begin (e : PtpPeerExchange) (sequence : UInt16) (request : PtpHeader)
    (deadlineUs : Int) (x : PeerAnswers) :
    Stage (ptpPeerBegin e sequence request deadlineUs).1.core x false false .awaited
      (ptpPeerBegin e sequence request deadlineUs).1 := by
  refine ⟨?_, fun h => by cases h⟩
  constructor <;> first | rfl | (intro h; cases h)

section Transitions

variable {c₀ : PeerCore} {x : PeerAnswers} {sequence : UInt16} {request : PtpHeader}
  {pub rsp : Bool} {stage : FollowUpStage} {e : PtpPeerExchange}

/-- A request that `x` answers: what `ptp_peer_begin` put into the record. -/
structure Begun (c₀ : PeerCore) (x : PeerAnswers) (sequence : UInt16) (request : PtpHeader) :
    Prop where
  answers : x.Match sequence request
  generation : c₀.generation ≠ 0
  sequence : c₀.sequence = sequence
  requester : c₀.requester = request.sourcePort

theorem Stage.publish (h : Stage c₀ x false rsp stage e) (hb : Begun c₀ x sequence request)
    {nowUs : Int} (hnow : nowUs < c₀.deadlineUs) :
    Stage c₀ x true rsp stage (ptpPeerPublish e c₀.generation x.transmit nowUs).1 := by
  have hlost := ptpPeerPublish_lostResponses e c₀.generation x.transmit nowUs
  have hc := h.core
  rcases ptpPeerPublish_cases e c₀.generation x.transmit nowUs with
    ⟨hno, -⟩ | ⟨-, -, -, -, -, -, -, hcore⟩
  · -- Every guard of the publication holds at this stage.
    have hguard : ¬ (e.generation ≠ c₀.generation ∨ e.sending = false ∨ e.published = true ∨
        nowUs ≥ e.deadlineUs ∨ x.transmit.tvNsec < 0 ∨ x.transmit.tvNsec ≥ 1000000000) := by
      have hg : e.generation = c₀.generation := hc.generation
      have hs : e.sending = true := hc.sending
      have hp : e.published = false := hc.published
      have hd : e.deadlineUs = c₀.deadlineUs := hc.deadline
      have hlow := hb.answers.transmitLow
      have hhigh := hb.answers.transmitHigh
      rw [hg, hs, hp, hd]
      simp
      omega
    rw [ptpPeerPublish, if_neg hguard] at hno
    cases hno
  · refine ⟨?_, fun hs => hlost.trans (h.lost hs)⟩
    rw [hcore]
    exact { hc with published := rfl, sending := rfl, transmit := fun _ => rfl }

/-- Its request is being sent or has been published at every stage. -/
theorem Stage.inFlight (h : Stage c₀ x pub rsp stage e) :
    e.published = true ∨ e.sending = true := by
  have hp : e.published = pub := h.core.published
  have hs : e.sending = !pub := h.core.sending
  rw [hp, hs]
  cases pub <;> simp

theorem Stage.inTime (h : Stage c₀ x pub rsp stage e) {nowUs : Int}
    (hnow : nowUs < c₀.deadlineUs) : nowUs < e.deadlineUs := by
  have hd : e.deadlineUs = c₀.deadlineUs := h.core.deadline
  rw [hd]
  exact hnow

/-- The response of the exchange is admitted. -/
theorem Stage.responseAdmitted (h : Stage c₀ x pub rsp stage e)
    (hb : Begun c₀ x sequence request) {nowUs : Int} (hnow : nowUs < c₀.deadlineUs) :
    ResponseAdmitted e x.response x.receive nowUs where
  sequence := by
    rw [hb.answers.responseSequence, ← hb.sequence]; exact h.core.sequence.symm
  inFlight := h.inFlight
  single := h.core.single
  inTime := h.inTime hnow
  requester := by
    rw [hb.answers.responseRequester, ← hb.requester]; exact h.core.requester
  stamp := hb.answers.responseStamp
  receiveLow := hb.answers.receiveLow
  receiveHigh := hb.answers.receiveHigh

/-- The first response is accepted. -/
theorem Stage.response (h : Stage c₀ x pub false .awaited e)
    (hb : Begun c₀ x sequence request) {nowUs : Int} (hnow : nowUs < c₀.deadlineUs) :
    Stage c₀ x pub true .awaited (ptpPeerResponse e x.response x.receive nowUs).1 ∧
      (ptpPeerResponse e x.response x.receive nowUs).2 = .accepted := by
  have hc := h.core
  have hadm := h.responseAdmitted hb hnow
  have hself : x.response.header.sourceidentity ≠ e.requester.clock := by
    have hreq : e.requester = request.sourcePort := hc.requester.trans hb.requester
    rw [hreq]; exact hb.answers.notSelf
  have hstep := ptpPeerResponse_step e x.response x.receive nowUs
  suffices hs : CoreStage c₀ x pub true .awaited
      (ptpPeerResponse e x.response x.receive nowUs).1.core ∧
      (ptpPeerResponse e x.response x.receive nowUs).2 = .accepted from
    ⟨⟨hs.1, fun hf => by cases hf⟩, hs.2⟩
  generalize (ptpPeerResponse e x.response x.receive nowUs).1.core = core,
    (ptpPeerResponse e x.response x.receive nowUs).2 = answer at hstep ⊢
  cases hstep with
  | ignored hn => exact absurd hadm hn
  | faulted _ _ _ _ hseen =>
    rcases hseen with hseen | hseen
    · have hfirst : e.responseSeen = false := hc.seen
      rw [hfirst] at hseen
      cases hseen
    · exact absurd hseen hself
  | accepted _ _ _ =>
    exact ⟨{ hc with seen := rfl, response := fun _ => ⟨rfl, rfl⟩ }, rfl⟩

/-- The Follow_Up of the exchange is admitted once the response has been. -/
theorem Stage.followUpAdmitted (h : Stage c₀ x pub true stage e)
    (hb : Begun c₀ x sequence request) {nowUs : Int} (hnow : nowUs < c₀.deadlineUs) :
    FollowUpAdmitted e x.followUp nowUs where
  inFlight := h.inFlight
  single := h.core.single
  inTime := h.inTime hnow
  sequence := by
    rw [hb.answers.followUpSequence, ← hb.sequence]; exact h.core.sequence
  requester := by
    rw [hb.answers.followUpRequester, ← hb.requester]; exact h.core.requester
  seen := h.core.seen
  stamp := hb.answers.followUpStamp
  source := by
    have hr : e.response = x.response := (h.core.response rfl).1
    rw [hr]; exact hb.answers.oneResponder

/-- The measurement every interleaving ends in. -/
def PeerAnswers.measurement (x : PeerAnswers) (c₀ : PeerCore) : PtpPeerMeasurement where
  generation := c₀.generation
  lifecycle := c₀.lifecycle
  transmit := x.transmit
  receive := x.receive
  response := x.response

theorem Stage.retain (h : Stage c₀ x false true .awaited e)
    (hb : Begun c₀ x sequence request) {nowUs : Int} (hnow : nowUs < c₀.deadlineUs) :
    Stage c₀ x false true .retained (ptpPeerFinish e x.followUp nowUs).1 ∧
      (ptpPeerFinish e x.followUp nowUs).2 = none := by
  have hadm := h.followUpAdmitted hb hnow
  have hstep := ptpPeerFinish_step e x.followUp nowUs
  have hc := h.core
  have hpub : e.published = false := hc.published
  have hcon : e.consumed = false := hc.consumed
  have hpend : e.followUpPending = false := hc.pending
  suffices hs : CoreStage c₀ x false true .retained (ptpPeerFinish e x.followUp nowUs).1.core ∧
      (ptpPeerFinish e x.followUp nowUs).2 = none from
    ⟨⟨hs.1, fun hf => by cases hf⟩, hs.2⟩
  generalize (ptpPeerFinish e x.followUp nowUs).1.core = core,
    (ptpPeerFinish e x.followUp nowUs).2 = answer at hstep ⊢
  cases hstep with
  | rejected hn => exact absurd hadm hn
  | repeated _ hrep => simp [hcon, hpend] at hrep
  | retained _ _ _ _ =>
    exact ⟨{ hc with pending := rfl, pendingFollowUp := fun _ => rfl, consumed := hcon }, rfl⟩
  | completed _ _ _ hp => simp [hpub] at hp

/-- With the stamp published, a Follow_Up measures. The stage is `awaited` for one from the
    wire and for one the daemon has just taken back. -/
theorem Stage.finish (h : Stage c₀ x true true .awaited e)
    (hb : Begun c₀ x sequence request) {nowUs : Int} (hnow : nowUs < c₀.deadlineUs) :
    Stage c₀ x true true .finished (ptpPeerFinish e x.followUp nowUs).1 ∧
      (ptpPeerFinish e x.followUp nowUs).2 = some (x.measurement c₀) := by
  have hadm := h.followUpAdmitted hb hnow
  have hstep := ptpPeerFinish_step e x.followUp nowUs
  have hlost := ptpPeerFinish_lostResponses e x.followUp nowUs
  have hc := h.core
  have hpub : e.published = true := hc.published
  have hcon : e.consumed = false := hc.consumed
  have hpend : e.followUpPending = false := hc.pending
  suffices hs : CoreStage c₀ x true true .finished (ptpPeerFinish e x.followUp nowUs).1.core ∧
      (ptpPeerFinish e x.followUp nowUs).2 = some (x.measurement c₀) by
    refine ⟨⟨hs.1, fun _ => ?_⟩, hs.2⟩
    rw [hlost, hs.2]
    rfl
  generalize (ptpPeerFinish e x.followUp nowUs).1.core = core,
    (ptpPeerFinish e x.followUp nowUs).2 = answer at hstep ⊢
  cases hstep with
  | rejected hn => exact absurd hadm hn
  | repeated _ hrep => simp [hcon, hpend] at hrep
  | retained _ _ _ hp => simp [hpub] at hp
  | completed _ _ _ _ =>
    refine ⟨{ hc with
      pending := hpend, pendingFollowUp := (fun hf => by cases hf), consumed := rfl }, ?_⟩
    have hmeasure : e.measurement = x.measurement c₀ := by
      have hg : e.generation = c₀.generation := hc.generation
      have hl : e.lifecycle = c₀.lifecycle := hc.lifecycle
      have ht : e.transmit = x.transmit := hc.transmit rfl
      have hr : e.response = x.response := (hc.response rfl).1
      have hx : e.receive = x.receive := (hc.response rfl).2
      simp [PtpPeerExchange.measurement, PeerAnswers.measurement, hg, hl, ht, hr, hx]
    rw [hmeasure]

theorem Stage.strayResponse (h : Stage c₀ x pub rsp stage e)
    (hb : Begun c₀ x sequence request) {response : PtpDelayResp}
    (hstray : ptpGetSequence response.header ≠ sequence ∨
      response.requester ≠ request.sourcePort) (receive : Timespec) (nowUs : Int) :
    Stage c₀ x pub rsp stage (ptpPeerResponse e response receive nowUs).1 := by
  have hadm : ¬ ResponseAdmitted e response receive nowUs := by
    intro hadm
    rcases hstray with hseq | hreq
    · exact hseq (hadm.sequence.trans (h.core.sequence.trans hb.sequence))
    · exact hreq (hadm.requester.symm.trans (h.core.requester.trans hb.requester))
  have hstep := ptpPeerResponse_step e response receive nowUs
  have hlost := ptpPeerResponse_lostResponses e response receive nowUs
  refine ⟨?_, fun hs => hlost.trans (h.lost hs)⟩
  generalize (ptpPeerResponse e response receive nowUs).1.core = core,
    (ptpPeerResponse e response receive nowUs).2 = answer at hstep ⊢
  cases hstep with
  | ignored _ => exact h.core
  | faulted _ ha _ _ _ => exact absurd ha hadm
  | accepted ha _ _ => exact absurd ha hadm

theorem Stage.strayFollowUp (h : Stage c₀ x pub rsp stage e)
    (hb : Begun c₀ x sequence request) {followUp : PtpDelayRespFollowUp}
    (hstray : ptpGetSequence followUp.header ≠ sequence ∨
      followUp.requester ≠ request.sourcePort) (nowUs : Int) :
    Stage c₀ x pub rsp stage (ptpPeerFinish e followUp nowUs).1 ∧
      (ptpPeerFinish e followUp nowUs).2 = none := by
  have hadm : ¬ FollowUpAdmitted e followUp nowUs := by
    intro hadm
    rcases hstray with hseq | hreq
    · exact hseq (hadm.sequence.symm.trans (h.core.sequence.trans hb.sequence))
    · exact hreq (hadm.requester.symm.trans (h.core.requester.trans hb.requester))
  have hstep := ptpPeerFinish_step e followUp nowUs
  have hlost := ptpPeerFinish_lostResponses e followUp nowUs
  suffices hs : CoreStage c₀ x pub rsp stage (ptpPeerFinish e followUp nowUs).1.core ∧
      (ptpPeerFinish e followUp nowUs).2 = none by
    refine ⟨⟨hs.1, fun hf => ?_⟩, hs.2⟩
    rw [hlost, hs.2]
    exact h.lost hf
  generalize (ptpPeerFinish e followUp nowUs).1.core = core,
    (ptpPeerFinish e followUp nowUs).2 = answer at hstep ⊢
  cases hstep with
  | rejected _ => exact ⟨h.core, rfl⟩
  | repeated ha _ => exact absurd ha hadm
  | retained ha _ _ _ => exact absurd ha hadm
  | completed ha _ _ _ => exact absurd ha hadm

/-- A pass of the daemon with nothing to replay. -/
theorem Stage.poll_idle (h : Stage c₀ x pub rsp stage e)
    (hidle : pub = false ∨ stage ≠ .retained) (takeUs replayUs : Int) :
    deferredReplay e takeUs replayUs = (e, none) := by
  unfold deferredReplay
  rcases ptpPeerTakeFollowUp_cases e takeUs with ⟨hno, hsame⟩ | ⟨-, hp, hpend, -, -, -, -⟩
  · rw [← Prod.eta (ptpPeerTakeFollowUp e takeUs), hno, hsame]
  · have hpub : e.published = pub := h.core.published
    have hret : e.followUpPending = decide (stage = .retained) := h.core.pending
    rw [hp] at hpub
    rw [hpend, eq_comm, decide_eq_true_eq] at hret
    rcases hidle with hidle | hidle
    · rw [hidle] at hpub
      cases hpub
    · exact absurd hret hidle

/-- A pass of the daemon with a retained Follow_Up and a published stamp measures. -/
theorem Stage.poll_replay (h : Stage c₀ x true true .retained e)
    (hb : Begun c₀ x sequence request) {takeUs replayUs : Int}
    (htake : takeUs < c₀.deadlineUs) (hreplay : replayUs < c₀.deadlineUs) :
    Stage c₀ x true true .finished (deferredReplay e takeUs replayUs).1 ∧
      (deferredReplay e takeUs replayUs).2 = some (x.measurement c₀) := by
  have hc := h.core
  have hlost := ptpPeerTakeFollowUp_lostResponses e takeUs
  unfold deferredReplay
  rcases ptpPeerTakeFollowUp_cases e takeUs with ⟨hno, -⟩ | ⟨hyes, -, -, -, -, -, hcore⟩
  · have hpub : e.published = true := hc.published
    have hpend : e.followUpPending = true := hc.pending
    have hmul : e.multiple = false := hc.single
    have hcon : e.consumed = false := hc.consumed
    have hnow : ¬ takeUs ≥ e.deadlineUs := by
      have hd : e.deadlineUs = c₀.deadlineUs := hc.deadline
      omega
    simp [ptpPeerTakeFollowUp, hpub, hpend, hmul, hcon, hnow] at hno
  rw [← Prod.eta (ptpPeerTakeFollowUp e takeUs), hyes]
  -- The flag is cleared first, so the replay finds the record as a direct arrival would.
  have htaken : Stage c₀ x true true .awaited (ptpPeerTakeFollowUp e takeUs).1 := by
    refine ⟨?_, fun hf => by cases hf⟩
    rw [hcore]
    exact { hc with pending := rfl, pendingFollowUp := fun hf => by cases hf }
  have hfollow : e.pendingFollowUp = x.followUp := hc.pendingFollowUp rfl
  have hgen : (ptpPeerTakeFollowUp e takeUs).1.generation = e.generation :=
    congrArg PeerCore.generation hcore
  simp only [finishExpecting, hgen, ne_eq, not_true_eq_false, and_false, if_false, hfollow]
  exact htaken.finish hb hreplay

/-! ## Runs -/

/-- One event that is no arrival and finds nothing to replay. -/
theorem Stage.quiet_step (h : Stage c₀ x pub rsp stage e) (hb : Begun c₀ x sequence request)
    (hidle : pub = false ∨ stage ≠ .retained) {ev : ExchangeEvent}
    (harrival : ev.arrival = none) (hstray : ev.StrayOk sequence request.sourcePort) :
    Stage c₀ x pub rsp stage (exchangeStep c₀.generation x e ev).1 ∧
      (exchangeStep c₀.generation x e ev).2 = none := by
  cases ev with
  | publish _ => cases harrival
  | response _ => cases harrival
  | followUp _ => cases harrival
  | strayResponse _ _ _ => exact ⟨h.strayResponse hb hstray _ _, rfl⟩
  | strayFollowUp _ _ =>
    simp only [exchangeStep, finishExpecting_wire]
    exact h.strayFollowUp hb hstray _
  | poll takeUs replayUs =>
    simp only [exchangeStep, h.poll_idle hidle takeUs replayUs]
    exact ⟨h, trivial⟩

theorem Stage.quiet (hb : Begun c₀ x sequence request)
    (hidle : pub = false ∨ stage ≠ .retained) {es : List ExchangeEvent}
    (harrival : ∀ ev ∈ es, ev.arrival = none)
    (hstray : ∀ ev ∈ es, ev.StrayOk sequence request.sourcePort)
    (h : Stage c₀ x pub rsp stage e) :
    Stage c₀ x pub rsp stage (run (exchangeStep c₀.generation x) e es) ∧
      outputs (exchangeStep c₀.generation x) e es = [] := by
  induction es generalizing e with
  | nil => exact ⟨h, rfl⟩
  | cons ev es ih =>
    rw [List.forall_mem_cons] at harrival hstray
    obtain ⟨hstage, hnone⟩ := h.quiet_step hb hidle harrival.1 hstray.1
    rw [run_cons, outputs_cons, hnone]
    exact ih harrival.2 hstray.2 hstage

/-- The tail of an early exchange: strays and passes of the daemon, the first of which
    measures. -/
theorem Stage.replayed (hb : Begun c₀ x sequence request) {es : List ExchangeEvent}
    (harrival : ∀ ev ∈ es, ev.arrival = none)
    (hstray : ∀ ev ∈ es, ev.StrayOk sequence request.sourcePort)
    (htime : ∀ ev ∈ es, ev.InTime c₀.deadlineUs)
    (hpoll : ∃ takeUs replayUs, .poll takeUs replayUs ∈ es)
    (h : Stage c₀ x true true .retained e) :
    Stage c₀ x true true .finished (run (exchangeStep c₀.generation x) e es) ∧
      outputs (exchangeStep c₀.generation x) e es = [x.measurement c₀] := by
  induction es generalizing e with
  | nil => simp at hpoll
  | cons ev es ih =>
    rw [List.forall_mem_cons] at harrival hstray htime
    rw [run_cons, outputs_cons]
    have hrest : (∀ t r, ev ≠ .poll t r) → ∃ takeUs replayUs, .poll takeUs replayUs ∈ es := by
      intro hne
      obtain ⟨t, r, hmem⟩ := hpoll
      rcases List.mem_cons.mp hmem with heq | hmem
      · exact absurd heq.symm (hne t r)
      · exact ⟨t, r, hmem⟩
    cases ev with
    | publish _ => cases harrival.1
    | response _ => cases harrival.1
    | followUp _ => cases harrival.1
    | strayResponse _ _ _ =>
      exact ih harrival.2 hstray.2 htime.2 (hrest (by simp)) (h.strayResponse hb hstray.1 _ _)
    | strayFollowUp _ nowUs =>
      obtain ⟨hstage, hnone⟩ := h.strayFollowUp hb hstray.1 nowUs
      simp only [exchangeStep, finishExpecting_wire, hnone, Option.toList_none, List.nil_append]
      exact ih harrival.2 hstray.2 htime.2 (hrest (by simp)) hstage
    | poll takeUs replayUs =>
      obtain ⟨hstage, hsome⟩ := h.poll_replay hb htime.1.1 htime.1.2
      obtain ⟨hend, hnothing⟩ :=
        Stage.quiet hb (Or.inr (by decide)) harrival.2 hstray.2 hstage
      simp only [exchangeStep, hsome, Option.toList_some]
      exact ⟨hend, by rw [hnothing]; rfl⟩

end Transitions

/-! ## The three orders -/

section Orders

variable {c₀ : PeerCore} {x : PeerAnswers} {sequence : UInt16} {request : PtpHeader}
  {pub rsp : Bool} {stage : FollowUpStage} {e : PtpPeerExchange} {es : List ExchangeEvent}

/-- The run ends measured, once. -/
def Ends (c₀ : PeerCore) (x : PeerAnswers) (e : PtpPeerExchange) (es : List ExchangeEvent) :
    Prop :=
  Stage c₀ x true true .finished (run (exchangeStep c₀.generation x) e es) ∧
    outputs (exchangeStep c₀.generation x) e es = [x.measurement c₀]

/-- **The next arrival**: what precedes it is quiet, so it meets the same stage. -/
theorem Stage.next (h : Stage c₀ x pub rsp stage e) (hb : Begun c₀ x sequence request)
    (hidle : pub = false ∨ stage ≠ .retained)
    (hadm : Admissible sequence request.sourcePort c₀.deadlineUs es)
    {a : Arrival} {as : List Arrival} (harr : arrivals es = a :: as) :
    ∃ e' ev after, Stage c₀ x pub rsp stage e' ∧ ev.arrival = some a ∧
      ev.InTime c₀.deadlineUs ∧ arrivals after = as ∧
      Admissible sequence request.sourcePort c₀.deadlineUs (ev :: after) ∧
      run (exchangeStep c₀.generation x) e es =
        run (exchangeStep c₀.generation x) (exchangeStep c₀.generation x e' ev).1 after ∧
      outputs (exchangeStep c₀.generation x) e es =
        (exchangeStep c₀.generation x e' ev).2.toList ++
          outputs (exchangeStep c₀.generation x) (exchangeStep c₀.generation x e' ev).1 after := by
  obtain ⟨before, ev, after, rfl, hquiet, hev, has⟩ := List.filterMap_eq_cons_iff.mp harr
  obtain ⟨hstage, hnothing⟩ := Stage.quiet hb hidle hquiet
    (fun ev hev => hadm.stray ev (List.mem_append_left _ hev)) h
  refine ⟨_, ev, after, hstage, hev, hadm.inTime ev (by simp), has, hadm.suffix, ?_, ?_⟩
  · rw [run_append]; rfl
  · rw [outputs_append, hnothing, outputs_cons]; rfl

/-- With stamp and response there, the Follow_Up measures. -/
theorem Stage.ends_followUp (h : Stage c₀ x true true .awaited e)
    (hb : Begun c₀ x sequence request)
    (hadm : Admissible sequence request.sourcePort c₀.deadlineUs es)
    (harr : arrivals es = [.followUp]) : Ends c₀ x e es := by
  obtain ⟨e', ev, after, he', hev, htime, hrest, hadm, hrun, hout⟩ :=
    h.next hb (Or.inr (by decide)) hadm harr
  cases ev with
  | followUp nowUs =>
    obtain ⟨hdone, hsome⟩ := he'.finish hb htime
    have hquiet := Stage.quiet hb (Or.inr (by decide)) (List.filterMap_eq_nil_iff.mp hrest)
      hadm.tail.stray hdone
    simp only [exchangeStep, finishExpecting_wire, hsome] at hrun hout
    refine ⟨by rw [hrun]; exact hquiet.1, ?_⟩
    rw [hout, hquiet.2]
    rfl
  | _ => simp [ExchangeEvent.arrival] at hev

/-- With response and Follow_Up there, the pass after the publication measures. -/
theorem Stage.ends_publish (h : Stage c₀ x false true .retained e)
    (hb : Begun c₀ x sequence request)
    (hadm : Admissible sequence request.sourcePort c₀.deadlineUs es)
    (harr : arrivals es = [.publish]) : Ends c₀ x e es := by
  obtain ⟨e', ev, after, he', hev, htime, hrest, hadm, hrun, hout⟩ :=
    h.next hb (Or.inl rfl) hadm harr
  cases ev with
  | publish nowUs =>
    have hpoll := hadm.polled [] nowUs after rfl
    have hreplay := Stage.replayed hb (List.filterMap_eq_nil_iff.mp hrest) hadm.tail.stray
      hadm.tail.inTime hpoll (he'.publish hb htime)
    simp only [exchangeStep] at hrun hout
    exact ⟨by rw [hrun]; exact hreplay.1, by rw [hout]; exact hreplay.2⟩
  | _ => simp [ExchangeEvent.arrival] at hev

theorem Stage.ends_response_followUp (h : Stage c₀ x true false .awaited e)
    (hb : Begun c₀ x sequence request)
    (hadm : Admissible sequence request.sourcePort c₀.deadlineUs es)
    (harr : arrivals es = [.response, .followUp]) : Ends c₀ x e es := by
  obtain ⟨e', ev, after, he', hev, htime, hrest, hadm, hrun, hout⟩ :=
    h.next hb (Or.inr (by decide)) hadm harr
  cases ev with
  | response nowUs =>
    obtain ⟨hstage, hmeasured⟩ := (he'.response hb htime).1.ends_followUp hb hadm.tail hrest
    exact ⟨by rw [hrun]; exact hstage, by rw [hout]; exact hmeasured⟩
  | _ => simp [ExchangeEvent.arrival] at hev

/-- After an early response the publication and the Follow_Up may still come either way. -/
theorem Stage.ends_after_response (h : Stage c₀ x false true .awaited e)
    (hb : Begun c₀ x sequence request)
    (hadm : Admissible sequence request.sourcePort c₀.deadlineUs es)
    (harr : arrivals es = [.publish, .followUp] ∨ arrivals es = [.followUp, .publish]) :
    Ends c₀ x e es := by
  rcases harr with harr | harr
  · obtain ⟨e', ev, after, he', hev, htime, hrest, hadm, hrun, hout⟩ :=
      h.next hb (Or.inl rfl) hadm harr
    cases ev with
    | publish nowUs =>
      obtain ⟨hstage, hmeasured⟩ := (he'.publish hb htime).ends_followUp hb hadm.tail hrest
      exact ⟨by rw [hrun]; exact hstage, by rw [hout]; exact hmeasured⟩
    | _ => simp [ExchangeEvent.arrival] at hev
  · obtain ⟨e', ev, after, he', hev, htime, hrest, hadm, hrun, hout⟩ :=
      h.next hb (Or.inl rfl) hadm harr
    cases ev with
    | followUp nowUs =>
      obtain ⟨hretained, hnone⟩ := he'.retain hb htime
      simp only [exchangeStep, finishExpecting_wire, hnone] at hrun hout
      obtain ⟨hstage, hmeasured⟩ := hretained.ends_publish hb hadm.tail hrest
      exact ⟨by rw [hrun]; exact hstage, by rw [hout]; exact hmeasured⟩
    | _ => simp [ExchangeEvent.arrival] at hev

end Orders

/-- **The early and the late path agree.** From any record a request was begun on, every
    interleaving of the publication with a matching response and Follow_Up answers the same
    one measurement, and leaves the record consumed, not spoiled, and with no loss counted. -/
theorem exchange_confluent (e : PtpPeerExchange) (sequence : UInt16) (request : PtpHeader)
    (deadlineUs : Int) (x : PeerAnswers) (hmatch : x.Match sequence request)
    (es : List ExchangeEvent)
    (hes : Interleaving sequence request.sourcePort deadlineUs es) :
    let begun := (ptpPeerBegin e sequence request deadlineUs).1
    let step := exchangeStep begun.generation x
    outputs step begun es =
      [⟨begun.generation, begun.lifecycle, x.transmit, x.receive, x.response⟩] ∧
    (run step begun es).consumed = true ∧
    (run step begun es).multiple = false ∧
    (run step begun es).lostResponses = 0 := by
  intro begun step
  have hb : Begun begun.core x sequence request :=
    ⟨hmatch, nextNonzero_ne_zero _, rfl, rfl⟩
  have hstart := stage_begin e sequence request deadlineUs x
  have hadm : Admissible sequence request.sourcePort begun.core.deadlineUs es := hes.toAdmissible
  suffices hends : Ends begun.core x begun es from
    ⟨hends.2, hends.1.core.consumed, hends.1.core.single, hends.1.lost rfl⟩
  rcases hes.order with horder | horder | horder
  · obtain ⟨e', ev, after, he', hev, htime, hrest, hafter, hrun, hout⟩ :=
      hstart.next hb (Or.inl rfl) hadm horder
    cases ev with
    | publish nowUs =>
      obtain ⟨hstage, hmeasured⟩ :=
        (he'.publish hb htime).ends_response_followUp hb hafter.tail hrest
      exact ⟨by rw [hrun]; exact hstage, by rw [hout]; exact hmeasured⟩
    | _ => simp [ExchangeEvent.arrival] at hev
  all_goals
    obtain ⟨e', ev, after, he', hev, htime, hrest, hafter, hrun, hout⟩ :=
      hstart.next hb (Or.inl rfl) hadm horder
    cases ev with
    | response nowUs =>
      obtain ⟨hstage, hmeasured⟩ :=
        (he'.response hb htime).1.ends_after_response hb hafter.tail (by simp [hrest])
      exact ⟨by rw [hrun]; exact hstage, by rw [hout]; exact hmeasured⟩
    | _ => simp [ExchangeEvent.arrival] at hev

/-- An early exchange with a stray Follow_Up for another request in it. -/
theorem exchange_confluent_early :
    let begun := (ptpPeerBegin PtpPeerExchange.zero 7 Sample.request 1000).1
    let x : PeerAnswers := ⟨⟨5, 20⟩, ⟨5, 30⟩, Sample.response, Sample.followUp⟩
    let es : List ExchangeEvent :=
      [.response 10, .strayFollowUp default 11, .followUp 12, .publish 13, .poll 14 15]
    outputs (exchangeStep begun.generation x) begun es =
      [⟨begun.generation, begun.lifecycle, x.transmit, x.receive, x.response⟩] ∧
    (run (exchangeStep begun.generation x) begun es).consumed = true ∧
    (run (exchangeStep begun.generation x) begun es).multiple = false ∧
    (run (exchangeStep begun.generation x) begun es).lostResponses = 0 := by
  refine exchange_confluent PtpPeerExchange.zero 7 Sample.request 1000
    ⟨⟨5, 20⟩, ⟨5, 30⟩, Sample.response, Sample.followUp⟩ ?_
    [.response 10, .strayFollowUp default 11, .followUp 12, .publish 13, .poll 14 15] ?_
  · constructor <;> decide
  · refine ⟨⟨?_, ?_, ?_⟩, ?_⟩
    · simp [ExchangeEvent.InTime]
    · simp [ExchangeEvent.StrayOk]
      decide
    · intro before nowUs after hsplit
      rcases before with _ | ⟨_, _ | ⟨_, _ | ⟨_, _ | ⟨_, _ | ⟨_, _⟩⟩⟩⟩⟩ <;>
        simp at hsplit
      exact ⟨14, 15, by simp [← hsplit.2.2.2.2]⟩
    · exact Or.inr (Or.inr rfl)

end EspPtp
