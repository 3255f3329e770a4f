import Mathlib.Order.Basic
import Mathlib.Algebra.Order.Ring.Int
import Mathlib.Tactic.Push
import EspPtp.Peer.Exchange

/-!
# What each exchange operation can do

`ptp_peer_exchange_t` has two kinds of fields: those that decide what the next call
answers, and counters kept for the log. `PeerCore` is the first kind, and every operation
of `Exchange.lean` is described here **once**, as what it does to the core:

* the operations with one outcome are equations, `(op e).core = …`, tagged for `simp`;
* `ptp_peer_response` and `ptp_peer_finish` have several outcomes, and `ResponseStep` and
  `FinishStep` list them, each with every guard that led there.

The claims about exchanges never unfold the operations again: they case on these.
-/

namespace EspPtp

open Lib

/-- The fields of `ptp_peer_exchange_t` that steer the exchange. What is left out is
    written for diagnosis only and never tested by an operation of the header. -/
structure PeerCore where
  generation : UInt32
  lifecycle : UInt32
  sequence : UInt16
  requester : PortIdentity
  deadlineUs : Int
  published : Bool
  responseSeen : Bool
  consumed : Bool
  multiple : Bool
  sending : Bool
  followUpPending : Bool
  pendingFollowUp : PtpDelayRespFollowUp
  transmit : Timespec
  receive : Timespec
  response : PtpDelayResp

def PtpPeerExchange.core (e : PtpPeerExchange) : PeerCore where
  generation := e.generation
  lifecycle := e.lifecycle
  sequence := e.sequence
  requester := e.requester
  deadlineUs := e.deadlineUs
  published := e.published
  responseSeen := e.responseSeen
  consumed := e.consumed
  multiple := e.multiple
  sending := e.sending
  followUpPending := e.followUpPending
  pendingFollowUp := e.pendingFollowUp
  transmit := e.transmit
  receive := e.receive
  response := e.response

/-- The core with no request in flight. -/
def PeerCore.idle (generation lifecycle : UInt32) : PeerCore :=
  { PtpPeerExchange.zero.core with generation := generation, lifecycle := lifecycle }

section Fields

variable (generation lifecycle : UInt32)

@[simp] theorem PeerCore.idle_generation :
    (PeerCore.idle generation lifecycle).generation = generation := rfl
@[simp] theorem PeerCore.idle_lifecycle :
    (PeerCore.idle generation lifecycle).lifecycle = lifecycle := rfl
@[simp] theorem PeerCore.idle_published :
    (PeerCore.idle generation lifecycle).published = false := rfl
@[simp] theorem PeerCore.idle_sending :
    (PeerCore.idle generation lifecycle).sending = false := rfl
@[simp] theorem PeerCore.idle_responseSeen :
    (PeerCore.idle generation lifecycle).responseSeen = false := rfl
@[simp] theorem PeerCore.idle_consumed :
    (PeerCore.idle generation lifecycle).consumed = false := rfl
@[simp] theorem PeerCore.idle_multiple :
    (PeerCore.idle generation lifecycle).multiple = false := rfl
@[simp] theorem PeerCore.idle_followUpPending :
    (PeerCore.idle generation lifecycle).followUpPending = false := rfl

end Fields

/-! ## The operations with one outcome -/

@[simp] theorem ptpPeerInvalidate_core (e : PtpPeerExchange) :
    (ptpPeerInvalidate e).core =
      PeerCore.idle (nextNonzero e.generation) (nextNonzero e.lifecycle) := rfl

@[simp] theorem ptpPeerAbandon_core (e : PtpPeerExchange) :
    (ptpPeerAbandon e).core = PeerCore.idle (nextNonzero e.generation) e.lifecycle := rfl

@[simp] theorem ptpPeerBegin_core (e : PtpPeerExchange) (sequence : UInt16)
    (request : PtpHeader) (deadlineUs : Int) :
    (ptpPeerBegin e sequence request deadlineUs).1.core =
      { PeerCore.idle (nextNonzero e.generation) e.lifecycle with
        sequence := sequence
        requester := request.sourcePort
        deadlineUs := deadlineUs
        sending := true } := rfl

@[simp] theorem ptpPeerBegin_answer (e : PtpPeerExchange) (sequence : UInt16)
    (request : PtpHeader) (deadlineUs : Int) :
    (ptpPeerBegin e sequence request deadlineUs).2 = nextNonzero e.generation := rfl

@[simp] theorem ptpPeerExpire_core (e : PtpPeerExchange) (nowUs : Int) :
    (ptpPeerExpire e nowUs).1.core = e.core := by
  unfold ptpPeerExpire
  split
  · rfl
  · cases hr : e.responseSeen <;> by_cases hl : e.lostResponses < 65535 <;>
      simp [hr, hl, PtpPeerExchange.core]

theorem ptpPeerCancel_core (e : PtpPeerExchange) (generation : UInt32) :
    (ptpPeerCancel e generation).core =
      if e.generation ≠ generation then e.core
      else { e.core with
              sending := false
              published := false
              responseSeen := false
              followUpPending := false } := by
  unfold ptpPeerCancel
  split <;> rfl

/-- A stamp is published once, for the request in flight, before its deadline. -/
theorem ptpPeerPublish_cases (e : PtpPeerExchange) (generation : UInt32) (transmit : Timespec)
    (nowUs : Int) :
    ((ptpPeerPublish e generation transmit nowUs).2 = false ∧
      (ptpPeerPublish e generation transmit nowUs).1 = e) ∨
    ((ptpPeerPublish e generation transmit nowUs).2 = true ∧
      e.generation = generation ∧ e.sending = true ∧ e.published = false ∧
      nowUs < e.deadlineUs ∧ 0 ≤ transmit.tvNsec ∧ transmit.tvNsec < 1000000000 ∧
      (ptpPeerPublish e generation transmit nowUs).1.core =
        { e.core with transmit := transmit, published := true, sending := false }) := by
  unfold ptpPeerPublish
  split
  · exact Or.inl ⟨rfl, rfl⟩
  · rename_i hguard
    push Not at hguard
    obtain ⟨hgen, hsend, hpub, hnow, hlow, hhigh⟩ := hguard
    exact Or.inr ⟨rfl, hgen, by simpa using hsend, by simpa using hpub,
      hnow, hlow, hhigh, rfl⟩

/-- A retained Follow_Up is handed out after publication, once. -/
theorem ptpPeerTakeFollowUp_cases (e : PtpPeerExchange) (nowUs : Int) :
    ((ptpPeerTakeFollowUp e nowUs).2 = none ∧ (ptpPeerTakeFollowUp e nowUs).1 = e) ∨
    ((ptpPeerTakeFollowUp e nowUs).2 = some (e.pendingFollowUp, e.generation) ∧
      e.published = true ∧ e.followUpPending = true ∧ e.multiple = false ∧
      e.consumed = false ∧ nowUs < e.deadlineUs ∧
      (ptpPeerTakeFollowUp e nowUs).1.core = { e.core with followUpPending := false }) := by
  unfold ptpPeerTakeFollowUp
  split
  · exact Or.inl ⟨rfl, rfl⟩
  · rename_i hguard
    simp only [Bool.or_eq_true, Bool.not_eq_true', decide_eq_true_eq, not_or,
      Bool.not_eq_true, Bool.not_eq_false, not_le] at hguard
    obtain ⟨⟨⟨⟨hpub, hpend⟩, hmul⟩, hcon⟩, hnow⟩ := hguard
    exact Or.inr ⟨rfl, hpub, hpend, hmul, hcon, by omega, rfl⟩

/-! ## `ptp_peer_response` -/

/-- The checks behind `PTP_PEER_RX_*`: what a response has passed when its mask is zero. -/
structure ResponseAdmitted (e : PtpPeerExchange) (response : PtpDelayResp)
    (receive : Timespec) (nowUs : Int) : Prop where
  sequence : ptpGetSequence response.header = e.sequence
  inFlight : e.published = true ∨ e.sending = true
  single : e.multiple = false
  inTime : nowUs < e.deadlineUs
  requester : e.requester = response.requester
  stamp : ptpPeerTimestampValid response.receivetimestamp = true
  receiveLow : 0 ≤ receive.tvNsec
  receiveHigh : receive.tvNsec < 1000000000

theorem responseRejection_eq_zero {e : PtpPeerExchange} {response : PtpDelayResp}
    {receive : Timespec} {nowUs : Int}
    (hseq : ptpGetSequence response.header = e.sequence) :
    responseRejection e response receive nowUs = 0 ↔
      ResponseAdmitted e response receive nowUs := by
  -- Every mask bit is its own power of two, so the mask is zero when no condition holds.
  have hbits : ∀ a b c d f : Bool,
      (rejectIf a 1 ||| rejectIf b 2 ||| rejectIf c 4 ||| rejectIf d 8 ||| rejectIf f 16 = 0) ↔
        (a = false ∧ b = false ∧ c = false ∧ d = false ∧ f = false) := by
    decide
  unfold responseRejection
  rw [hbits]
  simp only [Bool.and_eq_false_iff, Bool.not_eq_false', decide_eq_false_iff_not,
    Bool.or_eq_false_iff, not_not, not_lt, not_le, ge_iff_le]
  constructor
  · rintro ⟨hfly, hmul, hnow, hreq, ⟨hstamp, hlow⟩, hhigh⟩
    exact ⟨hseq, hfly, hmul, hnow, hreq, hstamp, hlow, hhigh⟩
  · intro h
    exact ⟨h.inFlight, h.single, h.inTime, h.requester, ⟨h.stamp, h.receiveLow⟩, h.receiveHigh⟩

/-- **Everything `ptp_peer_response` can do**, as the core afterwards and the answer. -/
inductive ResponseStep (e : PtpPeerExchange) (response : PtpDelayResp) (receive : Timespec)
    (nowUs : Int) : PeerCore → PeerAdmission → Prop
  /-- Not this exchange's, or turned away: only counters moved. -/
  | ignored (h : ¬ ResponseAdmitted e response receive nowUs) :
      ResponseStep e response receive nowUs e.core .ignored
  /-- A second, duplicate or self response spoils the exchange. -/
  | faulted (answer : PeerAdmission) (h : ResponseAdmitted e response receive nowUs)
      (ha : answer ≠ .ignored) (hb : answer ≠ .accepted)
      (hseen : e.responseSeen = true ∨ response.header.sourceidentity = e.requester.clock) :
      ResponseStep e response receive nowUs { e.core with multiple := true } answer
  /-- The first response, from another clock than the requester's. -/
  | accepted (h : ResponseAdmitted e response receive nowUs)
      (hself : response.header.sourceidentity ≠ e.requester.clock)
      (hfirst : e.responseSeen = false) :
      ResponseStep e response receive nowUs
        { e.core with response := response, receive := receive, responseSeen := true } .accepted

theorem countResponse_eq (e : PtpPeerExchange) (nowUs : Int) :
    ∃ first count, countResponse e nowUs =
      { e with firstResponseUs := first, responseCount := count } := by
  unfold countResponse
  by_cases h0 : e.responseCount = 0
  · exact ⟨nowUs, e.responseCount + 1, by simp [h0]⟩
  · by_cases h1 : e.responseCount < 65535
    · exact ⟨e.firstResponseUs, e.responseCount + 1, by simp [h0, h1]⟩
    · exact ⟨e.firstResponseUs, e.responseCount, by simp [h0, h1]⟩

theorem ptpPeerResponse_step (e : PtpPeerExchange) (response : PtpDelayResp)
    (receive : Timespec) (nowUs : Int) :
    ResponseStep e response receive nowUs (ptpPeerResponse e response receive nowUs).1.core
      (ptpPeerResponse e response receive nowUs).2 := by
  obtain ⟨first, count, hcount⟩ := countResponse_eq e nowUs
  unfold ptpPeerResponse
  split
  · rename_i hseq
    exact .ignored fun h => hseq h.sequence
  rename_i hseq
  replace hseq := not_not.mp hseq
  have hmask : responseRejection { e with firstResponseUs := first, responseCount := count }
      response receive nowUs = responseRejection e response receive nowUs := rfl
  simp only [hcount, hmask]
  split
  · rename_i hrej
    exact .ignored fun h => hrej ((responseRejection_eq_zero hseq).mpr h)
  rename_i hrej
  have hadm : ResponseAdmitted e response receive nowUs :=
    (responseRejection_eq_zero hseq).mp (not_not.mp hrej)
  split
  · rename_i hself
    exact .faulted _ hadm (by simp) (by simp) (Or.inr hself)
  rename_i hself
  split
  · rename_i hseen
    split
    · exact .faulted _ hadm (by simp) (by simp) (Or.inl hseen)
    · exact .faulted _ hadm (by simp) (by simp) (Or.inl hseen)
  · rename_i hseen
    exact .accepted hadm hself (by simpa using hseen)

/-! ## `ptp_peer_finish` -/

/-- The checks a Follow_Up has passed when `ptp_peer_finish` acts on it. -/
structure FollowUpAdmitted (e : PtpPeerExchange) (followUp : PtpDelayRespFollowUp)
    (nowUs : Int) : Prop where
  inFlight : e.published = true ∨ e.sending = true
  single : e.multiple = false
  inTime : nowUs < e.deadlineUs
  sequence : e.sequence = ptpGetSequence followUp.header
  requester : e.requester = followUp.requester
  seen : e.responseSeen = true
  stamp : ptpPeerTimestampValid followUp.origintimestamp = true
  source : e.response.header.sourcePort = followUp.header.sourcePort

theorem followUpAdmitted_iff (e : PtpPeerExchange) (followUp : PtpDelayRespFollowUp)
    (nowUs : Int) :
    followUpAdmitted e followUp nowUs = true ↔ FollowUpAdmitted e followUp nowUs := by
  simp only [followUpAdmitted, ptpPeerMatches, Bool.and_eq_true, Bool.or_eq_true,
    Bool.not_eq_true', decide_eq_true_eq]
  constructor
  · rintro ⟨⟨⟨⟨⟨⟨⟨hfly, hmul⟩, hnow⟩, hseq⟩, hreq⟩, hseen⟩, hstamp⟩, hsource⟩
    exact ⟨hfly, hmul, hnow, hseq, hreq, hseen, hstamp, hsource⟩
  · intro h
    exact ⟨⟨⟨⟨⟨⟨⟨h.inFlight, h.single⟩, h.inTime⟩, h.sequence⟩, h.requester⟩, h.seen⟩,
      h.stamp⟩, h.source⟩

/-- **Everything `ptp_peer_finish` can do**, as the core afterwards and the answer. -/
inductive FinishStep (e : PtpPeerExchange) (followUp : PtpDelayRespFollowUp) (nowUs : Int) :
    PeerCore → Option PtpPeerMeasurement → Prop
  /-- Not this exchange's, or before the response: only counters moved. -/
  | rejected (h : ¬ FollowUpAdmitted e followUp nowUs) :
      FinishStep e followUp nowUs e.core none
  /-- A second Follow_Up spoils the exchange. -/
  | repeated (h : FollowUpAdmitted e followUp nowUs)
      (hrep : e.consumed = true ∨ e.followUpPending = true) :
      FinishStep e followUp nowUs { e.core with multiple := true } none
  /-- Before the transmit stamp: kept for `ptp_peer_take_follow_up`. -/
  | retained (h : FollowUpAdmitted e followUp nowUs) (hcon : e.consumed = false)
      (hpend : e.followUpPending = false) (hpub : e.published = false) :
      FinishStep e followUp nowUs
        { e.core with pendingFollowUp := followUp, followUpPending := true } none
  | completed (h : FollowUpAdmitted e followUp nowUs) (hcon : e.consumed = false)
      (hpend : e.followUpPending = false) (hpub : e.published = true) :
      FinishStep e followUp nowUs { e.core with consumed := true } (some e.measurement)

theorem noteFollowUp_eq (e : PtpPeerExchange) (followUp : PtpDelayRespFollowUp)
    (nowUs : Int) :
    ∃ count rejections, noteFollowUp e followUp nowUs =
      { e with followUpCount := count, followUpRejections := rejections } := by
  unfold noteFollowUp
  split
  · by_cases h : e.followUpCount < 65535
    · simp only [h, if_true]
      exact ⟨_, _, rfl⟩
    · simp only [h, if_false]
      exact ⟨e.followUpCount, _, rfl⟩
  · exact ⟨e.followUpCount, e.followUpRejections, rfl⟩

theorem ptpPeerFinish_step (e : PtpPeerExchange) (followUp : PtpDelayRespFollowUp)
    (nowUs : Int) :
    FinishStep e followUp nowUs (ptpPeerFinish e followUp nowUs).1.core
      (ptpPeerFinish e followUp nowUs).2 := by
  obtain ⟨count, rejections, hnote⟩ := noteFollowUp_eq e followUp nowUs
  have hchecks : followUpAdmitted
      { e with followUpCount := count, followUpRejections := rejections } followUp nowUs =
      followUpAdmitted e followUp nowUs := rfl
  unfold ptpPeerFinish
  simp only [hnote, hchecks]
  split
  · rename_i hadm
    exact .rejected fun h => by simp [(followUpAdmitted_iff ..).mpr h] at hadm
  rename_i hadm
  replace hadm := (followUpAdmitted_iff ..).mp (by simpa using hadm)
  split
  · rename_i hrep
    exact .repeated hadm (by simpa using hrep)
  rename_i hrep
  simp only [Bool.or_eq_true, not_or, Bool.not_eq_true] at hrep
  split
  · rename_i hpub
    exact .retained hadm hrep.1 hrep.2 (by simpa using hpub)
  · rename_i hpub
    exact .completed hadm hrep.1 hrep.2 (by simpa using hpub)

/-! ## The loss counter -/

/-- Responses do not touch the loss counter. -/
@[simp] theorem ptpPeerResponse_lostResponses (e : PtpPeerExchange) (response : PtpDelayResp)
    (receive : Timespec) (nowUs : Int) :
    (ptpPeerResponse e response receive nowUs).1.lostResponses = e.lostResponses := by
  obtain ⟨first, count, hcount⟩ := countResponse_eq e nowUs
  unfold ptpPeerResponse
  simp only [hcount]
  split_ifs <;> rfl

@[simp] theorem ptpPeerPublish_lostResponses (e : PtpPeerExchange) (generation : UInt32)
    (transmit : Timespec) (nowUs : Int) :
    (ptpPeerPublish e generation transmit nowUs).1.lostResponses = e.lostResponses := by
  unfold ptpPeerPublish
  split <;> rfl

@[simp] theorem ptpPeerTakeFollowUp_lostResponses (e : PtpPeerExchange) (nowUs : Int) :
    (ptpPeerTakeFollowUp e nowUs).1.lostResponses = e.lostResponses := by
  unfold ptpPeerTakeFollowUp
  split <;> rfl

/-- A measurement ends the row of losses; nothing else a Follow_Up does touches it. -/
theorem ptpPeerFinish_lostResponses (e : PtpPeerExchange) (followUp : PtpDelayRespFollowUp)
    (nowUs : Int) :
    (ptpPeerFinish e followUp nowUs).1.lostResponses =
      if (ptpPeerFinish e followUp nowUs).2.isSome then 0 else e.lostResponses := by
  obtain ⟨count, rejections, hnote⟩ := noteFollowUp_eq e followUp nowUs
  unfold ptpPeerFinish
  simp only [hnote]
  split_ifs <;> simp_all

end EspPtp
