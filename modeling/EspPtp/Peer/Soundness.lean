import EspPtp.Lib.History
import EspPtp.Peer.Core

/-!
# A measurement is one exchange

`ptp_peer_exchange_t` as a machine: the nine functions of the header are its calls and
what they return are its answers, so a finite list of calls is any use whatever of the
record by the tasks that share it. A measurement is then a statement about the
**history** since the request it belongs to began: one publication, one response, and
nothing else that could have been taken for either.

The flags of the record are a summary of that history, and `Underway` says of which: while
a request is *live* (on its way or published, and not spoiled by a second response), each
flag stands for a list of past calls that is empty or a singleton. A record that is not
live promises nothing — `ptp_peer_cancel` forgets the response it had seen — and does not
have to, because neither function that could use the record does so.
-/

namespace EspPtp

open Lib

/-- A call of the header, with its arguments. -/
inductive PeerCall where
  | beginRequest (sequence : UInt16) (request : PtpHeader) (deadlineUs : Int)
  | publish (generation : UInt32) (transmit : Timespec) (nowUs : Int)
  | cancel (generation : UInt32)
  | abandon
  | invalidate
  | expire (nowUs : Int)
  | response (response : PtpDelayResp) (receive : Timespec) (nowUs : Int)
  | finish (followUp : PtpDelayRespFollowUp) (nowUs : Int)
  | takeFollowUp (nowUs : Int)

/-- What a call returns. -/
inductive PeerAnswer where
  | nothing
  | generation (generation : UInt32)
  | success (success : Bool)
  | admission (admission : PeerAdmission)
  | measurement (measurement : Option PtpPeerMeasurement)
  | followUp (followUp : Option (PtpDelayRespFollowUp × UInt32))
  deriving DecidableEq

/-- One call on the record. -/
def peerStep (e : PtpPeerExchange) : PeerCall → PtpPeerExchange × PeerAnswer
  | .beginRequest sequence request deadlineUs =>
    ((ptpPeerBegin e sequence request deadlineUs).1,
      .generation (ptpPeerBegin e sequence request deadlineUs).2)
  | .publish generation transmit nowUs =>
    ((ptpPeerPublish e generation transmit nowUs).1,
      .success (ptpPeerPublish e generation transmit nowUs).2)
  | .cancel generation => (ptpPeerCancel e generation, .nothing)
  | .abandon => (ptpPeerAbandon e, .nothing)
  | .invalidate => (ptpPeerInvalidate e, .nothing)
  | .expire nowUs => ((ptpPeerExpire e nowUs).1, .success (ptpPeerExpire e nowUs).2)
  | .response response receive nowUs =>
    ((ptpPeerResponse e response receive nowUs).1,
      .admission (ptpPeerResponse e response receive nowUs).2)
  | .finish followUp nowUs =>
    ((ptpPeerFinish e followUp nowUs).1, .measurement (ptpPeerFinish e followUp nowUs).2)
  | .takeFollowUp nowUs =>
    ((ptpPeerTakeFollowUp e nowUs).1, .followUp (ptpPeerTakeFollowUp e nowUs).2)

/-- The calls that advance the generation. -/
def PeerCall.renews : PeerCall → Bool
  | .beginRequest .. | .abandon | .invalidate => true
  | _ => false

/-- A history of the record: calls with their answers, oldest first. -/
abbrev PeerHistory := List (PeerCall × PeerAnswer)

/-! ## What a history says -/

def PeerHistory.renewals (h : PeerHistory) : Nat := h.countP (·.1.renews)

/-- The stamps published with success, and when. -/
def PeerHistory.published (h : PeerHistory) : List (Timespec × Int) :=
  h.filterMap fun
    | (.publish _ transmit nowUs, .success true) => some (transmit, nowUs)
    | _ => none

/-- The responses that passed the admission checks: those not answered with
    `PTP_PEER_IGNORED`. -/
def PeerHistory.admitted (h : PeerHistory) :
    List (PtpDelayResp × Timespec × Int × PeerAdmission) :=
  h.filterMap fun
    | (.response _ _ _, .admission .ignored) => none
    | (.response response receive nowUs, .admission a) => some (response, receive, nowUs, a)
    | _ => none

/-- The measurements answered. -/
def PeerHistory.measured (h : PeerHistory) : List PtpPeerMeasurement :=
  h.filterMap fun
    | (.finish _ _, .measurement m) => m
    | _ => none

section Append

variable (h k : PeerHistory)

@[simp] theorem PeerHistory.renewals_append :
    PeerHistory.renewals (h ++ k) = PeerHistory.renewals h + PeerHistory.renewals k :=
  List.countP_append

@[simp] theorem PeerHistory.published_append :
    PeerHistory.published (h ++ k) = PeerHistory.published h ++ PeerHistory.published k :=
  List.filterMap_append

@[simp] theorem PeerHistory.admitted_append :
    PeerHistory.admitted (h ++ k) = PeerHistory.admitted h ++ PeerHistory.admitted k :=
  List.filterMap_append

@[simp] theorem PeerHistory.measured_append :
    PeerHistory.measured (h ++ k) = PeerHistory.measured h ++ PeerHistory.measured k :=
  List.filterMap_append

end Append

/-- **What a measurement answers for**: of the calls since the request with this sequence,
    header and deadline began, exactly one published a stamp and exactly one passed the
    response checks, and the measurement is made of their arguments. -/
structure MeasurementOf (since : PeerHistory) (sequence : UInt16) (request : PtpHeader)
    (deadlineUs : Int) (followUp : PtpDelayRespFollowUp) (nowUs : Int)
    (m : PtpPeerMeasurement) : Prop where
  unrenewed : since.renewals = 0
  published : ∃ atUs, since.published = [(m.transmit, atUs)] ∧ atUs < deadlineUs
  transmitValid : 0 ≤ m.transmit.tvNsec ∧ m.transmit.tvNsec < 1000000000
  accepted : ∃ atUs, since.admitted = [(m.response, m.receive, atUs, .accepted)] ∧
    atUs < deadlineUs
  receiveValid : 0 ≤ m.receive.tvNsec ∧ m.receive.tvNsec < 1000000000
  responseSequence : ptpGetSequence m.response.header = sequence
  responseRequester : m.response.requester = request.sourcePort
  responseStamp : ptpPeerTimestampValid m.response.receivetimestamp = true
  followUpSequence : ptpGetSequence followUp.header = sequence
  followUpRequester : followUp.requester = request.sourcePort
  followUpStamp : ptpPeerTimestampValid followUp.origintimestamp = true
  oneSource : m.response.header.sourcePort = followUp.header.sourcePort
  notSelf : m.response.header.sourceidentity ≠ request.sourceidentity
  inTime : nowUs < deadlineUs
  unmeasured : since.measured = []

/-! ## The invariant -/

/-- A request that can still be measured. -/
def PeerCore.Live (c : PeerCore) : Prop :=
  (c.published = true ∨ c.sending = true) ∧ c.multiple = false

/-- The flags of a live record, as facts about the calls since its request began. -/
structure Underway (c : PeerCore) (sequence : UInt16) (request : PtpHeader)
    (deadlineUs : Int) (since : PeerHistory) : Prop where
  sequence_eq : c.sequence = sequence
  requester_eq : c.requester = request.sourcePort
  deadline_eq : c.deadlineUs = deadlineUs
  unrenewed : since.renewals = 0
  published : c.published = true →
    (∃ atUs, since.published = [(c.transmit, atUs)] ∧ atUs < deadlineUs) ∧
      0 ≤ c.transmit.tvNsec ∧ c.transmit.tvNsec < 1000000000
  unpublished : c.published = false → since.published = []
  accepted : c.responseSeen = true →
    (∃ atUs, since.admitted = [(c.response, c.receive, atUs, .accepted)] ∧
      atUs < deadlineUs) ∧
    (0 ≤ c.receive.tvNsec ∧ c.receive.tvNsec < 1000000000) ∧
    ptpGetSequence c.response.header = sequence ∧
    c.response.requester = request.sourcePort ∧
    ptpPeerTimestampValid c.response.receivetimestamp = true ∧
    c.response.header.sourceidentity ≠ request.sourceidentity
  unanswered : c.responseSeen = false → since.admitted = []
  unmeasured : c.consumed = false → since.measured = []

/-- A call that publishes nothing, admits nothing and measures nothing. -/
structure Uneventful (x : PeerCall × PeerAnswer) : Prop where
  renews : x.1.renews = false
  published : PeerHistory.published [x] = []
  admitted : PeerHistory.admitted [x] = []
  measured : PeerHistory.measured [x] = []

theorem PeerHistory.renewals_snoc {h : PeerHistory} {x : PeerCall × PeerAnswer}
    (hx : x.1.renews = false) : PeerHistory.renewals (h ++ [x]) = h.renewals := by
  rw [PeerHistory.renewals_append]
  simp [PeerHistory.renewals, hx]

theorem Underway.snoc {c : PeerCore} {sequence : UInt16} {request : PtpHeader}
    {deadlineUs : Int} {since : PeerHistory} {x : PeerCall × PeerAnswer}
    (h : Underway c sequence request deadlineUs since) (hx : Uneventful x) :
    Underway c sequence request deadlineUs (since ++ [x]) := by
  refine { h with
    unrenewed := ?_, published := ?_, unpublished := ?_, accepted := ?_, unanswered := ?_,
    unmeasured := ?_ }
  · rw [PeerHistory.renewals_snoc hx.renews]; exact h.unrenewed
  · simpa [hx.published] using h.published
  · simpa [hx.published] using h.unpublished
  · simpa [hx.admitted] using h.accepted
  · simpa [hx.admitted] using h.unanswered
  · simpa [hx.measured] using h.unmeasured

/-- **The invariant**: the generation counts the renewals, no earlier request had it, and
    the flags of a live record describe its history. -/
structure ExchangeInv (h : PeerHistory) (e : PtpPeerExchange) : Prop where
  counted : e.generation.toNat = h.renewals
  bounded : ∀ x ∈ h, ∀ g, x.2 = .generation g → g.toNat ≤ h.renewals
  underway : e.core.Live → ∃ earlier sequence request deadlineUs since,
    h = earlier ++ (.beginRequest sequence request deadlineUs, .generation e.generation) :: since ∧
    (∀ x ∈ earlier, x.2 ≠ .generation e.generation) ∧
    Underway e.core sequence request deadlineUs since

theorem ExchangeInv.init : ExchangeInv [] PtpPeerExchange.zero where
  counted := rfl
  bounded := by simp
  underway := by
    intro hlive
    rcases hlive.1 with h | h <;> cases h

/-- A call of the current lifetime keeps the invariant if it keeps `Underway`. -/
theorem ExchangeInv.extend {h : PeerHistory} {e e' : PtpPeerExchange}
    {x : PeerCall × PeerAnswer} (hi : ExchangeInv h e) (hgen : e'.generation = e.generation)
    (hrenew : x.1.renews = false) (hanswer : ∀ g, x.2 ≠ .generation g)
    (hlive : e'.core.Live → e.core.Live)
    (hkeep : ∀ sequence request deadlineUs since, e'.core.Live →
      Underway e.core sequence request deadlineUs since →
      Underway e'.core sequence request deadlineUs (since ++ [x])) :
    ExchangeInv (h ++ [x]) e' where
  counted := by rw [hgen, PeerHistory.renewals_snoc hrenew]; exact hi.counted
  bounded := by
    intro y hy g hg
    rw [PeerHistory.renewals_snoc hrenew]
    rcases List.mem_append.mp hy with hy | hy
    · exact hi.bounded y hy g hg
    · rw [List.mem_singleton.mp hy] at hg
      exact absurd hg (hanswer g)
  underway := by
    intro hl
    obtain ⟨earlier, sequence, request, deadlineUs, since, rfl, hfresh, hunder⟩ :=
      hi.underway (hlive hl)
    refine ⟨earlier, sequence, request, deadlineUs, since ++ [x], ?_, ?_, ?_⟩
    · rw [hgen]; simp
    · rw [hgen]; exact hfresh
    · exact hkeep _ _ _ _ hl hunder

/-- A call that starts a new lifetime: nothing of the old one is promised. -/
theorem ExchangeInv.renew {h : PeerHistory} {e e' : PtpPeerExchange}
    {x : PeerCall × PeerAnswer} (hi : ExchangeInv h e)
    (hbound : PeerHistory.renewals (h ++ [x]) < 2 ^ 32 - 1)
    (hrenew : x.1.renews = true) (hgen : e'.generation = nextNonzero e.generation)
    (hanswer : ∀ g, x.2 = .generation g → g = nextNonzero e.generation)
    (hlive : e'.core.Live → ∃ sequence request deadlineUs,
      x = (.beginRequest sequence request deadlineUs, .generation e'.generation) ∧
      Underway e'.core sequence request deadlineUs []) :
    ExchangeInv (h ++ [x]) e' := by
  have hone : PeerHistory.renewals [x] = 1 := by simp [PeerHistory.renewals, hrenew]
  rw [PeerHistory.renewals_append, hone, ← hi.counted] at hbound
  have hnext : (nextNonzero e.generation).toNat = h.renewals + 1 := by
    rw [nextNonzero_toNat (by omega), hi.counted]
  refine ⟨?_, ?_, ?_⟩
  · rw [hgen, hnext, PeerHistory.renewals_append, hone]
  · intro y hy g hg
    rw [PeerHistory.renewals_append, hone]
    rcases List.mem_append.mp hy with hy | hy
    · exact Nat.le_succ_of_le (hi.bounded y hy g hg)
    · rw [List.mem_singleton.mp hy] at hg
      rw [hanswer g hg, hnext]
  · intro hl
    obtain ⟨sequence, request, deadlineUs, hx, hunder⟩ := hlive hl
    refine ⟨h, sequence, request, deadlineUs, [], by rw [hx], ?_, hunder⟩
    -- An answer in the past is at most the number of renewals then.
    intro y hy heq
    have hle := hi.bounded y hy _ heq
    rw [hgen, hnext] at hle
    omega

theorem idle_not_live (generation lifecycle : UInt32) :
    ¬ (PeerCore.idle generation lifecycle).Live := by
  rintro ⟨h | h, -⟩ <;> simp at h

/-! ## One lemma per kind of call -/

section Steps

variable {h : PeerHistory} {e : PtpPeerExchange}

theorem ExchangeInv.beginRequest (hi : ExchangeInv h e) (sequence : UInt16)
    (request : PtpHeader) (deadlineUs : Int)
    (hbound : PeerHistory.renewals (h ++ [(.beginRequest sequence request deadlineUs,
      .generation (ptpPeerBegin e sequence request deadlineUs).2)]) < 2 ^ 32 - 1) :
    ExchangeInv (h ++ [(.beginRequest sequence request deadlineUs,
      .generation (ptpPeerBegin e sequence request deadlineUs).2)])
      (ptpPeerBegin e sequence request deadlineUs).1 := by
  refine hi.renew hbound rfl rfl ?_ ?_
  · intro g hg
    cases hg
    rfl
  · intro _
    refine ⟨sequence, request, deadlineUs, rfl, ?_⟩
    rw [ptpPeerBegin_core]
    constructor <;> simp [PeerHistory.renewals, PeerHistory.published, PeerHistory.admitted,
      PeerHistory.measured]

theorem ExchangeInv.idle (hi : ExchangeInv h e) {e' : PtpPeerExchange} {call : PeerCall}
    {lifecycle : UInt32} (hrenew : call.renews = true)
    (hcore : e'.core = PeerCore.idle (nextNonzero e.generation) lifecycle)
    (hbound : PeerHistory.renewals (h ++ [(call, .nothing)]) < 2 ^ 32 - 1) :
    ExchangeInv (h ++ [(call, .nothing)]) e' := by
  refine hi.renew hbound hrenew ?_ (by simp) ?_
  · exact congrArg PeerCore.generation hcore
  · intro hlive
    rw [hcore] at hlive
    exact absurd hlive (idle_not_live _ _)

/-- A call that changes none of the fields `Underway` reads. -/
theorem ExchangeInv.quiet (hi : ExchangeInv h e) {e' : PtpPeerExchange}
    {x : PeerCall × PeerAnswer} (hx : Uneventful x) (hanswer : ∀ g, x.2 ≠ .generation g)
    (hcore : ∃ pending followUp, e'.core =
      { e.core with followUpPending := pending, pendingFollowUp := followUp }) :
    ExchangeInv (h ++ [x]) e' := by
  obtain ⟨pending, followUp, hcore⟩ := hcore
  have hgen : e'.generation = e.generation := congrArg PeerCore.generation hcore
  refine hi.extend hgen hx.renews hanswer ?_ ?_
  · rw [hcore]
    exact id
  · intro sequence request deadlineUs since _ hunder
    rw [hcore]
    exact { hunder.snoc hx with }

/-- A call after which the record is not live. -/
theorem ExchangeInv.dead (hi : ExchangeInv h e) {e' : PtpPeerExchange}
    {x : PeerCall × PeerAnswer} (hgen : e'.generation = e.generation)
    (hrenew : x.1.renews = false) (hanswer : ∀ g, x.2 ≠ .generation g)
    (hlive : ¬ e'.core.Live) : ExchangeInv (h ++ [x]) e' :=
  hi.extend hgen hrenew hanswer (fun hl => absurd hl hlive)
    (fun _ _ _ _ hl _ => absurd hl hlive)

theorem ExchangeInv.cancel (hi : ExchangeInv h e) (generation : UInt32) :
    ExchangeInv (h ++ [(.cancel generation, .nothing)]) (ptpPeerCancel e generation) := by
  have hcore := ptpPeerCancel_core e generation
  split at hcore
  · exact hi.quiet ⟨rfl, rfl, rfl, rfl⟩ (by simp) ⟨_, _, hcore⟩
  · have hgen : (ptpPeerCancel e generation).generation = e.generation :=
      congrArg PeerCore.generation hcore
    refine hi.dead hgen rfl (by simp) ?_
    rw [hcore]
    rintro ⟨hp | hp, -⟩ <;> cases hp

theorem ExchangeInv.publish (hi : ExchangeInv h e) (generation : UInt32)
    (transmit : Timespec) (nowUs : Int) :
    ExchangeInv (h ++ [(.publish generation transmit nowUs,
      .success (ptpPeerPublish e generation transmit nowUs).2)])
      (ptpPeerPublish e generation transmit nowUs).1 := by
  rcases ptpPeerPublish_cases e generation transmit nowUs with
    ⟨hno, hsame⟩ | ⟨hyes, -, hsend, hpub, hnow, hlow, hhigh, hcore⟩
  · rw [hno, hsame]
    exact hi.quiet ⟨rfl, rfl, rfl, rfl⟩ (by simp) ⟨_, _, rfl⟩
  rw [hyes]
  have hgen : (ptpPeerPublish e generation transmit nowUs).1.generation = e.generation :=
    congrArg PeerCore.generation hcore
  refine hi.extend hgen rfl (by simp) ?_ ?_
  · rw [hcore]
    exact fun hl => ⟨Or.inr hsend, hl.2⟩
  · intro sequence request deadlineUs since _ hunder
    have hbefore : since.published = [] := hunder.unpublished hpub
    rw [hcore]
    refine { hunder with
      unrenewed := ?_, published := ?_, unpublished := ?_, accepted := ?_, unanswered := ?_,
      unmeasured := ?_ }
    · rw [PeerHistory.renewals_snoc rfl]; exact hunder.unrenewed
    · intro _
      refine ⟨⟨nowUs, ?_, ?_⟩, hlow, hhigh⟩
      · rw [PeerHistory.published_append, hbefore]; rfl
      · rw [← hunder.deadline_eq]; exact hnow
    · intro h; cases h
    · rw [PeerHistory.admitted_append]
      simpa [PeerHistory.admitted] using hunder.accepted
    · rw [PeerHistory.admitted_append]
      simpa [PeerHistory.admitted] using hunder.unanswered
    · rw [PeerHistory.measured_append]
      simpa [PeerHistory.measured] using hunder.unmeasured

theorem ExchangeInv.response (hi : ExchangeInv h e) (response : PtpDelayResp)
    (receive : Timespec) (nowUs : Int) :
    ExchangeInv (h ++ [(.response response receive nowUs,
      .admission (ptpPeerResponse e response receive nowUs).2)])
      (ptpPeerResponse e response receive nowUs).1 := by
  have hstep := ptpPeerResponse_step e response receive nowUs
  generalize ptpPeerResponse e response receive nowUs = answer at hstep ⊢
  obtain ⟨e', admission⟩ := answer
  dsimp only at hstep ⊢
  generalize hc : e'.core = core at hstep
  have hgen := congrArg PeerCore.generation hc
  cases hstep with
  | ignored _ => exact hi.quiet ⟨rfl, rfl, rfl, rfl⟩ (by simp) ⟨_, _, hc⟩
  | faulted _ _ _ _ _ =>
    refine hi.dead hgen rfl (by simp) ?_
    rw [hc]
    rintro ⟨-, hm⟩
    cases hm
  | accepted hadm hself hfirst =>
    refine hi.extend hgen rfl (by simp) ?_ ?_
    · rw [hc]
      exact fun _ => ⟨hadm.inFlight, hadm.single⟩
    intro sequence request deadlineUs since _ hunder
    have hbefore : since.admitted = [] := hunder.unanswered hfirst
    have hreq : response.requester = request.sourcePort := by
      rw [← hadm.requester]
      exact hunder.requester_eq
    rw [hc]
    refine { hunder with
      unrenewed := ?_, published := ?_, unpublished := ?_, accepted := ?_, unanswered := ?_,
      unmeasured := ?_ }
    · rw [PeerHistory.renewals_snoc rfl]; exact hunder.unrenewed
    · rw [PeerHistory.published_append]
      simpa [PeerHistory.published] using hunder.published
    · rw [PeerHistory.published_append]
      simpa [PeerHistory.published] using hunder.unpublished
    · intro _
      refine ⟨⟨nowUs, ?_, ?_⟩, ⟨hadm.receiveLow, hadm.receiveHigh⟩, ?_, hreq, hadm.stamp, ?_⟩
      · rw [PeerHistory.admitted_append, hbefore]; rfl
      · rw [← hunder.deadline_eq]; exact hadm.inTime
      · rw [hadm.sequence]; exact hunder.sequence_eq
      · have hclock : e.requester.clock = request.sourceidentity :=
          congrArg PortIdentity.clock hunder.requester_eq
        rw [← hclock]; exact hself
    · intro h; cases h
    · rw [PeerHistory.measured_append]
      simpa [PeerHistory.measured] using hunder.unmeasured

theorem ExchangeInv.finish (hi : ExchangeInv h e) (followUp : PtpDelayRespFollowUp)
    (nowUs : Int) :
    ExchangeInv (h ++ [(.finish followUp nowUs,
      .measurement (ptpPeerFinish e followUp nowUs).2)])
      (ptpPeerFinish e followUp nowUs).1 := by
  have hstep := ptpPeerFinish_step e followUp nowUs
  generalize ptpPeerFinish e followUp nowUs = answer at hstep ⊢
  obtain ⟨e', m⟩ := answer
  dsimp only at hstep ⊢
  generalize hc : e'.core = core at hstep
  have hgen := congrArg PeerCore.generation hc
  cases hstep with
  | rejected _ => exact hi.quiet ⟨rfl, rfl, rfl, rfl⟩ (by simp) ⟨_, _, hc⟩
  | repeated _ _ =>
    refine hi.dead hgen rfl (by simp) ?_
    rw [hc]
    rintro ⟨-, hm⟩
    cases hm
  | retained _ _ _ _ => exact hi.quiet ⟨rfl, rfl, rfl, rfl⟩ (by simp) ⟨_, _, hc⟩
  | completed _ _ _ _ =>
    refine hi.extend hgen rfl (by simp) ?_ ?_
    · rw [hc]
      exact id
    intro sequence request deadlineUs since _ hunder
    rw [hc]
    refine { hunder with
      unrenewed := ?_, published := ?_, unpublished := ?_, accepted := ?_, unanswered := ?_,
      unmeasured := ?_ }
    · rw [PeerHistory.renewals_snoc rfl]; exact hunder.unrenewed
    · rw [PeerHistory.published_append]
      simpa [PeerHistory.published] using hunder.published
    · rw [PeerHistory.published_append]
      simpa [PeerHistory.published] using hunder.unpublished
    · rw [PeerHistory.admitted_append]
      simpa [PeerHistory.admitted] using hunder.accepted
    · rw [PeerHistory.admitted_append]
      simpa [PeerHistory.admitted] using hunder.unanswered
    · intro h; cases h

theorem ExchangeInv.takeFollowUp (hi : ExchangeInv h e) (nowUs : Int) :
    ExchangeInv (h ++ [(.takeFollowUp nowUs, .followUp (ptpPeerTakeFollowUp e nowUs).2)])
      (ptpPeerTakeFollowUp e nowUs).1 := by
  rcases ptpPeerTakeFollowUp_cases e nowUs with ⟨hno, hsame⟩ | ⟨hyes, -, -, -, -, -, hcore⟩
  · rw [hno, hsame]
    exact hi.quiet ⟨rfl, rfl, rfl, rfl⟩ (by simp) ⟨_, _, rfl⟩
  · rw [hyes]
    exact hi.quiet ⟨rfl, rfl, rfl, rfl⟩ (by simp) ⟨_, _, hcore⟩

theorem ExchangeInv.step (hi : ExchangeInv h e) (call : PeerCall)
    (hbound : PeerHistory.renewals (h ++ [(call, (peerStep e call).2)]) < 2 ^ 32 - 1) :
    ExchangeInv (h ++ [(call, (peerStep e call).2)]) (peerStep e call).1 := by
  cases call with
  | beginRequest sequence request deadlineUs => exact hi.beginRequest _ _ _ hbound
  | publish generation transmit nowUs => exact hi.publish _ _ _
  | cancel generation => exact hi.cancel _
  | abandon => exact hi.idle rfl (ptpPeerAbandon_core e) hbound
  | invalidate => exact hi.idle rfl (ptpPeerInvalidate_core e) hbound
  | expire nowUs =>
    exact hi.quiet ⟨rfl, rfl, rfl, rfl⟩ (by simp [peerStep])
      ⟨_, _, ptpPeerExpire_core e nowUs⟩
  | response response receive nowUs => exact hi.response _ _ _
  | finish followUp nowUs => exact hi.finish _ _
  | takeFollowUp nowUs => exact hi.takeFollowUp _

end Steps

theorem exchangeInv_run (calls : List PeerCall)
    (hbound : calls.countP PeerCall.renews < 2 ^ 32 - 1) :
    ExchangeInv (trace peerStep PtpPeerExchange.zero calls)
      (run peerStep PtpPeerExchange.zero calls) := by
  refine run_induction_while (fun h => PeerHistory.renewals h < 2 ^ 32 - 1) ?_
    ExchangeInv.init (fun h e call hgood hi => hi.step call hgood) calls ?_
  · intro h x hx
    rw [PeerHistory.renewals_append] at hx
    omega
  · rw [← trace_fst peerStep PtpPeerExchange.zero calls, List.countP_map] at hbound
    exact hbound

/-! ## The result -/

/-- **Soundness of peer-delay measurements.** Whatever calls were made before, a
    `ptp_peer_finish` that answers `true` measures the request in flight, from the one
    stamp published and the one response admitted since it began. -/
theorem ptpPeerFinish_sound (calls : List PeerCall)
    (hbound : calls.countP PeerCall.renews < 2 ^ 32 - 1)
    (followUp : PtpDelayRespFollowUp) (nowUs : Int) (m : PtpPeerMeasurement)
    (hm : (ptpPeerFinish (run peerStep PtpPeerExchange.zero calls) followUp nowUs).2 =
      some m) :
    m.generation = (run peerStep PtpPeerExchange.zero calls).generation ∧
    m.lifecycle = (run peerStep PtpPeerExchange.zero calls).lifecycle ∧
    ∃ earlier sequence request deadlineUs since,
      trace peerStep PtpPeerExchange.zero calls =
        earlier ++
          (.beginRequest sequence request deadlineUs, .generation m.generation) :: since ∧
      (∀ x ∈ earlier, x.2 ≠ .generation m.generation) ∧
      MeasurementOf since sequence request deadlineUs followUp nowUs m := by
  have hi := exchangeInv_run calls hbound
  generalize run peerStep PtpPeerExchange.zero calls = e at hi hm ⊢
  have hstep := ptpPeerFinish_step e followUp nowUs
  rw [hm] at hstep
  generalize (ptpPeerFinish e followUp nowUs).1.core = core at hstep
  cases hstep with
  | completed hadm hcon _ hpub =>
    obtain ⟨earlier, sequence, request, deadlineUs, since, htrace, hfresh, hunder⟩ :=
      hi.underway ⟨hadm.inFlight, hadm.single⟩
    obtain ⟨hpublished, htransmit⟩ := hunder.published hpub
    obtain ⟨haccepted, hreceive, hseq, hreq, hstamp, hself⟩ := hunder.accepted hadm.seen
    refine ⟨rfl, rfl, earlier, sequence, request, deadlineUs, since, htrace, hfresh, ?_⟩
    exact {
      unrenewed := hunder.unrenewed
      published := hpublished
      transmitValid := htransmit
      accepted := haccepted
      receiveValid := hreceive
      responseSequence := hseq
      responseRequester := hreq
      responseStamp := hstamp
      followUpSequence := by rw [← hadm.sequence]; exact hunder.sequence_eq
      followUpRequester := by rw [← hadm.requester]; exact hunder.requester_eq
      followUpStamp := hadm.stamp
      oneSource := hadm.source
      notSelf := hself
      inTime := by rw [← hunder.deadline_eq]; exact hadm.inTime
      unmeasured := hunder.unmeasured hcon }

/-- The response before the transmit stamp. -/
theorem ptpPeerFinish_sound_early :
    ∃ earlier sequence request deadlineUs since,
      trace peerStep PtpPeerExchange.zero
        [.abandon, .beginRequest 7 Sample.request 1000, .response Sample.response ⟨5, 30⟩ 10,
          .publish 2 ⟨5, 20⟩ 11] =
        earlier ++ (.beginRequest sequence request deadlineUs, .generation 2) :: since ∧
      (∀ x ∈ earlier, x.2 ≠ .generation 2) ∧
      MeasurementOf since sequence request deadlineUs Sample.followUp 12
        ⟨2, 0, ⟨5, 20⟩, ⟨5, 30⟩, Sample.response⟩ :=
  (ptpPeerFinish_sound
    [.abandon, .beginRequest 7 Sample.request 1000, .response Sample.response ⟨5, 30⟩ 10,
      .publish 2 ⟨5, 20⟩ 11]
    (by decide) Sample.followUp 12 ⟨2, 0, ⟨5, 20⟩, ⟨5, 30⟩, Sample.response⟩ (by decide)).2.2

end EspPtp
