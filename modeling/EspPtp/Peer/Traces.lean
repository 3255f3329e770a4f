import EspPtp.Peer.PortRun

/-!
# Which answers leave a trace

`ptp_peer_response` and `ptp_peer_finish` count what they turn away, so that an answer can
change the record of an exchange without being admitted. Each of the two changes it exactly
if the answer has the sequence in flight and there is something left to note: a count below
its end, a mask bit that is not set yet, or the answer itself.
-/

namespace EspPtp

/-- A count that goes up is another. -/
theorem add_one_ne_self (count : UInt16) : count + 1 ≠ count := by
  simp

/-! ## The response -/

/-- A response changes the record. -/
def ResponseNoted (e : PtpPeerExchange) (response : PtpDelayResp) (receive : Timespec)
    (nowUs : Int) : Prop :=
  ptpGetSequence response.header = e.sequence ∧
    (e.responseCount < 65535 ∨
      e.responseRejections ||| responseRejection e response receive nowUs ≠ e.responseRejections ∨
      ResponseAdmitted e response receive nowUs)

section Response

variable {e : PtpPeerExchange} {response : PtpDelayResp} {receive : Timespec} {nowUs : Int}

/-- The count goes up, to its end. -/
theorem countResponse_responseCount :
    (countResponse e nowUs).responseCount =
      if e.responseCount < 65535 then e.responseCount + 1 else e.responseCount := by
  have hstarted : (if e.responseCount = 0 then { e with firstResponseUs := nowUs }
      else e).responseCount = e.responseCount := by
    split <;> rfl
  unfold countResponse
  dsimp only
  rw [hstarted]
  split
  · rfl
  · exact hstarted

/-- At its end nothing of the record is touched. -/
theorem countResponse_full (hfull : ¬ e.responseCount < 65535) : countResponse e nowUs = e := by
  have hstarted : e.responseCount ≠ 0 := by
    intro hzero
    rw [hzero] at hfull
    exact hfull (by decide)
  unfold countResponse
  rw [if_neg hstarted, if_neg hfull]

/-- What every response with the sequence in flight is counted as. -/
theorem ptpPeerResponse_counted (hseq : ptpGetSequence response.header = e.sequence) :
    (ptpPeerResponse e response receive nowUs).1.responseCount =
        (if e.responseCount < 65535 then e.responseCount + 1 else e.responseCount) ∧
      (ptpPeerResponse e response receive nowUs).1.responseRejections =
        e.responseRejections ||| responseRejection e response receive nowUs := by
  obtain ⟨first, count, hcount⟩ := countResponse_eq e nowUs
  rw [← @countResponse_responseCount e nowUs]
  unfold ptpPeerResponse
  rw [if_neg (not_not.mpr hseq), hcount]
  dsimp only
  split_ifs <;> exact ⟨rfl, rfl⟩

/-- An admitted response is kept, or spoils the exchange. -/
theorem ptpPeerResponse_admitted (h : ResponseAdmitted e response receive nowUs) :
    (ptpPeerResponse e response receive nowUs).1.core ≠ e.core := by
  have hstep := ptpPeerResponse_step e response receive nowUs
  generalize (ptpPeerResponse e response receive nowUs).1.core = core at hstep ⊢
  generalize (ptpPeerResponse e response receive nowUs).2 = answer at hstep
  cases hstep with
  | ignored hnot => exact absurd h hnot
  | faulted _ _ _ _ _ =>
    intro hsame
    have hsingle : true = e.multiple := congrArg PeerCore.multiple hsame
    rw [h.single] at hsingle
    cases hsingle
  | accepted _ _ hfirst =>
    intro hsame
    have hseen : true = e.responseSeen := congrArg PeerCore.responseSeen hsame
    rw [hfirst] at hseen
    cases hseen

theorem ptpPeerResponse_nothing (hnothing : ¬ ResponseNoted e response receive nowUs) :
    ptpPeerResponse e response receive nowUs = (e, .ignored) := by
  unfold ptpPeerResponse
  by_cases hseq : ptpGetSequence response.header = e.sequence
  · have hfull : ¬ e.responseCount < 65535 := fun hroom => hnothing ⟨hseq, .inl hroom⟩
    have hbits : e.responseRejections ||| responseRejection e response receive nowUs =
        e.responseRejections := by
      by_contra hbits
      exact hnothing ⟨hseq, .inr (.inl hbits)⟩
    have hrejected : responseRejection e response receive nowUs ≠ 0 := fun hzero =>
      hnothing ⟨hseq, .inr (.inr ((responseRejection_eq_zero hseq).mp hzero))⟩
    have hcounted : countResponse e nowUs = e := countResponse_full hfull
    rw [if_neg (not_not.mpr hseq), hcounted]
    dsimp only
    rw [hbits, if_pos hrejected]
  · rw [if_pos hseq]

/-- **A response changes the record if there is something to note.** -/
theorem ptpPeerResponse_kept_iff :
    (ptpPeerResponse e response receive nowUs).1 = e ↔
      ¬ ResponseNoted e response receive nowUs := by
  constructor
  · rintro hsame ⟨hseq, hnoted⟩
    obtain ⟨hcount, hrejections⟩ :=
      @ptpPeerResponse_counted e response receive nowUs hseq
    rcases hnoted with hroom | hbits | hadmitted
    · rw [hsame, if_pos hroom] at hcount
      exact add_one_ne_self _ hcount.symm
    · rw [hsame] at hrejections
      exact hbits hrejections.symm
    · exact ptpPeerResponse_admitted hadmitted (congrArg PtpPeerExchange.core hsame)
  · intro hnothing
    rw [ptpPeerResponse_nothing hnothing]

end Response

/-! ## The follow-up -/

/-- A Follow_Up changes the record. -/
def FollowUpNoted (e : PtpPeerExchange) (followUp : PtpDelayRespFollowUp) (nowUs : Int) : Prop :=
  ptpGetSequence followUp.header = e.sequence ∧
    (e.followUpCount < 65535 ∨
      e.followUpRejections ||| followUpRejection e followUp nowUs ≠ e.followUpRejections ∨
      FollowUpAdmitted e followUp nowUs)

section FollowUp

variable {e : PtpPeerExchange} {followUp : PtpDelayRespFollowUp} {nowUs : Int}

theorem noteFollowUp_counted (hseq : ptpGetSequence followUp.header = e.sequence) :
    (noteFollowUp e followUp nowUs).followUpCount =
        (if e.followUpCount < 65535 then e.followUpCount + 1 else e.followUpCount) ∧
      (noteFollowUp e followUp nowUs).followUpRejections =
        e.followUpRejections ||| followUpRejection e followUp nowUs := by
  unfold noteFollowUp
  rw [if_pos hseq]
  dsimp only
  split_ifs <;> exact ⟨rfl, rfl⟩

/-- What every Follow_Up with the sequence in flight is counted as. -/
theorem ptpPeerFinish_counted (hseq : ptpGetSequence followUp.header = e.sequence) :
    (ptpPeerFinish e followUp nowUs).1.followUpCount =
        (if e.followUpCount < 65535 then e.followUpCount + 1 else e.followUpCount) ∧
      (ptpPeerFinish e followUp nowUs).1.followUpRejections =
        e.followUpRejections ||| followUpRejection e followUp nowUs := by
  obtain ⟨hcount, hrejections⟩ := @noteFollowUp_counted e followUp nowUs hseq
  rw [← hcount, ← hrejections]
  unfold ptpPeerFinish
  dsimp only
  split_ifs <;> exact ⟨rfl, rfl⟩

theorem noteFollowUp_nothing (hnothing : ¬ FollowUpNoted e followUp nowUs) :
    noteFollowUp e followUp nowUs = e := by
  unfold noteFollowUp
  by_cases hseq : ptpGetSequence followUp.header = e.sequence
  · have hfull : ¬ e.followUpCount < 65535 := fun hroom => hnothing ⟨hseq, .inl hroom⟩
    have hbits : e.followUpRejections ||| followUpRejection e followUp nowUs =
        e.followUpRejections := by
      by_contra hbits
      exact hnothing ⟨hseq, .inr (.inl hbits)⟩
    rw [if_pos hseq, if_neg hfull]
    dsimp only
    rw [hbits]
  · rw [if_neg hseq]

/-- An admitted Follow_Up is kept, completes the exchange or spoils it. -/
theorem ptpPeerFinish_admitted (h : FollowUpAdmitted e followUp nowUs) :
    (ptpPeerFinish e followUp nowUs).1.core ≠ e.core := by
  have hstep := ptpPeerFinish_step e followUp nowUs
  generalize (ptpPeerFinish e followUp nowUs).1.core = core at hstep ⊢
  generalize (ptpPeerFinish e followUp nowUs).2 = answer at hstep
  cases hstep with
  | rejected hnot => exact absurd h hnot
  | repeated _ _ =>
    intro hsame
    have hsingle : true = e.multiple := congrArg PeerCore.multiple hsame
    rw [h.single] at hsingle
    cases hsingle
  | retained _ _ hpending _ =>
    intro hsame
    have hkept : true = e.followUpPending := congrArg PeerCore.followUpPending hsame
    rw [hpending] at hkept
    cases hkept
  | completed _ hconsumed _ _ =>
    intro hsame
    have hdone : true = e.consumed := congrArg PeerCore.consumed hsame
    rw [hconsumed] at hdone
    cases hdone

theorem ptpPeerFinish_nothing (hnothing : ¬ FollowUpNoted e followUp nowUs) :
    ptpPeerFinish e followUp nowUs = (e, none) := by
  have hnote : noteFollowUp e followUp nowUs = e := noteFollowUp_nothing hnothing
  have hrefused : followUpAdmitted e followUp nowUs = false := by
    rw [Bool.eq_false_iff, ne_eq, followUpAdmitted_iff]
    exact fun hadmitted => hnothing ⟨hadmitted.sequence.symm, .inr (.inr hadmitted)⟩
  unfold ptpPeerFinish
  dsimp only
  rw [hnote, if_pos (by simp [hrefused])]

/-- **A Follow_Up changes the record if there is something to note.** -/
theorem ptpPeerFinish_kept_iff :
    (ptpPeerFinish e followUp nowUs).1 = e ↔ ¬ FollowUpNoted e followUp nowUs := by
  constructor
  · rintro hsame ⟨hseq, hnoted⟩
    obtain ⟨hcount, hrejections⟩ := @ptpPeerFinish_counted e followUp nowUs hseq
    rcases hnoted with hroom | hbits | hadmitted
    · rw [hsame, if_pos hroom] at hcount
      exact add_one_ne_self _ hcount.symm
    · rw [hsame] at hrejections
      exact hbits hrejections.symm
    · exact ptpPeerFinish_admitted hadmitted (congrArg PtpPeerExchange.core hsame)
  · intro hnothing
    rw [ptpPeerFinish_nothing hnothing]

end FollowUp

/-! ## The clearing -/

variable {F : Type}

/-- The exchange is spoiled, and the peer still counts as qualified. -/
def PtpPeerPort.spoiled (port : PtpPeerPort F) : Prop :=
  port.peerExchange.multiple = true ∧ port.peerCapability.qualified = true

/-- The clearing changes a port whose peer still counts as qualified. -/
theorem clearQualified_same_iff (port : PtpPeerPort F) :
    clearQualified port = port ↔ ¬ port.spoiled := by
  constructor
  · rintro hsame ⟨hmultiple, hqualified⟩
    have hcapability := clearQualified_capability port
    rw [hsame, if_pos hmultiple] at hcapability
    have hcleared : port.peerCapability.qualified = false :=
      congrArg PtpPeerCapability.qualified hcapability
    rw [hqualified] at hcleared
    cases hcleared
  · intro hsound
    unfold clearQualified
    by_cases hmultiple : port.peerExchange.multiple = true
    · have hcleared : port.peerCapability.qualified = false := by
        rw [Bool.eq_false_iff]
        exact fun hqualified => hsound ⟨hmultiple, hqualified⟩
      rw [if_pos hmultiple, ← hcleared]
    · rw [if_neg hmultiple]

end EspPtp
