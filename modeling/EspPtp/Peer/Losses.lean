import EspPtp.Peer.PortRun
import EspPtp.Peer.Soundness

/-!
# Lost peer exchanges

`lost_responses` survives `ptp_peer_begin` and `ptp_peer_abandon` by being saved around the
`memset`, saturates, and is cleared in three places: by a completed exchange, by
`ptp_peer_invalidate`, and by `ptp_arm_profile_fallback` without a call of the header. So
the machine here is the record under its calls *and* that write.

What the number means is said on the history. `LossOf` is what a counted request went
through, `losses` counts the answers `true` of `ptp_peer_expire` since the last clearing,
and `lostResponses_run` says that the field is that count, as far as it fits.
-/

namespace EspPtp

open Lib

/-- What happens to the record: a call of the header, or the write of
    `ptp_arm_profile_fallback`. -/
inductive LossCall where
  | exchange (call : PeerCall)
  | rearm

def lossStep (e : PtpPeerExchange) : LossCall → PtpPeerExchange × PeerAnswer
  | .exchange call => peerStep e call
  | .rearm => ({ e with lostResponses := 0 }, .nothing)

/-- A history of the record: what happened with the answers, oldest first. -/
abbrev LossHistory := List (LossCall × PeerAnswer)

/-! ## What a history says -/

/-- `ptp_peer_expire` answered `true`. -/
def countsLoss : LossCall × PeerAnswer → Bool
  | (.exchange (.expire _), .success success) => success
  | _ => false

/-- `ptp_peer_finish` answered `true`. -/
def completes : LossCall × PeerAnswer → Bool
  | (.exchange (.finish _ _), .measurement measurement) => measurement.isSome
  | _ => false

/-- The losses are counted anew after it. -/
def clearsLosses (x : LossCall × PeerAnswer) : Bool :=
  completes x ||
    match x.1 with
    | .exchange .invalidate | .rearm => true
    | _ => false

/-- The request in flight is gone after it: replaced, abandoned or invalidated. -/
def replaces : LossCall × PeerAnswer → Bool
  | (.exchange call, _) => call.renews
  | (.rearm, _) => false

/-- `ptp_peer_cancel` of this request. -/
def cancels (generation : UInt32) : LossCall × PeerAnswer → Bool
  | (.exchange (.cancel cancelled), _) => decide (cancelled = generation)
  | _ => false

/-- `ptp_peer_publish` of this request answered `true`. -/
def publishes (generation : UInt32) : LossCall × PeerAnswer → Bool
  | (.exchange (.publish published _ _), .success success) =>
    success && decide (published = generation)
  | _ => false

/-- The losses counted since they were last cleared. -/
def losses (h : LossHistory) : Nat := countSince clearsLosses countsLoss h

/-- **What a counted request went through**, from its begin to the call that counts it: it
    was published, nothing completed, cancelled or replaced it, it was not counted before,
    and its deadline has passed. -/
structure LossOf (since : LossHistory) (generation : UInt32) (deadlineUs nowUs : Int) :
    Prop where
  published : ∃ x ∈ since, publishes generation x = true
  incomplete : ∀ x ∈ since, completes x = false
  uncancelled : ∀ x ∈ since, cancels generation x = false
  unreplaced : ∀ x ∈ since, replaces x = false
  uncounted : ∀ x ∈ since, countsLoss x = false
  late : deadlineUs ≤ nowUs

/-- A call that counts a loss counts that of the last request begun. -/
def LossJustified (past : LossHistory) (x : LossCall × PeerAnswer) : Prop :=
  ∀ nowUs, x = (.exchange (.expire nowUs), .success true) →
    ∃ before sequence request deadlineUs generation since,
      past = before ++
        (.exchange (.beginRequest sequence request deadlineUs), .generation generation) ::
          since ∧
      LossOf since generation deadlineUs nowUs

/-! ## What a call carries on -/

/-- `ptp_peer_expire` counts a published request that was not completed, was not counted
    before and is past its deadline, and changes nothing where it does not. -/
theorem ptpPeerExpire_cases (e : PtpPeerExchange) (nowUs : Int) :
    ((ptpPeerExpire e nowUs).2 = false ∧ (ptpPeerExpire e nowUs).1 = e) ∨
    ((ptpPeerExpire e nowUs).2 = true ∧ e.published = true ∧ e.consumed = false ∧
      e.lossCounted = false ∧ e.deadlineUs ≤ nowUs ∧
      (ptpPeerExpire e nowUs).1.lossCounted = true ∧
      (ptpPeerExpire e nowUs).1.lostResponses =
        if e.lostResponses < 65535 then e.lostResponses + 1 else e.lostResponses) := by
  unfold ptpPeerExpire
  split
  · exact Or.inl ⟨rfl, rfl⟩
  · rename_i hguard
    simp only [Bool.or_eq_true, Bool.not_eq_true', decide_eq_true_eq, not_or,
      Bool.not_eq_true, Bool.not_eq_false, not_lt] at hguard
    obtain ⟨⟨⟨hpub, hcon⟩, hcounted⟩, hlate⟩ := hguard
    refine Or.inr ⟨rfl, hpub, hcon, hcounted, hlate, ?_, ?_⟩
    all_goals
      dsimp only
      split_ifs <;> rfl

theorem ptpPeerResponse_lossCounted (e : PtpPeerExchange) (response : PtpDelayResp)
    (receive : Timespec) (nowUs : Int) :
    (ptpPeerResponse e response receive nowUs).1.lossCounted = e.lossCounted := by
  obtain ⟨first, count, hcount⟩ := countResponse_eq e nowUs
  unfold ptpPeerResponse
  simp only [hcount]
  split_ifs <;> rfl

theorem ptpPeerFinish_lossCounted (e : PtpPeerExchange) (followUp : PtpDelayRespFollowUp)
    (nowUs : Int) : (ptpPeerFinish e followUp nowUs).1.lossCounted = e.lossCounted := by
  obtain ⟨count, rejections, hnote⟩ := noteFollowUp_eq e followUp nowUs
  unfold ptpPeerFinish
  simp only [hnote]
  split_ifs <;> rfl

theorem ptpPeerPublish_lossCounted (e : PtpPeerExchange) (generation : UInt32)
    (transmit : Timespec) (nowUs : Int) :
    (ptpPeerPublish e generation transmit nowUs).1.lossCounted = e.lossCounted := by
  unfold ptpPeerPublish
  split <;> rfl

theorem ptpPeerTakeFollowUp_lossCounted (e : PtpPeerExchange) (nowUs : Int) :
    (ptpPeerTakeFollowUp e nowUs).1.lossCounted = e.lossCounted := by
  unfold ptpPeerTakeFollowUp
  split <;> rfl

theorem ptpPeerCancel_lossCounted (e : PtpPeerExchange) (generation : UInt32) :
    (ptpPeerCancel e generation).lossCounted = e.lossCounted := by
  unfold ptpPeerCancel
  split <;> rfl

/-- What a call that does not replace the request leaves of it, next to the call's
    history. -/
structure RequestKept (e : PtpPeerExchange) (x : LossCall × PeerAnswer)
    (e' : PtpPeerExchange) : Prop extends ExchangeKept e e' where
  deadline : e'.deadlineUs = e.deadlineUs
  published : e'.published = true → e.published = true ∨ publishes e.generation x = true
  incomplete : e'.consumed = false → e.consumed = false ∧ completes x = false
  uncancelled : e'.InFlight → cancels e.generation x = false
  unreplaced : replaces x = false
  uncounted : e'.lossCounted = false → e.lossCounted = false ∧ countsLoss x = false

/-- A call after which the request is as before. -/
theorem RequestKept.quiet {e e' : PtpPeerExchange} {x : LossCall × PeerAnswer}
    (hkept : ExchangeKept e e') (hdeadline : e'.deadlineUs = e.deadlineUs)
    (hpublished : e'.published = e.published) (hconsumed : e'.consumed = e.consumed)
    (hcounted : e'.lossCounted = e.lossCounted) (hcompletes : completes x = false)
    (hcancels : cancels e.generation x = false) (hreplaces : replaces x = false)
    (hcounts : countsLoss x = false) : RequestKept e x e' where
  toExchangeKept := hkept
  deadline := hdeadline
  published := fun h => Or.inl (hpublished ▸ h)
  incomplete := fun h => ⟨hconsumed ▸ h, hcompletes⟩
  uncancelled := fun _ => hcancels
  unreplaced := hreplaces
  uncounted := fun h => ⟨hcounted ▸ h, hcounts⟩

section Kept

variable (e : PtpPeerExchange)

theorem RequestKept.publish (generation : UInt32) (transmit : Timespec) (nowUs : Int) :
    RequestKept e (.exchange (.publish generation transmit nowUs),
      .success (ptpPeerPublish e generation transmit nowUs).2)
      (ptpPeerPublish e generation transmit nowUs).1 := by
  rcases ptpPeerPublish_cases e generation transmit nowUs with
    ⟨hno, hsame⟩ | ⟨hyes, hgen, -, -, -, -, -, hcore⟩
  · rw [hno, hsame]
    exact .quiet (.of_core rfl) rfl rfl rfl rfl rfl rfl rfl rfl
  · have hcounted := ptpPeerPublish_lossCounted e generation transmit nowUs
    have hkept := ptpPeerPublish_kept e generation transmit nowUs
    rw [hyes]
    generalize (ptpPeerPublish e generation transmit nowUs).1 = e' at hcore hcounted hkept ⊢
    refine
      { toExchangeKept := hkept
        deadline := congrArg PeerCore.deadlineUs hcore
        published := fun _ => Or.inr ?_
        incomplete := fun h => ⟨(congrArg PeerCore.consumed hcore).symm.trans h, rfl⟩
        uncancelled := fun _ => rfl
        unreplaced := rfl
        uncounted := fun h => ⟨hcounted ▸ h, rfl⟩ }
    simp [publishes, hgen]

theorem RequestKept.cancel (generation : UInt32) :
    RequestKept e (.exchange (.cancel generation), .nothing) (ptpPeerCancel e generation) := by
  have hcore := ptpPeerCancel_core e generation
  have hcounted := ptpPeerCancel_lossCounted e generation
  have hkept := ptpPeerCancel_kept e generation
  generalize ptpPeerCancel e generation = e' at hcore hcounted hkept ⊢
  by_cases hother : e.generation ≠ generation
  · rw [if_pos hother] at hcore
    exact .quiet hkept (congrArg PeerCore.deadlineUs hcore) (congrArg PeerCore.published hcore)
      (congrArg PeerCore.consumed hcore) hcounted rfl (decide_eq_false (Ne.symm hother)) rfl rfl
  · rw [if_neg hother] at hcore
    have hpublished : e'.published = false := congrArg PeerCore.published hcore
    have hsending : e'.sending = false := congrArg PeerCore.sending hcore
    refine
      { toExchangeKept := hkept
        deadline := congrArg PeerCore.deadlineUs hcore
        published := fun h => absurd h (by simp [hpublished])
        incomplete := fun h => ⟨(congrArg PeerCore.consumed hcore).symm.trans h, rfl⟩
        uncancelled := ?_
        unreplaced := rfl
        uncounted := fun h => ⟨hcounted ▸ h, rfl⟩ }
    rintro (h | h)
    · exact absurd h (by simp [hpublished])
    · exact absurd h (by simp [hsending])

theorem RequestKept.expire (nowUs : Int) :
    RequestKept e (.exchange (.expire nowUs), .success (ptpPeerExpire e nowUs).2)
      (ptpPeerExpire e nowUs).1 := by
  have hcore := ptpPeerExpire_core e nowUs
  rcases ptpPeerExpire_cases e nowUs with ⟨hno, hsame⟩ | ⟨hyes, -, -, -, -, hcounted, -⟩
  · rw [hno, hsame]
    exact .quiet (.of_core rfl) rfl rfl rfl rfl rfl rfl rfl rfl
  · rw [hyes]
    generalize (ptpPeerExpire e nowUs).1 = e' at hcore hcounted ⊢
    exact
      { toExchangeKept := .of_core hcore
        deadline := congrArg PeerCore.deadlineUs hcore
        published := fun h => Or.inl ((congrArg PeerCore.published hcore).symm.trans h)
        incomplete := fun h => ⟨(congrArg PeerCore.consumed hcore).symm.trans h, rfl⟩
        uncancelled := fun _ => rfl
        unreplaced := rfl
        uncounted := fun h => absurd h (by simp [hcounted]) }

theorem RequestKept.response (response : PtpDelayResp) (receive : Timespec) (nowUs : Int) :
    RequestKept e (.exchange (.response response receive nowUs),
      .admission (ptpPeerResponse e response receive nowUs).2)
      (ptpPeerResponse e response receive nowUs).1 := by
  have hstep := ptpPeerResponse_step e response receive nowUs
  have hkept := ptpPeerResponse_kept e response receive nowUs
  have hcounted := ptpPeerResponse_lossCounted e response receive nowUs
  generalize ptpPeerResponse e response receive nowUs = answer at hstep hkept hcounted ⊢
  obtain ⟨e', admission⟩ := answer
  generalize hc : e'.core = core at hstep
  have hdeadline := congrArg PeerCore.deadlineUs hc
  have hpublished := congrArg PeerCore.published hc
  have hconsumed := congrArg PeerCore.consumed hc
  cases hstep with
  | ignored _ => exact .quiet hkept hdeadline hpublished hconsumed hcounted rfl rfl rfl rfl
  | faulted _ _ _ _ _ =>
    exact .quiet hkept hdeadline hpublished hconsumed hcounted rfl rfl rfl rfl
  | accepted _ _ _ => exact .quiet hkept hdeadline hpublished hconsumed hcounted rfl rfl rfl rfl

theorem RequestKept.finish (followUp : PtpDelayRespFollowUp) (nowUs : Int) :
    RequestKept e (.exchange (.finish followUp nowUs),
      .measurement (ptpPeerFinish e followUp nowUs).2) (ptpPeerFinish e followUp nowUs).1 := by
  have hstep := ptpPeerFinish_step e followUp nowUs
  have hkept := ptpPeerFinish_kept e followUp nowUs
  have hcounted := ptpPeerFinish_lossCounted e followUp nowUs
  generalize ptpPeerFinish e followUp nowUs = answer at hstep hkept hcounted ⊢
  obtain ⟨e', m⟩ := answer
  generalize hc : e'.core = core at hstep
  have hdeadline := congrArg PeerCore.deadlineUs hc
  have hpublished := congrArg PeerCore.published hc
  have hconsumed := congrArg PeerCore.consumed hc
  cases hstep with
  | rejected _ => exact .quiet hkept hdeadline hpublished hconsumed hcounted rfl rfl rfl rfl
  | repeated _ _ => exact .quiet hkept hdeadline hpublished hconsumed hcounted rfl rfl rfl rfl
  | retained _ _ _ _ =>
    exact .quiet hkept hdeadline hpublished hconsumed hcounted rfl rfl rfl rfl
  | completed _ _ _ _ =>
    -- The one outcome that consumes the exchange.
    have hdone : e'.consumed = true := hconsumed
    exact
      { toExchangeKept := hkept
        deadline := hdeadline
        published := fun h => Or.inl (hpublished.symm.trans h)
        incomplete := fun h => absurd h (by simp [hdone])
        uncancelled := fun _ => rfl
        unreplaced := rfl
        uncounted := fun h => ⟨hcounted ▸ h, rfl⟩ }

theorem RequestKept.takeFollowUp (nowUs : Int) :
    RequestKept e (.exchange (.takeFollowUp nowUs),
      .followUp (ptpPeerTakeFollowUp e nowUs).2) (ptpPeerTakeFollowUp e nowUs).1 := by
  have hkept := ptpPeerTakeFollowUp_kept e nowUs
  have hcounted := ptpPeerTakeFollowUp_lossCounted e nowUs
  rcases ptpPeerTakeFollowUp_cases e nowUs with ⟨-, hsame⟩ | ⟨-, -, -, -, -, -, hcore⟩
  · rw [hsame]
    exact .quiet (.of_core rfl) rfl rfl rfl rfl rfl rfl rfl rfl
  · exact .quiet hkept (congrArg PeerCore.deadlineUs hcore)
      (congrArg PeerCore.published hcore) (congrArg PeerCore.consumed hcore) hcounted
      rfl rfl rfl rfl

/-- Every operation replaces the request or keeps it. -/
theorem lossStep_kept (call : LossCall) :
    replaces (call, (lossStep e call).2) = true ∨
      RequestKept e (call, (lossStep e call).2) (lossStep e call).1 := by
  cases call with
  | rearm => exact Or.inr (.quiet (.of_core rfl) rfl rfl rfl rfl rfl rfl rfl rfl)
  | exchange call =>
    cases call with
    | beginRequest sequence request deadlineUs => exact Or.inl rfl
    | abandon => exact Or.inl rfl
    | invalidate => exact Or.inl rfl
    | publish generation transmit nowUs => exact Or.inr (.publish e ..)
    | cancel generation => exact Or.inr (.cancel e ..)
    | expire nowUs => exact Or.inr (.expire e ..)
    | response response receive nowUs => exact Or.inr (.response e ..)
    | finish followUp nowUs => exact Or.inr (.finish e ..)
    | takeFollowUp nowUs => exact Or.inr (.takeFollowUp e ..)

end Kept

/-! ## The invariant -/

/-- The flags of the record, as facts about the history since its request began. -/
structure Requested (e : PtpPeerExchange) (since : LossHistory) : Prop where
  published : e.published = true → ∃ x ∈ since, publishes e.generation x = true
  incomplete : e.consumed = false → ∀ x ∈ since, completes x = false
  uncancelled : ∀ x ∈ since, cancels e.generation x = false
  unreplaced : ∀ x ∈ since, replaces x = false
  uncounted : e.lossCounted = false → ∀ x ∈ since, countsLoss x = false

/-- A property of every event carries over to one more. -/
theorem forall_mem_snoc {α : Type} {P : α → Prop} {l : List α} {a : α}
    (h : ∀ x ∈ l, P x) (ha : P a) : ∀ x ∈ l ++ [a], P x := by
  intro x hx
  rcases List.mem_append.mp hx with hx | hx
  · exact h x hx
  · rw [List.mem_singleton.mp hx]
    exact ha

theorem Requested.snoc {e e' : PtpPeerExchange} {since : LossHistory}
    {x : LossCall × PeerAnswer} (h : Requested e since) (hx : RequestKept e x e')
    (hflight : e'.InFlight) : Requested e' (since ++ [x]) where
  published := by
    intro hpub
    rw [hx.generation]
    rcases hx.published hpub with hbefore | hnow
    · obtain ⟨y, hy, hpublishes⟩ := h.published hbefore
      exact ⟨y, List.mem_append_left _ hy, hpublishes⟩
    · exact ⟨x, by simp, hnow⟩
  incomplete := fun hcon =>
    forall_mem_snoc (h.incomplete (hx.incomplete hcon).1) (hx.incomplete hcon).2
  uncancelled := by
    rw [hx.generation]
    exact forall_mem_snoc h.uncancelled (hx.uncancelled hflight)
  unreplaced := forall_mem_snoc h.unreplaced hx.unreplaced
  uncounted := fun hcounted =>
    forall_mem_snoc (h.uncounted (hx.uncounted hcounted).1) (hx.uncounted hcounted).2

/-- **The invariant**: a request in flight is the last one begun, and its flags tell what
    happened to it since. -/
def LossInv (h : LossHistory) (e : PtpPeerExchange) : Prop :=
  e.InFlight → ∃ before sequence request since,
    h = before ++
      (.exchange (.beginRequest sequence request e.deadlineUs), .generation e.generation) ::
        since ∧
    Requested e since

theorem LossInv.init : LossInv [] PtpPeerExchange.zero := by
  rintro (h | h) <;> cases h

theorem LossInv.kept {h : LossHistory} {e e' : PtpPeerExchange} {x : LossCall × PeerAnswer}
    (hi : LossInv h e) (hx : RequestKept e x e') : LossInv (h ++ [x]) e' := by
  intro hflight
  obtain ⟨before, sequence, request, since, rfl, hsince⟩ := hi (hx.inFlight hflight)
  refine ⟨before, sequence, request, since ++ [x], ?_, hsince.snoc hx hflight⟩
  rw [hx.deadline, hx.generation]
  simp

/-- A new request starts with an empty history, and after the other calls that replace the
    old one nothing is in flight. -/
theorem LossInv.replaced (h : LossHistory) (e : PtpPeerExchange) {call : LossCall}
    (hreplaces : replaces (call, (lossStep e call).2) = true) :
    LossInv (h ++ [(call, (lossStep e call).2)]) (lossStep e call).1 := by
  cases call with
  | rearm => cases hreplaces
  | exchange call =>
    cases call with
    | beginRequest sequence request deadlineUs =>
      intro _
      exact ⟨h, sequence, request, [], rfl,
        { published := fun hpub => by cases hpub
          incomplete := by simp
          uncancelled := by simp
          unreplaced := by simp
          uncounted := by simp }⟩
    | abandon => rintro (hflight | hflight) <;> cases hflight
    | invalidate => rintro (hflight | hflight) <;> cases hflight
    | publish | cancel | expire | response | finish | takeFollowUp => cases hreplaces

theorem LossInv.step {h : LossHistory} {e : PtpPeerExchange} (hi : LossInv h e)
    (call : LossCall) :
    LossInv (h ++ [(call, (lossStep e call).2)]) (lossStep e call).1 := by
  rcases lossStep_kept e call with hreplaces | hkept
  · exact LossInv.replaced h e hreplaces
  · exact hi.kept hkept

/-- The record's flags justify a loss that is counted. -/
theorem LossInv.justified {h : LossHistory} {e : PtpPeerExchange} (hi : LossInv h e)
    (call : LossCall) : LossJustified h (call, (lossStep e call).2) := by
  intro nowUs hx
  cases call with
  | rearm => cases hx
  | exchange call =>
    obtain ⟨hcall, hanswer⟩ := Prod.mk.inj hx
    cases hcall
    have hcounted : (ptpPeerExpire e nowUs).2 = true := PeerAnswer.success.inj hanswer
    rcases ptpPeerExpire_cases e nowUs with ⟨hno, -⟩ | ⟨-, hpub, hcon, huncounted, hlate, -, -⟩
    · rw [hno] at hcounted
      cases hcounted
    · obtain ⟨before, sequence, request, since, rfl, hsince⟩ := hi (Or.inl hpub)
      exact ⟨before, sequence, request, e.deadlineUs, e.generation, since, rfl,
        { published := hsince.published hpub
          incomplete := hsince.incomplete hcon
          uncancelled := hsince.uncancelled
          unreplaced := hsince.unreplaced
          uncounted := hsince.uncounted huncounted
          late := hlate }⟩

/-! ## The count -/

theorem toNat_saturatingSucc (counter : UInt16) :
    (if counter < 65535 then counter + 1 else counter).toNat = min 65535 (counter.toNat + 1) := by
  have hfits := counter.toNat_lt
  have hmax : (65535 : UInt16).toNat = 65535 := rfl
  by_cases hroom : counter < 65535
  · rw [if_pos hroom, UInt16.toNat_add]
    rw [UInt16.lt_iff_toNat_lt, hmax] at hroom
    have hone : (1 : UInt16).toNat = 1 := rfl
    omega
  · rw [if_neg hroom]
    rw [UInt16.lt_iff_toNat_lt, hmax] at hroom
    omega

/-- What one operation does to `lost_responses`. -/
theorem lossStep_lostResponses (e : PtpPeerExchange) (call : LossCall) :
    (lossStep e call).1.lostResponses.toNat =
      if clearsLosses (call, (lossStep e call).2) then 0
      else min 65535
        (e.lostResponses.toNat + if countsLoss (call, (lossStep e call).2) then 1 else 0) := by
  have hfits := e.lostResponses.toNat_lt
  have hsame : min 65535 (e.lostResponses.toNat + 0) = e.lostResponses.toNat := by omega
  cases call with
  | rearm => rfl
  | exchange call =>
    cases call with
    | beginRequest sequence request deadlineUs => exact hsame.symm
    | abandon => exact hsame.symm
    | invalidate => rfl
    | publish generation transmit nowUs =>
      refine Eq.trans ?_ hsame.symm
      exact congrArg UInt16.toNat (ptpPeerPublish_lostResponses e generation transmit nowUs)
    | cancel generation =>
      refine Eq.trans ?_ hsame.symm
      show (ptpPeerCancel e generation).lostResponses.toNat = _
      unfold ptpPeerCancel
      split <;> rfl
    | response response receive nowUs =>
      refine Eq.trans ?_ hsame.symm
      exact congrArg UInt16.toNat (ptpPeerResponse_lostResponses e response receive nowUs)
    | takeFollowUp nowUs =>
      refine Eq.trans ?_ hsame.symm
      exact congrArg UInt16.toNat (ptpPeerTakeFollowUp_lostResponses e nowUs)
    | finish followUp nowUs =>
      show (ptpPeerFinish e followUp nowUs).1.lostResponses.toNat =
        if ((ptpPeerFinish e followUp nowUs).2.isSome || false) then 0
        else min 65535 (e.lostResponses.toNat + 0)
      rw [ptpPeerFinish_lostResponses, Bool.or_false, hsame]
      split <;> rfl
    | expire nowUs =>
      show (ptpPeerExpire e nowUs).1.lostResponses.toNat =
        min 65535 (e.lostResponses.toNat + if (ptpPeerExpire e nowUs).2 then 1 else 0)
      rcases ptpPeerExpire_cases e nowUs with ⟨hno, hsame'⟩ | ⟨hyes, -, -, -, -, -, hlost⟩
      · rw [hno, hsame']
        exact hsame.symm
      · rw [hyes, hlost, if_pos rfl]
        exact toNat_saturatingSucc e.lostResponses

/-! ## Runs -/

/-- **Losses are counted once and for a reason**, in whatever order the record's operations
    come, and the saturating counter tells how many there were since the last clearing. -/
theorem losses_run (calls : List LossCall) :
    Always LossJustified (trace lossStep PtpPeerExchange.zero calls) ∧
      (run lossStep PtpPeerExchange.zero calls).lostResponses.toNat =
        min 65535 (losses (trace lossStep PtpPeerExchange.zero calls)) := by
  have hinv : LossInv (trace lossStep PtpPeerExchange.zero calls)
        (run lossStep PtpPeerExchange.zero calls) ∧
      Always LossJustified (trace lossStep PtpPeerExchange.zero calls) ∧
      (run lossStep PtpPeerExchange.zero calls).lostResponses.toNat =
        min 65535 (losses (trace lossStep PtpPeerExchange.zero calls)) := by
    refine run_induction (P := fun h e => LossInv h e ∧ Always LossJustified h ∧
      e.lostResponses.toNat = min 65535 (losses h)) ⟨LossInv.init, Always.nil, rfl⟩ ?_ calls
    rintro h e call ⟨hi, hjustified, hcount⟩
    refine ⟨hi.step call, hjustified.snoc (hi.justified call), ?_⟩
    unfold losses at hcount ⊢
    rw [lossStep_lostResponses, countSince_snoc, hcount]
    split
    · rfl
    · omega
  exact hinv.2

/-! ## Port 0 -/

/-- The record after these operations, by whichever task. -/
def ExchangeRun (e e' : PtpPeerExchange) : Prop := ∃ calls, e' = run lossStep e calls

theorem ExchangeRun.rfl {e : PtpPeerExchange} : ExchangeRun e e := ⟨[], Eq.refl e⟩

theorem ExchangeRun.one (e : PtpPeerExchange) (call : LossCall) :
    ExchangeRun e (lossStep e call).1 := ⟨[call], Eq.refl _⟩

/-- **Every critical section of port 0 is made of these operations.** -/
theorem portStep_exchangeRun {F ι : Type} [CDouble F]
    (evaluate : ι → PeerHandling F → Option (PeerEvaluation F)) (cfg : Config)
    (ownClock : ClockIdentity) (s : PeerPortState F) (event : PortEvent F ι) :
    ExchangeRun s.exchange (portStep evaluate cfg ownClock s event).1.exchange := by
  cases event with
  | setPortLink up =>
    show ExchangeRun _ (ptpSetPortLink s.port up).1.peerExchange
    unfold ptpSetPortLink
    split
    · exact .rfl
    · exact .one _ (.exchange .invalidate)
  | sendDelayReqBegin sequence request nowUs deadlineUs =>
    exact ⟨[.exchange (.expire nowUs),
      .exchange (.beginRequest sequence request deadlineUs)], rfl⟩
  | sendDelayReqPublish sent generation transmit nowUs =>
    show ExchangeRun _ (sendDelayReqPublish s.port sent generation transmit nowUs).peerExchange
    unfold sendDelayReqPublish
    dsimp only
    cases sent with
    | false => exact .one _ (.exchange (.cancel generation))
    | true =>
      rw [if_pos rfl]
      split
      · exact .one _ (.exchange (.publish generation transmit nowUs))
      · exact ⟨[.exchange (.publish generation transmit nowUs),
          .exchange (.cancel generation)], rfl⟩
  | expire nowUs => exact .one _ (.exchange (.expire nowUs))
  | clearLosses => exact .one _ .rearm
  | delayResp response receive nowUs =>
    refine ⟨[.exchange (.response response receive nowUs)], ?_⟩
    exact clearQualified_exchange _
  | takeFollowUp nowUs => exact .one _ (.exchange (.takeFollowUp nowUs))
  | followUpFinish followUp expectedGeneration nowUs =>
    show ExchangeRun _ (followUpFinish s.port followUp expectedGeneration nowUs).1.peerExchange
    unfold followUpFinish
    split
    · exact .rfl
    · refine ⟨[.exchange (.finish followUp nowUs)], ?_⟩
      exact clearQualified_exchange _
  | followUpCommit input nowUs =>
    unfold portStep
    dsimp only
    cases s.handling with
    | none => exact .rfl
    | some handling =>
      show ExchangeRun _ (commitStep evaluate cfg ownClock s handling input nowUs).1.exchange
      unfold commitStep
      cases evaluate input handling with
      | none => exact .rfl
      | some evaluation =>
        refine ⟨[], ?_⟩
        exact followUpCommit_exchange cfg ownClock s.port handling evaluation nowUs
  | cleanAfterStep => exact .one _ (.exchange .abandon)
  | setCapableReceive capableReceive => exact .rfl
  | setProfile gptp delayreqIntervalMs => exact .rfl
  | resetPeerDelay => exact .rfl

end EspPtp
