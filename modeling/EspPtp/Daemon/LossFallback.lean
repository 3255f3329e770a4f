import EspPtp.Daemon.Run
import EspPtp.Peer.Losses

/-!
# The fallback for unanswered requests

Condition 2 of `ptp_check_profile_fallback` reads `lost_responses` after an expiry check of
its own. Given what that number means, the branch says something about the requests sent:
nine of them were published, ran out incomplete, and nothing completed in between.
-/

namespace EspPtp

open Lib

variable {F : Type} [CDouble F] {n : Nat}

/-- Nine published requests expired incomplete, the losses not cleared in between. -/
def NineLost (h : LossHistory) : Prop :=
  ∃ before after, h = before ++ after ∧ (∀ x ∈ after, clearsLosses x = false) ∧
    9 ≤ after.countP countsLoss

/-- The evaluation falls back for reason 2 only if the counter has reached nine. -/
theorem ptpCheckProfileFallback_unanswered {cfg : Config} {s : PtpState F n} {nowUs : Int}
    {dropping : Bool} (hbefore : s.gptpFallbackDone = false)
    (hdone : (ptpCheckProfileFallback cfg s nowUs dropping).gptpFallbackDone = true)
    (hreason : (ptpCheckProfileFallback cfg s nowUs dropping).avbLiteFallbackReason = 2) :
    (ptpPeerExpire s.port0.peerExchange nowUs).1.lostResponses ≥ 9 := by
  have hlatched : ¬ s.gptpFallbackDone = true := by simp [hbefore]
  have hother (s' : PtpState F n) {reason : Nat} (hne : reason ≠ 2) :
      (fallBack cfg s' reason).avbLiteFallbackReason ≠ 2 := hne
  unfold ptpCheckProfileFallback at hdone hreason
  by_cases hskip : (!cfg.avbLiteEndpoint || !s.isGptp || s.gptpFallbackDone ||
      decide (s.port0.type = .bridged)) = true
  · rw [if_pos hskip] at hdone
    exact absurd hdone hlatched
  rw [if_neg hskip] at hdone hreason
  by_cases hendpoint : s.port0.peerIsEndpoint = true
  · rw [if_pos hendpoint] at hreason
    exact absurd hreason (hother _ (by decide))
  rw [if_neg hendpoint] at hdone hreason
  dsimp only at hdone hreason
  by_contra hfew
  rw [if_neg hfew] at hdone hreason
  split at hreason
  · exact absurd hreason (hother _ (by decide))
  · rename_i hsingle
    rw [if_neg hsingle] at hdone
    exact absurd hdone hlatched

/-- **Peer loss accounting.** For every run of the record's operations from a zeroed state:
    `ptp_peer_expire` counts a request once, if it was published, not completed and is past
    its deadline; `lost_responses` is the saturated number of these since the last clearing;
    and where the daemon falls back for unanswered requests, nine were lost in a row. -/
theorem peerLosses_accounted (calls : List LossCall) (cfg : Config) (s : PtpState F n)
    (nowUs : Int) (dropping : Bool)
    (hexchange : s.port0.peerExchange = run lossStep PtpPeerExchange.zero calls) :
    Always LossJustified (trace lossStep PtpPeerExchange.zero calls) ∧
    s.port0.peerExchange.lostResponses.toNat =
      min 65535 (losses (trace lossStep PtpPeerExchange.zero calls)) ∧
    (s.gptpFallbackDone = false →
      (ptpCheckProfileFallback cfg s nowUs dropping).gptpFallbackDone = true →
      (ptpCheckProfileFallback cfg s nowUs dropping).avbLiteFallbackReason = 2 →
      NineLost (trace lossStep PtpPeerExchange.zero (calls ++ [.exchange (.expire nowUs)]))) := by
  obtain ⟨hjustified, hcount⟩ := losses_run calls
  refine ⟨hjustified, hexchange ▸ hcount, ?_⟩
  intro hbefore hdone hreason
  have hnine := ptpCheckProfileFallback_unanswered hbefore hdone hreason
  -- The evaluation's own expiry check is the last operation of the run.
  have hlast : (ptpPeerExpire s.port0.peerExchange nowUs).1 =
      run lossStep PtpPeerExchange.zero (calls ++ [.exchange (.expire nowUs)]) := by
    rw [run_snoc, hexchange]
    rfl
  rw [hlast, ge_iff_le, UInt16.le_iff_toNat_le] at hnine
  rw [(losses_run _).2] at hnine
  obtain ⟨before, after, hsplit, hkept, hafter⟩ := countSince_split clearsLosses countsLoss
    (trace lossStep PtpPeerExchange.zero (calls ++ [.exchange (.expire nowUs)]))
  refine ⟨before, after, hsplit, hkept, ?_⟩
  have hlosses : after.countP countsLoss = losses _ := hafter
  rw [hlosses]
  exact le_trans hnine (min_le_right _ _)

namespace Sample

/-- A request with this generation, published and never answered, and the check of the
    next that finds it late. -/
def unansweredRequest (generation : UInt32) : List LossCall :=
  [.exchange (.beginRequest 7 request 1000), .exchange (.publish generation ⟨5, 20⟩ 10),
    .exchange (.expire 1000)]

/-- Eight losses and a ninth request past its deadline. -/
def unanswered : List LossCall :=
  [1, 2, 3, 4, 5, 6, 7, 8, 9].flatMap unansweredRequest |>.dropLast

/-- The daemon with these requests behind it. -/
def waiting : PtpState ℚ 0 :=
  alone.withPort0
    { capablePort with peerExchange := run lossStep PtpPeerExchange.zero unanswered }

end Sample

theorem peerLosses_accounted_unanswered :
    NineLost (trace lossStep PtpPeerExchange.zero
      (Sample.unanswered ++ [.exchange (.expire 1000)])) :=
  (peerLosses_accounted Sample.unanswered Sample.config Sample.waiting 1000 false
      (by rw [Sample.waiting, PtpState.withPort0_port0])).2.2
    rfl (by decide +kernel) (by decide +kernel)

end EspPtp
