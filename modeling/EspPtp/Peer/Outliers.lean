import EspPtp.Lib.History
import EspPtp.Peer.Rate

/-!
# How long a ratio is kept

`ptp_peer_rate_update` answers `true` in three ways: with an interval it has just measured,
with the old ratio over an interval that failed on the remote side, and with the old ratio
over a step of the local clock. How long the old ratio lasts is said here on the samples
alone: `grades` classifies every sample of a neighbor by the one before it, without the
record, and a ratio in use is that of the last passing grade, with nothing after it but
re-anchored samples and at most `PTP_PEER_RATE_OUTLIERS_MAX` failed ones.
-/

namespace EspPtp

open Lib

variable {F : Type} [CDouble F]

/-- A sample: the remote time with its correction, and the local time of its receipt. -/
structure RateSample (F : Type) where
  remote : Timespec
  correction : F
  localTime : Timespec

/-- What happens to the record: a sample, or a step of the local clock. -/
inductive RateEvent (F : Type) where
  | sample (sample : RateSample F)
  | reanchor

/-- An event of this neighbor on this link; a sample answers what the update returns. -/
def rateStep (lifecycle : UInt32) (responder : PortIdentity) (rate : PtpPeerRate F) :
    RateEvent F → PtpPeerRate F × Option Bool
  | .sample s =>
    let answer := ptpPeerRateUpdate rate lifecycle responder s.remote s.correction s.localTime
    (answer.1, some answer.2)
  | .reanchor => ({ rate with reanchor := true }, none)

/-! ## The samples by themselves -/

/-- How a sample ends the interval from the one before it. -/
inductive RateGrade (F : Type) where
  /-- There is none before it. -/
  | opens
  /-- The local clock stepped since. -/
  | rebased
  /-- The local half of the interval is of no use. -/
  | unsound
  /-- The local half is sound; the remote half or the ratio is not. -/
  | failed
  | passed (ratio : F)

/-- The interval between two samples. -/
def intervalGrade (previous current : RateSample F) : RateGrade F :=
  match ptpPeerElapsed current.localTime previous.localTime with
  | none => .unsound
  | some localElapsed =>
    match ptpPeerElapsed current.remote previous.remote with
    | none => .failed
    | some remoteElapsed =>
      let ratio : F :=
        (remoteElapsed + current.correction - previous.correction) / localElapsed
      if plausibleRatio ratio then .passed ratio else .failed

/-- The grade of a sample after the last one, with or without a step between them. -/
def sampleGrade (last : Option (RateSample F)) (stepped : Bool) (current : RateSample F) :
    RateGrade F :=
  match last with
  | none => .opens
  | some previous => if stepped then .rebased else intervalGrade previous current

/-- The last sample of a neighbor and whether the clock stepped since, with the grades of
    its samples so far. -/
structure RateView (F : Type) where
  last : Option (RateSample F)
  stepped : Bool
  grades : List (RateGrade F)

def RateView.next (v : RateView F) : RateEvent F → RateView F
  | .sample s => ⟨some s, false, v.grades ++ [sampleGrade v.last v.stepped s]⟩
  | .reanchor => { v with stepped := true }

/-- The grades of a neighbor's samples, oldest first. -/
def grades (events : List (RateEvent F)) : List (RateGrade F) :=
  (events.foldl RateView.next ⟨none, false, []⟩).grades

def RateGrade.isFailed : RateGrade F → Bool
  | .failed => true
  | _ => false

def RateGrade.isRebased : RateGrade F → Bool
  | .rebased => true
  | _ => false

/-- The ratio is that of the last interval that passed, and since then at most
    `PTP_PEER_RATE_OUTLIERS_MAX` samples failed and the others were re-anchored. -/
def LastPassed (gs : List (RateGrade F)) (ratio : F) (failures : Nat) : Prop :=
  ∃ earlier later, gs = earlier ++ .passed ratio :: later ∧
    (∀ g ∈ later, g.isFailed || g.isRebased) ∧ later.countP RateGrade.isFailed = failures

omit [CDouble F] in
theorem LastPassed.snoc {gs : List (RateGrade F)} {ratio : F} {failures : Nat}
    (h : LastPassed gs ratio failures) {g : RateGrade F} (hg : g.isFailed || g.isRebased) :
    LastPassed (gs ++ [g]) ratio (failures + if g.isFailed then 1 else 0) := by
  obtain ⟨earlier, later, rfl, hlater, hcount⟩ := h
  refine ⟨earlier, later ++ [g], by simp, ?_, ?_⟩
  · intro x hx
    rcases List.mem_append.mp hx with hx | hx
    · exact hlater x hx
    · rw [List.mem_singleton.mp hx]
      exact hg
  · rw [List.countP_append, hcount, List.countP_singleton]

omit [CDouble F] in
theorem LastPassed.now (gs : List (RateGrade F)) (ratio : F) :
    LastPassed (gs ++ [.passed ratio]) ratio 0 :=
  ⟨gs, [], rfl, by simp, rfl⟩

/-! ## The record against the samples -/

/-- A record without a sample of this neighbor: another one's, or as after `memset`. -/
def StartsAnew (lifecycle : UInt32) (responder : PortIdentity) (rate : PtpPeerRate F) : Prop :=
  rate.lifecycle ≠ lifecycle ∨ rate.responder ≠ responder ∨
    { rate with reanchor := false } = PtpPeerRate.fresh lifecycle responder

/-- A ratio in use is the last one passed, and its allowance is not used up. -/
def Allowed (gs : List (RateGrade F)) (rate : PtpPeerRate F) : Prop :=
  rate.valid = true →
    LastPassed gs rate.ratio rate.outliers ∧ rate.outliers ≤ ptpPeerRateOutliersMax

/-- The record's sample is the last of the neighbor, once there is one. -/
inductive GradedRate (lifecycle : UInt32) (responder : PortIdentity) :
    RateView F → PtpPeerRate F → Prop
  | opening (stepped : Bool) (rate : PtpPeerRate F)
      (hanew : StartsAnew lifecycle responder rate) :
      GradedRate lifecycle responder ⟨none, stepped, []⟩ rate
  | sampled (s : RateSample F) (stepped : Bool) (gs : List (RateGrade F))
      (rate : PtpPeerRate F)
      (hsample : PtpPeerRate.EndsIn lifecycle responder s.remote s.correction s.localTime
        { rate with reanchor := false })
      (hstepped : rate.reanchor = stepped) (hallowed : Allowed gs rate) :
      GradedRate lifecycle responder ⟨some s, stepped, gs⟩ rate

section Steps

variable {lifecycle : UInt32} {responder : PortIdentity} {rate : PtpPeerRate F}

/-- The answer is the validity of the ratio. -/
theorem ptpPeerRateUpdate_answer (rate : PtpPeerRate F) (lifecycle : UInt32)
    (responder : PortIdentity) (remote : Timespec) (correction : F) (localTime : Timespec) :
    (ptpPeerRateUpdate rate lifecycle responder remote correction localTime).2 =
      (ptpPeerRateUpdate rate lifecycle responder remote correction localTime).1.valid := by
  unfold ptpPeerRateUpdate
  generalize rate.forNeighbor lifecycle responder = r
  dsimp only
  split
  · rfl
  · unfold PtpPeerRate.measure
    dsimp only
    split
    · rename_i hkept
      simp only [Bool.and_eq_true] at hkept
      exact hkept.1.2.symm
    · split
      · rfl
      · rfl

/-- The first sample of a neighbor ends no interval, so its ratio is not in use. -/
theorem StartsAnew.update (h : StartsAnew lifecycle responder rate) (s : RateSample F) :
    (ptpPeerRateUpdate rate lifecycle responder s.remote s.correction s.localTime).1.valid =
      false := by
  have hfresh : rate.forNeighbor lifecycle responder = .fresh lifecycle responder ∨
      { rate.forNeighbor lifecycle responder with reanchor := false } =
        .fresh lifecycle responder := by
    unfold PtpPeerRate.forNeighbor
    rcases h with hother | hother | hzero
    · exact Or.inl (if_pos (Or.inl hother))
    · exact Or.inl (if_pos (Or.inr hother))
    · split
      · exact Or.inl rfl
      · exact Or.inr hzero
  unfold ptpPeerRateUpdate
  generalize rate.forNeighbor lifecycle responder = r at hfresh
  have hzero : r.valid = false ∧ r.anchored = false := by
    rcases hfresh with h | h
    · rw [h]
      exact ⟨rfl, rfl⟩
    · exact ⟨congrArg PtpPeerRate.valid h, congrArg PtpPeerRate.anchored h⟩
  dsimp only
  split
  · exact hzero.1
  · have hlocal : r.localElapsed s.localTime = none := by
      rw [PtpPeerRate.localElapsed, hzero.2]
      rfl
    simp [PtpPeerRate.measure, hlocal, PtpPeerRate.intervalRatio]

/-- A failed interval keeps the ratio or retires it. -/
theorem PtpPeerRate.measure_failed {gs : List (RateGrade F)} (hallowed : Allowed gs rate)
    {s : RateSample F} (hsound : (rate.localElapsed s.localTime).isSome = true)
    (hnone : rate.intervalRatio s.remote s.correction (rate.localElapsed s.localTime) = none) :
    Allowed (gs ++ [.failed]) (rate.measure s.remote s.correction s.localTime).1 := by
  unfold PtpPeerRate.measure
  dsimp only
  rw [hnone, hsound]
  by_cases hroom : rate.valid = true ∧ rate.outliers < ptpPeerRateOutliersMax
  · obtain ⟨hvalid, hless⟩ := hroom
    rw [if_pos (by simp [PtpPeerRate.sampled, hvalid, hless])]
    intro _
    exact ⟨(hallowed hvalid).1.snoc rfl, hless⟩
  · rw [if_neg]
    · intro hvalid
      cases hvalid
    · intro hkept
      rw [Bool.and_eq_true, Bool.and_eq_true] at hkept
      exact hroom ⟨hkept.1.2, of_decide_eq_true hkept.2⟩

/-- An interval that passes starts the allowance anew. -/
theorem PtpPeerRate.measure_passed (gs : List (RateGrade F)) {s : RateSample F} {ratio : F}
    (hratio : rate.intervalRatio s.remote s.correction (rate.localElapsed s.localTime) =
      some ratio) :
    Allowed (gs ++ [.passed ratio]) (rate.measure s.remote s.correction s.localTime).1 := by
  unfold PtpPeerRate.measure
  dsimp only
  rw [hratio]
  intro _
  exact ⟨LastPassed.now _ _, Nat.zero_le _⟩

/-- **What measuring an interval does, told by its grade.** -/
theorem PtpPeerRate.measure_allowed {previous : RateSample F} {gs : List (RateGrade F)}
    (hsample : PtpPeerRate.EndsIn lifecycle responder previous.remote previous.correction
      previous.localTime { rate with reanchor := false })
    (hallowed : Allowed gs rate) (s : RateSample F) :
    Allowed (gs ++ [intervalGrade previous s])
      (rate.measure s.remote s.correction s.localTime).1 := by
  have hlocal : rate.localElapsed s.localTime =
      ptpPeerElapsed s.localTime previous.localTime := by
    have hanchored : rate.anchored = true := hsample.anchored
    have hprevious : rate.localPrevious = previous.localTime := hsample.localPrevious
    rw [PtpPeerRate.localElapsed, hanchored, hprevious, if_pos rfl]
  have hremote : rate.remotePrevious = previous.remote := hsample.remotePrevious
  have hcorrection : rate.correctionPrevious = previous.correction := hsample.correctionPrevious
  unfold intervalGrade
  rw [← hlocal, ← hremote]
  cases hl : rate.localElapsed s.localTime with
  | none =>
    unfold PtpPeerRate.measure
    dsimp only
    rw [hl]
    intro hvalid
    simp [PtpPeerRate.intervalRatio] at hvalid
  | some localElapsed =>
    have hsound : (rate.localElapsed s.localTime).isSome = true := by
      rw [hl]
      rfl
    dsimp only
    cases hr : ptpPeerElapsed (F := F) s.remote rate.remotePrevious with
    | none => exact measure_failed hallowed hsound (by simp [PtpPeerRate.intervalRatio, hl, hr])
    | some remoteElapsed =>
      dsimp only
      rw [← hcorrection]
      by_cases hplausible : plausibleRatio
          ((remoteElapsed + s.correction - rate.correctionPrevious) / localElapsed) = true
      · rw [if_pos hplausible]
        exact measure_passed gs (by simp [PtpPeerRate.intervalRatio, hl, hr, hplausible])
      · rw [if_neg hplausible]
        exact measure_failed hallowed hsound
          (by simp [PtpPeerRate.intervalRatio, hl, hr, hplausible])

theorem GradedRate.step {v : RateView F} (hi : GradedRate lifecycle responder v rate)
    (event : RateEvent F) :
    GradedRate lifecycle responder (v.next event) (rateStep lifecycle responder rate event).1 := by
  cases event with
  | reanchor =>
    cases hi with
    | opening stepped _ hanew => exact .opening true _ hanew
    | sampled s stepped gs _ hsample _ hallowed => exact .sampled s true gs _ hsample rfl hallowed
  | sample s =>
    have hends := ptpPeerRateUpdate_endsIn rate lifecycle responder s.remote s.correction
      s.localTime
    have hsample : PtpPeerRate.EndsIn lifecycle responder s.remote s.correction s.localTime
        { (ptpPeerRateUpdate rate lifecycle responder s.remote s.correction s.localTime).1 with
          reanchor := false } := { hends with reanchor := rfl }
    refine .sampled s false _ _ hsample hends.reanchor ?_
    cases hi with
    | opening stepped _ hanew =>
      intro hvalid
      have hunused := hanew.update s
      exact absurd hvalid (by simp [rateStep, hunused])
    | sampled previous stepped gs _ hprevious hstepped hallowed =>
      have hlife : rate.lifecycle = lifecycle := hprevious.lifecycle
      have hresp : rate.responder = responder := hprevious.responder
      have hold : rate.forNeighbor lifecycle responder = rate :=
        if_neg (by simp [hlife, hresp])
      unfold rateStep ptpPeerRateUpdate sampleGrade
      dsimp only
      rw [hold, hstepped]
      cases stepped with
      | true =>
        -- The ratio and its allowance stay as they are.
        intro hvalid
        obtain ⟨hpassed, hless⟩ := hallowed hvalid
        exact ⟨hpassed.snoc rfl, hless⟩
      | false => exact PtpPeerRate.measure_allowed hprevious hallowed s

end Steps

/-! ## The result -/

/-- **A ratio never outlives its allowance.** Over any samples and steps of one neighbor,
    from a record that has none of its samples: whenever an update answers `true`, the stored
    ratio is that of the last interval that passed, and of the samples since at most
    `PTP_PEER_RATE_OUTLIERS_MAX` failed and the rest were re-anchored. In particular an
    interval between two of the neighbor's own samples has passed. -/
theorem ptpPeerRate_outliers_bounded (lifecycle : UInt32) (responder : PortIdentity)
    (rate : PtpPeerRate F) (hanew : StartsAnew lifecycle responder rate)
    (events : List (RateEvent F)) (s : RateSample F)
    (hanswer : (rateStep lifecycle responder
      (run (rateStep lifecycle responder) rate events) (.sample s)).2 = some true) :
    ∃ failures, failures ≤ ptpPeerRateOutliersMax ∧
      LastPassed (grades (events ++ [.sample s]))
        (run (rateStep lifecycle responder) rate (events ++ [.sample s])).ratio failures := by
  have hinv (es : List (RateEvent F)) :
      GradedRate lifecycle responder (es.foldl RateView.next ⟨none, false, []⟩)
        (run (rateStep lifecycle responder) rate es) := by
    induction es using List.reverseRecOn with
    | nil => exact .opening false rate hanew
    | append_singleton es e ih =>
      rw [List.foldl_concat, run_snoc]
      exact ih.step e
  have hlast := hinv (events ++ [.sample s])
  rw [run_snoc] at hlast ⊢
  have hvalid : (rateStep lifecycle responder
      (run (rateStep lifecycle responder) rate events) (.sample s)).1.valid = true :=
    (ptpPeerRateUpdate_answer _ _ _ _ _ _).symm.trans (Option.some.inj hanswer)
  unfold grades
  rw [List.foldl_concat] at hlast ⊢
  cases hlast with
  | sampled _ _ _ _ _ _ hallowed => exact ⟨_, (hallowed hvalid).2, (hallowed hvalid).1⟩

namespace Sample

/-- The neighbor's clock at `remoteNs`, received at `localNs`, within one second. -/
def rateSample (remoteNs localNs : Int) : RateSample ℚ := ⟨⟨0, remoteNs⟩, 0, ⟨0, localNs⟩⟩

/-- Two samples 100 ms apart, a step of the local clock and the sample after it. -/
def steppedOver : List (RateEvent ℚ) :=
  [.sample (rateSample 0 0), .sample (rateSample 100000000 100000000), .reanchor,
    .sample (rateSample 200000000 700000000)]

end Sample

/-- The neighbor's clock stands still over the next interval, and the ratio is kept. -/
theorem ptpPeerRate_outliers_bounded_kept :
    ∃ failures, failures ≤ ptpPeerRateOutliersMax ∧
      LastPassed (grades (Sample.steppedOver ++ [.sample (Sample.rateSample 200000000 800000000)]))
        (run (rateStep 1 ⟨Vector.replicate 8 2, #v[0, 1]⟩) default
          (Sample.steppedOver ++ [.sample (Sample.rateSample 200000000 800000000)])).ratio
        failures :=
  ptpPeerRate_outliers_bounded 1 ⟨Vector.replicate 8 2, #v[0, 1]⟩ default
    (Or.inl (by decide)) Sample.steppedOver (Sample.rateSample 200000000 800000000)
    (by decide +kernel)

end EspPtp
