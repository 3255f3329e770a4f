import EspPtp.Clock.Software

/-!
# Phase discipline of the software clock

The phase error in nanoseconds is added, up to a limit, to a rate in parts per billion. Over
a second or less that takes off no more than the error itself, so that an error shrinks to
where three roundings hide it.
-/

namespace EspPtp

open Lib

/-- What an error `error` becomes after `elapsedNs`. -/
structure PhaseConverges (elapsedNs error next : Int) : Prop where
  close : next.natAbs ≤ error.natAbs + 1
  sign : 1 < next.natAbs → (0 < error ∧ 0 < next) ∨ (error < 0 ∧ next < 0)
  falls : 200000 < error.natAbs →
    elapsedNs * 200000 ≤ ((error.natAbs : Int) - next.natAbs + 2) * 1000000000

theorem PhaseConverges.neg {elapsedNs error next : Int} (h : PhaseConverges elapsedNs error next) :
    PhaseConverges elapsedNs (-error) (-next) where
  close := by
    rw [Int.natAbs_neg, Int.natAbs_neg]
    exact h.close
  sign hlarge := by
    rw [Int.natAbs_neg] at hlarge
    have hsame := h.sign hlarge
    omega
  falls hlarge := by
    rw [Int.natAbs_neg] at hlarge ⊢
    rw [Int.natAbs_neg]
    exact h.falls hlarge

/-- An error that is ahead is taken off by what the clock gains. -/
theorem phaseConverges_ahead {x y elapsedNs error : Int}
    (hsame : 0 ≤ x ∧ 0 ≤ y ∨ x ≤ 0 ∧ y ≤ 0) (helapsed : 0 ≤ elapsedNs)
    (hsecond : elapsedNs ≤ 1000000000) (hahead : 0 ≤ error) :
    PhaseConverges elapsedNs error
      (error + ((x + y).tdiv 1000000000 - x.tdiv 1000000000) -
        (y + elapsedNs * clampTo 200000 error).tdiv 1000000000) := by
  have htrim : 0 ≤ clampTo 200000 error := le_clampTo_of_le hahead (by decide)
  have hle : clampTo 200000 error ≤ error := clampTo_le_of_le (Int.le_refl error) (by omega)
  have hlimit := @clampTo_le 200000 (by decide) error
  obtain ⟨hlow, hhigh, hgain⟩ := steering_gain (m := 1000000000) (w := elapsedNs * clampTo 200000 error)
    (t := clampTo 200000 error) (by decide) hsame (Int.mul_nonneg helapsed htrim)
    (Int.mul_le_mul_of_nonneg_right hsecond htrim)
  generalize hnext : error + ((x + y).tdiv 1000000000 - x.tdiv 1000000000) -
    (y + elapsedNs * clampTo 200000 error).tdiv 1000000000 = next
  refine { close := by omega, sign := by omega, falls := ?_ }
  intro hlarge
  have hfull : clampTo 200000 error = 200000 := if_pos (by omega)
  rw [hfull] at hlow hhigh hgain hnext
  omega

/-- So is one that is behind. -/
theorem phaseConverges {x y elapsedNs error : Int} (hsame : 0 ≤ x ∧ 0 ≤ y ∨ x ≤ 0 ∧ y ≤ 0)
    (helapsed : 0 ≤ elapsedNs) (hsecond : elapsedNs ≤ 1000000000) :
    PhaseConverges elapsedNs error
      (error + ((x + y).tdiv 1000000000 - x.tdiv 1000000000) -
        (y + elapsedNs * clampTo 200000 error).tdiv 1000000000) := by
  rcases Int.le_total 0 error with hahead | hbehind
  · exact phaseConverges_ahead hsame helapsed hsecond hahead
  · have hmirror := (@phaseConverges_ahead (-x) (-y) elapsedNs (-error) (by omega) helapsed
      hsecond (by omega)).neg
    have hclamp := @clampTo_symm 200000 (by decide) error
    have hclock : -y + elapsedNs * -clampTo 200000 error =
        -(y + elapsedNs * clampTo 200000 error) := by
      rw [Int.mul_neg, Int.neg_add]
    rw [hclamp, hclock, ← Int.neg_add, Int.neg_tdiv, Int.neg_tdiv, Int.neg_tdiv] at hmirror
    have hsum : -(-error + (-(x + y).tdiv 1000000000 - -x.tdiv 1000000000) -
          -(y + elapsedNs * clampTo 200000 error).tdiv 1000000000) =
        error + ((x + y).tdiv 1000000000 - x.tdiv 1000000000) -
          (y + elapsedNs * clampTo 200000 error).tdiv 1000000000 := by
      omega
    rw [hsum, Int.neg_neg] at hmirror
    exact hmirror

/-! ## Calls with one anchor -/

section Calls

variable {localAnchor referenceAnchor ratePpb : Int}

/-- One call without a step, at its time. -/
def disciplineCall (localAnchor referenceAnchor ratePpb : Int) (s : PtpClockSw) (nowNs : Int) :
    PtpClockSw × Option (Int × Int) :=
  ptpClockSwDiscipline s localAnchor referenceAnchor ratePpb false nowNs

/-- The clock goes on from its reading at the rate of the reference and the limited error; no
    further limit is met. -/
theorem disciplineCall_steers {s s' : PtpClockSw} {nowNs error applied : Int}
    (h : disciplineCall localAnchor referenceAnchor ratePpb s nowNs = (s', some (error, applied))) :
    applied = ratePpb + clampTo 200000 error ∧
      s'.clock = ⟨nowNs, ptpClockAffineNow s.clock nowNs, applied⟩ := by
  obtain ⟨⟨hslow, hfast, -, -⟩, rfl, herror, rfl⟩ := ptpClockSwDiscipline_accepted h
  have hlow := @neg_le_clampTo 200000 (by decide) error
  have hhigh := @clampTo_le 200000 (by decide) error
  have hrate : clampTo 512000 (ratePpb + clampTo 200000 error) = ratePpb + clampTo 200000 error :=
    clampTo_eq (by omega) (by omega)
  simp only [ptpClockAffineDiscipline_steered, ← herror, hrate, and_self]

/-- **Two calls in a row.** -/
theorem disciplineCall_converges {s s' s'' : PtpClockSw}
    {nowNs laterNs error applied next applied' : Int}
    (h : disciplineCall localAnchor referenceAnchor ratePpb s nowNs = (s', some (error, applied)))
    (hnext : disciplineCall localAnchor referenceAnchor ratePpb s' laterNs =
      (s'', some (next, applied')))
    (hlater : nowNs ≤ laterNs) (hsecond : laterNs ≤ nowNs + 1000000000) :
    PhaseConverges (laterNs - nowNs) error next := by
  obtain ⟨happlied, hclock⟩ := disciplineCall_steers h
  obtain ⟨⟨-, -, hanchor, -⟩, -, herror, -⟩ := ptpClockSwDiscipline_accepted h
  obtain ⟨-, -, hafter, -⟩ := ptpClockSwDiscipline_accepted hnext
  rw [ptpClockAffineDiscipline_error] at herror hafter
  -- The reference moves by `y` from `x`, and the clock from its new anchor by `y + w`.
  have hreference : (laterNs - localAnchor) * ratePpb =
      (nowNs - localAnchor) * ratePpb + (laterNs - nowNs) * ratePpb := by
    rw [← Int.add_mul]
    congr 1
    omega
  have hsteered : (laterNs - nowNs) * applied =
      (laterNs - nowNs) * ratePpb + (laterNs - nowNs) * clampTo 200000 error := by
    rw [happlied, Int.mul_add]
  have hsame : 0 ≤ (nowNs - localAnchor) * ratePpb ∧ 0 ≤ (laterNs - nowNs) * ratePpb ∨
      (nowNs - localAnchor) * ratePpb ≤ 0 ∧ (laterNs - nowNs) * ratePpb ≤ 0 := by
    rcases Int.le_total 0 ratePpb with hfast | hslow
    · exact .inl ⟨Int.mul_nonneg (by omega) hfast, Int.mul_nonneg (by omega) hfast⟩
    · exact .inr ⟨Int.mul_nonpos_of_nonneg_of_nonpos (by omega) hslow,
        Int.mul_nonpos_of_nonneg_of_nonpos (by omega) hslow⟩
  have hconverges := @phaseConverges _ _ (laterNs - nowNs) error hsame (by omega) (by omega)
  rw [← hreference, ← hsteered] at hconverges
  have hread : ptpClockAffineNow s'.clock laterNs =
      ptpClockAffineNow s.clock nowNs + (laterNs - nowNs) +
        ((laterNs - nowNs) * applied).tdiv 1000000000 := by
    simp only [hclock, ptpClockAffineNow, ptpClockRateCorrection_eq]
  have heq : next = error + (((laterNs - localAnchor) * ratePpb).tdiv 1000000000 -
      ((nowNs - localAnchor) * ratePpb).tdiv 1000000000) -
      ((laterNs - nowNs) * applied).tdiv 1000000000 := by
    omega
  rw [heq]
  exact hconverges

/-- A call with a step leaves the clock at the reference. -/
theorem ptpClockSwDiscipline_steps {s s' : PtpClockSw} {nowNs error applied : Int}
    (h : ptpClockSwDiscipline s localAnchor referenceAnchor ratePpb true nowNs =
      (s', some (error, applied))) :
    ptpClockAffineNow s'.clock nowNs = referenceAnchor + (nowNs - localAnchor) +
      ptpClockRateCorrection (nowNs - localAnchor) ratePpb := by
  obtain ⟨-, rfl, -, -⟩ := ptpClockSwDiscipline_accepted h
  exact ptpClockAffineDiscipline_now s.clock nowNs localAnchor referenceAnchor ratePpb true

/-- The error of a call that is accepted, to that of the next, if it is accepted too. -/
def PhaseFollows (call next : Int × Option (Int × Int)) : Prop :=
  ∀ error applied error' applied', call.2 = some (error, applied) →
    next.2 = some (error', applied') → PhaseConverges (next.1 - call.1) error error'

/-- Times a second or less apart. -/
def Spaced (times : List Int) : Prop :=
  times.IsChain fun nowNs laterNs => nowNs ≤ laterNs ∧ laterNs ≤ nowNs + 1000000000

/-- The calls of a run converge one after the other. -/
theorem disciplineRun_converges (s : PtpClockSw) {times : List Int} (hspaced : Spaced times) :
    (trace (disciplineCall localAnchor referenceAnchor ratePpb) s times).IsChain PhaseFollows := by
  induction times generalizing s with
  | nil => exact .nil
  | cons nowNs times ih =>
    cases times with
    | nil => exact .singleton _
    | cons laterNs times =>
      obtain ⟨⟨hlater, hsecond⟩, hrest⟩ := List.isChain_cons_cons.mp hspaced
      refine .cons_cons ?_ (ih (disciplineCall localAnchor referenceAnchor ratePpb s nowNs).1 hrest)
      intro error applied error' applied' hcall hnext
      exact disciplineCall_converges (Prod.ext rfl hcall) (Prod.ext rfl hnext) hlater hsecond

/-- No call of a run meets the outer limit. -/
theorem disciplineRun_applied (s : PtpClockSw) (times : List Int) :
    ∀ call ∈ trace (disciplineCall localAnchor referenceAnchor ratePpb) s times,
      ∀ error applied, call.2 = some (error, applied) →
        applied = ratePpb + clampTo 200000 error := by
  induction times generalizing s with
  | nil => simp
  | cons nowNs times ih =>
    intro call hmem error applied hcall
    rcases List.mem_cons.mp hmem with rfl | hmem
    · exact (disciplineCall_steers (Prod.ext rfl hcall)).1
    · exact ih _ call hmem error applied hcall

end Calls

/-- **Phase discipline converges**: in every run of calls with one anchor, from any state of
    the clock, the error of each shrinks to the next, no limit but that of the error is met,
    and a call with a step brings the clock to the reference. -/
theorem softwareClock_converges (s : PtpClockSw) (localAnchor referenceAnchor ratePpb : Int)
    (times : List Int) (hspaced : Spaced times) :
    (trace (disciplineCall localAnchor referenceAnchor ratePpb) s times).IsChain PhaseFollows ∧
      (∀ call ∈ trace (disciplineCall localAnchor referenceAnchor ratePpb) s times,
        ∀ error applied, call.2 = some (error, applied) →
          applied = ratePpb + clampTo 200000 error) ∧
      ∀ (nowNs error applied : Int) (s' s'' : PtpClockSw),
        ptpClockSwDiscipline s' localAnchor referenceAnchor ratePpb true nowNs =
          (s'', some (error, applied)) →
        ptpClockAffineNow s''.clock nowNs = referenceAnchor + (nowNs - localAnchor) +
          ptpClockRateCorrection (nowNs - localAnchor) ratePpb :=
  ⟨disciplineRun_converges s hspaced, disciplineRun_applied s times,
    fun _ _ _ _ _ h => ptpClockSwDiscipline_steps h⟩

/-- A clock a millisecond behind a reference that runs fast, disciplined after a second. -/
theorem softwareClock_converges_behind :
    (trace (disciplineCall 0 1000000 100000) (ptpClockSwInit none 0)
      [1000, 1000001000]).IsChain PhaseFollows :=
  (softwareClock_converges (ptpClockSwInit none 0) 0 1000000 100000 [1000, 1000001000]
    (by simp [Spaced])).1

end EspPtp
