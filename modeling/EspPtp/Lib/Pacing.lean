import Mathlib.Data.Int.Basic

/-!
# Deadlines on a grid

A periodic sender that moves its deadline by one period with every begin, and starts the
grid anew from the present where there was no deadline or a whole period was missed. A late
begin does not delay the ones after it, and still no two begins are closer than the
deadlines let them: the average rate is never more than one a period.
-/

namespace EspPtp
namespace Lib

/-- The deadline after a begin at `now`. -/
def paced (period : Int) (active : Bool) (next now : Int) : Int :=
  if !active ∨ now - next ≥ period then now + period else next + period

/-- A begin, and the deadline it leaves. -/
structure Beat where
  time : Int
  deadline : Int
  deriving DecidableEq, Repr

/-- The begins of a sender, none before the deadline of the one before. -/
inductive Paced (period : Int) : Bool → Int → List Beat → Prop
  | nil {active : Bool} {next : Int} : Paced period active next []
  | cons {active : Bool} {next now : Int} {beats : List Beat} (hperiod : 0 < period)
      (hdue : active = true → next ≤ now)
      (hrest : Paced period true (paced period active next now) beats) :
      Paced period active next (⟨now, paced period active next now⟩ :: beats)

/-- Every begin comes less than a period after its deadline. -/
def OnTime (period : Int) : Int → List Beat → Prop
  | _, [] => True
  | deadline, beat :: beats => beat.time - deadline < period ∧ OnTime period beat.deadline beats

variable {period next now : Int} {active : Bool} {beat : Beat} {beats : List Beat}

theorem lt_paced (hperiod : 0 < period) :
    now < paced period active next now := by
  unfold paced
  split
  · omega
  · rename_i hgrid
    rw [not_or] at hgrid
    omega

theorem paced_le (hdue : active = true → next ≤ now) :
    paced period active next now ≤ now + period := by
  unfold paced
  split
  · exact Int.le_refl _
  · rename_i hgrid
    rw [not_or, Bool.not_eq_true', Bool.not_eq_false] at hgrid
    have hle := hdue hgrid.1
    omega

/-- The deadline moves by one period at least. -/
theorem add_le_paced (hdue : next ≤ now) : next + period ≤ paced period active next now := by
  unfold paced
  split <;> omega

@[simp] theorem paced_inactive : paced period false next now = now + period := by
  simp [paced]

/-- On time it moves by one period exactly. -/
theorem paced_onTime (honTime : now - next < period) :
    paced period true next now = next + period := by
  simp [paced, Int.not_le.mpr honTime]

/-- Every deadline is after its begin, and no more than one period after it. -/
theorem Paced.within (h : Paced period active next beats) :
    ∀ beat ∈ beats, beat.time < beat.deadline ∧ beat.deadline ≤ beat.time + period := by
  induction h with
  | nil => simp
  | cons hperiod hdue _ ih =>
    intro beat hmem
    rcases List.mem_cons.mp hmem with rfl | hmem
    · exact ⟨lt_paced hperiod, paced_le hdue⟩
    · exact ih beat hmem

/-- The begins keep the rate, counted from the deadline they wait for. -/
theorem Paced.spread (h : Paced period true next beats) :
    ∀ (k : Nat) (hk : k < beats.length), next + k * period ≤ beats[k].time := by
  induction beats generalizing next with
  | nil =>
    intro k hk
    exact absurd hk (Nat.not_lt_zero k)
  | cons beat beats ih =>
    intro k hk
    cases h with
    | cons _ hdue hrest =>
      have hle := hdue rfl
      cases k with
      | zero =>
        simp only [Int.natCast_zero, Int.zero_mul, Int.add_zero, List.getElem_cons_zero]
        exact hle
      | succ k =>
        have hlater := ih hrest k (Nat.lt_of_succ_lt_succ hk)
        have hmoved := @add_le_paced period next _ true hle
        simp only [Int.natCast_succ, Int.add_mul, Int.one_mul, List.getElem_cons_succ]
        omega

/-- On time the deadlines stay on the grid. -/
theorem Paced.grid (h : Paced period true next beats) (honTime : OnTime period next beats) :
    ∀ (k : Nat) (hk : k < beats.length), beats[k].deadline = next + (k + 1) * period := by
  induction beats generalizing next with
  | nil =>
    intro k hk
    exact absurd hk (Nat.not_lt_zero k)
  | cons beat beats ih =>
    intro k hk
    cases h with
    | cons _ hdue hrest =>
      have hdeadline := paced_onTime honTime.1
      cases k with
      | zero =>
        simp only [Int.natCast_zero, Int.zero_add, Int.one_mul, List.getElem_cons_zero]
        exact hdeadline
      | succ k =>
        rw [hdeadline] at hrest
        have hlater := ih hrest (by rw [← hdeadline]; exact honTime.2) k
          (Nat.lt_of_succ_lt_succ hk)
        simp only [Int.natCast_succ, Int.add_mul, Int.one_mul, List.getElem_cons_succ] at hlater ⊢
        omega

/-- What the begins of such a sender keep to: `first` is the first of them, and `rest[k]`
    the one `k + 1` begins later. -/
structure KeepsPace (period : Int) (active : Bool) (beats : List Beat) : Prop where
  within : ∀ beat ∈ beats, beat.time < beat.deadline ∧ beat.deadline ≤ beat.time + period
  rate : ∀ first rest, beats = first :: rest →
    ∀ (k : Nat) (hk : k < rest.length), first.time + k * period < rest[k].time
  freshRate : active = false → ∀ first rest, beats = first :: rest →
    ∀ (k : Nat) (hk : k < rest.length), first.time + (k + 1) * period ≤ rest[k].time
  grid : ∀ first rest, beats = first :: rest → OnTime period first.deadline rest →
    ∀ (k : Nat) (hk : k < rest.length), rest[k].deadline = first.deadline + (k + 1) * period
  freshGrid : active = false → ∀ first rest, beats = first :: rest →
    first.deadline = first.time + period

/-- The first begin leaves its deadline to the rest. -/
theorem Paced.split {first : Beat} (h : Paced period active next (first :: beats)) :
    (first.time < first.deadline ∧ (active = false → first.deadline = first.time + period)) ∧
      Paced period true first.deadline beats := by
  cases h with
  | cons hperiod hdue hrest =>
    refine ⟨⟨lt_paced hperiod, ?_⟩, hrest⟩
    intro hidle
    subst hidle
    exact @paced_inactive period next _

theorem Paced.keepsPace (h : Paced period active next beats) :
    KeepsPace period active beats where
  within := h.within
  rate := by
    rintro first rest rfl k hk
    obtain ⟨⟨hafter, -⟩, hrest⟩ := h.split
    have hlater := hrest.spread k hk
    omega
  freshRate := by
    rintro hidle first rest rfl k hk
    obtain ⟨⟨-, hfresh⟩, hrest⟩ := h.split
    have hlater := hrest.spread k hk
    have hstart := hfresh hidle
    simp only [Int.add_mul, Int.one_mul]
    omega
  grid := by
    rintro first rest rfl honTime k hk
    exact h.split.2.grid honTime k hk
  freshGrid := by
    rintro hidle first rest rfl
    exact h.split.1.2 hidle

end Lib
end EspPtp
