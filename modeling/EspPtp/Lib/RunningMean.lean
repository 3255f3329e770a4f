import EspPtp.Lib.TruncDiv
import Mathlib.Logic.Function.Iterate

/-!
# A running mean of integers

A mean that moves by a truncated fraction of its distance to each sample, the fraction of a
count that grows up to a limit. The mean never leaves the span of what it is fed. But from
the second sample on a whole step is more than any fraction of one: the mean stops where the
distance left is less than the count, and from there no number of samples moves it.
-/

namespace EspPtp
namespace Lib

structure RunningMean where
  count : Nat
  mean : Int
  deriving DecidableEq, Repr

namespace RunningMean

/-- Take one sample. -/
def take (limit : Nat) (sample : Int) (s : RunningMean) : RunningMean :=
  let count := if s.count < limit then s.count + 1 else s.count
  ⟨count, s.mean + (sample - s.mean).tdiv count⟩

variable {limit : Nat} {sample : Int} {s : RunningMean}

/-- The count that divides the distance. -/
theorem take_count (limit : Nat) (sample : Int) (s : RunningMean) :
    (s.take limit sample).count = if s.count < limit then s.count + 1 else s.count := rfl

theorem take_mean (limit : Nat) (sample : Int) (s : RunningMean) :
    (s.take limit sample).mean =
      s.mean + (sample - s.mean).tdiv ((s.take limit sample).count : Int) := rfl

theorem take_count_pos (hlimit : 1 ≤ limit) : 1 ≤ (s.take limit sample).count := by
  rw [take_count]
  split <;> omega

theorem take_count_le (hcount : s.count ≤ limit) : (s.take limit sample).count ≤ limit := by
  rw [take_count]
  split <;> omega

/-- **The mean stays between what it was and the sample.** -/
theorem take_between (hlimit : 1 ≤ limit) :
    min s.mean sample ≤ (s.take limit sample).mean ∧
      (s.take limit sample).mean ≤ max s.mean sample := by
  have hcount : (1 : Int) ≤ (s.take limit sample).count := by
    exact_mod_cast @take_count_pos limit sample s hlimit
  rw [take_mean]
  generalize ((s.take limit sample).count : Int) = count at hcount ⊢
  rcases Int.le_total 0 (sample - s.mean) with hahead | hbehind
  · obtain ⟨hstep, hle, -⟩ := @tdiv_bounds_nonneg count (sample - s.mean) (by omega) hahead
    have hshort : (sample - s.mean).tdiv count ≤ sample - s.mean := by nlinarith
    omega
  · obtain ⟨hstep, hle, -⟩ := @tdiv_bounds_nonpos count (sample - s.mean) (by omega) hbehind
    have hshort : sample - s.mean ≤ (sample - s.mean).tdiv count := by nlinarith
    omega

/-- A first sample, and every sample of a mean of one, is the mean. -/
theorem take_reaches (hcount : s.count ≤ limit) (hlimit : 1 ≤ limit)
    (h : limit = 1 ∨ s.count = 0) : (s.take limit sample).mean = sample := by
  have hone : (s.take limit sample).count = 1 := by
    rw [take_count]
    split <;> omega
  rw [take_mean, hone]
  simp

/-- From the second sample on a mean that is not there does not get there. -/
theorem take_short (hcount : 1 ≤ s.count) (hlimit : 2 ≤ limit) (hle : s.count ≤ limit)
    (hne : s.mean ≠ sample) : (s.take limit sample).mean ≠ sample := by
  have htwo : (2 : Int) ≤ (s.take limit sample).count := by
    have hcount' : 2 ≤ (s.take limit sample).count := by
      rw [take_count]
      split <;> omega
    exact_mod_cast hcount'
  rw [take_mean]
  generalize ((s.take limit sample).count : Int) = count at htwo ⊢
  intro hthere
  -- The step would be the whole distance, which no count of two or more leaves of it.
  have hwhole : (sample - s.mean).tdiv count = sample - s.mean := by omega
  rcases Int.le_total 0 (sample - s.mean) with hahead | hbehind
  · obtain ⟨-, hle, -⟩ := @tdiv_bounds_nonneg count (sample - s.mean) (by omega) hahead
    rw [hwhole] at hle
    exact hne (by nlinarith)
  · obtain ⟨-, hle, -⟩ := @tdiv_bounds_nonpos count (sample - s.mean) (by omega) hbehind
    rw [hwhole] at hle
    exact hne (by nlinarith)

/-- However often it is fed the sample. -/
theorem feed_short (hcount : 1 ≤ s.count) (hlimit : 2 ≤ limit) (hle : s.count ≤ limit)
    (hne : s.mean ≠ sample) (k : Nat) : ((take limit sample)^[k] s).mean ≠ sample := by
  induction k generalizing s with
  | zero => exact hne
  | succ k ih =>
    rw [Function.iterate_succ_apply]
    exact ih (take_count_pos (by omega)) (take_count_le hle) (take_short hcount hlimit hle hne)

/-- **When a steady sample is reached**: by a mean of one, by the first sample, or by a mean
    that is there. -/
theorem reaches_iff (hlimit : 1 ≤ limit) (hle : s.count ≤ limit) :
    (∃ k, ((take limit sample)^[k] s).mean = sample) ↔
      limit = 1 ∨ s.count = 0 ∨ s.mean = sample := by
  constructor
  · rintro ⟨k, hreached⟩
    by_contra hnot
    rw [not_or, not_or] at hnot
    exact feed_short (by omega) (by omega) hle hnot.2.2 k hreached
  · rintro (hone | hfirst | hthere)
    · exact ⟨1, take_reaches hle hlimit (.inl hone)⟩
    · exact ⟨1, take_reaches hle hlimit (.inr hfirst)⟩
    · exact ⟨0, hthere⟩

end RunningMean

end Lib
end EspPtp
