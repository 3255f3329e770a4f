import Mathlib.Data.List.Iterate
import Mathlib.Data.List.Nodup

/-!
# Generation counters that skip zero

A 32-bit counter that names lifetimes and keeps zero for "none": one past the maximum
is one, not zero. As long as it has moved fewer than `2 ^ 32 - 1` times from zero it
simply counts — `nextNonzero_toNat` — and that is what makes a generation number
*identify* the event that produced it.
-/

namespace EspPtp
namespace Lib

/-- The next value of a counter that never takes the value zero again. -/
def nextNonzero (n : UInt32) : UInt32 := if n + 1 = 0 then 1 else n + 1

theorem nextNonzero_ne_zero (n : UInt32) : nextNonzero n ≠ 0 := by
  unfold nextNonzero
  split
  · decide
  · assumption

/-- It always moves. -/
theorem nextNonzero_ne (n : UInt32) : nextNonzero n ≠ n := by
  unfold nextNonzero
  split
  · rename_i hlast
    rintro rfl
    exact absurd hlast (by decide)
  · intro hsame
    have hone : (1 : UInt32) = 0 := by
      rw [← UInt32.add_right_inj n, hsame, UInt32.add_zero]
    exact absurd hone (by decide)

/-- Below its last value the counter counts. -/
theorem nextNonzero_toNat {n : UInt32} (h : n.toNat + 1 < 2 ^ 32) :
    (nextNonzero n).toNat = n.toNat + 1 := by
  have hadd : (n + 1).toNat = n.toNat + 1 := by
    rw [UInt32.toNat_add]
    exact Nat.mod_eq_of_lt h
  have hne : n + 1 ≠ 0 := by
    intro h0
    rw [h0] at hadd
    simp at hadd
  unfold nextNonzero
  rw [if_neg hne]
  exact hadd

/-- A plain counter counts modulo its size. -/
theorem toNat_add_one_mod {n : UInt32} {a : Nat} (h : n.toNat = a % 2 ^ 32) :
    (n + 1).toNat = (a + 1) % 2 ^ 32 := by
  have hone : (1 : UInt32).toNat = 1 := rfl
  rw [UInt32.toNat_add, h, hone]
  omega

/-- The value after `k` increments from zero. -/
def nthNonzero : Nat → UInt32
  | 0 => 0
  | k + 1 => nextNonzero (nthNonzero k)

theorem nthNonzero_succ_toNat (k : Nat) :
    (nthNonzero (k + 1)).toNat = k % (2 ^ 32 - 1) + 1 := by
  induction k with
  | zero => rfl
  | succ k ih =>
    by_cases hlast : k % (2 ^ 32 - 1) + 1 = 2 ^ 32 - 1
    · -- One past the last value is one.
      have hmax : nthNonzero (k + 1) = 0 - 1 := by
        apply UInt32.toNat_inj.mp
        rw [ih, hlast]
        rfl
      show (nextNonzero (nthNonzero (k + 1))).toNat = _
      rw [hmax]
      have hzero : (k + 1) % (2 ^ 32 - 1) = 0 := by omega
      rw [hzero]
      rfl
    · show (nextNonzero (nthNonzero (k + 1))).toNat = _
      rw [nextNonzero_toNat (by omega), ih]
      omega

/-- Within one round of the counter its values are distinct. -/
theorem nthNonzero_inj {j k : Nat} (hjk : j ≤ k) (hround : k < j + (2 ^ 32 - 1))
    (h : nthNonzero j = nthNonzero k) : j = k := by
  have hval := congrArg UInt32.toNat h
  cases j with
  | zero =>
    cases k with
    | zero => rfl
    | succ k =>
      rw [nthNonzero_succ_toNat] at hval
      exact absurd hval (Nat.succ_ne_zero _).symm
  | succ j =>
    cases k with
    | zero => exact absurd hjk (Nat.not_succ_le_zero j)
    | succ k =>
      rw [nthNonzero_succ_toNat, nthNonzero_succ_toNat] at hval
      omega

/-- Every value of the counter is one of these. -/
theorem nthNonzero_toNat (n : UInt32) : nthNonzero n.toNat = n := by
  have hlt := n.toNat_lt
  apply UInt32.toNat_inj.mp
  cases hn : n.toNat with
  | zero => rfl
  | succ k =>
    rw [nthNonzero_succ_toNat]
    omega

theorem iterate_nextNonzero (n : UInt32) (k : Nat) :
    nextNonzero^[k] n = nthNonzero (n.toNat + k) := by
  induction k with
  | zero => exact (nthNonzero_toNat n).symm
  | succ k ih =>
    rw [Function.iterate_succ_apply', ih]
    rfl

/-- Within one round it does not come back. -/
theorem iterate_nextNonzero_ne {n : UInt32} {k : Nat} (hk : k < 2 ^ 32 - 1)
    (h : nextNonzero^[k] n = n) : k = 0 := by
  rw [iterate_nextNonzero] at h
  have hsame := nthNonzero_inj (Nat.le_add_right n.toNat k) (by omega)
    ((nthNonzero_toNat n).trans h.symm)
  omega

theorem iterate_nextNonzero_toNat {n : UInt32} {k : Nat} (h : n.toNat + k < 2 ^ 32) :
    (nextNonzero^[k] n).toNat = n.toNat + k := by
  induction k with
  | zero => rfl
  | succ k ih =>
    have hk := ih (by omega)
    rw [Function.iterate_succ_apply', nextNonzero_toNat (by omega), hk, Nat.add_assoc]

/-- Fewer values in a row than the counter has are distinct. -/
theorem nodup_iterate_nextNonzero (n : UInt32) {length : Nat} (h : length < 2 ^ 32) :
    (List.iterate nextNonzero n length).Nodup := by
  rw [← List.range_map_iterate]
  refine List.Nodup.map_on ?_ List.nodup_range
  intro i hi j hj hij
  rw [List.mem_range] at hi hj
  rw [iterate_nextNonzero, iterate_nextNonzero] at hij
  rcases Nat.le_total i j with hle | hle
  · have hsame := nthNonzero_inj (by omega) (by omega) hij
    omega
  · have hsame := nthNonzero_inj (by omega) (by omega) hij.symm
    omega

end Lib
end EspPtp
