import Mathlib.Algebra.BigOperators.Group.Finset.Piecewise
import Mathlib.Algebra.BigOperators.Group.List.Basic
import Mathlib.Data.Fintype.Basic
import Mathlib.Data.List.Induction
import Mathlib.Data.Nat.ModEq

/-!
# A ring of buckets

A sliding window over the last `n` seconds in `n` buckets. The bucket of a second is its
remainder, and holds what was recorded in one second only: the first record of another
second clears it. Buckets are never cleared for time alone, so a reader leaves out those
whose second has left the window.

What is recorded may be anything that adds up. **Records that come in the order of time are
all there, and no others**: `total_eq` says that the ring's total is the sum over the list
of what was recorded, as far as it is in the window.
-/

namespace EspPtp
namespace Lib

universe u

/-- What was recorded in one second. -/
structure Bucket (M : Type u) where
  second : ℕ
  total : M

namespace BucketRing

variable {M : Type u} [AddCommMonoid M] {n : ℕ} [NeZero n]

/-- The bucket of a second. -/
def slot (n : ℕ) [NeZero n] (second : ℕ) : Fin n := Fin.ofNat n second

/-- Second `s` is among the last `n` at `now`. -/
def InWindow (n now s : ℕ) : Prop := s ≤ now ∧ now < s + n

instance (n now s : ℕ) : Decidable (InWindow n now s) := inferInstanceAs (Decidable (_ ∧ _))

/-- Nothing recorded. -/
def empty : Fin n → Bucket M := fun _ => ⟨0, 0⟩

/-- One record: its second and its amount. -/
def record (ring : Fin n → Bucket M) (r : ℕ × M) : Fin n → Bucket M := fun k =>
  if k = slot n r.1 then
    ⟨r.1, if (ring k).second = r.1 then (ring k).total + r.2 else r.2⟩
  else ring k

/-- The ring with the bucket of this second cleared, if it held another one. -/
def claim (ring : Fin n → Bucket M) (second : ℕ) : Fin n → Bucket M := fun k =>
  if k = slot n second ∧ (ring k).second ≠ second then ⟨second, 0⟩ else ring k

theorem claim_second {ring : Fin n → Bucket M} {second : ℕ} {k : Fin n} (h : k = slot n second) :
    (claim ring second k).second = second := by
  unfold claim
  by_cases hsame : (ring k).second = second
  · rw [if_neg (fun hother => hother.2 hsame)]
    exact hsame
  · rw [if_pos ⟨h, hsame⟩]

/-- A record claims the bucket and adds to it. -/
theorem record_eq (ring : Fin n → Bucket M) (r : ℕ × M) (k : Fin n) :
    record ring r k =
      if k = slot n r.1 then ⟨r.1, (claim ring r.1 k).total + r.2⟩ else claim ring r.1 k := by
  unfold record claim
  by_cases hslot : k = slot n r.1
  · rw [if_pos hslot, if_pos hslot]
    by_cases hsame : (ring k).second = r.1
    · rw [if_pos hsame, if_neg (fun h => h.2 hsame)]
    · rw [if_neg hsame, if_pos ⟨hslot, hsame⟩, zero_add]
  · rw [if_neg hslot, if_neg hslot, if_neg (fun h => hslot h.1)]

/-- What the ring holds of the window. -/
def total (ring : Fin n → Bucket M) (now : ℕ) : M :=
  ∑ k, if InWindow n now (ring k).second then (ring k).total else 0

/-! ## Sums over the records -/

/-- What was recorded in seconds with a property. -/
def sumOf (p : ℕ → Prop) [DecidablePred p] (records : List (ℕ × M)) : M :=
  ((records.filter fun r => p r.1).map Prod.snd).sum

section SumOf

variable {p q : ℕ → Prop} [DecidablePred p] [DecidablePred q] {records : List (ℕ × M)}

omit [NeZero n] in
theorem sumOf_snoc (p : ℕ → Prop) [DecidablePred p] (records : List (ℕ × M)) (r : ℕ × M) :
    sumOf p (records ++ [r]) = sumOf p records + if p r.1 then r.2 else 0 := by
  unfold sumOf
  rw [List.filter_append, List.map_append, List.sum_append]
  by_cases hr : p r.1 <;> simp [hr]

theorem sumOf_congr (h : ∀ r ∈ records, p r.1 ↔ q r.1) : sumOf p records = sumOf q records := by
  unfold sumOf
  rw [List.filter_congr fun r hr => decide_eq_decide.mpr (h r hr)]

theorem sumOf_eq_zero (h : ∀ r ∈ records, ¬ p r.1) : sumOf p records = 0 := by
  unfold sumOf
  rw [List.filter_eq_nil_iff.mpr (by simpa using h)]
  rfl

/-- The buckets share the records out. -/
theorem sum_sumOf_slot (n : ℕ) [NeZero n] (p : ℕ → Prop) [DecidablePred p]
    (records : List (ℕ × M)) :
    ∑ k : Fin n, sumOf (fun s => p s ∧ slot n s = k) records = sumOf p records := by
  induction records using List.reverseRecOn with
  | nil => exact Finset.sum_const_zero
  | append_singleton records r ih =>
    simp only [sumOf_snoc, Finset.sum_add_distrib, ih]
    congr 1
    by_cases hr : p r.1 <;> simp [hr]

end SumOf

/-! ## What the ring holds -/

/-- Each bucket holds the records of its own second, and that is the newest of its slot. -/
structure Holds (records : List (ℕ × M)) (ring : Fin n → Bucket M) : Prop where
  total : ∀ k, (ring k).total =
    sumOf (fun s => s = (ring k).second ∧ slot n s = k) records
  newest : ∀ r ∈ records, r.1 ≤ (ring (slot n r.1)).second
  attained : ∀ k, (ring k).second = 0 ∨
    ∃ r ∈ records, r.1 = (ring k).second ∧ slot n r.1 = k

theorem Holds.empty : Holds (n := n) [] (empty : Fin n → Bucket M) where
  total _ := rfl
  newest _ hr := by cases hr
  attained _ := Or.inl rfl

variable {records : List (ℕ × M)} {ring : Fin n → Bucket M}

/-- No bucket is ahead of time. -/
theorem Holds.second_le (h : Holds records ring) {now : ℕ} (hlast : ∀ r ∈ records, r.1 ≤ now)
    (k : Fin n) : (ring k).second ≤ now := by
  rcases h.attained k with hzero | ⟨r, hr, hsecond, -⟩
  · omega
  · rw [← hsecond]
    exact hlast r hr

/-- A claimed bucket holds the records of its second. -/
theorem Holds.claimed (h : Holds records ring) {second : ℕ}
    (hlast : ∀ x ∈ records, x.1 ≤ second) :
    (claim ring second (slot n second)).total = sumOf (fun s => s = second) records := by
  unfold claim
  by_cases hsame : (ring (slot n second)).second = second
  · rw [if_neg (fun hother => hother.2 hsame), h.total, hsame]
    apply sumOf_congr
    intro x _
    exact ⟨And.left, fun hx => ⟨hx, congrArg (slot n) hx⟩⟩
  · rw [if_pos ⟨rfl, hsame⟩]
    -- A record of this second would have made it the bucket's.
    symm
    apply sumOf_eq_zero
    intro x hx hsecond
    have hnewest := h.newest x hx
    rw [hsecond] at hnewest
    have := h.second_le hlast (slot n second)
    omega

theorem Holds.record (h : Holds records ring) {r : ℕ × M} (hlast : ∀ x ∈ records, x.1 ≤ r.1) :
    Holds (records ++ [r]) (record ring r) where
  total k := by
    by_cases hslot : k = slot n r.1
    · rw [record_eq, if_pos hslot, hslot, h.claimed hlast, sumOf_snoc, if_pos ⟨rfl, rfl⟩]
      refine congrArg (· + r.2) (sumOf_congr fun x _ => ?_)
      exact ⟨fun hx => ⟨hx, congrArg (slot n) hx⟩, And.left⟩
    · unfold BucketRing.record
      rw [if_neg hslot, sumOf_snoc, if_neg (fun hr => hslot hr.2.symm), add_zero]
      exact h.total k
  newest x hx := by
    unfold BucketRing.record
    rcases List.mem_append.mp hx with hx | hx
    · by_cases hslot : slot n x.1 = slot n r.1
      · rw [if_pos hslot]
        exact hlast x hx
      · rw [if_neg hslot]
        exact h.newest x hx
    · rw [List.mem_singleton.mp hx, if_pos rfl]
  attained k := by
    unfold BucketRing.record
    by_cases hslot : k = slot n r.1
    · rw [if_pos hslot]
      exact Or.inr ⟨r, by simp, rfl, hslot.symm⟩
    · rw [if_neg hslot]
      rcases h.attained k with hzero | ⟨x, hx, hsecond⟩
      · exact Or.inl hzero
      · exact Or.inr ⟨x, List.mem_append_left _ hx, hsecond⟩

/-- Two seconds of one bucket that are less than a round apart are the same. -/
theorem eq_of_slot {s t : ℕ} (hslot : slot n s = slot n t) (hle : s ≤ t) (hround : t < s + n) :
    s = t := by
  have hmod : s % n = t % n := congrArg Fin.val hslot
  have hdvd : n ∣ t - s := (Nat.modEq_iff_dvd' hle).mp hmod
  have hzero : t - s = 0 := Nat.eq_zero_of_dvd_of_lt hdvd (by omega)
  omega

/-- **The ring's total is that of the records in the window.** -/
theorem Holds.total_eq (h : Holds records ring) {now : ℕ} (hlast : ∀ r ∈ records, r.1 ≤ now) :
    BucketRing.total ring now = sumOf (InWindow n now) records := by
  rw [← sum_sumOf_slot n (InWindow n now) records]
  unfold BucketRing.total
  apply Finset.sum_congr rfl
  intro k _
  by_cases hin : InWindow n now (ring k).second
  · rw [if_pos hin, h.total k]
    apply sumOf_congr
    intro r hr
    constructor
    · rintro ⟨hsecond, hk⟩
      exact ⟨hsecond ▸ hin, hk⟩
    · rintro ⟨hwindow, hk⟩
      refine ⟨?_, hk⟩
      have hnewest := h.newest r hr
      rw [hk] at hnewest
      rcases h.attained k with hzero | ⟨x, -, hsecond, hx⟩
      · omega
      · rw [← hsecond] at hnewest ⊢
        refine eq_of_slot (hk.trans hx.symm) hnewest ?_
        exact lt_of_le_of_lt (hsecond ▸ hin.1) hwindow.2
  · -- The bucket's second has left the window, and with it all of the slot's records.
    rw [if_neg hin]
    symm
    apply sumOf_eq_zero
    rintro r hr ⟨hwindow, hk⟩
    have hnewest := h.newest r hr
    rw [hk] at hnewest
    have hsecond := h.second_le hlast k
    have := hwindow.2
    exact hin ⟨hsecond, by omega⟩

end BucketRing
end Lib
end EspPtp
