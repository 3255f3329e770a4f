import Mathlib.Logic.Function.Basic
import Mathlib.Logic.Relation
import Mathlib.Data.Nat.Basic

/-!
# Registries of numbered lifetimes

A table of slots in which keys come and go. Every key that enters is given the next number
of one counter, every departure advances the counter too, and the counter never goes back:
so a number names **one stay** of one key in one slot, and whoever kept a number can tell
by it whether that stay is still going on.

That is `Reaches.sameLifetime` below. The reason is `Reaches.inherited`: a number not above
the counter of an earlier state can only be in the table because it was there then — old
numbers are inherited, never given.
-/

namespace EspPtp
namespace Lib

universe u v

/-- Slots, each empty or holding a key under the number of its lifetime, and the counter. -/
structure Registry (S : Type u) (K : Type v) where
  table : S → Option (K × Nat)
  gen : Nat

namespace Registry

variable {S : Type u} {K : Type v} [DecidableEq S] {r r' r'' : Registry S K}

/-- One advance of the counter. -/
inductive Step : Registry S K → Registry S K → Prop
  /-- A key enters a slot under a new number. It is in no other slot. -/
  | grant {r : Registry S K} (s : S) (k : K)
      (hfree : ∀ t a, r.table t = some (k, a) → t = s) :
      Step r ⟨Function.update r.table s (some (k, r.gen + 1)), r.gen + 1⟩
  /-- Slots are emptied. -/
  | retire {r : Registry S K} (keep : S → Bool) :
      Step r ⟨fun s => if keep s then r.table s else none, r.gen + 1⟩

/-- Any number of advances. -/
abbrev Reaches : Registry S K → Registry S K → Prop := Relation.ReflTransGen Step

/-- Keys and numbers are distinct, and the numbers are those the counter has passed. -/
structure WellNumbered (r : Registry S K) : Prop where
  number_pos : ∀ s k a, r.table s = some (k, a) → 0 < a
  number_le : ∀ s k a, r.table s = some (k, a) → a ≤ r.gen
  key_inj : ∀ s t k a b, r.table s = some (k, a) → r.table t = some (k, b) → s = t
  number_inj : ∀ s t k l a, r.table s = some (k, a) → r.table t = some (l, a) → s = t

omit [DecidableEq S] in
theorem wellNumbered_empty : WellNumbered (⟨fun _ => none, 0⟩ : Registry S K) := by
  constructor <;> simp

/-- What a slot holds after an advance is what it held, or a key under the new number. -/
theorem Step.slot (h : Step r r') {s : S} {k : K} {a : Nat} (hs : r'.table s = some (k, a)) :
    r.table s = some (k, a) ∨ a = r.gen + 1 := by
  cases h with
  | grant t l _ =>
    by_cases hst : s = t
    · subst hst
      simp only [Function.update_self, Option.some.injEq, Prod.mk.injEq] at hs
      exact Or.inr hs.2.symm
    · simp only [Function.update_of_ne hst] at hs
      exact Or.inl hs
  | retire keep =>
    simp only [Option.ite_none_right_eq_some] at hs
    exact Or.inl hs.2

theorem Step.gen (h : Step r r') : r'.gen = r.gen + 1 := by
  cases h <;> rfl

theorem Step.wellNumbered (hr : r.WellNumbered) (h : Step r r') : r'.WellNumbered := by
  cases h with
  | grant s k hfree =>
    -- The old numbers stay below the new one, and the key was nowhere else.
    have hold {t : S} {l : K} {b : Nat}
        (ht : Function.update r.table s (some (k, r.gen + 1)) t = some (l, b)) :
        (t = s ∧ l = k ∧ b = r.gen + 1) ∨ (t ≠ s ∧ r.table t = some (l, b)) := by
      by_cases hts : t = s
      · subst hts
        simp only [Function.update_self, Option.some.injEq, Prod.mk.injEq] at ht
        exact Or.inl ⟨rfl, ht.1.symm, ht.2.symm⟩
      · rw [Function.update_of_ne hts] at ht
        exact Or.inr ⟨hts, ht⟩
    constructor
    · intro t l b ht
      rcases hold ht with ⟨-, -, rfl⟩ | ⟨-, ht⟩
      · exact Nat.succ_pos _
      · exact hr.number_pos _ _ _ ht
    · intro t l b ht
      rcases hold ht with ⟨-, -, rfl⟩ | ⟨-, ht⟩
      · exact Nat.le_refl _
      · exact Nat.le_succ_of_le (hr.number_le _ _ _ ht)
    · intro t t' l b b' ht ht'
      rcases hold ht with ⟨rfl, rfl, rfl⟩ | ⟨hne, hb⟩ <;>
        rcases hold ht' with ⟨rfl, hl, rfl⟩ | ⟨hne', hb'⟩
      · rfl
      · exact (hfree _ _ hb').symm
      · subst hl
        exact hfree _ _ hb
      · exact hr.key_inj _ _ _ _ _ hb hb'
    · intro t t' l l' b ht ht'
      rcases hold ht with ⟨rfl, rfl, rfl⟩ | ⟨hne, hb⟩ <;>
        rcases hold ht' with ⟨rfl, hl, hnew⟩ | ⟨hne', hb'⟩
      · rfl
      · have := hr.number_le _ _ _ hb'
        omega
      · have := hr.number_le _ _ _ hb
        omega
      · exact hr.number_inj _ _ _ _ _ hb hb'
  | retire keep =>
    have hold {t : S} {l : K} {b : Nat}
        (ht : (if keep t then r.table t else none) = some (l, b)) : r.table t = some (l, b) := by
      simp only [Option.ite_none_right_eq_some] at ht
      exact ht.2
    exact {
      number_pos := fun _ _ _ ht => hr.number_pos _ _ _ (hold ht)
      number_le := fun _ _ _ ht => Nat.le_succ_of_le (hr.number_le _ _ _ (hold ht))
      key_inj := fun _ _ _ _ _ ht ht' => hr.key_inj _ _ _ _ _ (hold ht) (hold ht')
      number_inj := fun _ _ _ _ _ ht ht' => hr.number_inj _ _ _ _ _ (hold ht) (hold ht') }

theorem Reaches.wellNumbered (hr : r.WellNumbered) (h : Reaches r r') : r'.WellNumbered := by
  induction h with
  | refl => exact hr
  | tail _ hstep ih => exact hstep.wellNumbered ih

theorem Reaches.gen_le (h : Reaches r r') : r.gen ≤ r'.gen := by
  induction h with
  | refl => exact Nat.le_refl _
  | tail _ hstep ih => rw [hstep.gen]; exact Nat.le_succ_of_le ih

/-- The counter shows every change. -/
theorem Reaches.eq_of_gen (h : Reaches r r') (hgen : r'.gen = r.gen) : r' = r := by
  cases h with
  | refl => rfl
  | tail hreach hstep =>
    have hle := Reaches.gen_le hreach
    have hsucc := hstep.gen
    omega

/-- **Old numbers are inherited.** -/
theorem Reaches.inherited (h : Reaches r r') {s : S} {k : K} {a : Nat}
    (hs : r'.table s = some (k, a)) (ha : a ≤ r.gen) : r.table s = some (k, a) := by
  induction h with
  | refl => exact hs
  | tail hreach hstep ih =>
    rcases hstep.slot hs with hold | hnew
    · exact ih hold
    · have hle := Reaches.gen_le hreach
      omega

/-- **A number names one lifetime.** What is in the table under a number that was there
    before is the same key in the same slot, and has been there all along. -/
theorem Reaches.sameLifetime (hr : r.WellNumbered) (h : Reaches r r') (h' : Reaches r' r'')
    {s t : S} {k l : K} {a : Nat} (hs : r.table s = some (k, a))
    (ht : r''.table t = some (l, a)) : t = s ∧ l = k ∧ r'.table s = some (k, a) := by
  have hle : a ≤ r.gen := hr.number_le _ _ _ hs
  have hmid : r'.table t = some (l, a) := h'.inherited ht (Nat.le_trans hle h.gen_le)
  have hfirst : r.table t = some (l, a) := h.inherited hmid hle
  have hslot : t = s := hr.number_inj _ _ _ _ _ hfirst hs
  subst hslot
  rw [hfirst] at hs
  cases hs
  exact ⟨rfl, rfl, hmid⟩

end Registry

end Lib
end EspPtp
