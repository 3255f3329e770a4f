import Mathlib.Data.List.Basic
import Mathlib.Data.List.Induction

/-!
# Latches and runs

Two ways to not trust a single reading. A *latch* is set by a good reading and only a bad one
clears it; what is in between leaves it as it is. A *run* counts the readings of a kind since
the last one of another.

What either of them knows of the readings so far is a statement about the list of them, and is
kept reading by reading.
-/

namespace EspPtp
namespace Lib

universe u

variable {α : Type u} {xs : List α}

/-! ## Latches -/

section Latch

variable (enter leave : α → Prop)

/-- Some reading sets the latch, and none after it clears it. -/
def Latched (xs : List α) : Prop :=
  ∃ front x back, xs = front ++ x :: back ∧ enter x ∧ ∀ y ∈ back, ¬ leave y

variable {enter leave}

theorem not_latched_nil : ¬ Latched enter leave [] := by
  rintro ⟨front, x, back, h, -⟩
  simp at h

/-- One more reading. -/
theorem latched_snoc {x : α} : Latched enter leave (xs ++ [x]) ↔
    enter x ∨ (Latched enter leave xs ∧ ¬ leave x) := by
  constructor
  · rintro ⟨front, y, back, heq, hset, hback⟩
    rcases List.eq_nil_or_concat back with rfl | ⟨back, z, rfl⟩
    · obtain ⟨-, hlast⟩ := List.append_inj' heq rfl
      exact .inl ((List.cons.inj hlast).1 ▸ hset)
    · rw [List.concat_eq_append] at heq hback
      have hsplit : xs ++ [x] = (front ++ y :: back) ++ [z] := by simpa using heq
      obtain ⟨hfront, hlast⟩ := List.append_inj' hsplit rfl
      have hlast := (List.cons.inj hlast).1
      refine .inr ⟨⟨front, y, back, hfront, hset, fun w hw => hback w (by simp [hw])⟩, ?_⟩
      rw [hlast]
      exact hback z (by simp)
  · rintro (hset | ⟨⟨front, y, back, rfl, hset, hback⟩, hkept⟩)
    · exact ⟨xs, x, [], rfl, hset, fun _ hy => absurd hy List.not_mem_nil⟩
    · refine ⟨front, y, back ++ [x], by simp, hset, fun z hz => ?_⟩
      rcases List.mem_append.mp hz with hz | hz
      · exact hback z hz
      · rw [List.mem_singleton.mp hz]
        exact hkept

/-- A latch that is set has seen a good reading. -/
theorem Latched.exists_enter (h : Latched enter leave xs) : ∃ x ∈ xs, enter x := by
  obtain ⟨front, x, back, rfl, hset, -⟩ := h
  exact ⟨x, by simp, hset⟩

/-- The last reading of a latch that is set is not a bad one, if a good one is none. -/
theorem Latched.last (h : Latched enter leave (xs ++ [x])) (hdisjoint : enter x → ¬ leave x) :
    ¬ leave x := by
  rcases latched_snoc.mp h with hset | ⟨-, hkept⟩
  · exact hdisjoint hset
  · exact hkept

end Latch

/-! ## Runs -/

/-- So many readings at the end are of the kind. -/
def Trailing (kind : α → Prop) (count : Nat) (xs : List α) : Prop :=
  ∃ front back, xs = front ++ back ∧ back.length = count ∧ ∀ x ∈ back, kind x

variable {kind : α → Prop} {count : Nat}

theorem trailing_zero (xs : List α) : Trailing kind 0 xs :=
  ⟨xs, [], (List.append_nil xs).symm, rfl, fun _ hx => absurd hx List.not_mem_nil⟩

theorem trailing_nil : Trailing kind count [] ↔ count = 0 := by
  constructor
  · rintro ⟨front, back, heq, rfl, -⟩
    obtain ⟨-, rfl⟩ := List.append_eq_nil_iff.mp heq.symm
    rfl
  · rintro rfl
    exact trailing_zero []

/-- One more reading. -/
theorem trailing_succ_snoc {x : α} :
    Trailing kind (count + 1) (xs ++ [x]) ↔ Trailing kind count xs ∧ kind x := by
  constructor
  · rintro ⟨front, back, heq, hlength, hback⟩
    rcases List.eq_nil_or_concat back with rfl | ⟨back, y, rfl⟩
    · cases hlength
    · rw [List.concat_eq_append] at heq hlength hback
      have hsplit : xs ++ [x] = (front ++ back) ++ [y] := by simpa using heq
      obtain ⟨hfront, hlast⟩ := List.append_inj' hsplit rfl
      refine ⟨⟨front, back, hfront, by simpa using hlength, fun z hz => hback z (by simp [hz])⟩, ?_⟩
      rw [(List.cons.inj hlast).1]
      exact hback y (by simp)
  · rintro ⟨⟨front, back, rfl, hlength, hback⟩, hx⟩
    refine ⟨front, back ++ [x], by simp, by simp [hlength], fun y hy => ?_⟩
    rcases List.mem_append.mp hy with hy | hy
    · exact hback y hy
    · rw [List.mem_singleton.mp hy]
      exact hx

end Lib
end EspPtp
