import Mathlib.Data.Fintype.Card

/-!
# Tables of distinct keys

Slots, each empty or holding a key, no key in two of them. What a program does to such a
table is seat a key and empty slots, and the question is whether there is room: there is,
for every key of a list no longer than the table, as long as only keys of the list are
seated.

Keys stay where they are: `seat` of a key that has a slot is a rewriting of that slot.
-/

namespace EspPtp
namespace Lib

universe u v

namespace Table

variable {S : Type u} {K : Type v} {table : S → Option K}

/-- No key is in two slots. -/
def Distinct (table : S → Option K) : Prop :=
  ∀ s t k, table s = some k → table t = some k → s = t

/-- Every key is one of these. -/
def Within (table : S → Option K) (keys : List K) : Prop := ∀ s k, table s = some k → k ∈ keys

/-- The keys that have a slot. -/
def Holds (table : S → Option K) (k : K) : Prop := ∃ s, table s = some k

theorem Distinct.emptied (h : Distinct table) {table' : S → Option K}
    (hsub : ∀ s k, table' s = some k → table s = some k) : Distinct table' := by
  intro s t k hs ht
  exact h s t k (hsub s k hs) (hsub t k ht)

section Seat

variable {slot : S} {key : K}

/-- A key is seated in its own slot, or in an empty one while it has none. -/
def Seats (table : S → Option K) (slot : S) (key : K) : Prop :=
  table slot = some key ∨ (table slot = none ∧ ¬ Holds table key)

theorem Seats.slot_eq (h : Distinct table) (hseats : Seats table slot key) {s : S}
    (hs : table s = some key) : s = slot := by
  rcases hseats with hown | ⟨-, hnowhere⟩
  · exact h s slot key hs hown
  · exact absurd ⟨s, hs⟩ hnowhere

variable [DecidableEq S]

theorem Seats.distinct (h : Distinct table) (hseats : Seats table slot key) :
    Distinct (Function.update table slot (some key)) := by
  have hother : ∀ s k, Function.update table slot (some key) s = some k →
      (s = slot ∧ k = key) ∨ (s ≠ slot ∧ table s = some k) := by
    intro s k hs
    by_cases heq : s = slot
    · subst heq
      rw [Function.update_self] at hs
      exact .inl ⟨rfl, (Option.some.inj hs).symm⟩
    · rw [Function.update_of_ne heq] at hs
      exact .inr ⟨heq, hs⟩
  intro s t k hs ht
  rcases hother s k hs with ⟨rfl, rfl⟩ | ⟨-, hold⟩ <;>
    rcases hother t k ht with ⟨rfl, hk⟩ | ⟨-, hold'⟩
  · rfl
  · exact (hseats.slot_eq h hold').symm
  · subst hk
    exact hseats.slot_eq h hold
  · exact h s t k hold hold'

/-- Nobody else is moved or put out. -/
theorem Seats.stays (hseats : Seats table slot key) {s : S} {k : K}
    (hs : table s = some k) : Function.update table slot (some key) s = some k := by
  by_cases heq : s = slot
  · subst heq
    rw [Function.update_self]
    rcases hseats with hown | ⟨hempty, -⟩
    · exact hown.symm.trans hs
    · rw [hempty] at hs
      cases hs
  · rw [Function.update_of_ne heq]
    exact hs

end Seat

/-- **There is room** for every key of the list. -/
theorem exists_free [Fintype S] [DecidableEq K] (h : Distinct table) {keys : List K}
    (hwithin : Within table keys) (hlength : keys.length ≤ Fintype.card S) {key : K}
    (hkey : key ∈ keys) (hnowhere : ¬ Holds table key) : ∃ s, table s = none := by
  by_contra hfull
  have hsome : ∀ s, ∃ k, table s = some k := by
    intro s
    cases hs : table s with
    | none => exact absurd ⟨s, hs⟩ hfull
    | some k => exact ⟨k, rfl⟩
  choose f hf using hsome
  have hinjective : Function.Injective f := by
    intro s t hst
    exact h s t (f s) (hf s) (hst ▸ hf t)
  -- All slots hold keys of the list, and none of them is this one.
  have hmaps : ∀ s ∈ Finset.univ, f s ∈ keys.toFinset.erase key := by
    intro s _
    rw [Finset.mem_erase, List.mem_toFinset]
    exact ⟨fun heq => hnowhere ⟨s, heq ▸ hf s⟩, hwithin s (f s) (hf s)⟩
  have hcard := Finset.card_le_card_of_injOn f hmaps hinjective.injOn
  have herase := Finset.card_erase_lt_of_mem (List.mem_toFinset.mpr hkey)
  have hlist := keys.toFinset_card_le
  rw [Finset.card_univ] at hcard
  omega

end Table

end Lib
end EspPtp
