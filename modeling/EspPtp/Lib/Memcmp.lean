import Mathlib.Data.List.Lex
import Mathlib.Data.Prod.Lex
import Mathlib.Order.Compare

/-!
# Comparing bytes

`memcmp` of equally long byte strings, and that it is an order: the lexicographic one of
the bytes as numbers.
-/

namespace EspPtp
namespace Lib

/-- The sign of C's `memcmp`: the first pair of different bytes decides. -/
def memcmp : List UInt8 → List UInt8 → Ordering
  | a :: as, b :: bs => if a < b then .lt else if b < a then .gt else memcmp as bs
  | _, _ => .eq

/-- The bytes as numbers. -/
def byteKey (bytes : List UInt8) : List ℕ := bytes.map UInt8.toNat

theorem byteKey_inj {a b : List UInt8} (h : byteKey a = byteKey b) : a = b :=
  List.map_injective_iff.mpr (fun _ _ => UInt8.toNat_inj.mp) h

theorem memcmp_lt {a b : List UInt8} (hlen : a.length = b.length) :
    memcmp a b = .lt ↔ byteKey a < byteKey b := by
  induction a generalizing b with
  | nil =>
    cases b with
    | nil => simp [memcmp, byteKey]
    | cons b bs => cases hlen
  | cons a as ih =>
    cases b with
    | nil => cases hlen
    | cons b bs =>
      have htail := ih (Nat.succ.inj hlen)
      simp only [byteKey] at htail
      simp only [memcmp, byteKey, List.map_cons, List.cons_lt_cons_iff]
      by_cases hlt : a < b
      · simp [hlt, UInt8.lt_iff_toNat_lt.mp hlt]
      · by_cases hgt : b < a
        · have hnum := UInt8.lt_iff_toNat_lt.mp hgt
          rw [if_neg hlt, if_pos hgt]
          constructor
          · intro h
            cases h
          · rintro (h | ⟨h, -⟩) <;> omega
        · have heq : a.toNat = b.toNat := by
            rw [UInt8.lt_iff_toNat_lt] at hlt hgt
            omega
          rw [if_neg hlt, if_neg hgt, htail, heq]
          simp

theorem memcmp_eq {a b : List UInt8} (hlen : a.length = b.length) :
    memcmp a b = .eq ↔ a = b := by
  induction a generalizing b with
  | nil =>
    cases b with
    | nil => simp [memcmp]
    | cons b bs => cases hlen
  | cons a as ih =>
    cases b with
    | nil => cases hlen
    | cons b bs =>
      have htail := ih (Nat.succ.inj hlen)
      simp only [memcmp, List.cons.injEq]
      by_cases hlt : a < b
      · rw [if_pos hlt]
        constructor
        · intro h
          cases h
        · rintro ⟨rfl, -⟩
          exact absurd hlt (UInt8.lt_irrefl a)
      · by_cases hgt : b < a
        · rw [if_neg hlt, if_pos hgt]
          constructor
          · intro h
            cases h
          · rintro ⟨rfl, -⟩
            exact absurd hgt (UInt8.lt_irrefl a)
        · have heq : a = b := by
            apply UInt8.toNat_inj.mp
            rw [UInt8.lt_iff_toNat_lt] at hlt hgt
            omega
          rw [if_neg hlt, if_neg hgt, htail]
          simp [heq]

end Lib
end EspPtp
