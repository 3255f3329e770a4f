import EspPtp.Lib.BigEndian
import Mathlib.Data.Nat.Digits.Lemmas

/-!
# Bytes, the least significant first

C code takes a little-endian number apart with shifts and truncations and puts it together
with shifts and ors. Here both are the digits of a number in base 256.

Nothing here names a particular program.
-/

namespace EspPtp
namespace Lib

/-- The number some bytes spell, the least significant first. -/
def leNat (bytes : List UInt8) : Nat := Nat.ofDigits 256 (bytes.map UInt8.toNat)

/-- A number in so many bytes, the least significant first. -/
def leBytes : Nat → Nat → List UInt8
  | 0, _ => []
  | count + 1, x => UInt8.ofNat x :: leBytes count (x / 256)

@[simp] theorem leBytes_length (count x : Nat) : (leBytes count x).length = count := by
  induction count generalizing x with
  | zero => rfl
  | succ count ih => simp [leBytes, ih]

theorem leNat_cons (byte : UInt8) (bytes : List UInt8) :
    leNat (byte :: bytes) = byte.toNat + 256 * leNat bytes := by
  simp [leNat, Nat.ofDigits_cons]

theorem leNat_append (as bs : List UInt8) :
    leNat (as ++ bs) = leNat as + 256 ^ as.length * leNat bs := by
  simp [leNat, Nat.ofDigits_append]

theorem leNat_lt (bytes : List UInt8) : leNat bytes < 256 ^ bytes.length := by
  have hlt := Nat.ofDigits_lt_base_pow_length (b := 256) (l := bytes.map UInt8.toNat)
    (by decide) (by
      intro digit hdigit
      obtain ⟨byte, -, rfl⟩ := List.mem_map.mp hdigit
      exact byte.toNat_lt)
  simpa [leNat] using hlt

/-- A number that fits is spelt by its bytes. -/
theorem leNat_leBytes {count x : Nat} (h : x < 256 ^ count) : leNat (leBytes count x) = x := by
  induction count generalizing x with
  | zero =>
    have hzero : x = 0 := by simpa using h
    rw [hzero]
    rfl
  | succ count ih =>
    rw [Nat.pow_succ] at h
    have hlow : (UInt8.ofNat x).toNat = x % 256 := UInt8.toNat_ofNat'
    rw [leBytes, leNat_cons, ih (by omega), hlow]
    omega

/-- Or-ing bytes into their places of a 64-bit word, as far as there is room, is reading. -/
theorem toNat_foldl_or (bytes : List UInt8) (h : bytes.length ≤ 8) :
    ((List.range bytes.length).foldl (fun (acc : UInt64) i =>
      acc ||| ((bytes.getD i 0).toUInt64 <<< UInt64.ofNat (8 * i))) 0).toNat = leNat bytes := by
  suffices hread : ∀ count, count ≤ bytes.length →
      ((List.range count).foldl (fun (acc : UInt64) i =>
        acc ||| ((bytes.getD i 0).toUInt64 <<< UInt64.ofNat (8 * i))) 0).toNat =
          leNat (bytes.take count) by
    rw [hread bytes.length (Nat.le_refl _), List.take_length]
  intro count
  induction count with
  | zero =>
    intro _
    simp [leNat]
  | succ count ih =>
    intro hcount
    have hin : count < bytes.length := hcount
    have hbyte := bytes[count].toNat_lt
    have hshort : (bytes.take count).length = count := List.length_take_of_le (by omega)
    have hbelow : leNat (bytes.take count) < 2 ^ (8 * count) := by
      have hlt := leNat_lt (bytes.take count)
      rwa [hshort, show (256 : Nat) = 2 ^ 8 from rfl, ← Nat.pow_mul] at hlt
    have hroom : 2 ^ (8 * count) * 256 ≤ 2 ^ 64 := by
      rw [show (256 : Nat) = 2 ^ 8 from rfl, ← Nat.pow_add]
      exact Nat.pow_le_pow_right (by decide) (by omega)
    have hplace : bytes[count].toNat * 2 ^ (8 * count) < 2 ^ 64 := by
      have hmul := Nat.mul_lt_mul_of_pos_right hbyte (Nat.two_pow_pos (8 * count))
      omega
    have hshift : (UInt64.ofNat (8 * count)).toNat % 64 = 8 * count := by
      rw [UInt64.toNat_ofNat']
      omega
    rw [List.range_succ, List.foldl_append, List.foldl_cons, List.foldl_nil, UInt64.toNat_or,
      ih (by omega), UInt64.toNat_shiftLeft, UInt8.toNat_toUInt64, hshift, Nat.shiftLeft_eq,
      List.getD_eq_getElem _ _ (by omega), Nat.mod_eq_of_lt hplace,
      Nat.or_comm, or_eq_add _ _ (8 * count) (Nat.dvd_mul_left _ _) hbelow,
      List.take_succ_eq_append_getElem (by omega), leNat_append, hshort, leNat_cons,
      show (256 : Nat) = 2 ^ 8 from rfl, ← Nat.pow_mul]
    simp [leNat]
    ring

end Lib
end EspPtp
