import EspPtp.Lib.Memcmp
import EspPtp.Message

/-!
# Which clock is better (`is_better_clock`)

The source compares, one after another and each only when all before it are equal: the
fourteen bytes of the system identity in wire order, `stepsRemoved`, the source's clock
identity and its port number. `announceRank` is the four of them as one number-like thing,
and the comparison is its order.
-/

namespace EspPtp

open Lib

/-- The fourteen bytes from `btc_priority1` through `btc_identity`. -/
def systemIdentity (a : PtpAnnounce) : List UInt8 :=
  a.btcPriority1 :: (a.btcQuality.toList ++ a.btcPriority2 :: a.btcIdentity.toList)

/-- `is_better_clock`. -/
def isBetterClock (a b : PtpAnnounce) : Bool :=
  let systemIdentityCheck := memcmp (systemIdentity a) (systemIdentity b)
  let steps := memcmp a.stepsremoved.toList b.stepsremoved.toList
  let identity := memcmp a.header.sourceidentity.toList b.header.sourceidentity.toList
  let port := memcmp a.header.sourceportindex.toList b.header.sourceportindex.toList
  decide (systemIdentityCheck = .lt) ||
    (decide (systemIdentityCheck = .eq) && decide (steps = .lt)) ||
    (decide (systemIdentityCheck = .eq) && decide (steps = .eq) && decide (identity = .lt)) ||
    (decide (systemIdentityCheck = .eq) && decide (steps = .eq) && decide (identity = .eq) &&
      decide (port = .lt))

/-- What an Announce is compared by. -/
def announceRank (a : PtpAnnounce) : List ℕ ×ₗ List ℕ ×ₗ List ℕ ×ₗ List ℕ :=
  toLex (byteKey (systemIdentity a), toLex (byteKey a.stepsremoved.toList,
    toLex (byteKey a.header.sourceidentity.toList, byteKey a.header.sourceportindex.toList)))

theorem memcmp_vector_lt {k : Nat} (a b : Vector UInt8 k) :
    memcmp a.toList b.toList = .lt ↔ byteKey a.toList < byteKey b.toList :=
  memcmp_lt (by simp)

theorem memcmp_vector_eq {k : Nat} (a b : Vector UInt8 k) :
    memcmp a.toList b.toList = .eq ↔ byteKey a.toList = byteKey b.toList := by
  rw [memcmp_eq (by simp)]
  exact ⟨congrArg byteKey, byteKey_inj⟩

/-- **The comparison is the order of the ranks.** -/
theorem isBetterClock_iff (a b : PtpAnnounce) :
    isBetterClock a b = true ↔ announceRank a < announceRank b := by
  have hlen : (systemIdentity a).length = (systemIdentity b).length := by
    simp [systemIdentity]
  have hsystem : memcmp (systemIdentity a) (systemIdentity b) = .eq ↔
      byteKey (systemIdentity a) = byteKey (systemIdentity b) := by
    rw [memcmp_eq hlen]
    exact ⟨congrArg byteKey, byteKey_inj⟩
  simp only [isBetterClock, announceRank, Prod.Lex.toLex_lt_toLex, Bool.or_eq_true,
    Bool.and_eq_true, decide_eq_true_eq, memcmp_lt hlen, hsystem, memcmp_vector_lt,
    memcmp_vector_eq]
  tauto

/-- Different ports never have the same rank. -/
theorem announceRank_sourcePort {a b : PtpAnnounce} (h : announceRank a = announceRank b) :
    a.header.sourcePort = b.header.sourcePort := by
  have htail := congrArg (fun r => (ofLex (ofLex (ofLex r).2).2)) h
  simp only [announceRank, ofLex_toLex, Prod.mk.injEq] at htail
  unfold PtpHeader.sourcePort
  rw [Vector.toList_inj.mp (byteKey_inj htail.1), Vector.toList_inj.mp (byteKey_inj htail.2)]

/-- Of two Announces of different ports exactly one is better. -/
theorem isBetterClock_total {a b : PtpAnnounce}
    (h : a.header.sourcePort ≠ b.header.sourcePort) :
    isBetterClock a b = true ↔ isBetterClock b a = false := by
  have hne : announceRank a ≠ announceRank b := fun heq => h (announceRank_sourcePort heq)
  rw [← Bool.not_eq_true, isBetterClock_iff, isBetterClock_iff, not_lt]
  exact ⟨le_of_lt, fun hle => lt_of_le_of_ne hle hne⟩

theorem isBetterClock_irrefl (a : PtpAnnounce) : isBetterClock a a = false := by
  rw [← Bool.not_eq_true, isBetterClock_iff]
  exact lt_irrefl _

theorem isBetterClock_trans {a b c : PtpAnnounce} (hab : isBetterClock a b = true)
    (hbc : isBetterClock b c = true) : isBetterClock a c = true := by
  rw [isBetterClock_iff] at hab hbc ⊢
  exact lt_trans hab hbc

end EspPtp
