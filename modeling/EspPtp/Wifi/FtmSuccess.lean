import EspPtp.Lib.BucketRing
import Mathlib.Algebra.BigOperators.Fin
import Mathlib.Algebra.BigOperators.Pi
import Mathlib.Algebra.Group.Prod
import Mathlib.Algebra.Order.BigOperators.Group.Finset
import Mathlib.Algebra.Order.Round
import Mathlib.Data.Rat.Floor
import Mathlib.Tactic.FieldSimp
import Mathlib.Tactic.Linarith

/-!
# FTM success (`ptp_ftm_success.h`)

The percentage of valid FTM measurements over the last ten seconds, in ten buckets of one
second. The header's three arrays are a `BucketRing` of pairs, the attempts and the valid
ones, as long as no second has more records than a 16-bit counter.
-/

namespace EspPtp

open Lib

/-- `PTP_FTM_SUCCESS_NONE`. -/
def ptpFtmSuccessNone : UInt8 := 0xff

/-- `ptp_ftm_success_t`, `PTP_FTM_SUCCESS_SECONDS` wide. -/
structure PtpFtmSuccess where
  second : Vector Int 10
  attempts : Vector UInt16 10
  valid : Vector UInt16 10
  deriving DecidableEq

/-- The window before the first record. -/
def PtpFtmSuccess.zero : PtpFtmSuccess where
  second := Vector.replicate 10 0
  attempts := Vector.replicate 10 0
  valid := Vector.replicate 10 0

/-- The second of a time. -/
def ftmSecond (nowUs : Int) : Int := nowUs.tdiv 1000000

/-- The slot of a second, which is not negative. -/
def ftmSlot (second : Int) : Fin 10 := Fin.ofNat 10 (second.tmod 10).toNat

/-- The window with the slot of this second cleared, if it held another one. -/
def PtpFtmSuccess.atSecond (window : PtpFtmSuccess) (second : Int) : PtpFtmSuccess :=
  let slot := ftmSlot second
  if window.second.get slot ≠ second then
    { second := window.second.set slot second
      attempts := window.attempts.set slot 0
      valid := window.valid.set slot 0 }
  else window

/-- One more attempt in the slot, unless its counter is full. -/
def PtpFtmSuccess.count (window : PtpFtmSuccess) (slot : Fin 10) (valid : Bool) : PtpFtmSuccess :=
  if window.attempts.get slot = 65535 then window
  else
    { window with
      attempts := window.attempts.set slot (window.attempts.get slot + 1)
      valid :=
        if valid then window.valid.set slot (window.valid.get slot + 1) else window.valid }

/-- `ptp_ftm_success_record`. -/
def ptpFtmSuccessRecord (window : PtpFtmSuccess) (nowUs : Int) (valid : Bool) : PtpFtmSuccess :=
  (window.atSecond (ftmSecond nowUs)).count (ftmSlot (ftmSecond nowUs)) valid

/-- The slot's second is one of the last ten. -/
def PtpFtmSuccess.recent (window : PtpFtmSuccess) (second : Int) (slot : Fin 10) : Bool :=
  let age := second - window.second.get slot
  !(decide (age < 0) || decide (age ≥ 10))

/-- The loop of `ptp_ftm_success_percent`: attempts and valid ones. -/
def PtpFtmSuccess.counts (window : PtpFtmSuccess) (second : Int) : UInt32 × UInt32 :=
  (List.finRange 10).foldl
    (fun counts slot =>
      if window.recent second slot then
        (counts.1 + (window.attempts.get slot).toUInt32,
          counts.2 + (window.valid.get slot).toUInt32)
      else counts)
    (0, 0)

/-- `ptp_ftm_success_percent`. -/
def ptpFtmSuccessPercent (window : PtpFtmSuccess) (nowUs : Int) : UInt8 :=
  let counts := window.counts (ftmSecond nowUs)
  let attempts := counts.1
  let valid := counts.2
  if attempts = 0 then ptpFtmSuccessNone
  else ((valid * 100 + attempts / 2) / attempts).toUInt8

/-! ## As a ring of buckets -/

/-- The arrays hold what the buckets hold. -/
structure PtpFtmSuccess.Mirrors (window : PtpFtmSuccess) (ring : Fin 10 → Bucket (ℕ × ℕ)) :
    Prop where
  second : ∀ k, window.second.get k = (ring k).second
  attempts : ∀ k, (window.attempts.get k).toNat = (ring k).total.1
  valid : ∀ k, (window.valid.get k).toNat = (ring k).total.2

theorem PtpFtmSuccess.mirrors_zero : PtpFtmSuccess.zero.Mirrors BucketRing.empty where
  second k := by simp [zero, BucketRing.empty, Vector.get]
  attempts k := by simp [zero, BucketRing.empty, Vector.get]
  valid k := by simp [zero, BucketRing.empty, Vector.get]

/-- Reading a slot after another was written. -/
theorem get_set_fin {α : Type} {n : Nat} (v : Vector α n) (i k : Fin n) (x : α) :
    (v.set i x).get k = if k = i then x else v.get k := by
  show (v.set i.val x)[k.val] = _
  rw [Vector.getElem_set]
  by_cases hk : k = i
  · rw [if_pos hk, if_pos (congrArg Fin.val hk).symm]
  · rw [if_neg hk, if_neg (fun h => hk (Fin.ext h.symm))]
    rfl

/-- The amount of one record: an attempt, and whether it was valid. -/
def ftmAmount (valid : Bool) : ℕ × ℕ := (1, if valid then 1 else 0)

theorem ftmSlot_natCast (second : ℕ) : ftmSlot second = BucketRing.slot 10 second := by
  apply Fin.ext
  show ((second : Int).tmod 10).toNat % 10 = second % 10
  have hmod : (second : Int).tmod 10 = ((second % 10 : ℕ) : Int) := rfl
  rw [hmod, Int.toNat_natCast, Nat.mod_mod]

variable {window : PtpFtmSuccess} {ring : Fin 10 → Bucket (ℕ × ℕ)}

theorem PtpFtmSuccess.Mirrors.atSecond (h : window.Mirrors ring) (second : ℕ) :
    (window.atSecond second).Mirrors (BucketRing.claim ring second) := by
  unfold PtpFtmSuccess.atSecond BucketRing.claim
  dsimp only
  rw [← ftmSlot_natCast]
  rw [h.second (ftmSlot second)]
  by_cases hsame : (ring (ftmSlot second)).second = second
  · rw [if_neg (not_not.mpr (congrArg Nat.cast hsame))]
    have hkept (k : Fin 10) : ¬ (k = ftmSlot second ∧ (ring k).second ≠ second) := by
      rintro ⟨rfl, hother⟩
      exact hother hsame
    simp only [hkept, if_false]
    exact h
  · rw [if_pos (fun h => hsame (Int.ofNat_inj.mp h))]
    have hcleared (k : Fin 10) :
        (k = ftmSlot second ∧ (ring k).second ≠ second) ↔ k = ftmSlot second :=
      ⟨And.left, fun hk => ⟨hk, hk ▸ hsame⟩⟩
    simp only [hcleared]
    constructor
    · intro k
      rw [get_set_fin]
      split
      · rfl
      · exact h.second k
    · intro k
      rw [get_set_fin]
      split
      · rfl
      · exact h.attempts k
    · intro k
      rw [get_set_fin]
      split
      · rfl
      · exact h.valid k

theorem PtpFtmSuccess.Mirrors.count (h : window.Mirrors ring) (slot : Fin 10) (valid : Bool)
    (hroom : (ring slot).total.1 < 65535) (hvalid : (ring slot).total.2 ≤ (ring slot).total.1) :
    (window.count slot valid).Mirrors fun k =>
      if k = slot then ⟨(ring k).second, (ring k).total + ftmAmount valid⟩ else ring k := by
  have hone : (1 : UInt16).toNat = 1 := rfl
  have hnot : ¬ window.attempts.get slot = 65535 := by
    intro hfull
    have hcount := h.attempts slot
    rw [hfull] at hcount
    have hmax : (65535 : UInt16).toNat = 65535 := rfl
    omega
  unfold PtpFtmSuccess.count
  rw [if_neg hnot]
  constructor
  · intro k
    rw [h.second k]
    split <;> rfl
  · intro k
    dsimp only
    rw [get_set_fin]
    by_cases hk : k = slot
    · rw [if_pos hk, if_pos hk, hk, UInt16.toNat_add, h.attempts slot, hone]
      exact Nat.mod_eq_of_lt (by omega)
    · rw [if_neg hk, if_neg hk]
      exact h.attempts k
  · intro k
    dsimp only
    cases valid with
    | false =>
      rw [if_neg Bool.false_ne_true, h.valid k]
      split <;> rfl
    | true =>
      rw [if_pos rfl, get_set_fin]
      by_cases hk : k = slot
      · rw [if_pos hk, if_pos hk, hk, UInt16.toNat_add, h.valid slot, hone]
        exact Nat.mod_eq_of_lt (by omega)
      · rw [if_neg hk, if_neg hk]
        exact h.valid k

/-- A record of a second that has room mirrors the bucket's. -/
theorem PtpFtmSuccess.Mirrors.record (h : window.Mirrors ring) {nowUs : Int} {second : ℕ}
    (hsecond : ftmSecond nowUs = second) (valid : Bool)
    (hroom : (BucketRing.claim ring second (BucketRing.slot 10 second)).total.1 < 65535)
    (hvalid : (BucketRing.claim ring second (BucketRing.slot 10 second)).total.2 ≤
      (BucketRing.claim ring second (BucketRing.slot 10 second)).total.1) :
    (ptpFtmSuccessRecord window nowUs valid).Mirrors
      (BucketRing.record ring (second, ftmAmount valid)) := by
  have hcount := (h.atSecond second).count (BucketRing.slot 10 second) valid hroom hvalid
  have hring : BucketRing.record ring (second, ftmAmount valid) = fun k =>
      if k = BucketRing.slot 10 second then
        ⟨(BucketRing.claim ring second k).second,
          (BucketRing.claim ring second k).total + ftmAmount valid⟩
      else BucketRing.claim ring second k := by
    funext k
    rw [BucketRing.record_eq]
    by_cases hk : k = BucketRing.slot 10 second
    · rw [if_pos hk, if_pos hk, BucketRing.claim_second hk]
    · rw [if_neg hk, if_neg hk]
  unfold ptpFtmSuccessRecord
  rw [hring, hsecond, ftmSlot_natCast]
  exact hcount

/-! ## Runs -/

/-- The window after these calls of `ptp_ftm_success_record`, each a time and a validity. -/
def ftmWindow (calls : List (Int × Bool)) : PtpFtmSuccess :=
  calls.foldl (fun window call => ptpFtmSuccessRecord window call.1 call.2) .zero

/-- Calls as the header is called: time does not run backward, and no second has more
    records than a counter can take. -/
structure FtmCalls (calls : List (Int × Bool)) : Prop where
  inOrder : calls.Pairwise fun call later => call.1 ≤ later.1
  nonneg : ∀ call ∈ calls, 0 ≤ call.1
  counted : ∀ second, calls.countP (fun call => decide (ftmSecond call.1 = second)) ≤ 65535

theorem ftmSecond_nonneg {nowUs : Int} (h : 0 ≤ nowUs) : 0 ≤ ftmSecond nowUs :=
  Int.tdiv_nonneg h (by decide)

theorem ftmSecond_mono {nowUs laterUs : Int} (h : nowUs ≤ laterUs) :
    ftmSecond nowUs ≤ ftmSecond laterUs :=
  Int.tdiv_le_tdiv (by decide) h

/-- A call as a record of the ring. -/
def ftmRecord (call : Int × Bool) : ℕ × (ℕ × ℕ) := ((ftmSecond call.1).toNat, ftmAmount call.2)

theorem sumOf_ftmRecord (p : ℕ → Prop) [DecidablePred p] (calls : List (Int × Bool)) :
    BucketRing.sumOf p (calls.map ftmRecord) =
      (calls.countP (fun call => decide (p (ftmSecond call.1).toNat)),
        calls.countP (fun call => decide (p (ftmSecond call.1).toNat) && call.2)) := by
  induction calls using List.reverseRecOn with
  | nil => rfl
  | append_singleton calls call ih =>
    rw [List.map_append, List.map_singleton, BucketRing.sumOf_snoc, ih, List.countP_append,
      List.countP_append, List.countP_singleton, List.countP_singleton]
    unfold ftmRecord ftmAmount
    by_cases hp : p (ftmSecond call.1).toNat
    · cases call.2 <;> simp [hp]
    · simp [hp]

theorem FtmCalls.of_snoc {calls : List (Int × Bool)} {call : Int × Bool}
    (h : FtmCalls (calls ++ [call])) : FtmCalls calls where
  inOrder := (List.pairwise_append.mp h.inOrder).1
  nonneg c hc := h.nonneg c (List.mem_append_left _ hc)
  counted second := by
    have := h.counted second
    rw [List.countP_append] at this
    omega

/-- The second of the last call had room before it. -/
theorem FtmCalls.room {calls : List (Int × Bool)} {call : Int × Bool}
    (h : FtmCalls (calls ++ [call])) :
    calls.countP (fun c => decide ((ftmSecond c.1).toNat = (ftmSecond call.1).toNat)) <
      65535 := by
  have hnonneg := ftmSecond_nonneg (h.nonneg call (by simp))
  have hcount := h.counted (ftmSecond call.1)
  rw [List.countP_append, List.countP_singleton, if_pos (by simp)] at hcount
  have hsame : calls.countP (fun c =>
      decide ((ftmSecond c.1).toNat = (ftmSecond call.1).toNat)) =
      calls.countP (fun c => decide (ftmSecond c.1 = ftmSecond call.1)) := by
    apply List.countP_congr
    intro c hc
    have hother := ftmSecond_nonneg (h.nonneg c (List.mem_append_left _ hc))
    simp only [decide_eq_true_eq]
    omega
  omega

/-- The window mirrors the ring of its records. -/
theorem FtmCalls.mirrors {calls : List (Int × Bool)} (h : FtmCalls calls) :
    ∃ ring : Fin 10 → Bucket (ℕ × ℕ), (ftmWindow calls).Mirrors ring ∧
      BucketRing.Holds (calls.map ftmRecord) ring := by
  induction calls using List.reverseRecOn with
  | nil => exact ⟨_, PtpFtmSuccess.mirrors_zero, BucketRing.Holds.empty⟩
  | append_singleton calls call ih =>
    obtain ⟨ring, hmirrors, hholds⟩ := ih h.of_snoc
    have hnonneg := ftmSecond_nonneg (h.nonneg call (by simp))
    have hsecond : ftmSecond call.1 = ((ftmSecond call.1).toNat : ℕ) :=
      (Int.toNat_of_nonneg hnonneg).symm
    have hlast : ∀ x ∈ calls.map ftmRecord, x.1 ≤ (ftmSecond call.1).toNat := by
      intro x hx
      obtain ⟨c, hc, rfl⟩ := List.mem_map.mp hx
      have hle : c.1 ≤ call.1 :=
        (List.pairwise_append.mp h.inOrder).2.2 c hc call (List.mem_singleton_self call)
      exact Int.toNat_le_toNat (ftmSecond_mono hle)
    have hclaimed := hholds.claimed hlast
    rw [sumOf_ftmRecord] at hclaimed
    refine ⟨BucketRing.record ring (ftmRecord call), ?_, ?_⟩
    · unfold ftmWindow
      rw [List.foldl_concat]
      apply hmirrors.record hsecond
      · rw [hclaimed]
        exact h.room
      · rw [hclaimed]
        apply List.countP_mono_left
        intro c _ hc
        exact (Bool.and_eq_true_iff.mp hc).1
    · rw [List.map_append]
      exact hholds.record hlast

/-! ## The percentage -/

/-- The loop's counters as numbers. -/
def ftmCounts (counts : UInt32 × UInt32) : ℕ × ℕ := (counts.1.toNat, counts.2.toNat)

/-- A slot's counters as numbers. -/
def PtpFtmSuccess.slotCounts (window : PtpFtmSuccess) (slot : Fin 10) : ℕ × ℕ :=
  ((window.attempts.get slot).toNat, (window.valid.get slot).toNat)

/-- A 16-bit counter added where there is room for it. -/
theorem toNat_add_uint16 {a : UInt32} (b : UInt16) (hroom : a.toNat + 65535 < 2 ^ 32) :
    (a + b.toUInt32).toNat = a.toNat + b.toNat := by
  have hb := b.toNat_lt
  rw [UInt32.toNat_add, UInt16.toNat_toUInt32]
  exact Nat.mod_eq_of_lt (by omega)

/-- What the loop adds up, as long as it fits 32 bits. -/
theorem PtpFtmSuccess.foldl_counts (window : PtpFtmSuccess) (second : Int) (slots : List (Fin 10))
    (counts : UInt32 × UInt32) (hattempts : counts.1.toNat + slots.length * 65535 < 2 ^ 32)
    (hvalid : counts.2.toNat + slots.length * 65535 < 2 ^ 32) :
    ftmCounts (slots.foldl
        (fun counts slot =>
          if window.recent second slot then
            (counts.1 + (window.attempts.get slot).toUInt32,
              counts.2 + (window.valid.get slot).toUInt32)
          else counts) counts) =
      ftmCounts counts + (slots.map fun slot =>
        if window.recent second slot then window.slotCounts slot else 0).sum := by
  induction slots generalizing counts with
  | nil => exact (add_zero _).symm
  | cons slot slots ih =>
    rw [List.length_cons] at hattempts hvalid
    have hfewer : counts.1.toNat + slots.length * 65535 < 2 ^ 32 ∧
        counts.2.toNat + slots.length * 65535 < 2 ^ 32 := by omega
    rw [List.foldl_cons, List.map_cons, List.sum_cons, ← add_assoc]
    by_cases hrecent : window.recent second slot = true
    · have ha := toNat_add_uint16 (window.attempts.get slot)
        (show counts.1.toNat + 65535 < 2 ^ 32 by omega)
      have hv := toNat_add_uint16 (window.valid.get slot)
        (show counts.2.toNat + 65535 < 2 ^ 32 by omega)
      have hadded : ftmCounts (counts.1 + (window.attempts.get slot).toUInt32,
          counts.2 + (window.valid.get slot).toUInt32) =
          ftmCounts counts + window.slotCounts slot := Prod.ext ha hv
      have hfitsAttempts := (window.attempts.get slot).toNat_lt
      have hfitsValid := (window.valid.get slot).toNat_lt
      rw [if_pos hrecent, if_pos hrecent, ← hadded]
      refine ih _ ?_ ?_
      · dsimp only
        omega
      · dsimp only
        omega
    · rw [if_neg hrecent, if_neg hrecent, add_zero]
      exact ih counts hfewer.1 hfewer.2

/-- The loop over all slots. -/
theorem PtpFtmSuccess.ftmCounts_counts (window : PtpFtmSuccess) (second : Int) :
    ftmCounts (window.counts second) =
      ∑ slot : Fin 10, if window.recent second slot then window.slotCounts slot else 0 := by
  have hroom : (0 : UInt32).toNat + 10 * 65535 < 2 ^ 32 := by decide
  have hlength : (List.finRange 10).length = 10 := List.length_finRange
  unfold PtpFtmSuccess.counts
  rw [window.foldl_counts second (List.finRange 10) (0, 0) (by rw [hlength]; exact hroom)
    (by rw [hlength]; exact hroom), Fin.sum_univ_def]
  exact zero_add _

/-- The loop's sums are the ring's total. -/
theorem PtpFtmSuccess.Mirrors.counts (h : window.Mirrors ring) (second : ℕ) :
    ftmCounts (window.counts second) = BucketRing.total ring second := by
  rw [window.ftmCounts_counts]
  apply Finset.sum_congr rfl
  intro k _
  refine if_congr ?_ (Prod.ext (h.attempts k) (h.valid k)) rfl
  unfold PtpFtmSuccess.recent BucketRing.InWindow
  rw [h.second k]
  simp only [Bool.not_eq_true', Bool.or_eq_false_iff, decide_eq_false_iff_not]
  omega

/-- The calls in the current second and the nine before it. -/
def lastTenSeconds (calls : List (Int × Bool)) (nowUs : Int) : List (Int × Bool) :=
  calls.filter fun call =>
    decide (ftmSecond nowUs - 10 < ftmSecond call.1 ∧ ftmSecond call.1 ≤ ftmSecond nowUs)

theorem inWindow_iff {second now : Int} (hsecond : 0 ≤ second) (hnow : 0 ≤ now) :
    decide (BucketRing.InWindow 10 now.toNat second.toNat) = true ↔
      decide (now - 10 < second ∧ second ≤ now) = true := by
  rw [decide_eq_true_iff, decide_eq_true_iff]
  unfold BucketRing.InWindow
  omega

/-- **The loop counts the calls of the last ten seconds.** -/
theorem FtmCalls.counts {calls : List (Int × Bool)} (h : FtmCalls calls) {nowUs : Int}
    (hnow : ∀ call ∈ calls, call.1 ≤ nowUs) :
    ftmCounts ((ftmWindow calls).counts (ftmSecond nowUs)) =
      ((lastTenSeconds calls nowUs).length, (lastTenSeconds calls nowUs).countP Prod.snd) := by
  rcases List.eq_nil_or_concat calls with rfl | ⟨before, last, hcalls⟩
  · -- Before the first record every slot counts nothing, whatever its second.
    rw [PtpFtmSuccess.ftmCounts_counts]
    apply Finset.sum_eq_zero
    intro slot _
    have hzero : (ftmWindow []).slotCounts slot = 0 := by
      simp [ftmWindow, PtpFtmSuccess.zero, PtpFtmSuccess.slotCounts, Vector.get]
    rw [hzero, ite_self]
  have hmem : last ∈ calls := by simp [hcalls]
  have hnonneg : 0 ≤ ftmSecond nowUs :=
    ftmSecond_nonneg ((h.nonneg last hmem).trans (hnow last hmem))
  obtain ⟨ring, hmirrors, hholds⟩ := h.mirrors
  have hsecond : ftmSecond nowUs = ((ftmSecond nowUs).toNat : ℕ) :=
    (Int.toNat_of_nonneg hnonneg).symm
  have hlast : ∀ r ∈ calls.map ftmRecord, r.1 ≤ (ftmSecond nowUs).toNat := by
    intro r hr
    obtain ⟨call, hcall, rfl⟩ := List.mem_map.mp hr
    exact Int.toNat_le_toNat (ftmSecond_mono (hnow call hcall))
  rw [hsecond, hmirrors.counts, hholds.total_eq hlast, sumOf_ftmRecord]
  have hwindow {call : Int × Bool} (hcall : call ∈ calls) :=
    inWindow_iff (ftmSecond_nonneg (h.nonneg call hcall)) hnonneg
  unfold lastTenSeconds
  rw [← List.countP_eq_length_filter, List.countP_filter]
  apply Prod.ext
  · exact List.countP_congr fun call hcall => hwindow hcall
  · apply List.countP_congr
    intro call hcall
    rw [Bool.and_eq_true, Bool.and_eq_true, hwindow hcall, and_comm]

/-- Whole percent by adding half of the divisor are percent rounded to nearest. -/
theorem percent_eq_round {valid attempts : ℕ} (hpos : 0 < attempts) :
    (((valid * 100 + attempts / 2) / attempts : ℕ) : ℤ) =
      round ((100 * valid : ℚ) / attempts) := by
  have hattempts : (0 : ℚ) < attempts := by exact_mod_cast hpos
  generalize hq : (valid * 100 + attempts / 2) / attempts = q
  have hlow : attempts * q ≤ valid * 100 + attempts / 2 := by
    rw [← hq]
    exact Nat.mul_div_le _ _
  have hhigh : valid * 100 + attempts / 2 < attempts * q + attempts := by
    rw [← hq]
    exact Nat.lt_mul_div_succ _ hpos
  have hlow2 : 2 * (attempts * q) ≤ 200 * valid + attempts := by omega
  have hhigh2 : 200 * valid + attempts < 2 * (attempts * q) + 2 * attempts := by omega
  have hlowQ : (2 : ℚ) * (attempts * q) ≤ 200 * valid + attempts := by exact_mod_cast hlow2
  have hhighQ : (200 : ℚ) * valid + attempts < 2 * (attempts * q) + 2 * attempts := by
    exact_mod_cast hhigh2
  rw [round_eq]
  symm
  rw [Int.floor_eq_iff, Int.cast_natCast]
  have hsum : (100 * valid : ℚ) / attempts + 1 / 2 = (200 * valid + attempts) / (2 * attempts) := by
    field_simp
    ring
  rw [hsum]
  constructor
  · rw [le_div_iff₀ (by linarith)]
    linarith
  · rw [div_lt_iff₀ (by linarith)]
    linarith

/-- The counters are far from overflow. -/
theorem PtpFtmSuccess.counts_le (window : PtpFtmSuccess) (second : Int) :
    (window.counts second).1.toNat ≤ 655350 := by
  have hsum := congrArg Prod.fst (window.ftmCounts_counts second)
  rw [Prod.fst_sum] at hsum
  have hslot (slot : Fin 10) :
      (if window.recent second slot then window.slotCounts slot else 0).1 ≤ 65535 := by
    split
    · exact Nat.le_of_lt_succ (window.attempts.get slot).toNat_lt
    · exact Nat.zero_le _
  have hbound := Finset.sum_le_card_nsmul Finset.univ _ 65535 fun slot _ => hslot slot
  rw [← hsum] at hbound
  exact hbound

/-- The quotient of `ptp_ftm_success_percent`, where nothing overflows. -/
theorem toNat_percent {valid attempts : UInt32} (hpos : 0 < attempts.toNat)
    (hvalid : valid.toNat ≤ attempts.toNat) (hfits : attempts.toNat ≤ 655350) :
    ((valid * 100 + attempts / 2) / attempts).toUInt8.toNat =
      (valid.toNat * 100 + attempts.toNat / 2) / attempts.toNat ∧
    (valid.toNat * 100 + attempts.toNat / 2) / attempts.toNat ≤ 100 := by
  have hhundred : (100 : UInt32).toNat = 100 := rfl
  have htwo : (2 : UInt32).toNat = 2 := rfl
  have hmul : (valid * 100).toNat = valid.toNat * 100 := by
    rw [UInt32.toNat_mul, hhundred]
    exact Nat.mod_eq_of_lt (by omega)
  have hadd : (valid * 100 + attempts / 2).toNat =
      valid.toNat * 100 + attempts.toNat / 2 := by
    rw [UInt32.toNat_add, hmul, UInt32.toNat_div, htwo]
    exact Nat.mod_eq_of_lt (by omega)
  have hmax : (valid.toNat * 100 + attempts.toNat / 2) / attempts.toNat ≤ 100 := by
    apply Nat.le_of_lt_succ
    apply Nat.div_lt_of_lt_mul
    omega
  refine ⟨?_, hmax⟩
  rw [UInt32.toNat_toUInt8, UInt32.toNat_div, hadd]
  exact Nat.mod_eq_of_lt (lt_of_le_of_lt hmax (by decide))

/-- **The FTM success ring is an exact ten-second window.** After any calls of
    `ptp_ftm_success_record` in the order of time, `ptp_ftm_success_percent` answers
    `PTP_FTM_SUCCESS_NONE` if and only if none falls in the current second or the nine before
    it, and else the percentage of valid ones among those, rounded to nearest. -/
theorem ptpFtmSuccess_window (calls : List (Int × Bool)) (h : FtmCalls calls) (nowUs : Int)
    (hnow : ∀ call ∈ calls, call.1 ≤ nowUs) :
    (ptpFtmSuccessPercent (ftmWindow calls) nowUs = ptpFtmSuccessNone ↔
      lastTenSeconds calls nowUs = []) ∧
    (lastTenSeconds calls nowUs ≠ [] →
      ((ptpFtmSuccessPercent (ftmWindow calls) nowUs).toNat : ℤ) =
        round ((100 * (lastTenSeconds calls nowUs).countP Prod.snd : ℚ) /
          (lastTenSeconds calls nowUs).length) ∧
      (ptpFtmSuccessPercent (ftmWindow calls) nowUs).toNat ≤ 100) := by
  have hcounts := h.counts hnow
  have hfits := (ftmWindow calls).counts_le (ftmSecond nowUs)
  have hvalid : (lastTenSeconds calls nowUs).countP Prod.snd ≤
      (lastTenSeconds calls nowUs).length := List.countP_le_length
  unfold ptpFtmSuccessPercent
  dsimp only
  generalize (ftmWindow calls).counts (ftmSecond nowUs) = counts at hcounts hfits
  obtain ⟨attempts, valid⟩ := counts
  have hattempts : attempts.toNat = (lastTenSeconds calls nowUs).length :=
    congrArg Prod.fst hcounts
  have hvalidCount : valid.toNat = (lastTenSeconds calls nowUs).countP Prod.snd :=
    congrArg Prod.snd hcounts
  dsimp only at hfits ⊢
  by_cases hnone : lastTenSeconds calls nowUs = []
  · have hzero : attempts = 0 := by
      apply UInt32.toNat_inj.mp
      rw [hattempts, hnone]
      rfl
    rw [if_pos hzero]
    exact ⟨iff_of_true rfl hnone, fun hsome => absurd hnone hsome⟩
  · have hpos : 0 < attempts.toNat := by
      rw [hattempts]
      exact List.length_pos_iff.mpr hnone
    have hsome : ¬ attempts = 0 := by
      rintro rfl
      exact absurd hpos (by decide)
    have hfew : valid.toNat ≤ attempts.toNat := by omega
    obtain ⟨hpercent, hmax⟩ := toNat_percent hpos hfew hfits
    rw [if_neg hsome, hpercent]
    refine ⟨iff_of_false ?_ hnone, fun _ => ⟨?_, hmax⟩⟩
    · intro hall
      rw [hall] at hpercent
      have hnoneValue : ptpFtmSuccessNone.toNat = 255 := rfl
      omega
    · rw [percent_eq_round hpos, hattempts, hvalidCount]

namespace Sample

/-- Three measurements, one of them not valid. -/
def measurements : List (Int × Bool) := [(100, true), (200, false), (1500000, true)]

end Sample

/-- All three are in the window at nine seconds. -/
theorem ptpFtmSuccess_window_three :
    ((ptpFtmSuccessPercent (ftmWindow Sample.measurements) 9000000).toNat : ℤ) =
      round ((100 * (lastTenSeconds Sample.measurements 9000000).countP Prod.snd : ℚ) /
        (lastTenSeconds Sample.measurements 9000000).length) :=
  ((ptpFtmSuccess_window Sample.measurements
    { inOrder := by decide
      nonneg := by decide
      counted := fun _ => List.countP_le_length.trans (by decide) } 9000000 (by decide)).2
    (by decide)).1

end EspPtp
