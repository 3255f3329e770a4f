import EspPtp.Daemon.TimeBaseChange
import EspPtp.Lib.BigEndian
import EspPtp.Lib.Checked
import Mathlib.Data.List.DropRight
import Mathlib.Tactic.IntervalCases
import Mathlib.Tactic.NormNum
import Mathlib.Tactic.Ring

/-!
# The phase change told to stations

A station that sees another indicator moves its offset by `lastGmPhaseChange`. So that number
should be how far the clock jumped since the stations last had a time they could follow, with
no jump told twice and none left out.

The daemon counts from a *baseline*: the first output, a change, and every output of a source
that it steadily relays. A change while relaying tells the jumps since. It may have to wait,
until the clock has been updated from the new source; meanwhile the old fields are told once
more, and that is no baseline. A change to the clock's own time base tells zero, because its
clock carries on: what it jumped until then is not told.

Everything here is about histories. `jumpsSince` adds up what `clock_steps_ns` grew by, and
does not know of the daemon's own `phase_baseline_steps_ns`.
-/

namespace EspPtp

open Lib

/-! ## What a station reads -/

/-- `lastgmphasechange` of `struct ptp_info_tlv_s`. -/
def lastGmPhaseChange (info : Vector UInt8 32) : Vector UInt8 12 :=
  Vector.ofFn fun i => info[16 + i.val]

/-- `follow_up_phase_change_ns`. -/
def followUpPhaseChangeNs (info : Vector UInt8 32) : Option Int :=
  let scaled := lastGmPhaseChange info
  let signExtension : UInt8 := if scaled[2] &&& 0x80 ≠ 0 then 0xff else 0
  -- Of the 80 bits of whole nanoseconds, the first 16 may only extend the sign.
  if scaled[0] ≠ signExtension ∨ scaled[1] ≠ signExtension then none
  else
    let value := ((scaled.toList.drop 2).take 8).foldl
      (fun (value : UInt64) byte => (value <<< 8) ||| byte.toUInt64) 0
    some value.toInt64.toInt

theorem lastGmPhaseChange_informationTlv (fields : GmFields) :
    lastGmPhaseChange (informationTlv fields) = fields.phase := by
  apply Vector.ext
  intro i hi
  have hindex : 16 + i = 14 + (2 + i) := by omega
  simp only [lastGmPhaseChange, GmFields.phase, Vector.getElem_ofFn, hindex]
  exact informationTlv_fields fields (show 2 + i < 18 by omega)

/-- The eight bytes that a station takes for the number. -/
def phaseBytes (scaled : Vector UInt8 12) : List UInt8 := (scaled.toList.drop 2).take 8

theorem phaseBytes_length (scaled : Vector UInt8 12) : (phaseBytes scaled).length = 8 := by
  simp [phaseBytes]

theorem toList_scaledNs (scaled : Vector UInt8 12) :
    scaled.toList = [scaled[0], scaled[1]] ++ phaseBytes scaled ++ [scaled[10], scaled[11]] := by
  have hlen : scaled.toList.length = 12 := Vector.length_toList
  unfold phaseBytes
  apply List.ext_getElem
  · simp
  · intro i hi _
    rw [hlen] at hi
    interval_cases i <;> simp

/-- The sign of the eight bytes is that of the first one. -/
theorem beNat_phaseBytes (scaled : Vector UInt8 12) :
    ∃ rest < 2 ^ 56, beNat (phaseBytes scaled) = scaled[2].toNat * 2 ^ 56 + rest := by
  have hcons : phaseBytes scaled = scaled[2] :: (phaseBytes scaled).tail := by
    unfold phaseBytes
    have hlen : scaled.toList.length = 12 := Vector.length_toList
    rw [List.drop_eq_getElem_cons (by omega)]
    rfl
  have hlength : (phaseBytes scaled).tail.length = 7 := by
    rw [List.length_tail, phaseBytes_length]
  have hrest := beNat_lt (phaseBytes scaled).tail
  rw [hlength] at hrest
  refine ⟨_, hrest, ?_⟩
  conv_lhs => rw [hcons, beNat_cons, hlength]
  rfl

/-- The nanoseconds of a `ScaledNs`, rounded down. -/
def scaledNsFloor (scaled : Vector UInt8 12) : Int := beInt scaled.toList / 2 ^ 16

/-- They are the first ten bytes, of which two only carry the sign on where they fit. -/
theorem scaledNsFloor_eq (scaled : Vector UInt8 12) :
    scaledNsFloor scaled =
      beInt [scaled[0], scaled[1]] * 2 ^ 64 + beNat (phaseBytes scaled) := by
  have hsome : [scaled[0], scaled[1]] ++ phaseBytes scaled ≠ [] := List.cons_ne_nil _ _
  have hdrop := beInt_append_ediv hsome [scaled[10], scaled[11]]
  have hbytes : (256 : Int) ^ [scaled[10], scaled[11]].length = 2 ^ 16 := by
    rw [List.length_cons, List.length_singleton]
    norm_num
  have hword : (256 : Int) ^ 8 = 2 ^ 64 := by norm_num
  rw [beInt_append (List.cons_ne_nil _ _), phaseBytes_length, hbytes, hword] at hdrop
  unfold scaledNsFloor
  rw [toList_scaledNs]
  exact hdrop

theorem beInt_pair (a b : UInt8) :
    beInt [a, b] = if a.toNat < 128 then (a.toNat * 256 + b.toNat : Int)
      else a.toNat * 256 + b.toNat - 65536 := by
  have ha := a.toNat_lt
  have hb := b.toNat_lt
  have hpair : beNat [a, b] = a.toNat * 256 + b.toNat := by simp [beNat]
  have hhalf := bmod_two_mul (show beNat [a, b] < 2 * 32768 by omega)
  have hscale : 256 ^ [a, b].length = 2 * 32768 := by
    rw [List.length_cons, List.length_singleton]
    norm_num
  unfold beInt
  rw [hscale, hhalf, hpair]
  split <;> split <;> omega

theorem beInt_phaseBytes (scaled : Vector UInt8 12) :
    beInt (phaseBytes scaled) =
      if scaled[2].toNat < 128 then (beNat (phaseBytes scaled) : Int)
      else beNat (phaseBytes scaled) - 2 ^ 64 := by
  obtain ⟨rest, hrest, hlow⟩ := beNat_phaseBytes scaled
  have h2 := scaled[2].toNat_lt
  have hhalf := bmod_two_mul (show beNat (phaseBytes scaled) < 2 * 2 ^ 63 by omega)
  have hscale : 256 ^ 8 = 2 * 2 ^ 63 := by norm_num
  unfold beInt
  rw [phaseBytes_length, hscale, hhalf]
  split <;> split <;> omega

/-- What the first two bytes are where they carry the sign on. -/
def signExtension (scaled : Vector UInt8 12) : UInt8 :=
  if scaled[2] &&& 0x80 ≠ 0 then 0xff else 0

theorem signExtension_toNat (scaled : Vector UInt8 12) :
    (signExtension scaled).toNat = if scaled[2].toNat < 128 then 0 else 255 := by
  unfold signExtension
  by_cases h : scaled[2].toNat < 128
  · have hplus : ¬ scaled[2] &&& 0x80 ≠ 0 := fun hbit =>
      Nat.not_lt.mpr ((and_0x80_ne_zero _).mp hbit) h
    rw [if_neg hplus, if_pos h]
    rfl
  · have hminus : scaled[2] &&& 0x80 ≠ 0 := (and_0x80_ne_zero _).mpr (Nat.le_of_not_lt h)
    rw [if_pos hminus, if_neg h]
    rfl

/-- Where they do, the eight bytes are the number. -/
theorem scaledNsFloor_extended {scaled : Vector UInt8 12}
    (h0 : scaled[0] = signExtension scaled) (h1 : scaled[1] = signExtension scaled) :
    scaledNsFloor scaled = beInt (phaseBytes scaled) := by
  have hsign := signExtension_toNat scaled
  rw [scaledNsFloor_eq, beInt_pair, beInt_phaseBytes, h0, h1, hsign]
  by_cases h : scaled[2].toNat < 128
  · rw [if_pos h, if_pos h]
    norm_num
  · rw [if_neg h, if_neg h]
    norm_num
    ring

/-- They do where the number fits. -/
theorem fits64_scaledNsFloor_iff (scaled : Vector UInt8 12) :
    Fits64 (scaledNsFloor scaled) ↔
      scaled[0] = signExtension scaled ∧ scaled[1] = signExtension scaled := by
  obtain ⟨rest, hrest, hlow⟩ := beNat_phaseBytes scaled
  have h0 := scaled[0].toNat_lt
  have h1 := scaled[1].toNat_lt
  have h2 := scaled[2].toNat_lt
  have hsign := signExtension_toNat scaled
  rw [← UInt8.toNat_inj, ← UInt8.toNat_inj, hsign, scaledNsFloor_eq, beInt_pair, hlow]
  unfold Fits64
  by_cases h : scaled[2].toNat < 128
  · rw [if_pos h]
    split <;> omega
  · rw [if_neg h]
    split <;> omega

/-- **The phase change a station reads** is the field's number of nanoseconds, rounded down,
    where that fits 64 bits, and none where it does not. -/
theorem followUpPhaseChangeNs_eq (info : Vector UInt8 32) :
    followUpPhaseChangeNs info =
      if Fits64 (scaledNsFloor (lastGmPhaseChange info)) then
        some (scaledNsFloor (lastGmPhaseChange info))
      else none := by
  have hread : followUpPhaseChangeNs info =
      if (lastGmPhaseChange info)[0] ≠ signExtension (lastGmPhaseChange info) ∨
          (lastGmPhaseChange info)[1] ≠ signExtension (lastGmPhaseChange info) then none
      else some ((phaseBytes (lastGmPhaseChange info)).foldl
        (fun (value : UInt64) byte => (value <<< 8) ||| byte.toUInt64) 0).toInt64.toInt := rfl
  rw [hread]
  generalize lastGmPhaseChange info = scaled
  by_cases hextended : scaled[0] = signExtension scaled ∧ scaled[1] = signExtension scaled
  · have hvalue := toNat_foldl_shift (phaseBytes scaled) 0
      (by rw [phaseBytes_length]; exact Nat.le_refl _)
    rw [if_pos ((fits64_scaledNsFloor_iff scaled).mpr hextended), if_neg,
      scaledNsFloor_extended hextended.1 hextended.2,
      toInt_eq_beInt (phaseBytes_length scaled) hvalue]
    rintro (h | h)
    · exact h hextended.1
    · exact h hextended.2
  · rw [if_neg (mt (fits64_scaledNsFloor_iff scaled).mp hextended), if_pos]
    exact not_and_or.mp hextended

/-- What `ptp_scaled_ns_from_ns` writes stands for that many nanoseconds. -/
theorem scaledNsFloor_fromNs {valueNs : Int} (hfits : Fits64 valueNs) :
    scaledNsFloor (ptpScaledNsFromNs valueNs) = valueNs := by
  obtain ⟨hlow, hhigh⟩ := hfits
  have hdigits := beNat_digits valueNs
  have hsign : (if valueNs < 0 then (0xff : UInt8) else 0).toNat =
      if valueNs < 0 then 255 else 0 := by
    split <;> rfl
  rw [scaledNsFloor_eq, beInt_pair]
  show (if (if valueNs < 0 then (0xff : UInt8) else 0).toNat < 128 then
      ((if valueNs < 0 then (0xff : UInt8) else 0).toNat * 256 +
        (if valueNs < 0 then (0xff : UInt8) else 0).toNat : Int)
      else (if valueNs < 0 then (0xff : UInt8) else 0).toNat * 256 +
        (if valueNs < 0 then (0xff : UInt8) else 0).toNat - 65536) * 2 ^ 64 +
    (beNat ([56, 48, 40, 32, 24, 16, 8, 0].map fun shift : Nat =>
      UInt8.ofInt (valueNs / 2 ^ shift)) : Int) = valueNs
  rw [hdigits, hsign]
  by_cases hneg : valueNs < 0
  · rw [if_pos hneg]
    norm_num
    omega
  · rw [if_neg hneg]
    norm_num
    omega

/-- **What `ptp_scaled_ns_from_ns` writes, `follow_up_phase_change_ns` reads.** -/
theorem followUpPhaseChangeNs_written {info : Vector UInt8 32} {valueNs : Int}
    (hfits : Fits64 valueNs) (hfield : lastGmPhaseChange info = ptpScaledNsFromNs valueNs) :
    followUpPhaseChangeNs info = some valueNs := by
  rw [followUpPhaseChangeNs_eq, hfield, scaledNsFloor_fromNs hfits, if_pos hfits]

theorem followUpPhaseChangeNs_scaled {fields : GmFields} {valueNs : Int}
    (hlow : -2 ^ 63 ≤ valueNs) (hhigh : valueNs < 2 ^ 63)
    (hphase : fields.phase = ptpScaledNsFromNs valueNs) :
    followUpPhaseChangeNs (informationTlv fields) = some valueNs := by
  have hfits : Fits64 valueNs := by
    unfold Fits64
    omega
  exact followUpPhaseChangeNs_written hfits ((lastGmPhaseChange_informationTlv fields).trans hphase)

/-! ## Changes and baselines -/

namespace GmEntry

variable (e : GmEntry)

/-- The output's BTC or indicator differs from the previous output's. -/
def changed : Bool :=
  match e.previous, e.output with
  | some earlier, some later =>
    decide (later.btc ≠ earlier.btc) || decide (later.indicator ≠ earlier.indicator)
  | _, _ => false

/-- The first output, a change, or an output made while relaying. -/
def baseline : Bool :=
  e.output.any fun o => e.previous.isNone || e.changed || o.relaying

/-- The output repeats the previous one until the clock is updated. -/
def waiting : Bool := e.output.any GmOutput.waiting

/-- A baseline that does not wait. -/
def settled : Bool := e.baseline && !e.waiting

end GmEntry

/-- The entries since the latest one of a kind. -/
def since (kind : GmEntry → Bool) (past : List GmEntry) : List GmEntry :=
  past.rtakeWhile fun e => !kind e

/-- The sum of the clock's jumps in them. -/
def jumpsSince (kind : GmEntry → Bool) (past : List GmEntry) : Int :=
  ((since kind past).map GmEntry.jumpNs).sum

theorem since_snoc (kind : GmEntry → Bool) (past : List GmEntry) (e : GmEntry) :
    since kind (past ++ [e]) = if kind e then [] else since kind past ++ [e] := by
  unfold since
  rw [List.rtakeWhile_concat]
  cases kind e <;> rfl

theorem jumpsSince_snoc (kind : GmEntry → Bool) (past : List GmEntry) (e : GmEntry) :
    jumpsSince kind (past ++ [e]) = if kind e then 0 else jumpsSince kind past + e.jumpNs := by
  unfold jumpsSince
  rw [since_snoc]
  cases kind e with
  | true => rfl
  | false => simp

/-- What comes before an entry of the kind is not counted any more. -/
theorem since_suffix {kind : GmEntry → Bool} {first : GmEntry} (hkind : kind first = true)
    (older between : List GmEntry) : since kind (older ++ first :: between) <:+ between := by
  induction between using List.reverseRecOn with
  | nil =>
    have hnone : since kind (older ++ [first]) = [] := by
      rw [since_snoc, if_pos hkind]
    show since kind (older ++ [first]) <:+ []
    exact hnone.symm ▸ List.suffix_rfl
  | append_singleton between e ih =>
    rw [← List.cons_append, ← List.append_assoc, since_snoc]
    split
    · exact List.nil_suffix
    · exact List.suffix_append_self_iff.mpr ih

/-- A 64-bit signed number, as `clock_steps_ns` is. -/
def InInt64 (x : Int) : Prop := -2 ^ 63 ≤ x ∧ x < 2 ^ 63

/-- **The phase change an output tells**, after this past. -/
structure PhaseTold (past : List GmEntry) (e : GmEntry) : Prop where
  /-- A relayed change tells the jumps since the latest baseline. -/
  relayed : ∀ o ∈ e.output, e.changed = true → o.relaying = true →
    o.fields.phase = ptpScaledNsFromNs (jumpsSince GmEntry.settled past) ∧
      (InInt64 (jumpsSince GmEntry.settled past) →
        followUpPhaseChangeNs (informationTlv o.fields) =
          some (jumpsSince GmEntry.settled past))
  /-- A change to the clock's own time base tells none. -/
  own : ∀ o ∈ e.output, e.changed = true → o.relaying = false →
    followUpPhaseChangeNs (informationTlv o.fields) = some 0
  /-- What was before a change was told by it, if by any. -/
  once : ∀ older first between, past = older ++ first :: between → first.changed = true →
    since GmEntry.settled past <:+ between
  /-- Waiting, it repeats what was told. -/
  repeats : ∀ o ∈ e.output, o.waiting = true → ∃ earlier ∈ e.previous, o.fields = earlier.fields

/-! ## One call -/

variable {F : Type} {n : Nat}

section Call

variable {s : PtpState F n} {last : Option GmOutput} {e : GmEntry}

/-- The daemon and the history agree on what is a change, where the account is that of the
    last output. -/
theorem changed_publishes (haccount : GmAccount last s.ledger) (hprevious : e.previous = last)
    (houtput : e.output = some (gmOutput s)) (hwaits : s.gmWaits = false) :
    e.changed = s.gmChanged := by
  have hpublished := ptpFillGmFields_publishes hwaits
  unfold GmEntry.changed PtpState.gmChanged
  rw [hprevious, houtput]
  cases last with
  | none =>
    rw [show s.publishedGmValid = false from haccount.first rfl]
    rfl
  | some earlier =>
    rw [show s.publishedGmValid = true from haccount.valid earlier rfl,
      show s.publishedBtc = earlier.btc from haccount.btc earlier rfl,
      show s.publishedGmFields = earlier.fields from haccount.fields earlier rfl,
      ← hpublished.btc, ← hpublished.indicator]
    rfl

/-- What waits is no change yet. -/
theorem changed_waits (haccount : GmAccount last s.ledger) (hprevious : e.previous = last)
    (houtput : e.output = some (gmOutput s)) (hwaits : s.gmWaits = true) :
    e.changed = false := by
  obtain ⟨hbtc, hfields, -⟩ := ptpFillGmFields_waits hwaits
  unfold GmEntry.changed
  rw [hprevious, houtput]
  cases last with
  | none => rfl
  | some earlier =>
    have hsame : (gmOutput s).btc = earlier.btc := hbtc.trans (haccount.btc earlier rfl)
    have hrepeats : (gmOutput s).indicator = earlier.indicator :=
      congrArg GmFields.indicator (hfields.trans (haccount.fields earlier rfl))
    simp [hsame, hrepeats]

theorem settled_publishes (haccount : GmAccount last s.ledger) (hprevious : e.previous = last)
    (houtput : e.output = some (gmOutput s)) (hwaits : s.gmWaits = false) :
    e.settled = (!s.publishedGmValid || s.relaying || s.gmChanged) := by
  have hfirst : last.isNone = !s.publishedGmValid := by
    cases last with
    | none =>
      rw [show s.publishedGmValid = false from haccount.first rfl]
      rfl
    | some earlier =>
      rw [show s.publishedGmValid = true from haccount.valid earlier rfl]
      rfl
  have hchanged := changed_publishes haccount hprevious houtput hwaits
  unfold GmEntry.settled GmEntry.baseline GmEntry.waiting
  rw [houtput, hprevious, hfirst, hchanged]
  show ((!s.publishedGmValid || s.gmChanged || s.relaying) && !s.gmWaits) = _
  rw [hwaits, Bool.not_false, Bool.and_true, Bool.or_assoc, Bool.or_assoc,
    Bool.or_comm s.gmChanged]

theorem settled_waits (houtput : e.output = some (gmOutput s)) (hwaits : s.gmWaits = true) :
    e.settled = false := by
  unfold GmEntry.settled GmEntry.waiting
  rw [houtput]
  show (e.baseline && !s.gmWaits) = false
  rw [hwaits]
  exact Bool.and_false _

/-- A change does not wait, so it settles the account. -/
theorem settled_of_changed (haccount : GmAccount last s.ledger) (hprevious : e.previous = last)
    (houtput : e.output = some (gmOutput s)) (h : e.changed = true) : e.settled = true := by
  cases hwaits : s.gmWaits with
  | true =>
    rw [changed_waits haccount hprevious houtput hwaits] at h
    cases h
  | false =>
    rw [changed_publishes haccount hprevious houtput hwaits] at h
    rw [settled_publishes haccount hprevious houtput hwaits, h, Bool.or_true]

/-- The first output settles it. -/
theorem last_of_unsettled (haccount : GmAccount last s.ledger) (hprevious : e.previous = last)
    (houtput : e.output = some (gmOutput s)) (h : e.settled = false) : last ≠ none := by
  cases hwaits : s.gmWaits with
  | true => exact haccount.last_ne_none (gmChanged_valid (gmWaits_changed hwaits))
  | false =>
    rw [settled_publishes haccount hprevious houtput hwaits] at h
    simp only [Bool.or_eq_false_iff, Bool.not_eq_false'] at h
    exact haccount.last_ne_none h.1.1

/-- **The daemon's baseline moves where the history's does.** -/
theorem baseline_filled (haccount : GmAccount last s.ledger) (hprevious : e.previous = last)
    (houtput : e.output = some (gmOutput s)) :
    (ptpFillGmFields s).1.phaseBaselineStepsNs =
      if e.settled then s.clockStepsNs else s.phaseBaselineStepsNs := by
  cases hwaits : s.gmWaits with
  | true =>
    rw [settled_waits houtput hwaits, if_neg Bool.false_ne_true]
    exact congrArg GmLedger.phaseBaselineStepsNs (ptpFillGmFields_waits hwaits).ledger
  | false =>
    rw [settled_publishes haccount hprevious houtput hwaits]
    exact congrArg GmLedger.phaseBaselineStepsNs (ptpFillGmFields_publishes hwaits).ledger

end Call

/-! ## A run -/

/-- **The ledger.** The daemon counts from the baseline of the history, and every change is
    one. -/
structure LedgerKept (past : List GmEntry) (r : GmRun F n) : Prop where
  told : Always PhaseTold past
  jumps : r.last ≠ none → jumpsSince GmEntry.settled past =
    r.daemon.clockStepsNs - r.daemon.phaseBaselineStepsNs
  changes : ∀ e ∈ past, e.changed = true → e.settled = true

/-- No jump is told twice, whatever comes next. -/
theorem LedgerKept.once {past : List GmEntry} {r : GmRun F n} (h : LedgerKept past r)
    (older : List GmEntry) (first : GmEntry) (between : List GmEntry)
    (hpast : past = older ++ first :: between) (hchanged : first.changed = true) :
    since GmEntry.settled past <:+ between := by
  have hsettled : first.settled = true := h.changes first (by rw [hpast]; simp) hchanged
  rw [hpast]
  exact since_suffix hsettled older between

/-- A call after this past tells what it should. -/
theorem gmOutput_told {past : List GmEntry} {r : GmRun F n} {e : GmEntry}
    (haccount : GmAccount r.last r.daemon.ledger) (h : LedgerKept past r)
    (hprevious : e.previous = r.last) (houtput : e.output = some (gmOutput r.daemon)) :
    PhaseTold past e := by
  have honly : ∀ {o}, o ∈ e.output → gmOutput r.daemon = o := fun ho =>
    Option.some_inj.mp (houtput.symm.trans ho)
  cases hwaits : r.daemon.gmWaits with
  | true =>
    -- What waits is no change, and repeats what the account says was published.
    have hchanged := changed_waits haccount hprevious houtput hwaits
    refine ⟨?_, ?_, h.once, ?_⟩
    · intro o _ hnot
      rw [hchanged] at hnot
      cases hnot
    · intro o _ hnot
      rw [hchanged] at hnot
      cases hnot
    · intro o ho _
      obtain rfl := honly ho
      have hvalid : r.daemon.publishedGmValid = true := gmChanged_valid (gmWaits_changed hwaits)
      obtain ⟨earlier, hlast⟩ := Option.ne_none_iff_exists'.mp (haccount.last_ne_none hvalid)
      refine ⟨earlier, hprevious.trans hlast, ?_⟩
      exact (ptpFillGmFields_waits hwaits).fields.trans (haccount.fields earlier hlast)
  | false =>
    have hpublished := ptpFillGmFields_publishes hwaits
    have hchanged := changed_publishes haccount hprevious houtput hwaits
    refine ⟨?_, ?_, h.once, ?_⟩
    · -- The daemon's baseline is the history's, so their differences are too.
      intro o ho hchange hrelaying
      obtain rfl := honly ho
      rw [hchanged] at hchange
      have hphase := hpublished.phase hchange
      rw [show r.daemon.relaying = true from hrelaying, if_pos rfl] at hphase
      rw [h.jumps (haccount.last_ne_none (gmChanged_valid hchange))]
      exact ⟨hphase, fun hrange => followUpPhaseChangeNs_scaled hrange.1 hrange.2 hphase⟩
    · intro o ho hchange hrelaying
      obtain rfl := honly ho
      rw [hchanged] at hchange
      have hphase := hpublished.phase hchange
      rw [show r.daemon.relaying = false from hrelaying, if_neg Bool.false_ne_true] at hphase
      exact followUpPhaseChangeNs_scaled (by decide) (by decide) hphase
    · intro o ho hwaiting
      obtain rfl := honly ho
      rw [show r.daemon.gmWaits = true from hwaiting] at hwaits
      cases hwaits

variable [CDouble F]

/-- Between two calls only the clock moves. -/
theorem ledgerKept_quiet (cfg : Config) {past : List GmEntry} {r : GmRun F n}
    (event : GmEvent F n) (h : LedgerKept past r)
    (houtput : (gmStep cfg r event).2.output = none)
    (hlast : (gmStep cfg r event).1.last = r.last)
    (hledger : (gmStep cfg r event).1.daemon.ledger = r.daemon.ledger) :
    LedgerKept (past ++ [(gmStep cfg r event).2]) (gmStep cfg r event).1 := by
  have hjump : (gmStep cfg r event).2.jumpNs =
      (gmStep cfg r event).1.daemon.clockStepsNs - r.daemon.clockStepsNs := rfl
  have hbaseline : (gmStep cfg r event).1.daemon.phaseBaselineStepsNs =
      r.daemon.phaseBaselineStepsNs := congrArg GmLedger.phaseBaselineStepsNs hledger
  generalize (gmStep cfg r event).2 = e at houtput hjump ⊢
  have hsettled : e.settled = false := by
    unfold GmEntry.settled GmEntry.baseline
    rw [houtput]
    rfl
  have hchanged : e.changed = false := by
    unfold GmEntry.changed
    rw [houtput]
    cases e.previous <;> rfl
  have hsilent : ∀ {o}, o ∉ e.output := by
    intro o ho
    rw [houtput] at ho
    cases ho
  refine ⟨h.told.snoc ⟨fun o ho => (hsilent ho).elim, fun o ho => (hsilent ho).elim, h.once,
    fun o ho => (hsilent ho).elim⟩, ?_, ?_⟩
  · intro hsome
    rw [hlast] at hsome
    rw [jumpsSince_snoc, hsettled, if_neg Bool.false_ne_true, h.jumps hsome, hjump, hbaseline]
    omega
  · intro x hx hchange
    rcases List.mem_append.mp hx with hx | hx
    · exact h.changes x hx hchange
    · rw [List.mem_singleton.mp hx, hchanged] at hchange
      cases hchange

/-- A call settles the account, or waits and leaves it open. -/
theorem ledgerKept_filled (cfg : Config) {past : List GmEntry} {r : GmRun F n}
    (event : GmEvent F n) (haccount : GmAccount r.last r.daemon.ledger) (h : LedgerKept past r)
    (houtput : (gmStep cfg r event).2.output = some (gmOutput r.daemon))
    (hledger : (gmStep cfg r event).1.daemon.ledger = (ptpFillGmFields r.daemon).1.ledger)
    (hsteps : (gmStep cfg r event).1.daemon.clockStepsNs = r.daemon.clockStepsNs) :
    LedgerKept (past ++ [(gmStep cfg r event).2]) (gmStep cfg r event).1 := by
  have hprevious : (gmStep cfg r event).2.previous = r.last := rfl
  have hjump : (gmStep cfg r event).2.jumpNs = 0 := by
    show (gmStep cfg r event).1.daemon.clockStepsNs - r.daemon.clockStepsNs = 0
    rw [hsteps]
    exact Int.sub_self _
  have hbaseline : (gmStep cfg r event).1.daemon.phaseBaselineStepsNs =
      (ptpFillGmFields r.daemon).1.phaseBaselineStepsNs :=
    congrArg GmLedger.phaseBaselineStepsNs hledger
  generalize (gmStep cfg r event).2 = e at houtput hprevious hjump ⊢
  refine ⟨h.told.snoc (gmOutput_told haccount h hprevious houtput), ?_, ?_⟩
  · intro _
    rw [jumpsSince_snoc, hbaseline, hsteps, hjump, baseline_filled haccount hprevious houtput]
    cases hsettled : e.settled with
    | true => exact (Int.sub_self _).symm
    | false =>
      -- Nothing is settled, and nothing jumped: both counts go on from where they were.
      rw [if_neg Bool.false_ne_true, if_neg Bool.false_ne_true, Int.add_zero]
      exact h.jumps (last_of_unsettled haccount hprevious houtput hsettled)
  · intro x hx hchange
    rcases List.mem_append.mp hx with hx | hx
    · exact h.changes x hx hchange
    · rw [List.mem_singleton.mp hx] at hchange ⊢
      exact settled_of_changed haccount hprevious houtput hchange

/-- **The phase change told is the phase change made**, as far as it is told while relaying. -/
theorem phaseChange_told (cfg : Config) {s₀ : PtpState F n} (h : s₀.Unpublished)
    (events : List (GmEvent F n)) : Always PhaseTold (gmHistory cfg s₀ events) := by
  have hkept : LedgerKept (gmHistory cfg s₀ events) (run (gmStep cfg) ⟨s₀, none⟩ events) := by
    apply gmHistory_induction cfg h (P := LedgerKept)
    · refine ⟨.nil, fun hnone => (hnone rfl).elim, ?_⟩
      intro e he
      cases he
    · intro past r event haccount hpast
      cases gmStep_cases cfg r event with
      | kept houtput hlast hledger =>
        exact ledgerKept_quiet cfg event hpast houtput hlast hledger
      | filled houtput hlast hledger hsteps =>
        exact ledgerKept_filled cfg event haccount hpast houtput hledger hsteps
  exact hkept.told

/-! ## What is not told -/

/-- Every change, whoever's time base it is to, and every output of a source. -/
def PhaseMade (past : List GmEntry) (e : GmEntry) : Prop :=
  ∀ o ∈ e.output, e.changed = true →
    followUpPhaseChangeNs (informationTlv o.fields) = some (jumpsSince GmEntry.baseline past)

namespace Sample

/-- A Sync and its Follow_Up, sent at this second; the clock says 0. -/
def hearsSecond (seconds : UInt8) : List (GmEvent ℚ 0) :=
  [hears (neighborSync true (Vector.replicate 10 0)),
    hears ((neighborFollowUp 9).set 39 seconds)]

/-- The neighbor is relayed, the clock jumps, and the neighbor is lost. -/
def lostAfterJump : List (GmEvent ℚ 0) :=
  joining 9 ++ [fills] ++ hearsSecond 5 ++ [passes 900000000]

/-- The clock jumps to a neighbor that is lost again, and back soon. What is relayed then
    waits for the next Follow_Up. -/
def regainedAfterJump : List (GmEvent ℚ 0) :=
  joining 9 ++ [fills, passes 900000000, fills, passes 5] ++ hearsSecond 5 ++
    [passes 900000000, fills, passes 5, fills] ++ hearsSecond 0

end Sample

/-- Five seconds are made and none is told: the change is to the clock's own time base. Five
    are told and none is made since the output that waited. -/
theorem not_phaseMade :
    Sample.alone.Unpublished ∧
      ¬ Always PhaseMade
        (gmHistory Sample.config Sample.alone (Sample.lostAfterJump ++ [Sample.fills])) ∧
      ¬ Always PhaseMade
        (gmHistory Sample.config Sample.alone (Sample.regainedAfterJump ++ [Sample.fills])) := by
  refine ⟨⟨rfl, rfl⟩, ?_, ?_⟩
  · intro hclaim
    have hmade := hclaim _ _ [] (gmHistory_snoc ..) _ rfl (by decide +kernel)
    exact absurd hmade (by decide +kernel)
  · intro hclaim
    have hmade := hclaim _ _ [] (gmHistory_snoc ..) _ rfl (by decide +kernel)
    exact absurd hmade (by decide +kernel)

/-- The five seconds are told once the clock is updated. -/
theorem phaseChange_told_regained :
    Always PhaseTold
      (gmHistory Sample.config Sample.alone (Sample.regainedAfterJump ++ [Sample.fills])) :=
  phaseChange_told Sample.config ⟨rfl, rfl⟩ _

end EspPtp
