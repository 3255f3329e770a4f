import EspPtp.Daemon.Generation
import EspPtp.Daemon.GmRun

/-!
# What a station sees of a change of time base

A station looks at `gmTimeBaseIndicator` and compares it with the one before: that is how it
learns that its access point follows another BTC, or none. So two outputs in a row that
describe different BTCs should carry different indicators.

The daemon does not choose all of them. What it relays it relays as received, and two sources,
or a source and the clock itself, may have chosen the same number. What it does choose is its
own indicator, at the moment it becomes its own BTC: one more than the indicator received
last. That tells the change as long as the indicator received last is the one relayed last.
-/

namespace EspPtp

open Lib

/-- `time_base` of `on_vendor_ie`, all that a station compares. -/
def GmOutput.timeBase (o : GmOutput) : UInt16 := be16 o.indicator

/-- The indicator received last, as a number. -/
def GmOutput.receivedTimeBase (o : GmOutput) : UInt16 := be16 o.received

/-- An output that describes another BTC than the one before carries another indicator. -/
def GmEntry.ChangeSeen (e : GmEntry) : Prop :=
  ∀ earlier ∈ e.previous, ∀ later ∈ e.output,
    earlier.btc ≠ later.btc → earlier.timeBase ≠ later.timeBase

instance (e : GmEntry) : Decidable e.ChangeSeen :=
  inferInstanceAs (Decidable (∀ earlier ∈ e.previous, _))

/-- What an output that describes another BTC tells of the change. -/
structure ChangeTold (earlier later : GmOutput) : Prop where
  /-- A relayed time base is the one received. -/
  relayed : later.relaying = true → later.timeBase = later.receivedTimeBase
  /-- So it tells the change where another one was received. -/
  another : later.relaying = true → later.receivedTimeBase ≠ earlier.timeBase →
    earlier.timeBase ≠ later.timeBase
  /-- The clock's own tells it where the one received last is the one told last. -/
  own : later.relaying = false → later.receivedTimeBase = earlier.timeBase →
    earlier.timeBase ≠ later.timeBase

def GmEntry.ChangeTold (e : GmEntry) : Prop :=
  ∀ earlier ∈ e.previous, ∀ later ∈ e.output,
    earlier.btc ≠ later.btc → EspPtp.ChangeTold earlier later

/-- Every change in the history is told. -/
def ChangesTold (h : List GmEntry) : Prop := ∀ e ∈ h, e.ChangeTold

variable {F : Type} {n : Nat}

/-! ## One call -/

/-- The next number is another number. -/
theorem uint16_ne_succ (x : UInt16) : x ≠ x + 1 := by
  intro h
  have hone : x + 0 = x + 1 := by rwa [UInt16.add_zero]
  exact absurd ((UInt16.add_right_inj x).mp hone) (by decide)

/-- A call that relays another BTC publishes it, with the indicator that came with it. -/
theorem gmOutput_relayed {s : PtpState F n} (hrelaying : s.relaying = true)
    (hanother : s.publishedBtc ≠ (gmOutput s).btc) :
    (gmOutput s).timeBase = (gmOutput s).receivedTimeBase := by
  cases hwaits : s.gmWaits with
  | true => exact absurd (ptpFillGmFields_waits hwaits).btc.symm hanother
  | false =>
    have hindicator := (ptpFillGmFields_publishes hwaits).indicator
    unfold PtpState.gmIndicator at hindicator
    rw [hrelaying, if_pos rfl] at hindicator
    exact congrArg be16 hindicator

/-- A call that finds the clock to be its own BTC, and no longer relaying, takes the number
    after the one received last. -/
theorem gmOutput_own {s : PtpState F n} (hrelaying : s.relaying = false)
    (hown : s.gmFieldsOwn = false) :
    (gmOutput s).timeBase = (gmOutput s).receivedTimeBase + 1 := by
  have hindicator := (ptpFillGmFields_publishes (gmWaits_own hrelaying)).indicator
  unfold PtpState.gmIndicator PtpTimeBase.ownIndicator at hindicator
  rw [hrelaying, hown, if_neg Bool.false_ne_true, if_neg Bool.false_ne_true] at hindicator
  exact (congrArg be16 hindicator).trans (be16_bytes _)

/-- The clock describes itself whenever it does not relay. -/
theorem gmOutput_btc_own {s : PtpState F n} (hrelaying : s.relaying = false) :
    (gmOutput s).btc = s.ownIdentity.btcIdentity := by
  rw [(ptpFillGmFields_publishes (gmWaits_own hrelaying)).btc]
  unfold PtpState.gmIdentity
  rw [hrelaying]
  rfl

theorem gmOutput_changeTold {s : PtpState F n} {earlier : GmOutput}
    (h : GmAccount (some earlier) s.ledger) (hanother : earlier.btc ≠ (gmOutput s).btc) :
    ChangeTold earlier (gmOutput s) := by
  have hpublished : s.publishedBtc = earlier.btc := h.btc earlier rfl
  have hrelayed : s.relaying = true →
      (gmOutput s).timeBase = (gmOutput s).receivedTimeBase := by
    intro hrelaying
    apply gmOutput_relayed hrelaying
    rw [hpublished]
    exact hanother
  refine ⟨hrelayed, ?_, ?_⟩
  · intro hrelaying hreceived
    rw [hrelayed hrelaying]
    exact hreceived.symm
  · intro hrelaying hreceived
    -- Its own before and after would be the same BTC.
    have hown : s.gmFieldsOwn = false := by
      by_contra hnot
      obtain ⟨o, ho, hbtc⟩ := h.own (Bool.not_eq_false _ ▸ hnot)
      cases ho
      exact hanother (hbtc.trans (gmOutput_btc_own hrelaying).symm)
    rw [gmOutput_own hrelaying hown, hreceived]
    exact uint16_ne_succ _

/-! ## A run -/

variable [CDouble F]

theorem gmStep_changeTold (cfg : Config) {r : GmRun F n} (e : GmEvent F n)
    (h : GmAccount r.last r.daemon.ledger) : (gmStep cfg r e).2.ChangeTold := by
  intro earlier hearlier later hlater hanother
  have hprevious : r.last = some earlier := hearlier
  cases gmStep_cases cfg r e with
  | kept houtput _ _ =>
    rw [houtput] at hlater
    cases hlater
  | filled houtput _ _ _ =>
    rw [houtput] at hlater
    obtain rfl : gmOutput r.daemon = later := Option.some_inj.mp hlater
    rw [hprevious] at h
    exact gmOutput_changeTold h hanother

/-- **Two outputs in a row that describe different BTCs**: the one relayed carries the
    indicator received, the clock's own another one than was received last. -/
theorem timeBase_changeTold (cfg : Config) {s₀ : PtpState F n} (h : s₀.Unpublished)
    (events : List (GmEvent F n)) : ChangesTold (gmHistory cfg s₀ events) := by
  apply gmHistory_induction cfg h (P := fun past _ => ChangesTold past)
  · intro e he
    cases he
  · intro past r event haccount hpast e he
    rcases List.mem_append.mp he with he | he
    · exact hpast e he
    · rw [List.mem_singleton.mp he]
      exact gmStep_changeTold cfg event haccount

/-! ## A source that chose the same number -/

namespace Sample

/-- A Follow_Up is sent. -/
def fills : GmEvent ℚ 0 := ⟨.gmFields, trivial⟩

/-- A message is received on port 0. -/
def hears (message : Bytes) : GmEvent ℚ 0 := ⟨.received (frameOf message (readAt 5)), trivial⟩

/-- A pass of the daemon finds the source valid, or not, at this time. -/
def passes (receiptUs : Int) : GmEvent ℚ 0 :=
  ⟨.validity { (default : ValidityTimes) with receiptUs := receiptUs }, trivial⟩

/-- The neighbor is selected, and its Sync and Follow_Up are received. -/
def joining (indicator : UInt8) : List (GmEvent ℚ 0) :=
  [hears (neighborAnnounce 100), passes 5, hears (neighborSync true (Vector.replicate 10 0)),
    hears (neighborFollowUp indicator)]

end Sample

/-- The clock's own first indicator is 1, and so is the neighbor's. -/
theorem not_changeSeen :
    ¬ ∀ (cfg : Config) (s₀ : PtpState ℚ 0) (events : List (GmEvent ℚ 0)), s₀.Unpublished →
      ∀ e ∈ gmHistory cfg s₀ events, e.ChangeSeen := by
  intro hclaim
  have hseen := hclaim Sample.config Sample.alone
    (Sample.fills :: Sample.joining 1 ++ [Sample.fills]) ⟨rfl, rfl⟩
  exact absurd hseen (by decide +kernel)

/-- Another source's change is told, and so is the loss of it. -/
theorem timeBase_changeTold_joined :
    ChangesTold (gmHistory Sample.config Sample.alone
      (Sample.fills :: Sample.joining 9 ++ [Sample.fills, Sample.passes 900000000, Sample.fills])) :=
  timeBase_changeTold Sample.config ⟨rfl, rfl⟩ _

end EspPtp
