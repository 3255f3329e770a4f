import EspPtp.Daemon.GmLedger

/-!
# Runs of `ptp_fill_gm_fields`

The daemon runs, and now and then it fills in the time base of a Follow_Up. `gmStep` is the
daemon's step with what such a call published, the output before it, and how far the event
moved the clock: a history of these is what the stations could have been told and what was
true meanwhile, and no field of the daemon's own account is in it.

`gmOutput` is the one place that looks into `ptp_fill_gm_fields`. Its lemmas say what a call
publishes when it relays, when it waits for the clock and when the time base is its own.
-/

namespace EspPtp

open Lib

variable {F : Type} {n : Nat}

/-! ## One call -/

/-- The indicator of this clock's own time base, where a call finds it to be its own. -/
def PtpTimeBase.ownIndicator (t : PtpTimeBase) : UInt16 :=
  if t.gmFieldsOwn then t.ownTimeBaseIndicator else be16 t.upstreamGmFields.indicator + 1

namespace PtpState

variable (s : PtpState F n)

/-- The indicator that goes with `gmIdentity`. -/
def gmIndicator : Vector UInt8 2 :=
  if s.relaying then s.upstreamGmFields.indicator else be16Bytes s.ownIndicator

/-- Another BTC or another indicator was published last. -/
def gmChanged : Bool :=
  s.publishedGmValid && (decide (s.gmIdentity ≠ s.publishedBtc) ||
    decide (s.gmIndicator ≠ s.publishedGmFields.indicator))

/-- A change while relaying waits for an update of the local clock. -/
def gmWaits : Bool :=
  s.relaying && s.gmChanged && decide (s.clockUpdates = s.publishedClockUpdates)

end PtpState

/-- What a call of `ptp_fill_gm_fields` publishes, and what it was made from. -/
structure GmOutput where
  /-- The call relays the selected source. -/
  relaying : Bool
  /-- What it would relay waits for an update of the local clock. -/
  waiting : Bool
  /-- The indicator received last. -/
  received : Vector UInt8 2
  /-- The BTC that the fields describe. -/
  btc : ClockIdentity
  fields : GmFields
  deriving DecidableEq

/-- `gmTimeBaseIndicator` of what is published. -/
def GmOutput.indicator (o : GmOutput) : Vector UInt8 2 := o.fields.indicator

def gmOutput (s : PtpState F n) : GmOutput where
  relaying := s.relaying
  waiting := s.gmWaits
  received := s.upstreamGmFields.indicator
  btc := (ptpFillGmFields s).1.publishedBtc
  fields := (ptpFillGmFields s).2

@[simp] theorem GmFields.phase_withPhase (fields : GmFields) (phase : Vector UInt8 12) :
    (fields.withPhase phase).phase = phase := by
  ext i hi
  have hrange : 2 ≤ 2 + i ∧ 2 + i < 14 := by omega
  simp [GmFields.phase, GmFields.withPhase, hrange]

/-! The first half of the call. -/

theorem gmFieldsSource_relayed (t : PtpTimeBase) :
    gmFieldsSource t true = ({ t with gmFieldsOwn := false }, t.upstreamGmFields) := rfl

theorem gmFieldsSource_self (t : PtpTimeBase) :
    gmFieldsSource t false =
      ({ t with gmFieldsOwn := true, ownTimeBaseIndicator := t.ownIndicator },
        ownGmFields t.ownIndicator) := by
  unfold gmFieldsSource PtpTimeBase.ownIndicator
  cases hown : t.gmFieldsOwn with
  | true => simp [← hown]
  | false => rfl

/-- **What a call that publishes does.** -/
structure GmPublished (s : PtpState F n) : Prop where
  btc : (gmOutput s).btc = s.gmIdentity
  indicator : (gmOutput s).indicator = s.gmIndicator
  /-- A change tells the jumps since the baseline, or none where it is to this clock. -/
  phase : s.gmChanged = true → (gmOutput s).fields.phase =
    ptpScaledNsFromNs (if s.relaying then s.clockStepsNs - s.phaseBaselineStepsNs else 0)
  ledger : (ptpFillGmFields s).1.ledger =
    { s.ledger with
      gmFieldsOwn := !s.relaying
      ownTimeBaseIndicator := if s.relaying then s.ownTimeBaseIndicator else s.ownIndicator
      publishedGmValid := true
      publishedBtc := (gmOutput s).btc
      publishedGmFields := (gmOutput s).fields
      publishedClockUpdates := s.clockUpdates
      phaseBaselineStepsNs :=
        if !s.publishedGmValid || s.relaying || s.gmChanged then s.clockStepsNs
        else s.phaseBaselineStepsNs }

/-- **What a call that waits does**: it says what it said. -/
structure GmWaiting (s : PtpState F n) : Prop where
  btc : (gmOutput s).btc = s.publishedBtc
  fields : (gmOutput s).fields = s.publishedGmFields
  ledger : (ptpFillGmFields s).1.ledger = { s.ledger with gmFieldsOwn := false }

/-- The second half, by whether the call publishes. -/
theorem gmFieldsPhase_eq (t : PtpTimeBase) (relaying changed : Bool) (fields : GmFields)
    (btc : ClockIdentity)
    (hchanged : (t.publishedGmValid && (decide (btc ≠ t.publishedBtc) ||
      decide (fields.indicator ≠ t.publishedGmFields.indicator))) = changed) :
    gmFieldsPhase t relaying fields btc =
      if relaying && changed && decide (t.clockUpdates = t.publishedClockUpdates) then
        (t, t.publishedGmFields)
      else
        let told :=
          if changed then
            fields.withPhase (ptpScaledNsFromNs
              (if relaying then t.clockStepsNs - t.phaseBaselineStepsNs else 0))
          else if t.publishedGmValid then fields.withPhase t.publishedGmFields.phase
          else fields
        ({ t with
            publishedBtc := btc
            publishedGmFields := told
            publishedClockUpdates := t.clockUpdates
            publishedGmValid := true
            phaseBaselineStepsNs :=
              if !t.publishedGmValid || relaying || changed then t.clockStepsNs
              else t.phaseBaselineStepsNs }, told) := by
  unfold gmFieldsPhase
  dsimp only
  rw [hchanged]
  by_cases hcount : t.clockUpdates = t.publishedClockUpdates
  · cases changed <;> cases relaying <;> cases t.publishedGmValid <;> simp [hcount]
  · cases changed <;> cases relaying <;> cases t.publishedGmValid <;> simp [hcount]

/-- What the second half compares does not depend on what the first half wrote. -/
theorem gmFieldsSource_changed (s : PtpState F n) :
    let sourced := gmFieldsSource s.toPtpTimeBase s.relaying
    (sourced.1.publishedGmValid && (decide (s.gmIdentity ≠ sourced.1.publishedBtc) ||
      decide (sourced.2.indicator ≠ sourced.1.publishedGmFields.indicator))) = s.gmChanged := by
  dsimp only
  unfold PtpState.gmChanged PtpState.gmIndicator
  cases s.relaying with
  | true => rfl
  | false =>
    rw [gmFieldsSource_self]
    simp

theorem ptpFillGmFields_waits {s : PtpState F n} (h : s.gmWaits = true) : GmWaiting s := by
  have hfilled : ptpFillGmFields s =
      ({ s with gmFieldsOwn := false }, s.publishedGmFields) := by
    have hwaits := h
    unfold PtpState.gmWaits at hwaits
    simp only [Bool.and_eq_true, decide_eq_true_eq] at hwaits
    obtain ⟨⟨hrelaying, hchanged⟩, hcount⟩ := hwaits
    unfold ptpFillGmFields
    dsimp only
    rw [gmFieldsPhase_eq _ _ _ _ _ (gmFieldsSource_changed s), hchanged, hrelaying,
      gmFieldsSource_relayed]
    simp [hcount]
  refine ⟨?_, ?_, ?_⟩
  · unfold gmOutput
    rw [hfilled]
  · unfold gmOutput
    rw [hfilled]
  · rw [hfilled]
    rfl

/-- The state a call that publishes leaves, around what it publishes. -/
theorem ptpFillGmFields_eq {s : PtpState F n} (h : s.gmWaits = false) :
    ∃ told : GmFields,
      told.indicator = s.gmIndicator ∧
      (s.gmChanged = true → told.phase = ptpScaledNsFromNs
        (if s.relaying then s.clockStepsNs - s.phaseBaselineStepsNs else 0)) ∧
      ptpFillGmFields s =
        ({ s with
            gmFieldsOwn := !s.relaying
            ownTimeBaseIndicator := if s.relaying then s.ownTimeBaseIndicator else s.ownIndicator
            publishedGmValid := true
            publishedBtc := s.gmIdentity
            publishedGmFields := told
            publishedClockUpdates := s.clockUpdates
            phaseBaselineStepsNs :=
              if !s.publishedGmValid || s.relaying || s.gmChanged then s.clockStepsNs
              else s.phaseBaselineStepsNs }, told) := by
  unfold PtpState.gmWaits at h
  unfold ptpFillGmFields
  dsimp only
  rw [gmFieldsPhase_eq _ _ _ _ _ (gmFieldsSource_changed s)]
  unfold PtpState.gmIndicator
  generalize s.gmChanged = changed at h ⊢
  cases hrelaying : s.relaying with
  | true =>
    rw [hrelaying] at h
    rw [gmFieldsSource_relayed, if_neg (Bool.eq_false_iff.mp h)]
    refine ⟨_, ?_, ?_, rfl⟩
    · cases changed <;> cases s.publishedGmValid <;> simp
    · rintro rfl
      simp
  | false =>
    rw [gmFieldsSource_self, Bool.false_and, Bool.false_and, if_neg Bool.false_ne_true]
    refine ⟨_, ?_, ?_, rfl⟩
    · cases changed <;> cases s.publishedGmValid <;> simp
    · rintro rfl
      simp

theorem ptpFillGmFields_publishes {s : PtpState F n} (h : s.gmWaits = false) :
    GmPublished s := by
  obtain ⟨told, hindicator, hphase, hfilled⟩ := ptpFillGmFields_eq h
  have hout : gmOutput s =
      ⟨s.relaying, s.gmWaits, s.upstreamGmFields.indicator, s.gmIdentity, told⟩ := by
    unfold gmOutput
    rw [hfilled]
  refine ⟨?_, ?_, ?_, ?_⟩
  · rw [hout]
  · rw [hout]
    exact hindicator
  · rw [hout]
    exact hphase
  · rw [hout, hfilled]
    rfl

/-- A call does not move the clock. -/
theorem ptpFillGmFields_steps (s : PtpState F n) :
    (ptpFillGmFields s).1.clockStepsNs = s.clockStepsNs := by
  unfold ptpFillGmFields
  dsimp only
  rw [gmFieldsPhase_eq _ _ _ _ _ rfl]
  cases s.relaying with
  | true =>
    dsimp only
    split_ifs <;> rfl
  | false =>
    rw [gmFieldsSource_self]
    dsimp only
    split_ifs <;> rfl

/-! ## A run -/

/-- The event leaves the time base to the functions it belongs to. -/
def DaemonEvent.LeavesTimeBase : DaemonEvent F n → Prop
  | .elsewhere other => ∀ s, (other.act s).toPtpTimeBase = s.toPtpTimeBase
  | _ => True

/-- An event of a run: whatever is received, selected, lost or injected. -/
abbrev GmEvent (F : Type) (n : Nat) := { e : DaemonEvent F n // e.LeavesTimeBase }

/-- The daemon, and what it published last. -/
structure GmRun (F : Type) (n : Nat) where
  daemon : PtpState F n
  last : Option GmOutput

/-- What happened in one event. -/
structure GmEntry where
  /-- By how much `clock_steps_ns` grew. -/
  jumpNs : Int
  /-- The output before, if there was one. -/
  previous : Option GmOutput
  output : Option GmOutput
  deriving DecidableEq

/-- `ptp_publish_local_source` gets as far as its Follow_Up. -/
def publishesLocal (cfg : Config) (s : PtpState F n) (answers : LocalSourceAnswers) : Bool :=
  s.originates cfg && answers.origin.any fun origin => decide (0 ≤ origin.tvSec)

/-- The output of an event. There are two callers of `ptp_fill_gm_fields`: a Follow_Up on its
    way, and the publication of the local source. -/
def DaemonEvent.gmOutput (cfg : Config) (s : PtpState F n) : DaemonEvent F n → Option GmOutput
  | .gmFields => some (EspPtp.gmOutput s)
  | .localSource answers =>
    if publishesLocal cfg s answers then some (EspPtp.gmOutput s) else none
  | _ => none

/-- The local source's Follow_Up is filled in like any other, and nothing else is. -/
theorem ptpPublishLocalSource_timeBase (cfg : Config) (s : PtpState F n)
    (answers : LocalSourceAnswers) :
    (ptpPublishLocalSource cfg s answers).ownIdentity = s.ownIdentity ∧
      (ptpPublishLocalSource cfg s answers).toPtpTimeBase =
        if publishesLocal cfg s answers then (ptpFillGmFields s).1.toPtpTimeBase
        else s.toPtpTimeBase := by
  unfold ptpPublishLocalSource publishesLocal
  cases s.originates cfg with
  | false => exact ⟨rfl, rfl⟩
  | true =>
    cases answers.origin with
    | none => exact ⟨rfl, rfl⟩
    | some origin =>
      by_cases hnegative : origin.tvSec < 0
      · have horigin : ¬ 0 ≤ origin.tvSec := by omega
        simp [hnegative, horigin]
      · have horigin : 0 ≤ origin.tvSec := by omega
        simp [hnegative, horigin]
        exact ⟨rfl, rfl⟩

theorem ledger_congr {s s' : PtpState F n} (htimeBase : s'.toPtpTimeBase = s.toPtpTimeBase)
    (hown : s'.ownIdentity = s.ownIdentity) : s'.ledger = s.ledger := by
  unfold PtpState.ledger
  rw [htimeBase, hown]

variable [CDouble F]

def gmStep (cfg : Config) (r : GmRun F n) (e : GmEvent F n) : GmRun F n × GmEntry :=
  let daemon := e.val.apply cfg r.daemon
  let output := e.val.gmOutput cfg r.daemon
  (⟨daemon, output <|> r.last⟩,
    ⟨daemon.clockStepsNs - r.daemon.clockStepsNs, r.last, output⟩)

/-- **What a step does to the account**: nothing, unless it is a call, which then is the whole
    of it. -/
inductive GmStepped (cfg : Config) (r : GmRun F n) (e : GmEvent F n) : Prop where
  | kept (houtput : (gmStep cfg r e).2.output = none) (hlast : (gmStep cfg r e).1.last = r.last)
      (hledger : (gmStep cfg r e).1.daemon.ledger = r.daemon.ledger)
  | filled (houtput : (gmStep cfg r e).2.output = some (gmOutput r.daemon))
      (hlast : (gmStep cfg r e).1.last = some (gmOutput r.daemon))
      (hledger : (gmStep cfg r e).1.daemon.ledger = (ptpFillGmFields r.daemon).1.ledger)
      (hsteps : (gmStep cfg r e).1.daemon.clockStepsNs = r.daemon.clockStepsNs)

theorem gmStep_cases (cfg : Config) (r : GmRun F n) (e : GmEvent F n) : GmStepped cfg r e := by
  obtain ⟨e, hleaves⟩ := e
  have hkept : e.gmOutput cfg r.daemon = none →
      (e.apply cfg r.daemon).ledger = r.daemon.ledger → GmStepped cfg r ⟨e, hleaves⟩ := by
    intro hnone hledger
    refine .kept hnone ?_ hledger
    show (e.gmOutput cfg r.daemon <|> r.last) = r.last
    rw [hnone]
    rfl
  cases e with
  | gmFields => exact .filled rfl rfl rfl (ptpFillGmFields_steps _)
  | localSource answers =>
    obtain ⟨hown, htimeBase⟩ := ptpPublishLocalSource_timeBase cfg r.daemon answers
    cases hpublishes : publishesLocal cfg r.daemon answers with
    | false =>
      rw [hpublishes] at htimeBase
      apply hkept
      · show (if _ then _ else _) = none
        rw [hpublishes]
        rfl
      · exact ledger_congr htimeBase hown
    | true =>
      rw [hpublishes, if_pos rfl] at htimeBase
      have houtput : DaemonEvent.gmOutput cfg r.daemon (.localSource answers) =
          some (gmOutput r.daemon) := if_pos hpublishes
      refine .filled houtput ?_ (ledger_congr htimeBase hown) ?_
      · show (DaemonEvent.gmOutput cfg r.daemon (.localSource answers) <|> r.last) = _
        rw [houtput]
        rfl
      · show (ptpPublishLocalSource cfg r.daemon answers).clockStepsNs = _
        rw [htimeBase]
        exact ptpFillGmFields_steps _
  | elsewhere other =>
    -- The time base is left alone by assumption, and the identity is in the view.
    apply hkept rfl
    apply ledger_congr (hleaves r.daemon)
    exact congrArg SourceView.ownIdentity (other.view r.daemon)
  | capability times => exact hkept rfl (checkCapability_ledger ..)
  | received frame => exact hkept rfl (receive_ledger ..)
  | validity times => exact hkept rfl (revalidate_ledger ..)
  | fallback nowUs dropping => exact hkept rfl (ptpCheckProfileFallback_ledger ..)
  | armFallback => exact hkept rfl (ptpArmProfileFallback_ledger ..)
  | setProfile profile => exact hkept rfl (ptpdSetProfile_ledger ..)
  | injectSync p message times => exact hkept rfl (ptpdInjectSync_ledger ..)
  | injectSyncPair p remoteNs localNs times => exact hkept rfl (ptpdInjectSyncPair_ledger ..)
  | ftmObserved p identity domain logInterval receivedUs nowUs mono =>
    exact hkept rfl (ptpdFtmSourceObserved_ledger ..)

/-! ## The account is that of the last output -/

/-- What the account says of the last output: nothing, if there was none. A time base of its
    own was what was published last. -/
structure GmAccount (last : Option GmOutput) (l : GmLedger) : Prop where
  first : last = none → l.publishedGmValid = false
  valid : ∀ o, last = some o → l.publishedGmValid = true
  btc : ∀ o, last = some o → l.publishedBtc = o.btc
  fields : ∀ o, last = some o → l.publishedGmFields = o.fields
  own : l.gmFieldsOwn = true → ∃ o, last = some o ∧ o.btc = l.ownBtc

/-- Nothing was published yet. -/
structure PtpState.Unpublished (s : PtpState F n) : Prop where
  valid : s.publishedGmValid = false
  own : s.gmFieldsOwn = false

omit [CDouble F] in
theorem PtpState.Unpublished.account {s : PtpState F n} (h : s.Unpublished) :
    GmAccount none s.ledger where
  first _ := h.valid
  valid o hnone := by cases hnone
  btc o hnone := by cases hnone
  fields o hnone := by cases hnone
  own hown := by
    have hnot : s.gmFieldsOwn = true := hown
    rw [h.own] at hnot
    cases hnot

/-- What was published was an output. -/
theorem GmAccount.last_ne_none {last : Option GmOutput} {l : GmLedger} (h : GmAccount last l)
    (hvalid : l.publishedGmValid = true) : last ≠ none := by
  intro hnone
  rw [h.first hnone] at hvalid
  cases hvalid

omit [CDouble F] in
/-- A change needs something it differs from. -/
theorem gmChanged_valid {s : PtpState F n} (h : s.gmChanged = true) :
    s.publishedGmValid = true := by
  unfold PtpState.gmChanged at h
  exact (Bool.and_eq_true_iff.mp h).1

omit [CDouble F] in
/-- Only a change waits. -/
theorem gmWaits_changed {s : PtpState F n} (h : s.gmWaits = true) : s.gmChanged = true := by
  unfold PtpState.gmWaits at h
  simp only [Bool.and_eq_true] at h
  exact h.1.2

omit [CDouble F] in
/-- Nothing of its own waits. -/
theorem gmWaits_own {s : PtpState F n} (h : s.relaying = false) : s.gmWaits = false := by
  unfold PtpState.gmWaits
  rw [h]
  rfl

omit [CDouble F] in
theorem gmOutput_account (s : PtpState F n) :
    GmAccount (some (gmOutput s)) (ptpFillGmFields s).1.ledger := by
  cases hwaits : s.gmWaits with
  | true =>
    obtain ⟨hbtc, hfields, hledger⟩ := ptpFillGmFields_waits hwaits
    rw [hledger]
    -- Even waiting the clock relays, so no time base of its own is left to account for.
    refine ⟨fun hnone => (by cases hnone), ?_, ?_, ?_, fun hown => (by cases hown)⟩
    · intro o _
      exact gmChanged_valid (gmWaits_changed hwaits)
    · rintro o ⟨⟩
      exact hbtc.symm
    · rintro o ⟨⟩
      exact hfields.symm
  | false =>
    have hpublished := ptpFillGmFields_publishes hwaits
    rw [hpublished.ledger]
    refine ⟨fun hnone => (by cases hnone), fun o _ => rfl, ?_, ?_, ?_⟩
    · rintro o ⟨⟩
      rfl
    · rintro o ⟨⟩
      rfl
    · intro hown
      have hrelaying : s.relaying = false := by simpa using hown
      refine ⟨_, rfl, ?_⟩
      rw [hpublished.btc]
      unfold PtpState.gmIdentity
      rw [hrelaying]
      rfl

theorem gmStep_account (cfg : Config) {r : GmRun F n} (e : GmEvent F n)
    (h : GmAccount r.last r.daemon.ledger) :
    GmAccount (gmStep cfg r e).1.last (gmStep cfg r e).1.daemon.ledger := by
  cases gmStep_cases cfg r e with
  | kept houtput hlast hledger =>
    rw [hlast, hledger]
    exact h
  | filled houtput hlast hledger hsteps =>
    rw [hlast, hledger]
    exact gmOutput_account r.daemon

/-! ## Histories -/

/-- The history of a run from a daemon that starts. -/
def gmHistory (cfg : Config) (s₀ : PtpState F n) (events : List (GmEvent F n)) : List GmEntry :=
  (trace (gmStep cfg) ⟨s₀, none⟩ events).map Prod.snd

theorem gmHistory_snoc (cfg : Config) (s₀ : PtpState F n) (events : List (GmEvent F n))
    (e : GmEvent F n) :
    gmHistory cfg s₀ (events ++ [e]) =
      gmHistory cfg s₀ events ++ [(gmStep cfg (run (gmStep cfg) ⟨s₀, none⟩ events) e).2] := by
  unfold gmHistory
  rw [trace_snoc, List.map_append]
  rfl

/-- What holds at the start, and is kept by one more entry while the account is that of the
    last output, holds of every history. -/
theorem gmHistory_induction (cfg : Config) {s₀ : PtpState F n} (h : s₀.Unpublished)
    {P : List GmEntry → GmRun F n → Prop} (hinit : P [] ⟨s₀, none⟩)
    (hstep : ∀ past r e, GmAccount r.last r.daemon.ledger → P past r →
      P (past ++ [(gmStep cfg r e).2]) (gmStep cfg r e).1)
    (events : List (GmEvent F n)) :
    P (gmHistory cfg s₀ events) (run (gmStep cfg) ⟨s₀, none⟩ events) := by
  let Q (past : List (GmEvent F n × GmEntry)) (r : GmRun F n) : Prop :=
    GmAccount r.last r.daemon.ledger ∧ P (past.map Prod.snd) r
  have hkept : ∀ past r e, Q past r →
      Q (past ++ [(e, (gmStep cfg r e).2)]) (gmStep cfg r e).1 := by
    intro past r e hpast
    refine ⟨gmStep_account cfg e hpast.1, ?_⟩
    rw [List.map_append]
    exact hstep _ r e hpast.1 hpast.2
  have hrun : Q (trace (gmStep cfg) ⟨s₀, none⟩ events) (run (gmStep cfg) ⟨s₀, none⟩ events) :=
    run_induction ⟨h.account, hinit⟩ hkept events
  exact hrun.2

end EspPtp
