import EspPtp.Daemon.Run

/-!
# The profile that was asked for

`active_ptp_profile` is the profile in effect and `preferred_ptp_profile` the one to return
to: the AVB Lite fallback degrades the first only, and a link-up or a restart of the
receiver brings them together again. Four tasks write the two, the latch and the reason
told to the application, and `ProfileFields` is these four fields with what each of the
functions does to them.

`ptpd_set_profile` does nothing where the profile asked for is already in effect. During a
fallback that is the standard profile, and then the call does not become the intent: the
next link-up returns to gPTP. And the reason for standard PTP by configuration is only
given when the fallback is armed, not by the call that configures it. Both take a call for
the standard profile, and `profileIntent_iff` says that nothing else does.
-/

namespace EspPtp

open Lib

variable {F : Type} [CDouble F] {n : Nat}

/-- The profile in effect and the configured one, with `gptp_fallback_done` and
    `avb_lite_fallback_reason`. -/
structure ProfileFields where
  active : PtpProfile
  preferred : PtpProfile
  latched : Bool
  reason : Nat
  deriving DecidableEq

/-- The fields of the daemon. -/
def PtpState.profileFields (s : PtpState F n) : ProfileFields where
  active := s.activePtpProfile
  preferred := s.preferredPtpProfile
  latched := s.gptpFallbackDone
  reason := s.avbLiteFallbackReason

/-! ## What the functions do to the fields -/

namespace ProfileFields

/-- The window for the evaluation starts anew, if the profile in effect is gPTP. -/
def startWindow (v : ProfileFields) : ProfileFields :=
  if v.active = .gptp then { v with latched := false, reason := 0 } else { v with reason := 4 }

/-- `ptp_arm_profile_fallback`. -/
def arm (v : ProfileFields) : ProfileFields := startWindow { v with active := v.preferred }

/-- `ptpd_set_profile`. -/
def set (v : ProfileFields) (profile : PtpProfile) : ProfileFields :=
  if v.active = profile then v
  else
    let v := { v with active := profile, preferred := profile }
    if profile = .gptp then v.arm else v

/-- A fallback is in force: the configured profile is gPTP, and another one in effect. -/
def Degraded (v : ProfileFields) : Prop :=
  v.active ≠ v.preferred ∧ v.preferred = .gptp ∧ v.latched = true

instance (v : ProfileFields) : Decidable v.Degraded :=
  inferInstanceAs (Decidable (_ ∧ _))

end ProfileFields

/-- What an evaluation of the fallback does: nothing, or one of its three conditions has
    degraded gPTP. -/
inductive FallbackStep (v v' : ProfileFields) : Prop
  | kept (h : v' = v)
  | degraded (hgptp : v.active = .gptp) (reason : Nat) (hreason : 1 ≤ reason ∧ reason ≤ 3)
      (h : v' = { v with active := .standard, latched := true, reason := reason })

theorem ptpResetForProfile_profileFields (cfg : Config) (s : PtpState F n) :
    (ptpResetForProfile cfg s).profileFields = s.profileFields := rfl

omit [CDouble F] in
theorem startFallbackWindow_profileFields (s : PtpState F n) :
    (startFallbackWindow s).profileFields = s.profileFields.startWindow := by
  have hactive : s.profileFields.active = s.activePtpProfile := rfl
  unfold startFallbackWindow PtpState.isGptp ProfileFields.startWindow
  rw [hactive]
  by_cases hgptp : s.activePtpProfile = .gptp
  · rw [if_pos hgptp, decide_eq_true hgptp]
    rfl
  · rw [if_neg hgptp, decide_eq_false hgptp]
    rfl

theorem ptpArmProfileFallback_profileFields (cfg : Config) (s : PtpState F n) :
    (ptpArmProfileFallback cfg s).profileFields = s.profileFields.arm := by
  unfold ptpArmProfileFallback ProfileFields.arm
  rw [startFallbackWindow_profileFields]
  by_cases hsame : s.activePtpProfile = s.preferredPtpProfile
  · rw [if_neg (not_not.mpr hsame)]
    apply congrArg ProfileFields.startWindow
    unfold PtpState.profileFields
    rw [hsame]
  · rw [if_pos hsame, ptpResetForProfile_profileFields]
    rfl

theorem ptpdSetProfile_profileFields (cfg : Config) (s : PtpState F n)
    (profile : PtpProfile) :
    (ptpdSetProfile cfg s profile).profileFields = s.profileFields.set profile := by
  have hactive : s.profileFields.active = s.activePtpProfile := rfl
  unfold ptpdSetProfile ProfileFields.set
  rw [hactive]
  by_cases hsame : s.activePtpProfile = profile
  · rw [if_pos hsame, if_pos hsame]
  · rw [if_neg hsame, if_neg hsame]
    dsimp only
    by_cases hgptp : profile = .gptp
    · rw [if_pos hgptp, if_pos hgptp, ptpArmProfileFallback_profileFields,
        ptpResetForProfile_profileFields]
      rfl
    · rw [if_neg hgptp, if_neg hgptp, ptpResetForProfile_profileFields]
      rfl

theorem fallBack_degraded (cfg : Config) {s s' : PtpState F n} {reason : Nat}
    (hgptp : s.isGptp = true) (hreason : 1 ≤ reason ∧ reason ≤ 3)
    (h : s'.profileFields = s.profileFields) :
    FallbackStep s.profileFields (fallBack cfg s' reason).profileFields := by
  refine .degraded (of_decide_eq_true hgptp) reason hreason ?_
  rw [← h]
  rfl

theorem ptpCheckProfileFallback_step (cfg : Config) (s : PtpState F n) (nowUs : Int)
    (dropping : Bool) :
    FallbackStep s.profileFields
      (ptpCheckProfileFallback cfg s nowUs dropping).profileFields := by
  unfold ptpCheckProfileFallback
  by_cases hskip : (!cfg.avbLiteEndpoint || !s.isGptp || s.gptpFallbackDone ||
      decide (s.port0.type = .bridged)) = true
  · rw [if_pos hskip]
    exact .kept rfl
  · rw [if_neg hskip]
    simp only [Bool.or_eq_true, Bool.not_eq_true', not_or, Bool.not_eq_false] at hskip
    have hgptp := hskip.1.1.2
    dsimp only
    split_ifs
    · exact fallBack_degraded cfg hgptp (by decide) rfl
    · exact .kept rfl
    · exact fallBack_degraded cfg hgptp (by decide) rfl
    · exact fallBack_degraded cfg hgptp (by decide) rfl
    · exact .kept rfl

/-! ## Runs -/

/-- The daemon with `s_eth_rx_restarted`. -/
structure ProfileSystem (F : Type) (n : Nat) where
  daemon : PtpState F n
  rxRestarted : Bool

/-- Whatever leaves the four fields alone, which is everything but the functions above. It
    is how a peer declares itself an endpoint, exchanges are lost or several peers
    respond. -/
structure ProfileElsewhere (F : Type) (n : Nat) where
  act : PtpState F n → PtpState F n
  profileFields : ∀ s, (act s).profileFields = s.profileFields

inductive ProfileStep (F : Type) (n : Nat) where
  | setProfile (profile : PtpProfile)
  /-- The evaluation of the fallback at the end of a pass. -/
  | fallback (nowUs : Int) (dropping : Bool)
  /-- `ETHERNET_EVENT_CONNECTED`. -/
  | linkUp
  /-- `ptpd_eth_rx_restarted`, and the top of the pass that takes it up. -/
  | rxRestarted
  | passTop
  | elsewhere (other : ProfileElsewhere F n)

/-- One step. -/
def profileAct (cfg : Config) (s : ProfileSystem F n) : ProfileStep F n → ProfileSystem F n
  | .setProfile profile => { s with daemon := ptpdSetProfile cfg s.daemon profile }
  | .fallback nowUs dropping =>
    { s with daemon := ptpCheckProfileFallback cfg s.daemon nowUs dropping }
  | .linkUp => { s with daemon := ptpArmProfileFallback cfg s.daemon }
  | .rxRestarted => { s with rxRestarted := true }
  | .passTop =>
    if s.rxRestarted then ⟨ptpArmProfileFallback cfg s.daemon, false⟩ else s
  | .elsewhere other => { s with daemon := other.act s.daemon }

/-- The fields after a run. -/
def fieldsAfter (cfg : Config) (s₀ : ProfileSystem F n) (steps : List (ProfileStep F n)) :
    ProfileFields := (steps.foldl (profileAct cfg) s₀).daemon.profileFields

/-- A link-up, or a pass that takes up a restart. -/
def Rearms (s : ProfileSystem F n) : ProfileStep F n → Prop
  | .linkUp => True
  | .passTop => s.rxRestarted = true
  | _ => False

/-- What a step may do to the fields; `rearms` says whether it re-arms the fallback. -/
inductive ProfileFieldsStep (v v' : ProfileFields) (rearms : Prop) :
    ProfileStep F n → Prop
  | set (profile : PtpProfile) (hrearms : ¬ rearms) (h : v' = v.set profile) :
      ProfileFieldsStep v v' rearms (.setProfile profile)
  | evaluated {step : ProfileStep F n} (hrearms : ¬ rearms)
      (hset : ∀ profile, step ≠ .setProfile profile)
      (h : FallbackStep v v') : ProfileFieldsStep v v' rearms step
  | armed {step : ProfileStep F n} (hrearms : rearms)
      (hset : ∀ profile, step ≠ .setProfile profile)
      (h : v' = v.arm) : ProfileFieldsStep v v' rearms step

theorem profileAct_fields (cfg : Config) (s : ProfileSystem F n) (step : ProfileStep F n) :
    ProfileFieldsStep s.daemon.profileFields (profileAct cfg s step).daemon.profileFields
      (Rearms s step) step := by
  cases step with
  | setProfile profile =>
    exact .set profile id (ptpdSetProfile_profileFields cfg s.daemon profile)
  | fallback nowUs dropping =>
    exact .evaluated id (fun _ h => by cases h)
      (ptpCheckProfileFallback_step cfg s.daemon nowUs dropping)
  | linkUp =>
    exact .armed trivial (fun _ h => by cases h)
      (ptpArmProfileFallback_profileFields cfg s.daemon)
  | rxRestarted => exact .evaluated id (fun _ h => by cases h) (.kept rfl)
  | passTop =>
    unfold profileAct
    by_cases hrestarted : s.rxRestarted = true
    · rw [if_pos hrestarted]
      exact .armed hrestarted (fun _ h => by cases h)
        (ptpArmProfileFallback_profileFields cfg s.daemon)
    · rw [if_neg hrestarted]
      exact .evaluated hrestarted (fun _ h => by cases h) (.kept rfl)
  | elsewhere other =>
    exact .evaluated id (fun _ h => by cases h) (.kept (other.profileFields s.daemon))

/-- The profile of the last call of `ptpd_set_profile`. -/
def intended (booted : PtpProfile) (steps : List (ProfileStep F n)) : PtpProfile :=
  steps.foldl
    (fun intent step =>
      match step with
      | .setProfile profile => profile
      | _ => intent) booted

omit [CDouble F] in
theorem intended_snoc (booted : PtpProfile) (steps : List (ProfileStep F n))
    (step : ProfileStep F n) :
    intended booted (steps ++ [step]) =
      match step with
      | .setProfile profile => profile
      | _ => intended booted steps := by
  unfold intended
  rw [List.foldl_append]
  rfl

omit [CDouble F] in
/-- Only a call says what is intended. -/
theorem intended_other (booted : PtpProfile) (steps : List (ProfileStep F n))
    {step : ProfileStep F n} (hset : ∀ profile, step ≠ .setProfile profile) :
    intended booted (steps ++ [step]) = intended booted steps := by
  rw [intended_snoc]
  cases step with
  | setProfile profile => exact absurd rfl (hset profile)
  | _ => rfl

omit [CDouble F] in
/-- Only a call configures another profile. -/
theorem ProfileFieldsStep.preferred_other {v v' : ProfileFields} {rearms : Prop}
    {step : ProfileStep F n} (h : ProfileFieldsStep v v' rearms step)
    (hset : ∀ profile, step ≠ .setProfile profile) : v'.preferred = v.preferred := by
  cases h with
  | set profile hrearms hv' => exact absurd rfl (hset profile)
  | evaluated hrearms _ hv' =>
    cases hv' with
    | kept hkept => rw [hkept]
    | degraded hgptp reason hreason hdegraded => rw [hdegraded]
  | armed hrearms _ hv' =>
    rw [hv']
    unfold ProfileFields.arm ProfileFields.startWindow
    split <;> rfl

theorem fieldsAfter_snoc (cfg : Config) (s₀ : ProfileSystem F n)
    (steps : List (ProfileStep F n)) (step : ProfileStep F n) :
    ProfileFieldsStep (fieldsAfter cfg s₀ steps) (fieldsAfter cfg s₀ (steps ++ [step]))
      (Rearms (steps.foldl (profileAct cfg) s₀) step) step := by
  unfold fieldsAfter
  rw [List.foldl_append]
  exact profileAct_fields cfg _ step

/-! ## What is kept -/

/-- The configured profile is the intended one, another is in effect only during a fallback,
    and the reason tells which of it is the case. -/
structure TellsIntent (intent : PtpProfile) (v : ProfileFields) : Prop where
  preferred : v.preferred = intent
  degraded : v.active ≠ v.preferred → v.Degraded
  fallback : (1 ≤ v.reason ∧ v.reason ≤ 3) ↔ v.Degraded
  configured : v.reason = 4 ↔ v.preferred = .standard
  otherwise : v.reason ≤ 4

/-- What the claim says of the state after a run. -/
structure KeepsIntent (cfg : Config) (s₀ : ProfileSystem F n)
    (steps : List (ProfileStep F n)) : Prop where
  tells : TellsIntent (intended s₀.daemon.preferredPtpProfile steps) (fieldsAfter cfg s₀ steps)
  rearmed : ∀ before step, steps = before ++ [step] →
    Rearms (before.foldl (profileAct cfg) s₀) step →
    (fieldsAfter cfg s₀ steps).active = intended s₀.daemon.preferredPtpProfile steps

/-- The daemon as `ptp_initialize_state` leaves it. -/
structure ProfileBoot (cfg : Config) (s₀ : ProfileSystem F n) : Prop where
  fields : s₀.daemon.profileFields =
    (let profile := if cfg.gptpProfile then .gptp else .standard
    ⟨profile, profile, false, 0⟩)

/-- Nobody has asked for the standard profile: gPTP is in effect, or its fallback. -/
inductive GptpIntended (v : ProfileFields) : Prop
  | inEffect (h : v = ⟨.gptp, .gptp, false, 0⟩)
  | fallenBack (reason : Nat) (hreason : 1 ≤ reason ∧ reason ≤ 3)
      (h : v = ⟨.standard, .gptp, true, reason⟩)

theorem GptpIntended.tells {v : ProfileFields} (h : GptpIntended v) : TellsIntent .gptp v := by
  cases h with
  | inEffect h =>
    subst h
    exact ⟨rfl, fun hne => absurd rfl hne, by decide, by decide, by decide⟩
  | fallenBack reason hreason h =>
    subst h
    have hdegraded : ProfileFields.Degraded ⟨.standard, .gptp, true, reason⟩ :=
      ⟨fun hsame => (by cases hsame), rfl, rfl⟩
    refine ⟨rfl, fun _ => hdegraded, ⟨fun _ => hdegraded, fun _ => hreason⟩, ?_, ?_⟩
    · constructor
      · intro hfour
        dsimp only at hfour
        omega
      · intro hstandard
        cases hstandard
    · dsimp only
      omega

theorem GptpIntended.arm {v : ProfileFields} (h : GptpIntended v) :
    v.arm = ⟨.gptp, .gptp, false, 0⟩ := by
  cases h with
  | inEffect h => rw [h]; rfl
  | fallenBack reason hreason h => rw [h]; rfl

theorem GptpIntended.set_gptp {v : ProfileFields} (h : GptpIntended v) :
    v.set .gptp = ⟨.gptp, .gptp, false, 0⟩ := by
  cases h with
  | inEffect h => rw [h]; rfl
  | fallenBack reason hreason h => rw [h]; rfl

/-- The call that goes wrong: it is not taken for the intent during a fallback, and without
    one not told. -/
theorem GptpIntended.set_standard {v : ProfileFields} (h : GptpIntended v) :
    ¬ TellsIntent .standard (v.set .standard) := by
  intro htells
  cases h with
  | inEffect h =>
    subst h
    exact absurd (htells.configured.mpr rfl) (by decide)
  | fallenBack reason hreason h =>
    subst h
    cases htells.preferred

theorem GptpIntended.evaluated {v v' : ProfileFields} (h : GptpIntended v)
    (hstep : FallbackStep v v') : GptpIntended v' := by
  cases hstep with
  | kept hkept => exact hkept ▸ h
  | degraded hgptp reason hreason hv' =>
    cases h with
    | inEffect h =>
      subst h
      exact .fallenBack reason hreason hv'
    | fallenBack reason' hreason' h =>
      subst h
      cases hgptp

section Result

variable {cfg : Config} {s₀ : ProfileSystem F n} {steps : List (ProfileStep F n)}

/-- Another profile than the configured one is in effect only during a fallback, whatever is
    called when. -/
theorem degraded_run (hboot : ProfileBoot cfg s₀)
    (hother : (fieldsAfter cfg s₀ steps).active ≠ (fieldsAfter cfg s₀ steps).preferred) :
    (fieldsAfter cfg s₀ steps).Degraded := by
  induction steps using List.reverseRecOn with
  | nil =>
    rw [show fieldsAfter cfg s₀ [] = _ from hboot.fields] at hother
    exact absurd rfl hother
  | append_singleton steps step ih =>
    change (fieldsAfter cfg s₀ steps).active ≠ _ → (fieldsAfter cfg s₀ steps).Degraded at ih
    cases fieldsAfter_snoc cfg s₀ steps step with
    | set profile _ h =>
      rw [h] at hother ⊢
      unfold ProfileFields.set at hother ⊢
      by_cases hsame : (fieldsAfter cfg s₀ steps).active = profile
      · rw [if_pos hsame] at hother ⊢
        exact ih hother
      · rw [if_neg hsame] at hother
        cases profile with
        | standard => exact absurd rfl hother
        | gptp => exact absurd rfl hother
    | evaluated hrearms hset h =>
      cases h with
      | kept hkept =>
        rw [hkept] at hother ⊢
        exact ih hother
      | degraded hgptp reason hreason hv' =>
        -- What is degraded was in effect as configured.
        have hconfigured : (fieldsAfter cfg s₀ steps).preferred = .gptp := by
          by_contra hne
          exact hne (ih fun hsame => hne (hsame ▸ hgptp)).2.1
        rw [hv']
        exact ⟨fun hsame => (by cases hsame.trans hconfigured), hconfigured, rfl⟩
    | armed hrearms hset h =>
      rw [h] at hother
      unfold ProfileFields.arm ProfileFields.startWindow at hother
      split at hother
      · exact absurd rfl hother
      · exact absurd rfl hother

/-- The configured profile is the last one asked for, as long as nobody asks for the standard
    profile during a fallback. -/
theorem preferred_intended_iff (hboot : ProfileBoot cfg s₀) :
    (∀ before after, steps = before ++ after →
        (fieldsAfter cfg s₀ before).preferred =
          intended s₀.daemon.preferredPtpProfile before) ↔
      ∀ before after, steps = before ++ .setProfile .standard :: after →
        ¬ (fieldsAfter cfg s₀ before).Degraded := by
  constructor
  · rintro hkept before after rfl hdegraded
    have hlast := hkept (before ++ [.setProfile .standard]) after (by simp)
    rw [intended_snoc] at hlast
    have hactive : (fieldsAfter cfg s₀ before).active = .standard := by
      have hne := hdegraded.1
      rw [hdegraded.2.1] at hne
      cases hprofile : (fieldsAfter cfg s₀ before).active with
      | standard => rfl
      | gptp => exact absurd hprofile hne
    cases fieldsAfter_snoc cfg s₀ before (.setProfile .standard) with
    | set profile _ h =>
      rw [h, ProfileFields.set, if_pos hactive] at hlast
      cases hdegraded.2.1.symm.trans hlast
    | evaluated hrearms hset h => exact hset _ rfl
    | armed hrearms hset h => exact hset _ rfl
  · rintro hcalls before
    induction before using List.reverseRecOn with
    | nil => exact fun _ _ => rfl
    | append_singleton before step ih =>
      rintro after rfl
      have hbefore := ih ([step] ++ after) (by simp)
      have hfields := fieldsAfter_snoc cfg s₀ before step
      by_cases hset : ∀ profile, step ≠ .setProfile profile
      · rw [intended_other _ _ hset, hfields.preferred_other hset, hbefore]
      · obtain ⟨profile, hprofile⟩ := not_forall.mp hset
        obtain rfl := not_not.mp hprofile
        rw [intended_snoc]
        cases hfields with
        | set _ _ h =>
          rw [h]
          unfold ProfileFields.set
          by_cases hsame : (fieldsAfter cfg s₀ before).active = profile
          · rw [if_pos hsame]
            by_contra hother
            have hdegraded := degraded_run hboot
              (fun heq => hother (heq.symm.trans hsame))
            cases profile with
            | standard => exact hcalls before after (by simp) hdegraded
            | gptp => exact hother hdegraded.2.1
          · rw [if_neg hsame]
            cases profile with
            | standard => rfl
            | gptp => rfl
        | evaluated hrearms hnot h => exact absurd rfl (hnot profile)
        | armed hrearms hnot h => exact absurd rfl (hnot profile)

/-- In a run without a call for the standard profile, gPTP is intended. -/
theorem gptpIntended_run (hboot : ProfileBoot cfg s₀) (hgptp : cfg.gptpProfile = true)
    (hsteps : .setProfile .standard ∉ steps) :
    GptpIntended (fieldsAfter cfg s₀ steps) ∧
      intended s₀.daemon.preferredPtpProfile steps = .gptp := by
  induction steps using List.reverseRecOn with
  | nil =>
    have hfields := hboot.fields
    rw [hgptp] at hfields
    exact ⟨.inEffect hfields, congrArg ProfileFields.preferred hfields⟩
  | append_singleton steps step ih =>
    rw [List.mem_append, List.mem_singleton, not_or] at hsteps
    obtain ⟨hintended, hlast⟩ := ih hsteps.1
    cases fieldsAfter_snoc cfg s₀ steps step with
    | set profile _ h =>
      have hprofile : profile = .gptp := by
        cases profile with
        | gptp => rfl
        | standard => exact absurd rfl hsteps.2
      subst hprofile
      refine ⟨.inEffect ?_, intended_snoc ..⟩
      rw [h]
      exact hintended.set_gptp
    | evaluated hrearms hset h =>
      exact ⟨hintended.evaluated h, (intended_other _ _ hset).trans hlast⟩
    | armed hrearms hset h =>
      refine ⟨.inEffect ?_, (intended_other _ _ hset).trans hlast⟩
      rw [h]
      exact hintended.arm

/-- **The exact condition**: the intent is kept, and told, in every state of a run exactly
    when the daemon is built for gPTP and nobody asks for the standard profile. -/
theorem profileIntent_iff (hboot : ProfileBoot cfg s₀) :
    (∀ before after, steps = before ++ after → KeepsIntent cfg s₀ before) ↔
      cfg.gptpProfile = true ∧ .setProfile .standard ∉ steps := by
  constructor
  · intro hkeeps
    have hgptp : cfg.gptpProfile = true := by
      by_contra hstandard
      have htells := (hkeeps [] steps rfl).tells
      rw [show fieldsAfter cfg s₀ [] = _ from hboot.fields, if_neg hstandard] at htells
      exact absurd (htells.configured.mpr rfl) (by decide)
    refine ⟨hgptp, ?_⟩
    induction steps using List.reverseRecOn with
    | nil => simp
    | append_singleton steps step ih =>
      have hsteps := ih fun before after h =>
        hkeeps before (after ++ [step]) (by rw [h, List.append_assoc])
      rw [List.mem_append, List.mem_singleton, not_or]
      refine ⟨hsteps, ?_⟩
      rintro rfl
      -- The first call for the standard profile is not kept or not told.
      have htells := (hkeeps (steps ++ [.setProfile .standard]) [] (by simp)).tells
      rw [intended_snoc] at htells
      cases fieldsAfter_snoc cfg s₀ steps (.setProfile .standard) with
      | set profile _ h =>
        rw [h] at htells
        exact (gptpIntended_run hboot hgptp hsteps).1.set_standard htells
      | evaluated hrearms hset h => exact hset _ rfl
      | armed hrearms hset h => exact hset _ rfl
  · rintro ⟨hgptp, hsteps⟩ before after rfl
    rw [List.mem_append, not_or] at hsteps
    obtain ⟨hintended, hlast⟩ := gptpIntended_run hboot hgptp hsteps.1
    constructor
    · rw [hlast]
      exact hintended.tells
    · rintro earlier step rfl hrearms
      rw [List.mem_append, not_or] at hsteps
      rw [hlast]
      cases fieldsAfter_snoc cfg s₀ earlier step with
      | set profile hnot h => exact absurd hrearms hnot
      | evaluated hnot hset h => exact absurd hrearms hnot
      | armed _ hset h =>
        rw [h]
        exact congrArg ProfileFields.active (gptpIntended_run hboot hgptp hsteps.1.1).1.arm

end Result

namespace Sample

/-- The peer declares itself an endpoint. -/
def endpointDeclared : ProfileElsewhere ℚ 0 where
  act s := s.withPort0 { s.port0 with peerIsEndpoint := true }
  profileFields _ := rfl

/-- The evaluation falls back for it. -/
def fallingBack : List (ProfileStep ℚ 0) := [.elsewhere endpointDeclared, .fallback 0 false]

end Sample

/-- Standard PTP is asked for during a fallback, and the next link-up is back in gPTP. -/
theorem not_keepsIntent :
    ¬ ∀ (cfg : Config) (s₀ : ProfileSystem ℚ 0) (steps : List (ProfileStep ℚ 0)),
      cfg.avbLiteEndpoint = true → ProfileBoot cfg s₀ → KeepsIntent cfg s₀ steps := by
  intro hclaim
  have hkept := hclaim Sample.config ⟨Sample.alone, false⟩
    (Sample.fallingBack ++ [.setProfile .standard, .linkUp]) rfl ⟨rfl⟩
  exact absurd hkept.tells.preferred (by decide +kernel)

theorem profileIntent_iff_fallingBack :
    (∀ before after, Sample.fallingBack ++ [.linkUp] = before ++ after →
        KeepsIntent Sample.config ⟨Sample.alone, false⟩ before) ↔
      Sample.config.gptpProfile = true ∧
        .setProfile .standard ∉ Sample.fallingBack ++ [.linkUp] :=
  profileIntent_iff ⟨rfl⟩

end EspPtp
