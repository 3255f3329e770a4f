import EspPtp.Daemon.Station
import EspPtp.Lib.Hysteresis
import EspPtp.Wifi.FtmSuccess

/-!
# What a station says of its time (`ptpd_wifi_sta_status`)

A station that takes its time from beacons counts as locked while what it applies is close
enough and recent enough, and as in holdover once it is not recent any more. The variables
behind that are changed in short sections of `s_status_lock`, from the task of the radio and
from the event loop; `StatusSection` are those sections, and nothing is assumed of the order
they come in.

That the variables add up to a hysteresis over the errors applied since the station last began
to acquire is `StatusRun`.
-/

namespace EspPtp

open Lib

/-- `STA_LOCK_WINDOW_US`. -/
def staLockWindowUs : Int := 375000

/-- `BEACON_LOCK_ENTER_NS`. -/
def beaconLockEnterNs : Int := 2000000

/-- `BEACON_LOCK_EXIT_NS`. -/
def beaconLockExitNs : Int := 4000000

/-- `PTP_WIFI_STATUS_UNKNOWN`. -/
def ptpWifiStatusUnknown : UInt8 := 0xff

/-- `PTP_WIFI_STATUS_AGE_NONE`. -/
def ptpWifiStatusAgeNone : Nat := 0xffff

/-- `status_clamp_ns`. -/
def statusClampNs (valueNs : Int) : Int :=
  if valueNs > 2147483647 then 2147483647
  else if valueNs < -2147483648 then -2147483648
  else valueNs

/-- The variables of `s_status_lock`. -/
structure BeaconStatus where
  staAssociatedUs : Int
  beaconAppliedUs : Int
  beaconWindowUs : Int
  beaconErrorNs : Int
  beaconErrorValid : Bool
  beaconConverged : Bool
  beaconWasLocked : Bool
  beaconPortIdentity : PortIdentity
  ftmRttNs : Int
  ftmRttValid : Bool
  apResets : UInt16
  ftmSuccess : PtpFtmSuccess
  deriving DecidableEq

/-- The variables before the first section. -/
def BeaconStatus.zero : BeaconStatus where
  staAssociatedUs := 0
  beaconAppliedUs := 0
  beaconWindowUs := 0
  beaconErrorNs := 0
  beaconErrorValid := false
  beaconConverged := false
  beaconWasLocked := false
  beaconPortIdentity := default
  ftmRttNs := 0
  ftmRttValid := false
  apResets := 0
  ftmSuccess := .zero

/-- The sections. -/
inductive StatusSection where
  /-- `beacon_status_reacquire`, and the other half of `beacon_status_new_source`. -/
  | reacquire
  | forgetIdentity
  /-- `beacon_status_applied`. -/
  | applied (errorNs nowUs : Int)
  /-- What `on_vendor_ie` notes of an element. -/
  | identity (port : PortIdentity)
  | window (windowUs : Int)
  /-- `ftm_status_measured`. -/
  | measured (valid : Bool) (rttNs nowUs : Int)
  /-- The sections of `on_wifi_event`. -/
  | associated (nowUs : Int)
  | disassociated
  | apReset
  deriving DecidableEq

namespace BeaconStatus

/-- The hysteresis of `beacon_status_applied`. -/
def convergedAfter (converged : Bool) (errorNs : Int) : Bool :=
  if |errorNs| ≤ beaconLockEnterNs then true
  else if |errorNs| > beaconLockExitNs then false
  else converged

/-- One section. -/
def take (st : BeaconStatus) : StatusSection → BeaconStatus
  | .reacquire =>
    { st with
      beaconAppliedUs := 0
      beaconErrorValid := false
      beaconConverged := false
      beaconWasLocked := false }
  | .forgetIdentity => { st with beaconPortIdentity := default }
  | .applied errorNs nowUs =>
    let converged := convergedAfter st.beaconConverged errorNs
    { st with
      beaconAppliedUs := nowUs
      beaconErrorNs := statusClampNs errorNs
      beaconErrorValid := true
      beaconConverged := converged
      beaconWasLocked := converged || st.beaconWasLocked }
  | .identity port => { st with beaconPortIdentity := port }
  | .window windowUs => { st with beaconWindowUs := windowUs }
  | .measured valid rttNs nowUs =>
    { st with
      ftmSuccess := ptpFtmSuccessRecord st.ftmSuccess nowUs valid
      ftmRttNs := if valid then rttNs else st.ftmRttNs
      ftmRttValid := valid || st.ftmRttValid }
  | .associated nowUs => { st with staAssociatedUs := nowUs, ftmRttValid := false }
  | .disassociated => { st with staAssociatedUs := 0 }
  | .apReset =>
    { st with apResets := if st.apResets < 0xffff then st.apResets + 1 else st.apResets }

/-- The window a status counts with. -/
def windowUs (st : BeaconStatus) : Int :=
  if st.beaconWindowUs ≠ 0 then st.beaconWindowUs else staLockWindowUs

/-- What was applied last is recent. -/
def fresh (st : BeaconStatus) (nowUs : Int) : Bool :=
  decide (st.beaconAppliedUs ≠ 0) && decide (nowUs - st.beaconAppliedUs ≤ st.windowUs)

end BeaconStatus

/-- `ptpd_wifi_sta_status_t` of a station that takes its time from beacons, without the mode and
    what is constant in it. -/
structure PtpdWifiStaStatus where
  associated : Bool
  locked : Bool
  holdover : Bool
  servoErrorValid : Bool
  servoErrorNs : Int
  rttValid : Bool
  rttNs : Int
  ftmSuccess : UInt8
  ftmBurstFrames : UInt8
  ftmBurstDuration : UInt8
  ftmMinDelta : UInt8
  timeAgeMs : Nat
  apResets : UInt16
  associationAgeS : UInt32
  apPortIdentity : PortIdentity
  deriving DecidableEq

/-- `ptpd_wifi_sta_status`; `media` is what `ptp_wifi_sta_media` finds, and `neighbor` the port
    of `ptp_wifi_sta_capability_status`. -/
def ptpdWifiStaStatus (st : BeaconStatus) (connected : Bool) (media : Option PtpWifiMedia)
    (neighbor : PortIdentity) (nowUs : Int) : PtpdWifiStaStatus :=
  let ranging : Option PtpWifiMedia := media.filter (·.ftmPeer)
  let appliedUs := st.beaconAppliedUs
  let ageMs := (nowUs - appliedUs).tdiv 1000
  { associated := connected
    locked := st.fresh nowUs && st.beaconConverged
    holdover := !st.fresh nowUs && st.beaconWasLocked
    servoErrorValid := st.beaconErrorValid
    servoErrorNs := st.beaconErrorNs
    rttValid := st.ftmRttValid
    rttNs := st.ftmRttNs
    ftmSuccess :=
      if ranging.isSome then ptpFtmSuccessPercent st.ftmSuccess nowUs else ptpWifiStatusUnknown
    ftmBurstFrames :=
      match ranging with
      | some media => if media.grantedFrames ≠ 0 then media.grantedFrames else ptpWifiStatusUnknown
      | none => 0
    ftmBurstDuration := if ranging.isSome then ptpWifiStatusUnknown else 0
    ftmMinDelta := if ranging.isSome then ptpWifiStatusUnknown else 0
    timeAgeMs :=
      if appliedUs ≠ 0 ∧ nowUs ≥ appliedUs ∧ ageMs < ptpWifiStatusAgeNone then ageMs.toNat
      else ptpWifiStatusAgeNone
    apResets := st.apResets
    associationAgeS :=
      if st.staAssociatedUs ≠ 0 ∧ connected = true then
        UInt32.ofInt ((nowUs - st.staAssociatedUs).tdiv 1000000)
      else 0
    apPortIdentity := if neighbor = default then st.beaconPortIdentity else neighbor }

/-! ## The errors since the station began to acquire -/

/-- What was applied, and when, since the last section that had the station acquire again. -/
def appliedSince (log : List StatusSection) : List (Int × Int) :=
  log.foldl (fun applied sec =>
    match sec with
    | .reacquire => []
    | .applied errorNs nowUs => applied ++ [(errorNs, nowUs)]
    | _ => applied) []

/-- An error that has the servo count as converged, and one that does not leave it so. -/
def LocksBy (applied : Int × Int) : Prop := |applied.1| ≤ beaconLockEnterNs
def UnlocksBy (applied : Int × Int) : Prop := |applied.1| > beaconLockExitNs

theorem LocksBy.not_unlocksBy {applied : Int × Int} (h : LocksBy applied) :
    ¬ UnlocksBy applied := by
  unfold LocksBy beaconLockEnterNs at h
  unfold UnlocksBy beaconLockExitNs
  omega

/-- **What the variables know** of the sections so far. -/
structure StatusRun (log : List StatusSection) (st : BeaconStatus) : Prop where
  converged : st.beaconConverged = true ↔ Latched LocksBy UnlocksBy (appliedSince log)
  wasLocked : st.beaconWasLocked = true ↔ ∃ applied ∈ appliedSince log, LocksBy applied
  appliedUs : st.beaconAppliedUs = ((appliedSince log).getLast?.map Prod.snd).getD 0
  errorValid : st.beaconErrorValid = true ↔ appliedSince log ≠ []
  errorNs : ∀ last ∈ (appliedSince log).getLast?, st.beaconErrorNs = statusClampNs last.1

namespace StatusRun

theorem start : StatusRun [] .zero where
  converged := ⟨fun hno => (by cases hno), fun hno => absurd hno not_latched_nil⟩
  wasLocked := by simp [BeaconStatus.zero, appliedSince]
  appliedUs := rfl
  errorValid := by simp [BeaconStatus.zero, appliedSince]
  errorNs := by simp [appliedSince]

variable {log : List StatusSection} {st : BeaconStatus}

/-- The variables of the lock are as before. -/
theorem congr (h : StatusRun log st) {log' : List StatusSection} {st' : BeaconStatus}
    (hlog : appliedSince log' = appliedSince log)
    (hconverged : st'.beaconConverged = st.beaconConverged)
    (hwasLocked : st'.beaconWasLocked = st.beaconWasLocked)
    (happlied : st'.beaconAppliedUs = st.beaconAppliedUs)
    (hvalid : st'.beaconErrorValid = st.beaconErrorValid)
    (herror : st'.beaconErrorNs = st.beaconErrorNs) : StatusRun log' st' where
  converged := by rw [hlog, hconverged]; exact h.converged
  wasLocked := by rw [hlog, hwasLocked]; exact h.wasLocked
  appliedUs := by rw [hlog, happlied]; exact h.appliedUs
  errorValid := by rw [hlog, hvalid]; exact h.errorValid
  errorNs := by rw [hlog, herror]; exact h.errorNs

theorem appliedSince_snoc (log : List StatusSection) (sec : StatusSection) :
    appliedSince (log ++ [sec]) =
      match sec with
      | .reacquire => []
      | .applied errorNs nowUs => appliedSince log ++ [(errorNs, nowUs)]
      | _ => appliedSince log := by
  unfold appliedSince
  rw [List.foldl_append]
  cases sec <;> rfl

/-- One more error is applied. -/
theorem applied (h : StatusRun log st) (errorNs nowUs : Int) :
    StatusRun (log ++ [.applied errorNs nowUs]) (st.take (.applied errorNs nowUs)) := by
  have hlog := appliedSince_snoc log (.applied errorNs nowUs)
  have hafter : BeaconStatus.convergedAfter st.beaconConverged errorNs = true ↔
      LocksBy (errorNs, nowUs) ∨ (st.beaconConverged = true ∧ ¬ UnlocksBy (errorNs, nowUs)) := by
    unfold BeaconStatus.convergedAfter LocksBy UnlocksBy
    dsimp only
    by_cases henter : |errorNs| ≤ beaconLockEnterNs
    · simp [henter]
    by_cases hleave : |errorNs| > beaconLockExitNs
    · simp [henter, hleave]
    · simp [henter, hleave]
  refine ⟨?_, ?_, ?_, ?_, ?_⟩
  · rw [hlog, latched_snoc, ← h.converged]
    exact hafter
  · rw [hlog]
    show (BeaconStatus.convergedAfter st.beaconConverged errorNs || st.beaconWasLocked) = true ↔ _
    rw [Bool.or_eq_true, hafter, h.wasLocked]
    constructor
    · rintro ((hlocks | ⟨hconverged, -⟩) | ⟨applied, happlied, hlocks⟩)
      · exact ⟨_, by simp, hlocks⟩
      · obtain ⟨applied, happlied, hlocks⟩ := (h.converged.mp hconverged).exists_enter
        exact ⟨applied, by simp [happlied], hlocks⟩
      · exact ⟨applied, by simp [happlied], hlocks⟩
    · rintro ⟨applied, happlied, hlocks⟩
      rcases List.mem_append.mp happlied with happlied | happlied
      · exact .inr ⟨applied, happlied, hlocks⟩
      · rw [List.mem_singleton.mp happlied] at hlocks
        exact .inl (.inl hlocks)
  · rw [hlog]
    simp [BeaconStatus.take]
  · rw [hlog]
    simp [BeaconStatus.take]
  · rw [hlog]
    simp [BeaconStatus.take]

/-- **Every section keeps it.** -/
theorem take (h : StatusRun log st) (sec : StatusSection) :
    StatusRun (log ++ [sec]) (st.take sec) := by
  cases sec with
  | reacquire =>
    have hlog := appliedSince_snoc log .reacquire
    refine ⟨?_, ?_, ?_, ?_, ?_⟩ <;> rw [hlog]
    · exact ⟨fun hno => (by cases hno), fun hno => absurd hno not_latched_nil⟩
    · simp [BeaconStatus.take]
    · rfl
    · simp [BeaconStatus.take]
    · simp
  | applied errorNs nowUs => exact h.applied errorNs nowUs
  | forgetIdentity | identity | window | measured | associated | disassociated | apReset =>
    exact h.congr (appliedSince_snoc log _) rfl rfl rfl rfl rfl

theorem foldl (log : List StatusSection) : StatusRun log (log.foldl BeaconStatus.take .zero) := by
  induction log using List.reverseRecOn with
  | nil => exact start
  | append_singleton log sec ih =>
    rw [List.foldl_append]
    exact ih.take sec

end StatusRun

end EspPtp
