import EspPtp.Daemon.Station
import EspPtp.Lib.History

/-!
# FTM sessions (`ptp_ftm_session.h`, the FTM part of `ptp_wifi.c`)

A ranging session takes a while, and its report disciplines the clock. By then the station
may have left the access point, or the access point may have asked it to stop. The code
does not follow what happens meanwhile: it keeps the association and the revision it began
with in `s_ftm_timing` and compares them with the present ones when the report comes. That
this is enough is `ftmReport_uninterrupted`.

The session, `s_ftm_timing` and the connected bit belong to the event loop, whose handlers
are the steps here. The start and the report read the port in one section of `s_peer_lock`
each, and that is where they are placed among the sections of the daemon.
-/

namespace EspPtp

open Lib

/-- `ptp_ftm_session_t`. -/
structure PtpFtmSession where
  pending : Bool
  valid : Bool
  peer : MacAddr
  deriving DecidableEq, Inhabited

/-- `ptp_ftm_session_begin`. -/
def ptpFtmSessionBegin (session : PtpFtmSession) (peer : MacAddr) : PtpFtmSession × Bool :=
  if session.pending then (session, false)
  else ({ pending := true, valid := true, peer := peer }, true)

/-- `ptp_ftm_session_invalidate`. -/
def ptpFtmSessionInvalidate (session : PtpFtmSession) : PtpFtmSession :=
  { session with valid := false }

/-- `ptp_ftm_session_finish`. -/
def ptpFtmSessionFinish (session : PtpFtmSession) (peer : MacAddr) (connected : Bool) :
    PtpFtmSession × Bool :=
  ({ session with pending := false, valid := false },
    session.pending && session.valid && connected && decide (session.peer = peer))

/-- `ptp_wifi_sta_timing_t`. -/
structure PtpWifiStaTiming where
  association : UInt32
  revision : UInt32
  bssid : MacAddr
  stopped : Bool
  deriving DecidableEq, Inhabited

variable {F : Type}

/-- `ptpd_wifi_sta_timing_snapshot`. -/
def ptpdWifiStaTimingSnapshot (gptp : Bool) (port : PtpPort F) : Option PtpWifiStaTiming :=
  if port.wifiOpen gptp .sta && port.wifiNeighbor.associated && port.wifiNeighbor.bound then
    some
      { association := port.wifiNeighbor.association
        revision := port.wifiNeighbor.sync.revision
        bssid := port.wifiNeighbor.bssid
        stopped := port.wifiNeighbor.sync.stopped }
  else none

/-- The station with what the event loop keeps for its sessions. -/
structure FtmStation (F : Type) extends Station F where
  /-- `BIT_STA_CONNECTED`. -/
  connected : Bool
  /-- `s_ftm_session` and `s_ftm_timing`. -/
  session : PtpFtmSession
  timing : PtpWifiStaTiming

inductive FtmStep where
  | port (sec : StationSection)
  /-- A change of profile with its reset. -/
  | profile (gptp : Bool)
  /-- The cases of `on_wifi_event`; `stop` is `WIFI_EVENT_STA_STOP`. -/
  | staConnected
  | staDisconnected (stop : Bool)
  | report (peer : MacAddr) (apInfo : Option MacAddr) (beaconFresh : Bool)
  /-- The controls of `on_ftm_control`; `initiated` is the answer of the driver. -/
  | start (apInfo : Option MacAddr) (beaconFresh initiated : Bool)
  | cancel

/-- The peer of a session that was begun and initiated, and whether a report was
    accepted. -/
structure FtmAnswer where
  begun : Option MacAddr
  accepted : Bool
  deriving DecidableEq

def FtmAnswer.none : FtmAnswer := ⟨.none, false⟩

namespace FtmStation

variable (s : FtmStation F)

/-- `cancel_ftm_session`. -/
def cancelFtmSession : FtmStation F :=
  { s with session := ptpFtmSessionInvalidate s.session }

/-- The session is begun, and given up when the driver refuses it. -/
def initiate (bssid : MacAddr) (initiated : Bool) : FtmStation F × FtmAnswer :=
  let begun := (ptpFtmSessionBegin s.session bssid).1
  if initiated then ({ s with session := begun }, ⟨some bssid, false⟩)
  -- No report will come of a session that the driver refused.
  else ({ s with session := { begun with pending := false, valid := false } }, .none)

/-- `FTM_CONTROL_START`. -/
def onFtmControlStart (discipline : Bool) (apInfo : Option MacAddr)
    (beaconFresh initiated : Bool) : FtmStation F × FtmAnswer :=
  if s.session.pending then (s, .none)
  else
    match s.connected, apInfo with
    | true, some bssid =>
      if discipline then
        match ptpdWifiStaTimingSnapshot s.gptp s.port with
        | none => (s, .none)
        | some timing =>
          let s := { s with timing := timing }
          if timing.stopped ∨ timing.bssid ≠ bssid then (s, .none)
          else s.initiate bssid initiated
      else if !beaconFresh then (s, .none)
      else s.initiate bssid initiated
    | _, _ => (s, .none)

/-- Nothing the session was begun with has changed. -/
def timingCurrent : Bool :=
  match ptpdWifiStaTimingSnapshot s.gptp s.port with
  | none => false
  | some current =>
    !current.stopped && decide (current.association = s.timing.association) &&
      decide (current.revision = s.timing.revision) && decide (current.bssid = s.timing.bssid)

/-- `WIFI_EVENT_FTM_REPORT`, up to the answer of `ptp_ftm_session_finish`. -/
def onFtmReport (discipline : Bool) (peer : MacAddr) (apInfo : Option MacAddr)
    (beaconFresh : Bool) : FtmStation F × FtmAnswer :=
  -- Without FTM discipline a fresh beacon stands in for what the daemon knows.
  let connected := s.connected && decide (apInfo = some peer) && (discipline || beaconFresh)
  let connected := if discipline then connected && s.timingCurrent else connected
  let finished := ptpFtmSessionFinish s.session peer connected
  ({ s with session := finished.1 }, ⟨.none, finished.2⟩)

end FtmStation

/-- One step of the event loop or the daemon. -/
def ftmStep (cfg : Config) (discipline : Bool) (s : FtmStation F) :
    FtmStep → FtmStation F × FtmAnswer
  | .port sec => ({ s with toStation := stationSection cfg s.toStation sec }, .none)
  | .profile gptp =>
    ({ s with
        toStation := stationSection cfg { s.toStation with gptp := gptp } .resetForProfile },
      .none)
  | .staConnected => ({ s.cancelFtmSession with connected := true }, .none)
  | .staDisconnected stop =>
    let cancelled := s.cancelFtmSession
    let session :=
      if stop then { cancelled.session with pending := false } else cancelled.session
    ({ cancelled with connected := false, session := session }, .none)
  | .report peer apInfo beaconFresh => s.onFtmReport discipline peer apInfo beaconFresh
  | .start apInfo beaconFresh initiated =>
    s.onFtmControlStart discipline apInfo beaconFresh initiated
  | .cancel => (s.cancelFtmSession, .none)

/-! ## What a session is begun with -/

/-- The session that a report may finish. -/
def PtpFtmSession.isOpen (session : PtpFtmSession) : Bool := session.pending && session.valid

/-- An association in force: with this number, this access point and this port, in the gPTP
    profile, and not stopped. -/
structure InForce (association : UInt32) (bssid : MacAddr) (identity : PortIdentity)
    (s : Station F) : Prop where
  gptp : s.gptp = true
  associated : s.port.wifiNeighbor.associated = true
  association : s.port.wifiNeighbor.association = association
  bssid : s.port.wifiNeighbor.bssid = bssid
  bound : s.port.wifiNeighbor.bound = true
  portIdentity : s.port.wifiNeighbor.portIdentity = identity
  stopped : s.port.wifiNeighbor.sync.stopped = false

theorem ptpdWifiStaTimingSnapshot_some {gptp : Bool} {port : PtpPort F}
    {timing : PtpWifiStaTiming} (h : ptpdWifiStaTimingSnapshot gptp port = some timing) :
    gptp = true ∧ port.wifiNeighbor.associated = true ∧ port.wifiNeighbor.bound = true ∧
      timing =
        { association := port.wifiNeighbor.association
          revision := port.wifiNeighbor.sync.revision
          bssid := port.wifiNeighbor.bssid
          stopped := port.wifiNeighbor.sync.stopped } := by
  unfold ptpdWifiStaTimingSnapshot at h
  split at h
  · rename_i hopen
    simp only [PtpPort.wifiOpen, Bool.and_eq_true] at hopen
    exact ⟨hopen.1.1.1.1.2, hopen.1.2, hopen.2, (Option.some.inj h).symm⟩
  · cases h

/-- What `begun` says of the state it leaves. -/
structure SessionBegun (peer : MacAddr) (s : FtmStation F) : Prop where
  session : s.session = ⟨true, true, peer⟩
  timing : s.timing =
    { association := s.port.wifiNeighbor.association
      revision := s.port.wifiNeighbor.sync.revision
      bssid := peer
      stopped := false }
  inForce : InForce s.port.wifiNeighbor.association peer s.port.wifiNeighbor.portIdentity
    s.toStation

theorem initiate_cases {s : FtmStation F} {timing : PtpWifiStaTiming} (initiated : Bool)
    (hidle : s.session.pending = false)
    (hsnapshot : ptpdWifiStaTimingSnapshot s.gptp s.port = some timing)
    (hstopped : timing.stopped = false) :
    let begun := ({ s with timing := timing } : FtmStation F).initiate timing.bssid initiated
    (begun.2.begun = some timing.bssid ∧ SessionBegun timing.bssid begun.1) ∨
      (begun.2.begun = none ∧ begun.1.session.isOpen = false) := by
  obtain ⟨hgptp, hassociated, hbound, rfl⟩ := ptpdWifiStaTimingSnapshot_some hsnapshot
  have hrunning : s.port.wifiNeighbor.sync.stopped = false := hstopped
  cases initiated with
  | false => exact .inr ⟨rfl, rfl⟩
  | true =>
    refine .inl ⟨rfl, ?_, ?_, ⟨hgptp, hassociated, rfl, rfl, hbound, rfl, hrunning⟩⟩
    · show (ptpFtmSessionBegin s.session s.port.wifiNeighbor.bssid).1 = _
      unfold ptpFtmSessionBegin
      rw [hidle]
      rfl
    · show PtpWifiStaTiming.mk _ _ _ s.port.wifiNeighbor.sync.stopped = _
      rw [hrunning]
      rfl

/-- A start either begins a session with what it finds, or leaves none that was not open
    before. -/
theorem onFtmControlStart_cases (s : FtmStation F) (apInfo : Option MacAddr)
    (beaconFresh initiated : Bool) :
    let started := s.onFtmControlStart true apInfo beaconFresh initiated
    (∃ peer, started.2.begun = some peer ∧ SessionBegun peer started.1) ∨
      (started.2.begun = none ∧
        (started.1.session.isOpen = true →
          started.1.session = s.session ∧ started.1.timing = s.timing)) := by
  unfold FtmStation.onFtmControlStart
  by_cases hpending : s.session.pending = true
  · rw [if_pos hpending]
    exact .inr ⟨rfl, fun _ => ⟨rfl, rfl⟩⟩
  · rw [if_neg hpending]
    -- Without a pending session, none is open afterwards unless one is begun.
    have hclosed (timing : PtpWifiStaTiming) :
        ({ s with timing := timing } : FtmStation F).session.isOpen = false := by
      show (s.session.pending && s.session.valid) = false
      simp [hpending]
    have hnone (h : s.session.isOpen = true) : False := by
      rw [hclosed s.timing] at h
      cases h
    split
    · rename_i bssid hconnected
      simp only [if_true]
      cases hsnapshot : ptpdWifiStaTimingSnapshot s.gptp s.port with
      | none => exact .inr ⟨rfl, fun h => (hnone h).elim⟩
      | some timing =>
        dsimp only
        split
        · refine .inr ⟨rfl, fun h => ?_⟩
          rw [hclosed timing] at h
          cases h
        · rename_i hmatch
          rw [not_or, not_not] at hmatch
          obtain rfl := hmatch.2
          rcases initiate_cases initiated (Bool.eq_false_iff.mpr hpending) hsnapshot
              (Bool.eq_false_iff.mpr hmatch.1) with hbegun | ⟨hnone, hshut⟩
          · exact .inl ⟨_, hbegun⟩
          · refine .inr ⟨hnone, fun h => ?_⟩
            rw [hshut] at h
            cases h
    · exact .inr ⟨rfl, fun h => (hnone h).elim⟩

/-- The steps that cancel the session or take a report. -/
def FtmStep.ends : FtmStep → Bool
  | .staConnected | .staDisconnected _ | .report _ _ _ | .cancel => true
  | .port _ | .profile _ | .start _ _ _ => false

/-- A step that neither ends a session nor begins one. -/
def Quiet (entry : FtmStep × FtmAnswer) : Prop :=
  entry.1.ends = false ∧ entry.2.begun = none

/-- **Where an open session comes from**: a step begins it, or leaves it alone. -/
theorem ftmStep_open (cfg : Config) {s : FtmStation F} {step : FtmStep}
    (hopen : (ftmStep cfg true s step).1.session.isOpen = true) :
    (∃ peer, (ftmStep cfg true s step).2.begun = some peer ∧
        SessionBegun peer (ftmStep cfg true s step).1) ∨
      (Quiet (step, (ftmStep cfg true s step).2) ∧
        (ftmStep cfg true s step).1.session = s.session ∧
        (ftmStep cfg true s step).1.timing = s.timing) := by
  have hcancelled (session : PtpFtmSession) (pending : Bool)
      (h : PtpFtmSession.isOpen { session with pending := pending, valid := false } = true) :
      False := by
    simp [PtpFtmSession.isOpen] at h
  cases step with
  | port sec => exact .inr ⟨⟨rfl, rfl⟩, rfl, rfl⟩
  | profile gptp => exact .inr ⟨⟨rfl, rfl⟩, rfl, rfl⟩
  | staConnected => exact (hcancelled _ _ hopen).elim
  | staDisconnected stop =>
    cases stop with
    | false => exact (hcancelled s.session _ hopen).elim
    | true => exact (hcancelled s.session _ hopen).elim
  | cancel => exact (hcancelled _ _ hopen).elim
  | report peer apInfo beaconFresh => exact (hcancelled s.session _ hopen).elim
  | start apInfo beaconFresh initiated =>
    rcases onFtmControlStart_cases s apInfo beaconFresh initiated with
      hbegun | ⟨hnone, hkept⟩
    · exact .inl hbegun
    · exact .inr ⟨⟨rfl, hnone⟩, hkept hopen⟩

section Runs

variable (cfg : Config)

/-- The state a run of the machine with FTM discipline leads to. -/
abbrev ftmRun (s : FtmStation F) (steps : List FtmStep) : FtmStation F :=
  run (ftmStep cfg true) s steps

variable {cfg} {s s₀ : FtmStation F}

/-- **The open session** of a run: the step that began it, and nothing since that would have
    ended it. -/
theorem ftmRun_open (hidle : s₀.session.isOpen = false) (steps : List FtmStep)
    (hopen : (ftmRun cfg s₀ steps).session.isOpen = true) :
    ∃ before begin after peer, steps = before ++ begin :: after ∧
      (ftmStep cfg true (ftmRun cfg s₀ before) begin).2.begun = some peer ∧
      SessionBegun peer (ftmRun cfg s₀ (before ++ [begin])) ∧
      (∀ entry ∈ trace (ftmStep cfg true) (ftmRun cfg s₀ (before ++ [begin])) after,
        Quiet entry) ∧
      (ftmRun cfg s₀ steps).session = ⟨true, true, peer⟩ ∧
      (ftmRun cfg s₀ steps).timing = (ftmRun cfg s₀ (before ++ [begin])).timing := by
  induction steps using List.reverseRecOn with
  | nil =>
    rw [show (ftmRun cfg s₀ []).session.isOpen = false from hidle] at hopen
    cases hopen
  | append_singleton steps step ih =>
    rw [show ftmRun cfg s₀ (steps ++ [step]) = _ from run_snoc s₀ steps step] at hopen
    rcases ftmStep_open cfg hopen with ⟨peer, hbegun, hstate⟩ | ⟨hquiet, hsession, htiming⟩
    · refine ⟨steps, step, [], peer, rfl, hbegun, ?_, ?_, ?_, rfl⟩
      · rw [show ftmRun cfg s₀ (steps ++ [step]) = _ from run_snoc s₀ steps step]
        exact hstate
      · intro entry hentry
        cases hentry
      · rw [show ftmRun cfg s₀ (steps ++ [step]) = _ from run_snoc s₀ steps step]
        exact hstate.session
    · rw [hsession] at hopen
      obtain ⟨before, begin, after, peer, rfl, hbegun, hstate, hafter, hsame, hkept⟩ := ih hopen
      have hrun : ftmRun cfg s₀ ((before ++ begin :: after) ++ [step]) =
          (ftmStep cfg true (ftmRun cfg s₀ (before ++ begin :: after)) step).1 :=
        run_snoc ..
      refine ⟨before, begin, after ++ [step], peer, by simp, hbegun, hstate, ?_, ?_, ?_⟩
      · intro entry hentry
        have hreached : run (ftmStep cfg true) (ftmRun cfg s₀ (before ++ [begin])) after =
            ftmRun cfg s₀ (before ++ begin :: after) := by
          rw [List.append_cons before begin after]
          exact (run_append ..).symm
        rw [trace_snoc, hreached, List.mem_append, List.mem_singleton] at hentry
        rcases hentry with hentry | rfl
        · exact hafter entry hentry
        · exact hquiet
      · rw [hrun, hsession, hsame]
      · rw [hrun, htiming, hkept]

end Runs

/-! ## The two numbers -/

/-- A step into another association. -/
def associates (s s' : FtmStation F) : Bool :=
  decide (s'.port.wifiNeighbor.association ≠ s.port.wifiNeighbor.association)

/-- A step that moves the revision of an association. -/
def revises (s s' : FtmStation F) : Bool :=
  !associates s s' &&
    decide (s'.port.wifiNeighbor.sync.revision ≠ s.port.wifiNeighbor.sync.revision)

/-- Neither the neighbor nor the profile is another. -/
structure StationKept (s s' : FtmStation F) : Prop where
  neighbor : NeighborKept s.port.wifiNeighbor s'.port.wifiNeighbor
  gptp : s'.gptp = s.gptp

theorem StationKept.rfl {s : FtmStation F} : StationKept s s := ⟨.rfl, Eq.refl _⟩

theorem InForce.kept {s s' : FtmStation F} {association : UInt32} {bssid : MacAddr}
    {identity : PortIdentity} (h : InForce association bssid identity s.toStation)
    (hkept : StationKept s s') : InForce association bssid identity s'.toStation where
  gptp := hkept.gptp.trans h.gptp
  associated := hkept.neighbor.associated.trans h.associated
  association := hkept.neighbor.association.trans h.association
  bssid := hkept.neighbor.bssid.trans h.bssid
  bound := hkept.neighbor.bound h.bound
  portIdentity := (hkept.neighbor.portIdentity h.bound).trans h.portIdentity
  stopped := by
    rw [hkept.neighbor.sync]
    exact h.stopped

/-- What a step may do to the neighbor, and how it counts. -/
inductive NeighborStep (s s' : FtmStation F) : Prop
  | associated (hcounts : associates s s' = true)
      (hnext : s'.port.wifiNeighbor.association = nextNonzero s.port.wifiNeighbor.association)
  | revised (hsame : associates s s' = false) (hcounts : revises s s' = true)
      (hrevised : NeighborRevised s.port.wifiNeighbor s'.port.wifiNeighbor)
  | kept (hsame : associates s s' = false) (hsteady : revises s s' = false)
      (hkept : StationKept s s')

theorem neighborStep_kept {s s' : FtmStation F} (h : StationKept s s') : NeighborStep s s' := by
  have hsame : associates s s' = false := by
    unfold associates
    simp [h.neighbor.association]
  refine .kept hsame ?_ h
  unfold revises
  simp [h.neighbor.sync]

theorem neighborStep_associated {s s' : FtmStation F}
    (h : s'.port.wifiNeighbor.association =
      nextNonzero s.port.wifiNeighbor.association) : NeighborStep s s' := by
  refine .associated ?_ h
  unfold associates
  rw [h]
  simp [nextNonzero_ne]

theorem neighborStep_revised {s s' : FtmStation F}
    (h : NeighborRevised s.port.wifiNeighbor s'.port.wifiNeighbor) : NeighborStep s s' := by
  have hsame : associates s s' = false := by
    unfold associates
    simp [h.association]
  refine .revised hsame ?_ h
  unfold revises
  rw [hsame, h.revision]
  simp [nextNonzero_ne]

theorem onFtmControlStart_toStation (s : FtmStation F) (discipline : Bool)
    (apInfo : Option MacAddr) (beaconFresh initiated : Bool) :
    (s.onFtmControlStart discipline apInfo beaconFresh initiated).1.toStation =
      s.toStation := by
  have hinitiate (s : FtmStation F) (bssid : MacAddr) :
      (s.initiate bssid initiated).1.toStation = s.toStation := by
    unfold FtmStation.initiate
    cases initiated <;> rfl
  unfold FtmStation.onFtmControlStart
  split
  · rfl
  · split
    · split
      · split
        · rfl
        · dsimp only
          split
          · rfl
          · exact hinitiate _ _
      · split
        · rfl
        · exact hinitiate _ _
    · rfl

theorem stationSection_gptp (cfg : Config) (s : Station F) (sec : StationSection) :
    (stationSection cfg s sec).gptp = s.gptp := by
  cases sec with
  | setPortLink up =>
    show (s.setPortLink up).gptp = s.gptp
    unfold Station.setPortLink
    split <;> rfl
  | _ => rfl

theorem ftmStep_neighborStep (cfg : Config) (discipline : Bool) (s : FtmStation F)
    (step : FtmStep) : NeighborStep s (ftmStep cfg discipline s step).1 := by
  cases step with
  | port sec =>
    by_cases hassociates : sec.associates = true
    · cases sec with
      | associate bssid =>
        have hstep : (ftmStep cfg discipline s (.port (.associate bssid))).1.port =
            associatePort s.port bssid := rfl
        unfold associatePort at hstep
        split at hstep
        · apply neighborStep_associated
          rw [hstep]
          cases bssid <;> rfl
        · exact neighborStep_kept ⟨by rw [hstep]; exact .rfl, rfl⟩
      | adopt association bssid =>
        have hstep : (ftmStep cfg discipline s (.port (.adopt association bssid))).1.port =
            adoptPort s.port association bssid := rfl
        unfold adoptPort at hstep
        split at hstep
        · apply neighborStep_associated
          rw [hstep]
          rfl
        · exact neighborStep_kept ⟨by rw [hstep]; exact .rfl, rfl⟩
      | _ => cases hassociates
    · rcases stationSection_neighbor cfg s.toStation (Bool.eq_false_iff.mpr hassociates) with
        hkept | hrevised
      · exact neighborStep_kept ⟨hkept, stationSection_gptp ..⟩
      · exact neighborStep_revised hrevised
  | profile gptp => exact neighborStep_revised ⟨⟨rfl, rfl, rfl⟩, rfl⟩
  | start apInfo beaconFresh initiated =>
    have hsame := onFtmControlStart_toStation s discipline apInfo beaconFresh initiated
    apply neighborStep_kept
    show StationKept s (s.onFtmControlStart discipline apInfo beaconFresh initiated).1
    constructor
    · rw [hsame]
      exact .rfl
    · rw [hsame]
  | _ => exact neighborStep_kept ⟨.rfl, rfl⟩

section Counting

variable (cfg : Config) (s : FtmStation F) (steps : List FtmStep)

/-- The associations begun or ended, and the revisions, of a run. -/
def associationCount : Nat := countSteps (ftmStep cfg true) associates s steps

def revisionCount : Nat := countSteps (ftmStep cfg true) revises s steps

variable {cfg s steps}

theorem ftmRun_association :
    (ftmRun cfg s steps).port.wifiNeighbor.association =
      nextNonzero^[associationCount cfg s steps] s.port.wifiNeighbor.association := by
  induction steps generalizing s with
  | nil => rfl
  | cons step steps ih =>
    show (ftmRun cfg (ftmStep cfg true s step).1 steps).port.wifiNeighbor.association =
      nextNonzero^[(if associates s (ftmStep cfg true s step).1 then 1 else 0) +
        associationCount cfg (ftmStep cfg true s step).1 steps]
        s.port.wifiNeighbor.association
    rw [ih]
    rcases ftmStep_neighborStep cfg true s step with
      ⟨hcounts, hnext⟩ | ⟨hsame, -, hrevised⟩ | ⟨hsame, -, hkept⟩
    · rw [hcounts, hnext, if_pos rfl, Nat.add_comm, Function.iterate_succ_apply]
    · rw [hsame, hrevised.association]
      simp
    · rw [hsame, hkept.neighbor.association]
      simp

/-- Within an association the revision counts. -/
theorem ftmRun_revision (hsame : associationCount cfg s steps = 0) :
    (ftmRun cfg s steps).port.wifiNeighbor.sync.revision =
      nextNonzero^[revisionCount cfg s steps] s.port.wifiNeighbor.sync.revision := by
  induction steps generalizing s with
  | nil => rfl
  | cons step steps ih =>
    obtain ⟨hfirst, hrest⟩ := Nat.add_eq_zero_iff.mp hsame
    show (ftmRun cfg (ftmStep cfg true s step).1 steps).port.wifiNeighbor.sync.revision =
      nextNonzero^[(if revises s (ftmStep cfg true s step).1 then 1 else 0) +
        revisionCount cfg (ftmStep cfg true s step).1 steps]
        s.port.wifiNeighbor.sync.revision
    rw [ih hrest]
    rcases ftmStep_neighborStep cfg true s step with
      ⟨hcounts, -⟩ | ⟨-, hcounts, hrevised⟩ | ⟨-, hsteady, hkept⟩
    · rw [hcounts] at hfirst
      cases hfirst
    · rw [hcounts, hrevised.revision, if_pos rfl, Nat.add_comm, Function.iterate_succ_apply]
    · rw [hsteady, hkept.neighbor.sync]
      simp

/-- Where neither number moves, nothing does. -/
theorem ftmRun_kept (hassociations : associationCount cfg s steps = 0)
    (hrevisions : revisionCount cfg s steps = 0) : StationKept s (ftmRun cfg s steps) := by
  induction steps generalizing s with
  | nil => exact .rfl
  | cons step steps ih =>
    obtain ⟨hassociates, hassociations⟩ := Nat.add_eq_zero_iff.mp hassociations
    obtain ⟨hrevises, hrevisions⟩ := Nat.add_eq_zero_iff.mp hrevisions
    have hrest := ih hassociations hrevisions
    rcases ftmStep_neighborStep cfg true s step with
      ⟨hcounts, -⟩ | ⟨-, hcounts, -⟩ | ⟨-, -, hkept⟩
    · rw [hcounts] at hassociates
      cases hassociates
    · rw [hcounts] at hrevises
      cases hrevises
    · exact ⟨hkept.neighbor.trans hrest.neighbor, hrest.gptp.trans hkept.gptp⟩

end Counting

/-! ## A report that is accepted -/

/-- The report is of the session, and the timing it began with is current. -/
theorem onFtmReport_accepted {s : FtmStation F} {peer : MacAddr} {apInfo : Option MacAddr}
    {beaconFresh : Bool} (h : (s.onFtmReport true peer apInfo beaconFresh).2.accepted = true) :
    s.session.isOpen = true ∧ s.session.peer = peer ∧
      s.port.wifiNeighbor.association = s.timing.association ∧
      s.port.wifiNeighbor.sync.revision = s.timing.revision := by
  simp only [FtmStation.onFtmReport, ptpFtmSessionFinish, if_true, Bool.and_eq_true,
    decide_eq_true_eq] at h
  obtain ⟨⟨⟨hpending, hvalid⟩, -, hcurrent⟩, hpeer⟩ := h
  unfold FtmStation.timingCurrent at hcurrent
  cases hsnapshot : ptpdWifiStaTimingSnapshot s.gptp s.port with
  | none =>
    rw [hsnapshot] at hcurrent
    cases hcurrent
  | some current =>
    obtain ⟨-, -, -, rfl⟩ := ptpdWifiStaTimingSnapshot_some hsnapshot
    rw [hsnapshot] at hcurrent
    simp only [Bool.and_eq_true, decide_eq_true_eq] at hcurrent
    refine ⟨?_, hpeer, hcurrent.1.1.2, hcurrent.1.2⟩
    rw [PtpFtmSession.isOpen, hpending, hvalid]
    rfl

/-- A session toward this peer was begun in the run, nothing has cancelled it, no report has
    come and no other was begun since; and in every state from its begin to the end of the run
    the same association is in force. -/
def Uninterrupted (cfg : Config) (s₀ : FtmStation F) (steps : List FtmStep)
    (peer : MacAddr) : Prop :=
  ∃ before begin after, steps = before ++ begin :: after ∧
    (ftmStep cfg true (ftmRun cfg s₀ before) begin).2.begun = some peer ∧
    (∀ entry ∈ trace (ftmStep cfg true) (ftmRun cfg s₀ (before ++ [begin])) after,
      Quiet entry) ∧
    ∃ association identity, ∀ part rest, after = part ++ rest →
      InForce association peer identity (ftmRun cfg s₀ (before ++ begin :: part)).toStation

/-- **A report that disciplines the clock** belongs to one uninterrupted session, toward the
    peer that the report is of. -/
theorem ftmReport_uninterrupted (cfg : Config) {s₀ : FtmStation F} (steps : List FtmStep)
    (peer : MacAddr) (apInfo : Option MacAddr) (beaconFresh : Bool)
    (hidle : s₀.session.isOpen = false)
    (hassociations : associationCount cfg s₀ steps < 2 ^ 32 - 1)
    (hrevisions : revisionCount cfg s₀ steps < 2 ^ 32 - 1)
    (haccepted : (ftmStep cfg true (ftmRun cfg s₀ steps)
      (.report peer apInfo beaconFresh)).2.accepted = true) :
    Uninterrupted cfg s₀ steps peer := by
  obtain ⟨hopen, hpeer, hassociation, hrevision⟩ := onFtmReport_accepted haccepted
  obtain ⟨before, begin, after, begunPeer, rfl, hbegun, hstate, hquiet, hsession, htiming⟩ :=
    ftmRun_open hidle steps hopen
  obtain rfl : begunPeer = peer := by
    rw [← hpeer, hsession]
  -- The run so far is the run to the begin, and on from there.
  have hsplit (part : List FtmStep) : ftmRun cfg s₀ (before ++ begin :: part) =
      ftmRun cfg (ftmRun cfg s₀ (before ++ [begin])) part := by
    rw [List.append_cons before begin part]
    exact run_append ..
  have hcount (kind : FtmStation F → FtmStation F → Bool) :
      countSteps (ftmStep cfg true) kind (ftmRun cfg s₀ (before ++ [begin])) after ≤
        countSteps (ftmStep cfg true) kind s₀ (before ++ begin :: after) := by
    rw [List.append_cons before begin after, countSteps_append]
    exact Nat.le_add_left _ _
  rw [htiming, hstate.timing, hsplit, ftmRun_association] at hassociation
  have hnone := iterate_nextNonzero_ne
    (Nat.lt_of_le_of_lt (hcount associates) hassociations) hassociation
  rw [htiming, hstate.timing, hsplit, ftmRun_revision hnone] at hrevision
  have hsteady := iterate_nextNonzero_ne
    (Nat.lt_of_le_of_lt (hcount revises) hrevisions) hrevision
  let begunAt := ftmRun cfg s₀ (before ++ [begin])
  refine ⟨before, begin, after, rfl, hbegun, hquiet, begunAt.port.wifiNeighbor.association,
    begunAt.port.wifiNeighbor.portIdentity, ?_⟩
  rintro part rest rfl
  rw [hsplit]
  rw [countSteps_append] at hnone hsteady
  exact hstate.inForce.kept
    (ftmRun_kept (Nat.add_eq_zero_iff.mp hnone).1 (Nat.add_eq_zero_iff.mp hsteady).1)

namespace Sample

/-- A station on its way to a session: its access point, the port behind it, the request. -/
def rangingStart : FtmStation Unit :=
  { gptp := true
    port := { (default : PtpPort Unit) with
      enabled := true, linkUp := true, medium := .wifiFtm, wifiMode := .sta }
    linkChange := none
    connected := false
    session := default
    timing := default }

def rangingSteps (accessPoint : MacAddr) : List FtmStep :=
  [.port (.associate (some accessPoint)), .staConnected,
    .port (.announce
      { (default : RxScratch) with
        rxSourceMac := accessPoint, rxSourceMacValid := true, rxAssociation := 1 } default),
    .start (some accessPoint) false true]

end Sample

theorem ftmReport_uninterrupted_ranging :
    Uninterrupted Sample.config Sample.rangingStart (Sample.rangingSteps #v[2, 0, 0, 0, 0, 1])
      #v[2, 0, 0, 0, 0, 1] :=
  ftmReport_uninterrupted Sample.config (Sample.rangingSteps _) _ (some #v[2, 0, 0, 0, 0, 1]) false
    rfl (by decide) (by decide) (by decide)

end EspPtp
