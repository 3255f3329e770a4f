import EspPtp.Daemon.AnnounceChain
import EspPtp.Daemon.Station

/-!
# The path that management is told (`ptp_process_statusreq`, `ptpd_status_path`)

A status request is answered with a copy of what the daemon knows, and the path of the clock
is computed from that copy, not from the state an access point announces from. The two are
written apart and check apart. `PathFate` says what each of them makes of the selected path,
case by case, and that they make the same of it.
-/

namespace EspPtp

open Lib

variable {F : Type} {n : Nat}

/-! ## The status -/

/-- `clock_info_s`. -/
structure ClockInfo where
  id : ClockIdentity
  utcoffset : Int
  priority1 : Nat
  clockclass : Nat
  accuracy : Nat
  variance : Nat
  priority2 : Nat
  btcId : ClockIdentity
  stepsremoved : Nat
  timesource : Nat
  deriving DecidableEq, Inhabited

/-- The parts of an Announce that a status shows. -/
def ClockInfo.ofAnnounce (msg : PtpAnnounce) : ClockInfo where
  id := msg.header.sourceidentity
  utcoffset := (be16 msg.utcoffset).toInt16.toInt
  priority1 := msg.btcPriority1.toNat
  clockclass := msg.btcQuality[0].toNat
  accuracy := msg.btcQuality[1].toNat
  variance := beWord msg.btcQuality[2] msg.btcQuality[3]
  priority2 := msg.btcPriority2.toNat
  btcId := msg.btcIdentity
  stepsremoved := (be16 msg.stepsremoved).toNat
  timesource := msg.timesource.toNat

/-- `struct ptpd_status_s`, without the times of the last frames sent. -/
structure PtpdStatus where
  ptpProfile : PtpProfile
  peerIsEndpoint : Bool
  avbLiteFallbackReason : Nat
  domain : UInt8
  linkSpeedMbps : UInt32
  gmLinkSpeedMbps : UInt32
  delayAsymmetryNs : Int
  clockSourceSelected : Bool
  selectedPath : PtpPathTrace
  clockSourceValid : Bool
  asCapable : Bool
  clockSourceInfo : ClockInfo
  ownIdentityInfo : ClockInfo
  lastClockUpdate : Timespec
  lastDeltaNs : Int
  lastAdjtimeNs : Int
  driftPpb : Int
  pathDelayNs : Int
  peerDelayNs : Int
  lastReceivedMulticast : Timespec
  lastReceivedAnnounce : Timespec
  lastReceivedSync : Timespec

/-- What `ptp_process_statusreq` asks other components: the capability of port 0's radio, the
    times, and whether the software clock follows a generation, where that is linked in. -/
structure StatusInputs where
  media : Option PtpWifiMedia
  times : CapabilityTimes
  ftmClockReady : Option (UInt32 → Bool)

/-- `ptp_process_statusreq` for an active request. -/
def ptpProcessStatusreq (cfg : Config) (inputs : StatusInputs) (s : PtpState F n) :
    PtpdStatus where
  ptpProfile := s.activePtpProfile
  peerIsEndpoint := s.port0.peerIsEndpoint
  avbLiteFallbackReason := s.avbLiteFallbackReason
  domain := cfg.domain
  linkSpeedMbps := s.port0.negotiatedLinkMbps
  gmLinkSpeedMbps := s.selectedGmLinkMbps
  delayAsymmetryNs := s.delayAsymmetryNs
  clockSourceSelected := s.selectedSourceValid
  selectedPath := if s.selectedSourceValid then s.selectedPath else []
  clockSourceValid :=
    let valid := s.selectedSourceValid &&
      (!s.isGptp || decide (s.selectedSource.btcPriority1 < 255))
    match inputs.ftmClockReady with
    | some ready =>
      if valid && cfg.useSwClock then
        ready (ptpdTimingSnapshot s.toPtpTiming inputs.times.nowUs).generation
      else valid
    | none => valid
  asCapable :=
    if s.port0.medium = .wifiFtm then
      ptpWifiCapability cfg s.isGptp s.port0 inputs.media inputs.times.nowUs
    else s.wiredCapability cfg inputs.times
  clockSourceInfo :=
    if s.selectedSourceValid then .ofAnnounce s.selectedSource else default
  ownIdentityInfo := .ofAnnounce s.ownIdentity
  lastClockUpdate := s.lastDeltaTimestamp
  lastDeltaNs := s.lastOffsetNs
  lastAdjtimeNs := s.lastAdjtimeNs
  driftPpb := s.driftPpb
  pathDelayNs := s.port0.pathDelayNs
  peerDelayNs := s.port0.peerDelayNs
  lastReceivedMulticast := s.port0.lastReceivedMulticast
  lastReceivedAnnounce := s.port0.lastReceivedAnnounce
  lastReceivedSync := s.port0.lastReceivedSync

/-- `ptpd_status_path`: the identities written to the output, none where it returns zero. -/
def ptpdStatusPath (status : PtpdStatus) (capacity : Nat) : PtpPathTrace :=
  let upstream := if status.clockSourceSelected then status.selectedPath.length else 0
  if status.clockSourceSelected ∧ upstream = 0 then []
  else if upstream > ptpPathTraceMaxClocks ∨ capacity ≤ upstream then []
  else
    let path := status.selectedPath.take upstream
    if status.ownIdentityInfo.id ∈ path then [] else path ++ [status.ownIdentityInfo.id]

/-! ## What becomes of the selected path -/

namespace PtpState

variable (s : PtpState F n)

def ownClock : ClockIdentity := s.ownIdentity.header.sourceidentity

/-- The selected source is as many steps away as an Announce can say. -/
def sourceTooFar : Prop :=
  s.selectedSourceValid = true ∧ (be16 s.selectedSource.stepsremoved).toNat = 65535

/-- The clocks before this one. -/
def upstreamPath : PtpPathTrace := if s.selectedSourceValid then s.selectedPath else []

end PtpState

/-- What is announced of the path, and what is reported. -/
inductive PathFate (s : PtpState F n) : Option Bytes → PtpPathTrace → Prop
  | unknown (hselected : s.selectedSourceValid = true) (hpath : s.selectedPath = []) :
      PathFate s (some []) []
  | looped (hselected : s.selectedSourceValid = true) (hloop : s.ownClock ∈ s.selectedPath) :
      PathFate s none []
  | known (hknown : s.selectedSourceValid = true → s.selectedPath ≠ [])
      (hloop : s.ownClock ∉ s.upstreamPath) {clocks : PtpPathTrace} {tlv : Bytes}
      (hclocks : clocks = s.upstreamPath ++ [s.ownClock])
      (htlv : tlv = [0, 8, (clocks.length * 8 / 256).toUInt8, (clocks.length * 8).toUInt8] ++
        clocks.bytes) : PathFate s (some tlv) clocks

section Fate

variable {s : PtpState F n} (cfg : Config) (inputs : StatusInputs) {capacity : Nat}

theorem ptpdStatusPath_statusreq (hroom : s.upstreamPath.length < ptpPathTraceMaxClocks)
    (hcapacity : ptpPathTraceMaxClocks ≤ capacity)
    (hknown : s.selectedSourceValid = true → s.selectedPath ≠ []) :
    ptpdStatusPath (ptpProcessStatusreq cfg inputs s) capacity =
      if s.ownClock ∈ s.upstreamPath then [] else s.upstreamPath ++ [s.ownClock] := by
  have hcopied : (ptpProcessStatusreq cfg inputs s).selectedPath = s.upstreamPath := rfl
  have hlength : (if (ptpProcessStatusreq cfg inputs s).clockSourceSelected then
      (ptpProcessStatusreq cfg inputs s).selectedPath.length else 0) = s.upstreamPath.length := by
    rw [hcopied]
    show (if s.selectedSourceValid then s.upstreamPath.length else 0) = _
    by_cases hselected : s.selectedSourceValid = true
    · rw [if_pos hselected]
    · rw [if_neg hselected]
      unfold PtpState.upstreamPath
      rw [if_neg hselected, List.length_nil]
  unfold ptpdStatusPath
  dsimp only
  rw [hlength, hcopied, if_neg, if_neg, List.take_length]
  · rfl
  · rintro (hmany | hsmall)
    · exact absurd hmany (Nat.not_lt.mpr (Nat.le_of_lt hroom))
    · exact absurd (Nat.lt_of_lt_of_le hroom hcapacity) (Nat.not_lt.mpr hsmall)
  · rintro ⟨hselected, hempty⟩
    change s.selectedSourceValid = true at hselected
    unfold PtpState.upstreamPath at hempty
    rw [if_pos hselected] at hempty
    exact hknown hselected (List.eq_nil_of_length_eq_zero hempty)

theorem announceTrace_known (hroom : s.upstreamPath.length < ptpPathTraceMaxClocks)
    (hknown : s.selectedSourceValid = true → s.selectedPath ≠ []) :
    s.announceTrace =
      if s.ownClock ∈ s.upstreamPath then none
      else some ([0, 8, ((s.upstreamPath ++ [s.ownClock]).length * 8 / 256).toUInt8,
        ((s.upstreamPath ++ [s.ownClock]).length * 8).toUInt8] ++
          PtpPathTrace.bytes (s.upstreamPath ++ [s.ownClock])) := by
  have hopen : (!s.selectedSourceValid) = true ∨ s.upstreamPath ≠ [] := by
    by_cases hselected : s.selectedSourceValid = true
    · right
      unfold PtpState.upstreamPath
      rw [if_pos hselected]
      exact hknown hselected
    · left
      rw [Bool.eq_false_iff.mpr hselected]
      rfl
  unfold PtpState.announceTrace
  dsimp only
  change (if (!s.selectedSourceValid) = true ∨ s.upstreamPath ≠ [] then
    if ptpPathTraceWrite (4 + ptpPathTraceMaxClocks * 8) s.upstreamPath s.ownClock = [] then none
    else some (ptpPathTraceWrite (4 + ptpPathTraceMaxClocks * 8) s.upstreamPath s.ownClock)
    else some []) = _
  rw [if_pos hopen]
  by_cases hloop : s.ownClock ∈ s.upstreamPath
  · rw [if_pos (ptpPathTraceWrite_eq_nil (.inr hloop) _), if_pos hloop]
  · rw [ptpPathTraceWrite_eq hroom hloop, if_neg hloop, if_neg]
    exact List.cons_ne_nil _ _

/-- **The announced path and the reported path are the same.** -/
theorem pathFate (hroom : s.upstreamPath.length < ptpPathTraceMaxClocks)
    (hcapacity : ptpPathTraceMaxClocks ≤ capacity) :
    PathFate s s.announceTrace (ptpdStatusPath (ptpProcessStatusreq cfg inputs s) capacity) := by
  by_cases hunknown : s.selectedSourceValid = true ∧ s.selectedPath = []
  · obtain ⟨hselected, hpath⟩ := hunknown
    have htrace : s.announceTrace = some [] := by
      unfold PtpState.announceTrace
      rw [hselected, hpath]
      rfl
    have hreport : ptpdStatusPath (ptpProcessStatusreq cfg inputs s) capacity = [] := by
      unfold ptpdStatusPath ptpProcessStatusreq
      dsimp only
      rw [hselected, hpath]
      rfl
    rw [htrace, hreport]
    exact .unknown hselected hpath
  · have hknown : s.selectedSourceValid = true → s.selectedPath ≠ [] :=
      fun hselected hpath => hunknown ⟨hselected, hpath⟩
    rw [ptpdStatusPath_statusreq cfg inputs hroom hcapacity hknown,
      announceTrace_known hroom hknown]
    by_cases hloop : s.ownClock ∈ s.upstreamPath
    · rw [if_pos hloop, if_pos hloop]
      unfold PtpState.upstreamPath at hloop
      by_cases hselected : s.selectedSourceValid = true
      · rw [if_pos hselected] at hloop
        exact .looped hselected hloop
      · rw [if_neg hselected] at hloop
        exact absurd hloop List.not_mem_nil
    · rw [if_neg hloop, if_neg hloop]
      exact .known hknown hloop rfl rfl

end Fate

/-! ## Management and the wire -/

/-- The Announce that a port sends carries this path. -/
def AnnouncesPath (cfg : Config) (s : PtpState F n) (p : Fin (n + 1)) (origin : Timespec)
    (clocks : PtpPathTrace) : Prop :=
  ∃ wire, s.apAnnounce cfg p origin = some wire ∧ CarriesPath wire clocks

/-- What the report of a state has to do with what is announced from it. -/
structure StatusPathAgrees (cfg : Config) (s : PtpState F n) (p : Fin (n + 1))
    (origin : Timespec) (reported : PtpPathTrace) : Prop where
  /-- The report is the path on the wire. -/
  relayed : ∀ clocks, AnnouncesPath cfg s p origin clocks → reported = clocks
  /-- Nothing is reported where the path of the source is unknown, and then the Announce has no
      TLV, or comes back to this clock, and then nothing is sent. -/
  nothing : reported = [] ↔ s.selectedSourceValid = true ∧
    (s.selectedPath = [] ∨ s.ownClock ∈ s.selectedPath)
  untraced : s.selectedSourceValid = true → s.selectedPath = [] →
    ∀ wire, s.apAnnounce cfg p origin = some wire → wire.length = ptpAnnounceBodyLength
  refused : s.apAnnounce cfg p origin = none ↔
    s.sourceTooFar ∨ (s.selectedSourceValid = true ∧ s.ownClock ∈ s.selectedPath)
  /-- Unless the source is too far away to be announced. -/
  announced : ¬ s.sourceTooFar →
    (reported = [] ↔ ∀ clocks, ¬ AnnouncesPath cfg s p origin clocks)

section Agrees

variable {s : PtpState F n} {p : Fin (n + 1)}

/-- What a port sends of the source and the path. -/
theorem apAnnounce_sends (hopen : s.announcesToStations p = true) (cfg : Config)
    (origin : Timespec) :
    s.apAnnounce cfg p origin = s.announceSource.bind fun msg =>
      s.announceTrace.map fun tlv => s.announceWire p (s.announceAs cfg p origin msg) tlv := by
  unfold PtpState.apAnnounce
  rw [hopen]
  cases s.announceSource with
  | none => rfl
  | some msg =>
    cases s.announceTrace with
    | none => rfl
    | some tlv => rfl

/-- Two paths of one message are one path. -/
theorem CarriesPath.unique {wire : Bytes} {path path' : PtpPathTrace} (h : CarriesPath wire path)
    (h' : CarriesPath wire path') : path = path' := by
  have hlength : path.length = path'.length := by
    have hsame := h.length.symm.trans h'.length
    omega
  have htrace := h.trace
  rw [hlength, h'.trace] at htrace
  exact (PtpPathTrace.bytes_inj (List.append_cancel_left htrace)).symm

theorem announceSource_eq_none : s.announceSource = none ↔ s.sourceTooFar := by
  unfold PtpState.announceSource PtpState.sourceTooFar
  dsimp only
  by_cases hselected : s.selectedSourceValid = true
  · rw [if_pos hselected]
    by_cases hfar : (be16 s.selectedSource.stepsremoved).toNat = 65535
    · rw [if_pos hfar]
      exact iff_of_true rfl ⟨hselected, hfar⟩
    · rw [if_neg hfar]
      exact iff_of_false (Option.some_ne_none _) fun h => hfar h.2
  · rw [if_neg hselected]
    exact iff_of_false (Option.some_ne_none _) fun h => hselected h.1

theorem upstreamPath_length_le : s.upstreamPath.length ≤ s.selectedPath.length := by
  unfold PtpState.upstreamPath
  split
  · exact Nat.le_refl _
  · exact Nat.zero_le _

/-- The Announce of an unknown path has no TLV, and carries none. -/
theorem not_announcesPath_untraced (hopen : s.announcesToStations p = true)
    (htrace : s.announceTrace = some []) (cfg : Config) (origin : Timespec) {wire : Bytes}
    (hwire : s.apAnnounce cfg p origin = some wire) :
    wire.length = ptpAnnounceBodyLength ∧ ∀ clocks, ¬ CarriesPath wire clocks := by
  rw [apAnnounce_sends hopen, htrace] at hwire
  obtain ⟨msg, -, hsent⟩ := Option.bind_eq_some_iff.mp hwire
  have hlength : wire.length = 64 := by
    rw [← Option.some.inj hsent, announceWire_length, List.length_nil]
  refine ⟨hlength, fun clocks hcarries => ?_⟩
  have hlong := hcarries.length
  omega

variable {cfg : Config} {origin : Timespec} (hopen : s.announcesToStations p = true)
include hopen

/-- Where nothing is sent of the path, nothing is to be reported. -/
theorem StatusPathAgrees.ofUnannounced (hnot : ∀ clocks, ¬ AnnouncesPath cfg s p origin clocks)
    (hselected : s.selectedSourceValid = true)
    (hfate : s.selectedPath = [] ∨ s.ownClock ∈ s.selectedPath)
    (hrefused : s.apAnnounce cfg p origin = none ↔
      s.sourceTooFar ∨ (s.selectedSourceValid = true ∧ s.ownClock ∈ s.selectedPath)) :
    StatusPathAgrees cfg s p origin [] where
  relayed := fun clocks h => absurd h (hnot clocks)
  nothing := iff_of_true rfl ⟨hselected, hfate⟩
  untraced := by
    intro _ hpath wire hwire
    refine (not_announcesPath_untraced hopen ?_ cfg origin hwire).1
    unfold PtpState.announceTrace
    rw [hselected, hpath]
    rfl
  refused := hrefused
  announced := fun _ => iff_of_true rfl hnot

theorem statusPathAgrees_unknown (htrace : s.announceTrace = some [])
    (hselected : s.selectedSourceValid = true) (hpath : s.selectedPath = []) :
    StatusPathAgrees cfg s p origin [] := by
  refine .ofUnannounced hopen ?_ hselected (.inl hpath) ?_
  · rintro clocks ⟨wire, hwire, hcarries⟩
    exact (not_announcesPath_untraced hopen htrace cfg origin hwire).2 clocks hcarries
  · rw [apAnnounce_sends hopen, htrace, ← announceSource_eq_none, hpath]
    cases s.announceSource with
    | none => exact iff_of_true rfl (.inl rfl)
    | some msg => exact iff_of_false (Option.some_ne_none _) (by simp)

theorem statusPathAgrees_looped (htrace : s.announceTrace = none)
    (hselected : s.selectedSourceValid = true) (hloop : s.ownClock ∈ s.selectedPath) :
    StatusPathAgrees cfg s p origin [] := by
  have hnone : s.apAnnounce cfg p origin = none := by
    rw [apAnnounce_sends hopen, htrace]
    cases s.announceSource <;> rfl
  refine .ofUnannounced hopen ?_ hselected (.inr hloop) ?_
  · rintro clocks ⟨wire, hwire, -⟩
    rw [hnone] at hwire
    cases hwire
  · exact iff_of_true hnone (.inr ⟨hselected, hloop⟩)

theorem statusPathAgrees_known {clocks : PtpPathTrace} {tlv : Bytes}
    (htrace : s.announceTrace = some tlv)
    (hcarries : ∀ msg, CarriesPath (s.announceWire p (s.announceAs cfg p origin msg) tlv) clocks)
    (hknown : s.selectedSourceValid = true → s.selectedPath ≠ [])
    (hloop : s.ownClock ∉ s.upstreamPath)
    (hclocks : clocks = s.upstreamPath ++ [s.ownClock]) :
    StatusPathAgrees cfg s p origin clocks := by
  have hsends := apAnnounce_sends hopen cfg origin
  rw [htrace] at hsends
  have hsome : clocks ≠ [] := by
    rw [hclocks]
    exact List.append_ne_nil_of_right_ne_nil _ (List.cons_ne_nil _ _)
  have hnoloop : ¬ (s.selectedSourceValid = true ∧ s.ownClock ∈ s.selectedPath) := by
    rintro ⟨hselected, hmem⟩
    apply hloop
    unfold PtpState.upstreamPath
    rw [if_pos hselected]
    exact hmem
  refine ⟨?_, ?_, ?_, ?_, ?_⟩
  · rintro other ⟨wire, hwire, hother⟩
    rw [hsends] at hwire
    obtain ⟨msg, -, hsent⟩ := Option.bind_eq_some_iff.mp hwire
    rw [← Option.some.inj hsent] at hother
    exact (hcarries msg).unique hother
  · refine iff_of_false hsome ?_
    rintro ⟨hselected, hpath | hmem⟩
    · exact hknown hselected hpath
    · exact hnoloop ⟨hselected, hmem⟩
  · exact fun hselected hpath => absurd hpath (hknown hselected)
  · rw [hsends, ← announceSource_eq_none]
    cases s.announceSource with
    | none => exact iff_of_true rfl (.inl rfl)
    | some msg =>
      refine iff_of_false (Option.some_ne_none _) ?_
      rintro (hnone | hmem)
      · cases hnone
      · exact hnoloop hmem
  · intro hnear
    refine iff_of_false hsome fun hnot => ?_
    obtain ⟨msg, hmsg⟩ := Option.ne_none_iff_exists'.mp (mt announceSource_eq_none.mp hnear)
    refine hnot clocks ⟨_, ?_, hcarries msg⟩
    rw [hsends, hmsg]
    rfl

end Agrees

/-- **The reported path is the relayed path**, for a path with room for this clock. A source
    that is too far away to be announced is reported all the same. -/
theorem ptpdStatusPath_relayed (cfg : Config) (inputs : StatusInputs) {s : PtpState F n}
    {p : Fin (n + 1)} (origin : Timespec) {capacity : Nat}
    (hopen : s.announcesToStations p = true) (hroom : s.selectedPath.length ≤ 15)
    (hcapacity : 16 ≤ capacity) :
    StatusPathAgrees cfg s p origin
      (ptpdStatusPath (ptpProcessStatusreq cfg inputs s) capacity) := by
  have hshort : s.upstreamPath.length < ptpPathTraceMaxClocks :=
    Nat.lt_succ_of_le (Nat.le_trans upstreamPath_length_le hroom)
  have hfate := pathFate cfg inputs hshort hcapacity
  generalize ptpdStatusPath (ptpProcessStatusreq cfg inputs s) capacity = reported at hfate
  generalize htrace : s.announceTrace = trace at hfate
  cases hfate with
  | unknown hselected hpath => exact statusPathAgrees_unknown hopen htrace hselected hpath
  | looped hselected hloop => exact statusPathAgrees_looped hopen htrace hselected hloop
  | known hknown hloop hclocks htlv =>
    have hfits : reported.length ≤ ptpPathTraceMaxClocks := by
      rw [hclocks, List.length_append, List.length_singleton]
      exact hshort
    refine statusPathAgrees_known hopen htrace (fun msg => ?_) hknown hloop hclocks
    exact carriesPath_announceWire (announceAs_type cfg s p origin msg) hfits htlv

namespace Sample

/-- An access point of a clock with this identity, with this source selected. -/
def relayState (steps : Vector UInt8 2) (path : PtpPathTrace) : PtpState ℚ 0 :=
  { (chainClock 1).state with
    activePtpProfile := .standard
    selectedSourceValid := true
    selectedSource := { (default : PtpAnnounce) with stepsremoved := steps }
    selectedPath := path }

def statusInputs : StatusInputs := ⟨none, ⟨0, 0⟩, none⟩

end Sample

/-- The path of a source one step away is announced and reported. -/
theorem ptpdStatusPath_relayed_near :
    let s := Sample.relayState #v[0, 1] [Vector.replicate 8 2]
    s.announcesToStations 0 = true ∧ s.selectedPath.length ≤ 15 ∧
      StatusPathAgrees Sample.config s 0 ⟨0, 0⟩
        (ptpdStatusPath (ptpProcessStatusreq Sample.config Sample.statusInputs s) 16) :=
  ⟨rfl, Nat.le_of_ble_eq_true rfl,
    ptpdStatusPath_relayed Sample.config Sample.statusInputs ⟨0, 0⟩ rfl
      (Nat.le_of_ble_eq_true rfl) (Nat.le_refl 16)⟩

/-- A source that is 65535 steps away is not announced, and its path is reported. -/
theorem ptpdStatusPath_distant :
    let s := Sample.relayState #v[255, 255] [Vector.replicate 8 2]
    let reported := ptpdStatusPath (ptpProcessStatusreq Sample.config Sample.statusInputs s) 16
    s.announcesToStations 0 = true ∧ s.selectedPath.length ≤ 15 ∧
      s.apAnnounce Sample.config 0 ⟨0, 0⟩ = none ∧
      reported = [Vector.replicate 8 2, Vector.replicate 8 1] ∧
      ¬ (reported = [] ↔ ∀ clocks, ¬ AnnouncesPath Sample.config s 0 ⟨0, 0⟩ clocks) := by
  have hreported : ptpdStatusPath (ptpProcessStatusreq Sample.config Sample.statusInputs
      (Sample.relayState #v[255, 255] [Vector.replicate 8 2])) 16 =
        [Vector.replicate 8 2, Vector.replicate 8 1] := rfl
  have hnone : (Sample.relayState #v[255, 255] [Vector.replicate 8 2]).apAnnounce
      Sample.config 0 ⟨0, 0⟩ = none := rfl
  refine ⟨rfl, Nat.le_of_ble_eq_true rfl, hnone, hreported, fun h => ?_⟩
  rw [hreported] at h
  refine List.cons_ne_nil _ _ (h.mpr ?_)
  rintro clocks ⟨wire, hwire, -⟩
  rw [hnone] at hwire
  cases hwire

end EspPtp
