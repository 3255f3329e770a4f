import EspPtp.Daemon.Port
import EspPtp.Wire.PathTrace

/-!
# The daemon (`struct ptp_state_s`)

One record of the source, taken apart here by what belongs together: the servo, the
selected source, the time base told to stations, and the published snapshots, which in the
source are two static variables under `s_timing_lock`. `PtpState` puts them together again,
so that a field is read and written under its own name, whichever part it is in.

Port 0 is the bootstrap port: there is always one, and it holds the timing state.
-/

namespace EspPtp

open Lib

/-- `ptp_profile_e`. -/
inductive PtpProfile where
  | standard
  | gptp
  deriving DecidableEq, Inhabited, Repr

/-- The clock servo, and the two static variables of `ptp_lock_local_clock_freq`. -/
structure PtpServo (F : Type) where
  remoteTimeNsPrev : Int
  localTimeNsPrev : Int
  lastOffsetNs : Int
  correctionNs : F
  driftAcc : Int
  wiredIntegralQ16 : Int
  freqTrimPpb : Int
  lastDeltaTimestamp : Timespec
  lastDeltaNs : Int
  lastAdjtimeNs : Int
  driftAvgTotalMs : Int
  driftPpb : Int
  /-- `cnt`. -/
  stableCount : Nat
  /-- `drift_ring`, the latest first. -/
  driftRing : List Int
  deriving Inhabited

/-- The selected source, and what is derived from its Announce. -/
structure PtpSelection where
  selectedSourceValid : Bool
  selectedSource : PtpAnnounce
  selectedPath : PtpPathTrace
  lastSelectedAnnounce : Timespec
  selectedSourceMac : MacAddr
  selectedSourceMacValid : Bool
  selectedGmLinkMbps : UInt32
  delayAsymmetryNs : Int
  unicastDelayReqOutstanding : Bool
  unicastDelayReqMisses : Nat
  unicastDelayReqRetryUs : Int
  deriving DecidableEq, Inhabited

/-- `uint8_t[PTP_GM_FIELDS_LEN]`. -/
abbrev GmFields := Vector UInt8 18

/-- The time base fields relayed, of this instance's own, and last published. -/
structure PtpTimeBase where
  upstreamGmFields : GmFields
  upstreamGmFieldsValid : Bool
  gmFieldsOwn : Bool
  ownTimeBaseIndicator : UInt16
  publishedGmValid : Bool
  publishedBtc : ClockIdentity
  publishedGmFields : GmFields
  publishedClockUpdates : UInt32
  phaseBaselineStepsNs : Int
  clockUpdates : UInt32
  clockStepsNs : Int
  deriving DecidableEq, Inhabited

/-- `ptp_timing_snapshot_t`. -/
structure PtpTimingSnapshot where
  generation : UInt32
  receivedUs : Int
  referenceNs : Int
  localReceiveNs : Int
  offsetNs : Int
  correctionNs : Int
  peerDelayNs : Int
  trimPpb : Int
  driftPpb : Int
  btcIdentity : ClockIdentity
  ownIdentity : ClockIdentity
  followUp : PtpFollowUp
  hardwareClock : Bool
  valid : Bool
  deriving DecidableEq, Inhabited

/-- `s_timing_snapshot` and `s_local_source_snapshot`. -/
structure PtpTiming where
  timingSnapshot : PtpTimingSnapshot
  localSourceSnapshot : PtpTimingSnapshot
  deriving DecidableEq, Inhabited

/-- `struct ptp_state_s`, with `n` ports besides port 0. -/
structure PtpState (F : Type) (n : Nat) extends
    PtpServo F, PtpSelection, PtpTimeBase, PtpTiming where
  ports : Fin (n + 1) → PtpPort F
  activePtpProfile : PtpProfile
  preferredPtpProfile : PtpProfile
  ownIdentity : PtpAnnounce
  announceSeq : UInt16
  syncSeq : UInt16
  delayReqSeq : UInt16
  gptpFallbackDone : Bool
  avbLiteFallbackReason : Nat
  deriving Inhabited

variable {F : Type} {n : Nat}

/-- The number of the bootstrap port. -/
abbrev bootstrapPort : Fin (n + 1) := 0

namespace PtpState

variable (s : PtpState F n)

/-- `ptp_is_gptp`. -/
def isGptp : Bool := decide (s.activePtpProfile = .gptp)

/-- Port 0. -/
def port0 : PtpPort F := s.ports bootstrapPort

def withPort (p : Fin (n + 1)) (port : PtpPort F) : PtpState F n :=
  { s with ports := Function.update s.ports p port }

def withPort0 (port : PtpPort F) : PtpState F n := s.withPort 0 port

@[simp] theorem withPort0_port0 (port : PtpPort F) : (s.withPort0 port).port0 = port := by
  simp [port0, withPort0, withPort]

theorem withPort_ports_of_ne {p q : Fin (n + 1)} (h : q ≠ p) (port : PtpPort F) :
    (s.withPort p port).ports q = s.ports q := by
  simp [withPort, h]

@[simp] theorem withPort_isGptp (p : Fin (n + 1)) (port : PtpPort F) :
    (s.withPort p port).isGptp = s.isGptp := rfl

end PtpState

/-! ## The published snapshots -/

/-- `ptp_invalidate_timing`. -/
def ptpInvalidateTiming (t : PtpTiming) : PtpTiming where
  timingSnapshot :=
    { t.timingSnapshot with generation := t.timingSnapshot.generation + 1, valid := false }
  localSourceSnapshot := { t.localSourceSnapshot with valid := false }

/-- The age check both snapshot functions make on their copy. -/
def PtpTimingSnapshot.fresh (snapshot : PtpTimingSnapshot) (nowUs : Int) : PtpTimingSnapshot :=
  if nowUs < snapshot.receivedUs ∨ nowUs - snapshot.receivedUs > 500000 then
    { snapshot with valid := false }
  else snapshot

/-- `ptpd_timing_snapshot`; the answer is the snapshot's `valid`. -/
def ptpdTimingSnapshot (t : PtpTiming) (nowUs : Int) : PtpTimingSnapshot :=
  t.timingSnapshot.fresh nowUs

/-- `ptpd_time_source_snapshot`. -/
def ptpdTimeSourceSnapshot (t : PtpTiming) (nowUs : Int) : PtpTimingSnapshot :=
  (if t.localSourceSnapshot.valid then t.localSourceSnapshot else t.timingSnapshot).fresh nowUs

@[simp] theorem PtpTimingSnapshot.fresh_generation (snapshot : PtpTimingSnapshot)
    (nowUs : Int) : (snapshot.fresh nowUs).generation = snapshot.generation := by
  unfold PtpTimingSnapshot.fresh
  split <;> rfl

/-- What the age check leaves valid it leaves as it is. -/
theorem PtpTimingSnapshot.fresh_valid {snapshot : PtpTimingSnapshot} {nowUs : Int}
    (h : (snapshot.fresh nowUs).valid = true) : snapshot.fresh nowUs = snapshot := by
  unfold PtpTimingSnapshot.fresh at h ⊢
  split at h
  · cases h
  · rename_i hage
    rw [if_neg hage]

/-- `ptp_invalidate_timing` on the daemon. -/
def PtpState.invalidateTiming (s : PtpState F n) : PtpState F n :=
  { s with toPtpTiming := ptpInvalidateTiming s.toPtpTiming }

end EspPtp
