import EspPtp.Daemon.BestClock
import EspPtp.Daemon.State
import EspPtp.Wire.LiteTlv
import EspPtp.Wire.PathTrace

/-!
# Announce and the selected source (`ptp_process_announce`)

An Announce that is better than this clock, and than the selected source, becomes the
selected source. What `ptp_process_announce` does not do is say that the source is valid:
it stores it, and the daemon's next pass computes `selected_source_valid` from what is
stored and when (`is_selected_source_valid`).
-/

namespace EspPtp

open Lib

/-! ## Is the selected source still valid -/

/-- The times `ptp_wired_capability` reads. -/
structure CapabilityTimes where
  nowUs : Int
  neighborUs : Int
  deriving DecidableEq, Inhabited

variable {F : Type} [CDouble F] {n : Nat}

/-- `ptp_wired_capability` of port 0. -/
def PtpState.wiredCapability (cfg : Config) (s : PtpState F n) (times : CapabilityTimes) : Bool :=
  ptpWiredCapability cfg s.isGptp s.port0.toPtpPeerPort times.nowUs times.neighborUs

/-- The capability the profile asks of a wired port 0. -/
def PtpState.lacksCapability (cfg : Config) (s : PtpState F n) (times : CapabilityTimes) : Bool :=
  s.isGptp && decide (s.port0.medium = .ethHwts) && !s.wiredCapability cfg times

/-- The type of the selected source's message is that of an Announce; a zeroed one's is not. -/
def PtpSelection.isAnnounce (s : PtpSelection) : Bool :=
  decide (PtpMsgtype.ofByte s.selectedSource.header.messagetype = .announce)

/-- `ptp_announce_receipt_timeout_ns`. -/
def ptpAnnounceReceiptTimeoutNs (cfg : Config) (msg : PtpAnnounce) : Int :=
  let interval := msg.header.logmessageinterval.toInt8.toInt
  if interval < -24 ∨ interval > 24 then 3000000 * cfg.announceIntervalMs
  else if interval ≥ 0 then 3000000000 * 2 ^ interval.toNat
  else
    let divisor : Int := 2 ^ (-interval).toNat
    (3000000000 + divisor - 1) / divisor

/-- The times `is_selected_source_valid` reads. -/
structure ValidityTimes extends CapabilityTimes where
  mono : Timespec
  receiptUs : Int
  deriving DecidableEq, Inhabited

/-- The selected source's Announce is recent. -/
def PtpState.announceCurrent (cfg : Config) (s : PtpState F n) (mono : Timespec) : Bool :=
  let age := timespecDeltaNs cfg mono s.lastSelectedAnnounce
  decide (0 ≤ age) && decide (age < ptpAnnounceReceiptTimeoutNs cfg s.selectedSource)

/-- A source that is a time source is heard. -/
def PtpState.syncCurrent (s : PtpState F n) (nowUs : Int) : Bool :=
  decide (s.selectedSource.btcPriority1 = 255) ||
    ptpSyncReceiptCurrent s.port0.syncReceipt nowUs

/-- The later of two times. -/
def Timespec.later (a b : Timespec) : Timespec :=
  if b.tvSec > a.tvSec ∨ (b.tvSec = a.tvSec ∧ b.tvNsec > a.tvNsec) then b else a

/-- `is_selected_source_valid`. -/
def isSelectedSourceValid (cfg : Config) (s : PtpState F n) (times : ValidityTimes) : Bool :=
  if s.lacksCapability cfg times.toCapabilityTimes then false
  else if !s.isAnnounce then false
  else if s.isGptp then s.announceCurrent cfg times.mono && s.syncCurrent times.receiptUs
  else
    let lastEvt := s.port0.lastReceivedSync.later s.lastSelectedAnnounce
    !decide (timespecToMs (timespecSub times.mono lastEvt) > cfg.timeoutMs)

/-! ## Announce -/

/-- `ptp_update_delay_asymmetry`. -/
def PtpState.updateDelayAsymmetry (cfg : Config) (s : PtpState F n) : PtpState F n :=
  let gmMbps : Int := s.selectedGmLinkMbps.toNat
  let localMbps : Int := s.port0.negotiatedLinkMbps.toNat
  let frameOctets : Int := if cfg.litePriorityTag then 66 else 64
  { s with
    delayAsymmetryNs :=
      if !s.isGptp && decide (gmMbps > 0) && decide (localMbps > 0) && decide (gmMbps ≠ localMbps)
      then (4 * frameOctets * 1000 * (localMbps - gmMbps)).tdiv (gmMbps * localMbps)
      else 0 }

/-- `ptp_reset_unicast_delay_req`. -/
def ptpResetUnicastDelayReq (s : PtpSelection) : PtpSelection :=
  { s with
    unicastDelayReqOutstanding := false
    unicastDelayReqMisses := 0
    unicastDelayReqRetryUs := 0 }

/-- What `ptp_process_announce` reads from outside. -/
structure AnnounceTimes where
  mono : Timespec
  receiptUs : Int
  deriving DecidableEq, Inhabited

/-- An Announce that `ptp_process_announce` returns from before it looks at its vector. -/
def announceRefused (s : PtpState F n) (msg : PtpAnnounce) : Bool :=
  s.isGptp && (decide ((be16 msg.stepsremoved).toNat ≥ 255) ||
    decide (msg.header.sourceidentity = s.ownIdentity.header.sourceidentity))

/-- The section that binds the access point of a station: the port, and whether the Announce
    is from it. -/
def announceNeighbor (port : PtpPort F) (msg : PtpAnnounce) : PtpPort F × Bool :=
  if port.medium = .wifiFtm ∧ port.wifiMode = .sta ∧ port.rxSourceMacValid = true then
    let identity := msg.header.sourcePort
    let answer :=
      ptpWifiNeighborBind port.wifiNeighbor port.rxAssociation port.rxSourceMac identity
    ({ port with
        wifiNeighbor := answer.1
        capableReceive :=
          if answer.2 ∧ port.capableReceive.message.sourcePort ≠ identity then
            { port.capableReceive with valid := false }
          else port.capableReceive }, answer.2)
  else (port, true)

/-- The Announce is from the port of the selected source. -/
def PtpSelection.samePort (s : PtpSelection) (msg : PtpAnnounce) : Bool :=
  decide (msg.header.sourcePort = s.selectedSource.header.sourcePort)

/-- A worse source gives way: what an Announce does that is not better than this clock. -/
def PtpState.dropSource (s : PtpState F n) : PtpState F n :=
  { s.invalidateTiming with
    selectedSourceValid := false
    selectedSource := default
    selectedPath := [] }

/-- The Announce brings another source, or the first. -/
def announceChanged (s : PtpSelection) (msg : PtpAnnounce) : Bool :=
  !s.selectedSourceValid || !s.samePort msg ||
    decide (msg.btcIdentity ≠ s.selectedSource.btcIdentity)

/-- The Announce brings another vector. -/
def announceVectorChanged (s : PtpSelection) (msg : PtpAnnounce) : Bool :=
  decide (systemIdentity msg ≠ systemIdentity s.selectedSource) ||
    decide (msg.stepsremoved ≠ s.selectedSource.stepsremoved)

/-- The receipt time a new source is given. -/
def announceReceipt (cfg : Config) (port : PtpPort F) (receiptUs : Int) : PtpSyncReceipt :=
  ptpSyncReceiptStart receiptUs
    (if port.receiptWindowUs > 0 then port.receiptWindowUs else 3000 * cfg.syncIntervalMs)

/-- The rest of the timing state starts anew with a new source. -/
def PtpState.switchSource (s : PtpState F n) : PtpState F n :=
  let s := s.invalidateTiming.withPort0
    { s.port0 with
      twostepPending := false
      lastReceivedSync := s.port0.lastReceivedAnnounce
      pathDelayAvgcount := 0
      pathDelayNs := 0
      delayreqTime := { s.port0.delayreqTime with tvSec := 0 } }
  { s with correctionNs := CDouble.ofInt 0 }

/-- The link-layer address of the sender becomes the source's. -/
def noteSourceMac (s : PtpSelection) (rx : RxScratch) : PtpSelection :=
  if rx.rxSourceMacValid ∧ (!s.selectedSourceMacValid ∨ s.selectedSourceMac ≠ rx.rxSourceMac) then
    ptpResetUnicastDelayReq
      { s with
        selectedSourceMac := rx.rxSourceMac
        selectedSourceMacValid := true }
  else s

/-- The Announce is stored as the selected source. -/
def PtpState.storeSource (cfg : Config) (s : PtpState F n) (message : Bytes) (length : Nat)
    (path : PtpPathTrace) : PtpState F n :=
  let msg := PtpAnnounce.read message
  let s :=
    { s with
      selectedSource := msg
      selectedPath := path
      selectedGmLinkMbps := if s.isGptp then 0 else announceGmLinkMbps message length }
  let s := s.updateDelayAsymmetry cfg
  { s with
    toPtpSelection :=
      { noteSourceMac s.toPtpSelection s.port0.toRxScratch with
        lastSelectedAnnounce := s.port0.lastReceivedAnnounce } }

/-- `ptp_process_announce` once the Announce counts as received. -/
def announceReceived (cfg : Config) (s : PtpState F n) (message : Bytes) (length : Nat)
    (path : PtpPathTrace) (receiptUs : Int) : PtpState F n :=
  let msg := PtpAnnounce.read message
  if !isBetterClock msg s.ownIdentity then
    if s.samePort msg then s.dropSource else s
  else if !s.samePort msg && s.selectedSourceValid && !isBetterClock msg s.selectedSource then s
  else
    let changed := announceChanged s.toPtpSelection msg
    let s :=
      if changed || announceVectorChanged s.toPtpSelection msg then
        s.withPort0 { s.port0 with syncReceipt := announceReceipt cfg s.port0 receiptUs }
      else s
    let s := if changed then s.switchSource else s
    s.storeSource cfg message length path

/-- `ptp_process_announce`. -/
def ptpProcessAnnounce (cfg : Config) (s : PtpState F n) (message : Bytes) (length : Nat)
    (times : AnnounceTimes) : PtpState F n :=
  let msg := PtpAnnounce.read message
  match ptpPathTraceParse message length s.ownIdentity.header.sourceidentity with
  | none => s
  | some path =>
    if announceRefused s msg then s
    else
      let neighbor := announceNeighbor s.port0 msg
      let s := s.withPort0 neighbor.1
      if !neighbor.2 then s
      else
        let s := s.withPort0 { s.port0 with lastReceivedAnnounce := times.mono }
        announceReceived cfg s message length path times.receiptUs

/-! ## Which Announces become the selected source -/

/-- An Announce that counts as received. -/
def announceInOrder (s : PtpState F n) (message : Bytes) (length : Nat) : Bool :=
  let msg := PtpAnnounce.read message
  (ptpPathTraceParse message length s.ownIdentity.header.sourceidentity).isSome &&
    !announceRefused s msg && (announceNeighbor s.port0 msg).2

/-- An Announce that is better than this clock, and of the selected port or better than a
    valid selected source. -/
def announceWins (s : PtpState F n) (msg : PtpAnnounce) : Bool :=
  isBetterClock msg s.ownIdentity &&
    (s.samePort msg || !s.selectedSourceValid || isBetterClock msg s.selectedSource)

/-- An Announce of the selected port that is not better than this clock. -/
def announceFails (s : PtpState F n) (msg : PtpAnnounce) : Bool :=
  !isBetterClock msg s.ownIdentity && s.samePort msg

/-- The Announce is accepted: it becomes the selected source. -/
def announceAccepts (s : PtpState F n) (message : Bytes) (length : Nat) : Bool :=
  announceInOrder s message length && announceWins s (PtpAnnounce.read message)

/-- The Announce ends the selection. -/
def announceDrops (s : PtpState F n) (message : Bytes) (length : Nat) : Bool :=
  announceInOrder s message length && announceFails s (PtpAnnounce.read message)

end EspPtp
