import EspPtp.Beacon.Element
import EspPtp.Beacon.Status
import EspPtp.Daemon.DelayAverage
import EspPtp.Daemon.FtmSession
import EspPtp.Daemon.Loop
import EspPtp.Wifi.Envelope

/-!
# A station that takes its time from beacons (`on_vendor_ie`, `on_wifi_event`)

The radio's task calls `on_vendor_ie` for each vendor element. One that was not seen before
gives the envelope filter a sample of the access point's offset, and once that is acquired, the
daemon a pair of times. The event loop runs the ranging sessions, which refine the link delay
in the samples and watch for an access point that has started anew.

Each call of a handler is a step, and so is whatever the daemon does in between. A handler
answers the sections of `s_status_lock` it went through; the step has the status take them. An
`int64_t` is an integer here, as long as it does not overflow.
-/

namespace EspPtp

open Lib

/-! ## Reports -/

/-- `ptp_ftm_beacon_fresh`. -/
def ptpFtmBeaconFresh (haveTsf haveGptp : Bool) (associatedUs receivedUs nowUs : Int) : Bool :=
  haveTsf && haveGptp && decide (associatedUs > 0) && decide (receivedUs ≥ associatedUs) &&
    decide (nowUs ≥ receivedUs) && decide (nowUs - receivedUs ≤ 1000000)

/-- `ptp_ftm_rtt_positive`. -/
def ptpFtmRttPositive (rttPs : UInt32) : Bool :=
  decide (rttPs > 0) && decide (rttPs ≤ 0x7fffffff)

/-- `ptp_ftm_counter_backward`. -/
def ptpFtmCounterBackward (previous current : UInt64) : Bool :=
  let period := (1 : UInt64) <<< 48
  if previous ≥ period ∨ current ≥ period then false
  else
    let forward := (current - previous) &&& (period - 1)
    decide (forward > period / 2) && decide (period - forward > 1000000000000)

/-- `wifi_ftm_report_entry_t`, of which the code reads the round trip and the first time. -/
structure FtmReportEntry where
  rtt : UInt32
  t1 : UInt64
  deriving DecidableEq

/-- `FTM_STATUS_SUCCESS`, `FTM_STATUS_NO_VALID_MSMT` and the others. -/
inductive FtmStatus where
  | success
  | noValidMsmt
  | failed
  deriving DecidableEq

/-- `wifi_event_ftm_report_t`, and the entries `esp_wifi_ftm_get_report` gives for it: sixteen at
    most, and none where it fails. -/
structure FtmReport where
  peerMac : MacAddr
  status : FtmStatus
  rttEst : UInt32
  entries : List FtmReportEntry

namespace FtmReport

variable (r : FtmReport)

/-- The entries with a positive round trip. -/
def positive : List FtmReportEntry := r.entries.filter fun entry => ptpFtmRttPositive entry.rtt

/-- `avg_rtt_ps`. -/
def avgRttPs : Nat := (r.positive.map fun entry => entry.rtt.toNat).sum / r.positive.length

/-- `best_t1_ps`, if there is one. -/
def bestT1Ps : Option UInt64 := r.positive.getLast?.map fun entry => entry.t1

/-- `peer_delay_ns`, if there is one. -/
def peerDelayNs : Option Int :=
  if r.rttEst ≠ 0 then some (r.rttEst.toNat / 2 : Nat)
  else if r.avgRttPs ≠ 0 then some ((r.avgRttPs / 2 + 500) / 1000 : Nat)
  else none

/-- `rtt_ns`. -/
def rttNs : Int :=
  if r.rttEst ≠ 0 then r.rttEst.toNat else ((r.avgRttPs + 500) / 1000 : Nat)

end FtmReport

/-! ## The station -/

/-- The static variables of the two handlers, and the daemon they call. -/
structure BeaconStation (F : Type) (n : Nat) where
  daemon : PtpState F n
  status : BeaconStatus
  gptpMarkerNs : Int
  tsfMarkerUs : Int
  tsfMarkerReceivedUs : Int
  seenGptp : Bool
  seenTsf : Bool
  lastOriginTs : Vector UInt8 10
  lastElementUs : Int
  elementIntervalUs : Int
  filter : BeaconFilter
  /-- `BIT_STA_CONNECTED`. -/
  connected : Bool
  statusBssid : MacAddr
  ftmSession : PtpFtmSession
  ftmAssociatedUs : Int
  peerDelayNs : Int
  prevFtmT1Ps : UInt64
  prevBeaconTsfUs : Int
  haveFtmBaseline : Bool
  tsfBackwardStreak : Nat

/-- What `on_vendor_ie` reads from outside: `esp_timer` for the marker, the element, in
    `ptpd_ftm_source_observed` and for the status, the radio's TSF and the clock. -/
structure VendorIeReads where
  receivedUs : Int
  elementUs : Int
  observedUs : Int
  observedMono : Timespec
  staTsfUs : Int
  now : Timespec
  inject : InjectTimes
  appliedUs : Int

/-- What `WIFI_EVENT_FTM_REPORT` reads: the access point of the driver, `esp_timer`, and whether
    another transport took the report. -/
structure FtmReportReads where
  apInfo : Option MacAddr
  freshUs : Int
  hookTook : Bool
  nowUs : Int
  measuredUs : Int

inductive StationEvent (F : Type) (n : Nat) where
  /-- `on_vendor_ie`, for a beacon or another frame. -/
  | vendorIe (beacon : Bool) (ie : Bytes) (reads : VendorIeReads)
  /-- The cases of `on_wifi_event`. -/
  | staConnected (bssid : MacAddr) (statusUs ftmUs : Int)
  | staDisconnected (stop : Bool)
  | ftmReport (r : FtmReport) (reads : FtmReportReads)
  /-- The controls of `on_ftm_control`; `initiated` is the answer of the driver. -/
  | ftmStart (apInfo : Option MacAddr) (associatedUs freshUs : Int) (initiated : Bool)
  | ftmCancel
  /-- Whatever the daemon does in its own task. -/
  | daemon (state : PtpState F n)

/-- An element that was not seen before, and the sample it gives. -/
structure FreshElement where
  element : BeaconTime
  offsetRaw : Int
  deriving DecidableEq

/-- What a report with a time says of the access point's counters. -/
inductive ReportVerdict where
  /-- The TSF of its last beacon is a second or more behind. -/
  | beaconBackward (tsfUs : Int)
  | ftmBackward
  /-- The report becomes the baseline; the TSF is zero if there was no recent beacon. -/
  | kept (tsfUs : Int)
  deriving DecidableEq

structure StationAnswer where
  sections : List StatusSection
  fresh : Option FreshElement
  verdict : Option ReportVerdict
  /-- `esp_wifi_disconnect` is called. -/
  reassociates : Bool
  deriving DecidableEq

namespace StationAnswer

def none : StationAnswer := ⟨[], .none, .none, false⟩

/-- Nothing but sections of the status. -/
def ofSections (sections : List StatusSection) : StationAnswer := ⟨sections, .none, .none, false⟩

end StationAnswer

variable {F : Type} {n : Nat}

/-- `ptpd_set_sync_receipt_window`. -/
def ptpdSetSyncReceiptWindow (s : PtpState F n) (p : Fin (n + 1)) (windowUs : Int) : PtpState F n :=
  s.withPort p { s.ports p with receiptWindowUs := windowUs }

/-- `ptpd_inject_sync_pair`, and whether it returned `OK`. -/
def ptpdInjectSyncPairResult [CDouble F] (cfg : Config) (s : PtpState F n) (p : Fin (n + 1))
    (remoteNs localNs : Int) (times : InjectTimes) : PtpState F n × Bool :=
  let timespec (ns : Int) : Timespec := ⟨ns.tdiv nsecPerSec, ns.tmod nsecPerSec⟩
  if !s.selectedSourceValid then (s, false)
  else
    let s := s.withPort p { s.ports p with lastReceivedSync := times.mono }
    ptpUpdateLocalClock cfg s (timespec remoteNs) (timespec localNs) times.clock

namespace BeaconStation

variable (s : BeaconStation F n)

/-! ### Elements -/

/-- The two markers of an element. -/
def noteMarkers (element : BeaconTime) (receivedUs : Int) : BeaconStation F n :=
  { s with
    gptpMarkerNs := element.gptpMarkerNs
    seenGptp := true
    tsfMarkerUs := element.tsfUs
    tsfMarkerReceivedUs := receivedUs
    seenTsf := true }

/-- `s_element_interval_us` after an element: within its bounds, and averaged. -/
def nextElementIntervalUs (elementUs : Int) : Int :=
  let intervalUs := elementUs - s.lastElementUs
  let intervalUs := if intervalUs < 100000 then 100000 else intervalUs
  let intervalUs := if intervalUs > 2000000 then 2000000 else intervalUs
  if s.elementIntervalUs ≠ 0 then
    s.elementIntervalUs + (intervalUs - s.elementIntervalUs).tdiv 8
  else intervalUs

/-- The windows after an element, three intervals wide. -/
def noteInterval (p : Fin (n + 1)) (elementUs : Int) : BeaconStation F n × List StatusSection :=
  if s.lastElementUs ≠ 0 then
    let elementIntervalUs := s.nextElementIntervalUs elementUs
    let windowUs := 3 * elementIntervalUs
    ({ s with
        elementIntervalUs := elementIntervalUs
        daemon := ptpdSetSyncReceiptWindow s.daemon p windowUs
        lastElementUs := elementUs }, [.window windowUs])
  else ({ s with lastElementUs := elementUs }, [])

/-- The element counts as the port's Sync. -/
def observeSource (cfg : Config) (p : Fin (n + 1)) (element : BeaconTime) (reads : VendorIeReads) :
    BeaconStation F n :=
  let header := element.followUp.header
  { s with
    daemon := ptpdFtmSourceObserved cfg s.daemon p header.sourceidentity header.domain
      header.logmessageinterval.toInt8.toInt reads.elementUs reads.observedUs
      reads.observedMono }

/-- `offset_raw`. -/
def offsetRaw : Int := s.gptpMarkerNs - s.tsfMarkerUs * 1000 + s.peerDelayNs

/-- The filter takes the sample, and the daemon the pair of times. -/
def discipline [CDouble F] (cfg : Config) (p : Fin (n + 1)) (element : BeaconTime)
    (reads : VendorIeReads) : BeaconStation F n × List StatusSection :=
  if !(s.seenGptp && s.seenTsf) then (s, [])
  else
    let localNs := timespecToNs reads.now
    let stepped := s.filter.step
      { offsetRaw := s.offsetRaw
        staTsfUs := reads.staTsfUs
        info := element.followUp.informationtlv }
    let s := { s with filter := stepped.1 }
    let reacquired : List StatusSection := if stepped.2.reacquired then [.reacquire] else []
    match stepped.2.btcNowNs with
    -- While the offset is acquired the clock runs free.
    | none => (s, reacquired)
    | some btcNowNs =>
      let injected := ptpdInjectSyncPairResult cfg s.daemon p btcNowNs localNs reads.inject
      ({ s with daemon := injected.1 }, reacquired ++
        if injected.2 then [.applied (btcNowNs - localNs) reads.appliedUs] else [])

/-- `on_vendor_ie` for an element of a beacon that passed the checks. -/
def onBeaconTime [CDouble F] (cfg : Config) (p : Fin (n + 1)) (element : BeaconTime)
    (reads : VendorIeReads) : BeaconStation F n × StationAnswer :=
  let s := s.noteMarkers element reads.receivedUs
  let identity : StatusSection := .identity element.followUp.header.sourcePort
  -- Most beacons carry the bytes of an earlier one.
  if s.lastOriginTs = element.followUp.origintimestamp then (s, .ofSections [identity])
  else
    let s := { s with lastOriginTs := element.followUp.origintimestamp }
    let noted := s.noteInterval p reads.elementUs
    let s := noted.1.observeSource cfg p element reads
    let disciplined := s.discipline cfg p element reads
    (disciplined.1,
      { sections := identity :: (noted.2 ++ disciplined.2)
        fresh := some ⟨element, s.offsetRaw⟩
        verdict := none
        reassociates := false })

/-- `on_vendor_ie`, where FTM does not discipline the clock. -/
def onVendorIe [CDouble F] (cfg : Config) (vnd : VndIe) (p : Fin (n + 1)) (beacon : Bool)
    (ie : Bytes) (reads : VendorIeReads) : BeaconStation F n × StationAnswer :=
  if !beacon then (s, .none)
  else
    match vnd.beaconTime ie with
    | none => (s, .none)
    | some element => s.onBeaconTime cfg p element reads

/-! ### Associations and sessions -/

/-- `cancel_ftm_session`. -/
def cancelFtmSession : BeaconStation F n :=
  { s with ftmSession := ptpFtmSessionInvalidate s.ftmSession }

/-- What both ends of an association forget. -/
def forgetBaseline : BeaconStation F n :=
  { s with
    haveFtmBaseline := false
    prevBeaconTsfUs := 0
    tsfBackwardStreak := 0 }

/-- `WIFI_EVENT_STA_CONNECTED`. -/
def onStaConnected (bssid : MacAddr) (statusUs ftmUs : Int) : BeaconStation F n × StationAnswer :=
  let moved : List StatusSection :=
    if s.statusBssid ≠ bssid then [.reacquire, .forgetIdentity] else []
  ({ s.cancelFtmSession.forgetBaseline with
      statusBssid := bssid
      ftmAssociatedUs := ftmUs
      connected := true }, .ofSections (moved ++ [.associated statusUs]))

/-- `WIFI_EVENT_STA_DISCONNECTED`, and with `stop`, `WIFI_EVENT_STA_STOP`. -/
def onStaDisconnected (stop : Bool) : BeaconStation F n × StationAnswer :=
  let s := s.cancelFtmSession.forgetBaseline
  ({ s with
      ftmSession := { s.ftmSession with pending := s.ftmSession.pending && !stop }
      ftmAssociatedUs := 0
      connected := false }, .ofSections [.disassociated])

/-- `ftm_clock_beacon_fresh`. -/
def ftmClockBeaconFresh (nowUs : Int) : Bool :=
  ptpFtmBeaconFresh s.seenTsf s.seenGptp s.ftmAssociatedUs s.tsfMarkerReceivedUs nowUs

/-- `FTM_CONTROL_START`. -/
def onFtmStart (apInfo : Option MacAddr) (associatedUs freshUs : Int) (initiated : Bool) :
    BeaconStation F n :=
  if s.ftmSession.pending then s
  else
    match s.connected, apInfo with
    | true, some bssid =>
      let s :=
        if s.ftmAssociatedUs = 0 then { s with ftmAssociatedUs := associatedUs } else s
      if !s.ftmClockBeaconFresh freshUs then s
      else
        let begun := (ptpFtmSessionBegin s.ftmSession bssid).1
        { s with
          ftmSession :=
            if initiated then begun else { begun with pending := false, valid := false } }
    | _, _ => s

/-! ### Reports -/

/-- `beacon_tsf_us`: the TSF of a beacon of the last second, else zero. -/
def recentTsfUs (nowUs : Int) : Int :=
  if s.seenTsf = true ∧ s.tsfMarkerReceivedUs > 0 ∧ nowUs ≥ s.tsfMarkerReceivedUs ∧
      nowUs - s.tsfMarkerReceivedUs ≤ 1000000 then s.tsfMarkerUs
  else 0

/-- The access point is seen to have started anew, or not; `t1Ps` is the report's time. -/
def judge (t1Ps : UInt64) (beaconTsfUs : Int) : BeaconStation F n × ReportVerdict :=
  if s.haveFtmBaseline = true ∧ beaconTsfUs > 0 ∧ s.prevBeaconTsfUs > beaconTsfUs ∧
      s.prevBeaconTsfUs - beaconTsfUs > 1000000 then
    ({ s with tsfBackwardStreak := s.tsfBackwardStreak + 1 }, .beaconBackward beaconTsfUs)
  else
    let s := { s with tsfBackwardStreak := 0 }
    if s.haveFtmBaseline && ptpFtmCounterBackward s.prevFtmT1Ps t1Ps then (s, .ftmBackward)
    else
      ({ s with
          prevFtmT1Ps := t1Ps
          prevBeaconTsfUs := if beaconTsfUs > 0 then beaconTsfUs else s.prevBeaconTsfUs
          haveFtmBaseline := true }, .kept beaconTsfUs)

/-- The access point has started anew: what was known of it is forgotten. -/
def confirmReset : BeaconStation F n :=
  { s with
    tsfBackwardStreak := 0
    haveFtmBaseline := false
    seenTsf := false
    tsfMarkerReceivedUs := 0
    seenGptp := false }

/-- A link delay for the daemon, and for the samples if the daemon takes it. -/
def injectDelay (cfg : Config) (p : Fin (n + 1)) (delayNs : Option Int) :
    BeaconStation F n × Bool :=
  match delayNs with
  | none => (s, false)
  | some delayNs =>
    let injected := ptpdInjectPeerDelay cfg (some s.daemon) p delayNs
    let ok := decide (injected.2 = .ok)
    ({ s with
        daemon := injected.1.getD s.daemon
        peerDelayNs := if ok then delayNs else s.peerDelayNs }, ok)

/-- The end of a successful report. -/
def measure (cfg : Config) (p : Fin (n + 1)) (r : FtmReport) (verdict : Option ReportVerdict)
    (measuredUs : Int) : BeaconStation F n × StationAnswer :=
  let injected := s.injectDelay cfg p r.peerDelayNs
  (injected.1, ⟨[.measured injected.2 (statusClampNs r.rttNs) measuredUs], none, verdict, false⟩)

/-- A report of success. -/
def onFtmSuccess (cfg : Config) (p : Fin (n + 1)) (r : FtmReport) (reads : FtmReportReads) :
    BeaconStation F n × StationAnswer :=
  let failed : StatusSection := .measured false 0 reads.measuredUs
  match r.bestT1Ps with
  | none => s.measure cfg p r none reads.measuredUs
  | some t1Ps =>
    let judged := s.judge t1Ps (s.recentTsfUs reads.nowUs)
    match judged.2 with
    | .beaconBackward tsfUs =>
      if judged.1.tsfBackwardStreak < 3 then
        (judged.1, ⟨[failed], none, some (.beaconBackward tsfUs), false⟩)
      else
        (judged.1.confirmReset,
          ⟨[failed, .apReset, .reacquire, .forgetIdentity], none, some (.beaconBackward tsfUs),
            true⟩)
    | .ftmBackward => (judged.1, ⟨[failed], none, some .ftmBackward, false⟩)
    | .kept tsfUs => judged.1.measure cfg p r (some (.kept tsfUs)) reads.measuredUs

/-- `WIFI_EVENT_FTM_REPORT`. -/
def onFtmReport (cfg : Config) (p : Fin (n + 1)) (r : FtmReport) (reads : FtmReportReads) :
    BeaconStation F n × StationAnswer :=
  let connected := s.connected && decide (reads.apInfo = some r.peerMac) &&
    s.ftmClockBeaconFresh reads.freshUs
  let finished := ptpFtmSessionFinish s.ftmSession r.peerMac connected
  let s := { s with ftmSession := finished.1 }
  if !finished.2 || reads.hookTook then (s, .none)
  else
    match r.status with
    | .success => s.onFtmSuccess cfg p r reads
    | .noValidMsmt =>
      -- Below what ranging can resolve, the delay is taken for zero.
      ((s.injectDelay cfg p (some 0)).1, .ofSections [.measured false 0 reads.measuredUs])
    | .failed => (s, .ofSections [.measured false 0 reads.measuredUs])

/-- The status takes the sections of a handler. -/
def takeSections (sections : List StatusSection) : BeaconStation F n :=
  { s with status := sections.foldl BeaconStatus.take s.status }

end BeaconStation

/-- The handler of an event. -/
def stationHandler [CDouble F] (cfg : Config) (vnd : VndIe) (p : Fin (n + 1))
    (s : BeaconStation F n) : StationEvent F n → BeaconStation F n × StationAnswer
  | .vendorIe beacon ie reads => s.onVendorIe cfg vnd p beacon ie reads
  | .staConnected bssid statusUs ftmUs => s.onStaConnected bssid statusUs ftmUs
  | .staDisconnected stop => s.onStaDisconnected stop
  | .ftmReport r reads => s.onFtmReport cfg p r reads
  | .ftmStart apInfo associatedUs freshUs initiated =>
    (s.onFtmStart apInfo associatedUs freshUs initiated, .none)
  | .ftmCancel => (s.cancelFtmSession, .none)
  | .daemon state => ({ s with daemon := state }, .none)

/-- One step of the station of port `p`. -/
def stationStep [CDouble F] (cfg : Config) (vnd : VndIe) (p : Fin (n + 1))
    (s : BeaconStation F n) (e : StationEvent F n) : BeaconStation F n × StationAnswer :=
  let handled := stationHandler cfg vnd p s e
  (handled.1.takeSections handled.2.sections, handled.2)

end EspPtp
