import EspPtp.Link.Ethernet

/-!
# A clock on a wire (`ptp_send_announce`, `ptp_send_sync`, `ptp_periodic_send`)

A daemon whose port 0 is wired, and which follows nobody, is its segment's source: it announces
itself, and sends a Sync in every interval, with a Follow_Up that tells when the Sync left.
What it needs besides the daemon's state is when it last did either.

`ptp_send_sync` draws a number even for a Sync that could not be sent; and where the Sync was
sent without a stamp, the Follow_Up tells the time that was read before.
-/

namespace EspPtp

variable {F : Type} {n : Nat}

/-! ## Who it is -/

/-- The clock identity of an address, an EUI-64. -/
def clockIdentityOf (mac : MacAddr) : ClockIdentity :=
  #v[mac[0]!, mac[1]!, mac[2]!, 0xff, 0xfe, mac[3]!, mac[4]!, mac[5]!]

/-- What the build fixes of a wired clock: the configuration, `CONFIG_ESP_PTP_TWOSTEP_SYNC`, the
    address of the port, and the values its own Announce has from `Kconfig`. -/
structure WiredNode where
  cfg : Config
  twostepSync : Bool
  intfHwAddr : MacAddr
  priority1 : UInt8
  clockClass : UInt8
  accuracy : UInt8
  priority2 : UInt8
  clocksource : UInt8

namespace WiredNode

variable (node : WiredNode)

/-- The identity `ptp_initialize_state` gives the daemon. A build that is no server announces
    the worst priority, and no clock. -/
def ownIdentity : PtpAnnounce :=
  let header : PtpHeader :=
    { (default : PtpHeader) with
      version := 2
      domain := node.cfg.domain
      sourceidentity := clockIdentityOf node.intfHwAddr
      sourceportindex := octets 0 1 }
  if node.cfg.actsAsServer then
    { (default : PtpAnnounce) with
      header := header
      btcPriority1 := node.priority1
      btcQuality := #v[node.clockClass, node.accuracy, 0xff, 0xff]
      btcPriority2 := node.priority2
      btcIdentity := clockIdentityOf node.intfHwAddr
      timesource := node.clocksource }
  else { (default : PtpAnnounce) with header := header, btcPriority1 := 255 }

/-- Sync has a Follow_Up. -/
def twoStep : Bool := node.twostepSync || node.cfg.gptpProfile

end WiredNode

/-! ## Announce -/

/-- The Path Trace TLV of a clock that relays nobody. -/
def ownPathTraceTlv (s : PtpState F n) : Bytes :=
  ([0, 8, 0, 8] : Bytes) ++ s.ownIdentity.btcIdentity.toList

/-- `struct ptp_gm_link_tlv_s`. -/
def gmLinkTlv (mbps : UInt32) : Bytes :=
  ([0x80, 0x00, 0, 10] : Bytes) ++ liteOrgId.toList ++ gmLinkSubtype.toList ++
    [(mbps >>> 24).toUInt8, (mbps >>> 16).toUInt8, (mbps >>> 8).toUInt8, mbps.toUInt8]

namespace PtpState

variable (cfg : Config) (s : PtpState F n)

/-- The TLVs behind the body: the path, and in the AVB Lite profile the speed of the link, once
    it is known. -/
def announceTlvs : Bytes :=
  let mbps := s.port0.negotiatedLinkMbps
  ownPathTraceTlv s ++ if !s.isGptp && decide (mbps ≠ 0) then gmLinkTlv mbps else []

/-- The header of an Announce, before its length and its sequence number. -/
def announceHeader : PtpHeader :=
  let own := s.ownIdentity.header
  { own with
    messagetype := if s.isGptp then 0x1b else 0x0b
    flags := octets (octet0 own.flags) 8
    logmessageinterval := UInt8.ofInt cfg.announceLogInterval }

/-- The message `ptp_send_announce` sends. -/
def announceMessage (origin : Timespec) : Bytes :=
  let next := ptpIncrementSequence s.announceSeq (s.announceHeader cfg)
  let header := ptpSetMessageLength next.2 (64 + s.announceTlvs.length)
  PtpAnnounce.write
    { s.ownIdentity with header := header, origintimestamp := timespecToPtpFormat cfg origin } ++
    s.announceTlvs

end PtpState

/-- `ptp_send_announce`. -/
def ptpSendAnnounce (cfg : Config) (s : PtpState F n) (origin : Timespec) (sent : Bool) :
    PtpState F n × List PtpFrame :=
  ({ s with announceSeq := s.announceSeq + 1 },
    if sent then [⟨s.announceMessage cfg origin, none⟩] else [])

/-! ## Sync and Follow_Up -/

/-- What `ptp_send_sync` reads from outside: the time before it sends, whether the two messages
    went out, and the stamp that came back with the first. -/
structure SendSyncReadings where
  gettime : Timespec
  sent : Bool
  stamp : Option Timespec
  followUpSent : Bool
  deriving DecidableEq, Inhabited

/-- When the Sync left, as far as the sender knows. -/
def SendSyncReadings.departure (reads : SendSyncReadings) : Timespec :=
  reads.stamp.getD reads.gettime

/-- The information TLV of `ptp_send_sync`, whose fields of the time base are left zero. -/
def syncInformationTlv : Vector UInt8 32 :=
  Vector.ofFn fun i => [0, 3, 0, 0x1c, 0x00, 0x80, 0xc2, 0, 0, 1].getD i 0

namespace WiredNode

variable (node : WiredNode) (s : PtpState F n)

/-- The header of a Sync, before its sequence number. Only the low byte of its length is
    written. -/
def syncHeader : PtpHeader :=
  let own := s.ownIdentity.header
  { own with
    messagetype := if s.isGptp then 0x10 else 0x00
    messagelength := octets (octet0 own.messagelength) 44
    flags :=
      octets (if node.twoStep then 2 else octet0 own.flags)
        (if s.isGptp then 8 else octet1 own.flags)
    logmessageinterval := UInt8.ofInt node.cfg.syncLogInterval }

/-- The header with its number. -/
def numberedSyncHeader : PtpHeader := (ptpIncrementSequence s.syncSeq (node.syncHeader s)).2

def syncMessage (gettime : Timespec) : Bytes :=
  (node.numberedSyncHeader s).write ++ (timespecToPtpFormat node.cfg gettime).toList

/-- The header of the Follow_Up: the Sync's, changed where they differ. -/
def followUpHeader : PtpHeader :=
  let header := node.numberedSyncHeader s
  { header with
    messagetype := if s.isGptp then 0x18 else 0x08
    messagelength := octets (octet0 header.messagelength) 76
    flags := octets 0 (octet1 header.flags)
    controlfield := 2 }

def followUpMessage (departure : Timespec) : Bytes :=
  PtpFollowUp.write
    { header := node.followUpHeader s
      origintimestamp := timespecToPtpFormat node.cfg departure
      informationtlv := syncInformationTlv }

/-- `ptp_send_sync`. -/
def ptpSendSync (reads : SendSyncReadings) : PtpState F n × List PtpFrame :=
  ({ s with syncSeq := s.syncSeq + 1 },
    if !reads.sent then []
    else
      ⟨node.syncMessage s reads.gettime, none⟩ ::
        if node.twoStep && reads.followUpSent then
          [⟨node.followUpMessage s reads.departure, none⟩]
        else [])

end WiredNode

/-! ## When it sends -/

/-- A daemon, and the two times of its port 0 that only `ptp_periodic_send` has. -/
structure WiredClock (F : Type) (n : Nat) where
  daemon : PtpState F n
  lastTransmittedAnnounce : Timespec
  lastTransmittedSync : Timespec

/-- What `ptp_periodic_send` reads for its wired port. -/
structure PeriodicReadings where
  mono : Timespec
  capability : CapabilityTimes
  announceOrigin : Timespec
  announceSent : Bool
  sync : SendSyncReadings
  deriving DecidableEq, Inhabited

namespace WiredNode

variable (node : WiredNode)

/-- The clock is its segment's source. -/
def originates (s : PtpState F n) (times : CapabilityTimes) : Bool :=
  node.cfg.actsAsServer && !s.selectedSourceValid && s.port0.enabled &&
    decide (s.port0.medium = .ethHwts) && s.port0.socketOpen &&
    (!s.isGptp || s.wiredCapability node.cfg times)

/-- `CONFIG_ESP_PTP_SYNC_INTERVAL_MS` as a `struct timespec`. -/
def syncInterval : Timespec :=
  ⟨node.cfg.syncIntervalMs.tdiv 1000, node.cfg.syncIntervalMs.tmod 1000 * 1000000⟩

/-- The time of the next Sync counts from here: from the nominal time of this one, or from now
    where that is far behind. -/
def syncGrid (last mono : Timespec) : Timespec :=
  if timespecToMs (timespecSub mono last) > 2 * node.cfg.syncIntervalMs then mono
  else timespecAdd last node.syncInterval

/-- The Announce of a pass. -/
def periodicAnnounce (clock : WiredClock F n) (reads : PeriodicReadings) :
    WiredClock F n × List PtpFrame :=
  if timespecToMs (timespecSub reads.mono clock.lastTransmittedAnnounce) >
      node.cfg.announceIntervalMs then
    let sent := ptpSendAnnounce node.cfg clock.daemon reads.announceOrigin reads.announceSent
    ({ clock with daemon := sent.1, lastTransmittedAnnounce := reads.mono }, sent.2)
  else (clock, [])

/-- The Sync of a pass is due. -/
def syncDue (clock : WiredClock F n) (mono : Timespec) : Bool :=
  decide (timespecToMs (timespecSub mono clock.lastTransmittedSync) > node.cfg.syncIntervalMs) &&
    (!clock.daemon.isGptp || decide (clock.daemon.ownIdentity.btcPriority1 < 255))

/-- The Sync of a pass. -/
def periodicSync (clock : WiredClock F n) (reads : PeriodicReadings) :
    WiredClock F n × List PtpFrame :=
  if node.syncDue clock reads.mono then
    let sent := node.ptpSendSync clock.daemon reads.sync
    ({ clock with
        daemon := sent.1
        lastTransmittedSync := node.syncGrid clock.lastTransmittedSync reads.mono }, sent.2)
  else (clock, [])

/-- What `ptp_periodic_send` does for the wired port: the Announce, and then the Sync. -/
def ptpPeriodicSend (clock : WiredClock F n) (reads : PeriodicReadings) :
    WiredClock F n × List PtpFrame :=
  if node.originates clock.daemon reads.capability then
    let announced := node.periodicAnnounce clock reads
    let synced := node.periodicSync announced.1 reads
    (synced.1, announced.2 ++ synced.2)
  else (clock, [])

end WiredNode

end EspPtp
