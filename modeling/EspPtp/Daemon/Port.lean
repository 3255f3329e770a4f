import EspPtp.Capable.Wired
import EspPtp.Daemon.SyncReceipt
import EspPtp.Peer.Port
import EspPtp.Wifi.Neighbor
import EspPtp.Wire.Buffer

/-!
# A port of the daemon (`struct ptp_port_s`)

The measured peer of `PtpPeerPort` and everything else a port keeps that a handler reads.
Port 0 is special twice: the timing state of the whole daemon lives in it, and every
received frame, from whatever port, passes through its receive buffer and its `rx_*`
fields. Those are the scratch fields, a structure of their own below.
-/

namespace EspPtp

/-- `ptp_port_type_e`. -/
inductive PtpPortType where
  | primary
  | failover
  | bridged
  deriving DecidableEq, Inhabited, Repr

/-- `ptp_port_wifi_mode_e`. -/
inductive PtpPortWifiMode where
  | none
  | ap
  | sta
  deriving DecidableEq, Inhabited, Repr

/-- The frame being processed, where it came from and when: `rxbuf`, `rxtime` and the `rx_*`
    fields of port 0. -/
structure RxScratch where
  rxtime : Timespec
  rxSourceMac : MacAddr
  rxSourceMacValid : Bool
  rxDestMac : MacAddr
  rxDestMacValid : Bool
  rxAssociation : UInt32
  rxbuf : Bytes
  deriving DecidableEq, Inhabited

/-- The sender of the frame, when it is known. -/
def RxScratch.sender (rx : RxScratch) : Option MacAddr :=
  if rx.rxSourceMacValid then some rx.rxSourceMac else none

/-- `struct ptp_port_s`. -/
structure PtpPort (F : Type) extends PtpPeerPort F, RxScratch where
  type : PtpPortType
  wifiMode : PtpPortWifiMode
  negotiatedLinkMbps : UInt32
  rxMinorVersion : UInt8
  /-- `ptp_socket` is open. -/
  socketOpen : Bool
  lastReceivedMulticast : Timespec
  lastSocketAlive : Timespec
  lastReceivedAnnounce : Timespec
  lastReceivedSync : Timespec
  lastReceivedCapableIndication : Timespec
  lastCapableIndication : PtpCapableMessage
  wiredCapable : PtpWiredCapable
  wifiNeighbor : PtpWifiNeighbor
  wifiPeers : PtpWifiPeers
  capableIndicationCount : UInt32
  lastTransmittedDelayresp : Timespec
  peerIsEndpoint : Bool
  pdelayMultiResponder : Bool
  lastEndpointBeacon : Timespec
  canSendDelayreq : Bool
  delayreqTime : Timespec
  pathDelayAvgcount : Nat
  pathDelayNs : Int
  nextDelayreqIntervalMs : Int
  twostepPacket : PtpSync
  twostepRxtime : Timespec
  twostepReceivedUs : Int
  twostepPending : Bool
  syncReceipt : PtpSyncReceipt
  receiptWindowUs : Int
  deriving Inhabited

variable {F : Type}

/-- The tests before work of associated stations: a port that is up, on Wi-Fi in this mode,
    in the gPTP profile. -/
def PtpPort.wifiOpen (port : PtpPort F) (gptp : Bool) (mode : PtpPortWifiMode) : Bool :=
  port.enabled && port.linkUp && gptp && decide (port.medium = .wifiFtm) &&
    decide (port.wifiMode = mode)

/-- A wired port whose measured peer belongs to the present link. -/
def PtpPort.wiredBound (port : PtpPort F) (gptp : Bool) : Bool :=
  port.enabled && port.linkUp && gptp && decide (port.medium = .ethHwts) &&
    port.peerRate.valid && decide (port.peerRate.lifecycle = port.peerExchange.lifecycle)

/-- What `ptp_reset_for_profile` does to each port under `s_peer_lock`. -/
def resetPortForProfile (port : PtpPort F) : PtpPort F :=
  { port with
    capableReceive := { port.capableReceive with valid := false }
    wiredCapable :=
      { (default : PtpWiredCapable) with transmit := port.wiredCapable.transmit.restarted }
    wifiNeighbor :=
      { port.wifiNeighbor with
        transmit := port.wifiNeighbor.transmit.restarted
        sync := ptpSyncIntervalReset port.wifiNeighbor.sync }
    wifiPeers := resetPeersForProfile port.wifiPeers }

end EspPtp
