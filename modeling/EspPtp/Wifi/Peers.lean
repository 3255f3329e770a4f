import Mathlib.Logic.Function.Basic
import Mathlib.Data.List.FinRange
import EspPtp.Capable.Receive
import EspPtp.Capable.Schedule
import EspPtp.Wifi.Requests

/-!
# The stations of an access point (`ptp_wifi_peers.h`, `ptp_wifi_association.h`)

Sixteen slots of associated stations, under one generation counter. A station that joins
is given the counter's next value as its association number; asynchronous work for it —
received Signaling, radio completions, Announce transmissions — carries the station's
address and this number, and reaches the slot only while both still match.

That check is the same in all seven functions that make it, and is `onAssociation` here;
each of them is that definition applied to what it does to the slot. A pointer into the
table is a slot, and a null pointer `none`.
-/

namespace EspPtp

open Lib

/-- `PTP_WIFI_ASSOCIATIONS_MAX`, which is `PTP_WIFI_PEERS_MAX`. -/
abbrev ptpWifiPeersMax : Nat := 16

/-- `ptp_wifi_peer_t`; `sync` is `sync_stopped` with `sync_revision`. -/
structure PtpWifiPeer where
  associated : Bool
  bound : Bool
  sync : PtpSyncInterval
  mac : MacAddr
  portIdentity : PortIdentity
  association : UInt32
  capable : PtpCapableReceive
  transmit : PtpCapableSchedule
  announce : PtpAnnounceSchedule
  deriving DecidableEq, Inhabited

@[simp] theorem PtpWifiPeer.default_associated :
    (default : PtpWifiPeer).associated = false := rfl

/-- `ptp_wifi_peers_t`. -/
structure PtpWifiPeers where
  generation : UInt32
  radioBoot : UInt32
  radioGeneration : UInt32
  reconciledGeneration : UInt32
  unreported : Bool
  entries : Fin ptpWifiPeersMax → PtpWifiPeer

/-- A zeroed `ptp_wifi_peers_t`. -/
def PtpWifiPeers.zero : PtpWifiPeers where
  generation := 0
  radioBoot := 0
  radioGeneration := 0
  reconciledGeneration := 0
  unreported := false
  entries := fun _ => default

instance : Inhabited PtpWifiPeers := ⟨.zero⟩

/-- `ptp_interval_message_t` of `ptp_signaling.h`. -/
structure PtpIntervalMessage where
  sourcePort : PortIdentity
  logLinkDelay : Int
  logSync : Int
  logAnnounce : Int
  flags : UInt8
  deriving DecidableEq, Inhabited, Repr

/-- `ptp_wifi_peers_publishable`. -/
def ptpWifiPeersPublishable (cfg : Config) (peers : PtpWifiPeers) : Bool :=
  if cfg.hasApViaCoprocessor then
    peers.unreported ||
      (decide (peers.radioBoot ≠ 0) && decide (peers.radioGeneration ≠ 0) &&
        decide (peers.reconciledGeneration = peers.generation))
  else true

/-- `ptp_wifi_peers_advance`. -/
def ptpWifiPeersAdvance (peers : PtpWifiPeers) : PtpWifiPeers :=
  { peers with generation := nextNonzero peers.generation }

/-- `ptp_wifi_peers_find`: the first slot associated with the address. -/
def ptpWifiPeersFind (peers : PtpWifiPeers) (mac : MacAddr) : Option (Fin ptpWifiPeersMax) :=
  (List.finRange ptpWifiPeersMax).find? fun slot =>
    (peers.entries slot).associated && decide ((peers.entries slot).mac = mac)

/-- `ptp_wifi_peers_clear`. -/
def ptpWifiPeersClear (peers : PtpWifiPeers) : PtpWifiPeers :=
  { ptpWifiPeersAdvance peers with entries := fun _ => default }

/-- An address a station can have: unicast and not zero. -/
def stationAddress (mac : MacAddr) : Bool :=
  decide (macOctet0 mac &&& 1 = 0) && decide (mac ≠ Vector.replicate 6 0)

/-- `ptp_wifi_peers_join`: a new lifetime, in the slot of the address or in a free one. -/
def ptpWifiPeersJoin (peers : PtpWifiPeers) (mac : MacAddr) :
    PtpWifiPeers × Option (Fin ptpWifiPeersMax) :=
  if !stationAddress mac then (peers, none)
  else
    let slot :=
      match ptpWifiPeersFind peers mac with
      | some slot => some slot
      | none =>
        (List.finRange ptpWifiPeersMax).find? fun slot => !(peers.entries slot).associated
    match slot with
    | none => (peers, none)
    | some slot =>
      let peers := ptpWifiPeersAdvance peers
      ({ peers with
          entries := Function.update peers.entries slot
            { (default : PtpWifiPeer) with
              associated := true, mac := mac, association := peers.generation } },
        some slot)

/-- `ptp_wifi_peers_leave`. -/
def ptpWifiPeersLeave (peers : PtpWifiPeers) (mac : MacAddr) : PtpWifiPeers :=
  match ptpWifiPeersFind peers mac with
  | none => peers
  | some slot =>
    ptpWifiPeersAdvance { peers with entries := Function.update peers.entries slot default }

/-! ## Work for one association -/

/-- Act on the slot of `mac` while it is still the association `association`. -/
def onAssociation {α : Type} (peers : PtpWifiPeers) (mac : MacAddr) (association : UInt32)
    (failure : α) (act : PtpWifiPeer → PtpWifiPeer × α) : PtpWifiPeers × α :=
  match ptpWifiPeersFind peers mac with
  | none => (peers, failure)
  | some slot =>
    if (peers.entries slot).association ≠ association then (peers, failure)
    else
      let answer := act (peers.entries slot)
      ({ peers with entries := Function.update peers.entries slot answer.1 }, answer.2)

/-- What a station that signals under another port identity loses. -/
def PtpWifiPeer.rebound (peer : PtpWifiPeer) : PtpWifiPeer :=
  { peer with
    capable := { peer.capable with valid := false }
    announce := ptpAnnounceReset peer.announce
    sync := ptpSyncIntervalReset peer.sync
    transmit := peer.transmit.restarted }

/-- `ptp_wifi_peers_capable`. -/
def ptpWifiPeersCapable (peers : PtpWifiPeers) (mac : MacAddr) (association : UInt32)
    (message : PtpCapableMessage) (nowUs : Int) : PtpWifiPeers × Bool :=
  onAssociation peers mac association false fun peer =>
    if message.sourcePort.port = Vector.replicate 2 0 then (peer, false)
    else
      let peer :=
        if peer.bound ∧ peer.portIdentity ≠ message.sourcePort then peer.rebound else peer
      let answer :=
        ptpCapableReceive peer.capable message message.sourcePort association nowUs
      let peer := { peer with capable := answer.1 }
      if !answer.2 then (peer, false)
      else ({ peer with portIdentity := message.sourcePort, bound := true }, true)

/-- `ptp_wifi_peers_interval`. -/
def ptpWifiPeersInterval (peers : PtpWifiPeers) (mac : MacAddr) (association : UInt32)
    (message : PtpCapableMessage) : PtpWifiPeers × Bool :=
  onAssociation peers mac association false fun peer =>
    if !peer.bound ∨ peer.portIdentity ≠ message.sourcePort then (peer, false)
    else
      let answer := ptpCapableScheduleRequest peer.transmit message.logInterval
      ({ peer with transmit := answer.1 }, answer.2)

/-- `ptp_wifi_peers_sync_interval`. -/
def ptpWifiPeersSyncInterval (peers : PtpWifiPeers) (mac : MacAddr) (association : UInt32)
    (message : PtpIntervalMessage) : PtpWifiPeers × Bool :=
  onAssociation peers mac association false fun peer =>
    if !peer.bound ∨ peer.portIdentity ≠ message.sourcePort then (peer, false)
    else
      let answer := ptpSyncIntervalRequest peer.sync message.logSync
      ({ peer with sync := answer.1 }, answer.2)

/-- `ptp_wifi_peers_announce_interval`. -/
def ptpWifiPeersAnnounceInterval (peers : PtpWifiPeers) (mac : MacAddr)
    (association : UInt32) (message : PtpIntervalMessage) (initial : Int) :
    PtpWifiPeers × Bool :=
  onAssociation peers mac association false fun peer =>
    if !peer.bound ∨ peer.portIdentity ≠ message.sourcePort then (peer, false)
    else
      let answer := ptpAnnounceRequest peer.announce initial message.logAnnounce
      ({ peer with announce := answer.1 }, answer.2)

/-- `ptp_wifi_peers_sent`. -/
def ptpWifiPeersSent (peers : PtpWifiPeers) (mac : MacAddr) (association : UInt32)
    (token : UInt32) (accepted : Bool) (nowUs : Int) : PtpWifiPeers × Bool :=
  onAssociation peers mac association false fun peer =>
    let answer := ptpCapableScheduleFinish peer.transmit token accepted nowUs
    ({ peer with transmit := answer.1 }, answer.2)

/-- `ptpd_wifi_announce_begin` on the registry; `portOpen` is its test of the port
    (enabled, up, gPTP, an access point on Wi-Fi). -/
def ptpdWifiAnnounceBegin (cfg : Config) (portOpen : Bool) (peers : PtpWifiPeers)
    (mac : MacAddr) (association revision informationRevision : UInt32) (initial : Int)
    (nowUs : Int) : PtpWifiPeers × Option (UInt32 × Int × UInt16) :=
  if !portOpen ∨ !ptpWifiPeersPublishable cfg peers then (peers, none)
  else
    onAssociation peers mac association none fun peer =>
      let answer := ptpAnnounceBegin peer.announce initial revision informationRevision nowUs
      ({ peer with announce := answer.1 }, answer.2)

/-- `ptpd_wifi_announce_finish` on the registry. -/
def ptpdWifiAnnounceFinish (cfg : Config) (portOpen : Bool) (peers : PtpWifiPeers)
    (mac : MacAddr) (association token : UInt32) (accepted : Bool) (nowUs : Int) :
    PtpWifiPeers × Bool :=
  if !portOpen ∨ !ptpWifiPeersPublishable cfg peers then (peers, false)
  else
    onAssociation peers mac association false fun peer =>
      let answer := ptpAnnounceFinish peer.announce token accepted nowUs
      ({ peer with announce := answer.1 }, answer.2)

/-! ## The whole registry -/

/-- The part of `ptp_reset_for_profile` that restarts the stations' intervals. -/
def resetPeersForProfile (peers : PtpWifiPeers) : PtpWifiPeers :=
  { peers with
    entries := fun slot =>
      let peer := peers.entries slot
      { peer with
        capable := { peer.capable with valid := false }
        sync := ptpSyncIntervalReset peer.sync
        announce := ptpAnnounceReset peer.announce
        transmit := peer.transmit.restarted } }

/-- `ptp_capable_schedule_begin` on one slot, as `ptp_wifi_ap_capable_send` calls it. -/
def peersCapableBegin (cfg : Config) (enabled : Bool) (peers : PtpWifiPeers)
    (slot : Fin ptpWifiPeersMax) (nowUs : Int) : PtpWifiPeers × UInt32 :=
  let peer := peers.entries slot
  let answer := ptpCapableScheduleBegin peer.transmit
    (enabled && ptpWifiPeersPublishable cfg peers && peer.associated) nowUs
  ({ peers with
      entries := Function.update peers.entries slot { peer with transmit := answer.1 } },
    answer.2)

/-- `ptp_wifi_association_port`; zero is no port. -/
def ptpWifiAssociationPort (physicalPort physicalCount slot : Nat) : Nat :=
  if physicalPort = 0 ∨ physicalPort > physicalCount ∨
      physicalCount > 65535 / ptpWifiPeersMax ∨ slot ≥ ptpWifiPeersMax then 0
  else if slot = 0 then physicalPort
  else physicalCount + (physicalPort - 1) * (ptpWifiPeersMax - 1) + slot

/-- `ptp_wifi_association_entry_t`. -/
structure PtpWifiAssociationEntry where
  mac : MacAddr
  portNumber : Nat
  association : UInt32
  syncStopped : Bool
  syncRevision : UInt32
  announceRevision : UInt32

/-- `ptp_wifi_association_snapshot_t`; `count` is the length of `entries`. -/
structure PtpWifiAssociationSnapshot where
  generation : UInt32
  radioBoot : UInt32
  radioGeneration : UInt32
  entries : List PtpWifiAssociationEntry

/-- The slots in use, in order. -/
def PtpWifiPeers.associatedSlots (peers : PtpWifiPeers) : List (Fin ptpWifiPeersMax) :=
  (List.finRange ptpWifiPeersMax).filter fun slot => (peers.entries slot).associated

/-- `ptp_wifi_peers_snapshot`. -/
def ptpWifiPeersSnapshot (peers : PtpWifiPeers) (physicalPort physicalCount : Nat) :
    Option PtpWifiAssociationSnapshot :=
  if ptpWifiAssociationPort physicalPort physicalCount 0 = 0 then none
  else if peers.associatedSlots.any fun slot => decide ((peers.entries slot).association = 0) then
    none
  else
    let reconciled := peers.reconciledGeneration = peers.generation
    some
      { generation := peers.generation
        radioBoot := if reconciled then peers.radioBoot else 0
        radioGeneration := if reconciled then peers.radioGeneration else 0
        entries := peers.associatedSlots.map fun slot =>
          let peer := peers.entries slot
          { mac := peer.mac
            portNumber := ptpWifiAssociationPort physicalPort physicalCount slot
            association := peer.association
            syncStopped := peer.sync.stopped
            syncRevision := peer.sync.revision
            announceRevision := peer.announce.revision } }

/-- The checks of `ptp_wifi_peers_reconcile` on the radio's report. -/
def reconcileValid (radioBoot radioGeneration : UInt32) (macs : List MacAddr) : Bool :=
  decide (radioBoot ≠ 0) && decide (radioGeneration ≠ 0) &&
    decide (macs.length ≤ ptpWifiPeersMax) && macs.all stationAddress && decide macs.Nodup

/-- The answer of a reconciliation that changes nothing: an invalid report, an older one,
    or the one the registry already stands for. -/
def reconcileAnswer (peers : PtpWifiPeers) (radioBoot radioGeneration : UInt32)
    (macs : List MacAddr) : Option Bool :=
  if !reconcileValid radioBoot radioGeneration macs then some false
  else if peers.radioBoot = radioBoot then
    let difference := (radioGeneration - peers.radioGeneration).toInt32.toInt
    if difference < 0 then some false
    else if difference = 0 then
      if peers.reconciledGeneration ≠ peers.generation then some false
      else if peers.associatedSlots.any fun slot =>
          decide ((peers.entries slot).mac ∉ macs) then some false
      else some (decide (peers.associatedSlots.length = macs.length))
    else none
  else none

/-- The joins of a reconciliation, with the association numbers they gave. -/
def joinAll : PtpWifiPeers → List MacAddr → PtpWifiPeers × List UInt32
  | peers, [] => (peers, [])
  | peers, mac :: macs =>
    let joined := ptpWifiPeersJoin peers mac
    let rest := joinAll joined.1 macs
    (rest.1,
      match joined.2 with
      | none => rest.2
      | some slot => (joined.1.entries slot).association :: rest.2)

/-- The stations a reconciliation keeps, before they are given new lifetimes. -/
def reconcileKeep (peers : PtpWifiPeers) (macs : List MacAddr) : PtpWifiPeers :=
  ptpWifiPeersAdvance
    { peers with
      entries := fun slot =>
        let peer := peers.entries slot
        if peer.associated && decide (peer.mac ∉ macs) then default else peer }

/-- `ptp_wifi_peers_reconcile`. -/
def ptpWifiPeersReconcile (peers : PtpWifiPeers) (radioBoot radioGeneration : UInt32)
    (macs : List MacAddr) : PtpWifiPeers × Bool :=
  match reconcileAnswer peers radioBoot radioGeneration macs with
  | some answer => (peers, answer)
  | none =>
    let peers := (joinAll (reconcileKeep peers macs) macs).1
    ({ peers with
        radioBoot := radioBoot
        radioGeneration := radioGeneration
        reconciledGeneration := peers.generation }, true)

/-- A station of the fixed runs. -/
def Sample.station : MacAddr := #v[2, 0, 0, 0, 0, 1]

end EspPtp
