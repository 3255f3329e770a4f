import EspPtp.Capable.Schedule
import EspPtp.Wifi.Peers

/-!
# The access point of a station (`ptp_wifi_neighbor.h`)

What a station keeps of the access point it is associated with. Here too every
association has a number, and work that comes later carries it.
-/

namespace EspPtp

open Lib

/-- `ptp_wifi_neighbor_t`; `sync` is `sync_stopped` with `sync_revision`. -/
structure PtpWifiNeighbor where
  association : UInt32
  sync : PtpSyncInterval
  bssid : MacAddr
  portIdentity : PortIdentity
  associated : Bool
  bound : Bool
  transmit : PtpCapableSchedule
  deriving DecidableEq, Inhabited

/-- `ptp_wifi_neighbor_associate`; without an address the association ends. -/
def ptpWifiNeighborAssociate (neighbor : PtpWifiNeighbor) (bssid : Option MacAddr) :
    PtpWifiNeighbor :=
  let neighbor := { (default : PtpWifiNeighbor) with
    association := nextNonzero neighbor.association }
  match bssid with
  | none => neighbor
  | some bssid => { neighbor with bssid := bssid, associated := true }

/-- `ptp_wifi_neighbor_accepts`. -/
def ptpWifiNeighborAccepts (neighbor : PtpWifiNeighbor) (sourceMac : MacAddr) : Bool :=
  neighbor.associated && decide (neighbor.bssid = sourceMac)

@[simp] theorem ptpWifiNeighborAccepts_ended (neighbor : PtpWifiNeighbor) (mac : MacAddr) :
    ptpWifiNeighborAccepts (ptpWifiNeighborAssociate neighbor none) mac = false := rfl

@[simp] theorem ptpWifiNeighborAccepts_associated (neighbor : PtpWifiNeighbor)
    (bssid mac : MacAddr) :
    ptpWifiNeighborAccepts (ptpWifiNeighborAssociate neighbor (some bssid)) mac =
      decide (bssid = mac) := rfl

/-- `ptp_wifi_neighbor_bind`. -/
def ptpWifiNeighborBind (neighbor : PtpWifiNeighbor) (association : UInt32)
    (sourceMac : MacAddr) (identity : PortIdentity) : PtpWifiNeighbor × Bool :=
  if association ≠ neighbor.association ∨ !ptpWifiNeighborAccepts neighbor sourceMac then
    (neighbor, false)
  else
    let neighbor :=
      if neighbor.bound ∧ neighbor.portIdentity ≠ identity then
        { neighbor with
          sync := ptpSyncIntervalReset neighbor.sync
          transmit := neighbor.transmit.restarted }
      else neighbor
    ({ neighbor with portIdentity := identity, bound := true }, true)

/-- The conditions under which the neighbor's port may ask for an interval. -/
def ptpWifiNeighborAsks (neighbor : PtpWifiNeighbor) (sourceMac : MacAddr)
    (association : UInt32) (sourcePort : PortIdentity) : Bool :=
  neighbor.bound && decide (association = neighbor.association) &&
    ptpWifiNeighborAccepts neighbor sourceMac && decide (neighbor.portIdentity = sourcePort)

/-- `ptp_wifi_neighbor_interval`. -/
def ptpWifiNeighborInterval (neighbor : PtpWifiNeighbor) (sourceMac : MacAddr)
    (association : UInt32) (message : PtpCapableMessage) : PtpWifiNeighbor × Bool :=
  if ptpWifiNeighborAsks neighbor sourceMac association message.sourcePort then
    let answer := ptpCapableScheduleRequest neighbor.transmit message.logInterval
    ({ neighbor with transmit := answer.1 }, answer.2)
  else (neighbor, false)

/-- `ptp_wifi_neighbor_sync_interval`. -/
def ptpWifiNeighborSyncInterval (neighbor : PtpWifiNeighbor) (sourceMac : MacAddr)
    (association : UInt32) (message : PtpIntervalMessage) : PtpWifiNeighbor × Bool :=
  if ptpWifiNeighborAsks neighbor sourceMac association message.sourcePort then
    let answer := ptpSyncIntervalRequest neighbor.sync message.logSync
    ({ neighbor with sync := answer.1 }, answer.2)
  else (neighbor, false)

/-- `ptp_wifi_neighbor_sent`. -/
def ptpWifiNeighborSent (neighbor : PtpWifiNeighbor) (destination : MacAddr)
    (association token : UInt32) (accepted : Bool) (nowUs : Int) : PtpWifiNeighbor × Bool :=
  if association = neighbor.association ∧ ptpWifiNeighborAccepts neighbor destination then
    let answer := ptpCapableScheduleFinish neighbor.transmit token accepted nowUs
    ({ neighbor with transmit := answer.1 }, answer.2)
  else (neighbor, false)

end EspPtp
