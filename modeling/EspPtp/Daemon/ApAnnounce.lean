import EspPtp.Daemon.Announce
import EspPtp.Daemon.Signaling
import EspPtp.Wire.Codec
import EspPtp.Wire.PathGrammar

/-!
# The Announce of an access point (`ptp_periodic_send`)

A port that is an access point sends its stations the Announce of the selected source, one
step further, or this clock's own. The path behind it is the source's with this clock at its
end; where the source gave none, none is sent.

When the port's turn comes is not modelled, only what it then sends.
-/

namespace EspPtp

open Lib

variable {F : Type} {n : Nat}

/-- `ptp_tx_minor_version`. -/
def ptpTxMinorVersion (port : PtpPort F) : UInt8 :=
  if port.medium = .wifiFtm then 1 else port.rxMinorVersion

/-- An Announce this many steps from its source. -/
def PtpAnnounce.withSteps (msg : PtpAnnounce) (steps : Nat) : PtpAnnounce :=
  { msg with stepsremoved := octets (steps / 256).toUInt8 steps.toUInt8 }

namespace PtpState

variable (cfg : Config) (s : PtpState F n)

/-- The port announces to stations. -/
def announcesToStations (p : Fin (n + 1)) : Bool :=
  (s.ports p).enabled && decide ((s.ports p).medium = .wifiFtm) &&
    decide ((s.ports p).wifiMode = .ap)

/-- The Announce to pass on; `none` if it cannot be a step further. -/
def announceSource : Option PtpAnnounce :=
  if s.selectedSourceValid then
    let steps := (be16 s.selectedSource.stepsremoved).toNat
    if steps = 65535 then none else some (s.selectedSource.withSteps (steps + 1))
  else some s.ownIdentity

/-- The fields of a passed on Announce that are this clock's. -/
def announceAs (p : Fin (n + 1)) (origin : Timespec) (msg : PtpAnnounce) : PtpAnnounce :=
  { msg with
    header :=
      { msg.header with
        messagetype := if s.isGptp then 0x1b else 0x0b
        flags := if s.isGptp then octets (octet0 msg.header.flags) 8 else msg.header.flags
        sourceidentity := s.ownIdentity.header.sourceidentity
        sourceportindex := portNumber (p.val + 1)
        logmessageinterval := UInt8.ofInt cfg.announceLogInterval }
    origintimestamp := timespecToPtpFormat cfg origin }

/-- The Path Trace TLV to send; `none` if there has to be one and cannot be. -/
def announceTrace : Option Bytes :=
  let path := if s.selectedSourceValid then s.selectedPath else []
  -- An unknown upstream path stays unknown through this relay.
  if !s.selectedSourceValid ∨ path ≠ [] then
    let tlv := ptpPathTraceWrite (4 + ptpPathTraceMaxClocks * 8) path
      s.ownIdentity.header.sourceidentity
    if tlv = [] then none else some tlv
  else some []

/-- The message around an Announce and its TLV. -/
def announceWire (p : Fin (n + 1)) (msg : PtpAnnounce) (tlv : Bytes) : Bytes :=
  let header := ptpSetMessageLength msg.header (ptpAnnounceBodyLength + tlv.length)
  ptpGptpWireNormalize ({ msg with header := header }.write ++ tlv) s.isGptp
    (ptpTxMinorVersion (s.ports p))

/-- What a turn of the loop over the ports sends to `ptp_wifi_ap_send_announce`. -/
def apAnnounce (p : Fin (n + 1)) (origin : Timespec) : Option Bytes :=
  if !s.announcesToStations p then none
  else
    match s.announceSource, s.announceTrace with
    | some msg, some tlv => some (s.announceWire p (s.announceAs cfg p origin msg) tlv)
    | _, _ => none

end PtpState

end EspPtp
