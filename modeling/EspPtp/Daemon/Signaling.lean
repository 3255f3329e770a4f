import EspPtp.Daemon.Port
import EspPtp.Wire.Signaling

/-!
# Signaling on a port (`ptp_process_rx_packet`, `case PTP_MSGTYPE_SIGNALING`)

A Signaling message is handled in up to five critical sections: who sent it, on which
logical port, and one section for each of the three requests it can carry. Between any two
of them other tasks may run. Each section is a function of the port here; `rx_association`,
which the first one looks up, is what the others compare with.
-/

namespace EspPtp

variable {F : Type}

/-! ## Admission -/

/-- What becomes of a frame before anyone asks who sent it. -/
inductive RxAdmission where
  /-- Too short, malformed, or of another domain. -/
  | dropped
  /-- Of the other profile: only the receive liveness stamp is taken. -/
  | otherSdoid
  /-- The length the message gives itself. -/
  | admitted (length : Nat)
  deriving DecidableEq, Repr

/-- The first checks of `ptp_process_rx_packet`. -/
def rxAdmission (cfg : Config) (gptp : Bool) (message : Bytes) (received : Nat) : RxAdmission :=
  if received < 34 then .dropped
  else
    let length := ptpMessageBoundedLength message received
    if length = 0 then .dropped
    else if gptp ∧ message.msgtype = .followUp ∧ !ptpTimingPayloadValid message length then
      .dropped
    else if message.u8 4 ≠ cfg.domain then .dropped
    else if message.isGptp ≠ gptp then .otherSdoid
    else .admitted length

/-! ## Who sent it, and where to -/

/-- `CONFIG_ESP_PTP_NUM_PORTS` and what identifies this clock on its ports. -/
structure PortNumbering where
  count : Nat
  ownClock : ClockIdentity

/-- A port number on the wire. -/
def portNumber (number : Nat) : Vector UInt8 2 :=
  octets (number / 256).toUInt8 number.toUInt8

/-- The slot of the sender. -/
def senderSlot (port : PtpPort F) (sender : Option MacAddr) : Option (Fin ptpWifiPeersMax) :=
  sender.bind (ptpWifiPeersFind port.wifiPeers)

/-- The sender check of a station: is it the access point, and its `rx_association`. -/
def staSender (port : PtpPort F) (sender : Option MacAddr) : Bool × UInt32 :=
  (sender.any (ptpWifiNeighborAccepts port.wifiNeighbor), port.wifiNeighbor.association)

/-- The sender check of an access point. -/
def apSender (cfg : Config) (port : PtpPort F) (sender : Option MacAddr) : Bool × UInt32 :=
  match senderSlot port sender with
  | none => (false, 0)
  | some slot =>
    (ptpWifiPeersPublishable cfg port.wifiPeers, (port.wifiPeers.entries slot).association)

/-- The sender check and the `rx_association` it stores; `none` where no check is made. -/
def senderCheck (cfg : Config) (gptp : Bool) (port : PtpPort F) (sender : Option MacAddr) :
    Option (Bool × UInt32) :=
  if gptp ∧ port.medium = .wifiFtm ∧ port.wifiMode = .sta then some (staSender port sender)
  else if gptp ∧ port.medium = .wifiFtm ∧ port.wifiMode = .ap then
    some (apSender cfg port sender)
  else none

/-- The section that finds the port a Signaling message is addressed to; `none` drops the
    message. -/
def signalingLocalPort (numbering : PortNumbering) (ingress : Nat) (port : PtpPort F)
    (sender : Option MacAddr) (association : UInt32) : Option PortIdentity :=
  if port.medium = .wifiFtm ∧ port.wifiMode = .ap then
    match senderSlot port sender with
    | none => none
    | some slot =>
      if (port.wifiPeers.entries slot).association ≠ association then none
      else
        let logicalPort := ptpWifiAssociationPort (ingress + 1) numbering.count slot
        if logicalPort = 0 then none
        else some ⟨numbering.ownClock, portNumber logicalPort⟩
  else some ⟨numbering.ownClock, portNumber (ingress + 1)⟩

/-! ## The requests -/

/-- What a Signaling message says, when none of its TLVs is malformed. -/
structure SignalingRequests where
  indication : PtpSignaling PtpCapableMessage
  intervalRequest : PtpSignaling PtpCapableMessage
  timingRequest : PtpSignaling PtpIntervalMessage
  deriving DecidableEq

/-- All known TLVs are validated before any of them can change association state. -/
def signalingRequests (cfg : Config) (message : Bytes) (length : Nat)
    (localPort : PortIdentity) : Option SignalingRequests :=
  let indication := ptpSignalingReadCapable message length cfg.domain localPort
  let intervalRequest := ptpSignalingReadCapableInterval message length cfg.domain localPort
  let timingRequest := ptpSignalingReadMessageInterval message length cfg.domain localPort
  if indication.isMalformed ∨ intervalRequest.isMalformed ∨ timingRequest.isMalformed then none
  else some ⟨indication, intervalRequest, timingRequest⟩

/-- Only a gPTP Signaling message carries requests. -/
theorem signalingRequests_sdoid {cfg : Config} {message : Bytes} {length : Nat}
    {localPort : PortIdentity} {requests : SignalingRequests}
    (h : signalingRequests cfg message length localPort = some requests)
    (hcarries : (∃ value, requests.indication = .decoded value) ∨
      (∃ value, requests.timingRequest = .decoded value) ∨
      ∃ value, requests.intervalRequest = .decoded value) : message.u8 0 = 0x1c := by
  unfold signalingRequests at h
  dsimp only at h
  split_ifs at h
  · cases h
    rcases hcarries with ⟨value, hvalue⟩ | ⟨value, hvalue⟩ | ⟨value, hvalue⟩ <;>
      obtain ⟨offset, hfound, -⟩ := PtpSignaling.map_decoded hvalue <;>
        exact ptpSignalingFindTlv_sdoid hfound

/-- The section for a gPTP-capable indication. -/
def indicationSection (gptp : Bool) (port : PtpPort F) (sender : Option MacAddr)
    (association : UInt32) (indication : PtpCapableMessage) (nowUs : Int) : PtpPort F :=
  if port.wiredBound gptp then
    { port with
      capableReceive :=
        (ptpCapableReceive port.capableReceive indication port.peerRate.responder
          port.peerExchange.lifecycle nowUs).1 }
  else if port.wifiOpen gptp .sta && port.wifiNeighbor.bound &&
      decide (association = port.wifiNeighbor.association) &&
      sender.any (ptpWifiNeighborAccepts port.wifiNeighbor) then
    { port with
      capableReceive :=
        (ptpCapableReceive port.capableReceive indication port.wifiNeighbor.portIdentity
          port.wifiNeighbor.association nowUs).1 }
  else
    match sender with
    | none => port
    | some mac =>
      if port.wifiOpen gptp .ap then
        { port with
          wifiPeers := (ptpWifiPeersCapable port.wifiPeers mac association indication nowUs).1 }
      else port

/-- The section for an indication, and the record of it that follows. -/
def handleIndication (gptp : Bool) (port : PtpPort F) (sender : Option MacAddr)
    (association : UInt32) (indication : PtpCapableMessage) (nowUs : Int) (mono : Timespec) :
    PtpPort F :=
  let port := indicationSection gptp port sender association indication nowUs
  { port with
    lastCapableIndication := indication
    lastReceivedCapableIndication := mono
    capableIndicationCount := port.capableIndicationCount + 1 }

/-- The section for a message interval request. -/
def timingSection (cfg : Config) (gptp : Bool) (port : PtpPort F) (sender : Option MacAddr)
    (association : UInt32) (request : PtpIntervalMessage) : PtpPort F :=
  match sender with
  | none => port
  | some mac =>
    if port.wifiOpen gptp .ap then
      let synced := (ptpWifiPeersSyncInterval port.wifiPeers mac association request).1
      { port with
        wifiPeers :=
          (ptpWifiPeersAnnounceInterval synced mac association request
            cfg.announceLogInterval).1 }
    else if port.wifiOpen gptp .sta then
      { port with
        wifiNeighbor :=
          (ptpWifiNeighborSyncInterval port.wifiNeighbor mac association request).1 }
    else port

/-- The section for a gPTP-capable interval request. -/
def intervalSection (gptp : Bool) (port : PtpPort F) (sender : Option MacAddr)
    (association : UInt32) (request : PtpCapableMessage) : PtpPort F :=
  let wired : PtpPort F :=
    if port.wiredBound gptp then
      let bound := ptpWiredCapableBind port.wiredCapable port.peerExchange.lifecycle
        (some port.peerRate.responder)
      { port with
        wiredCapable := (ptpWiredCapableRequest bound port.peerExchange.lifecycle request).1 }
    else port
  match sender with
  | none => wired
  | some mac =>
    if port.wifiOpen gptp .ap then
      { port with
        wifiPeers := (ptpWifiPeersInterval port.wifiPeers mac association request).1 }
    else if port.wifiOpen gptp .sta then
      { port with
        wifiNeighbor := (ptpWifiNeighborInterval port.wifiNeighbor mac association request).1 }
    else wired

end EspPtp
