import EspPtp.Daemon.Announce
import EspPtp.Daemon.Signaling

/-!
# The port of a station

A station has one neighbor, its access point. Who that is and what it asked for is written
under `s_peer_lock` by two tasks: the event loop begins and ends associations and changes
the link, the daemon binds the port the Announces come from, handles Signaling and resets
the port for a profile. A `StationSection` is **one of these critical sections**, with what
it reads from outside; they come in any order.

A change of the link takes two steps: `ptp_set_port_link` drops what it knows of the
neighbor first, and writes `link_up` afterwards. The event loop is one task, so there is at
most one change under way, and `linkChange` is its new value.
-/

namespace EspPtp

open Lib

variable {F : Type}

/-- What the two tasks share. -/
structure Station (F : Type) where
  gptp : Bool
  port : PtpPort F
  linkChange : Option Bool

inductive StationSection where
  /-- The sections of `ptp_wifi_event_handler`; without an address the association ends. -/
  | associate (bssid : Option MacAddr)
  /-- The association found when the port is brought up, where no event has told of one since
      the number was read. -/
  | adopt (association : UInt32) (bssid : MacAddr)
  /-- `ptp_set_port_link`, and its write of `link_up`. -/
  | setPortLink (up : Bool)
  | linkWritten
  /-- The section of `ptp_reset_for_profile`. -/
  | resetForProfile
  /-- The binding of `ptp_process_announce`, of a message received in this way. -/
  | announce (rx : RxScratch) (msg : PtpAnnounce)
  /-- The sections for the requests of a Signaling message. -/
  | indication (sender : Option MacAddr) (association : UInt32)
      (indication : PtpCapableMessage) (nowUs : Int) (mono : Timespec)
  | timing (sender : Option MacAddr) (association : UInt32) (request : PtpIntervalMessage)
  | interval (sender : Option MacAddr) (association : UInt32) (request : PtpCapableMessage)

/-- The port during the processing of a message. -/
def PtpPort.receiving (port : PtpPort F) (rx : RxScratch) : PtpPort F :=
  { port with toRxScratch := rx }

/-- The station's part in a new association. -/
def associatePort (port : PtpPort F) (bssid : Option MacAddr) : PtpPort F :=
  if port.wifiMode = .sta then
    { port with
      wifiNeighbor := ptpWifiNeighborAssociate port.wifiNeighbor bssid
      capableReceive := { port.capableReceive with valid := false } }
  else port

/-- The port adopts an association that it has not been told of. -/
def adoptPort (port : PtpPort F) (association : UInt32) (bssid : MacAddr) : PtpPort F :=
  if port.wifiMode = .sta ∧ port.wifiNeighbor.association = association ∧
      port.wifiNeighbor.associated = false then
    { port with wifiNeighbor := ptpWifiNeighborAssociate port.wifiNeighbor (some bssid) }
  else port

/-- The section of `ptp_set_port_link`. -/
def Station.setPortLink (s : Station F) (up : Bool) : Station F :=
  if s.port.linkUp = up ∨ s.linkChange.isSome then s
  else
    { s with
      port :=
        { s.port with
          peerExchange := ptpPeerInvalidate s.port.peerExchange
          capableReceive := { s.port.capableReceive with valid := false } }
      linkChange := some up }

/-- One critical section. -/
def stationSection (cfg : Config) (s : Station F) : StationSection → Station F
  | .associate bssid => { s with port := associatePort s.port bssid }
  | .adopt association bssid => { s with port := adoptPort s.port association bssid }
  | .setPortLink up => s.setPortLink up
  | .linkWritten =>
    { s with
      port := { s.port with linkUp := s.linkChange.getD s.port.linkUp }
      linkChange := none }
  | .resetForProfile => { s with port := resetPortForProfile s.port }
  | .announce rx msg => { s with port := (announceNeighbor (s.port.receiving rx) msg).1 }
  | .indication sender association indication nowUs mono =>
    { s with
      port := handleIndication s.gptp s.port sender association indication nowUs mono }
  | .timing sender association request =>
    { s with port := timingSection cfg s.gptp s.port sender association request }
  | .interval sender association request =>
    { s with port := intervalSection s.gptp s.port sender association request }

/-! ## The capability of the port (`ptp_wifi_capable.h`) -/

/-- `ptp_wifi_media_t`. -/
structure PtpWifiMedia where
  tmLocal : Bool
  tmPeer : Bool
  ftmLocal : Bool
  ftmPeer : Bool
  grantedFrames : UInt8
  deriving DecidableEq, Inhabited

/-- `ptp_wifi_as_capable`, with the two bits of `ptp_wifi_tm_ftm_support`. -/
def ptpWifiAsCapable (media : PtpWifiMedia) (neighborGptpCapable : Bool) (domain : UInt8) :
    Bool :=
  let timingMeasurement := media.tmLocal && media.tmPeer
  let fineTiming := media.ftmLocal && media.ftmPeer
  if !(timingMeasurement || fineTiming) then false
  else
    let ftmGranted :=
      fineTiming && (decide (media.grantedFrames = 3) || decide (media.grantedFrames = 2))
    if neighborGptpCapable && (timingMeasurement || ftmGranted) then true
    else decide (domain = 0) && timingMeasurement

/-- The section of `ptp_wifi_capability`: a fresh indication of the bound neighbor. -/
def neighborTerm (port : PtpPort F) (nowUs : Int) : Bool :=
  port.wifiNeighbor.associated && port.wifiNeighbor.bound &&
    ptpNeighborCapable port.capableReceive port.wifiNeighbor.portIdentity
      port.wifiNeighbor.association nowUs

/-- `ptp_wifi_capability`; `media` is what `ptp_wifi_sta_media` finds. -/
def ptpWifiCapability (cfg : Config) (gptp : Bool) (port : PtpPort F)
    (media : Option PtpWifiMedia) (nowUs : Int) : Bool :=
  if !port.wifiOpen gptp .sta then false
  else
    match media with
    | none => false
    | some media => ptpWifiAsCapable media (neighborTerm port nowUs) cfg.domain

/-- Only a neighbor with Timing Measurement is taken without its word. -/
theorem neighborTerm_of_ptpWifiCapability {cfg : Config} {gptp : Bool} {port : PtpPort F}
    {media : PtpWifiMedia} {nowUs : Int}
    (htiming : (media.tmLocal && media.tmPeer) = false)
    (h : ptpWifiCapability cfg gptp port (some media) nowUs = true) :
    neighborTerm port nowUs = true := by
  unfold ptpWifiCapability ptpWifiAsCapable at h
  dsimp only at h
  rw [htiming] at h
  split at h
  · cases h
  · by_contra hterm
    rw [Bool.eq_false_iff.mpr hterm] at h
    simp at h

/-! ## What a section does to the neighbor -/

/-- The same association, of the same access point. -/
structure SameAssociation (neighbor neighbor' : PtpWifiNeighbor) : Prop where
  association : neighbor'.association = neighbor.association
  associated : neighbor'.associated = neighbor.associated
  bssid : neighbor'.bssid = neighbor.bssid

theorem SameAssociation.rfl {neighbor : PtpWifiNeighbor} :
    SameAssociation neighbor neighbor := ⟨Eq.refl _, Eq.refl _, Eq.refl _⟩

/-- Nor is the neighbor's port or its wish to stop another. -/
structure NeighborKept (neighbor neighbor' : PtpWifiNeighbor) : Prop
    extends SameAssociation neighbor neighbor' where
  sync : neighbor'.sync = neighbor.sync
  bound : neighbor.bound = true → neighbor'.bound = true
  portIdentity : neighbor.bound = true → neighbor'.portIdentity = neighbor.portIdentity

theorem NeighborKept.rfl {neighbor : PtpWifiNeighbor} : NeighborKept neighbor neighbor :=
  ⟨.rfl, Eq.refl _, id, fun _ => Eq.refl _⟩

theorem NeighborKept.trans {neighbor neighbor' neighbor'' : PtpWifiNeighbor}
    (h : NeighborKept neighbor neighbor') (h' : NeighborKept neighbor' neighbor'') :
    NeighborKept neighbor neighbor'' where
  association := h'.association.trans h.association
  associated := h'.associated.trans h.associated
  bssid := h'.bssid.trans h.bssid
  sync := h'.sync.trans h.sync
  bound := fun hbound => h'.bound (h.bound hbound)
  portIdentity := fun hbound =>
    (h'.portIdentity (h.bound hbound)).trans (h.portIdentity hbound)

/-- The association is the same, and the revision has advanced. -/
structure NeighborRevised (neighbor neighbor' : PtpWifiNeighbor) : Prop
    extends SameAssociation neighbor neighbor' where
  revision : neighbor'.sync.revision = nextNonzero neighbor.sync.revision

theorem ptpSyncIntervalRequest_cases (state : PtpSyncInterval) (requested : Int) :
    (ptpSyncIntervalRequest state requested).1 = state ∨
      (ptpSyncIntervalRequest state requested).1.revision = nextNonzero state.revision := by
  unfold ptpSyncIntervalRequest
  dsimp only
  split_ifs
  · exact .inl rfl
  · exact .inr rfl
  · exact .inl rfl
  · exact .inr rfl
  · exact .inl rfl
  · exact .inl rfl

theorem ptpWifiNeighborSyncInterval_cases (neighbor : PtpWifiNeighbor) (mac : MacAddr)
    (association : UInt32) (request : PtpIntervalMessage) :
    NeighborKept neighbor (ptpWifiNeighborSyncInterval neighbor mac association request).1 ∨
      NeighborRevised neighbor
        (ptpWifiNeighborSyncInterval neighbor mac association request).1 := by
  unfold ptpWifiNeighborSyncInterval
  split
  · rcases ptpSyncIntervalRequest_cases neighbor.sync request.logSync with hsame | hnext
    · exact .inl ⟨⟨rfl, rfl, rfl⟩, hsame, id, fun _ => rfl⟩
    · exact .inr ⟨⟨rfl, rfl, rfl⟩, hnext⟩
  · exact .inl .rfl

/-- A first binding keeps the neighbor, another one revises it. -/
theorem ptpWifiNeighborBind_cases (neighbor : PtpWifiNeighbor) (association : UInt32)
    (mac : MacAddr) (identity : PortIdentity) :
    NeighborKept neighbor (ptpWifiNeighborBind neighbor association mac identity).1 ∨
      NeighborRevised neighbor (ptpWifiNeighborBind neighbor association mac identity).1 := by
  unfold ptpWifiNeighborBind
  split
  · exact .inl .rfl
  · by_cases hother : neighbor.bound = true ∧ neighbor.portIdentity ≠ identity
    · rw [if_pos hother]
      exact .inr ⟨⟨rfl, rfl, rfl⟩, rfl⟩
    · rw [if_neg hother]
      refine .inl ⟨⟨rfl, rfl, rfl⟩, rfl, fun _ => rfl, ?_⟩
      intro hbound
      by_contra hne
      exact hother ⟨hbound, fun heq => hne heq.symm⟩

theorem announceNeighbor_neighbor (port : PtpPort F) (msg : PtpAnnounce) :
    (announceNeighbor port msg).1.wifiNeighbor =
      if port.medium = .wifiFtm ∧ port.wifiMode = .sta ∧ port.rxSourceMacValid = true then
        (ptpWifiNeighborBind port.wifiNeighbor port.rxAssociation port.rxSourceMac
          msg.header.sourcePort).1
      else port.wifiNeighbor := by
  unfold announceNeighbor
  split <;> rfl

theorem handleIndication_neighbor (gptp : Bool) (port : PtpPort F) (sender : Option MacAddr)
    (association : UInt32) (indication : PtpCapableMessage) (nowUs : Int) (mono : Timespec) :
    (handleIndication gptp port sender association indication nowUs mono).wifiNeighbor =
      port.wifiNeighbor := by
  show (indicationSection gptp port sender association indication nowUs).wifiNeighbor = _
  unfold indicationSection
  cases sender with
  | none =>
    dsimp only
    split_ifs <;> rfl
  | some mac =>
    dsimp only
    split_ifs <;> rfl

/-- A message interval request changes the port's stations, or the neighbor's wish. -/
theorem timingSection_eq (cfg : Config) (gptp : Bool) (port : PtpPort F)
    (sender : Option MacAddr) (association : UInt32) (request : PtpIntervalMessage) :
    ∃ peers neighbor, timingSection cfg gptp port sender association request =
        { port with wifiPeers := peers, wifiNeighbor := neighbor } ∧
      (neighbor = port.wifiNeighbor ∨ ∃ mac, neighbor =
        (ptpWifiNeighborSyncInterval port.wifiNeighbor mac association request).1) := by
  unfold timingSection
  cases sender with
  | none => exact ⟨port.wifiPeers, port.wifiNeighbor, rfl, .inl rfl⟩
  | some mac =>
    dsimp only
    split_ifs
    · exact ⟨_, port.wifiNeighbor, rfl, .inl rfl⟩
    · exact ⟨port.wifiPeers, _, rfl, .inr ⟨mac, rfl⟩⟩
    · exact ⟨port.wifiPeers, port.wifiNeighbor, rfl, .inl rfl⟩

/-- A capable interval request changes no more than schedules of transmissions. -/
theorem intervalSection_eq (gptp : Bool) (port : PtpPort F) (sender : Option MacAddr)
    (association : UInt32) (request : PtpCapableMessage) :
    ∃ wired peers transmit, intervalSection gptp port sender association request =
      { port with
        wiredCapable := wired
        wifiPeers := peers
        wifiNeighbor := { port.wifiNeighbor with transmit := transmit } } := by
  have hinterval (mac : MacAddr) : ∃ transmit,
      (ptpWifiNeighborInterval port.wifiNeighbor mac association request).1 =
        { port.wifiNeighbor with transmit := transmit } := by
    unfold ptpWifiNeighborInterval
    split
    · exact ⟨_, rfl⟩
    · exact ⟨port.wifiNeighbor.transmit, rfl⟩
  unfold intervalSection
  cases sender with
  | none =>
    dsimp only
    split
    · exact ⟨_, port.wifiPeers, port.wifiNeighbor.transmit, rfl⟩
    · exact ⟨port.wiredCapable, port.wifiPeers, port.wifiNeighbor.transmit, rfl⟩
  | some mac =>
    dsimp only
    split_ifs
    · exact ⟨port.wiredCapable, _, port.wifiNeighbor.transmit, rfl⟩
    · obtain ⟨transmit, htransmit⟩ := hinterval mac
      rw [htransmit]
      exact ⟨port.wiredCapable, port.wifiPeers, transmit, rfl⟩
    · exact ⟨_, port.wifiPeers, port.wifiNeighbor.transmit, rfl⟩
    · exact ⟨port.wiredCapable, port.wifiPeers, port.wifiNeighbor.transmit, rfl⟩

/-- The sections that begin or end an association. -/
def StationSection.associates : StationSection → Bool
  | .associate _ | .adopt _ _ => true
  | _ => false

/-- **Within an association**, whatever changes the neighbor's port or whether it stopped
    the synchronization advances the revision. -/
theorem stationSection_neighbor (cfg : Config) (s : Station F) {sec : StationSection}
    (hsec : sec.associates = false) :
    NeighborKept s.port.wifiNeighbor (stationSection cfg s sec).port.wifiNeighbor ∨
      NeighborRevised s.port.wifiNeighbor (stationSection cfg s sec).port.wifiNeighbor := by
  cases sec with
  | associate bssid => cases hsec
  | adopt association bssid => cases hsec
  | setPortLink up =>
    refine .inl ?_
    show NeighborKept _ (s.setPortLink up).port.wifiNeighbor
    unfold Station.setPortLink
    split <;> exact .rfl
  | linkWritten => exact .inl .rfl
  | resetForProfile => exact .inr ⟨⟨rfl, rfl, rfl⟩, rfl⟩
  | announce rx msg =>
    show NeighborKept _ (announceNeighbor (s.port.receiving rx) msg).1.wifiNeighbor ∨
      NeighborRevised _ (announceNeighbor (s.port.receiving rx) msg).1.wifiNeighbor
    rw [announceNeighbor_neighbor]
    split
    · exact ptpWifiNeighborBind_cases ..
    · exact .inl .rfl
  | indication sender association indication nowUs mono =>
    refine .inl ?_
    show NeighborKept _
      (handleIndication s.gptp s.port sender association indication nowUs mono).wifiNeighbor
    rw [handleIndication_neighbor]
    exact .rfl
  | timing sender association request =>
    obtain ⟨peers, neighbor, heq, hneighbor⟩ :=
      timingSection_eq cfg s.gptp s.port sender association request
    show NeighborKept _ (timingSection cfg s.gptp s.port sender association request).wifiNeighbor ∨
      NeighborRevised _
        (timingSection cfg s.gptp s.port sender association request).wifiNeighbor
    rw [heq]
    rcases hneighbor with rfl | ⟨mac, rfl⟩
    · exact .inl .rfl
    · exact ptpWifiNeighborSyncInterval_cases ..
  | interval sender association request =>
    obtain ⟨wired, peers, transmit, heq⟩ :=
      intervalSection_eq s.gptp s.port sender association request
    refine .inl ?_
    show NeighborKept _ (intervalSection s.gptp s.port sender association request).wifiNeighbor
    rw [heq]
    exact ⟨⟨rfl, rfl, rfl⟩, rfl, id, fun _ => rfl⟩

end EspPtp
