import EspPtp.Wifi.Reconcile

/-!
# Refused messages of stations

Four kinds of Signaling act on a station's slot, and each may be refused. A refused message
should leave the registry as it was: three of the four functions check everything before
they write anything.

`ptp_wifi_peers_capable` does not. When the message comes from another port identity than
the association is bound to, it first retires what belonged to the old one, and then asks
`ptp_capable_receive`, which may still refuse. `RebindsInVain` is that case.
-/

namespace EspPtp

open Lib

/-- The Signaling messages that act on a station. -/
inductive StationMessage where
  | capable (message : PtpCapableMessage) (nowUs : Int)
  | interval (message : PtpCapableMessage)
  | syncInterval (message : PtpIntervalMessage)
  | announceInterval (message : PtpIntervalMessage) (initial : Int)

/-- Their handlers. -/
def receiveStation (peers : PtpWifiPeers) (mac : MacAddr) (association : UInt32) :
    StationMessage → PtpWifiPeers × Bool
  | .capable message nowUs => ptpWifiPeersCapable peers mac association message nowUs
  | .interval message => ptpWifiPeersInterval peers mac association message
  | .syncInterval message => ptpWifiPeersSyncInterval peers mac association message
  | .announceInterval message initial =>
    ptpWifiPeersAnnounceInterval peers mac association message initial

/-! ## Refused requests -/

theorem ptpCapableIntervalRequest_refused {state : PtpCapableInterval} {request : Int}
    (h : (ptpCapableIntervalRequest state request).2 = false) :
    (ptpCapableIntervalRequest state request).1 = state := by
  unfold ptpCapableIntervalRequest at h ⊢
  dsimp only at h ⊢
  split_ifs at h ⊢ <;> rfl

theorem ptpCapableScheduleRequest_refused {state : PtpCapableSchedule} {request : Int}
    (h : (ptpCapableScheduleRequest state request).2 = false) :
    (ptpCapableScheduleRequest state request).1 = state := by
  unfold ptpCapableScheduleRequest at h ⊢
  dsimp only at h ⊢
  by_cases hrefused : (ptpCapableIntervalRequest state.interval request).2 = false
  · rw [if_pos (by simpa using hrefused), ptpCapableIntervalRequest_refused hrefused]
  · rw [if_neg (by simpa using hrefused)] at h
    split at h <;> cases h

theorem ptpSyncIntervalRequest_refused {state : PtpSyncInterval} {requested : Int}
    (h : (ptpSyncIntervalRequest state requested).2 = false) :
    (ptpSyncIntervalRequest state requested).1 = state := by
  unfold ptpSyncIntervalRequest at h ⊢
  dsimp only at h ⊢
  split_ifs at h ⊢
  rfl

theorem ptpAnnounceInitialize_refused {state : PtpAnnounceSchedule} {initial : Int}
    (h : (ptpAnnounceInitialize state initial).2 = false) :
    (ptpAnnounceInitialize state initial).1 = state := by
  unfold ptpAnnounceInitialize at h ⊢
  split_ifs at h ⊢ <;> rfl

theorem ptpAnnounceRequest_refused {state : PtpAnnounceSchedule} {initial request : Int}
    (h : (ptpAnnounceRequest state initial request).2 = false) :
    (ptpAnnounceRequest state initial request).1 = state := by
  unfold ptpAnnounceRequest at h ⊢
  by_cases hreserved : request ≠ -128 ∧ request ≠ 126 ∧ request ≠ 127 ∧
      (request < -24 ∨ request > 24)
  · rw [if_pos hreserved]
  · rw [if_neg hreserved] at h ⊢
    dsimp only at h ⊢
    by_cases hrefused : (ptpAnnounceInitialize state initial).2 = false
    · rw [if_pos (by simpa using hrefused)]
      exact ptpAnnounceInitialize_refused hrefused
    · rw [if_neg (by simpa using hrefused)] at h
      split_ifs at h

/-- The receive times and intervals `ptp_capable_receive` refuses from any neighbor. -/
def capableRefused (message : PtpCapableMessage) (nowUs : Int) : Prop :=
  message.logInterval < -24 ∨ message.logInterval > 24 ∨ nowUs < 0 ∨
    nowUs > int64Max - capableTimeoutUs message.logInterval

theorem ptpCapableReceive_own_iff (state : PtpCapableReceive) (message : PtpCapableMessage)
    (lifecycle : UInt32) (nowUs : Int) :
    (ptpCapableReceive state message message.sourcePort lifecycle nowUs).2 = false ↔
      capableRefused message nowUs := by
  unfold ptpCapableReceive capableRefused
  dsimp only
  split_ifs with hrange hlate
  · have hsome : message.logInterval < -24 ∨ message.logInterval > 24 ∨ nowUs < 0 := by
      rcases hrange with h | h
      · exact absurd rfl h
      · exact h
    simp only [true_iff]
    tauto
  · simp [hlate]
  · simp only [false_iff]
    tauto

theorem ptpCapableReceive_refused {state : PtpCapableReceive} {message : PtpCapableMessage}
    {neighbor : PortIdentity} {lifecycle : UInt32} {nowUs : Int}
    (h : (ptpCapableReceive state message neighbor lifecycle nowUs).2 = false) :
    (ptpCapableReceive state message neighbor lifecycle nowUs).1 = state := by
  unfold ptpCapableReceive at h ⊢
  dsimp only at h ⊢
  split_ifs at h ⊢
  · rfl
  · rfl

/-! ## On the slot of a station -/

/-- An action that leaves a slot alone when it refuses leaves the registry alone. -/
theorem onAssociation_refused {act : PtpWifiPeer → PtpWifiPeer × Bool} {peers : PtpWifiPeers}
    {mac : MacAddr} {association : UInt32}
    (hact : ∀ slot, ptpWifiPeersFind peers mac = some slot →
      (peers.entries slot).association = association →
        (act (peers.entries slot)).2 = false →
          (act (peers.entries slot)).1 = peers.entries slot)
    (h : (onAssociation peers mac association false act).2 = false) :
    (onAssociation peers mac association false act).1 = peers := by
  unfold onAssociation at h ⊢
  cases hfind : ptpWifiPeersFind peers mac with
  | none => rfl
  | some slot =>
    rw [hfind] at h
    dsimp only at h ⊢
    by_cases hother : (peers.entries slot).association ≠ association
    · rw [if_pos hother]
    · rw [if_neg hother] at h ⊢
      dsimp only at h ⊢
      rw [hact slot hfind (not_not.mp hother) h, Function.update_eq_self]

/-- A capability indication from another port than the association's, to be refused. -/
structure RebindsInVain (peer : PtpWifiPeer) (message : PtpCapableMessage) (nowUs : Int) :
    Prop where
  bound : peer.bound = true
  other : peer.portIdentity ≠ message.sourcePort
  named : message.sourcePort.port ≠ Vector.replicate 2 0
  refused : capableRefused message nowUs

/-- The message is such an indication, for this association. -/
def StationMessage.RebindsInVain (peers : PtpWifiPeers) (mac : MacAddr) (association : UInt32) :
    StationMessage → Prop
  | .capable message nowUs =>
    ∃ slot, ptpWifiPeersFind peers mac = some slot ∧
      (peers.entries slot).association = association ∧
        EspPtp.RebindsInVain (peers.entries slot) message nowUs
  | _ => False

theorem ptpWifiPeersCapable_refused {peers : PtpWifiPeers} {mac : MacAddr}
    {association : UInt32} {message : PtpCapableMessage} {nowUs : Int}
    (hvain : ¬ (StationMessage.capable message nowUs).RebindsInVain peers mac association)
    (h : (ptpWifiPeersCapable peers mac association message nowUs).2 = false) :
    (ptpWifiPeersCapable peers mac association message nowUs).1 = peers := by
  refine onAssociation_refused (fun slot hfind hassociation hrefused => ?_) h
  dsimp only at hrefused ⊢
  by_cases hnamed : message.sourcePort.port = Vector.replicate 2 0
  · rw [if_pos hnamed]
  · rw [if_neg hnamed] at hrefused ⊢
    by_cases hother : (peers.entries slot).bound = true ∧
        (peers.entries slot).portIdentity ≠ message.sourcePort
    · -- What was retired stays retired only if the indication is refused.
      rw [if_pos hother] at hrefused
      have hcapable : capableRefused message nowUs := by
        by_contra hnot
        rw [← ptpCapableReceive_own_iff (peers.entries slot).rebound.capable message association]
          at hnot
        rw [if_neg (by simpa using hnot)] at hrefused
        cases hrefused
      exact absurd ⟨slot, hfind, hassociation, hother.1, hother.2, hnamed, hcapable⟩ hvain
    · rw [if_neg hother] at hrefused ⊢
      by_cases hreceive : (ptpCapableReceive (peers.entries slot).capable message
          message.sourcePort association nowUs).2 = false
      · rw [if_pos (by simpa using hreceive), ptpCapableReceive_refused hreceive]
      · rw [if_neg (by simpa using hreceive)] at hrefused
        cases hrefused

/-- What an indication in vain does: it is refused, and the slot's Sync revision has moved. -/
theorem ptpWifiPeersCapable_inVain {peers : PtpWifiPeers} {mac : MacAddr}
    {association : UInt32} {message : PtpCapableMessage} {nowUs : Int}
    (hvain : (StationMessage.capable message nowUs).RebindsInVain peers mac association) :
    (ptpWifiPeersCapable peers mac association message nowUs).2 = false ∧
      (ptpWifiPeersCapable peers mac association message nowUs).1 ≠ peers := by
  obtain ⟨slot, hfind, hassociation, hvain⟩ := hvain
  have hreceive := (ptpCapableReceive_own_iff (peers.entries slot).rebound.capable message
    association nowUs).mpr hvain.refused
  unfold ptpWifiPeersCapable onAssociation
  rw [hfind]
  dsimp only
  rw [if_neg (not_not.mpr hassociation), if_neg hvain.named,
    if_pos (show (peers.entries slot).bound = true ∧ _ from ⟨hvain.bound, hvain.other⟩),
    hreceive, ptpCapableReceive_refused hreceive, if_pos (by decide)]
  refine ⟨rfl, fun hsame => ?_⟩
  have hrevision := congrArg (fun p : PtpWifiPeers => (p.entries slot).sync.revision) hsame
  simp only [Function.update_self] at hrevision
  exact nextNonzero_ne _ hrevision

/-! ## The four handlers -/

/-- **Exactly when a refused message changes nothing.** -/
theorem receiveStation_unchanged_iff (peers : PtpWifiPeers) (mac : MacAddr)
    (association : UInt32) (message : StationMessage) :
    ((receiveStation peers mac association message).2 = false →
        (receiveStation peers mac association message).1 = peers) ↔
      ¬ message.RebindsInVain peers mac association := by
  cases message with
  | capable message nowUs =>
    refine ⟨fun h hvain => ?_, ptpWifiPeersCapable_refused⟩
    obtain ⟨hrefused, hchanged⟩ := ptpWifiPeersCapable_inVain hvain
    exact hchanged (h hrefused)
  | interval message =>
    refine ⟨fun _ hfalse => hfalse, fun _ => onAssociation_refused fun slot _ _ hrefused => ?_⟩
    dsimp only at hrefused ⊢
    split_ifs at hrefused ⊢
    · rfl
    · rw [ptpCapableScheduleRequest_refused hrefused]
  | syncInterval message =>
    refine ⟨fun _ hfalse => hfalse, fun _ => onAssociation_refused fun slot _ _ hrefused => ?_⟩
    dsimp only at hrefused ⊢
    split_ifs at hrefused ⊢
    · rfl
    · rw [ptpSyncIntervalRequest_refused hrefused]
  | announceInterval message initial =>
    refine ⟨fun _ hfalse => hfalse, fun _ => onAssociation_refused fun slot _ _ hrefused => ?_⟩
    dsimp only at hrefused ⊢
    split_ifs at hrefused ⊢
    · rfl
    · rw [ptpAnnounceRequest_refused hrefused]

/-- A station is bound to one port identity and says under another that it stops: the
    message is refused, and the first one's capability is gone. -/
theorem not_receiveStation_unchanged :
    ¬ ∀ (ops : List PeersOp) (mac : MacAddr) (association : UInt32) (message : StationMessage),
      (receiveStation (hostedAfter Sample.config ops) mac association message).2 = false →
        (receiveStation (hostedAfter Sample.config ops) mac association message).1 =
          hostedAfter Sample.config ops := by
  intro hclaim
  let first : PortIdentity := ⟨Vector.replicate 8 1, #v[0, 1]⟩
  let second : PortIdentity := ⟨Vector.replicate 8 1, #v[0, 2]⟩
  have hsame := hclaim [.join Sample.station, .work Sample.station 1 (.capable ⟨first, 0⟩ 5)]
    Sample.station 1 (.capable ⟨second, 127⟩ 6) (by decide +kernel)
  have hvalid := congrArg (fun peers : PtpWifiPeers => (peers.entries 0).capable.valid) hsame
  exact absurd hvalid (by decide +kernel)

end EspPtp
