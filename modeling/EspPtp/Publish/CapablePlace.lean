import EspPtp.Publish.CapableQueue
import EspPtp.Transmit.Capable

/-!
# The schedule of a place

Two sections act on the schedule of one place: the one that begins a transmission, and the one
that completes one. All other operations on a port come down, at any one place, to five things
that can happen to the schedule there, whichever mode the port is in (`PlaceChange`).
-/

namespace EspPtp

open Lib

/-! ## The association numbers of a port -/

namespace CapablePort

/-- How far the counter of association numbers is. -/
def numbers : CapablePort → Nat
  | .ap peers => peers.registry.gen
  | .sta neighbor => neighbor.association.toNat
  | .other => 0

/-- The numbers of an access point's stations are those of a registry. -/
def Numbered : CapablePort → Prop
  | .ap peers => peers.registry.WellNumbered
  | _ => True

variable {port : CapablePort} {slot slot' : Option (Fin ptpWifiPeersMax)} {mac mac' : MacAddr}
  {association : UInt32}

theorem Numbered.le (h : port.Numbered) (hlife : port.lifetime slot = some (mac, association)) :
    association.toNat ≤ port.numbers := by
  cases port with
  | ap peers =>
    cases slot with
    | none => cases hlife
    | some slot => exact h.number_le _ _ _ (registry_table hlife)
  | sta neighbor =>
    cases slot with
    | some slot => cases hlife
    | none =>
      simp only [lifetime, Option.ite_none_right_eq_some, Option.some.injEq, Prod.mk.injEq]
        at hlife
      exact Nat.le_of_eq (congrArg UInt32.toNat hlife.2.2.symm)
  | other => cases hlife

/-- A number is that of one place. -/
theorem Numbered.inj (h : port.Numbered) (hlife : port.lifetime slot = some (mac, association))
    (hlife' : port.lifetime slot' = some (mac', association)) : slot' = slot := by
  cases port with
  | ap peers =>
    cases slot with
    | none => cases hlife
    | some slot =>
      cases slot' with
      | none => cases hlife'
      | some slot' =>
        exact congrArg some
          (h.number_inj _ _ _ _ _ (registry_table hlife') (registry_table hlife))
  | sta neighbor =>
    cases slot with
    | some slot => cases hlife
    | none =>
      cases slot' with
      | some slot' => cases hlife'
      | none => rfl
  | other => cases hlife

end CapablePort

/-! ## What is done elsewhere -/

/-- What other operations can do to the schedule of a place, `numbers` being how far the
    association numbers were. -/
inductive PlaceChange (numbers : Nat) (life life' : Option (MacAddr × UInt32))
    (schedule schedule' : PtpCapableSchedule) : Prop
  | kept (hlife : life' = life) (h : schedule' = schedule)
  | requested (hlife : life' = life) (request : Int)
    (h : schedule' = (ptpCapableScheduleRequest schedule request).1)
  | restarted (hlife : life' = life) (h : schedule' = schedule.restarted)
  | started (mac : MacAddr) (association : UInt32) (hlife : life' = some (mac, association))
    (hnew : numbers < association.toNat) (h : schedule' = default)
  | ended (hlife : life' = none) (h : schedule' = default)

/-- At one slot of an access point. -/
abbrev SlotChange (numbers : Nat) (peers peers' : PtpWifiPeers) (slot : Fin ptpWifiPeersMax) :
    Prop :=
  PlaceChange numbers (peers.lifetime slot) (peers'.lifetime slot)
    (peers.entries slot).transmit (peers'.entries slot).transmit

/-- The slot is as it was. -/
theorem SlotChange.of_entries {numbers : Nat} {peers peers' : PtpWifiPeers}
    {slot : Fin ptpWifiPeersMax} (h : peers'.entries slot = peers.entries slot) :
    SlotChange numbers peers peers' slot := by
  refine .kept ?_ (by rw [h])
  simp only [PtpWifiPeers.lifetime, h]

/-- The slot was emptied. -/
theorem SlotChange.of_default {numbers : Nat} {peers peers' : PtpWifiPeers}
    {slot : Fin ptpWifiPeersMax} (h : peers'.entries slot = default) :
    SlotChange numbers peers peers' slot := by
  refine .ended ?_ (by rw [h]; rfl)
  simp only [PtpWifiPeers.lifetime, h]
  rfl

theorem onAssociation_entry {α : Type} (act : PtpWifiPeer → PtpWifiPeer × α)
    (peers : PtpWifiPeers) (mac : MacAddr) (association : UInt32) (failure : α)
    (slot : Fin ptpWifiPeersMax) :
    (onAssociation peers mac association failure act).1.entries slot = peers.entries slot ∨
      (onAssociation peers mac association failure act).1.entries slot =
        (act (peers.entries slot)).1 := by
  unfold onAssociation
  split
  · exact .inl rfl
  · split
    · exact .inl rfl
    · rename_i found _ _
      by_cases hslot : slot = found
      · subst hslot
        exact .inr (Function.update_self _ _ _)
      · exact .inl (Function.update_of_ne hslot _ _)

/-- Work that keeps the station. -/
theorem onAssociation_change {α : Type} {act : PtpWifiPeer → PtpWifiPeer × α}
    (hact : KeepsStation act) {numbers : Nat} {peers : PtpWifiPeers} {slot : Fin ptpWifiPeersMax}
    (hchange : ∀ life, PlaceChange numbers life life (peers.entries slot).transmit
      (act (peers.entries slot)).1.transmit) (mac : MacAddr) (association : UInt32) (failure : α) :
    SlotChange numbers peers (onAssociation peers mac association failure act).1 slot := by
  rcases onAssociation_entry act peers mac association failure slot with hsame | hacted
  · exact .of_entries hsame
  · unfold SlotChange
    rw [(onAssociation_keeps hact peers mac association failure).1, hacted]
    exact hchange _

theorem workStep_change (cfg : Config) (peers : PtpWifiPeers) (mac : MacAddr)
    (association : UInt32) {work : AssociationWork}
    (h : PeersOp.elsewhere (.work mac association work) = true) (numbers : Nat)
    (slot : Fin ptpWifiPeersMax) :
    SlotChange numbers peers (workStep cfg peers mac association work).1 slot := by
  cases work with
  | capable message nowUs =>
    refine onAssociation_change ?_ ?_ mac association false
    · intro peer
      dsimp only
      split_ifs <;> exact ⟨rfl, rfl, rfl⟩
    · intro life
      dsimp only
      split
      · exact .kept rfl rfl
      · -- Another port than the one bound restarts the schedule, whatever becomes of the message.
        by_cases hrebound : (peers.entries slot).bound = true ∧
            (peers.entries slot).portIdentity ≠ message.sourcePort
        · rw [if_pos hrebound]
          split <;> exact .restarted rfl rfl
        · rw [if_neg hrebound]
          split <;> exact .kept rfl rfl
  | interval message =>
    refine onAssociation_change ?_ ?_ mac association false
    · intro peer
      dsimp only
      split_ifs <;> exact ⟨rfl, rfl, rfl⟩
    · intro life
      dsimp only
      split_ifs
      · exact .kept rfl rfl
      · exact .requested rfl message.logInterval rfl
  | syncInterval message =>
    refine onAssociation_change ?_ ?_ mac association false
    · intro peer
      dsimp only
      split_ifs <;> exact ⟨rfl, rfl, rfl⟩
    · intro life
      dsimp only
      split_ifs <;> exact .kept rfl rfl
  | announceInterval message initial =>
    refine onAssociation_change ?_ ?_ mac association false
    · intro peer
      dsimp only
      split_ifs <;> exact ⟨rfl, rfl, rfl⟩
    · intro life
      dsimp only
      split_ifs <;> exact .kept rfl rfl
  | sent token accepted nowUs => cases h
  | announceBegin portOpen revision informationRevision initial nowUs =>
    simp only [workStep, ptpdWifiAnnounceBegin]
    split
    · exact .of_entries rfl
    · exact onAssociation_change (fun _ => ⟨rfl, rfl, rfl⟩) (fun _ => .kept rfl rfl) mac
        association none
  | announceFinish portOpen token accepted nowUs =>
    simp only [workStep, ptpdWifiAnnounceFinish]
    split
    · exact .of_entries rfl
    · exact onAssociation_change (fun _ => ⟨rfl, rfl, rfl⟩) (fun _ => .kept rfl rfl) mac
        association false

/-- What a join does to a slot: nothing, or it starts a lifetime there. -/
theorem ptpWifiPeersJoin_entry (peers : PtpWifiPeers) (mac : MacAddr)
    (slot : Fin ptpWifiPeersMax) :
    (ptpWifiPeersJoin peers mac).1.entries slot = peers.entries slot ∨
      (ptpWifiPeersJoin peers mac).1.entries slot =
        { (default : PtpWifiPeer) with
          associated := true, mac := mac, association := nextNonzero peers.generation } := by
  unfold ptpWifiPeersJoin
  split
  · exact .inl rfl
  dsimp only
  split
  · exact .inl rfl
  · rename_i joined _
    by_cases hslot : slot = joined
    · subst hslot
      exact .inr (Function.update_self _ _ _)
    · exact .inl (Function.update_of_ne hslot _ _)

theorem joinAll_change {numbers : Nat} {peers : PtpWifiPeers} (macs : List MacAddr)
    (hnumbers : numbers ≤ peers.registry.gen)
    (hbound : peers.registry.gen + (joinAll peers macs).2.length < 2 ^ 32)
    (slot : Fin ptpWifiPeersMax) :
    (joinAll peers macs).1.entries slot = peers.entries slot ∨
      ∃ mac association, (joinAll peers macs).1.lifetime slot = some (mac, association) ∧
        numbers < association.toNat ∧ ((joinAll peers macs).1.entries slot).transmit = default := by
  induction macs generalizing peers with
  | nil => exact .inl rfl
  | cons mac macs ih =>
    rcases ptpWifiPeersJoin_cases peers mac with ⟨hnone, hsame⟩ | ⟨joined, hjoined, -, hgen, -, -⟩
    · simp only [joinAll, hnone, hsame] at hbound ⊢
      exact ih hnumbers hbound
    · have hentry := ptpWifiPeersJoin_entry peers mac slot
      simp only [joinAll, hjoined, List.length_cons] at hbound ⊢
      generalize ptpWifiPeersJoin peers mac = after at hgen hentry hbound ⊢
      have hnext : after.1.registry.gen = peers.registry.gen + 1 :=
        (congrArg UInt32.toNat hgen).trans (nextNonzero_toNat (by
          show peers.registry.gen + 1 < 2 ^ 32
          omega))
      have hlater : numbers ≤ after.1.registry.gen := by omega
      rcases ih hlater (by omega) with hkept | hstarted
      · rcases hentry with hentry | hentry
        · exact .inl (hkept.trans hentry)
        · refine .inr ⟨mac, nextNonzero peers.generation, ?_, ?_, ?_⟩
          · simp [PtpWifiPeers.lifetime, hkept, hentry]
          · rw [← hgen]
            show numbers < after.1.registry.gen
            omega
          · rw [hkept, hentry]
            rfl
      · exact .inr hstarted

/-- **What an operation elsewhere does to a slot.** -/
theorem peersStep_change (cfg : Config) {peers : PtpWifiPeers} {op : PeersOp}
    (h : op.elsewhere = true)
    (hbound : peers.registry.gen + (peersStep cfg peers op).2.advances < 2 ^ 32)
    (slot : Fin ptpWifiPeersMax) :
    SlotChange peers.registry.gen peers (peersStep cfg peers op).1 slot := by
  cases op with
  | join mac =>
    rcases joinAll_change [mac] (Nat.le_refl _) hbound slot with hkept | ⟨m, a, hlife, hnew, hfresh⟩
    · exact .of_entries hkept
    · exact .started m a hlife hnew hfresh
  | leave mac =>
    simp only [peersStep, ptpWifiPeersLeave]
    split
    · exact .of_entries rfl
    · rename_i left _
      by_cases hslot : slot = left
      · subst hslot
        exact .of_default (Function.update_self _ _ _)
      · exact .of_entries (Function.update_of_ne hslot _ _)
  | clear => exact .of_default rfl
  | reconcile radioBoot radioGeneration macs =>
    simp only [peersStep, ptpWifiPeersReconcile] at hbound ⊢
    cases hanswer : reconcileAnswer peers radioBoot radioGeneration macs with
    | some answer => exact .of_entries rfl
    | none =>
      simp only [hanswer] at hbound
      have hgen : (reconcileKeep peers macs).registry.gen = peers.registry.gen + 1 :=
        (reconcileKeep_evolves macs (by omega)).gen
      have hnumbers : peers.registry.gen ≤ (reconcileKeep peers macs).registry.gen := by omega
      rcases joinAll_change macs hnumbers (by omega) slot with
        hkept | ⟨m, a, hlife, hnew, hfresh⟩
      · by_cases hgone : ((peers.entries slot).associated &&
            decide ((peers.entries slot).mac ∉ macs)) = true
        · exact .of_default (hkept.trans (if_pos hgone))
        · exact .of_entries (hkept.trans (if_neg hgone))
      · exact .started m a hlife hnew hfresh
  | resetForProfile => exact .restarted rfl rfl
  | unreported => exact .of_entries rfl
  | capableBegin enabled slot nowUs => cases h
  | work mac association work => exact workStep_change cfg peers mac association h _ slot

/-- **What an operation on the access point of a station does.** -/
theorem neighborStep_change {neighbor : PtpWifiNeighbor} (op : NeighborOp)
    (hbound : neighbor.association.toNat + 1 < 2 ^ 32) :
    PlaceChange neighbor.association.toNat ((CapablePort.sta neighbor).lifetime none)
      ((CapablePort.sta (neighborStep neighbor op)).lifetime none) neighbor.transmit
      (neighborStep neighbor op).transmit := by
  cases op with
  | associate bssid =>
    cases bssid with
    | none => exact .ended rfl rfl
    | some bssid =>
      refine .started bssid (nextNonzero neighbor.association) rfl ?_ rfl
      rw [nextNonzero_toNat hbound]
      exact Nat.lt_succ_self _
  | bind association sourceMac identity =>
    have hlife : (CapablePort.sta
        (neighborStep neighbor (.bind association sourceMac identity))).lifetime none =
          (CapablePort.sta neighbor).lifetime none := by
      simp only [CapablePort.lifetime, neighborStep, ptpWifiNeighborBind]
      split
      · rfl
      · dsimp only
        split <;> rfl
    rcases ptpWifiNeighborBind_transmit neighbor association sourceMac identity with hkept | hreset
    · exact .kept hlife hkept
    · exact .restarted hlife hreset
  | interval sourceMac association message =>
    simp only [neighborStep, ptpWifiNeighborInterval]
    split
    · exact .requested rfl message.logInterval rfl
    · exact .kept rfl rfl
  | syncInterval sourceMac association message =>
    simp only [neighborStep, ptpWifiNeighborSyncInterval]
    split <;> exact .kept rfl rfl
  | resetForProfile => exact .restarted rfl rfl

/-- The association numbers an operation takes from the counter. -/
def CapablePort.stationAdvances (cfg : Config) (op : PeersOp) : CapablePort → Nat
  | .ap peers => (peersStep cfg peers op).2.advances
  | _ => 0

def CapablePort.accessPointAdvances (op : NeighborOp) : CapablePort → Nat
  | .sta _ =>
    match op with
    | .associate _ => 1
    | _ => 0
  | _ => 0

/-- What an operation elsewhere does to a port, taking `n` numbers. -/
structure PortEvolves (n : Nat) (port port' : CapablePort) : Prop where
  numbered : port'.Numbered
  numbers : port'.numbers = port.numbers + n
  change : ∀ slot, PlaceChange port.numbers (port.lifetime slot) (port'.lifetime slot)
    (port.schedule slot) (port'.schedule slot)

theorem PortEvolves.refl {port : CapablePort} (h : port.Numbered) : PortEvolves 0 port port :=
  ⟨h, rfl, fun _ => .kept rfl rfl⟩

theorem CapablePort.stations_evolves (cfg : Config) {port : CapablePort} (h : port.Numbered)
    {op : PeersOp} (hop : op.elsewhere = true)
    (hbound : port.numbers + port.stationAdvances cfg op < 2 ^ 32) :
    PortEvolves (port.stationAdvances cfg op) port (port.stations cfg op) := by
  cases port with
  | ap peers =>
    have hevolves := peersStep_evolves cfg h op hbound
    refine ⟨hevolves.reaches.wellNumbered h, hevolves.gen, ?_⟩
    intro slot
    cases slot with
    | none => exact .kept rfl rfl
    | some slot => exact peersStep_change cfg hop hbound slot
  | sta neighbor => exact .refl h
  | other => exact .refl h

theorem CapablePort.accessPoint_evolves {port : CapablePort} (h : port.Numbered)
    (op : NeighborOp) (hbound : port.numbers + 1 < 2 ^ 32) :
    PortEvolves (port.accessPointAdvances op) port (port.accessPoint op) := by
  cases port with
  | ap peers => exact .refl h
  | sta neighbor =>
    refine ⟨trivial, ?_, ?_⟩
    · cases op with
      | associate bssid =>
        cases bssid <;> exact nextNonzero_toNat hbound
      | bind association sourceMac identity =>
        simp only [CapablePort.accessPoint, neighborStep, ptpWifiNeighborBind]
        split
        · rfl
        · dsimp only
          split <;> rfl
      | interval sourceMac association message =>
        simp only [CapablePort.accessPoint, neighborStep, ptpWifiNeighborInterval]
        split <;> rfl
      | syncInterval sourceMac association message =>
        simp only [CapablePort.accessPoint, neighborStep, ptpWifiNeighborSyncInterval]
        split <;> rfl
      | resetForProfile => rfl
    · intro slot
      cases slot with
      | none => exact neighborStep_change op hbound
      | some slot => exact .kept rfl rfl
  | other => exact .refl h

/-! ## The two sections -/

/-- The schedule of one slot is replaced, and nothing else. -/
structure ActsOn (slot : Option (Fin ptpWifiPeersMax)) (schedule' : PtpCapableSchedule)
    (port port' : CapablePort) : Prop where
  numbered : port.Numbered → port'.Numbered
  numbers : port'.numbers = port.numbers
  lifetime : port'.lifetime = port.lifetime
  here : port'.schedule slot = schedule'
  elsewhere : ∀ other, other ≠ slot → port'.schedule other = port.schedule other

/-- A slot of an access point, with another schedule. -/
theorem ActsOn.ap (peers : PtpWifiPeers) (slot : Fin ptpWifiPeersMax)
    (schedule' : PtpCapableSchedule) :
    ActsOn (some slot) schedule' (.ap peers)
      (.ap { peers with
        entries := Function.update peers.entries slot
          { peers.entries slot with transmit := schedule' } }) := by
  have hlife : ({ peers with
      entries := Function.update peers.entries slot
        { peers.entries slot with transmit := schedule' } } : PtpWifiPeers).lifetime =
          peers.lifetime := lifetime_update rfl rfl rfl
  refine ⟨?_, rfl, ?_, ?_, ?_⟩
  · intro h
    show Registry.WellNumbered (PtpWifiPeers.registry _)
    rw [registry_congr hlife rfl]
    exact h
  · funext other
    cases other with
    | none => rfl
    | some other => exact congrFun hlife other
  · show (Function.update peers.entries slot _ slot).transmit = schedule'
    rw [Function.update_self]
  · intro other hother
    cases other with
    | none => rfl
    | some other =>
      have hne : other ≠ slot := fun h => hother (congrArg some h)
      show (Function.update peers.entries slot _ other).transmit = (peers.entries other).transmit
      rw [Function.update_of_ne hne]

/-- The access point of a station, with another schedule. -/
theorem ActsOn.sta (neighbor : PtpWifiNeighbor) (schedule' : PtpCapableSchedule) :
    ActsOn none schedule' (.sta neighbor) (.sta { neighbor with transmit := schedule' }) := by
  refine ⟨fun _ => trivial, rfl, ?_, rfl, ?_⟩
  · funext other
    cases other <;> rfl
  · intro other hother
    cases other with
    | none => exact absurd rfl hother
    | some other => rfl

/-- **The section of a send** begins a transmission at its place, or there is no such place. -/
theorem CapablePort.begin_acts (cfg : Config) (enabled : Bool) (nowUs : Int) (port : CapablePort)
    (slot : Option (Fin ptpWifiPeersMax)) :
    (∃ open' : Bool,
        ActsOn slot (ptpCapableScheduleBegin (port.schedule slot) open' nowUs).1 port
          (port.begin cfg enabled nowUs slot).1 ∧
        (port.begin cfg enabled nowUs slot).2 =
          (ptpCapableScheduleBegin (port.schedule slot) open' nowUs).2) ∨
      port.begin cfg enabled nowUs slot = (port, 0) := by
  cases port with
  | ap peers =>
    cases slot with
    | none => exact .inr rfl
    | some slot => exact .inl ⟨_, .ap peers slot _, rfl⟩
  | sta neighbor =>
    cases slot with
    | none => exact .inl ⟨_, .sta neighbor _, rfl⟩
    | some slot => exact .inr rfl
  | other => exact .inr rfl

/-- **The section of a completion** finishes the transmission at the place of the association, or
    that is gone. -/
theorem CapablePort.sent_acts (destination : MacAddr) (association token : UInt32)
    (accepted : Bool) (nowUs : Int) (port : CapablePort) :
    (∃ slot, port.lifetime slot = some (destination, association) ∧
        ActsOn slot (ptpCapableScheduleFinish (port.schedule slot) token accepted nowUs).1 port
          (port.sent destination association token accepted nowUs).1 ∧
        (port.sent destination association token accepted nowUs).2 =
          (ptpCapableScheduleFinish (port.schedule slot) token accepted nowUs).2) ∨
      port.sent destination association token accepted nowUs = (port, false) := by
  cases port with
  | ap peers =>
    simp only [CapablePort.sent, ptpWifiPeersSent, onAssociation]
    cases hfind : ptpWifiPeersFind peers destination with
    | none => exact .inr rfl
    | some slot =>
      dsimp only
      -- Who is there may have associated again, and then the report is not about this one.
      by_cases hother : (peers.entries slot).association ≠ association
      · rw [if_pos hother]
        exact .inr rfl
      · rw [if_neg hother]
        have hlife := ptpWifiPeersFind_some hfind
        rw [not_not.mp hother] at hlife
        exact .inl ⟨some slot, hlife, .ap peers slot _, rfl⟩
  | sta neighbor =>
    simp only [CapablePort.sent, ptpWifiNeighborSent]
    by_cases hnamed : association = neighbor.association ∧
        ptpWifiNeighborAccepts neighbor destination = true
    · rw [if_pos hnamed]
      obtain ⟨rfl, haccepts⟩ := hnamed
      simp only [ptpWifiNeighborAccepts, Bool.and_eq_true, decide_eq_true_eq] at haccepts
      refine .inl ⟨none, ?_, .sta neighbor _, rfl⟩
      simp [CapablePort.lifetime, haccepts.1, haccepts.2]
    · rw [if_neg hnamed]
      exact .inr rfl
  | other => exact .inr rfl

/-! ## What holds of every schedule -/

/-- An interval the schedule can be asked for. -/
def PtpCapableSchedule.Ranged (schedule : PtpCapableSchedule) : Prop :=
  schedule.interval.logInterval = 127 ∨
    (-3 ≤ schedule.interval.logInterval ∧ schedule.interval.logInterval ≤ 24)

/-- `ptp_capable_interval_request` takes an interval only if that has a period, or is the one
    that stops. -/
theorem ptpCapableIntervalRequest_ranged (state : PtpCapableInterval) (request : Int) :
    (ptpCapableIntervalRequest state request).1.logInterval = state.logInterval ∨
      (ptpCapableIntervalRequest state request).1.logInterval = 127 ∨
      (-3 ≤ (ptpCapableIntervalRequest state request).1.logInterval ∧
        (ptpCapableIntervalRequest state request).1.logInterval ≤ 24) := by
  simp only [ptpCapableIntervalRequest]
  generalize (if (if request = 126 then 0 else request) ≥ -24 ∧
      (if request = 126 then 0 else request) < -3 then -3
    else if request = 126 then 0 else request) = asked
  split
  · exact .inl rfl
  · split
    · exact .inl rfl
    · rename_i hadmitted
      split
      · exact .inl rfl
      · refine .inr ?_
        by_cases hstop : asked = 127
        · exact .inl hstop
        · refine .inr ?_
          show -3 ≤ asked ∧ asked ≤ 24
          by_contra hrange
          apply hadmitted
          refine ⟨hstop, ?_⟩
          unfold ptpCapableIntervalUs
          rw [if_pos (by omega)]

theorem PtpCapableSchedule.Ranged.of_interval {s s' : PtpCapableSchedule} (h : s.Ranged)
    (hsame : s'.interval.logInterval = s.interval.logInterval) : s'.Ranged := by
  unfold PtpCapableSchedule.Ranged
  rw [hsame]
  exact h

/-- What a begin does: nothing is handed out, or the next token is, at the interval in force. -/
inductive CapableBegin (s : PtpCapableSchedule) : PtpCapableSchedule × UInt32 → Prop
  | none (s' : PtpCapableSchedule) (hinterval : s'.interval = s.interval)
    (hserial : s'.serial = s.serial) (hpending : s'.pending = 0 ∨ s'.pending = s.pending) :
    CapableBegin s (s', 0)
  | begun (s' : PtpCapableSchedule) (hinterval : s'.interval = s.interval)
    (hserial : s'.serial = nextNonzero s.serial) (hpending : s'.pending = s'.serial)
    (hadvertised : s'.advertisedInterval = s.interval.logInterval) (hperiod : s.period ≠ 0) :
    CapableBegin s (s', nextNonzero s.serial)

theorem ptpCapableScheduleBegin_spec (s : PtpCapableSchedule) (enabled : Bool) (nowUs : Int) :
    CapableBegin s (ptpCapableScheduleBegin s enabled nowUs) := by
  unfold ptpCapableScheduleBegin
  dsimp only
  split
  · exact .none _ rfl rfl (.inl rfl)
  · split
    · exact .none _ rfl rfl (.inr rfl)
    · rename_i hin
      split
      · exact .none _ rfl rfl (.inr rfl)
      · split
        · exact .none _ rfl rfl (.inl rfl)
        · exact .begun _ rfl rfl rfl rfl (fun hstopped => hin (.inl hstopped))

theorem ptpCapableIntervalSent_logInterval (state : PtpCapableInterval) (advertised : Int)
    (accepted : Bool) :
    (ptpCapableIntervalSent state advertised accepted).logInterval = state.logInterval := by
  unfold ptpCapableIntervalSent
  split <;> rfl

/-- What holds of every schedule of the daemon. -/
structure PtpCapableSchedule.Sound (s : PtpCapableSchedule) : Prop where
  ok : s.Ok
  ranged : s.Ranged
  latest : s.pending = 0 ∨ s.pending = s.serial

namespace PtpCapableSchedule.Sound

variable {s : PtpCapableSchedule}

theorem zero : (default : PtpCapableSchedule).Sound :=
  ⟨PtpCapableSchedule.restarted_ok default, .inr (by decide), .inl rfl⟩

theorem restarted (s : PtpCapableSchedule) : s.restarted.Sound :=
  ⟨s.restarted_ok, .inr (by decide : (-3 : Int) ≤ 0 ∧ (0 : Int) ≤ 24), .inl rfl⟩

theorem request (h : s.Sound) (request : Int) : (ptpCapableScheduleRequest s request).1.Sound where
  ok := capableCall_ok h.ok (.request request)
  ranged := by
    have hranged := ptpCapableIntervalRequest_ranged s.interval request
    have hinterval : (ptpCapableScheduleRequest s request).1.interval =
        (ptpCapableIntervalRequest s.interval request).1 := by
      unfold ptpCapableScheduleRequest
      dsimp only
      split
      · rfl
      · split <;> rfl
    unfold PtpCapableSchedule.Ranged
    rw [hinterval]
    rcases hranged with hsame | hnew
    · rw [hsame]
      exact h.ranged
    · exact hnew
  latest := by
    rcases ptpCapableScheduleRequest_cases s request with hsame | ⟨next, -, heq⟩
    · rw [hsame]
      exact h.latest
    · rw [heq]
      exact .inl rfl

theorem begin (h : s.Sound) (enabled : Bool) (nowUs : Int) :
    (ptpCapableScheduleBegin s enabled nowUs).1.Sound := by
  have hspec := ptpCapableScheduleBegin_spec s enabled nowUs
  have hok := ptpCapableScheduleBegin_ok h.ok enabled nowUs
  generalize ptpCapableScheduleBegin s enabled nowUs = answer at hspec hok ⊢
  cases hspec with
  | none s' hinterval hserial hpending =>
    refine ⟨hok, h.ranged.of_interval (by rw [hinterval]), ?_⟩
    rcases hpending with hzero | hsame
    · exact .inl hzero
    · dsimp only
      rw [hsame, hserial]
      exact h.latest
  | begun s' hinterval hserial hpending hadvertised hperiod =>
    exact ⟨hok, h.ranged.of_interval (by rw [hinterval]), .inr hpending⟩

theorem finish (h : s.Sound) (token : UInt32) (accepted : Bool) (nowUs : Int) :
    (ptpCapableScheduleFinish s token accepted nowUs).1.Sound := by
  have hspec := ptpCapableScheduleFinish_spec s token accepted nowUs
  have hok := hspec.ok h.ok
  generalize ptpCapableScheduleFinish s token accepted nowUs = answer at hspec hok ⊢
  cases hspec with
  | unknown _ => exact h
  | late _ _ => exact ⟨hok, h.ranged, .inl rfl⟩
  | taken _ _ _ _ hinterval _ =>
    refine ⟨hok, h.ranged.of_interval ?_, .inl rfl⟩
    rw [hinterval]
    exact ptpCapableIntervalSent_logInterval _ _ _

end PtpCapableSchedule.Sound

theorem PlaceChange.sound {numbers : Nat} {life life' : Option (MacAddr × UInt32)}
    {schedule schedule' : PtpCapableSchedule}
    (h : PlaceChange numbers life life' schedule schedule') (hs : schedule.Sound) :
    schedule'.Sound := by
  cases h with
  | kept _ h => exact h ▸ hs
  | requested _ request h => exact h ▸ hs.request request
  | restarted _ h => exact h ▸ .restarted schedule
  | started _ _ _ _ h => exact h ▸ .zero
  | ended _ h => exact h ▸ .zero

/-! ## The ports in a run -/

/-- The association numbers a visit takes from the counter of a port. -/
def CapableVisit.given {n : Nat} (node : CapableNode n) (p : Fin n) (x : CapableVisit n) : Nat :=
  match x.1 with
  | .peers q op => if q = p then (x.2.ports p).stationAdvances node.cfg op.val else 0
  | .neighbor q op => if q = p then (x.2.ports p).accessPointAdvances op else 0
  | _ => 0

def numbersGiven {n : Nat} (node : CapableNode n) (history : List (CapableVisit n)) (p : Fin n) :
    Nat :=
  (history.map (CapableVisit.given node p)).sum

section Ports

variable {n : Nat} {node : CapableNode n} {history : List (CapableVisit n)} {s : CapableRadio n}

theorem numbersGiven_snoc (x : CapableVisit n) (p : Fin n) :
    numbersGiven node (history ++ [x]) p = numbersGiven node history p + x.given node p := by
  simp [numbersGiven]

theorem numbersGiven_append (history history' : List (CapableVisit n)) (p : Fin n) :
    numbersGiven node (history ++ history') p =
      numbersGiven node history p + numbersGiven node history' p := by
  simp [numbersGiven]

/-- What holds of the ports after a history. -/
structure CapablePorts (node : CapableNode n) (history : List (CapableVisit n))
    (s : CapableRadio n) : Prop where
  numbered : ∀ p, (s.ports p).Numbered
  numbers : ∀ p, (s.ports p).numbers = numbersGiven node history p
  sound : ∀ p slot, ((s.ports p).schedule slot).Sound

/-- No port has changed. -/
theorem CapablePorts.same {s' : CapableRadio n} {x : CapableVisit n}
    (h : CapablePorts node history s) (hports : s'.ports = s.ports)
    (hgiven : ∀ p, x.given node p = 0) : CapablePorts node (history ++ [x]) s' where
  numbered := by
    rw [hports]
    exact h.numbered
  numbers := by
    intro p
    rw [hports, numbersGiven_snoc, hgiven, Nat.add_zero]
    exact h.numbers p
  sound := by
    rw [hports]
    exact h.sound

/-- One port has. -/
theorem CapablePorts.update {s' : CapableRadio n} {x : CapableVisit n} {p : Fin n}
    {port' : CapablePort} (h : CapablePorts node history s)
    (hports : s'.ports = Function.update s.ports p port') (hnumbered : port'.Numbered)
    (hnumbers : port'.numbers = (s.ports p).numbers + x.given node p)
    (hgiven : ∀ q, q ≠ p → x.given node q = 0) (hsound : ∀ slot, (port'.schedule slot).Sound) :
    CapablePorts node (history ++ [x]) s' := by
  have hcases : ∀ q, (q = p ∧ s'.ports q = port') ∨ (q ≠ p ∧ s'.ports q = s.ports q) := by
    intro q
    rw [hports]
    by_cases hq : q = p
    · exact .inl ⟨hq, by rw [hq, Function.update_self]⟩
    · exact .inr ⟨hq, Function.update_of_ne hq _ _⟩
  refine ⟨?_, ?_, ?_⟩
  · intro q
    rcases hcases q with ⟨-, heq⟩ | ⟨-, heq⟩
    · exact heq ▸ hnumbered
    · exact heq ▸ h.numbered q
  · intro q
    rw [numbersGiven_snoc]
    rcases hcases q with ⟨rfl, heq⟩ | ⟨hq, heq⟩
    · rw [heq, hnumbers, h.numbers]
    · rw [heq, hgiven q hq, h.numbers, Nat.add_zero]
  · intro q slot
    rcases hcases q with ⟨-, heq⟩ | ⟨-, heq⟩
    · exact heq ▸ hsound slot
    · exact heq ▸ h.sound q slot

/-- A schedule of one port has. -/
theorem CapablePorts.acts {s' : CapableRadio n} {x : CapableVisit n} {p : Fin n}
    {port' : CapablePort} {slot : Option (Fin ptpWifiPeersMax)} {schedule' : PtpCapableSchedule}
    (h : CapablePorts node history s) (hports : s'.ports = Function.update s.ports p port')
    (hacts : ActsOn slot schedule' (s.ports p) port') (hsound : schedule'.Sound)
    (hgiven : ∀ q, x.given node q = 0) : CapablePorts node (history ++ [x]) s' := by
  refine h.update hports (hacts.numbered (h.numbered p)) ?_ (fun q _ => hgiven q) ?_
  · rw [hgiven p, Nat.add_zero]
    exact hacts.numbers
  · intro other
    by_cases hslot : other = slot
    · rw [hslot, hacts.here]
      exact hsound
    · rw [hacts.elsewhere other hslot]
      exact h.sound p other

/-- The section of a completion. -/
theorem CapablePorts.sent {s' : CapableRadio n} {x : CapableVisit n} {p : Fin n}
    (h : CapablePorts node history s) {destination : MacAddr} {association token : UInt32}
    {accepted : Bool} {nowUs : Int}
    (hports : s'.ports = Function.update s.ports p
      ((s.ports p).sent destination association token accepted nowUs).1)
    (hgiven : ∀ q, x.given node q = 0) : CapablePorts node (history ++ [x]) s' := by
  rcases (s.ports p).sent_acts destination association token accepted nowUs with
    ⟨slot, -, hacts, -⟩ | hnothing
  · exact h.acts hports hacts ((h.sound p slot).finish token accepted nowUs) hgiven
  · rw [hnothing, Function.update_eq_self] at hports
    exact h.same hports hgiven

theorem CapablePorts.step (h : CapablePorts node history s) (e : CapableEvent n)
    (hbound : ∀ p, numbersGiven node (history ++ [(e, s)]) p < 2 ^ 32 - 1) :
    CapablePorts node (history ++ [(e, s)]) (s.apply node e) := by
  have hroom : ∀ p, (s.ports p).numbers + CapableVisit.given node p (e, s) < 2 ^ 32 - 1 := by
    intro p
    rw [h.numbers, ← numbersGiven_snoc]
    exact hbound p
  cases e with
  | daemon place enabled nowUs =>
    have hgiven : ∀ p,
        CapableVisit.given node p (CapableEvent.daemon place enabled nowUs, s) = 0 :=
      fun _ => rfl
    have hserve := s.serve_cases node place enabled nowUs
    simp only [CapableRadio.apply]
    generalize s.serve node place enabled nowUs = s' at hserve ⊢
    have hbegin : ∀ (place : CapablePlace n) (generation : UInt32) (s' : CapableRadio n),
        s'.ports = Function.update s.ports place.port
          (s.beginSend node.cfg place generation enabled nowUs).1 →
        CapablePorts node (history ++ [(CapableEvent.daemon ‹_› enabled nowUs, s)]) s' := by
      intro place generation s' hports
      rcases (s.ports place.port).begin_acts node.cfg enabled nowUs place.slot with
        ⟨opened, hacts, -⟩ | hnothing
      · exact h.acts hports hacts ((h.sound _ _).begin opened nowUs) hgiven
      · simp only [CapableRadio.beginSend, hnothing, Function.update_eq_self] at hports
        exact h.same hports hgiven
    cases hserve with
    | skips place' generation hdaemon hnone => exact hbegin place' generation _ rfl
    | begins place' generation work hdaemon hbegun => exact hbegin place' generation _ rfl
    | abandons work hdaemon => exact h.sent rfl hgiven
    | completes result hdaemon => exact h.sent rfl hgiven
    | _ => exact h.same rfl hgiven
  | worker nowUs accepted =>
    have hwork := s.work_cases nowUs accepted
    simp only [CapableRadio.apply]
    generalize s.work nowUs accepted = s' at hwork ⊢
    cases hwork <;> exact h.same rfl (fun _ => rfl)
  | peers p op =>
    have hgiven : ∀ q, q ≠ p → CapableVisit.given node q (CapableEvent.peers p op, s) = 0 :=
      fun q hq => if_neg hq.symm
    have hown : CapableVisit.given node p (CapableEvent.peers p op, s) =
        (s.ports p).stationAdvances node.cfg op.val := if_pos rfl
    have hevolves := (s.ports p).stations_evolves node.cfg (h.numbered p) op.property (by
      have hp := hroom p
      omega)
    exact h.update rfl hevolves.numbered (hown ▸ hevolves.numbers) hgiven
      (fun slot => (hevolves.change slot).sound (h.sound p slot))
  | neighbor p op =>
    have hgiven : ∀ q, q ≠ p → CapableVisit.given node q (CapableEvent.neighbor p op, s) = 0 :=
      fun q hq => if_neg hq.symm
    have hown : CapableVisit.given node p (CapableEvent.neighbor p op, s) =
        (s.ports p).accessPointAdvances op := if_pos rfl
    have hevolves := (s.ports p).accessPoint_evolves (h.numbered p) op (by
      have hp := hroom p
      omega)
    exact h.update rfl hevolves.numbered (hown ▸ hevolves.numbers) hgiven
      (fun slot => (hevolves.change slot).sound (h.sound p slot))
  | link p => exact h.same rfl (fun _ => rfl)

theorem freshPort_spec {port : CapablePort} (h : CapableRadio.freshPort port) :
    port.Numbered ∧ port.numbers = 0 ∧
      ∀ slot, port.lifetime slot = none ∧ port.schedule slot = default := by
  cases port with
  | ap peers =>
    obtain rfl : peers = PtpWifiPeers.zero := h
    refine ⟨Registry.wellNumbered_empty, rfl, fun slot => ?_⟩
    cases slot <;> exact ⟨rfl, rfl⟩
  | sta neighbor =>
    obtain rfl : neighbor = default := h
    refine ⟨trivial, rfl, fun slot => ?_⟩
    cases slot <;> exact ⟨rfl, rfl⟩
  | other => exact ⟨trivial, rfl, fun _ => ⟨rfl, rfl⟩⟩

theorem CapablePorts.fresh {s₀ : CapableRadio n} (hfresh : s₀.Fresh) : CapablePorts node [] s₀ where
  numbered := fun p => (freshPort_spec (hfresh.ports p)).1
  numbers := fun p => (freshPort_spec (hfresh.ports p)).2.1
  sound := by
    intro p slot
    rw [((freshPort_spec (hfresh.ports p)).2.2 slot).2]
    exact .zero

end Ports

end EspPtp
