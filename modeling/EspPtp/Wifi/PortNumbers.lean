import Mathlib.Data.Set.Function
import EspPtp.Wifi.Reconcile

/-!
# Logical port numbers (`ptp_wifi_association_port`, `ptp_wifi_peers_snapshot`)

A station of an access point is a logical port of its own. The station of slot zero has the
number of the port that carries it, and those of the other slots have numbers of blocks of
fifteen, one block a port, behind the physical numbers of all ports. So a number stands for
one place of the device, and a station keeps its number because no operation moves it.
-/

namespace EspPtp

open Lib

/-! ## The numbering -/

/-- The physical ports of a device, numbered from one, with the slots of each. -/
def logicalPlaces (physicalCount : Nat) : Set (Nat × Nat) :=
  {place | 1 ≤ place.1 ∧ place.1 ≤ physicalCount ∧ place.2 < ptpWifiPeersMax}

/-- It fits `uint16_t`. -/
theorem ptpWifiAssociationPort_lt (physicalPort physicalCount slot : Nat) :
    ptpWifiAssociationPort physicalPort physicalCount slot < 2 ^ 16 := by
  unfold ptpWifiAssociationPort
  split
  · decide
  · rename_i hopen
    have hmax : ptpWifiPeersMax = 16 := rfl
    rw [hmax] at hopen ⊢
    split <;> omega

section Numbering

variable {physicalPort physicalCount slot : Nat} (hcount : physicalCount ≤ 4095)
include hcount

theorem ptpWifiAssociationPort_open (hplace : (physicalPort, slot) ∈ logicalPlaces physicalCount) :
    ptpWifiAssociationPort physicalPort physicalCount slot =
      if slot = 0 then physicalPort
      else physicalCount + (physicalPort - 1) * (ptpWifiPeersMax - 1) + slot := by
  obtain ⟨hpos, hle, hslot⟩ := hplace
  dsimp only at hpos hle hslot
  have hmax : 65535 / ptpWifiPeersMax = 4095 := rfl
  unfold ptpWifiAssociationPort
  rw [hmax, if_neg]
  rintro (h | h | h | h)
  · exact Nat.ne_of_gt hpos h
  · exact Nat.not_lt.mpr hle h
  · exact Nat.not_lt.mpr hcount h
  · exact Nat.not_le.mpr hslot h

theorem ptpWifiAssociationPort_slot_zero (hpos : 1 ≤ physicalPort)
    (hle : physicalPort ≤ physicalCount) :
    ptpWifiAssociationPort physicalPort physicalCount 0 = physicalPort := by
  rw [ptpWifiAssociationPort_open hcount ⟨hpos, hle, Nat.succ_pos 15⟩, if_pos rfl]

theorem ptpWifiAssociationPort_mapsTo :
    Set.MapsTo (fun place => ptpWifiAssociationPort place.1 physicalCount place.2)
      (logicalPlaces physicalCount) (Set.Icc 1 (ptpWifiPeersMax * physicalCount)) := by
  rintro ⟨port, slot⟩ hplace
  have hopen := ptpWifiAssociationPort_open hcount hplace
  obtain ⟨hpos, hle, hslot⟩ := hplace
  dsimp only at hpos hle hslot
  show ptpWifiAssociationPort port physicalCount slot ∈ _
  have hmax : ptpWifiPeersMax = 16 := rfl
  rw [hmax] at hopen hslot ⊢
  rw [hopen, Set.mem_Icc]
  by_cases hzero : slot = 0
  · rw [if_pos hzero]
    omega
  · rw [if_neg hzero]
    -- The last block ends with the last number.
    have hblock : (port - 1) * (16 - 1) ≤ (physicalCount - 1) * (16 - 1) :=
      Nat.mul_le_mul_right (16 - 1) (Nat.sub_le_sub_right hle 1)
    omega

theorem ptpWifiAssociationPort_injOn :
    Set.InjOn (fun place => ptpWifiAssociationPort place.1 physicalCount place.2)
      (logicalPlaces physicalCount) := by
  rintro ⟨port, slot⟩ hplace ⟨port', slot'⟩ hplace' hsame
  have hopen := ptpWifiAssociationPort_open hcount hplace
  have hopen' := ptpWifiAssociationPort_open hcount hplace'
  obtain ⟨hpos, hle, hslot⟩ := hplace
  obtain ⟨hpos', hle', hslot'⟩ := hplace'
  dsimp only at hpos hle hslot hpos' hle' hslot'
  change ptpWifiAssociationPort port physicalCount slot =
    ptpWifiAssociationPort port' physicalCount slot' at hsame
  rw [hopen, hopen'] at hsame
  have hmax : ptpWifiPeersMax - 1 = 15 := rfl
  rw [hmax] at hsame
  have heq : port = port' ∧ slot = slot' := by
    split at hsame <;> split at hsame <;> omega
  rw [heq.1, heq.2]

theorem ptpWifiAssociationPort_surjOn :
    Set.SurjOn (fun place => ptpWifiAssociationPort place.1 physicalCount place.2)
      (logicalPlaces physicalCount) (Set.Icc 1 (ptpWifiPeersMax * physicalCount)) := by
  intro number hnumber
  rw [Set.mem_Icc] at hnumber
  have hmax : ptpWifiPeersMax = 16 := rfl
  rw [hmax] at hnumber
  by_cases hphysical : number ≤ physicalCount
  · exact ⟨(number, 0), ⟨hnumber.1, hphysical, Nat.succ_pos 15⟩,
      ptpWifiAssociationPort_slot_zero hcount hnumber.1 hphysical⟩
  · -- The port of the block, and the place in it.
    let offset := number - physicalCount - 1
    have hplace : (offset / 15 + 1, offset % 15 + 1) ∈ logicalPlaces physicalCount := by
      refine ⟨?_, ?_, ?_⟩ <;> dsimp only [offset] <;> omega
    refine ⟨_, hplace, ?_⟩
    show ptpWifiAssociationPort (offset / 15 + 1) physicalCount (offset % 15 + 1) = number
    rw [ptpWifiAssociationPort_open hcount hplace, if_neg (Nat.succ_ne_zero _)]
    show physicalCount + (offset / 15 + 1 - 1) * 15 + (offset % 15 + 1) = number
    have hdigits := Nat.div_add_mod offset 15
    dsimp only [offset] at hdigits ⊢
    omega

end Numbering

/-! ## What an operation does to a station -/

/-- The operations that put a station out: its leave, the end of the access point, and a
    report of the radio that does not list it. -/
def Dismisses (mac : MacAddr) : PeersOp → Prop
  | .leave left => left = mac
  | .clear => True
  | .reconcile _ _ macs => mac ∉ macs
  | _ => False

theorem ptpWifiPeersLeave_fate {peers : PtpWifiPeers} (hdistinct : Table.Distinct peers.stationAt)
    (left : MacAddr) {slot : Fin ptpWifiPeersMax} {mac : MacAddr}
    (hslot : peers.stationAt slot = some mac) :
    (ptpWifiPeersLeave peers left).stationAt slot = some mac ∨
      (left = mac ∧ ¬ Table.Holds (ptpWifiPeersLeave peers left).stationAt mac) := by
  unfold ptpWifiPeersLeave
  cases hfind : ptpWifiPeersFind peers left with
  | none => exact .inl hslot
  | some found =>
    have hfound := ptpWifiPeersFind_eq_some hfind
    have hothers : ∀ s, s ≠ found →
        (ptpWifiPeersAdvance
          { peers with entries := Function.update peers.entries found default }).stationAt s =
            peers.stationAt s := by
      intro s hs
      simp [PtpWifiPeers.stationAt, ptpWifiPeersAdvance, hs]
    by_cases hsame : slot = found
    · subst hsame
      have hmac : left = mac := Option.some.inj (hfound.symm.trans hslot)
      refine .inr ⟨hmac, ?_⟩
      rintro ⟨s, hs⟩
      by_cases heq : s = slot
      · subst heq
        simp [PtpWifiPeers.stationAt, ptpWifiPeersAdvance] at hs
      · rw [hothers s heq] at hs
        exact heq (hdistinct s slot mac hs hslot)
    · exact .inl ((hothers slot hsame).trans hslot)

theorem ptpWifiPeersReconcile_fate {peers : PtpWifiPeers}
    (hdistinct : Table.Distinct peers.stationAt) (radioBoot radioGeneration : UInt32)
    (macs : List MacAddr) {slot : Fin ptpWifiPeersMax} {mac : MacAddr}
    (hslot : peers.stationAt slot = some mac) :
    (ptpWifiPeersReconcile peers radioBoot radioGeneration macs).1.stationAt slot = some mac ∨
      (mac ∉ macs ∧ ¬ Table.Holds
        (ptpWifiPeersReconcile peers radioBoot radioGeneration macs).1.stationAt mac) := by
  have hfate := reconcileAnswer_fate peers radioBoot radioGeneration macs
  unfold ptpWifiPeersReconcile
  generalize reconcileAnswer peers radioBoot radioGeneration macs = fate at hfate
  cases hfate with
  | refused => exact .inl hslot
  | repeated hvalid hrepeats => exact .inl hslot
  | taken hvalid hnew =>
    have hjoined := joinAll_joined (reconcileKeep_distinct hdistinct macs)
      (reconcileKeep_within peers macs) hvalid.length hvalid.addresses
      (fun _ hmac => hmac) hvalid.nodup
    dsimp only
    by_cases hlisted : mac ∈ macs
    · refine .inl (hjoined.stays slot mac ?_)
      rw [stationAt_reconcileKeep, hslot]
      exact Option.filter_some_pos (decide_eq_true hlisted)
    · exact .inr ⟨hlisted, fun hholds => hlisted ((hjoined.holds_iff mac).mp hholds)⟩

/-- **No operation moves a station**: it stays in its slot, or it is put out. -/
theorem hostedStep_fate (cfg : Config) {peers : PtpWifiPeers}
    (hdistinct : Table.Distinct peers.stationAt) (op : PeersOp) {slot : Fin ptpWifiPeersMax}
    {mac : MacAddr} (hslot : peers.stationAt slot = some mac) :
    (hostedStep cfg peers op).1.stationAt slot = some mac ∨
      (Dismisses mac op ∧ ¬ Table.Holds (hostedStep cfg peers op).1.stationAt mac) := by
  cases op with
  | join joining =>
    left
    show (ptpWifiPeersJoin peers joining).1.stationAt slot = some mac
    rcases ptpWifiPeersJoin_seats peers joining with ⟨hsame, -⟩ | ⟨seat, hseats, hjoin⟩
    · rw [hsame]
      exact hslot
    · rw [hjoin, stationAt_joinedAt]
      exact hseats.stays hslot
  | leave left => exact ptpWifiPeersLeave_fate hdistinct left hslot
  | clear => exact .inr ⟨trivial, fun ⟨_, hs⟩ => by cases hs⟩
  | reconcile radioBoot radioGeneration macs =>
    have hfate := ptpWifiPeersReconcile_fate hdistinct radioBoot radioGeneration macs hslot
    have hsame : (ptpdWifiAssociationReconcile peers radioBoot radioGeneration macs).1.stationAt =
        (ptpWifiPeersReconcile peers radioBoot radioGeneration macs).1.stationAt := by
      unfold ptpdWifiAssociationReconcile
      dsimp only
      split <;> rfl
    show (ptpdWifiAssociationReconcile ..).1.stationAt slot = some mac ∨
      (mac ∉ macs ∧ ¬ Table.Holds (ptpdWifiAssociationReconcile ..).1.stationAt mac)
    rw [hsame]
    exact hfate
  | resetForProfile => exact .inl hslot
  | unreported => exact .inl hslot
  | capableBegin enabled begun nowUs =>
    left
    have hsame : (peersCapableBegin cfg enabled peers begun nowUs).1.stationAt = peers.stationAt :=
      stationAt_of_lifetime (lifetime_update rfl rfl rfl)
    exact hsame ▸ hslot
  | work worker association work =>
    left
    have hsame := stationAt_of_lifetime (workStep_keeps cfg peers worker association work).1
    exact hsame ▸ hslot

/-! ## The registries of a device -/

/-- An operation on the registry of one port. -/
def deviceStep (cfg : Config) {physicalCount : Nat} (device : Fin physicalCount → PtpWifiPeers)
    (event : Fin physicalCount × PeersOp) : (Fin physicalCount → PtpWifiPeers) × HostedOutcome :=
  let stepped := hostedStep cfg (device event.1) event.2
  (Function.update device event.1 stepped.1, stepped.2)

/-- The registries of all ports after a run, the operations on them in any order. -/
def deviceAfter (cfg : Config) {physicalCount : Nat}
    (events : List (Fin physicalCount × PeersOp)) : Fin physicalCount → PtpWifiPeers :=
  run (deviceStep cfg) (fun _ => PtpWifiPeers.zero) events

/-- A registry as any run leaves it. -/
structure RegistrySound (peers : PtpWifiPeers) : Prop where
  distinct : Table.Distinct peers.stationAt
  numbered : ∀ slot mac association,
    peers.lifetime slot = some (mac, association) → association ≠ 0

theorem joinAll_numbered {peers : PtpWifiPeers}
    (h : ∀ slot mac association, peers.lifetime slot = some (mac, association) → association ≠ 0)
    (macs : List MacAddr) : ∀ slot mac association,
      (joinAll peers macs).1.lifetime slot = some (mac, association) → association ≠ 0 := by
  induction macs generalizing peers with
  | nil => exact h
  | cons joining macs ih =>
    apply ih
    rcases ptpWifiPeersJoin_cases peers joining with
      ⟨-, hsame⟩ | ⟨seat, -, -, -, hlife, -⟩
    · rw [hsame]
      exact h
    · intro slot mac association hslot
      rw [hlife] at hslot
      by_cases heq : slot = seat
      · subst heq
        rw [Function.update_self] at hslot
        cases hslot
        exact nextNonzero_ne_zero _
      · rw [Function.update_of_ne heq] at hslot
        exact h slot mac association hslot

theorem RegistrySound.zero : RegistrySound PtpWifiPeers.zero where
  distinct := fun _ _ _ hs => by cases hs
  numbered := fun _ _ _ hlife => by cases hlife

theorem RegistrySound.leave {peers : PtpWifiPeers} (h : RegistrySound peers) (left : MacAddr)
    {slot : Fin ptpWifiPeersMax} {mac : MacAddr} {association : UInt32}
    (hlife : (ptpWifiPeersLeave peers left).lifetime slot = some (mac, association)) :
    association ≠ 0 := by
  unfold ptpWifiPeersLeave at hlife
  cases hfind : ptpWifiPeersFind peers left with
  | none =>
    rw [hfind] at hlife
    exact h.numbered slot mac association hlife
  | some found =>
    rw [hfind] at hlife
    dsimp only at hlife
    rw [lifetime_vacated, Option.ite_none_right_eq_some] at hlife
    exact h.numbered slot mac association hlife.2

theorem RegistrySound.reconcile {peers : PtpWifiPeers} (h : RegistrySound peers)
    (radioBoot radioGeneration : UInt32) (macs : List MacAddr) : ∀ slot mac association,
      (ptpdWifiAssociationReconcile peers radioBoot radioGeneration macs).1.lifetime slot =
        some (mac, association) → association ≠ 0 := by
  have hkept : ∀ slot mac association,
      (reconcileKeep peers macs).lifetime slot = some (mac, association) → association ≠ 0 := by
    intro slot mac association hlife
    rw [reconcileKeep_lifetime, Option.ite_none_right_eq_some] at hlife
    exact h.numbered slot mac association hlife.2
  have hjoined := joinAll_numbered hkept macs
  unfold ptpdWifiAssociationReconcile ptpWifiPeersReconcile
  cases reconcileAnswer peers radioBoot radioGeneration macs with
  | some answer =>
    dsimp only
    split <;> exact h.numbered
  | none => exact hjoined

theorem hostedStep_sound (cfg : Config) {peers : PtpWifiPeers} (h : RegistrySound peers)
    (op : PeersOp) : RegistrySound (hostedStep cfg peers op).1 where
  distinct := hostedStep_distinct cfg h.distinct op
  numbered := by
    cases op with
    | join mac => exact joinAll_numbered h.numbered [mac]
    | leave left => exact fun _ _ _ hlife => h.leave left hlife
    | clear => exact fun _ _ _ hlife => by cases hlife
    | reconcile radioBoot radioGeneration macs => exact h.reconcile radioBoot radioGeneration macs
    | resetForProfile => exact h.numbered
    | unreported => exact h.numbered
    | capableBegin enabled begun nowUs =>
      have hsame : (peersCapableBegin cfg enabled peers begun nowUs).1.lifetime = peers.lifetime :=
        lifetime_update rfl rfl rfl
      exact hsame ▸ h.numbered
    | work worker association work =>
      have hsame := (workStep_keeps cfg peers worker association work).1
      exact hsame ▸ h.numbered

theorem deviceAfter_sound (cfg : Config) {physicalCount : Nat}
    (events : List (Fin physicalCount × PeersOp)) (port : Fin physicalCount) :
    RegistrySound (deviceAfter cfg events port) := by
  refine run_induction
    (P := fun _ (device : Fin physicalCount → PtpWifiPeers) => ∀ p, RegistrySound (device p))
    (fun _ => .zero) ?_ events port
  intro _ device event ih p
  show RegistrySound (Function.update device event.1 (hostedStep cfg (device event.1) event.2).1 p)
  by_cases hp : p = event.1
  · subst hp
    rw [Function.update_self]
    exact hostedStep_sound cfg (ih event.1) event.2
  · rw [Function.update_of_ne hp]
    exact ih p

/-! ## Numbers of stations -/

/-- The snapshot of a registry lists this station under this number. -/
def HasNumber (peers : PtpWifiPeers) (physicalPort physicalCount : Nat) (mac : MacAddr)
    (number : Nat) : Prop :=
  ∃ snapshot, ptpWifiPeersSnapshot peers physicalPort physicalCount = some snapshot ∧
    ∃ entry ∈ snapshot.entries, entry.mac = mac ∧ entry.portNumber = number

/-- What a snapshot lists: the slots in use, each with its station and its number. -/
theorem ptpWifiPeersSnapshot_entries {peers : PtpWifiPeers} {physicalPort physicalCount : Nat}
    {snapshot : PtpWifiAssociationSnapshot}
    (h : ptpWifiPeersSnapshot peers physicalPort physicalCount = some snapshot) :
    snapshot.entries.map (fun entry => (entry.mac, entry.portNumber)) =
      peers.associatedSlots.map fun slot =>
        ((peers.entries slot).mac, ptpWifiAssociationPort physicalPort physicalCount slot) := by
  unfold ptpWifiPeersSnapshot at h
  split at h
  · cases h
  · split at h
    · cases h
    · dsimp only at h
      rw [← Option.some.inj h, List.map_map]
      rfl

theorem mem_ptpWifiPeersSnapshot {peers : PtpWifiPeers} {physicalPort physicalCount : Nat}
    {snapshot : PtpWifiAssociationSnapshot}
    (h : ptpWifiPeersSnapshot peers physicalPort physicalCount = some snapshot) (mac : MacAddr)
    (number : Nat) :
    (∃ entry ∈ snapshot.entries, entry.mac = mac ∧ entry.portNumber = number) ↔
      ∃ slot : Fin ptpWifiPeersMax, peers.stationAt slot = some mac ∧
        ptpWifiAssociationPort physicalPort physicalCount slot = number := by
  have hlisted : (∃ entry ∈ snapshot.entries, entry.mac = mac ∧ entry.portNumber = number) ↔
      (mac, number) ∈ snapshot.entries.map fun entry => (entry.mac, entry.portNumber) := by
    simp only [List.mem_map, Prod.mk.injEq]
  rw [hlisted, ptpWifiPeersSnapshot_entries h, List.mem_map]
  constructor
  · rintro ⟨slot, hslot, hpair⟩
    obtain ⟨hmac, hnumber⟩ := Prod.mk.inj hpair
    exact ⟨slot, stationAt_eq_some.mpr ⟨hslot, hmac⟩, hnumber⟩
  · rintro ⟨slot, hslot, hnumber⟩
    obtain ⟨hused, hmac⟩ := stationAt_eq_some.mp hslot
    exact ⟨slot, hused, by rw [hmac, hnumber]⟩

/-- A station stays in its slot until an operation on its port puts it out. -/
theorem deviceAfter_kept (cfg : Config) {physicalCount : Nat}
    (before after : List (Fin physicalCount × PeersOp)) {port : Fin physicalCount}
    {slot : Fin ptpWifiPeersMax} {mac : MacAddr}
    (hslot : (deviceAfter cfg before port).stationAt slot = some mac) :
    (deviceAfter cfg (before ++ after) port).stationAt slot = some mac ∨
      ∃ middle op rest, after = middle ++ (port, op) :: rest ∧ Dismisses mac op ∧
        ¬ Table.Holds (deviceAfter cfg (before ++ middle ++ [(port, op)]) port).stationAt mac := by
  induction after using List.reverseRecOn with
  | nil => exact .inl (by rw [List.append_nil]; exact hslot)
  | append_singleton after event ih =>
    rcases ih with hstays | ⟨middle, op, rest, hafter, hop, hgone⟩
    · have hsound := deviceAfter_sound cfg (before ++ after) port
      have hlast : deviceAfter cfg (before ++ after ++ [event]) =
          Function.update (deviceAfter cfg (before ++ after)) event.1
            (hostedStep cfg (deviceAfter cfg (before ++ after) event.1) event.2).1 :=
        run_snoc _ (before ++ after) event
      obtain ⟨acted, op⟩ := event
      dsimp only at hlast
      by_cases hport : port = acted
      · subst hport
        rcases hostedStep_fate cfg hsound.distinct op hstays with hkept | ⟨hop, hgone⟩
        · left
          rw [← List.append_assoc, hlast, Function.update_self]
          exact hkept
        · refine .inr ⟨after, op, [], rfl, hop, ?_⟩
          rw [hlast, Function.update_self]
          exact hgone
      · left
        rw [← List.append_assoc, hlast, Function.update_of_ne hport]
        exact hstays
    · refine .inr ⟨middle, op, rest ++ [event], ?_, hop, hgone⟩
      rw [hafter, List.append_assoc, List.cons_append]

/-- What the numbers of a device promise after a run. -/
structure LogicalPorts (cfg : Config) {physicalCount : Nat}
    (events : List (Fin physicalCount × PeersOp)) : Prop where
  available : ∀ port : Fin physicalCount, (ptpWifiPeersSnapshot (deviceAfter cfg events port)
    (port + 1) physicalCount).isSome = true
  distinct : ∀ (port : Fin physicalCount) snapshot,
    ptpWifiPeersSnapshot (deviceAfter cfg events port) (port + 1) physicalCount = some snapshot →
      (snapshot.entries.map (·.portNumber)).Nodup ∧
        ∀ entry ∈ snapshot.entries, entry.portNumber ≠ 0
  /-- Neither the number of another port nor of a station there. -/
  apart : ∀ (port port' : Fin physicalCount) mac number, port ≠ port' →
    HasNumber (deviceAfter cfg events port) (port + 1) physicalCount mac number →
      number ≠ port' + 1 ∧
        ∀ mac', ¬ HasNumber (deviceAfter cfg events port') (port' + 1) physicalCount mac' number
  one : ∀ (port : Fin physicalCount) mac number number',
    HasNumber (deviceAfter cfg events port) (port + 1) physicalCount mac number →
    HasNumber (deviceAfter cfg events port) (port + 1) physicalCount mac number' →
      number = number'
  /-- From any time of the run on: the number stays until the station is put out. -/
  kept : ∀ before after, before ++ after = events →
    ∀ (port : Fin physicalCount) mac number,
      HasNumber (deviceAfter cfg before port) (port + 1) physicalCount mac number →
        HasNumber (deviceAfter cfg events port) (port + 1) physicalCount mac number ∨
          ∃ middle op rest, after = middle ++ (port, op) :: rest ∧ Dismisses mac op ∧
            ∀ number', ¬ HasNumber (deviceAfter cfg (before ++ middle ++ [(port, op)]) port)
              (port + 1) physicalCount mac number'

/-- A port of the device by its number. -/
theorem mem_logicalPlaces {physicalCount : Nat} (port : Fin physicalCount)
    (slot : Fin ptpWifiPeersMax) : (port.val + 1, slot.val) ∈ logicalPlaces physicalCount :=
  ⟨Nat.succ_pos _, port.isLt, slot.isLt⟩

section Device

variable (cfg : Config) {physicalCount : Nat} (hcount : physicalCount ≤ 4095)
  (events : List (Fin physicalCount × PeersOp)) (port : Fin physicalCount)
include hcount

theorem ptpWifiAssociationPort_ne_zero (slot : Fin ptpWifiPeersMax) :
    ptpWifiAssociationPort (port + 1) physicalCount slot ≠ 0 :=
  Nat.ne_of_gt (ptpWifiAssociationPort_mapsTo hcount (mem_logicalPlaces port slot)).1

theorem deviceAfter_snapshot_isSome :
    (ptpWifiPeersSnapshot (deviceAfter cfg events port) (port + 1) physicalCount).isSome = true :=
  ptpWifiPeersSnapshot_isSome (deviceAfter_sound cfg events port).numbered
    (ptpWifiAssociationPort_ne_zero hcount port 0)

/-- A station has a number where it has a slot. -/
theorem hasNumber_iff (mac : MacAddr) (number : Nat) :
    HasNumber (deviceAfter cfg events port) (port + 1) physicalCount mac number ↔
      ∃ slot, (deviceAfter cfg events port).stationAt slot = some mac ∧
        ptpWifiAssociationPort (port + 1) physicalCount slot = number := by
  obtain ⟨snapshot, hsnapshot⟩ :=
    Option.isSome_iff_exists.mp (deviceAfter_snapshot_isSome cfg hcount events port)
  rw [← mem_ptpWifiPeersSnapshot hsnapshot]
  constructor
  · rintro ⟨taken, htaken, hentry⟩
    rw [Option.some.inj (hsnapshot.symm.trans htaken)]
    exact hentry
  · exact fun hentry => ⟨snapshot, hsnapshot, hentry⟩

omit hcount in
/-- The numbers of a snapshot are those of the slots in use. -/
theorem ptpWifiPeersSnapshot_ports {peers : PtpWifiPeers} {physicalPort : Nat}
    {snapshot : PtpWifiAssociationSnapshot}
    (h : ptpWifiPeersSnapshot peers physicalPort physicalCount = some snapshot) :
    snapshot.entries.map (·.portNumber) =
      peers.associatedSlots.map fun slot : Fin ptpWifiPeersMax =>
        ptpWifiAssociationPort physicalPort physicalCount slot := by
  have hentries := congrArg (List.map Prod.snd) (ptpWifiPeersSnapshot_entries h)
  rw [List.map_map, List.map_map] at hentries
  exact hentries

/-- No two entries of a snapshot share a number, and none has zero. -/
theorem ptpWifiPeersSnapshot_distinct {peers : PtpWifiPeers}
    {snapshot : PtpWifiAssociationSnapshot}
    (h : ptpWifiPeersSnapshot peers (port + 1) physicalCount = some snapshot) :
    (snapshot.entries.map (·.portNumber)).Nodup ∧
      ∀ entry ∈ snapshot.entries, entry.portNumber ≠ 0 := by
  have hports := ptpWifiPeersSnapshot_ports h
  refine ⟨?_, ?_⟩
  · rw [hports]
    refine List.Nodup.map_on ?_ ((List.nodup_finRange _).filter _)
    intro slot _ slot' _ hsame
    have hplace := ptpWifiAssociationPort_injOn hcount (mem_logicalPlaces port slot)
      (mem_logicalPlaces port slot') hsame
    exact Fin.ext (Prod.mk.inj hplace).2
  · intro entry hentry
    have hmem := List.mem_map_of_mem (f := (·.portNumber)) hentry
    rw [hports, List.mem_map] at hmem
    obtain ⟨slot, -, hslot⟩ := hmem
    exact hslot ▸ ptpWifiAssociationPort_ne_zero hcount port slot

/-- No slot of another port has the number of one of this port. -/
theorem ptpWifiAssociationPort_apart {port' : Fin physicalCount} (hne : port ≠ port')
    (slot slot' : Fin ptpWifiPeersMax) :
    ptpWifiAssociationPort (port + 1) physicalCount slot ≠
      ptpWifiAssociationPort (port' + 1) physicalCount slot' := by
  intro hsame
  have hplace := ptpWifiAssociationPort_injOn hcount (mem_logicalPlaces port slot)
    (mem_logicalPlaces port' slot') hsame
  exact hne (Fin.ext (Nat.succ.inj (Prod.mk.inj hplace).1))

theorem hasNumber_apart {port' : Fin physicalCount} (hne : port ≠ port') {mac : MacAddr}
    {number : Nat}
    (hhas : HasNumber (deviceAfter cfg events port) (port + 1) physicalCount mac number) :
    number ≠ port' + 1 ∧
      ∀ mac', ¬ HasNumber (deviceAfter cfg events port') (port' + 1) physicalCount mac' number := by
  obtain ⟨slot, -, rfl⟩ := (hasNumber_iff cfg hcount events port mac number).mp hhas
  refine ⟨?_, ?_⟩
  · -- The number of the other port is that of its slot zero.
    intro heq
    apply ptpWifiAssociationPort_apart hcount port hne slot 0
    rw [heq]
    exact (ptpWifiAssociationPort_slot_zero hcount (Nat.succ_pos _) port'.isLt).symm
  · intro mac' hhas'
    obtain ⟨slot', -, hslot'⟩ := (hasNumber_iff cfg hcount events port' mac' _).mp hhas'
    exact ptpWifiAssociationPort_apart hcount port hne slot slot' hslot'.symm

theorem hasNumber_one {mac : MacAddr} {number number' : Nat}
    (hhas : HasNumber (deviceAfter cfg events port) (port + 1) physicalCount mac number)
    (hhas' : HasNumber (deviceAfter cfg events port) (port + 1) physicalCount mac number') :
    number = number' := by
  obtain ⟨slot, hstation, hslot⟩ := (hasNumber_iff cfg hcount events port mac number).mp hhas
  obtain ⟨slot', hstation', hslot'⟩ := (hasNumber_iff cfg hcount events port mac number').mp hhas'
  have hsame := (deviceAfter_sound cfg events port).distinct slot slot' mac hstation hstation'
  rw [← hslot, ← hslot', hsame]

theorem hasNumber_kept (before after : List (Fin physicalCount × PeersOp)) {mac : MacAddr}
    {number : Nat}
    (hhas : HasNumber (deviceAfter cfg before port) (port + 1) physicalCount mac number) :
    HasNumber (deviceAfter cfg (before ++ after) port) (port + 1) physicalCount mac number ∨
      ∃ middle op rest, after = middle ++ (port, op) :: rest ∧ Dismisses mac op ∧
        ∀ number', ¬ HasNumber (deviceAfter cfg (before ++ middle ++ [(port, op)]) port)
          (port + 1) physicalCount mac number' := by
  obtain ⟨slot, hstation, hslot⟩ := (hasNumber_iff cfg hcount before port mac number).mp hhas
  rcases deviceAfter_kept cfg before after hstation with
    hstays | ⟨middle, op, rest, hafter, hop, hgone⟩
  · left
    exact (hasNumber_iff cfg hcount _ port mac number).mpr ⟨slot, hstays, hslot⟩
  · refine .inr ⟨middle, op, rest, hafter, hop, fun number' hhas' => ?_⟩
    obtain ⟨slot', hstation', -⟩ := (hasNumber_iff cfg hcount _ port mac number').mp hhas'
    exact hgone ⟨slot', hstation'⟩

theorem logicalPorts : LogicalPorts cfg events where
  available := deviceAfter_snapshot_isSome cfg hcount events
  distinct := fun port _ hsnapshot => ptpWifiPeersSnapshot_distinct hcount port hsnapshot
  apart := fun port _ _ _ hne hhas => hasNumber_apart cfg hcount events port hne hhas
  one := fun port _ _ _ hhas hhas' => hasNumber_one cfg hcount events port hhas hhas'
  kept := by
    rintro before after rfl port mac number hhas
    exact hasNumber_kept cfg hcount port before after hhas

end Device

/-- **Logical port numbers never collide.** -/
theorem ptpWifiAssociationPort_unique (cfg : Config) {physicalCount : Nat}
    (hcount : physicalCount ≤ 4095) :
    Set.BijOn (fun place => ptpWifiAssociationPort place.1 physicalCount place.2)
        (logicalPlaces physicalCount) (Set.Icc 1 (ptpWifiPeersMax * physicalCount)) ∧
      (∀ physicalPort slot, ptpWifiAssociationPort physicalPort physicalCount slot < 2 ^ 16) ∧
      (∀ physicalPort, 1 ≤ physicalPort → physicalPort ≤ physicalCount →
        ptpWifiAssociationPort physicalPort physicalCount 0 = physicalPort) ∧
      ∀ events : List (Fin physicalCount × PeersOp), LogicalPorts cfg events :=
  ⟨⟨ptpWifiAssociationPort_mapsTo hcount, ptpWifiAssociationPort_injOn hcount,
      ptpWifiAssociationPort_surjOn hcount⟩,
    fun physicalPort slot => ptpWifiAssociationPort_lt physicalPort physicalCount slot,
    fun _ hpos hle => ptpWifiAssociationPort_slot_zero hcount hpos hle,
    logicalPorts cfg hcount⟩

/-- Two access points: the second station of the first one has number 3, and keeps it when
    the first station leaves. -/
theorem ptpWifiAssociationPort_unique_second :
    let other : MacAddr := #v[2, 0, 0, 0, 0, 2]
    let events : List (Fin 2 × PeersOp) :=
      [(0, .join Sample.station), (0, .join other), (1, .join other), (0, .leave Sample.station)]
    2 ≤ 4095 ∧ HasNumber (deviceAfter Sample.config events 0) 1 2 other 3 ∧
      LogicalPorts Sample.config events :=
  ⟨by decide, ⟨_, rfl, _, List.mem_singleton_self _, rfl, rfl⟩,
    (ptpWifiAssociationPort_unique Sample.config (by decide)).2.2.2 _⟩

end EspPtp
