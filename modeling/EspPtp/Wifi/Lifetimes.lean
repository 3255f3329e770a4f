import Mathlib.Algebra.GroupWithZero.Nat
import EspPtp.Lib.History
import EspPtp.Lib.Registry
import EspPtp.Wifi.Peers

/-!
# Association lifetimes

The registry of an access point as a machine, and what it is for: it is a `Registry` of the
library — stations in slots, under numbers of one counter — as long as the 32-bit counter
has not come round. Joins are grants, leaves and clears are retirements, a reconciliation is
one retirement and a grant for each station of the report, and all other functions do not
show at this level. What the numbers promise is then the library's `Reaches.sameLifetime`.
-/

namespace EspPtp

open Lib

/-! ## The machine -/

/-- Work that carries the address and the association number of a station. -/
inductive AssociationWork where
  | capable (message : PtpCapableMessage) (nowUs : Int)
  | interval (message : PtpCapableMessage)
  | syncInterval (message : PtpIntervalMessage)
  | announceInterval (message : PtpIntervalMessage) (initial : Int)
  | sent (token : UInt32) (accepted : Bool) (nowUs : Int)
  | announceBegin (portOpen : Bool) (revision informationRevision : UInt32) (initial : Int)
    (nowUs : Int)
  | announceFinish (portOpen : Bool) (token : UInt32) (accepted : Bool) (nowUs : Int)

/-- The work done on the registry, and whether it was reported done. -/
def workStep (cfg : Config) (peers : PtpWifiPeers) (mac : MacAddr) (association : UInt32) :
    AssociationWork → PtpWifiPeers × Bool
  | .capable message nowUs => ptpWifiPeersCapable peers mac association message nowUs
  | .interval message => ptpWifiPeersInterval peers mac association message
  | .syncInterval message => ptpWifiPeersSyncInterval peers mac association message
  | .announceInterval message initial =>
    ptpWifiPeersAnnounceInterval peers mac association message initial
  | .sent token accepted nowUs => ptpWifiPeersSent peers mac association token accepted nowUs
  | .announceBegin portOpen revision informationRevision initial nowUs =>
    let answer := ptpdWifiAnnounceBegin cfg portOpen peers mac association revision
      informationRevision initial nowUs
    (answer.1, answer.2.isSome)
  | .announceFinish portOpen token accepted nowUs =>
    ptpdWifiAnnounceFinish cfg portOpen peers mac association token accepted nowUs

inductive PeersOp where
  | join (mac : MacAddr)
  | leave (mac : MacAddr)
  | clear
  | reconcile (radioBoot radioGeneration : UInt32) (macs : List MacAddr)
  | resetForProfile
  | unreported
  | capableBegin (enabled : Bool) (slot : Fin ptpWifiPeersMax) (nowUs : Int)
  | work (mac : MacAddr) (association : UInt32) (work : AssociationWork)

/-- What an operation did to the counter: the association numbers it gave, and how often it
    advanced. -/
structure PeersOutcome where
  granted : List UInt32
  advances : Nat

/-- The operations that give no number. -/
def PeersOutcome.quiet (advances : Nat) : PeersOutcome := ⟨[], advances⟩

def peersStep (cfg : Config) (peers : PtpWifiPeers) : PeersOp → PtpWifiPeers × PeersOutcome
  | .join mac =>
    let joined := joinAll peers [mac]
    (joined.1, ⟨joined.2, joined.2.length⟩)
  | .leave mac =>
    (ptpWifiPeersLeave peers mac, .quiet (if (ptpWifiPeersFind peers mac).isSome then 1 else 0))
  | .clear => (ptpWifiPeersClear peers, .quiet 1)
  | .reconcile radioBoot radioGeneration macs =>
    ((ptpWifiPeersReconcile peers radioBoot radioGeneration macs).1,
      match reconcileAnswer peers radioBoot radioGeneration macs with
      | some _ => .quiet 0
      | none =>
        let granted := (joinAll (reconcileKeep peers macs) macs).2
        ⟨granted, 1 + granted.length⟩)
  | .resetForProfile => (resetPeersForProfile peers, .quiet 0)
  | .unreported => ({ peers with unreported := true }, .quiet 0)
  | .capableBegin enabled slot nowUs =>
    ((peersCapableBegin cfg enabled peers slot nowUs).1, .quiet 0)
  | .work mac association work => ((workStep cfg peers mac association work).1, .quiet 0)

/-- The increments of the generation in a run. -/
def advances (cfg : Config) (peers : PtpWifiPeers) (ops : List PeersOp) : Nat :=
  ((trace (peersStep cfg) peers ops).map (·.2.advances)).sum

/-- The association numbers given in a run, in order. -/
def grants (cfg : Config) (peers : PtpWifiPeers) (ops : List PeersOp) : List UInt32 :=
  (trace (peersStep cfg) peers ops).flatMap (·.2.granted)

/-! ## Lifetimes -/

/-- The station of a slot and its association number. -/
def PtpWifiPeers.lifetime (peers : PtpWifiPeers) (slot : Fin ptpWifiPeersMax) :
    Option (MacAddr × UInt32) :=
  if (peers.entries slot).associated then
    some ((peers.entries slot).mac, (peers.entries slot).association)
  else none

/-- The registry the peers stand for. -/
def PtpWifiPeers.registry (peers : PtpWifiPeers) : Registry (Fin ptpWifiPeersMax) MacAddr where
  table slot := (peers.lifetime slot).map fun (mac, association) => (mac, association.toNat)
  gen := peers.generation.toNat

theorem registry_table {peers : PtpWifiPeers} {slot : Fin ptpWifiPeersMax} {mac : MacAddr}
    {association : UInt32} (h : peers.lifetime slot = some (mac, association)) :
    peers.registry.table slot = some (mac, association.toNat) := by
  simp [PtpWifiPeers.registry, h]

theorem registry_table_iff {peers : PtpWifiPeers} {slot : Fin ptpWifiPeersMax} {mac : MacAddr}
    {association : UInt32} :
    peers.registry.table slot = some (mac, association.toNat) ↔
      peers.lifetime slot = some (mac, association) := by
  refine ⟨fun h => ?_, registry_table⟩
  simp only [PtpWifiPeers.registry, Option.map_eq_some_iff, Prod.mk.injEq] at h
  obtain ⟨⟨m, a⟩, hlife, hm, ha⟩ := h
  rw [hlife, ← hm, ← UInt32.toNat_inj.mp ha]

/-- Nothing at this level has changed. -/
theorem registry_congr {peers peers' : PtpWifiPeers}
    (hlife : peers'.lifetime = peers.lifetime) (hgen : peers'.generation = peers.generation) :
    peers'.registry = peers.registry := by
  simp only [PtpWifiPeers.registry, hlife, hgen]

/-! ## Finding a station -/

theorem ptpWifiPeersFind_some {peers : PtpWifiPeers} {mac : MacAddr}
    {slot : Fin ptpWifiPeersMax} (h : ptpWifiPeersFind peers mac = some slot) :
    peers.lifetime slot = some (mac, (peers.entries slot).association) := by
  have hfound := List.find?_some h
  simp only [Bool.and_eq_true, decide_eq_true_eq] at hfound
  simp [PtpWifiPeers.lifetime, hfound.1, hfound.2]

theorem ptpWifiPeersFind_none {peers : PtpWifiPeers} {mac : MacAddr}
    (h : ptpWifiPeersFind peers mac = none) (slot : Fin ptpWifiPeersMax) (association : UInt32) :
    peers.lifetime slot ≠ some (mac, association) := by
  have hno := List.find?_eq_none.mp h slot (List.mem_finRange slot)
  unfold PtpWifiPeers.lifetime
  intro hlife
  split at hlife
  · rename_i hassoc
    simp only [Option.some.injEq, Prod.mk.injEq] at hlife
    simp [hassoc, hlife.1] at hno
  · cases hlife

/-! ## Work for one association -/

/-- What an action on a slot leaves alone. -/
def KeepsStation {α : Type} (act : PtpWifiPeer → PtpWifiPeer × α) : Prop :=
  ∀ peer, (act peer).1.associated = peer.associated ∧ (act peer).1.mac = peer.mac ∧
    (act peer).1.association = peer.association

theorem lifetime_update {peers : PtpWifiPeers} {slot : Fin ptpWifiPeersMax}
    {peer : PtpWifiPeer} (hassoc : peer.associated = (peers.entries slot).associated)
    (hmac : peer.mac = (peers.entries slot).mac)
    (hnumber : peer.association = (peers.entries slot).association) :
    ({ peers with entries := Function.update peers.entries slot peer } : PtpWifiPeers).lifetime =
      peers.lifetime := by
  funext t
  by_cases ht : t = slot
  · subst ht
    simp [PtpWifiPeers.lifetime, hassoc, hmac, hnumber]
  · simp [PtpWifiPeers.lifetime, Function.update_of_ne ht]

theorem onAssociation_keeps {α : Type} {act : PtpWifiPeer → PtpWifiPeer × α}
    (hact : KeepsStation act) (peers : PtpWifiPeers) (mac : MacAddr) (association : UInt32)
    (failure : α) :
    (onAssociation peers mac association failure act).1.lifetime = peers.lifetime ∧
      (onAssociation peers mac association failure act).1.generation = peers.generation := by
  unfold onAssociation
  split
  · exact ⟨rfl, rfl⟩
  · split
    · exact ⟨rfl, rfl⟩
    · rename_i slot _ _
      obtain ⟨hassoc, hmac, hnumber⟩ := hact (peers.entries slot)
      exact ⟨lifetime_update hassoc hmac hnumber, rfl⟩

/-- Work for an association touches no other one. -/
theorem onAssociation_entries {α : Type} (act : PtpWifiPeer → PtpWifiPeer × α)
    (peers : PtpWifiPeers) (mac : MacAddr) (association : UInt32) (failure : α)
    {slot : Fin ptpWifiPeersMax} (h : peers.lifetime slot ≠ some (mac, association)) :
    (onAssociation peers mac association failure act).1.entries slot = peers.entries slot := by
  unfold onAssociation
  split
  · rfl
  · split
    · rfl
    · rename_i found hfind hnumber
      have hlife := ptpWifiPeersFind_some hfind
      apply Function.update_of_ne
      rintro rfl
      rw [not_not.mp hnumber] at hlife
      exact h hlife

/-- **Work for an association that is not there changes nothing and fails.** -/
theorem onAssociation_ended {α : Type} (act : PtpWifiPeer → PtpWifiPeer × α)
    {peers : PtpWifiPeers} {mac : MacAddr} {association : UInt32} (failure : α)
    (h : ∀ slot, peers.lifetime slot ≠ some (mac, association)) :
    onAssociation peers mac association failure act = (peers, failure) := by
  unfold onAssociation
  split
  · rfl
  · rename_i slot hfind
    have hlife := ptpWifiPeersFind_some hfind
    rw [if_pos]
    intro heq
    rw [heq] at hlife
    exact h slot hlife

theorem workStep_keeps (cfg : Config) (peers : PtpWifiPeers) (mac : MacAddr)
    (association : UInt32) (work : AssociationWork) :
    (workStep cfg peers mac association work).1.lifetime = peers.lifetime ∧
      (workStep cfg peers mac association work).1.generation = peers.generation := by
  cases work with
  | capable message nowUs =>
    refine onAssociation_keeps ?_ peers mac association false
    intro peer
    dsimp only
    split_ifs <;> exact ⟨rfl, rfl, rfl⟩
  | interval message =>
    refine onAssociation_keeps ?_ peers mac association false
    intro peer
    dsimp only
    split_ifs <;> exact ⟨rfl, rfl, rfl⟩
  | syncInterval message =>
    refine onAssociation_keeps ?_ peers mac association false
    intro peer
    dsimp only
    split_ifs <;> exact ⟨rfl, rfl, rfl⟩
  | announceInterval message initial =>
    refine onAssociation_keeps ?_ peers mac association false
    intro peer
    dsimp only
    split_ifs <;> exact ⟨rfl, rfl, rfl⟩
  | sent token accepted nowUs =>
    exact onAssociation_keeps (fun _ => ⟨rfl, rfl, rfl⟩) peers mac association false
  | announceBegin portOpen revision informationRevision initial nowUs =>
    simp only [workStep, ptpdWifiAnnounceBegin]
    split
    · exact ⟨rfl, rfl⟩
    · exact onAssociation_keeps (fun _ => ⟨rfl, rfl, rfl⟩) peers mac association none
  | announceFinish portOpen token accepted nowUs =>
    simp only [workStep, ptpdWifiAnnounceFinish]
    split
    · exact ⟨rfl, rfl⟩
    · exact onAssociation_keeps (fun _ => ⟨rfl, rfl, rfl⟩) peers mac association false

theorem workStep_entries (cfg : Config) {peers : PtpWifiPeers} {mac : MacAddr}
    {association : UInt32} (work : AssociationWork) {slot : Fin ptpWifiPeersMax}
    (h : peers.lifetime slot ≠ some (mac, association)) :
    (workStep cfg peers mac association work).1.entries slot = peers.entries slot := by
  cases work with
  | announceBegin portOpen revision informationRevision initial nowUs =>
    simp only [workStep, ptpdWifiAnnounceBegin]
    split
    · rfl
    · exact onAssociation_entries _ peers mac association none h
  | announceFinish portOpen token accepted nowUs =>
    simp only [workStep, ptpdWifiAnnounceFinish]
    split
    · rfl
    · exact onAssociation_entries _ peers mac association false h
  | _ => exact onAssociation_entries _ peers mac association false h

theorem workStep_ended (cfg : Config) {peers : PtpWifiPeers} {mac : MacAddr}
    {association : UInt32} (work : AssociationWork)
    (h : ∀ slot, peers.lifetime slot ≠ some (mac, association)) :
    workStep cfg peers mac association work = (peers, false) := by
  cases work with
  | announceBegin portOpen revision informationRevision initial nowUs =>
    simp only [workStep, ptpdWifiAnnounceBegin]
    split
    · rfl
    · rw [onAssociation_ended _ none h]
      rfl
  | announceFinish portOpen token accepted nowUs =>
    simp only [workStep, ptpdWifiAnnounceFinish]
    split
    · rfl
    · exact onAssociation_ended _ false h
  | _ =>
    simp only [workStep, ptpWifiPeersCapable, ptpWifiPeersInterval, ptpWifiPeersSyncInterval,
      ptpWifiPeersAnnounceInterval, ptpWifiPeersSent]
    exact onAssociation_ended _ false h

/-! ## Joining and leaving -/

/-- **What a join can do**: nothing, or start a lifetime under the next number in a slot
    that is free or already the station's. -/
theorem ptpWifiPeersJoin_cases (peers : PtpWifiPeers) (mac : MacAddr) :
    ((ptpWifiPeersJoin peers mac).2 = none ∧ (ptpWifiPeersJoin peers mac).1 = peers) ∨
    ∃ slot, (ptpWifiPeersJoin peers mac).2 = some slot ∧ stationAddress mac = true ∧
      (ptpWifiPeersJoin peers mac).1.generation = nextNonzero peers.generation ∧
      (ptpWifiPeersJoin peers mac).1.lifetime =
        Function.update peers.lifetime slot (some (mac, nextNonzero peers.generation)) ∧
      (peers.registry.WellNumbered →
        ∀ t a, peers.registry.table t = some (mac, a) → t = slot) := by
  unfold ptpWifiPeersJoin
  split
  · exact Or.inl ⟨rfl, rfl⟩
  rename_i haddr
  dsimp only
  split
  · exact Or.inl ⟨rfl, rfl⟩
  rename_i slot hslot
  refine Or.inr ⟨slot, rfl, by simpa using haddr, rfl, ?_, ?_⟩
  · funext t
    by_cases ht : t = slot
    · subst ht
      simp [PtpWifiPeers.lifetime, ptpWifiPeersAdvance]
    · simp [PtpWifiPeers.lifetime, ptpWifiPeersAdvance, Function.update_of_ne ht]
  · intro hwell t a ht
    split at hslot
    · rename_i found hfind
      cases hslot
      exact hwell.key_inj _ _ _ _ _ ht (registry_table (ptpWifiPeersFind_some hfind))
    · -- The station was in no slot at all.
      rename_i hfind
      simp only [PtpWifiPeers.registry, Option.map_eq_some_iff, Prod.mk.injEq] at ht
      obtain ⟨⟨m, number⟩, hlife, rfl, -⟩ := ht
      exact absurd hlife (ptpWifiPeersFind_none hfind t number)

theorem ptpWifiPeersJoin_reaches {peers : PtpWifiPeers} (hwell : peers.registry.WellNumbered)
    (mac : MacAddr) (hbound : peers.registry.gen + 1 < 2 ^ 32) :
    Registry.Reaches peers.registry (ptpWifiPeersJoin peers mac).1.registry := by
  rcases ptpWifiPeersJoin_cases peers mac with
    ⟨-, hsame⟩ | ⟨slot, -, -, hgen, hlife, hfree⟩
  · rw [hsame]
  · have hreg : (ptpWifiPeersJoin peers mac).1.registry =
        ⟨Function.update peers.registry.table slot (some (mac, peers.registry.gen + 1)),
          peers.registry.gen + 1⟩ := by
      simp only [PtpWifiPeers.registry, hlife, hgen]
      congr 1
      · funext t
        by_cases ht : t = slot
        · subst ht
          simp [nextNonzero_toNat hbound]
        · simp [Function.update_of_ne ht]
      · exact nextNonzero_toNat hbound
    rw [hreg]
    exact Relation.ReflTransGen.single (.grant slot mac (hfree hwell))

/-- Emptying slots and advancing the counter is a retirement. -/
theorem retire_reaches {peers peers' : PtpWifiPeers}
    (keep : Fin ptpWifiPeersMax → Bool)
    (hlife : ∀ slot, peers'.lifetime slot = if keep slot then peers.lifetime slot else none)
    (hgen : peers'.generation = nextNonzero peers.generation)
    (hbound : peers.registry.gen + 1 < 2 ^ 32) :
    Registry.Reaches peers.registry peers'.registry := by
  have hreg : peers'.registry =
      ⟨fun slot => if keep slot then peers.registry.table slot else none,
        peers.registry.gen + 1⟩ := by
    simp only [PtpWifiPeers.registry, hgen]
    congr 1
    · funext slot
      rw [hlife]
      split <;> rfl
    · exact nextNonzero_toNat hbound
  rw [hreg]
  exact Relation.ReflTransGen.single (.retire keep)

/-! ## One step -/

/-- Numbers given in order, above one value of the counter and up to another. -/
structure Ascending (g g' : Nat) (numbers : List UInt32) : Prop where
  sorted : numbers.Pairwise fun a b => a.toNat < b.toNat
  above : ∀ a ∈ numbers, g < a.toNat
  below : ∀ a ∈ numbers, a.toNat ≤ g'

theorem Ascending.nil (g g' : Nat) : Ascending g g' [] := by
  constructor <;> simp

theorem Ascending.append {g g' g'' : Nat} {as bs : List UInt32} (ha : Ascending g g' as)
    (hb : Ascending g' g'' bs) (hle : g ≤ g') (hle' : g' ≤ g'') :
    Ascending g g'' (as ++ bs) where
  sorted := by
    rw [List.pairwise_append]
    refine ⟨ha.sorted, hb.sorted, fun a hma b hmb => ?_⟩
    exact Nat.lt_of_le_of_lt (ha.below a hma) (hb.above b hmb)
  above := by
    intro a hm
    rcases List.mem_append.mp hm with hm | hm
    · exact ha.above a hm
    · exact Nat.lt_of_le_of_lt hle (hb.above a hm)
  below := by
    intro a hm
    rcases List.mem_append.mp hm with hm | hm
    · exact Nat.le_trans (ha.below a hm) hle'
    · exact hb.below a hm

/-- What a change of the registry amounts to: the abstract registry reached, the counter
    moved by `n`, and the numbers given in between, each to an address a station can have. -/
structure Evolves (peers peers' : PtpWifiPeers) (granted : List UInt32) (n : Nat) : Prop where
  reaches : Registry.Reaches peers.registry peers'.registry
  gen : peers'.registry.gen = peers.registry.gen + n
  ascending : Ascending peers.registry.gen peers'.registry.gen granted
  given : ∀ slot mac association, peers'.lifetime slot = some (mac, association) →
    peers.lifetime slot = some (mac, association) ∨
      (stationAddress mac = true ∧ association ∈ granted)

theorem Evolves.refl {peers peers' : PtpWifiPeers} (h : peers'.registry = peers.registry) :
    Evolves peers peers' [] 0 where
  reaches := by rw [h]
  gen := by rw [h]; rfl
  ascending := Ascending.nil _ _
  given := by
    intro slot mac association hlife
    have htable := registry_table hlife
    rw [h] at htable
    exact Or.inl (registry_table_iff.mp htable)

theorem Evolves.trans {p p' p'' : PtpWifiPeers} {as bs : List UInt32} {m n : Nat}
    (h : Evolves p p' as m) (h' : Evolves p' p'' bs n) : Evolves p p'' (as ++ bs) (m + n) where
  reaches := h.reaches.trans h'.reaches
  gen := by rw [h'.gen, h.gen, Nat.add_assoc]
  ascending := h.ascending.append h'.ascending h.reaches.gen_le h'.reaches.gen_le
  given := by
    intro slot mac association hlife
    rcases h'.given _ _ _ hlife with hmid | ⟨haddr, hnew⟩
    · rcases h.given _ _ _ hmid with hold | ⟨haddr, hnew⟩
      · exact Or.inl hold
      · exact Or.inr ⟨haddr, List.mem_append_left _ hnew⟩
    · exact Or.inr ⟨haddr, List.mem_append_right _ hnew⟩

/-- A change that only empties slots, with one advance. -/
theorem Evolves.retired {peers peers' : PtpWifiPeers}
    (hreaches : Registry.Reaches peers.registry peers'.registry)
    (hgen : peers'.registry.gen = peers.registry.gen + 1)
    (hold : ∀ slot x, peers'.lifetime slot = some x → peers.lifetime slot = some x) :
    Evolves peers peers' [] 1 :=
  ⟨hreaches, hgen, Ascending.nil _ _, fun slot _ _ hlife => Or.inl (hold slot _ hlife)⟩

theorem joinAll_evolves {peers : PtpWifiPeers} (hwell : peers.registry.WellNumbered)
    (macs : List MacAddr)
    (hbound : peers.registry.gen + (joinAll peers macs).2.length < 2 ^ 32) :
    Evolves peers (joinAll peers macs).1 (joinAll peers macs).2
      (joinAll peers macs).2.length := by
  induction macs generalizing peers with
  | nil => exact Evolves.refl rfl
  | cons mac macs ih =>
    rcases ptpWifiPeersJoin_cases peers mac with
      ⟨hnone, hsame⟩ | ⟨slot, hslot, haddr, hgen, hlife, -⟩
    · simp only [joinAll, hnone, hsame] at hbound ⊢
      exact ih hwell hbound
    · have hfirst := ptpWifiPeersJoin_reaches hwell mac
      simp only [joinAll, hslot, List.length_cons] at hbound ⊢
      generalize ptpWifiPeersJoin peers mac = joined at hslot hgen hlife hfirst hbound ⊢
      have hle : peers.registry.gen + 1 < 2 ^ 32 := by omega
      have hnext : joined.1.registry.gen = peers.registry.gen + 1 :=
        (congrArg UInt32.toNat hgen).trans (nextNonzero_toNat hle)
      have hnumber : (joined.1.entries slot).association = nextNonzero peers.generation := by
        have hslotLife : joined.1.lifetime slot = some (mac, nextNonzero peers.generation) := by
          rw [hlife, Function.update_self]
        simp only [PtpWifiPeers.lifetime, Option.ite_none_right_eq_some, Option.some.injEq,
          Prod.mk.injEq] at hslotLife
        exact hslotLife.2.2
      have hjoin : Evolves peers joined.1 [(joined.1.entries slot).association] 1 := by
        refine ⟨hfirst hle, hnext, ?_, ?_⟩
        · have hval : ((joined.1.entries slot).association).toNat = peers.registry.gen + 1 := by
            rw [hnumber]
            exact nextNonzero_toNat hle
          constructor
          · simp
          · simp [hval]
          · simp [hval, hnext]
        · intro t m a ht
          rw [hlife] at ht
          by_cases heq : t = slot
          · subst heq
            simp only [Function.update_self, Option.some.injEq, Prod.mk.injEq] at ht
            rw [← ht.1, ← ht.2, hnumber]
            exact Or.inr ⟨haddr, by simp⟩
          · rw [Function.update_of_ne heq] at ht
            exact Or.inl ht
      have hrest := ih (hjoin.reaches.wellNumbered hwell) (by omega)
      have hall := hjoin.trans hrest
      rw [Nat.add_comm 1] at hall
      exact hall

/-- Slots that are emptied or kept hold nothing new. -/
theorem Evolves.emptied {peers peers' : PtpWifiPeers} (keep : Fin ptpWifiPeersMax → Bool)
    (hlife : ∀ slot, peers'.lifetime slot = if keep slot then peers.lifetime slot else none)
    (hgen : peers'.generation = nextNonzero peers.generation)
    (hbound : peers.registry.gen + 1 < 2 ^ 32) : Evolves peers peers' [] 1 := by
  refine .retired (retire_reaches keep hlife hgen hbound) ?_ ?_
  · exact (congrArg UInt32.toNat hgen).trans (nextNonzero_toNat hbound)
  · intro slot x hx
    rw [hlife, Option.ite_none_right_eq_some] at hx
    exact hx.2

/-- A slot is vacated. -/
theorem lifetime_vacated (peers : PtpWifiPeers) (slot t : Fin ptpWifiPeersMax) :
    (ptpWifiPeersAdvance
      { peers with entries := Function.update peers.entries slot default }).lifetime t =
        if decide (t ≠ slot) then peers.lifetime t else none := by
  by_cases ht : t = slot
  · subst ht
    simp [PtpWifiPeers.lifetime, ptpWifiPeersAdvance]
  · simp [PtpWifiPeers.lifetime, ptpWifiPeersAdvance, ht]

theorem ptpWifiPeersLeave_evolves {peers : PtpWifiPeers} (mac : MacAddr)
    (hbound : peers.registry.gen + (if (ptpWifiPeersFind peers mac).isSome then 1 else 0) <
      2 ^ 32) :
    Evolves peers (ptpWifiPeersLeave peers mac) []
      (if (ptpWifiPeersFind peers mac).isSome then 1 else 0) := by
  unfold ptpWifiPeersLeave
  split
  · rename_i hfind
    rw [hfind]
    exact Evolves.refl rfl
  · rename_i slot hfind
    rw [hfind] at hbound ⊢
    exact Evolves.emptied (fun t => decide (t ≠ slot)) (lifetime_vacated peers slot) rfl hbound

theorem reconcileKeep_lifetime (peers : PtpWifiPeers) (macs : List MacAddr)
    (slot : Fin ptpWifiPeersMax) :
    (reconcileKeep peers macs).lifetime slot =
      if decide ((peers.entries slot).mac ∈ macs) then peers.lifetime slot else none := by
  by_cases hassoc : (peers.entries slot).associated <;>
    by_cases hmem : (peers.entries slot).mac ∈ macs <;>
      simp [PtpWifiPeers.lifetime, reconcileKeep, ptpWifiPeersAdvance, hassoc, hmem]

theorem reconcileKeep_evolves {peers : PtpWifiPeers} (macs : List MacAddr)
    (hbound : peers.registry.gen + 1 < 2 ^ 32) :
    Evolves peers (reconcileKeep peers macs) [] 1 :=
  Evolves.emptied (fun slot => decide ((peers.entries slot).mac ∈ macs))
    (reconcileKeep_lifetime peers macs) rfl hbound

/-- **The specification of an operation.** -/
theorem peersStep_evolves (cfg : Config) {peers : PtpWifiPeers}
    (hwell : peers.registry.WellNumbered) (op : PeersOp)
    (hbound : peers.registry.gen + (peersStep cfg peers op).2.advances < 2 ^ 32) :
    Evolves peers (peersStep cfg peers op).1 (peersStep cfg peers op).2.granted
      (peersStep cfg peers op).2.advances := by
  cases op with
  | join mac => exact joinAll_evolves hwell [mac] hbound
  | leave mac => exact ptpWifiPeersLeave_evolves mac hbound
  | clear => exact Evolves.emptied (fun _ => false) (fun _ => rfl) rfl hbound
  | reconcile radioBoot radioGeneration macs =>
    simp only [peersStep, ptpWifiPeersReconcile] at hbound ⊢
    cases hanswer : reconcileAnswer peers radioBoot radioGeneration macs with
    | some answer => exact Evolves.refl rfl
    | none =>
      simp only [hanswer] at hbound
      have hkeep : Evolves peers (reconcileKeep peers macs) [] 1 :=
        reconcileKeep_evolves macs (by omega)
      have hjoin := joinAll_evolves (hkeep.reaches.wellNumbered hwell) macs
        (by rw [hkeep.gen]; omega)
      -- The radio's own numbers do not show at this level.
      have hreport := hkeep.trans hjoin
      rw [List.nil_append] at hreport
      exact ⟨hreport.reaches, hreport.gen, hreport.ascending, hreport.given⟩
  | resetForProfile => exact Evolves.refl (registry_congr rfl rfl)
  | unreported => exact Evolves.refl (registry_congr rfl rfl)
  | capableBegin enabled slot nowUs =>
    exact Evolves.refl (registry_congr (lifetime_update rfl rfl rfl) rfl)
  | work mac association work =>
    obtain ⟨hlife, hgen⟩ := workStep_keeps cfg peers mac association work
    exact Evolves.refl (registry_congr hlife hgen)

/-! ## Runs -/

theorem advances_append (cfg : Config) (peers : PtpWifiPeers) (as bs : List PeersOp) :
    advances cfg peers (as ++ bs) =
      advances cfg peers as + advances cfg (run (peersStep cfg) peers as) bs := by
  simp only [advances, trace_append, List.map_append, List.sum_append]

/-- The rule for runs of any machine whose steps evolve the registry. -/
theorem steps_evolve {ε ο : Type} {step : PtpWifiPeers → ε → PtpWifiPeers × ο}
    (outcome : ο → PeersOutcome)
    (hstep : ∀ {peers : PtpWifiPeers}, peers.registry.WellNumbered → ∀ e,
      peers.registry.gen + (outcome (step peers e).2).advances < 2 ^ 32 →
        Evolves peers (step peers e).1 (outcome (step peers e).2).granted
          (outcome (step peers e).2).advances)
    {peers : PtpWifiPeers} (hwell : peers.registry.WellNumbered) (es : List ε)
    (hbound : peers.registry.gen +
      ((trace step peers es).map fun x => (outcome x.2).advances).sum < 2 ^ 32) :
    Evolves peers (run step peers es)
      ((trace step peers es).flatMap fun x => (outcome x.2).granted)
      ((trace step peers es).map fun x => (outcome x.2).advances).sum := by
  induction es generalizing peers with
  | nil => exact Evolves.refl rfl
  | cons e es ih =>
    simp only [trace_cons, List.map_cons, List.sum_cons, List.flatMap_cons, run_cons] at hbound ⊢
    have hfirst := hstep hwell e (by omega)
    refine hfirst.trans (ih (hfirst.reaches.wellNumbered hwell) ?_)
    rw [hfirst.gen]
    omega

theorem run_evolves (cfg : Config) {peers : PtpWifiPeers}
    (hwell : peers.registry.WellNumbered) (ops : List PeersOp)
    (hbound : peers.registry.gen + advances cfg peers ops < 2 ^ 32) :
    Evolves peers (run (peersStep cfg) peers ops) (grants cfg peers ops)
      (advances cfg peers ops) :=
  steps_evolve id (fun hwell op => peersStep_evolves cfg hwell op) hwell ops hbound

/-- The registry after the first `n` operations of a run from zero. -/
def peersAt (cfg : Config) (ops : List PeersOp) (n : Nat) : PtpWifiPeers :=
  run (peersStep cfg) PtpWifiPeers.zero (ops.take n)

section Run

variable {cfg : Config} {ops : List PeersOp}
  (hbound : advances cfg PtpWifiPeers.zero ops < 2 ^ 32 - 1)
include hbound

theorem zero_evolves (n : Nat) :
    Evolves PtpWifiPeers.zero (peersAt cfg ops n) (grants cfg PtpWifiPeers.zero (ops.take n))
      (advances cfg PtpWifiPeers.zero (ops.take n)) := by
  refine run_evolves cfg Registry.wellNumbered_empty (ops.take n) ?_
  have htotal := advances_append cfg PtpWifiPeers.zero (ops.take n) (ops.drop n)
  rw [List.take_append_drop] at htotal
  have hzero : PtpWifiPeers.zero.registry.gen = 0 := rfl
  omega

theorem peersAt_wellNumbered (n : Nat) : (peersAt cfg ops n).registry.WellNumbered :=
  (zero_evolves hbound n).reaches.wellNumbered Registry.wellNumbered_empty

theorem peersAt_reaches {i k : Nat} (hik : i ≤ k) :
    Registry.Reaches (peersAt cfg ops i).registry (peersAt cfg ops k).registry := by
  have hsplit : ops.take k = ops.take i ++ (ops.take k).drop i := by
    have hparts := List.take_append_drop i (ops.take k)
    rw [List.take_take, Nat.min_eq_left hik] at hparts
    exact hparts.symm
  have hrun : peersAt cfg ops k =
      run (peersStep cfg) (peersAt cfg ops i) ((ops.take k).drop i) := by
    conv_lhs => rw [peersAt, hsplit, run_append]
    rfl
  rw [hrun]
  refine (run_evolves cfg (peersAt_wellNumbered hbound i) _ ?_).reaches
  have hgen := (zero_evolves hbound i).gen
  have htotal := advances_append cfg PtpWifiPeers.zero (ops.take k) (ops.drop k)
  rw [List.take_append_drop] at htotal
  have hmid := advances_append cfg PtpWifiPeers.zero (ops.take i) ((ops.take k).drop i)
  rw [← hsplit] at hmid
  have hzero : PtpWifiPeers.zero.registry.gen = 0 := rfl
  change advances cfg PtpWifiPeers.zero (ops.take k) =
    advances cfg PtpWifiPeers.zero (ops.take i) +
      advances cfg (peersAt cfg ops i) ((ops.take k).drop i) at hmid
  omega

end Run

theorem lifetime_of_registry {peers peers' : PtpWifiPeers}
    (h : peers'.registry = peers.registry) : peers'.lifetime = peers.lifetime := by
  funext slot
  refine Option.ext fun ⟨mac, association⟩ => ?_
  rw [← registry_table_iff, ← registry_table_iff, h]

/-- A snapshot of a usable port only fails on an association number zero. -/
theorem ptpWifiPeersSnapshot_isSome {peers : PtpWifiPeers} {physicalPort physicalCount : Nat}
    (hnumbers : ∀ slot mac association,
      peers.lifetime slot = some (mac, association) → association ≠ 0)
    (hport : ptpWifiAssociationPort physicalPort physicalCount 0 ≠ 0) :
    (ptpWifiPeersSnapshot peers physicalPort physicalCount).isSome = true := by
  unfold ptpWifiPeersSnapshot
  rw [if_neg hport, if_neg]
  · rfl
  · simp only [List.any_eq_true, decide_eq_true_eq, not_exists, not_and]
    intro slot hslot hzero
    have hassoc : (peers.entries slot).associated = true := (List.mem_filter.mp hslot).2
    exact hnumbers slot _ _ (if_pos hassoc) hzero

/-- What the association numbers of a run promise. -/
structure LifetimesSound (cfg : Config) (ops : List PeersOp) : Prop where
  stations : ∀ n slot mac association,
    (peersAt cfg ops n).lifetime slot = some (mac, association) →
      stationAddress mac = true ∧ association ≠ 0
  distinct : ∀ n slot slot' mac mac' association association',
    (peersAt cfg ops n).lifetime slot = some (mac, association) →
    (peersAt cfg ops n).lifetime slot' = some (mac', association') → slot ≠ slot' →
      mac ≠ mac' ∧ association ≠ association'
  /-- Every number in use was given in the run, and none was given twice. -/
  given : ∀ n slot mac association,
    (peersAt cfg ops n).lifetime slot = some (mac, association) →
      association ∈ grants cfg PtpWifiPeers.zero ops
  given_once : (grants cfg PtpWifiPeers.zero ops).Nodup
  /-- One number, at two times: one station in one slot, that was there in between. -/
  one_lifetime : ∀ i j k, i ≤ j → j ≤ k → ∀ slot slot' mac mac' association,
    (peersAt cfg ops i).lifetime slot = some (mac, association) →
    (peersAt cfg ops k).lifetime slot' = some (mac', association) →
      slot' = slot ∧ mac' = mac ∧
        (peersAt cfg ops j).lifetime slot = some (mac, association)
  generation_moves : ∀ n,
    (peersAt cfg ops (n + 1)).lifetime ≠ (peersAt cfg ops n).lifetime →
      ∀ i ≤ n, (peersAt cfg ops (n + 1)).generation ≠ (peersAt cfg ops i).generation
  snapshot : ∀ n physicalPort physicalCount,
    ptpWifiAssociationPort physicalPort physicalCount 0 ≠ 0 →
      (ptpWifiPeersSnapshot (peersAt cfg ops n) physicalPort physicalCount).isSome = true
  /-- Work for a lifetime that was seen and then seen no more does nothing. -/
  ended : ∀ i j k, i ≤ j → j ≤ k → ∀ slot mac association work,
    (peersAt cfg ops i).lifetime slot = some (mac, association) →
    (peersAt cfg ops j).lifetime slot ≠ some (mac, association) →
      workStep cfg (peersAt cfg ops k) mac association work = (peersAt cfg ops k, false)

/-- **An association number names one association of one station, for ever.** -/
theorem ptpWifiPeers_lifetimes (cfg : Config) (ops : List PeersOp)
    (hbound : advances cfg PtpWifiPeers.zero ops < 2 ^ 32 - 1) : LifetimesSound cfg ops := by
  have hwell := peersAt_wellNumbered hbound
  have hstations : ∀ n slot mac association,
      (peersAt cfg ops n).lifetime slot = some (mac, association) →
        stationAddress mac = true ∧ association ≠ 0 := by
    intro n slot mac association hlife
    rcases (zero_evolves hbound n).given _ _ _ hlife with hzero | ⟨haddr, -⟩
    · cases hzero
    · refine ⟨haddr, ?_⟩
      rintro rfl
      exact Nat.lt_irrefl 0 ((hwell n).number_pos _ _ _ (registry_table hlife))
  have hsame : ∀ i j k, i ≤ j → j ≤ k → ∀ slot slot' mac mac' association,
      (peersAt cfg ops i).lifetime slot = some (mac, association) →
      (peersAt cfg ops k).lifetime slot' = some (mac', association) →
        slot' = slot ∧ mac' = mac ∧
          (peersAt cfg ops j).lifetime slot = some (mac, association) := by
    intro i j k hij hjk slot slot' mac mac' association hi hk
    obtain ⟨hslot, hmac, hmid⟩ := Registry.Reaches.sameLifetime (hwell i)
      (peersAt_reaches hbound hij) (peersAt_reaches hbound hjk) (registry_table hi)
      (registry_table hk)
    exact ⟨hslot, hmac, registry_table_iff.mp hmid⟩
  refine {
    stations := hstations
    distinct := ?_
    given := ?_
    given_once := ?_
    one_lifetime := hsame
    generation_moves := ?_
    snapshot := ?_
    ended := ?_ }
  · intro n slot slot' mac mac' association association' hlife hlife' hne
    refine ⟨?_, ?_⟩
    · rintro rfl
      exact hne ((hwell n).key_inj _ _ _ _ _ (registry_table hlife) (registry_table hlife'))
    · rintro rfl
      exact hne ((hwell n).number_inj _ _ _ _ _ (registry_table hlife) (registry_table hlife'))
  · intro n slot mac association hlife
    rcases (zero_evolves hbound n).given _ _ _ hlife with hzero | ⟨-, hgiven⟩
    · cases hzero
    · rw [← List.take_append_drop n ops, grants, trace_append, List.flatMap_append]
      exact List.mem_append_left _ hgiven
  · have hsorted := (zero_evolves hbound ops.length).ascending.sorted
    rw [List.take_length] at hsorted
    exact hsorted.imp fun hlt heq => Nat.ne_of_lt hlt (congrArg UInt32.toNat heq)
  · intro n hchange i hi heq
    have hgen : (peersAt cfg ops (n + 1)).registry.gen = (peersAt cfg ops i).registry.gen :=
      congrArg UInt32.toNat heq
    have hfirst := (peersAt_reaches hbound hi).gen_le
    have hlast := peersAt_reaches hbound (Nat.le_succ n)
    have hstay := hlast.eq_of_gen (Nat.le_antisymm (hgen ▸ hfirst) hlast.gen_le)
    exact hchange (lifetime_of_registry hstay)
  · intro n physicalPort physicalCount hport
    exact ptpWifiPeersSnapshot_isSome
      (fun slot mac association hlife => (hstations n slot mac association hlife).2) hport
  · intro i j k hij hjk slot mac association work hi hj
    refine workStep_ended cfg work fun slot' hk => ?_
    exact hj (hsame i j k hij hjk slot slot' mac mac association hi hk).2.2

/-- A station joins, leaves and joins again in the same slot: the completion of a
    transmission for its first association finds it ended. -/
theorem ptpWifiPeers_lifetimes_rejoin :
    let mac : MacAddr := #v[2, 0, 0, 0, 0, 1]
    let ops : List PeersOp := [.join mac, .leave mac, .join mac]
    advances Sample.config PtpWifiPeers.zero ops = 3 ∧
      (peersAt Sample.config ops 1).lifetime 0 = some (mac, 1) ∧
      (peersAt Sample.config ops 3).lifetime 0 = some (mac, 3) ∧
      LifetimesSound Sample.config ops :=
  ⟨by decide +kernel, by decide +kernel, by decide +kernel,
    ptpWifiPeers_lifetimes Sample.config _ (by decide +kernel)⟩

end EspPtp
