import EspPtp.Daemon.Radio
import EspPtp.Lib.History
import EspPtp.Wifi.Lifetimes

/-!
# What a section can do to associations

`Evolution` says it once for all sections of `Radio`, in the terms a statement about runs
needs: counts only go up, an association is an old one or begun by this very step, and an
increment that waits goes on waiting until it is made. `HandledFor` says what the sections
that handle a request can do to a port. Nothing later unfolds a section.
-/

namespace EspPtp

open Lib

variable {F : Type} {n : Nat}

/-- The associations a step begins: the port, and the stations. -/
def RadioStep.starts (s : RadioSystem F n) : RadioStep n → Option (Fin n × List MacAddr)
  | .staConnected p bssid =>
    if (s.ports p).wifiMode = .sta then some (p, bssid.toList) else none
  | .apStaConnected p mac =>
    if (s.ports p).wifiMode = .ap ∧ (ptpWifiPeersJoin (s.ports p).wifiPeers mac).2.isSome then
      some (p, [mac])
    else none
  | .reconcile p radioBoot radioGeneration macs =>
    if (s.ports p).wifiOpen s.gptp .ap ∧
        reconcileAnswer (s.ports p).wifiPeers radioBoot radioGeneration macs = none then
      some (p, macs)
    else none
  | _ => none

/-! ## Counting the numbers of a registry -/

/-- The counts are right: the generation is the last number given, and an association's is
    the one it was given. -/
structure Counted (peers : PtpWifiPeers) (g : PortGhost) : Prop where
  generation : peers.generation = nthNonzero g.numbers
  slots : ∀ slot mac association, peers.lifetime slot = some (mac, association) →
    association = nthNonzero (g.startedAt slot) ∧ g.startedAt slot ≤ g.numbers

/-- What an operation on a registry did: the counts are still right, and an association is
    an old one or was begun for one of `macs`. -/
structure Counts (peers peers' : PtpWifiPeers) (g g' : PortGhost) (macs : List MacAddr) :
    Prop where
  counted : Counted peers' g'
  numbers : g.numbers ≤ g'.numbers
  bumps : g'.bumps = g.bumps
  associated : ∀ slot mac association, peers'.lifetime slot = some (mac, association) →
    (peers.lifetime slot = some (mac, association) ∧ g'.startedAt slot = g.startedAt slot) ∨
      (mac ∈ macs ∧ g.numbers < g'.startedAt slot)

theorem Counts.keep {peers peers' : PtpWifiPeers} {g : PortGhost} (hcount : Counted peers g)
    (hlife : peers'.lifetime = peers.lifetime) (hgen : peers'.generation = peers.generation)
    (macs : List MacAddr) : Counts peers peers' g g macs where
  counted := by
    constructor
    · rw [hgen, hcount.generation]
    · rw [hlife]
      exact hcount.slots
  numbers := Nat.le_refl _
  bumps := rfl
  associated := by
    intro slot mac association h
    rw [hlife] at h
    exact Or.inl ⟨h, rfl⟩

theorem Counts.trans {p p' p'' : PtpWifiPeers} {g g' g'' : PortGhost} {as bs : List MacAddr}
    (h : Counts p p' g g' as) (h' : Counts p' p'' g' g'' bs) :
    Counts p p'' g g'' (as ++ bs) where
  counted := h'.counted
  numbers := Nat.le_trans h.numbers h'.numbers
  bumps := h'.bumps.trans h.bumps
  associated := by
    intro slot mac association hlife
    rcases h'.associated _ _ _ hlife with ⟨hmid, hsame⟩ | ⟨hmac, hnew⟩
    · rcases h.associated _ _ _ hmid with ⟨hold, hsame'⟩ | ⟨hmac, hnew⟩
      · exact Or.inl ⟨hold, hsame.trans hsame'⟩
      · rw [← hsame] at hnew
        exact Or.inr ⟨List.mem_append_left _ hmac, hnew⟩
    · exact Or.inr ⟨List.mem_append_right _ hmac, Nat.lt_of_le_of_lt h.numbers hnew⟩

/-- Emptying slots under one more number. -/
theorem Counts.emptied {peers peers' : PtpWifiPeers} {g : PortGhost}
    (hcount : Counted peers g)
    (hlife : ∀ slot x, peers'.lifetime slot = some x → peers.lifetime slot = some x)
    (hgen : peers'.generation = nextNonzero peers.generation) :
    Counts peers peers' g g.advanced [] where
  counted := by
    constructor
    · rw [hgen, hcount.generation]
      rfl
    · intro slot mac association h
      obtain ⟨hnumber, hle⟩ := hcount.slots _ _ _ (hlife _ _ h)
      exact ⟨hnumber, Nat.le_succ_of_le hle⟩
  numbers := Nat.le_succ _
  bumps := rfl
  associated := fun _ _ _ h => Or.inl ⟨hlife _ _ h, rfl⟩

theorem joined_counts {peers : PtpWifiPeers} {g : PortGhost} (hcount : Counted peers g)
    (mac : MacAddr) :
    Counts peers (ptpWifiPeersJoin peers mac).1 g (g.joined peers mac)
      (if (ptpWifiPeersJoin peers mac).2.isSome then [mac] else []) := by
  unfold PortGhost.joined
  rcases ptpWifiPeersJoin_cases peers mac with
    ⟨hnone, hsame⟩ | ⟨slot, hslot, -, hgen, hlife, -⟩
  · rw [hnone, hsame]
    exact Counts.keep hcount rfl rfl _
  · rw [hslot]
    -- The slot holds the new number, every other one what it held.
    have hcase : ∀ t m a, (ptpWifiPeersJoin peers mac).1.lifetime t = some (m, a) →
        (t = slot ∧ m = mac ∧ a = nthNonzero (g.numbers + 1)) ∨
          (t ≠ slot ∧ peers.lifetime t = some (m, a)) := by
      intro t m a ht
      rw [hlife] at ht
      by_cases heq : t = slot
      · subst heq
        simp only [Function.update_self, Option.some.injEq, Prod.mk.injEq] at ht
        rw [hcount.generation] at ht
        exact Or.inl ⟨rfl, ht.1.symm, ht.2.symm⟩
      · rw [Function.update_of_ne heq] at ht
        exact Or.inr ⟨heq, ht⟩
    constructor
    · constructor
      · rw [hgen, hcount.generation]
        rfl
      · intro t m a ht
        rcases hcase t m a ht with ⟨rfl, -, rfl⟩ | ⟨hne, hold⟩
        · simp [PortGhost.advanced]
        · obtain ⟨hnumber, hle⟩ := hcount.slots _ _ _ hold
          simp only [PortGhost.advanced, Function.update_of_ne hne]
          exact ⟨hnumber, Nat.le_succ_of_le hle⟩
    · exact Nat.le_succ _
    · rfl
    · intro t m a ht
      rcases hcase t m a ht with ⟨rfl, rfl, -⟩ | ⟨hne, hold⟩
      · exact Or.inr (by simp)
      · simp only [Function.update_of_ne hne]
        exact Or.inl ⟨hold, trivial⟩

theorem joinedAll_counts {peers : PtpWifiPeers} {g : PortGhost} (hcount : Counted peers g)
    (macs : List MacAddr) :
    Counts peers (joinAll peers macs).1 g (g.joinedAll peers macs) macs ∧
      (g.joinedAll peers macs).numbers ≤ g.numbers + macs.length := by
  induction macs generalizing peers g with
  | nil => exact ⟨Counts.keep hcount rfl rfl [], Nat.le_refl _⟩
  | cons mac macs ih =>
    have hfirst := joined_counts hcount mac
    have hone : (g.joined peers mac).numbers ≤ g.numbers + 1 := by
      unfold PortGhost.joined
      split
      · exact Nat.le_succ _
      · exact Nat.le_refl _
    obtain ⟨hrest, hlen⟩ := ih hfirst.counted
    refine ⟨?_, ?_⟩
    · have hall := hfirst.trans hrest
      refine ⟨hall.counted, hall.numbers, hall.bumps, ?_⟩
      intro slot m a hlife
      rcases hall.associated slot m a hlife with hold | ⟨hmem, hnew⟩
      · exact Or.inl hold
      · refine Or.inr ⟨?_, hnew⟩
        rcases List.mem_append.mp hmem with hmem | hmem
        · split at hmem
          · rw [List.mem_singleton.mp hmem]
            exact List.mem_cons_self
          · simp at hmem
        · exact List.mem_cons_of_mem _ hmem
    · simp only [PortGhost.joinedAll, List.length_cons]
      omega

theorem joinedAll_numbers (g : PortGhost) (peers : PtpWifiPeers) (macs : List MacAddr) :
    g.numbers ≤ (g.joinedAll peers macs).numbers := by
  induction macs generalizing g peers with
  | nil => exact Nat.le_refl _
  | cons mac macs ih =>
    refine Nat.le_trans ?_ (ih (g.joined peers mac) _)
    unfold PortGhost.joined
    split
    · exact Nat.le_refl _
    · exact Nat.le_succ _

theorem joinedAll_bumps (g : PortGhost) (peers : PtpWifiPeers) (macs : List MacAddr) :
    (g.joinedAll peers macs).bumps = g.bumps := by
  induction macs generalizing g peers with
  | nil => rfl
  | cons mac macs ih =>
    refine (ih (g.joined peers mac) _).trans ?_
    unfold PortGhost.joined
    split <;> rfl

theorem left_counts {peers : PtpWifiPeers} {g : PortGhost} (hcount : Counted peers g)
    (mac : MacAddr) :
    Counts peers (ptpWifiPeersLeave peers mac) g
      (if (ptpWifiPeersFind peers mac).isSome then g.advanced else g) [] := by
  unfold ptpWifiPeersLeave
  split
  · rename_i hfind
    rw [hfind]
    exact Counts.keep hcount rfl rfl []
  · rename_i slot hfind
    rw [hfind]
    refine Counts.emptied hcount ?_ rfl
    intro t x ht
    by_cases heq : t = slot
    · subst heq
      simp [PtpWifiPeers.lifetime, ptpWifiPeersAdvance] at ht
    · simpa [PtpWifiPeers.lifetime, ptpWifiPeersAdvance, Function.update_of_ne heq] using ht

theorem reconcileKeep_counts {peers : PtpWifiPeers} {g : PortGhost} (hcount : Counted peers g)
    (macs : List MacAddr) : Counts peers (reconcileKeep peers macs) g g.advanced [] := by
  refine Counts.emptied hcount ?_ rfl
  intro slot x
  by_cases hassoc : (peers.entries slot).associated <;>
    by_cases hmem : (peers.entries slot).mac ∈ macs <;>
      simp [PtpWifiPeers.lifetime, reconcileKeep, ptpWifiPeersAdvance, hassoc, hmem]

/-- A reconciliation that goes through gives a number to every station it lists, fewer
    numbers than make a round. -/
theorem reconciled_counts {peers : PtpWifiPeers} {g : PortGhost} (hcount : Counted peers g)
    {radioBoot radioGeneration : UInt32} {macs : List MacAddr}
    (hanswer : reconcileAnswer peers radioBoot radioGeneration macs = none) :
    Counts peers (ptpWifiPeersReconcile peers radioBoot radioGeneration macs).1 g
        (g.reconciled peers radioBoot radioGeneration macs) macs ∧
      (ptpWifiPeersReconcile peers radioBoot radioGeneration macs).2 = true ∧
      peers.generation ≠
        (ptpWifiPeersReconcile peers radioBoot radioGeneration macs).1.generation := by
  have hvalid : macs.length ≤ ptpWifiPeersMax := by
    unfold reconcileAnswer at hanswer
    split at hanswer
    · cases hanswer
    · rename_i hvalid
      simp only [reconcileValid, Bool.not_eq_true, Bool.not_eq_false', Bool.and_eq_true,
        decide_eq_true_eq] at hvalid
      exact hvalid.1.1.2
  have hkeep := reconcileKeep_counts hcount macs
  obtain ⟨hjoin, hlen⟩ := joinedAll_counts hkeep.counted macs
  have hall := hkeep.trans hjoin
  simp only [ptpWifiPeersReconcile, PortGhost.reconciled, hanswer]
  refine ⟨⟨⟨hall.counted.generation, hall.counted.slots⟩, hall.numbers, hall.bumps,
    hall.associated⟩, trivial, ?_⟩
  intro heq
  have hfirst : g.advanced.numbers = g.numbers + 1 := rfl
  have hmax : ptpWifiPeersMax = 16 := rfl
  have hle := hjoin.numbers
  rw [hcount.generation, hjoin.counted.generation] at heq
  have hround := nthNonzero_inj (by omega) (by omega) heq
  omega

/-! ## What a step can do -/

/-- The station has an association on the port, the `number`-th of the port's count. -/
def RadioSystem.Associated (s : RadioSystem F n) (p : Fin n) (mac : MacAddr) (number : Nat) :
    Prop :=
  match (s.ports p).wifiMode with
  | .none => False
  | .sta =>
    ptpWifiNeighborAccepts (s.ports p).wifiNeighbor mac = true ∧ number = (s.ghost p).numbers
  | .ap =>
    ∃ slot association, (s.ports p).wifiPeers.lifetime slot = some (mac, association) ∧
      number = (s.ghost p).startedAt slot

/-- The counts of a port are right. -/
structure PortCounted (port : PtpPort F) (g : PortGhost) : Prop where
  ap : port.wifiMode = .ap → Counted port.wifiPeers g
  sta : port.wifiMode = .sta → port.wifiNeighbor.association = nthNonzero g.numbers

/-- **What a step can do** to associations and link generations: no count goes back, an
    association is an old one or begun by this very step, and a waiting increment goes on
    waiting until it is made. -/
structure Evolution (s s' : RadioSystem F n) (starts : Option (Fin n × List MacAddr)) :
    Prop where
  counted : ∀ p, PortCounted (s.ports p) (s.ghost p) → PortCounted (s'.ports p) (s'.ghost p)
  medium : ∀ p, (s'.ports p).medium = (s.ports p).medium
  mode : ∀ p, (s'.ports p).wifiMode = (s.ports p).wifiMode
  numbers : ∀ p, (s.ghost p).numbers ≤ (s'.ghost p).numbers
  bumps : ∀ p, (s.ghost p).bumps ≤ (s'.ghost p).bumps
  generation : (∀ p, s.injected.generation p = UInt32.ofNat (s.ghost p).bumps) →
    ∀ p, s'.injected.generation p = UInt32.ofNat (s'.ghost p).bumps
  pending : ∀ waiting ∈ s.pending, waiting ∈ s'.pending ∨
    (s.ghost waiting.port).bumps < (s'.ghost waiting.port).bumps
  associated : (∀ p, PortCounted (s.ports p) (s.ghost p)) → ∀ p mac number,
    s'.Associated p mac number → s.Associated p mac number ∨
      ∃ macs, starts = some (p, macs) ∧ mac ∈ macs ∧
        ∃ waiting ∈ s'.pending, waiting.port = p ∧ mac ∈ waiting.started ∧
          number ≤ waiting.numbers

/-- A step that changes nothing at this level. -/
theorem Evolution.quiet {s s' : RadioSystem F n} {starts : Option (Fin n × List MacAddr)}
    (hports : ∀ p, (s'.ports p).medium = (s.ports p).medium ∧
      (s'.ports p).wifiMode = (s.ports p).wifiMode ∧
      (s'.ports p).wifiPeers.lifetime = (s.ports p).wifiPeers.lifetime ∧
      (s'.ports p).wifiPeers.generation = (s.ports p).wifiPeers.generation ∧
      (s'.ports p).wifiNeighbor.association = (s.ports p).wifiNeighbor.association ∧
      (s'.ports p).wifiNeighbor.associated = (s.ports p).wifiNeighbor.associated ∧
      (s'.ports p).wifiNeighbor.bssid = (s.ports p).wifiNeighbor.bssid)
    (hghost : s'.ghost = s.ghost) (hgeneration : s'.injected.generation = s.injected.generation)
    (hpending : s'.pending = s.pending) : Evolution s s' starts where
  counted := by
    intro p hcount
    obtain ⟨-, hmode, hlife, hgen, hassoc, -, -⟩ := hports p
    constructor
    · intro hap
      rw [hmode] at hap
      rw [hghost]
      constructor
      · rw [hgen, (hcount.ap hap).generation]
      · rw [hlife]
        exact (hcount.ap hap).slots
    · intro hsta
      rw [hmode] at hsta
      rw [hghost, hassoc, hcount.sta hsta]
  medium := fun p => (hports p).1
  mode := fun p => (hports p).2.1
  numbers := fun p => by rw [hghost]
  bumps := fun p => by rw [hghost]
  generation := by
    intro h p
    rw [hgeneration, hghost]
    exact h p
  pending := by
    intro waiting hmem
    rw [hpending]
    exact Or.inl hmem
  associated := by
    intro _ p mac number h
    obtain ⟨-, hmode, hlife, -, -, hassociated, hbssid⟩ := hports p
    left
    unfold RadioSystem.Associated at h ⊢
    unfold ptpWifiNeighborAccepts at h ⊢
    rw [hmode, hlife, hassociated, hbssid, hghost] at h
    exact h

/-- A step that leaves every port as it is. -/
theorem Evolution.still {s s' : RadioSystem F n} {starts : Option (Fin n × List MacAddr)}
    (hports : s'.ports = s.ports) (hghost : s'.ghost = s.ghost)
    (hgeneration : s'.injected.generation = s.injected.generation)
    (hpending : s'.pending = s.pending) : Evolution s s' starts := by
  refine Evolution.quiet ?_ hghost hgeneration hpending
  intro p
  rw [hports]
  exact ⟨rfl, rfl, rfl, rfl, rfl, rfl, rfl⟩

/-- A section of an event handler, on the one port it is about. -/
theorem Evolution.event {s : RadioSystem F n} {p : Fin n} {port : PtpPort F} {g : PortGhost}
    {bump : Bool} {started : List MacAddr} {link : Option Bool}
    {starts : Option (Fin n × List MacAddr)}
    (hmedium : port.medium = (s.ports p).medium)
    (hmode : port.wifiMode = (s.ports p).wifiMode)
    (hcounted : PortCounted (s.ports p) (s.ghost p) → PortCounted port g)
    (hnumbers : (s.ghost p).numbers ≤ g.numbers) (hbumps : g.bumps = (s.ghost p).bumps)
    (hassociated : PortCounted (s.ports p) (s.ghost p) → ∀ mac number,
      (s.eventSection p port g bump started link).Associated p mac number →
        s.Associated p mac number ∨
          (starts = some (p, started) ∧ bump = true ∧ mac ∈ started ∧ number ≤ g.numbers)) :
    Evolution s (s.eventSection p port g bump started link) starts := by
  have hcase : ∀ q,
      (q = p ∧ (s.eventSection p port g bump started link).ports q = port ∧
        (s.eventSection p port g bump started link).ghost q = g) ∨
      ((s.eventSection p port g bump started link).ports q = s.ports q ∧
        (s.eventSection p port g bump started link).ghost q = s.ghost q) := by
    intro q
    by_cases hq : q = p
    · subst hq
      exact Or.inl ⟨rfl, Function.update_self _ _ _, Function.update_self _ _ _⟩
    · exact Or.inr ⟨Function.update_of_ne hq _ _, Function.update_of_ne hq _ _⟩
  constructor
  · intro q hcount
    rcases hcase q with ⟨rfl, hport, hg⟩ | ⟨hport, hg⟩ <;> rw [hport, hg]
    · exact hcounted hcount
    · exact hcount
  · intro q
    rcases hcase q with ⟨rfl, hport, -⟩ | ⟨hport, -⟩ <;> rw [hport]
    exact hmedium
  · intro q
    rcases hcase q with ⟨rfl, hport, -⟩ | ⟨hport, -⟩ <;> rw [hport]
    exact hmode
  · intro q
    rcases hcase q with ⟨rfl, -, hg⟩ | ⟨-, hg⟩ <;> rw [hg]
    exact hnumbers
  · intro q
    rcases hcase q with ⟨rfl, -, hg⟩ | ⟨-, hg⟩ <;> rw [hg]
    exact hbumps.ge
  · intro h q
    show s.injected.generation q = _
    rcases hcase q with ⟨rfl, -, hg⟩ | ⟨-, hg⟩ <;> rw [hg]
    · rw [hbumps]
      exact h q
    · exact h q
  · intro waiting hmem
    left
    unfold RadioSystem.eventSection
    split
    · exact List.mem_append_left _ hmem
    · exact hmem
  · intro hcount q mac number h
    rcases hcase q with ⟨rfl, -, -⟩ | ⟨hport, hg⟩
    · rcases hassociated (hcount q) mac number h with hold | ⟨hstarts, hbump, hmac, hle⟩
      · exact Or.inl hold
      · refine Or.inr ⟨started, hstarts, hmac, ⟨q, link, started, g.numbers⟩, ?_, rfl, hmac, hle⟩
        simp [RadioSystem.eventSection, hbump]
    · left
      unfold RadioSystem.Associated at h ⊢
      rw [hport, hg] at h
      exact h

/-- An access point's registry under an event: the counts say it all. -/
theorem Evolution.peersEvent {s : RadioSystem F n} {p : Fin n} {peers : PtpWifiPeers}
    {g : PortGhost} {bump : Bool} {started : List MacAddr}
    {starts : Option (Fin n × List MacAddr)} (hap : (s.ports p).wifiMode = .ap)
    (macs : List MacAddr)
    (hcounts : Counted (s.ports p).wifiPeers (s.ghost p) →
      Counts (s.ports p).wifiPeers peers (s.ghost p) g macs)
    (hnumbers : (s.ghost p).numbers ≤ g.numbers) (hbumps : g.bumps = (s.ghost p).bumps)
    (hmacs : Counted (s.ports p).wifiPeers (s.ghost p) → ∀ mac ∈ macs,
      starts = some (p, started) ∧ bump = true ∧ mac ∈ started) :
    Evolution s (s.eventSection p { s.ports p with wifiPeers := peers } g bump started none)
      starts := by
  refine Evolution.event rfl rfl ?_ hnumbers hbumps ?_
  · intro hcount
    constructor
    · intro _
      exact (hcounts (hcount.ap hap)).counted
    · intro hsta
      rw [show (s.ports p).wifiMode = .sta from hsta] at hap
      cases hap
  · intro hcount mac number h
    have hpeers := hcounts (hcount.ap hap)
    simp only [RadioSystem.Associated, RadioSystem.eventSection, RadioSystem.withPort,
      Function.update_self, hap] at h ⊢
    obtain ⟨slot, association, hlife, rfl⟩ := h
    rcases hpeers.associated _ _ _ hlife with ⟨hold, hsame⟩ | ⟨hmac, -⟩
    · exact Or.inl ⟨slot, association, hold, hsame⟩
    · obtain ⟨hstarts, hbump, hmem⟩ := hmacs (hcount.ap hap) mac hmac
      exact Or.inr ⟨hstarts, hbump, hmem, (hpeers.counted.slots _ _ _ hlife).2⟩

/-- An event that starts no association. -/
theorem Evolution.peersEnded {s : RadioSystem F n} {p : Fin n} {peers : PtpWifiPeers}
    {g : PortGhost} {bump : Bool} {started : List MacAddr}
    {starts : Option (Fin n × List MacAddr)} (hap : (s.ports p).wifiMode = .ap)
    (hcounts : Counted (s.ports p).wifiPeers (s.ghost p) →
      Counts (s.ports p).wifiPeers peers (s.ghost p) g [])
    (hnumbers : (s.ghost p).numbers ≤ g.numbers) (hbumps : g.bumps = (s.ghost p).bumps) :
    Evolution s (s.eventSection p { s.ports p with wifiPeers := peers } g bump started none)
      starts := by
  apply Evolution.peersEvent hap [] hcounts hnumbers hbumps
  intro _ mac hmac
  cases hmac

/-! ## What handling a frame can do -/

/-- What a section that handles a request can do to a port: it touches the association whose
    number the sender lookup found, and no other. -/
structure HandledFor (port port' : PtpPort F) (sender : Option MacAddr)
    (association : UInt32) : Prop where
  medium : port'.medium = port.medium
  mode : port'.wifiMode = port.wifiMode
  lifetime : port'.wifiPeers.lifetime = port.wifiPeers.lifetime
  generation : port'.wifiPeers.generation = port.wifiPeers.generation
  neighborNumber : port'.wifiNeighbor.association = port.wifiNeighbor.association
  associated : port'.wifiNeighbor.associated = port.wifiNeighbor.associated
  bssid : port'.wifiNeighbor.bssid = port.wifiNeighbor.bssid
  slots : ∀ slot mac number, sender = some mac →
    port.wifiPeers.lifetime slot = some (mac, number) → number ≠ association →
      port'.wifiPeers.entries slot = port.wifiPeers.entries slot
  neighbor : port.medium = .wifiFtm → port.wifiNeighbor.association ≠ association →
    port'.wifiNeighbor = port.wifiNeighbor ∧ port'.capableReceive = port.capableReceive

theorem HandledFor.refl (port : PtpPort F) (sender : Option MacAddr) (association : UInt32) :
    HandledFor port port sender association := by
  constructor <;> intros <;> first | rfl | exact ⟨rfl, rfl⟩

theorem HandledFor.trans {port port' port'' : PtpPort F} {sender : Option MacAddr}
    {association : UInt32} (h : HandledFor port port' sender association)
    (h' : HandledFor port' port'' sender association) :
    HandledFor port port'' sender association where
  medium := h'.medium.trans h.medium
  mode := h'.mode.trans h.mode
  lifetime := h'.lifetime.trans h.lifetime
  generation := h'.generation.trans h.generation
  neighborNumber := h'.neighborNumber.trans h.neighborNumber
  associated := h'.associated.trans h.associated
  bssid := h'.bssid.trans h.bssid
  slots := by
    intro slot mac number hsender hlife hne
    rw [h'.slots slot mac number hsender (by rw [h.lifetime, hlife]) hne]
    exact h.slots slot mac number hsender hlife hne
  neighbor := by
    intro hmedium hne
    obtain ⟨hn, hc⟩ := h.neighbor hmedium hne
    obtain ⟨hn', hc'⟩ := h'.neighbor (by rw [h.medium, hmedium]) (by rw [h.neighborNumber]; exact hne)
    exact ⟨hn'.trans hn, hc'.trans hc⟩

/-- Work on the registry. -/
theorem HandledFor.work (cfg : Config) (port : PtpPort F) (mac : MacAddr)
    (association : UInt32) (work : AssociationWork) :
    HandledFor port
      { port with wifiPeers := (workStep cfg port.wifiPeers mac association work).1 }
      (some mac) association := by
  obtain ⟨hlife, hgen⟩ := workStep_keeps cfg port.wifiPeers mac association work
  refine ⟨rfl, rfl, hlife, hgen, rfl, rfl, rfl, ?_, fun _ _ => ⟨rfl, rfl⟩⟩
  intro slot mac' number hsender hlife hne
  cases hsender
  apply workStep_entries
  rw [hlife]
  simpa using hne

/-- A request of the neighbor. -/
theorem HandledFor.asked (port : PtpPort F) (mac : MacAddr) (association : UInt32)
    {neighbor : PtpWifiNeighbor}
    (hnumber : neighbor.association = port.wifiNeighbor.association)
    (hassociated : neighbor.associated = port.wifiNeighbor.associated)
    (hbssid : neighbor.bssid = port.wifiNeighbor.bssid)
    (hstale : port.wifiNeighbor.association ≠ association → neighbor = port.wifiNeighbor) :
    HandledFor port { port with wifiNeighbor := neighbor } (some mac) association :=
  ⟨rfl, rfl, rfl, rfl, hnumber, hassociated, hbssid, fun _ _ _ _ _ _ => rfl,
    fun _ hne => ⟨hstale hne, rfl⟩⟩

theorem ptpWifiNeighborAsks_association {neighbor : PtpWifiNeighbor} {mac : MacAddr}
    {association : UInt32} {sourcePort : PortIdentity}
    (h : ptpWifiNeighborAsks neighbor mac association sourcePort = true) :
    neighbor.association = association := by
  simp only [ptpWifiNeighborAsks, Bool.and_eq_true, decide_eq_true_eq] at h
  exact h.1.1.2.symm

theorem wifiOpen_wired {port : PtpPort F} {gptp : Bool} (h : port.wiredBound gptp = true) :
    port.medium = .ethHwts := by
  simp only [PtpPort.wiredBound, Bool.and_eq_true, decide_eq_true_eq] at h
  exact h.1.1.2

theorem handleIndication_handled (cfg : Config) (gptp : Bool) (port : PtpPort F)
    (sender : Option MacAddr) (association : UInt32) (indication : PtpCapableMessage)
    (nowUs : Int) (mono : Timespec) :
    HandledFor port (handleIndication gptp port sender association indication nowUs mono) sender
      association := by
  have hsection : HandledFor port
      (indicationSection gptp port sender association indication nowUs) sender association := by
    unfold indicationSection
    split
    · rename_i hwired
      refine ⟨rfl, rfl, rfl, rfl, rfl, rfl, rfl, fun _ _ _ _ _ _ => rfl, ?_⟩
      intro hmedium
      rw [wifiOpen_wired hwired] at hmedium
      cases hmedium
    · split
      · rename_i hsta
        simp only [Bool.and_eq_true, decide_eq_true_eq] at hsta
        refine ⟨rfl, rfl, rfl, rfl, rfl, rfl, rfl, fun _ _ _ _ _ _ => rfl, ?_⟩
        intro _ hne
        exact absurd hsta.1.2.symm hne
      · cases sender with
        | none => exact HandledFor.refl port none association
        | some mac =>
          dsimp only
          split
          · exact HandledFor.work cfg port mac association (.capable indication nowUs)
          · exact HandledFor.refl port (some mac) association
  exact ⟨hsection.medium, hsection.mode, hsection.lifetime, hsection.generation,
    hsection.neighborNumber, hsection.associated, hsection.bssid, hsection.slots, hsection.neighbor⟩

theorem timingSection_handled (cfg : Config) (gptp : Bool) (port : PtpPort F)
    (sender : Option MacAddr) (association : UInt32) (request : PtpIntervalMessage) :
    HandledFor port (timingSection cfg gptp port sender association request) sender
      association := by
  cases sender with
  | none => exact HandledFor.refl port none association
  | some mac =>
    simp only [timingSection]
    split
    · have hsync := HandledFor.work cfg port mac association (.syncInterval request)
      exact hsync.trans (HandledFor.work cfg _ mac association
        (.announceInterval request cfg.announceLogInterval))
    · split
      · unfold ptpWifiNeighborSyncInterval
        split
        · rename_i hasks
          exact HandledFor.asked port mac association rfl rfl rfl
            (fun hne => absurd (ptpWifiNeighborAsks_association hasks) hne)
        · exact HandledFor.refl port (some mac) association
      · exact HandledFor.refl port (some mac) association

theorem intervalSection_handled (cfg : Config) (gptp : Bool) (port : PtpPort F)
    (sender : Option MacAddr) (association : UInt32) (request : PtpCapableMessage) :
    HandledFor port (intervalSection gptp port sender association request) sender
      association := by
  have hwired : ∀ bound : PtpWiredCapable,
      HandledFor port (if port.wiredBound gptp then { port with wiredCapable := bound } else port)
        sender association := by
    intro bound
    split
    · exact ⟨rfl, rfl, rfl, rfl, rfl, rfl, rfl, fun _ _ _ _ _ _ => rfl, fun _ _ => ⟨rfl, rfl⟩⟩
    · exact HandledFor.refl port sender association
  cases sender with
  | none => exact hwired _
  | some mac =>
    simp only [intervalSection]
    split
    · exact HandledFor.work cfg port mac association (.interval request)
    · split
      · unfold ptpWifiNeighborInterval
        split
        · rename_i hasks
          exact HandledFor.asked port mac association rfl rfl rfl
            (fun hne => absurd (ptpWifiNeighborAsks_association hasks) hne)
        · exact HandledFor.refl port (some mac) association
      · exact hwired _

/-! ## Every step -/

theorem Injected.enqueue_generation {Γ : Type} (queue : Injected n Γ) (call : InjectCall n Γ)
    (received : Timespec) : (queue.enqueue call received).1.generation = queue.generation := by
  unfold Injected.enqueue
  split_ifs <;> rfl

theorem Injected.dequeue_generation {Γ : Type} (queue : Injected n Γ) :
    queue.dequeue.1.generation = queue.generation := by
  unfold Injected.dequeue
  split <;> rfl

theorem Evolution.refl (s : RadioSystem F n) (starts : Option (Fin n × List MacAddr)) :
    Evolution s s starts :=
  .still rfl rfl rfl rfl

/-- An event handler's section on the neighbor of a station. -/
theorem Evolution.neighborEvent {s : RadioSystem F n} {p : Fin n} {bssid : Option MacAddr}
    {receive : PtpCapableReceive} {bump : Bool} {starts : Option (Fin n × List MacAddr)}
    (hsta : (s.ports p).wifiMode = .sta)
    (hstarts : bssid ≠ none → starts = some (p, bssid.toList) ∧ bump = true) :
    Evolution s
      (s.eventSection p
        { s.ports p with
          wifiNeighbor := ptpWifiNeighborAssociate (s.ports p).wifiNeighbor bssid
          capableReceive := receive }
        (s.ghost p).advanced bump bssid.toList none) starts := by
  have hnumber : (ptpWifiNeighborAssociate (s.ports p).wifiNeighbor bssid).association =
      nextNonzero (s.ports p).wifiNeighbor.association := by
    cases bssid <;> rfl
  refine Evolution.event rfl rfl ?_ (Nat.le_succ _) rfl ?_
  · intro hcount
    constructor
    · intro hap
      rw [show (s.ports p).wifiMode = .ap from hap] at hsta
      cases hsta
    · intro _
      show (ptpWifiNeighborAssociate (s.ports p).wifiNeighbor bssid).association = _
      rw [hnumber, hcount.sta hsta]
      rfl
  · intro _ mac number h
    simp only [RadioSystem.Associated, RadioSystem.eventSection, RadioSystem.withPort,
      Function.update_self, hsta] at h
    obtain ⟨haccepts, rfl⟩ := h
    right
    cases bssid with
    | none => simp at haccepts
    | some bssid =>
      obtain ⟨hstarts, hbump⟩ := hstarts (by simp)
      refine ⟨hstarts, hbump, ?_, Nat.le_refl _⟩
      simp only [ptpWifiNeighborAccepts_associated, decide_eq_true_eq] at haccepts
      simp [haccepts]

/-- The increment of a waiting handler. -/
theorem bump_evolution (s : RadioSystem F n) (index : Nat)
    (starts : Option (Fin n × List MacAddr)) : Evolution s (s.bump index) starts := by
  unfold RadioSystem.bump
  split
  · exact Evolution.refl s starts
  rename_i waiting hwaiting
  dsimp only
  -- On its port the link and the increment change, and nothing else anywhere.
  have hport : ∀ q, (Function.update s.ports waiting.port
      { s.ports waiting.port with
        linkUp := waiting.link.getD (s.ports waiting.port).linkUp }) q =
      { s.ports q with
        linkUp := if q = waiting.port then waiting.link.getD (s.ports q).linkUp
          else (s.ports q).linkUp } := by
    intro q
    by_cases hq : q = waiting.port
    · subst hq
      simp
    · simp [hq]
  have hghost : ∀ q, (Function.update s.ghost waiting.port
      { s.ghost waiting.port with bumps := (s.ghost waiting.port).bumps + 1 }) q =
      { s.ghost q with
        bumps := (s.ghost q).bumps + if q = waiting.port then 1 else 0 } := by
    intro q
    by_cases hq : q = waiting.port
    · subst hq
      simp
    · simp [hq]
  constructor
  · intro q hcount
    simp only [RadioSystem.withPort, hport, hghost]
    exact ⟨fun hap => ⟨(hcount.ap hap).generation, (hcount.ap hap).slots⟩, hcount.sta⟩
  · intro q
    simp only [RadioSystem.withPort, hport]
  · intro q
    simp only [RadioSystem.withPort, hport]
  · intro q
    simp only [hghost, Nat.le_refl]
  · intro q
    simp only [hghost]
    exact Nat.le_add_right _ _
  · intro h q
    simp only [hghost, Injected.bump]
    by_cases hq : q = waiting.port
    · subst hq
      rw [Function.update_self, if_pos rfl, h]
      simp
    · rw [Function.update_of_ne hq, if_neg hq, h]
      simp
  · intro other hmem
    obtain ⟨i, hi, rfl⟩ := List.mem_iff_getElem.mp hmem
    by_cases heq : i = index
    · -- This is the one that is made.
      subst heq
      rw [List.getElem?_eq_getElem hi, Option.some.injEq] at hwaiting
      right
      simp only [hghost, hwaiting]
      simp
    · left
      rw [List.mem_eraseIdx_iff_getElem]
      exact ⟨i, hi, heq, rfl⟩
  · intro _ q mac number h
    left
    simp only [RadioSystem.Associated, RadioSystem.withPort, hport, hghost] at h ⊢
    exact h

theorem handle_evolution {α : Type} {s : RadioSystem F n} {p : Fin n}
    {request : PtpSignaling α} {act : PtpPort F → α → PtpPort F} {next : DaemonPhase n}
    {sender : Option MacAddr} {association : UInt32}
    (hact : ∀ value, HandledFor (s.ports p) (act (s.ports p) value) sender association)
    (starts : Option (Fin n × List MacAddr)) :
    Evolution s (s.handle p request act next) starts := by
  unfold RadioSystem.handle
  split
  · rename_i value
    refine Evolution.quiet ?_ rfl rfl rfl
    intro q
    by_cases hq : q = p
    · subst hq
      obtain ⟨hmedium, hmode, hlife, hgen, hnumber, hassociated, hbssid, -, -⟩ := hact value
      simp only [RadioSystem.withPort, Function.update_self]
      exact ⟨hmedium, hmode, hlife, hgen, hnumber, hassociated, hbssid⟩
    · simp only [RadioSystem.withPort, Function.update_of_ne hq]
      exact ⟨trivial, trivial, trivial, trivial, trivial, trivial, trivial⟩
  · exact Evolution.still rfl rfl rfl rfl

/-- The lookup touches nothing that is shared. -/
theorem lookup_frame (cfg : Config) (s : RadioSystem F n) :
    (s.lookup cfg).ports = s.ports ∧ (s.lookup cfg).ghost = s.ghost ∧
      (s.lookup cfg).injected = s.injected ∧ (s.lookup cfg).pending = s.pending := by
  unfold RadioSystem.lookup
  split
  · split
    · dsimp only
      split <;> exact ⟨rfl, rfl, rfl, rfl⟩
    · exact ⟨rfl, rfl, rfl, rfl⟩
  · exact ⟨rfl, rfl, rfl, rfl⟩

section Step

variable (cfg : Config) (numbering : PortNumbering)

/-- A report of the radio: refused, or old, or everyone joins anew. -/
theorem reconcile_evolution (s : RadioSystem F n) (p : Fin n) (radioBoot radioGeneration : UInt32)
    (macs : List MacAddr) :
    Evolution s (radioStep cfg numbering s (.reconcile p radioBoot radioGeneration macs))
      (RadioStep.starts s (.reconcile p radioBoot radioGeneration macs)) := by
  simp only [radioStep]
  split
  · rename_i hopen
    have hap : (s.ports p).wifiMode = .ap := by
      simp only [PtpPort.wifiOpen, Bool.and_eq_true, decide_eq_true_eq] at hopen
      exact hopen.2
    cases hanswer : reconcileAnswer (s.ports p).wifiPeers radioBoot radioGeneration macs with
    | some answer =>
      -- A refusal, or a report the registry stands for already.
      have hsame : (ptpWifiPeersReconcile (s.ports p).wifiPeers radioBoot radioGeneration
          macs).1 = (s.ports p).wifiPeers := by
        simp only [ptpWifiPeersReconcile, hanswer]
      have hghost : (s.ghost p).reconciled (s.ports p).wifiPeers radioBoot radioGeneration
          macs = s.ghost p := by
        simp only [PortGhost.reconciled, hanswer]
      rw [hsame, hghost]
      refine Evolution.peersEnded hap (fun hcount => Counts.keep hcount ?_ ?_ [])
        (Nat.le_refl _) rfl
      · split <;> rfl
      · split <;> rfl
    | none =>
      have hcounts (hcount : Counted (s.ports p).wifiPeers (s.ghost p)) :=
        reconciled_counts hcount hanswer
      refine Evolution.peersEvent hap macs (fun hcount => ?_) ?_ ?_ (fun hcount m hm => ?_)
      · obtain ⟨hall, hdone, -⟩ := hcounts hcount
        rw [hdone]
        exact ⟨⟨hall.counted.generation, hall.counted.slots⟩, hall.numbers, hall.bumps,
          hall.associated⟩
      · simp only [PortGhost.reconciled, hanswer]
        exact Nat.le_trans (Nat.le_succ _) (joinedAll_numbers (s.ghost p).advanced _ _)
      · simp only [PortGhost.reconciled, hanswer]
        exact joinedAll_bumps _ _ _
      · obtain ⟨-, hdone, hmoved⟩ := hcounts hcount
        refine ⟨by simp [RadioStep.starts, hopen, hanswer], ?_, hm⟩
        rw [hdone]
        simpa using hmoved
  · exact Evolution.refl s _

/-- A station that joins is one of those that start, if the table had room for it. -/
theorem apStaConnected_evolution (s : RadioSystem F n) (p : Fin n) (mac : MacAddr) :
    Evolution s (radioStep cfg numbering s (.apStaConnected p mac))
      (RadioStep.starts s (.apStaConnected p mac)) := by
  simp only [radioStep]
  split
  · rename_i hap
    refine Evolution.peersEvent hap _ (fun hcount => joined_counts hcount mac) ?_ ?_ ?_
    · unfold PortGhost.joined
      split
      · exact Nat.le_refl _
      · exact Nat.le_succ _
    · unfold PortGhost.joined
      split <;> rfl
    · intro _ m hm
      by_cases hjoined : (ptpWifiPeersJoin (s.ports p).wifiPeers mac).2.isSome
      · simp [RadioStep.starts, hap, hjoined] at hm ⊢
        exact hm
      · simp [hjoined] at hm
  · exact Evolution.refl s _

/-- Every generation and every count of increments moves by one, and no association. -/
theorem resetGenerations_evolution (s : RadioSystem F n) :
    Evolution s (radioStep cfg numbering s .resetGenerations)
      (RadioStep.starts s .resetGenerations) := by
  refine ⟨fun p hcount => ⟨fun hap => ⟨(hcount.ap hap).generation, (hcount.ap hap).slots⟩,
    hcount.sta⟩, fun _ => rfl, fun _ => rfl, fun _ => Nat.le_refl _, fun _ => Nat.le_succ _,
    ?_, fun _ hmem => Or.inl hmem, fun _ _ _ _ h => Or.inl h⟩
  intro h p
  show s.injected.generation p + 1 = UInt32.ofNat ((s.ghost p).bumps + 1)
  rw [h]
  simp

theorem radioStep_evolution (s : RadioSystem F n) (step : RadioStep n) :
    Evolution s (radioStep cfg numbering s step) (step.starts s) := by
  cases step with
  | capture p message sourceMac =>
    simp only [radioStep]
    split
    · exact Evolution.refl s _
    · exact Evolution.still rfl rfl rfl rfl
  | enqueue index received =>
    simp only [radioStep]
    split
    · exact Evolution.refl s _
    · exact Evolution.still rfl rfl (Injected.enqueue_generation _ _ _) rfl
  | staConnected p bssid =>
    simp only [radioStep]
    split
    · rename_i hsta
      exact Evolution.neighborEvent hsta fun _ => ⟨by simp [RadioStep.starts, hsta], rfl⟩
    · exact Evolution.refl s _
  | staDisconnected p =>
    simp only [radioStep]
    split
    · rename_i hsta
      exact Evolution.neighborEvent hsta fun h => absurd rfl h
    · exact Evolution.refl s _
  | apStaConnected p mac => exact apStaConnected_evolution cfg numbering s p mac
  | apStaDisconnected p mac =>
    simp only [radioStep]
    split
    · rename_i hap
      refine Evolution.peersEnded hap (fun hcount => left_counts hcount mac) ?_ ?_
      · split
        · exact Nat.le_succ _
        · exact Nat.le_refl _
      · split <;> rfl
    · exact Evolution.refl s _
  | apStop p =>
    simp only [radioStep]
    split
    · rename_i hap
      apply Evolution.peersEnded hap (fun hcount => Counts.emptied hcount ?_ rfl)
        (Nat.le_succ _) rfl
      intro slot x hx
      cases hx
    · exact Evolution.refl s _
  | setPortLink p up =>
    simp only [radioStep]
    split
    · exact Evolution.refl s _
    · refine Evolution.event rfl rfl ?_ (Nat.le_refl _) rfl ?_
      · intro hcount
        exact ⟨hcount.ap, hcount.sta⟩
      · intro _ mac number h
        left
        simp only [RadioSystem.Associated, RadioSystem.eventSection, RadioSystem.withPort,
          Function.update_self] at h ⊢
        exact h
  | reconcile p radioBoot radioGeneration macs =>
    exact reconcile_evolution cfg numbering s p radioBoot radioGeneration macs
  | unreported p =>
    simp only [radioStep]
    split
    · rename_i hguard
      refine Evolution.peersEnded hguard.2.1 (fun hcount => Counts.keep hcount ?_ ?_ [])
        (Nat.le_refl _) rfl
      · rfl
      · rfl
    · exact Evolution.refl s _
  | bump index => exact bump_evolution s index _
  | setProfile gptp =>
    exact Evolution.quiet (fun _ => ⟨rfl, rfl, rfl, rfl, rfl, rfl, rfl⟩) rfl rfl rfl
  | resetGenerations => exact resetGenerations_evolution cfg numbering s
  | resetPorts =>
    exact Evolution.quiet (fun _ => ⟨rfl, rfl, rfl, rfl, rfl, rfl, rfl⟩) rfl rfl rfl
  | dequeue =>
    simp only [radioStep, RadioSystem.dequeue]
    split
    · exact Evolution.still rfl rfl (Injected.dequeue_generation _) rfl
    · exact Evolution.refl s _
  | lookup =>
    obtain ⟨hports, hghost, hinjected, hpending⟩ := lookup_frame cfg s
    exact Evolution.still hports hghost (by rw [radioStep, hinjected]) hpending
  | address =>
    simp only [radioStep, RadioSystem.address]
    split
    · exact Evolution.still rfl rfl rfl rfl
    · exact Evolution.refl s _
  | indication nowUs mono =>
    simp only [radioStep, RadioSystem.indication]
    split
    · exact handle_evolution (fun value => handleIndication_handled cfg _ _ _ _ value _ _) _
    · exact Evolution.refl s _
  | timing =>
    simp only [radioStep, RadioSystem.timing]
    split
    · exact handle_evolution (fun value => timingSection_handled cfg _ _ _ _ value) _
    · exact Evolution.refl s _
  | interval =>
    simp only [radioStep, RadioSystem.interval]
    split
    · exact handle_evolution (fun value => intervalSection_handled cfg _ _ _ _ value) _
    · exact Evolution.refl s _

end Step

end EspPtp
