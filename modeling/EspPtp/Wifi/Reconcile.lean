import EspPtp.Lib.Table
import EspPtp.Wifi.Lifetimes

/-!
# Reconciliation with the radio (`ptpd_wifi_association_reconcile`)

Where the access point is run by a coprocessor, the radio's own list of stations comes in
reports, and a report replaces the registry's. What it may not do is move a station that
stays to another slot, since the slot is the station's logical port.

At this level the registry is a `Table` of stations, and a reconciliation empties the slots
of those not listed and seats the listed ones. That there is room for all of them is the
library's `exists_free`.
-/

namespace EspPtp

open Lib

/-! ## The machine -/

/-- `ptpd_wifi_association_reconcile` on the registry. -/
def ptpdWifiAssociationReconcile (peers : PtpWifiPeers) (radioBoot radioGeneration : UInt32)
    (macs : List MacAddr) : PtpWifiPeers × Bool :=
  let answer := ptpWifiPeersReconcile peers radioBoot radioGeneration macs
  (if answer.2 then { answer.1 with unreported := false } else answer.1, answer.2)

/-- A report of the radio. -/
structure RadioReport where
  radioBoot : UInt32
  radioGeneration : UInt32
  macs : List MacAddr
  deriving DecidableEq

/-- What an operation answers the tasks that look at the radio: the report it accepted. -/
structure HostedOutcome extends PeersOutcome where
  accepted : Option RadioReport

/-- An operation on the registry of a hosted access point. -/
def hostedStep (cfg : Config) (peers : PtpWifiPeers) : PeersOp → PtpWifiPeers × HostedOutcome
  | .reconcile radioBoot radioGeneration macs =>
    let answer := ptpdWifiAssociationReconcile peers radioBoot radioGeneration macs
    (answer.1,
      { (peersStep cfg peers (.reconcile radioBoot radioGeneration macs)).2 with
        accepted := if answer.2 then some ⟨radioBoot, radioGeneration, macs⟩ else none })
  | op =>
    let stepped := peersStep cfg peers op
    (stepped.1, { stepped.2 with accepted := none })

/-- The registry after a run of a hosted access point. -/
def hostedAfter (cfg : Config) (ops : List PeersOp) : PtpWifiPeers :=
  run (hostedStep cfg) PtpWifiPeers.zero ops

/-- The increments of the generation in it. -/
def hostedAdvances (cfg : Config) (ops : List PeersOp) : Nat :=
  ((trace (hostedStep cfg) PtpWifiPeers.zero ops).map (·.2.advances)).sum

/-! ## Stations and their slots -/

/-- The station of a slot. -/
def PtpWifiPeers.stationAt (peers : PtpWifiPeers) (slot : Fin ptpWifiPeersMax) :
    Option MacAddr :=
  if (peers.entries slot).associated then some (peers.entries slot).mac else none

theorem stationAt_eq_some {peers : PtpWifiPeers} {slot : Fin ptpWifiPeersMax} {mac : MacAddr} :
    peers.stationAt slot = some mac ↔
      slot ∈ peers.associatedSlots ∧ (peers.entries slot).mac = mac := by
  simp [PtpWifiPeers.stationAt, PtpWifiPeers.associatedSlots]

theorem stationAt_of_lifetime {peers peers' : PtpWifiPeers}
    (h : peers'.lifetime = peers.lifetime) : peers'.stationAt = peers.stationAt := by
  have hfirst : ∀ p : PtpWifiPeers, p.stationAt = fun slot => (p.lifetime slot).map Prod.fst := by
    intro p
    funext slot
    unfold PtpWifiPeers.stationAt PtpWifiPeers.lifetime
    split <;> rfl
  rw [hfirst, hfirst, h]

theorem ptpWifiPeersFind_eq_some {peers : PtpWifiPeers} {mac : MacAddr}
    {slot : Fin ptpWifiPeersMax} (h : ptpWifiPeersFind peers mac = some slot) :
    peers.stationAt slot = some mac := by
  have hfound := List.find?_some h
  simp only [Bool.and_eq_true, decide_eq_true_eq] at hfound
  unfold PtpWifiPeers.stationAt
  rw [if_pos hfound.1, hfound.2]

theorem ptpWifiPeersFind_eq_none {peers : PtpWifiPeers} {mac : MacAddr}
    (h : ptpWifiPeersFind peers mac = none) : ¬ Table.Holds peers.stationAt mac := by
  rintro ⟨slot, hslot⟩
  have hno := List.find?_eq_none.mp h slot (List.mem_finRange slot)
  unfold PtpWifiPeers.stationAt at hslot
  split at hslot
  · rename_i hassociated
    simp only [Option.some.injEq] at hslot
    simp [hassociated, hslot] at hno
  · cases hslot

/-- A station that was just given a lifetime: its media state is cleared. -/
def PtpWifiPeer.joined (mac : MacAddr) (association : UInt32) : PtpWifiPeer :=
  { (default : PtpWifiPeer) with associated := true, mac := mac, association := association }

/-- The registry after a join in this slot. -/
def PtpWifiPeers.joinedAt (peers : PtpWifiPeers) (slot : Fin ptpWifiPeersMax) (mac : MacAddr) :
    PtpWifiPeers :=
  { ptpWifiPeersAdvance peers with
    entries := Function.update peers.entries slot
      (PtpWifiPeer.joined mac (nextNonzero peers.generation)) }

@[simp] theorem stationAt_joinedAt (peers : PtpWifiPeers) (slot : Fin ptpWifiPeersMax)
    (mac : MacAddr) :
    (peers.joinedAt slot mac).stationAt = Function.update peers.stationAt slot (some mac) := by
  funext s
  by_cases hs : s = slot
  · subst hs
    simp [PtpWifiPeers.stationAt, PtpWifiPeers.joinedAt, PtpWifiPeer.joined]
  · simp [PtpWifiPeers.stationAt, PtpWifiPeers.joinedAt, ptpWifiPeersAdvance, hs]

/-- A join seats the station. It fails for an address no station has, and when the table is
    full of others. -/
theorem ptpWifiPeersJoin_seats (peers : PtpWifiPeers) (mac : MacAddr) :
    (ptpWifiPeersJoin peers mac = (peers, none) ∧
        (stationAddress mac = true →
          ¬ Table.Holds peers.stationAt mac ∧ ∀ slot, peers.stationAt slot ≠ none)) ∨
      ∃ slot, Table.Seats peers.stationAt slot mac ∧
        ptpWifiPeersJoin peers mac = (peers.joinedAt slot mac, some slot) := by
  unfold ptpWifiPeersJoin
  cases haddress : stationAddress mac with
  | false => exact .inl ⟨rfl, fun h => by cases h⟩
  | true =>
    rw [if_neg (by decide)]
    cases hfind : ptpWifiPeersFind peers mac with
    | some slot => exact .inr ⟨slot, .inl (ptpWifiPeersFind_eq_some hfind), rfl⟩
    | none =>
      have hnowhere := ptpWifiPeersFind_eq_none hfind
      cases hfree : (List.finRange ptpWifiPeersMax).find? fun slot =>
          !(peers.entries slot).associated with
      | none =>
        refine .inl ⟨rfl, fun _ => ⟨hnowhere, fun slot hnone => ?_⟩⟩
        have hused := List.find?_eq_none.mp hfree slot (List.mem_finRange slot)
        simp only [Bool.not_eq_true', Bool.not_eq_false] at hused
        unfold PtpWifiPeers.stationAt at hnone
        rw [if_pos hused] at hnone
        cases hnone
      | some slot =>
        have hempty := List.find?_some hfree
        refine .inr ⟨slot, .inr ⟨?_, hnowhere⟩, rfl⟩
        unfold PtpWifiPeers.stationAt
        rw [if_neg (by simpa using hempty)]

/-! ## No station is in two slots -/

theorem joinAll_distinct {peers : PtpWifiPeers} (h : Table.Distinct peers.stationAt)
    (macs : List MacAddr) : Table.Distinct (joinAll peers macs).1.stationAt := by
  induction macs generalizing peers with
  | nil => exact h
  | cons mac macs ih =>
    show Table.Distinct (joinAll (ptpWifiPeersJoin peers mac).1 macs).1.stationAt
    rcases ptpWifiPeersJoin_seats peers mac with ⟨hsame, -⟩ | ⟨slot, hseats, hjoin⟩
    · rw [hsame]
      exact ih h
    · rw [hjoin]
      apply ih
      rw [stationAt_joinedAt]
      exact hseats.distinct h

theorem stationAt_reconcileKeep (peers : PtpWifiPeers) (macs : List MacAddr)
    (slot : Fin ptpWifiPeersMax) :
    (reconcileKeep peers macs).stationAt slot =
      (peers.stationAt slot).filter fun mac => decide (mac ∈ macs) := by
  by_cases hassociated : (peers.entries slot).associated <;>
    by_cases hlisted : (peers.entries slot).mac ∈ macs <;>
      simp [PtpWifiPeers.stationAt, reconcileKeep, ptpWifiPeersAdvance, hassociated, hlisted,
        Option.filter_some]

theorem reconcileKeep_distinct {peers : PtpWifiPeers} (h : Table.Distinct peers.stationAt)
    (macs : List MacAddr) : Table.Distinct (reconcileKeep peers macs).stationAt := by
  apply h.emptied
  intro slot mac hslot
  rw [stationAt_reconcileKeep, Option.filter_eq_some_iff] at hslot
  exact hslot.1

theorem ptpWifiPeersLeave_distinct {peers : PtpWifiPeers} (h : Table.Distinct peers.stationAt)
    (mac : MacAddr) : Table.Distinct (ptpWifiPeersLeave peers mac).stationAt := by
  unfold ptpWifiPeersLeave
  cases ptpWifiPeersFind peers mac with
  | none => exact h
  | some left =>
    apply h.emptied
    intro slot other hslot
    by_cases hleft : slot = left
    · subst hleft
      simp [PtpWifiPeers.stationAt, ptpWifiPeersAdvance] at hslot
    · simpa [PtpWifiPeers.stationAt, ptpWifiPeersAdvance, hleft] using hslot

theorem ptpWifiPeersReconcile_distinct {peers : PtpWifiPeers}
    (h : Table.Distinct peers.stationAt) (radioBoot radioGeneration : UInt32)
    (macs : List MacAddr) :
    Table.Distinct (ptpWifiPeersReconcile peers radioBoot radioGeneration macs).1.stationAt := by
  unfold ptpWifiPeersReconcile
  cases reconcileAnswer peers radioBoot radioGeneration macs with
  | some answer => exact h
  | none => exact joinAll_distinct (reconcileKeep_distinct h macs) macs

theorem hostedStep_distinct (cfg : Config) {peers : PtpWifiPeers}
    (h : Table.Distinct peers.stationAt) (op : PeersOp) :
    Table.Distinct (hostedStep cfg peers op).1.stationAt := by
  cases op with
  | join mac => exact joinAll_distinct h [mac]
  | leave mac => exact ptpWifiPeersLeave_distinct h mac
  | clear => exact h.emptied fun slot mac hslot => by cases hslot
  | reconcile radioBoot radioGeneration macs =>
    have hreconciled := ptpWifiPeersReconcile_distinct h radioBoot radioGeneration macs
    show Table.Distinct (ptpdWifiAssociationReconcile ..).1.stationAt
    unfold ptpdWifiAssociationReconcile
    dsimp only
    split <;> exact hreconciled
  | resetForProfile => exact h
  | unreported => exact h
  | capableBegin enabled slot nowUs =>
    have hsame : (peersCapableBegin cfg enabled peers slot nowUs).1.stationAt = peers.stationAt :=
      stationAt_of_lifetime (lifetime_update rfl rfl rfl)
    exact hsame ▸ h
  | work mac association work =>
    have hsame := stationAt_of_lifetime (workStep_keeps cfg peers mac association work).1
    exact hsame ▸ h

theorem hostedAfter_distinct (cfg : Config) (ops : List PeersOp) :
    Table.Distinct (hostedAfter cfg ops).stationAt :=
  run_induction (P := fun _ (peers : PtpWifiPeers) => Table.Distinct peers.stationAt)
    (fun _ _ _ hs => by cases hs) (fun _ _ op h => hostedStep_distinct cfg h op) ops

/-! ## The joins of a report -/

/-- What the joins for these stations come to, where all stations are listed. -/
structure JoinedAll (peers : PtpWifiPeers) (macs listed : List MacAddr) (after : PtpWifiPeers)
    (numbers : List UInt32) : Prop where
  distinct : Table.Distinct after.stationAt
  within : Table.Within after.stationAt listed
  /-- Nobody is moved. -/
  stays : ∀ slot mac, peers.stationAt slot = some mac → after.stationAt slot = some mac
  untouched : ∀ slot mac, peers.stationAt slot = some mac → mac ∉ macs →
    after.entries slot = peers.entries slot
  /-- Each of them has a new lifetime, under its own number. -/
  started : List.Forall₂ (fun mac number =>
    ∃ slot, after.entries slot = PtpWifiPeer.joined mac number) macs numbers
  numbers : numbers = List.iterate nextNonzero (nextNonzero peers.generation) macs.length

theorem within_update {table : Fin ptpWifiPeersMax → Option MacAddr} {listed : List MacAddr}
    (h : Table.Within table listed) {slot : Fin ptpWifiPeersMax} {mac : MacAddr}
    (hmac : mac ∈ listed) : Table.Within (Function.update table slot (some mac)) listed := by
  intro s k hs
  by_cases heq : s = slot
  · subst heq
    rw [Function.update_self] at hs
    exact Option.some.inj hs ▸ hmac
  · rw [Function.update_of_ne heq] at hs
    exact h s k hs

/-- **There is room for a report**, and every station of it gets a new lifetime. -/
theorem joinAll_joined {peers : PtpWifiPeers} {macs listed : List MacAddr}
    (hdistinct : Table.Distinct peers.stationAt) (hwithin : Table.Within peers.stationAt listed)
    (hlength : listed.length ≤ ptpWifiPeersMax) (hvalid : ∀ mac ∈ macs, stationAddress mac = true)
    (hlisted : ∀ mac ∈ macs, mac ∈ listed) (hnodup : macs.Nodup) :
    JoinedAll peers macs listed (joinAll peers macs).1 (joinAll peers macs).2 := by
  induction macs generalizing peers with
  | nil => exact ⟨hdistinct, hwithin, fun _ _ h => h, fun _ _ _ _ => rfl, .nil, rfl⟩
  | cons mac macs ih =>
    obtain ⟨hnew, hnodup⟩ := List.nodup_cons.mp hnodup
    have hmac := hlisted mac List.mem_cons_self
    rcases ptpWifiPeersJoin_seats peers mac with ⟨-, hfull⟩ | ⟨slot, hseats, hjoin⟩
    · -- A full table of listed stations has this one in it.
      obtain ⟨hnowhere, hused⟩ := hfull (hvalid mac List.mem_cons_self)
      obtain ⟨free, hfree⟩ := Table.exists_free hdistinct hwithin
        (by rw [Fintype.card_fin]; exact hlength) hmac hnowhere
      exact absurd hfree (hused free)
    · have hdistinct' : Table.Distinct (peers.joinedAt slot mac).stationAt := by
        rw [stationAt_joinedAt]
        exact hseats.distinct hdistinct
      have hwithin' : Table.Within (peers.joinedAt slot mac).stationAt listed := by
        rw [stationAt_joinedAt]
        exact within_update hwithin hmac
      have hrest := ih hdistinct' hwithin'
        (fun other hother => hvalid other (List.mem_cons_of_mem mac hother))
        (fun other hother => hlisted other (List.mem_cons_of_mem mac hother)) hnodup
      have hall : joinAll peers (mac :: macs) =
          ((joinAll (peers.joinedAt slot mac) macs).1,
            nextNonzero peers.generation :: (joinAll (peers.joinedAt slot mac) macs).2) := by
        have hnumber : ((peers.joinedAt slot mac).entries slot).association =
            nextNonzero peers.generation := by
          simp [PtpWifiPeers.joinedAt, PtpWifiPeer.joined]
        simp only [joinAll, hjoin, hnumber]
      have hseated : (peers.joinedAt slot mac).stationAt slot = some mac := by
        rw [stationAt_joinedAt, Function.update_self]
      rw [hall]
      refine ⟨hrest.distinct, hrest.within, ?_, ?_, ?_, ?_⟩
      · intro s k hs
        apply hrest.stays
        rw [stationAt_joinedAt]
        exact hseats.stays hs
      · intro s k hs hk
        obtain ⟨hother, hlater⟩ := not_or.mp (mt List.mem_cons.mpr hk)
        have hstays : (peers.joinedAt slot mac).stationAt s = some k := by
          rw [stationAt_joinedAt]
          exact hseats.stays hs
        rw [hrest.untouched s k hstays hlater]
        apply Function.update_of_ne
        rintro rfl
        exact hother (Option.some.inj (hstays.symm.trans hseated))
      · refine .cons ⟨slot, ?_⟩ hrest.started
        rw [hrest.untouched slot mac hseated hnew]
        exact Function.update_self ..
      · rw [hrest.numbers]
        rfl

/-! ## Which reports are accepted -/

/-- Serial arithmetic: one generation of the radio is before another. -/
def SerialOlder (a b : UInt32) : Prop := 2 ^ 31 ≤ (a - b).toNat

instance (a b : UInt32) : Decidable (SerialOlder a b) :=
  inferInstanceAs (Decidable (2 ^ 31 ≤ (a - b).toNat))

theorem serialOlder_iff (a b : UInt32) : (a - b).toInt32.toInt < 0 ↔ SerialOlder a b := by
  have hvalue : (a - b).toInt32.toInt = (a - b).toBitVec.toInt := rfl
  have hbits : (a - b).toBitVec.toNat = (a - b).toNat := rfl
  have hlt := (a - b).toNat_lt
  unfold SerialOlder
  rw [hvalue, BitVec.toInt_eq_toNat_cond, hbits]
  split <;> omega

theorem difference_eq_zero_iff (a b : UInt32) : (a - b).toInt32.toInt = 0 ↔ a = b := by
  have hvalue : (a - b).toInt32.toInt = (a - b).toBitVec.toInt := rfl
  have hbits : (a - b).toBitVec.toNat = (a - b).toNat := rfl
  have hlt := (a - b).toNat_lt
  have hzero : (a - b).toNat = 0 ↔ a = b := by
    rw [← UInt32.toNat_zero, UInt32.toNat_inj, UInt32.sub_eq_iff_eq_add, UInt32.zero_add]
  rw [hvalue, BitVec.toInt_eq_toNat_cond, hbits, ← hzero]
  split <;> omega

/-- A report that makes sense. -/
structure ReportValid (radioBoot radioGeneration : UInt32) (macs : List MacAddr) : Prop where
  radioBoot : radioBoot ≠ 0
  radioGeneration : radioGeneration ≠ 0
  length : macs.length ≤ ptpWifiPeersMax
  addresses : ∀ mac ∈ macs, stationAddress mac = true
  nodup : macs.Nodup

theorem reconcileValid_iff (radioBoot radioGeneration : UInt32) (macs : List MacAddr) :
    reconcileValid radioBoot radioGeneration macs = true ↔
      ReportValid radioBoot radioGeneration macs := by
  unfold reconcileValid
  simp only [Bool.and_eq_true, decide_eq_true_eq, List.all_eq_true]
  constructor
  · rintro ⟨⟨⟨⟨hboot, hgeneration⟩, hlength⟩, haddresses⟩, hnodup⟩
    exact ⟨hboot, hgeneration, hlength, haddresses, hnodup⟩
  · rintro ⟨hboot, hgeneration, hlength, haddresses, hnodup⟩
    exact ⟨⟨⟨⟨hboot, hgeneration⟩, hlength⟩, haddresses⟩, hnodup⟩

/-- The report the registry already stands for. -/
structure Repeats (peers : PtpWifiPeers) (radioBoot radioGeneration : UInt32)
    (macs : List MacAddr) : Prop where
  radioBoot : peers.radioBoot = radioBoot
  radioGeneration : radioGeneration = peers.radioGeneration
  reconciled : peers.reconciledGeneration = peers.generation
  listed : ∀ slot mac, peers.stationAt slot = some mac → mac ∈ macs
  count : peers.associatedSlots.length = macs.length

/-- What becomes of a report. -/
inductive ReportFate (peers : PtpWifiPeers) (radioBoot radioGeneration : UInt32)
    (macs : List MacAddr) : Option Bool → Prop
  | refused : ReportFate peers radioBoot radioGeneration macs (some false)
  | repeated (hvalid : ReportValid radioBoot radioGeneration macs)
      (hrepeats : Repeats peers radioBoot radioGeneration macs) :
      ReportFate peers radioBoot radioGeneration macs (some true)
  | taken (hvalid : ReportValid radioBoot radioGeneration macs)
      (hnew : peers.radioBoot = radioBoot →
        ¬ SerialOlder radioGeneration peers.radioGeneration ∧
          radioGeneration ≠ peers.radioGeneration) :
      ReportFate peers radioBoot radioGeneration macs none

theorem any_unlisted_iff (peers : PtpWifiPeers) (macs : List MacAddr) :
    (peers.associatedSlots.any fun slot => decide ((peers.entries slot).mac ∉ macs)) = false ↔
      ∀ slot mac, peers.stationAt slot = some mac → mac ∈ macs := by
  simp only [List.any_eq_false, decide_eq_true_eq, not_not, PtpWifiPeers.associatedSlots,
    List.mem_filter, List.mem_finRange, true_and, PtpWifiPeers.stationAt,
    Option.ite_none_right_eq_some, Option.some.injEq, and_imp]
  constructor
  · rintro h slot mac hassociated rfl
    exact h slot hassociated
  · intro h slot hassociated
    exact h slot _ hassociated rfl

theorem reconcileAnswer_fate (peers : PtpWifiPeers) (radioBoot radioGeneration : UInt32)
    (macs : List MacAddr) :
    ReportFate peers radioBoot radioGeneration macs
      (reconcileAnswer peers radioBoot radioGeneration macs) := by
  unfold reconcileAnswer
  dsimp only
  simp only [serialOlder_iff, difference_eq_zero_iff]
  cases hvalid : reconcileValid radioBoot radioGeneration macs with
  | false => exact .refused
  | true =>
    have hreport := (reconcileValid_iff ..).mp hvalid
    rw [if_neg (by decide)]
    by_cases hboot : peers.radioBoot = radioBoot
    · rw [if_pos hboot]
      by_cases holder : SerialOlder radioGeneration peers.radioGeneration
      · rw [if_pos holder]
        exact .refused
      · rw [if_neg holder]
        by_cases hsame : radioGeneration = peers.radioGeneration
        · rw [if_pos hsame]
          by_cases hmoved : peers.reconciledGeneration ≠ peers.generation
          · rw [if_pos hmoved]
            exact .refused
          · rw [if_neg hmoved]
            cases hany : peers.associatedSlots.any fun slot =>
                decide ((peers.entries slot).mac ∉ macs) with
            | true => exact .refused
            | false =>
              rw [if_neg (by decide)]
              by_cases hcount : peers.associatedSlots.length = macs.length
              · rw [decide_eq_true hcount]
                exact .repeated hreport
                  ⟨hboot, hsame, not_not.mp hmoved, (any_unlisted_iff peers macs).mp hany, hcount⟩
              · rw [decide_eq_false hcount]
                exact .refused
        · rw [if_neg hsame]
          exact .taken hreport fun _ => ⟨holder, hsame⟩
    · rw [if_neg hboot]
      exact .taken hreport fun h => absurd h hboot

/-- As many stations as the report lists, all of them listed: all that are listed. -/
theorem Repeats.holds {peers : PtpWifiPeers} {radioBoot radioGeneration : UInt32}
    {macs : List MacAddr} (h : Repeats peers radioBoot radioGeneration macs)
    (hdistinct : Table.Distinct peers.stationAt) {mac : MacAddr} (hmac : mac ∈ macs) :
    Table.Holds peers.stationAt mac := by
  have hstation : ∀ slot ∈ peers.associatedSlots,
      peers.stationAt slot = some (peers.entries slot).mac := by
    intro slot hslot
    have hassociated : (peers.entries slot).associated = true := (List.mem_filter.mp hslot).2
    unfold PtpWifiPeers.stationAt
    rw [if_pos hassociated]
  let stations := peers.associatedSlots.map fun slot => (peers.entries slot).mac
  have hnodup : stations.Nodup := by
    refine List.Nodup.map_on ?_ ((List.nodup_finRange _).filter _)
    intro s hs t ht hst
    exact hdistinct s t _ (hstation s hs) (hst ▸ hstation t ht)
  have hsub : stations ⊆ macs := by
    intro k hk
    obtain ⟨slot, hslot, rfl⟩ := List.mem_map.mp hk
    exact h.listed slot _ (hstation slot hslot)
  have hlength : macs.length ≤ stations.length := by
    rw [List.length_map, h.count]
  have hperm := (List.subperm_of_subset hnodup hsub).perm_of_length_le hlength
  obtain ⟨slot, hslot, hentry⟩ := List.mem_map.mp (hperm.mem_iff.mpr hmac)
  exact ⟨slot, hentry ▸ hstation slot hslot⟩

/-! ## The numbers of a hosted run -/

theorem hostedStep_evolves (cfg : Config) {peers : PtpWifiPeers}
    (hwell : peers.registry.WellNumbered) (op : PeersOp)
    (hbound : peers.registry.gen + (hostedStep cfg peers op).2.advances < 2 ^ 32) :
    Evolves peers (hostedStep cfg peers op).1 (hostedStep cfg peers op).2.granted
      (hostedStep cfg peers op).2.advances := by
  cases op with
  | reconcile radioBoot radioGeneration macs =>
    have hstep := peersStep_evolves cfg hwell (.reconcile radioBoot radioGeneration macs) hbound
    have hlife : (hostedStep cfg peers (.reconcile radioBoot radioGeneration macs)).1.lifetime =
        (ptpWifiPeersReconcile peers radioBoot radioGeneration macs).1.lifetime := by
      show (ptpdWifiAssociationReconcile ..).1.lifetime = _
      unfold ptpdWifiAssociationReconcile
      dsimp only
      split <;> rfl
    have hgen : (hostedStep cfg peers (.reconcile radioBoot radioGeneration macs)).1.generation =
        (ptpWifiPeersReconcile peers radioBoot radioGeneration macs).1.generation := by
      show (ptpdWifiAssociationReconcile ..).1.generation = _
      unfold ptpdWifiAssociationReconcile
      dsimp only
      split <;> rfl
    have hunreported := Evolves.refl (registry_congr hlife hgen)
    have hall := hstep.trans hunreported
    rw [List.append_nil] at hall
    exact hall
  | _ => exact peersStep_evolves cfg hwell _ hbound

theorem hostedAfter_evolves {cfg : Config} {ops : List PeersOp}
    (hbound : hostedAdvances cfg ops < 2 ^ 32) :
    Evolves PtpWifiPeers.zero (hostedAfter cfg ops)
      ((trace (hostedStep cfg) PtpWifiPeers.zero ops).flatMap (·.2.granted))
      (hostedAdvances cfg ops) := by
  refine steps_evolve HostedOutcome.toPeersOutcome
    (fun hwell op => hostedStep_evolves cfg hwell op) Registry.wellNumbered_empty ops ?_
  show 0 + hostedAdvances cfg ops < 2 ^ 32
  omega

theorem hostedAdvances_append (cfg : Config) (before after : List PeersOp) :
    hostedAdvances cfg before ≤ hostedAdvances cfg (before ++ after) := by
  unfold hostedAdvances
  rw [trace_append, List.map_append, List.sum_append]
  omega

/-- Until the counter comes round, the numbers in use are those it has passed. -/
theorem hostedAfter_number_le {cfg : Config} {before after : List PeersOp}
    (hbound : hostedAdvances cfg (before ++ after) < 2 ^ 32) {slot : Fin ptpWifiPeersMax}
    {mac : MacAddr} {association : UInt32}
    (hlife : (hostedAfter cfg before).lifetime slot = some (mac, association)) :
    association.toNat ≤ (hostedAfter cfg (before ++ after)).generation.toNat := by
  have hle := hostedAdvances_append cfg before after
  have hbefore := hostedAfter_evolves (show hostedAdvances cfg before < 2 ^ 32 by omega)
  have hall := hostedAfter_evolves hbound
  have hnumber := (hbefore.reaches.wellNumbered Registry.wellNumbered_empty).number_le _ _ _
    (registry_table hlife)
  have hgen := hbefore.gen
  have hgen' := hall.gen
  change (hostedAfter cfg (before ++ after)).generation.toNat = 0 + _ at hgen'
  change (hostedAfter cfg before).generation.toNat = 0 + _ at hgen
  change association.toNat ≤ (hostedAfter cfg before).generation.toNat at hnumber
  omega

/-! ## A report replaces the stations -/

theorem reconcileKeep_within (peers : PtpWifiPeers) (macs : List MacAddr) :
    Table.Within (reconcileKeep peers macs).stationAt macs := by
  intro slot mac hslot
  rw [stationAt_reconcileKeep, Option.filter_eq_some_iff] at hslot
  exact of_decide_eq_true hslot.2

theorem JoinedAll.holds_iff {peers after : PtpWifiPeers} {macs : List MacAddr}
    {numbers : List UInt32} (h : JoinedAll peers macs macs after numbers) (mac : MacAddr) :
    Table.Holds after.stationAt mac ↔ mac ∈ macs := by
  constructor
  · rintro ⟨slot, hslot⟩
    exact h.within slot mac hslot
  · intro hmac
    obtain ⟨i, hi, rfl⟩ := List.getElem_of_mem hmac
    have hlength := h.started.length_eq
    obtain ⟨slot, hslot⟩ := List.Forall₂.get h.started hi (hlength ▸ hi)
    refine ⟨slot, ?_⟩
    unfold PtpWifiPeers.stationAt
    rw [hslot]
    rfl

/-- Numbers no station of this run has had. -/
structure FreshNumbers (cfg : Config) (ops : List PeersOp) (count : Nat)
    (numbers : List UInt32) : Prop where
  /-- They are the next values of the counter, but for the one the stations that were left
      out are retired with. -/
  successive : numbers = List.iterate nextNonzero
    (nextNonzero (nextNonzero (hostedAfter cfg ops).generation)) count
  nonzero : ∀ number ∈ numbers, number ≠ 0
  nodup : numbers.Nodup
  unused : hostedAdvances cfg ops + count + 1 < 2 ^ 32 → ∀ before after, before ++ after = ops →
    ∀ slot mac association,
      (hostedAfter cfg before).lifetime slot = some (mac, association) → association ∉ numbers

theorem mem_iterate_nextNonzero {start number : UInt32} {count : Nat}
    (h : number ∈ List.iterate nextNonzero (nextNonzero start) count) :
    ∃ i < count, number = nextNonzero^[i + 1] start := by
  rw [← List.range_map_iterate, List.mem_map] at h
  obtain ⟨i, hi, rfl⟩ := h
  exact ⟨i, List.mem_range.mp hi, rfl⟩

theorem freshNumbers {cfg : Config} {ops : List PeersOp} {count : Nat}
    (hcount : count ≤ ptpWifiPeersMax) :
    FreshNumbers cfg ops count (List.iterate nextNonzero
      (nextNonzero (nextNonzero (hostedAfter cfg ops).generation)) count) where
  successive := rfl
  nonzero := by
    intro number hnumber
    obtain ⟨i, -, rfl⟩ := mem_iterate_nextNonzero hnumber
    rw [Function.iterate_succ_apply']
    exact nextNonzero_ne_zero _
  nodup := nodup_iterate_nextNonzero _ (Nat.lt_of_le_of_lt hcount (by decide))
  unused := by
    intro hbound before after hops slot mac association hlife hmem
    subst hops
    obtain ⟨i, hi, hnumber⟩ := mem_iterate_nextNonzero hmem
    have hround : hostedAdvances cfg (before ++ after) < 2 ^ 32 := by omega
    have hle := hostedAfter_number_le hround hlife
    have hgen := (hostedAfter_evolves hround).gen
    change (hostedAfter cfg (before ++ after)).generation.toNat = 0 + _ at hgen
    have hvalue : association.toNat =
        (hostedAfter cfg (before ++ after)).generation.toNat + (i + 2) := by
      rw [hnumber, ← Function.iterate_succ_apply nextNonzero]
      exact iterate_nextNonzero_toNat (by omega)
    omega

theorem reconcileAnswer_again {peers : PtpWifiPeers} {radioBoot radioGeneration : UInt32}
    {macs : List MacAddr} (hvalid : ReportValid radioBoot radioGeneration macs)
    (hrepeats : Repeats peers radioBoot radioGeneration macs) :
    reconcileAnswer peers radioBoot radioGeneration macs = some true := by
  have holder : ¬ SerialOlder radioGeneration peers.radioGeneration := by
    rw [hrepeats.radioGeneration]
    unfold SerialOlder
    simp
  unfold reconcileAnswer
  dsimp only
  simp only [serialOlder_iff, difference_eq_zero_iff]
  rw [(reconcileValid_iff ..).mpr hvalid, if_neg (by decide), if_pos hrepeats.radioBoot,
    if_neg holder, if_pos hrepeats.radioGeneration, if_neg (not_not.mpr hrepeats.reconciled),
    (any_unlisted_iff peers macs).mpr hrepeats.listed, if_neg (by decide),
    decide_eq_true hrepeats.count]

theorem ptpWifiPeersReconcile_again {peers : PtpWifiPeers} {radioBoot radioGeneration : UInt32}
    {macs : List MacAddr} (hvalid : ReportValid radioBoot radioGeneration macs)
    (hrepeats : Repeats peers radioBoot radioGeneration macs) :
    ptpWifiPeersReconcile peers radioBoot radioGeneration macs = (peers, true) := by
  unfold ptpWifiPeersReconcile
  rw [reconcileAnswer_again hvalid hrepeats]

/-- A valid report is none of the kinds that are refused, but for an older one. -/
theorem ReportValid.sound {radioBoot radioGeneration : UInt32} {macs : List MacAddr}
    (hvalid : ReportValid radioBoot radioGeneration macs) {older : Prop} (holder : ¬ older) :
    ¬ ((¬ ∀ mac ∈ macs, stationAddress mac = true) ∨ ¬ macs.Nodup ∨
      ptpWifiPeersMax < macs.length ∨ older) := by
  rintro (h | h | h | h)
  · exact h hvalid.addresses
  · exact h hvalid.nodup
  · exact absurd hvalid.length (Nat.not_le.mpr h)
  · exact holder h

/-- As many slots are in use as there are stations. -/
theorem associatedSlots_length {peers : PtpWifiPeers} {macs : List MacAddr}
    (hdistinct : Table.Distinct peers.stationAt) (hnodup : macs.Nodup)
    (hholds : ∀ mac, Table.Holds peers.stationAt mac ↔ mac ∈ macs) :
    peers.associatedSlots.length = macs.length := by
  have hmap : (peers.associatedSlots.map fun slot => (peers.entries slot).mac).Nodup := by
    refine List.Nodup.map_on ?_ ((List.nodup_finRange _).filter _)
    intro s hs t ht hst
    exact hdistinct s t _ (stationAt_eq_some.mpr ⟨hs, rfl⟩)
      (stationAt_eq_some.mpr ⟨ht, hst.symm⟩)
  have hperm := (List.perm_ext_iff_of_nodup hmap hnodup).mpr fun mac => by
    rw [← hholds, List.mem_map]
    exact exists_congr fun _ => stationAt_eq_some.symm
  rw [← hperm.length_eq, List.length_map]

/-- What a reconciliation does to the registry a run has led to. -/
structure ReconcileExact (cfg : Config) (ops : List PeersOp) (radioBoot radioGeneration : UInt32)
    (macs : List MacAddr) (answer : PtpWifiPeers × Bool) : Prop where
  refused : answer.2 = false → answer.1 = hostedAfter cfg ops
  refuses : (¬ ∀ mac ∈ macs, stationAddress mac = true) ∨ ¬ macs.Nodup ∨
    ptpWifiPeersMax < macs.length ∨
    ((hostedAfter cfg ops).radioBoot = radioBoot ∧
      SerialOlder radioGeneration (hostedAfter cfg ops).radioGeneration) → answer.2 = false
  stations : answer.2 = true → ∀ mac, Table.Holds answer.1.stationAt mac ↔ mac ∈ macs
  slots : answer.2 = true → ∀ slot mac, mac ∈ macs →
    (hostedAfter cfg ops).stationAt slot = some mac → answer.1.stationAt slot = some mac
  recorded : answer.2 = true → answer.1.radioBoot = radioBoot ∧
    answer.1.radioGeneration = radioGeneration ∧
    answer.1.reconciledGeneration = answer.1.generation
  /-- A new report: every listed station starts a lifetime, under a number of its own. -/
  started : answer.2 = true →
    ¬ ((hostedAfter cfg ops).radioBoot = radioBoot ∧
      (hostedAfter cfg ops).radioGeneration = radioGeneration) →
    ∃ numbers, List.Forall₂ (fun mac number =>
        ∃ slot, answer.1.entries slot = PtpWifiPeer.joined mac number) macs numbers ∧
      FreshNumbers cfg ops macs.length numbers
  /-- The report the registry already stands for. -/
  repeated : (hostedAfter cfg ops).radioBoot = radioBoot →
    (hostedAfter cfg ops).radioGeneration = radioGeneration → answer.1 = hostedAfter cfg ops
  again : answer.2 = true →
    ptpWifiPeersReconcile answer.1 radioBoot radioGeneration macs = (answer.1, true)

/-- **A reconciliation replaces the stations exactly**, or changes nothing. -/
theorem ptpWifiPeersReconcile_exact (cfg : Config) (ops : List PeersOp)
    (radioBoot radioGeneration : UInt32) (macs : List MacAddr) :
    ReconcileExact cfg ops radioBoot radioGeneration macs
      (ptpWifiPeersReconcile (hostedAfter cfg ops) radioBoot radioGeneration macs) := by
  have hdistinct := hostedAfter_distinct cfg ops
  have hfate := reconcileAnswer_fate (hostedAfter cfg ops) radioBoot radioGeneration macs
  unfold ptpWifiPeersReconcile
  generalize reconcileAnswer (hostedAfter cfg ops) radioBoot radioGeneration macs = fate
    at hfate
  cases hfate with
  | refused =>
    exact {
      refused := fun _ => rfl
      refuses := fun _ => rfl
      stations := fun h => by cases h
      slots := fun h => by cases h
      recorded := fun h => by cases h
      started := fun h => by cases h
      repeated := fun _ _ => rfl
      again := fun h => by cases h }
  | repeated hvalid hrepeats =>
    have hsame : ¬ SerialOlder radioGeneration (hostedAfter cfg ops).radioGeneration := by
      rw [← hrepeats.radioGeneration]
      simp [SerialOlder]
    exact {
      refused := fun _ => rfl
      refuses := fun h => absurd h (hvalid.sound fun holder => hsame holder.2)
      stations := fun _ mac =>
        ⟨fun ⟨slot, hslot⟩ => hrepeats.listed slot mac hslot, hrepeats.holds hdistinct⟩
      slots := fun _ _ _ _ hslot => hslot
      recorded := fun _ =>
        ⟨hrepeats.radioBoot, hrepeats.radioGeneration.symm, hrepeats.reconciled⟩
      started := fun _ hnew => absurd ⟨hrepeats.radioBoot, hrepeats.radioGeneration.symm⟩ hnew
      repeated := fun _ _ => rfl
      again := fun _ => ptpWifiPeersReconcile_again hvalid hrepeats }
  | taken hvalid hnew =>
    have hjoined := joinAll_joined (reconcileKeep_distinct hdistinct macs)
      (reconcileKeep_within (hostedAfter cfg ops) macs) hvalid.length hvalid.addresses
      (fun _ hmac => hmac) hvalid.nodup
    dsimp only
    generalize joinAll (reconcileKeep (hostedAfter cfg ops) macs) macs = joined at hjoined
    exact {
      refused := fun h => by cases h
      refuses := fun h => absurd h (hvalid.sound fun holder => (hnew holder.1).1 holder.2)
      stations := fun _ mac => hjoined.holds_iff mac
      slots := by
        intro _ slot mac hmac hslot
        apply hjoined.stays
        rw [stationAt_reconcileKeep, hslot]
        exact Option.filter_some_pos (decide_eq_true hmac)
      recorded := fun _ => ⟨rfl, rfl, rfl⟩
      started := by
        intro _ _
        refine ⟨joined.2, hjoined.started, ?_⟩
        rw [hjoined.numbers]
        exact freshNumbers hvalid.length
      repeated := fun hboot hgeneration => absurd hgeneration.symm (hnew hboot).2
      again := by
        intro _
        refine ptpWifiPeersReconcile_again hvalid ⟨rfl, rfl, rfl, hjoined.within, ?_⟩
        exact associatedSlots_length hjoined.distinct hvalid.nodup hjoined.holds_iff }

end EspPtp
