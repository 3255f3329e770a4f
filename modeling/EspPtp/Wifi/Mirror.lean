import EspPtp.Wifi.Reconcile

/-!
# The registry and the radio

A coprocessor keeps its own list of stations, and the registry may only be published while
it is the same. What the code compares is two generation numbers: every change of the
registry moves `generation`, and an accepted report sets `reconciled_generation` to it. So
as long as the counter has not come round, equality means that nothing changed since the
report, which `Mirrored` says of a run.
-/

namespace EspPtp

open Lib

/-- The report accepted last in a history. -/
def lastAccepted (h : List (PeersOp × HostedOutcome)) : Option RadioReport :=
  (h.filterMap (·.2.accepted)).getLast?

theorem lastAccepted_snoc_none {h : List (PeersOp × HostedOutcome)} {op : PeersOp}
    {outcome : HostedOutcome} (hnone : outcome.accepted = none) :
    lastAccepted (h ++ [(op, outcome)]) = lastAccepted h := by
  unfold lastAccepted
  simp [hnone]

theorem lastAccepted_snoc_some {h : List (PeersOp × HostedOutcome)} {op : PeersOp}
    {outcome : HostedOutcome} {report : RadioReport} (hsome : outcome.accepted = some report) :
    lastAccepted (h ++ [(op, outcome)]) = some report := by
  unfold lastAccepted
  simp [hsome]

/-- The registry is the radio's list, of this boot and generation of the radio. -/
structure Mirrors (peers : PtpWifiPeers) (report : RadioReport) : Prop where
  stations : ∀ mac, Table.Holds peers.stationAt mac ↔ mac ∈ report.macs
  radioBoot : peers.radioBoot = report.radioBoot
  radioGeneration : peers.radioGeneration = report.radioGeneration

/-! ## What the host's own events do -/

/-- What is kept of the radio. -/
structure RadioKept (peers peers' : PtpWifiPeers) : Prop where
  radioBoot : peers'.radioBoot = peers.radioBoot
  radioGeneration : peers'.radioGeneration = peers.radioGeneration
  reconciledGeneration : peers'.reconciledGeneration = peers.reconciledGeneration

theorem RadioKept.rfl {peers : PtpWifiPeers} : RadioKept peers peers :=
  ⟨Eq.refl _, Eq.refl _, Eq.refl _⟩

theorem onAssociation_radioKept {α : Type} (act : PtpWifiPeer → PtpWifiPeer × α)
    (peers : PtpWifiPeers) (mac : MacAddr) (association : UInt32) (failure : α) :
    RadioKept peers (onAssociation peers mac association failure act).1 := by
  unfold onAssociation
  split
  · exact .rfl
  · split
    · exact .rfl
    · exact ⟨rfl, rfl, rfl⟩

theorem workStep_radioKept (cfg : Config) (peers : PtpWifiPeers) (mac : MacAddr)
    (association : UInt32) (work : AssociationWork) :
    RadioKept peers (workStep cfg peers mac association work).1 := by
  cases work with
  | announceBegin portOpen revision informationRevision initial nowUs =>
    simp only [workStep, ptpdWifiAnnounceBegin]
    split
    · exact .rfl
    · exact onAssociation_radioKept ..
  | announceFinish portOpen token accepted nowUs =>
    simp only [workStep, ptpdWifiAnnounceFinish]
    split
    · exact .rfl
    · exact onAssociation_radioKept ..
  | _ => exact onAssociation_radioKept ..

/-- An operation that is no report: what it leaves of the radio, and that it advances the
    generation when it changes who is there. -/
structure HostEvent (peers peers' : PtpWifiPeers) (outcome : HostedOutcome) : Prop where
  radioKept : RadioKept peers peers'
  accepted : outcome.accepted = none
  unmoved : outcome.advances = 0 → peers'.stationAt = peers.stationAt

theorem hostEvent_of_stationAt {peers peers' : PtpWifiPeers} {outcome : HostedOutcome}
    (hkept : RadioKept peers peers') (haccepted : outcome.accepted = none)
    (hstation : peers'.stationAt = peers.stationAt) : HostEvent peers peers' outcome :=
  ⟨hkept, haccepted, fun _ => hstation⟩

/-- A report, or an event of the host. -/
theorem hostedStep_host (cfg : Config) (peers : PtpWifiPeers) {op : PeersOp}
    (hop : ∀ radioBoot radioGeneration macs, op ≠ .reconcile radioBoot radioGeneration macs) :
    HostEvent peers (hostedStep cfg peers op).1 (hostedStep cfg peers op).2 := by
  cases op with
  | reconcile radioBoot radioGeneration macs => exact absurd rfl (hop _ _ _)
  | join mac =>
    show HostEvent peers (joinAll peers [mac]).1
      { granted := (joinAll peers [mac]).2, advances := (joinAll peers [mac]).2.length,
        accepted := none }
    unfold joinAll joinAll
    rcases ptpWifiPeersJoin_seats peers mac with ⟨hsame, -⟩ | ⟨slot, -, hjoin⟩
    · rw [hsame]
      exact ⟨.rfl, rfl, fun _ => rfl⟩
    · rw [hjoin]
      exact ⟨⟨rfl, rfl, rfl⟩, rfl, fun h => by cases h⟩
  | leave mac =>
    show HostEvent peers (ptpWifiPeersLeave peers mac)
      { granted := [], advances := if (ptpWifiPeersFind peers mac).isSome then 1 else 0,
        accepted := none }
    unfold ptpWifiPeersLeave
    cases ptpWifiPeersFind peers mac with
    | none => exact ⟨.rfl, rfl, fun _ => rfl⟩
    | some slot => exact ⟨⟨rfl, rfl, rfl⟩, rfl, fun h => by cases h⟩
  | clear => exact ⟨⟨rfl, rfl, rfl⟩, rfl, fun h => by cases h⟩
  | resetForProfile => exact hostEvent_of_stationAt ⟨rfl, rfl, rfl⟩ rfl rfl
  | unreported => exact hostEvent_of_stationAt ⟨rfl, rfl, rfl⟩ rfl rfl
  | capableBegin enabled slot nowUs =>
    exact hostEvent_of_stationAt ⟨rfl, rfl, rfl⟩ rfl
      (stationAt_of_lifetime (lifetime_update rfl rfl rfl))
  | work mac association work =>
    exact hostEvent_of_stationAt (workStep_radioKept cfg peers mac association work) rfl
      (stationAt_of_lifetime (workStep_keeps cfg peers mac association work).1)

/-! ## The invariant -/

/-- What a history and the registry it led to have in common. -/
structure Mirrored (h : List (PeersOp × HostedOutcome)) (peers : PtpWifiPeers) : Prop where
  wellNumbered : peers.registry.WellNumbered
  distinct : Table.Distinct peers.stationAt
  counted : peers.generation.toNat = (h.map (·.2.advances)).sum
  reconciled_le : peers.reconciledGeneration.toNat ≤ peers.generation.toNat
  agreed : peers.reconciledGeneration = peers.generation → peers.radioBoot ≠ 0 →
    ∃ report, lastAccepted h = some report ∧ Mirrors peers report

theorem mirrored_zero : Mirrored [] PtpWifiPeers.zero where
  wellNumbered := Registry.wellNumbered_empty
  distinct := fun _ _ _ hs => by cases hs
  counted := rfl
  reconciled_le := Nat.le_refl _
  agreed := fun _ hboot => absurd rfl hboot

/-- A report is refused, or mirrored. -/
theorem ptpdWifiAssociationReconcile_mirrors {peers : PtpWifiPeers}
    (hdistinct : Table.Distinct peers.stationAt) (radioBoot radioGeneration : UInt32)
    (macs : List MacAddr) :
    let answer := ptpdWifiAssociationReconcile peers radioBoot radioGeneration macs
    answer = (peers, false) ∨
      (answer.2 = true ∧ answer.1.reconciledGeneration = answer.1.generation ∧
        Mirrors answer.1 ⟨radioBoot, radioGeneration, macs⟩) := by
  have hfate := reconcileAnswer_fate peers radioBoot radioGeneration macs
  unfold ptpdWifiAssociationReconcile ptpWifiPeersReconcile
  generalize reconcileAnswer peers radioBoot radioGeneration macs = fate at hfate
  cases hfate with
  | refused => exact .inl rfl
  | repeated hvalid hrepeats =>
    refine .inr ⟨rfl, hrepeats.reconciled, ⟨fun mac => ?_, hrepeats.radioBoot,
      hrepeats.radioGeneration.symm⟩⟩
    exact ⟨fun ⟨slot, hslot⟩ => hrepeats.listed slot mac hslot, hrepeats.holds hdistinct⟩
  | taken hvalid hnew =>
    have hjoined := joinAll_joined (reconcileKeep_distinct hdistinct macs)
      (reconcileKeep_within peers macs) hvalid.length hvalid.addresses
      (fun _ hmac => hmac) hvalid.nodup
    exact .inr ⟨rfl, rfl, ⟨hjoined.holds_iff, rfl, rfl⟩⟩

/-- The host's events end the agreement, or leave the stations alone. -/
theorem HostEvent.agreed {h : List (PeersOp × HostedOutcome)} {peers peers' : PtpWifiPeers}
    {op : PeersOp} {outcome : HostedOutcome} (hinv : Mirrored h peers)
    (hevent : HostEvent peers peers' outcome)
    (hadvanced : peers'.generation.toNat = peers.generation.toNat + outcome.advances) :
    peers'.reconciledGeneration.toNat ≤ peers'.generation.toNat ∧
      (peers'.reconciledGeneration = peers'.generation → peers'.radioBoot ≠ 0 →
        ∃ report, lastAccepted (h ++ [(op, outcome)]) = some report ∧ Mirrors peers' report) := by
  have hle := hinv.reconciled_le
  have hkept := hevent.radioKept
  rw [lastAccepted_snoc_none hevent.accepted, hkept.reconciledGeneration, hkept.radioBoot]
  refine ⟨by omega, fun hcurrent hboot => ?_⟩
  by_cases hstill : outcome.advances = 0
  · have hgen : peers'.generation = peers.generation := by
      apply UInt32.toNat_inj.mp
      omega
    obtain ⟨report, hlast, hmirrors⟩ := hinv.agreed (hcurrent.trans hgen) hboot
    refine ⟨report, hlast, ?_, ?_, ?_⟩
    · rw [hevent.unmoved hstill]
      exact hmirrors.stations
    · exact hkept.radioBoot.trans hmirrors.radioBoot
    · exact hkept.radioGeneration.trans hmirrors.radioGeneration
  · -- The generation has gone past the report's for good.
    have hnumber := congrArg UInt32.toNat hcurrent
    omega

/-- The agreement, after one more operation. -/
theorem hostedStep_agreed (cfg : Config) {h : List (PeersOp × HostedOutcome)}
    {peers : PtpWifiPeers} (hinv : Mirrored h peers) (op : PeersOp)
    (hadvanced : (hostedStep cfg peers op).1.generation.toNat =
      peers.generation.toNat + (hostedStep cfg peers op).2.advances) :
    (hostedStep cfg peers op).1.reconciledGeneration.toNat ≤
        (hostedStep cfg peers op).1.generation.toNat ∧
      ((hostedStep cfg peers op).1.reconciledGeneration =
          (hostedStep cfg peers op).1.generation →
        (hostedStep cfg peers op).1.radioBoot ≠ 0 →
          ∃ report, lastAccepted (h ++ [(op, (hostedStep cfg peers op).2)]) = some report ∧
            Mirrors (hostedStep cfg peers op).1 report) := by
  cases op with
  | reconcile radioBoot radioGeneration macs =>
    rcases ptpdWifiAssociationReconcile_mirrors hinv.distinct radioBoot radioGeneration macs with
      hrefused | ⟨haccepted, hcurrent, hmirrors⟩
    · have hsame : (hostedStep cfg peers (.reconcile radioBoot radioGeneration macs)).1 = peers :=
        congrArg Prod.fst hrefused
      have hnone : (hostedStep cfg peers
          (.reconcile radioBoot radioGeneration macs)).2.accepted = none := by
        simp [hostedStep, hrefused]
      rw [lastAccepted_snoc_none hnone, hsame]
      exact ⟨hinv.reconciled_le, hinv.agreed⟩
    · have hsome : (hostedStep cfg peers (.reconcile radioBoot radioGeneration macs)).2.accepted =
          some ⟨radioBoot, radioGeneration, macs⟩ := if_pos haccepted
      rw [lastAccepted_snoc_some hsome]
      exact ⟨Nat.le_of_eq (congrArg UInt32.toNat hcurrent), fun _ _ => ⟨_, rfl, hmirrors⟩⟩
  | _ =>
    refine HostEvent.agreed hinv (hostedStep_host cfg peers ?_) hadvanced
    intro _ _ _ hop
    cases hop

theorem hostedStep_mirrored (cfg : Config) {h : List (PeersOp × HostedOutcome)}
    {peers : PtpWifiPeers} (hinv : Mirrored h peers) (op : PeersOp)
    (hbound : ((h ++ [(op, (hostedStep cfg peers op).2)]).map (·.2.advances)).sum < 2 ^ 32) :
    Mirrored (h ++ [(op, (hostedStep cfg peers op).2)]) (hostedStep cfg peers op).1 := by
  simp only [List.map_append, List.map_cons, List.map_nil, List.sum_append, List.sum_cons,
    List.sum_nil, Nat.add_zero] at hbound
  have hgen : peers.registry.gen = peers.generation.toNat := rfl
  have hcounted := hinv.counted
  have hevolves := hostedStep_evolves cfg hinv.wellNumbered op (by omega)
  have hadvanced : (hostedStep cfg peers op).1.generation.toNat =
      peers.generation.toNat + (hostedStep cfg peers op).2.advances := hevolves.gen
  obtain ⟨hle, hagreed⟩ := hostedStep_agreed cfg hinv op hadvanced
  refine ⟨hevolves.reaches.wellNumbered hinv.wellNumbered,
    hostedStep_distinct cfg hinv.distinct op, ?_, hle, hagreed⟩
  simp [hadvanced, hcounted]

theorem hostedAfter_mirrored {cfg : Config} {ops : List PeersOp}
    (hbound : hostedAdvances cfg ops < 2 ^ 32) :
    Mirrored (trace (hostedStep cfg) PtpWifiPeers.zero ops) (hostedAfter cfg ops) := by
  refine run_induction_while (P := fun h peers => Mirrored h peers)
    (fun h => (h.map (·.2.advances)).sum < 2 ^ 32) ?_ mirrored_zero ?_ ops hbound
  · intro h x hgood
    simp only [List.map_append, List.sum_append] at hgood
    omega
  · intro h peers op hgood hinv
    exact hostedStep_mirrored cfg hinv op hgood

/-! ## What is published -/

/-- What a run of a hosted access point may publish. -/
structure PublishesMirror (cfg : Config) (h : List (PeersOp × HostedOutcome))
    (peers : PtpWifiPeers) : Prop where
  publishable : peers.unreported = false → ptpWifiPeersPublishable cfg peers = true →
    ∃ report, lastAccepted h = some report ∧ Mirrors peers report
  snapshot : ∀ physicalPort physicalCount snapshot,
    ptpWifiPeersSnapshot peers physicalPort physicalCount = some snapshot →
      snapshot.radioBoot ≠ 0 →
        ∃ report, lastAccepted h = some report ∧ Mirrors peers report ∧
          snapshot.radioBoot = report.radioBoot ∧
          snapshot.radioGeneration = report.radioGeneration

/-- **What is published mirrors the radio.** -/
theorem hosted_publishesMirror (cfg : Config) (hcoprocessor : cfg.hasApViaCoprocessor = true)
    (ops : List PeersOp) (hbound : hostedAdvances cfg ops < 2 ^ 32 - 1) :
    PublishesMirror cfg (trace (hostedStep cfg) PtpWifiPeers.zero ops) (hostedAfter cfg ops) := by
  have hinv := hostedAfter_mirrored (show hostedAdvances cfg ops < 2 ^ 32 by omega)
  constructor
  · intro hreported hpublishable
    unfold ptpWifiPeersPublishable at hpublishable
    rw [hcoprocessor, if_pos rfl, hreported, Bool.false_or] at hpublishable
    simp only [Bool.and_eq_true, decide_eq_true_eq] at hpublishable
    exact hinv.agreed hpublishable.2 hpublishable.1.1
  · intro physicalPort physicalCount snapshot hsnapshot hboot
    unfold ptpWifiPeersSnapshot at hsnapshot
    split at hsnapshot
    · cases hsnapshot
    · split at hsnapshot
      · cases hsnapshot
      · have hfields := Option.some.inj hsnapshot
        dsimp only at hfields
        by_cases hcurrent :
            (hostedAfter cfg ops).reconciledGeneration = (hostedAfter cfg ops).generation
        · rw [if_pos hcurrent, if_pos hcurrent] at hfields
          rw [← hfields] at hboot ⊢
          obtain ⟨report, hlast, hmirrors⟩ := hinv.agreed hcurrent hboot
          exact ⟨report, hlast, hmirrors, hmirrors.radioBoot, hmirrors.radioGeneration⟩
        · rw [if_neg hcurrent] at hfields
          rw [← hfields] at hboot
          exact absurd rfl hboot

/-- A station the host sees leave, and the report that says so. -/
theorem hosted_publishesMirror_left :
    let cfg : Config := { Sample.config with hasApViaCoprocessor := true }
    let other : MacAddr := #v[2, 0, 0, 0, 0, 2]
    let ops : List PeersOp :=
      [.join Sample.station, .reconcile 7 1 [Sample.station, other], .leave other,
        .reconcile 7 2 [Sample.station]]
    hostedAdvances cfg ops = 7 ∧
      ptpWifiPeersPublishable cfg (hostedAfter cfg (ops.take 3)) = false ∧
      ptpWifiPeersPublishable cfg (hostedAfter cfg ops) = true ∧
      PublishesMirror cfg (trace (hostedStep cfg) PtpWifiPeers.zero ops)
        (hostedAfter cfg ops) := by
  refine ⟨by decide +kernel, by decide +kernel, by decide +kernel, ?_⟩
  exact hosted_publishesMirror _ rfl _ (by decide +kernel)

end EspPtp
