import EspPtp.Beacon.Lock
import EspPtp.Lib.Relay
import Mathlib.Data.List.Forall2

/-!
# From one clock to the other (`ptp_beacon_ie.c`, `on_vendor_ie`)

The daemon of an access point writes its time into a Follow_Up, and leaves that in a mailbox. A
task takes it from there and has the coprocessor publish it, which puts its TSF behind it; and
then every beacon carries it until there is another. A station receives some of the beacons.

So a time may be overwritten, refused or missed on its way, and most beacons bring an old one.
What the station's filter takes is still of the times that were written, in their order and
each once; and the offset it finds is the access point's own, less what passed between the
writing and the publishing (`beaconTimes_sound`). That is why the filter follows the upper
envelope.

One access point with such elements is in range: the code does not look at who sent one.
-/

namespace EspPtp

open Lib

variable {F : Type} {m n : Nat}

/-! ## The access point and the air -/

/-- `on_sync_egress`: the Follow_Up as it is left in the mailbox. -/
def onSyncEgress (fuInfo : Bytes) : Bytes := fuInfo.take 128

/-- What the builds and the coprocessor fix. -/
structure BeaconBuild (n : Nat) where
  apCfg : Config
  cfg : Config
  vnd : VndIe
  /-- The coprocessor puts a TSF into an element. -/
  patch : Bytes → Nat → Bytes
  /-- The station's port. -/
  port : Fin (n + 1)

/-- An access point, its beacons, and a station. -/
structure BeaconLink (F : Type) (n : Nat) where
  /-- `s_fu_mbox`, and what `republish_task` has received from it. -/
  fuMbox : Option Bytes
  item : Option Bytes
  /-- The requests on their way to the coprocessor. -/
  requests : List Bytes
  /-- The element the beacons carry. -/
  onAir : Option Bytes
  station : BeaconStation F n

inductive LinkEvent (F : Type) (m n : Nat) where
  /-- The daemon calls `sync_egress_cb`; `tsfUs` is the TSF of the radio at that time. -/
  | syncEgress (daemon : PtpState F m) (portIndex : Nat) (now : Timespec) (tsfUs : Nat)
  /-- `republish_task` receives an item, and has it published. -/
  | receive
  | publish (sent : Bool)
  /-- The coprocessor serves a request. -/
  | patch (tsfUs : Nat)
  /-- A beacon comes to the station. -/
  | beacon (reads : VendorIeReads)
  /-- Something else happens there. -/
  | station (e : StationEvent F n)

/-- Another vendor element does not pass for a time element. -/
def StationEvent.bringsTime (vnd : VndIe) : StationEvent F n → Bool
  | .vendorIe beacon ie _ => beacon && (vnd.beaconTime ie).isSome
  | _ => false

/-- One step. -/
def linkStep [CDouble F] (b : BeaconBuild n) (l : BeaconLink F n) :
    LinkEvent F m n → BeaconLink F n × StationAnswer
  | .syncEgress daemon portIndex now _ =>
    -- `xQueueOverwrite`: an item still in the mailbox is lost.
    ({ l with
        fuMbox := some (onSyncEgress (ptpMarshalFollowUp b.apCfg daemon portIndex now).2.write) },
      .none)
  | .receive =>
    match l.fuMbox, l.item with
    | some fu, none => ({ l with fuMbox := none, item := some fu }, .none)
    | _, _ => (l, .none)
  | .publish sent =>
    match l.item with
    | none => (l, .none)
    | some fu =>
      ({ l with
          item := none
          requests := l.requests ++ if sent then (b.vnd.publishIes fu).toList else [] }, .none)
  | .patch tsfUs =>
    match l.requests with
    | [] => (l, .none)
    | ie :: rest => ({ l with requests := rest, onAir := some (b.patch ie tsfUs) }, .none)
  | .beacon reads =>
    match l.onAir with
    | none => (l, .none)
    | some ie =>
      let stepped := stationStep b.cfg b.vnd b.port l.station (.vendorIe true ie reads)
      ({ l with station := stepped.1 }, stepped.2)
  | .station e =>
    if e.bringsTime b.vnd then (l, .none)
    else
      let stepped := stationStep b.cfg b.vnd b.port l.station e
      ({ l with station := stepped.1 }, stepped.2)

/-- Before anything was written. -/
structure BeaconLink.Started (l : BeaconLink F n) : Prop where
  fuMbox : l.fuMbox = none
  item : l.item = none
  requests : l.requests = []
  onAir : l.onAir = none
  station : l.station.Started

/-! ## What was written -/

/-- A Follow_Up that was written, the time of the clock in it, and the TSF then. -/
structure Marshalled where
  followUp : PtpFollowUp
  now : Timespec
  tsfUs : Nat

namespace LinkEvent

/-- The Follow_Up an event writes. -/
def marshalled? (b : BeaconBuild n) : LinkEvent F m n → Option Marshalled
  | .syncEgress daemon portIndex now tsfUs =>
    some ⟨(ptpMarshalFollowUp b.apCfg daemon portIndex now).2, now, tsfUs⟩
  | _ => none

/-- The TSF at an event, where it matters. -/
def tsf? : LinkEvent F m n → Option Nat
  | .syncEgress _ _ _ tsfUs | .patch tsfUs => some tsfUs
  | _ => none

/-- The times fit their formats, and the daemon's own header has no correction. -/
def Fits (b : BeaconBuild n) : LinkEvent F m n → Prop
  | .syncEgress daemon _ now _ =>
    daemon.ownIdentity.header.correction = Vector.replicate 8 0 ∧ now.Encodable b.apCfg ∧
      timespecToNs now < 2 ^ 63
  | .patch tsfUs => tsfUs < 256 ^ b.vnd.tsfMappingPayloadLen ∧ tsfUs < 2 ^ 63
  | _ => True

end LinkEvent

/-- The radio's TSF does not go back, and all fits. -/
structure LinkEvents (b : BeaconBuild n) (events : List (LinkEvent F m n)) : Prop where
  fits : ∀ e ∈ events, e.Fits b
  forward : (events.filterMap LinkEvent.tsf?).Pairwise (· ≤ ·)

theorem LinkEvents.of_append {b : BeaconBuild n} {first second : List (LinkEvent F m n)}
    (h : LinkEvents b (first ++ second)) : LinkEvents b first where
  fits := fun e he => h.fits e (List.mem_append_left second he)
  forward := by
    have hforward := h.forward
    rw [List.filterMap_append] at hforward
    exact hforward.sublist (List.sublist_append_left _ _)

/-- What was written so far. -/
def marshalledLog (b : BeaconBuild n) (history : List (LinkEvent F m n × StationAnswer)) :
    List Marshalled :=
  history.filterMap fun x => x.1.marshalled? b

/-- What the station's filter took so far. -/
def freshLog (history : List (LinkEvent F m n × StationAnswer)) : List FreshElement :=
  history.filterMap fun x => x.2.fresh

/-- What was written is a Follow_Up, with a time that fits. -/
def Marshalled.Fits (w : Marshalled) : Prop :=
  w.followUp.header.messagetype &&& 15 = 8 ∧
    ∀ tsfUs, (BeaconTime.mk w.followUp tsfUs).gptpMarkerNs = timespecToNs w.now

section Log

variable {b : BeaconBuild n} {history : List (LinkEvent F m n × StationAnswer)}

theorem mem_marshalledLog {w : Marshalled} (hw : w ∈ marshalledLog b history) :
    ∃ e ∈ history.map Prod.fst, e.marshalled? b = some w := by
  obtain ⟨x, hx, heq⟩ := List.mem_filterMap.mp hw
  exact ⟨x.1, List.mem_map_of_mem hx, heq⟩

theorem LinkEvents.marshalled_fits (h : LinkEvents b (history.map Prod.fst)) {w : Marshalled}
    (hw : w ∈ marshalledLog b history) : w.Fits := by
  obtain ⟨e, he, heq⟩ := mem_marshalledLog hw
  have hfits := h.fits e he
  cases e with
  | syncEgress daemon portIndex now tsfUs =>
    obtain ⟨hcorrection, hnow, hsmall⟩ := hfits
    have hmarshalled := ptpMarshalFollowUp_marshalled b.apCfg daemon portIndex now
    cases heq
    exact ⟨hmarshalled.type,
      fun tsf => gptpMarkerNs_marshalled hmarshalled hcorrection hnow hsmall tsf⟩
  | _ => cases heq

/-- What was written, was written at an earlier TSF. -/
theorem LinkEvents.tsf_le {e : LinkEvent F m n} {tsfUs : Nat}
    (h : LinkEvents b (history.map Prod.fst ++ [e])) (htsf : e.tsf? = some tsfUs) {w : Marshalled}
    (hw : w ∈ marshalledLog b history) : w.tsfUs ≤ tsfUs := by
  obtain ⟨e', he', heq⟩ := mem_marshalledLog hw
  have hread : e'.tsf? = some w.tsfUs := by
    cases e' with
    | syncEgress daemon portIndex now tsf =>
      cases heq
      rfl
    | _ => cases heq
  have hforward := h.forward
  rw [List.filterMap_append, List.pairwise_append] at hforward
  exact hforward.2.2 w.tsfUs (List.mem_filterMap.mpr ⟨e', he', hread⟩) tsfUs
    (List.mem_filterMap.mpr ⟨e, List.mem_singleton_self e, htsf⟩)

end Log

/-- **What the filter took, and what was written**: the Follow_Up and its time are the same, and
    the offset is the one at the writing, less the time until the publishing, plus a link delay
    that the daemon has taken. -/
structure Carried (cfg : Config) (fresh : FreshElement) (w : Marshalled) : Prop where
  followUp : fresh.element.followUp = w.followUp
  marker : fresh.element.gptpMarkerNs = timespecToNs w.now
  published : w.tsfUs ≤ fresh.element.tsfUs
  sample : ∃ delayNs, BeaconStation.AllowedDelay cfg delayNs ∧
    fresh.offsetRaw = (timespecToNs w.now - w.tsfUs * 1000) -
      (fresh.element.tsfUs - w.tsfUs) * 1000 + delayNs

/-! ## What is on its way -/

/-- What was written, by where it is now. -/
structure OnTheWay where
  passed : List Marshalled
  air : List Marshalled
  requests : List Marshalled
  item : List Marshalled
  fuMbox : List Marshalled

namespace OnTheWay

/-- What has not passed yet, in the order in which it will. -/
def inside (x : OnTheWay) : List Marshalled := x.air ++ (x.requests ++ (x.item ++ x.fuMbox))

end OnTheWay

/-- The element on the air, unless the station has seen it, is on its way. -/
def OnAirFrom (b : BeaconBuild n) (written : List Marshalled) (l : BeaconLink F n)
    (air : List Marshalled) : Prop :=
  ∀ ie ∈ l.onAir, ∃ w ∈ written, ∃ tsfUs : Nat,
    ie = b.vnd.onAir w.followUp.write tsfUs ∧ w.tsfUs ≤ tsfUs ∧
      tsfUs < 256 ^ b.vnd.tsfMappingPayloadLen ∧ tsfUs < 2 ^ 63 ∧
      (l.station.lastOriginTs = w.followUp.origintimestamp ∨ air = [w])

/-- **The contents of the buffers.** -/
structure LinkCarries (b : BeaconBuild n) (written : List Marshalled) (taken : List FreshElement)
    (l : BeaconLink F n) (x : OnTheWay) : Prop where
  relayed : Relayed written x.passed x.inside
  taken : List.Forall₂ (Carried b.cfg) taken x.passed
  fuMbox : l.fuMbox.toList = x.fuMbox.map fun w => w.followUp.write
  item : l.item.toList = x.item.map fun w => w.followUp.write
  requests : l.requests.map some = x.requests.map fun w => b.vnd.publishIes w.followUp.write
  onAir : OnAirFrom b written l x.air
  delay : BeaconStation.AllowedDelay b.cfg l.station.peerDelayNs

section Carries

variable {b : BeaconBuild n} {written : List Marshalled} {taken : List FreshElement}
  {l : BeaconLink F n} {x : OnTheWay}

theorem OnAirFrom.more (h : OnAirFrom b written l x.air) (more : List Marshalled) :
    OnAirFrom b (written ++ more) l x.air := by
  intro ie hie
  obtain ⟨w, hw, hrest⟩ := h ie hie
  exact ⟨w, List.mem_append_left more hw, hrest⟩

theorem mem_written (h : LinkCarries b written taken l x) {w : Marshalled} (hw : w ∈ x.inside) :
    w ∈ written :=
  h.relayed.subset (List.mem_append_right _ hw)

/-- One more is written, over what was in the mailbox. -/
theorem LinkCarries.egress (h : LinkCarries b written taken l x) (w : Marshalled) :
    LinkCarries b (written ++ [w]) taken { l with fuMbox := some (onSyncEgress w.followUp.write) }
      { x with fuMbox := [w] } where
  relayed := by
    -- What was in the mailbox is lost first; then the new one enters behind all the rest.
    have hlost : Relayed written x.passed (x.air ++ (x.requests ++ x.item)) := by
      apply h.relayed.lose
      have hback : x.inside = x.air ++ (x.requests ++ x.item) ++ x.fuMbox := by
        simp [OnTheWay.inside]
      rw [hback]
      exact List.sublist_append_left _ _
    have hentered := hlost.enter w
    simpa [OnTheWay.inside] using hentered
  taken := h.taken
  fuMbox := by
    have hshort : onSyncEgress w.followUp.write = w.followUp.write :=
      List.take_of_length_le (by simp)
    simp [hshort]
  item := h.item
  requests := h.requests
  onAir := h.onAir.more [w]
  delay := h.delay

/-- The task receives what is in the mailbox. -/
theorem LinkCarries.receive (h : LinkCarries b written taken l x) {fu : Bytes}
    (hmbox : l.fuMbox = some fu) (hitem : l.item = none) :
    LinkCarries b written taken { l with fuMbox := none, item := some fu }
      { x with item := x.fuMbox, fuMbox := [] } where
  relayed := by
    have hempty : x.item = [] := by
      have hcontent := h.item
      rw [hitem] at hcontent
      exact List.map_eq_nil_iff.mp hcontent.symm
    have hrelayed := h.relayed
    unfold OnTheWay.inside at hrelayed ⊢
    rw [hempty] at hrelayed
    simpa using hrelayed
  taken := h.taken
  fuMbox := rfl
  item := by rw [← h.fuMbox, hmbox]
  requests := h.requests
  onAir := h.onAir
  delay := h.delay

/-- The item is published, or the request fails. -/
theorem LinkCarries.publish (h : LinkCarries b written taken l x) {fu : Bytes}
    (hitem : l.item = some fu) (sent : Bool) :
    LinkCarries b written taken
      { l with
        item := none
        requests := l.requests ++ if sent then (b.vnd.publishIes fu).toList else [] }
      { x with item := [], requests := x.requests ++ if sent then x.item else [] } where
  relayed := by
    apply h.relayed.lose
    unfold OnTheWay.inside
    cases sent with
    | true => simp
    | false =>
      simp only [Bool.false_eq_true, if_false, List.append_nil, List.nil_append]
      exact (List.Sublist.refl _).append ((List.Sublist.refl _).append
        (List.sublist_append_right _ _))
  taken := h.taken
  fuMbox := h.fuMbox
  item := rfl
  requests := by
    have hcontent := h.item
    rw [hitem] at hcontent
    obtain ⟨w, heq, hw⟩ := List.map_eq_singleton_iff.mp hcontent.symm
    cases sent with
    | false => simpa using h.requests
    | true =>
      -- A Follow_Up has the length that `publish_ies` asks for, so the request is made.
      have hpublished : ∃ ie, b.vnd.publishIes w.followUp.write = some ie := by
        unfold VndIe.publishIes
        rw [if_neg (not_not_intro (PtpFollowUp.write_length w.followUp))]
        exact ⟨_, rfl⟩
      obtain ⟨ie, hie⟩ := hpublished
      rw [heq, ← hw]
      simp [h.requests, hie]
  onAir := h.onAir
  delay := h.delay

/-- The coprocessor publishes the first request with its TSF. -/
theorem LinkCarries.patch (h : LinkCarries b written taken l x)
    (hpatch : b.vnd.Patches b.patch) {ie : Bytes} {rest : List Bytes}
    (hrequests : l.requests = ie :: rest) {tsfUs : Nat}
    (htsf : tsfUs < 256 ^ b.vnd.tsfMappingPayloadLen) (hsigned : tsfUs < 2 ^ 63)
    (hforward : ∀ w ∈ written, w.tsfUs ≤ tsfUs) :
    ∃ x', LinkCarries b written taken
      { l with requests := rest, onAir := some (b.patch ie tsfUs) } x' := by
  have hcontent := h.requests
  rw [hrequests, List.map_cons] at hcontent
  obtain ⟨w, others, heq, hw, hothers⟩ := List.map_eq_cons_iff.mp hcontent.symm
  refine ⟨{ x with air := [w], requests := others }, ?_, h.taken, h.fuMbox, h.item,
    hothers.symm, ?_, h.delay⟩
  · -- The element that was on the air gives way, seen or not.
    apply h.relayed.lose
    unfold OnTheWay.inside
    rw [heq]
    exact List.sublist_append_right _ _
  · intro ie' hie'
    have hair : b.patch ie tsfUs = b.vnd.onAir w.followUp.write tsfUs := by
      have hpublished := VndIe.publishIes_onAir hpatch (PtpFollowUp.write_length w.followUp) htsf
      rw [hw] at hpublished
      exact Option.some.inj hpublished
    have hin : w ∈ x.inside := by simp [OnTheWay.inside, heq]
    cases hie'
    exact ⟨w, mem_written h hin, tsfUs, hair, hforward w (mem_written h hin), htsf, hsigned,
      .inr rfl⟩

/-- Something happens to the station that does not bring a time. -/
theorem LinkCarries.aside (h : LinkCarries b written taken l x) {station : BeaconStation F n}
    (horigin : station.lastOriginTs = l.station.lastOriginTs)
    (hdelay : BeaconStation.AllowedDelay b.cfg station.peerDelayNs) :
    LinkCarries b written taken { l with station := station } x where
  relayed := h.relayed
  taken := h.taken
  fuMbox := h.fuMbox
  item := h.item
  requests := h.requests
  onAir := by
    intro ie hie
    obtain ⟨w, hw, tsfUs, hair, htsf, hfits, hsigned, hplace⟩ := h.onAir ie hie
    exact ⟨w, hw, tsfUs, hair, htsf, hfits, hsigned, horigin ▸ hplace⟩
  delay := hdelay

/-- A handler's step that is aside from elements, and its sections. -/
theorem LinkCarries.carried_aside (h : LinkCarries b written taken l x)
    {handled : BeaconStation F n × StationAnswer}
    (haside : BeaconStation.Aside b.cfg l.station handled) :
    LinkCarries b written taken
      { l with station := handled.1.takeSections handled.2.sections } x :=
  h.aside haside.origin (haside.delay h.delay)

/-- The station takes the element on the air, which it had not seen. -/
theorem LinkCarries.take (h : LinkCarries b written taken l x) {w : Marshalled}
    (hair : x.air = [w]) {fresh : FreshElement} (hcarried : Carried b.cfg fresh w)
    {station : BeaconStation F n}
    (hseen : ∀ ie ∈ l.onAir, ∃ w ∈ written, ∃ tsfUs : Nat,
      ie = b.vnd.onAir w.followUp.write tsfUs ∧ w.tsfUs ≤ tsfUs ∧
        tsfUs < 256 ^ b.vnd.tsfMappingPayloadLen ∧ tsfUs < 2 ^ 63 ∧
        station.lastOriginTs = w.followUp.origintimestamp)
    (hdelay : BeaconStation.AllowedDelay b.cfg station.peerDelayNs) :
    LinkCarries b written (taken ++ [fresh]) { l with station := station }
      { x with passed := x.passed ++ [w], air := [] } where
  relayed := by
    have hrelayed := h.relayed
    unfold OnTheWay.inside at hrelayed ⊢
    rw [hair] at hrelayed
    exact hrelayed.pass
  taken := List.rel_append h.taken (.cons hcarried .nil)
  fuMbox := h.fuMbox
  item := h.item
  requests := h.requests
  onAir := by
    intro ie hie
    obtain ⟨w, hw, tsfUs, hair, htsf, hfits, hsigned, horigin⟩ := hseen ie hie
    exact ⟨w, hw, tsfUs, hair, htsf, hfits, hsigned, .inl horigin⟩
  delay := hdelay

end Carries

/-! ## Runs -/

section Run

variable [CDouble F] {b : BeaconBuild n}

/-- Somewhere on its way is all that was written and not lost. -/
def LinkInv (b : BeaconBuild n) (history : List (LinkEvent F m n × StationAnswer))
    (l : BeaconLink F n) : Prop :=
  ∃ x, LinkCarries b (marshalledLog b history) (freshLog history) l x

variable {history : List (LinkEvent F m n × StationAnswer)} {l : BeaconLink F n}

omit [CDouble F] in
theorem marshalledLog_snoc (x : LinkEvent F m n × StationAnswer) :
    marshalledLog b (history ++ [x]) =
      marshalledLog b history ++ (x.1.marshalled? b).toList :=
  filterMap_snoc _ _ _

omit [CDouble F] in
theorem freshLog_snoc (x : LinkEvent F m n × StationAnswer) :
    freshLog (history ++ [x]) = freshLog history ++ x.2.fresh.toList :=
  filterMap_snoc _ _ _

omit [CDouble F] in
/-- An event that neither writes nor brings anything. -/
theorem LinkInv.silent {e : LinkEvent F m n} {answer : StationAnswer} {l : BeaconLink F n}
    (h : ∃ x, LinkCarries b (marshalledLog b history) (freshLog history) l x)
    (hwritten : e.marshalled? b = none) (hfresh : answer.fresh = none) :
    LinkInv b (history ++ [(e, answer)]) l := by
  unfold LinkInv
  rw [marshalledLog_snoc, freshLog_snoc]
  dsimp only
  rw [hwritten, hfresh]
  simpa using h

theorem linkStep_beacon {ie : Bytes} (honAir : l.onAir = some ie) (reads : VendorIeReads) :
    linkStep b l (.beacon reads : LinkEvent F m n) =
      ({ l with station := (stationStep b.cfg b.vnd b.port l.station (.vendorIe true ie reads)).1 },
        (stationStep b.cfg b.vnd b.port l.station (.vendorIe true ie reads)).2) := by
  unfold linkStep
  rw [honAir]

/-- **A beacon comes**: its element is new to the station and passes, or it is not. -/
theorem LinkInv.beacon (h : LinkInv b history l) (hgood : LinkEvents b (history.map Prod.fst))
    (reads : VendorIeReads) :
    LinkInv b (history ++ [((.beacon reads : LinkEvent F m n),
      (linkStep b l (.beacon reads : LinkEvent F m n)).2)])
      (linkStep b l (.beacon reads : LinkEvent F m n)).1 := by
  obtain ⟨x, h⟩ := h
  cases honAir : l.onAir with
  | none =>
    have hstep : linkStep b l (.beacon reads : LinkEvent F m n) = (l, .none) := by
      unfold linkStep
      rw [honAir]
    rw [hstep]
    exact LinkInv.silent ⟨x, h⟩ rfl rfl
  | some ie =>
    obtain ⟨w, hw, tsfUs, hair, hforward, hfits, hsigned, hplace⟩ := h.onAir ie honAir
    obtain ⟨htype, hmarker⟩ := hgood.marshalled_fits hw
    have hread : b.vnd.beaconTime ie = some ⟨w.followUp, tsfUs⟩ := by
      rw [hair]
      exact VndIe.beaconTime_onAir htype hfits hsigned
    have hhandled := BeaconStation.stationHandler_step b.cfg b.vnd b.port l.station
      (.vendorIe true ie reads)
    rw [linkStep_beacon honAir]
    unfold stationStep
    generalize stationHandler b.cfg b.vnd b.port l.station (.vendorIe true ie reads) = handled
      at hhandled ⊢
    dsimp only
    cases hhandled with
    | aside haside =>
      exact LinkInv.silent ⟨x, h.carried_aside haside⟩ rfl haside.fresh
    | element ie' reads' element he hread' hstep =>
      cases he
      cases hread.symm.trans hread'
      cases hstep with
      | seen hseen => exact LinkInv.silent ⟨x, h.aside rfl h.delay⟩ rfl rfl
      | fresh hfresh daemon filter disciplined hsections =>
        -- The station had not seen this element, so it is still on its way.
        have hcarried : Carried b.cfg ⟨⟨w.followUp, tsfUs⟩,
            (l.station.noteMarkers ⟨w.followUp, tsfUs⟩ reads.receivedUs).offsetRaw⟩ w := by
          refine ⟨rfl, hmarker tsfUs, Int.ofNat_le.mpr hforward, l.station.peerDelayNs, h.delay, ?_⟩
          unfold BeaconStation.offsetRaw BeaconStation.noteMarkers
          dsimp only
          rw [hmarker tsfUs]
          omega
        refine ⟨{ x with passed := x.passed ++ [w], air := [] }, ?_⟩
        rw [marshalledLog_snoc, freshLog_snoc]
        have hunchanged : marshalledLog b history ++ Option.toList none = marshalledLog b history :=
          List.append_nil _
        refine hunchanged.symm ▸ h.take (hplace.resolve_left hfresh) hcarried
          (fun ie' hie' => ?_) h.delay
        cases honAir.symm.trans hie'
        exact ⟨w, hw, tsfUs, hair, hforward, hfits, hsigned, rfl⟩

/-- **One step**: written, handed on, received, or lost. -/
theorem LinkInv.step (hpatch : b.vnd.Patches b.patch) (h : LinkInv b history l)
    (e : LinkEvent F m n) (hgood : LinkEvents b (history.map Prod.fst ++ [e])) :
    LinkInv b (history ++ [(e, (linkStep b l e).2)]) (linkStep b l e).1 := by
  cases e with
  | syncEgress daemon portIndex now tsfUs =>
    obtain ⟨x, h⟩ := h
    have hnext := h.egress ⟨(ptpMarshalFollowUp b.apCfg daemon portIndex now).2, now, tsfUs⟩
    rw [← List.append_nil (freshLog history)] at hnext
    unfold LinkInv
    rw [marshalledLog_snoc, freshLog_snoc]
    exact ⟨_, hnext⟩
  | receive =>
    obtain ⟨x, h⟩ := h
    generalize hstep : linkStep b l (.receive : LinkEvent F m n) = next
    unfold linkStep at hstep
    dsimp only at hstep
    split at hstep
    · rename_i fu hmbox hitem
      cases hstep
      exact LinkInv.silent ⟨_, h.receive hmbox hitem⟩ rfl rfl
    · cases hstep
      exact LinkInv.silent ⟨x, h⟩ rfl rfl
  | publish sent =>
    obtain ⟨x, h⟩ := h
    generalize hstep : linkStep b l (.publish sent : LinkEvent F m n) = next
    unfold linkStep at hstep
    dsimp only at hstep
    split at hstep
    · cases hstep
      exact LinkInv.silent ⟨x, h⟩ rfl rfl
    · rename_i fu hitem
      cases hstep
      exact LinkInv.silent ⟨_, h.publish hitem sent⟩ rfl rfl
  | patch tsfUs =>
    obtain ⟨x, h⟩ := h
    obtain ⟨hfits, hsigned⟩ := hgood.fits (.patch tsfUs) (by simp)
    generalize hstep : linkStep b l (.patch tsfUs : LinkEvent F m n) = next
    unfold linkStep at hstep
    dsimp only at hstep
    split at hstep
    · cases hstep
      exact LinkInv.silent ⟨x, h⟩ rfl rfl
    · rename_i ie rest hrequests
      cases hstep
      exact LinkInv.silent
        (h.patch hpatch hrequests hfits hsigned fun w hw => hgood.tsf_le rfl hw) rfl rfl
  | beacon reads => exact h.beacon hgood.of_append reads
  | station e =>
    obtain ⟨x, h⟩ := h
    generalize hstep : linkStep b l (.station e : LinkEvent F m n) = next
    unfold linkStep at hstep
    dsimp only at hstep
    split at hstep
    · cases hstep
      exact LinkInv.silent ⟨x, h⟩ rfl rfl
    · rename_i hother
      have hhandled := BeaconStation.stationHandler_step b.cfg b.vnd b.port l.station e
      unfold stationStep at hstep
      generalize stationHandler b.cfg b.vnd b.port l.station e = handled at hhandled hstep
      cases hstep
      cases hhandled with
      | aside haside => exact LinkInv.silent ⟨x, h.carried_aside haside⟩ rfl haside.fresh
      | element ie reads element he hread hstep =>
        -- Time elements come with beacons of the access point only.
        subst he
        exact absurd (by simp [StationEvent.bringsTime, hread]) hother

omit [CDouble F] in
theorem LinkInv.start {l : BeaconLink F n} (h : l.Started) :
    LinkInv b ([] : List (LinkEvent F m n × StationAnswer)) l :=
  ⟨⟨[], [], [], [], []⟩, .start, .nil, by simp [h.fuMbox], by simp [h.item],
    by simp [h.requests], by simp [OnAirFrom, h.onAir],
    .inl h.station.delay⟩

theorem linkRun (hpatch : b.vnd.Patches b.patch) {l₀ : BeaconLink F n} (hstart : l₀.Started)
    {events : List (LinkEvent F m n)} (hevents : LinkEvents b events) :
    LinkInv b (trace (linkStep b) l₀ events) (run (linkStep b) l₀ events) := by
  refine run_induction_while (fun history => LinkEvents b (history.map Prod.fst))
    (fun history x h => ?_) (.start hstart) (fun history l e hgood h => ?_) events ?_
  · rw [List.map_append] at h
    exact h.of_append
  · rw [List.map_append] at hgood
    exact h.step hpatch e hgood
  · rw [trace_fst]
    exact hevents

end Run

/-- **The station's filter takes times that were written, in their order and each at most once**:
    in every run, and each with the access point's own offset, less the time it took to publish
    it, plus a link delay. -/
theorem beaconTimes_sound [CDouble F] {b : BeaconBuild n} (hpatch : b.vnd.Patches b.patch)
    {l₀ : BeaconLink F n} (hstart : l₀.Started) {events : List (LinkEvent F m n)}
    (hevents : LinkEvents b events) :
    List.SublistForall₂ (Carried b.cfg) (freshLog (trace (linkStep b) l₀ events))
      (marshalledLog b (trace (linkStep b) l₀ events)) := by
  obtain ⟨x, h⟩ := linkRun hpatch hstart hevents
  exact List.sublistForall₂_iff.mpr ⟨x.passed, h.taken, h.relayed.sublist⟩

/-! ### A time on its way -/

namespace Sample

/-- Puts a TSF in the place of the zeros behind an element. -/
def patchTsf (ie : Bytes) (tsfUs : Nat) : Bytes :=
  ie.take (ie.length - vndIe.tsfMappingPayloadLen) ++ leBytes vndIe.tsfMappingPayloadLen tsfUs

theorem patchTsf_patches : vndIe.Patches patchTsf := by
  intro front tsfUs _
  simp [patchTsf]

def beaconBuild : BeaconBuild 0 where
  apCfg := config
  cfg := config
  vnd := vndIe
  patch := patchTsf
  port := stationPort

def beaconLink : BeaconLink ℚ 0 where
  fuMbox := none
  item := none
  requests := []
  onAir := none
  station := beaconStation

theorem beaconLink_started : beaconLink.Started :=
  ⟨rfl, rfl, rfl, rfl, beaconStation_started⟩

/-- Two times are written before one is published, and two beacons with it come. -/
def beaconDelivery : List (LinkEvent ℚ 0 0) :=
  [.syncEgress default 0 ⟨1, 0⟩ 1000000, .syncEgress default 0 ⟨2, 0⟩ 2000000, .receive,
    .publish true, .patch 2000500, .beacon (elementReads 2), .beacon (elementReads 3)]

theorem beaconDelivery_fits : LinkEvents beaconBuild beaconDelivery where
  fits := by
    have hfirst : (⟨1, 0⟩ : Timespec).Encodable config := by
      unfold Timespec.Encodable Timespec.Normalized nsecPerSec
      decide
    have hsecond : (⟨2, 0⟩ : Timespec).Encodable config := by
      unfold Timespec.Encodable Timespec.Normalized nsecPerSec
      decide
    intro e he
    simp only [beaconDelivery, List.mem_cons, List.not_mem_nil, or_false] at he
    rcases he with rfl | rfl | rfl | rfl | rfl | rfl | rfl
    · exact ⟨rfl, hfirst, by decide⟩
    · exact ⟨rfl, hsecond, by decide⟩
    · exact trivial
    · exact trivial
    · exact ⟨by decide, by decide⟩
    · exact trivial
    · exact trivial
  forward := by decide

end Sample

/-- The second time comes to the filter, once. -/
theorem beaconTimes_sound_overwritten :
    ((marshalledLog Sample.beaconBuild (trace (linkStep Sample.beaconBuild) Sample.beaconLink
      Sample.beaconDelivery)).length = 2 ∧
    (freshLog (trace (linkStep Sample.beaconBuild) Sample.beaconLink
      Sample.beaconDelivery)).map (fun fresh => fresh.element.gptpMarkerNs) = [2000000000]) ∧
    List.SublistForall₂ (Carried Sample.config)
      (freshLog (trace (linkStep Sample.beaconBuild) Sample.beaconLink Sample.beaconDelivery))
      (marshalledLog Sample.beaconBuild
        (trace (linkStep Sample.beaconBuild) Sample.beaconLink Sample.beaconDelivery)) :=
  ⟨by decide +kernel,
    beaconTimes_sound Sample.patchTsf_patches Sample.beaconLink_started
      Sample.beaconDelivery_fits⟩

end EspPtp
