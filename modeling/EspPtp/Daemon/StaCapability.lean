import Mathlib.Data.Rat.Floor
import EspPtp.Daemon.Station
import EspPtp.Lib.History

/-!
# The neighbor of a station is capable by its own word

A station takes its access point for gPTP capable because of one message: an indication
whose sender is the access point and whose source is the port bound at the time. The record
of it is kept apart from the binding and the association, which change without looking at
it. `neighborTerm_indicated` says that the three agree nevertheless: a change either clears
the record or has brought back exactly what the record is about.
-/

namespace EspPtp

open Lib

variable {F : Type}

/-! ## Nine intervals, rounded up -/

/-- The quotient of C, one less added before, rounds up. -/
theorem ediv_add_pred_eq_ceil (a : Int) {d : Int} (hd : 0 < d) :
    (a + d - 1) / d = ⌈(a : ℚ) / (d : ℚ)⌉ := by
  have hdq : (0 : ℚ) < d := by exact_mod_cast hd
  have hdiv := Int.mul_ediv_add_emod (a + d - 1) d
  have hmod := Int.emod_nonneg (a + d - 1) (Int.ne_of_gt hd)
  have hlt := Int.emod_lt_of_pos (a + d - 1) hd
  symm
  rw [Int.ceil_eq_iff]
  constructor
  · rw [lt_div_iff₀ hdq]
    have hbelow : ((a + d - 1) / d - 1) * d < a := by
      rw [Int.sub_mul, Int.mul_comm]
      omega
    exact_mod_cast hbelow
  · rw [div_le_iff₀ hdq]
    have habove : a ≤ (a + d - 1) / d * d := by
      rw [Int.mul_comm]
      omega
    exact_mod_cast habove

/-- `capableTimeoutUs` is nine intervals of `2 ^ logInterval` seconds in microseconds. -/
theorem capableTimeoutUs_eq_ceil (logInterval : Int) :
    capableTimeoutUs logInterval = ⌈(9 * 10 ^ 6 : ℚ) * 2 ^ logInterval⌉ := by
  unfold capableTimeoutUs
  split
  · rename_i hlong
    obtain ⟨k, rfl⟩ := Int.eq_ofNat_of_zero_le hlong
    have hint : (9 * 10 ^ 6 : ℚ) * 2 ^ (k : Int) = ((9000000 * 2 ^ k : Int) : ℚ) := by
      push_cast
      norm_num
    rw [hint, Int.ceil_intCast]
    rfl
  · rename_i hshort
    obtain ⟨k, hk⟩ := Int.eq_ofNat_of_zero_le (show 0 ≤ -logInterval by omega)
    obtain rfl : logInterval = -(k : Int) := by omega
    have hpos : (0 : Int) < 2 ^ k := by positivity
    have hquot : (9 * 10 ^ 6 : ℚ) * 2 ^ (-(k : Int)) = (9000000 : ℚ) / ((2 ^ k : Int) : ℚ) := by
      push_cast
      rw [zpow_neg, zpow_natCast]
      norm_num
      rfl
    rw [hquot, neg_neg, Int.toNat_natCast]
    exact ediv_add_pred_eq_ceil 9000000 hpos

/-! ## The steps of a run -/

/-- A section, or a write of the active profile. -/
inductive CapabilityStep where
  | port (sec : StationSection)
  | setProfile (gptp : Bool)

/-- One step, and the state it found. -/
def capabilityStep (cfg : Config) (s : Station F) : CapabilityStep → Station F × Station F
  | .port sec => (stationSection cfg s sec, s)
  | .setProfile gptp => ({ s with gptp := gptp }, s)

/-- What happened in a run: each step with the state it found. -/
abbrev StationHistory (F : Type) := List (CapabilityStep × Station F)

/-- The station takes the indication: it is open for Signaling of its neighbor, the message
    came from there within the association, and `ptp_capable_receive` records it. -/
def Station.takes (s : Station F) (sender : Option MacAddr) (association : UInt32)
    (indication : PtpCapableMessage) (nowUs : Int) : Bool :=
  s.port.wifiOpen s.gptp .sta && s.port.wifiNeighbor.bound &&
    decide (association = s.port.wifiNeighbor.association) &&
    sender.any (ptpWifiNeighborAccepts s.port.wifiNeighbor) &&
    (ptpCapableReceive s.port.capableReceive indication s.port.wifiNeighbor.portIdentity
      s.port.wifiNeighbor.association nowUs).2

/-- An Announce that binds the access point's port. -/
def Station.binds (s : Station F) (rx : RxScratch) (msg : PtpAnnounce) : Bool :=
  decide (s.port.medium = .wifiFtm) && decide (s.port.wifiMode = .sta) &&
    rx.rxSourceMacValid &&
    (ptpWifiNeighborBind s.port.wifiNeighbor rx.rxAssociation rx.rxSourceMac
      msg.header.sourcePort).2

/-- The step is an indication from this access point in this association, and was taken at
    `receivedUs`, with the access point's port bound to the message's source. -/
def Indicated (bssid : MacAddr) (association : UInt32) (message : PtpCapableMessage)
    (receivedUs : Int) (x : CapabilityStep × Station F) : Prop :=
  (∃ mono, x.1 =
      .port (.indication (some bssid) association message receivedUs mono)) ∧
    x.2.takes (some bssid) association message receivedUs = true ∧
    x.2.port.wifiNeighbor.portIdentity = message.sourcePort

/-- No association begins or ends in the step, no change of the link begins, or ends where
    the link is up, the port is not reset, and no other port is bound. -/
def LeftAlone (identity : PortIdentity) (linkUp : Bool) :
    CapabilityStep × Station F → Prop
  | (.port (.associate _), _) => False
  | (.port (.adopt association bssid), found) => adoptPort found.port association bssid = found.port
  | (.port (.setPortLink up), found) => (found.setPortLink up).linkChange = found.linkChange
  | (.port .linkWritten, found) => linkUp = true → found.linkChange = none
  | (.port .resetForProfile, _) => False
  | (.port (.announce rx msg), found) =>
    found.binds rx msg = true → msg.header.sourcePort = identity
  | _ => True

/-- The message a record is of was taken, and nothing has disturbed it since. -/
def IndicatedSince (h : StationHistory F) (neighbor : PtpWifiNeighbor)
    (message : PtpCapableMessage) (receivedUs : Int) (linkUp : Bool) : Prop :=
  Since
    (fun _ x => Indicated neighbor.bssid neighbor.association message receivedUs x)
    (LeftAlone neighbor.portIdentity linkUp) h

/-! ## What a step does to the record -/

/-- What a record is read with. -/
structure RecordKept (s s' : Station F) : Prop where
  record : s'.port.capableReceive = s.port.capableReceive
  associated : s'.port.wifiNeighbor.associated = s.port.wifiNeighbor.associated
  association : s'.port.wifiNeighbor.association = s.port.wifiNeighbor.association
  bssid : s'.port.wifiNeighbor.bssid = s.port.wifiNeighbor.bssid
  identity : s'.port.wifiNeighbor.portIdentity = s.port.wifiNeighbor.portIdentity

/-- A step clears the record, records an indication, or leaves the record and what it is
    read with. -/
inductive RecordStep (s s' : Station F) (x : CapabilityStep × Station F) : Prop
  | cleared (hcleared : s'.port.capableReceive.valid = false)
  | taken {message : PtpCapableMessage} {receivedUs : Int}
      (hneighbor : s'.port.wifiNeighbor = s.port.wifiNeighbor)
      (hindicated : Indicated s.port.wifiNeighbor.bssid s.port.wifiNeighbor.association
        message receivedUs x)
      (hrecord : s'.port.capableReceive =
        { message := message
          lifecycle := s.port.wifiNeighbor.association
          receivedUs := receivedUs
          expiresUs := receivedUs + capableTimeoutUs message.logInterval
          valid := true })
  | kept (hkept : RecordKept s s') (hlink : s'.port.linkUp = true → s.port.linkUp = true)
      (hleft : LeftAlone s.port.wifiNeighbor.portIdentity s'.port.linkUp x)

/-- The port of a station, on which a link that comes up knows of nothing. -/
structure StationPort (s : Station F) : Prop where
  medium : s.port.medium = .wifiFtm
  wifiMode : s.port.wifiMode = .sta
  link : s.linkChange = some true →
    s.port.linkUp = false ∧ s.port.capableReceive.valid = false

/-- A station's port is on Wi-Fi: of the branches for an indication only its own is open. -/
theorem indicationSection_station {s : Station F} (hs : StationPort s)
    (sender : Option MacAddr) (association : UInt32) (indication : PtpCapableMessage)
    (nowUs : Int) :
    indicationSection s.gptp s.port sender association indication nowUs =
      if s.takes sender association indication nowUs then
        { s.port with
          capableReceive :=
            (ptpCapableReceive s.port.capableReceive indication
              s.port.wifiNeighbor.portIdentity s.port.wifiNeighbor.association nowUs).1 }
      else s.port := by
  have hwired : s.port.wiredBound s.gptp = false := by
    simp [PtpPort.wiredBound, hs.medium]
  have hap : s.port.wifiOpen s.gptp .ap = false := by
    simp [PtpPort.wifiOpen, hs.wifiMode]
  have hrefused
      (h : (ptpCapableReceive s.port.capableReceive indication
        s.port.wifiNeighbor.portIdentity s.port.wifiNeighbor.association nowUs).2 = false) :
      (ptpCapableReceive s.port.capableReceive indication
        s.port.wifiNeighbor.portIdentity s.port.wifiNeighbor.association nowUs).1 =
        s.port.capableReceive := by
    revert h
    unfold ptpCapableReceive
    dsimp only
    split_ifs <;> simp
  unfold indicationSection Station.takes
  rw [hwired, hap]
  simp only [Bool.false_eq_true, if_false, Bool.and_eq_true]
  split
  · rename_i hopen
    by_cases hrecord : (ptpCapableReceive s.port.capableReceive indication
        s.port.wifiNeighbor.portIdentity s.port.wifiNeighbor.association nowUs).2 = true
    · rw [if_pos ⟨hopen, hrecord⟩]
    · rw [if_neg fun h => hrecord h.2, hrefused (Bool.eq_false_iff.mpr hrecord)]
  · rename_i hshut
    rw [if_neg fun h => hshut h.1]
    cases sender <;> rfl

/-- What a taken indication says, and what is recorded of it. -/
theorem takes_spec {s : Station F} {sender : Option MacAddr} {association : UInt32}
    {indication : PtpCapableMessage} {nowUs : Int}
    (h : s.takes sender association indication nowUs = true) :
    s.port.linkUp = true ∧ s.port.wifiNeighbor.associated = true ∧
      sender = some s.port.wifiNeighbor.bssid ∧
      association = s.port.wifiNeighbor.association ∧
      s.port.wifiNeighbor.portIdentity = indication.sourcePort ∧
      (ptpCapableReceive s.port.capableReceive indication s.port.wifiNeighbor.portIdentity
        s.port.wifiNeighbor.association nowUs).1 =
        { message := indication
          lifecycle := s.port.wifiNeighbor.association
          receivedUs := nowUs
          expiresUs := nowUs + capableTimeoutUs indication.logInterval
          valid := true } := by
  simp only [Station.takes, PtpPort.wifiOpen, Bool.and_eq_true, decide_eq_true_eq] at h
  obtain ⟨⟨⟨⟨hopen, -⟩, hassociation⟩, hsender⟩, hrecord⟩ := h
  obtain ⟨mac, rfl, haccepts⟩ := (Option.any_eq_true ..).mp hsender
  simp only [ptpWifiNeighborAccepts, Bool.and_eq_true, decide_eq_true_eq] at haccepts
  unfold ptpCapableReceive at hrecord ⊢
  dsimp only at hrecord ⊢
  split_ifs at hrecord ⊢ with hinvalid hlate
  rw [not_or, not_not] at hinvalid
  refine ⟨hopen.1.1.1.2, haccepts.1, ?_, hassociation, hinvalid.1.symm, rfl⟩
  rw [haccepts.2]

theorem ptpWifiNeighborBind_spec (neighbor : PtpWifiNeighbor) (association : UInt32)
    (mac : MacAddr) (identity : PortIdentity) :
    ptpWifiNeighborBind neighbor association mac identity = (neighbor, false) ∨
      ((ptpWifiNeighborBind neighbor association mac identity).2 = true ∧
        SameAssociation neighbor (ptpWifiNeighborBind neighbor association mac identity).1 ∧
        (ptpWifiNeighborBind neighbor association mac identity).1.portIdentity = identity) := by
  unfold ptpWifiNeighborBind
  split
  · exact .inl rfl
  · refine .inr ⟨rfl, ?_, rfl⟩
    dsimp only
    split
    · exact ⟨rfl, rfl, rfl⟩
    · exact ⟨rfl, rfl, rfl⟩

/-- The binding of an Announce. -/
theorem announce_recordStep {s : Station F} (hs : StationPort s) (rx : RxScratch)
    (msg : PtpAnnounce)
    (hagree : s.port.capableReceive.valid = true →
      s.port.capableReceive.message.sourcePort = s.port.wifiNeighbor.portIdentity) :
    RecordStep s { s with port := (announceNeighbor (s.port.receiving rx) msg).1 }
      (.port (.announce rx msg), s) := by
  by_cases hmac : rx.rxSourceMacValid = true
  · have hport : announceNeighbor (s.port.receiving rx) msg =
        (let answer := ptpWifiNeighborBind s.port.wifiNeighbor rx.rxAssociation rx.rxSourceMac
          msg.header.sourcePort
        ({ s.port.receiving rx with
            wifiNeighbor := answer.1
            capableReceive :=
              if answer.2 ∧ s.port.capableReceive.message.sourcePort ≠ msg.header.sourcePort then
                { s.port.capableReceive with valid := false }
              else s.port.capableReceive }, answer.2)) := by
      unfold announceNeighbor
      rw [if_pos ⟨hs.medium, hs.wifiMode, hmac⟩]
      rfl
    have hbinds : s.binds rx msg =
        (ptpWifiNeighborBind s.port.wifiNeighbor rx.rxAssociation rx.rxSourceMac
          msg.header.sourcePort).2 := by
      simp [Station.binds, hs.medium, hs.wifiMode, hmac]
    rw [hport]
    rcases ptpWifiNeighborBind_spec s.port.wifiNeighbor rx.rxAssociation rx.rxSourceMac
        msg.header.sourcePort with hrefused | ⟨hbound, hsame, hidentity⟩
    · rw [hrefused] at hbinds ⊢
      refine .kept ⟨?_, rfl, rfl, rfl, rfl⟩ id ?_
      · simp
      · intro h
        rw [hbinds] at h
        cases h
    · by_cases hvalid : s.port.capableReceive.valid = true
      · by_cases hother : s.port.capableReceive.message.sourcePort = msg.header.sourcePort
        · -- The port that is bound is the one of the record, so it was bound before.
          have hunmoved : msg.header.sourcePort = s.port.wifiNeighbor.portIdentity :=
            hother.symm.trans (hagree hvalid)
          refine .kept ⟨?_, hsame.associated, hsame.association, hsame.bssid,
            hidentity.trans hunmoved⟩ id ?_
          · simp [hother]
          · intro _
            exact hunmoved
        · refine .cleared ?_
          simp [hbound, hother]
      · refine .cleared ?_
        dsimp only
        split
        · rfl
        · exact Bool.eq_false_iff.mpr hvalid
  · have hport : (announceNeighbor (s.port.receiving rx) msg).1 = s.port.receiving rx := by
      unfold announceNeighbor
      rw [if_neg fun h => hmac h.2.2]
    rw [hport]
    refine .kept ⟨rfl, rfl, rfl, rfl, rfl⟩ id ?_
    intro h
    simp [Station.binds, hmac] at h

/-- Where there is something to adopt there is no association, and so no record. -/
theorem adopt_recordStep {s : Station F} (association : UInt32) (bssid : MacAddr)
    (hassociated : s.port.capableReceive.valid = true →
      s.port.wifiNeighbor.associated = true) :
    RecordStep s { s with port := adoptPort s.port association bssid }
      (.port (.adopt association bssid), s) := by
  by_cases hadopts : s.port.wifiMode = .sta ∧ s.port.wifiNeighbor.association = association ∧
      s.port.wifiNeighbor.associated = false
  · refine .cleared ?_
    unfold adoptPort
    rw [if_pos hadopts]
    refine Bool.eq_false_iff.mpr fun hvalid => ?_
    have hthere := hassociated hvalid
    rw [hadopts.2.2] at hthere
    cases hthere
  · have hnothing : adoptPort s.port association bssid = s.port := by
      unfold adoptPort
      rw [if_neg hadopts]
    rw [hnothing]
    exact .kept ⟨rfl, rfl, rfl, rfl, rfl⟩ id hnothing

theorem setPortLink_recordStep (s : Station F) (up : Bool) :
    RecordStep s (s.setPortLink up) (.port (.setPortLink up), s) := by
  by_cases hsame : s.port.linkUp = up ∨ s.linkChange.isSome = true
  · have hnothing : s.setPortLink up = s := by
      unfold Station.setPortLink
      rw [if_pos hsame]
    rw [hnothing]
    refine .kept ⟨rfl, rfl, rfl, rfl, rfl⟩ id ?_
    show (s.setPortLink up).linkChange = s.linkChange
    rw [hnothing]
  · refine .cleared ?_
    unfold Station.setPortLink
    rw [if_neg hsame]

theorem linkWritten_recordStep (cfg : Config) {s : Station F} (hs : StationPort s) :
    RecordStep s (stationSection cfg s .linkWritten) (.port .linkWritten, s) := by
  cases hchange : s.linkChange with
  | none =>
    have hsame : (stationSection cfg s .linkWritten).port.linkUp = s.port.linkUp := by
      show s.linkChange.getD s.port.linkUp = s.port.linkUp
      rw [hchange]
      rfl
    refine .kept ⟨rfl, rfl, rfl, rfl, rfl⟩ (fun h => hsame ▸ h) ?_
    intro _
    exact hchange
  | some up =>
    have hup : (stationSection cfg s .linkWritten).port.linkUp = up := by
      show s.linkChange.getD s.port.linkUp = up
      rw [hchange]
      rfl
    cases up with
    | true => exact .cleared (hs.link hchange).2
    | false =>
      refine .kept ⟨rfl, rfl, rfl, rfl, rfl⟩ (fun h => ?_) (fun h => ?_)
      · rw [hup] at h
        cases h
      · rw [hup] at h
        cases h

theorem indication_recordStep {s : Station F} (hs : StationPort s) (sender : Option MacAddr)
    (association : UInt32) (indication : PtpCapableMessage) (nowUs : Int) (mono : Timespec) :
    RecordStep s
      { s with
        port := handleIndication s.gptp s.port sender association indication nowUs mono }
      (.port (.indication sender association indication nowUs mono), s) := by
  unfold handleIndication
  rw [indicationSection_station hs]
  by_cases htakes : s.takes sender association indication nowUs = true
  · obtain ⟨-, -, rfl, rfl, hidentity, hrecord⟩ := takes_spec htakes
    rw [if_pos htakes]
    exact .taken rfl ⟨⟨mono, rfl⟩, htakes, hidentity⟩ hrecord
  · rw [if_neg htakes]
    exact .kept ⟨rfl, rfl, rfl, rfl, rfl⟩ id trivial

/-- **What a step does to the record of an indication.** -/
theorem capabilityStep_recordStep (cfg : Config) {s : Station F} (hs : StationPort s)
    (hagree : s.port.capableReceive.valid = true →
      s.port.capableReceive.message.sourcePort = s.port.wifiNeighbor.portIdentity)
    (hassociated : s.port.capableReceive.valid = true →
      s.port.wifiNeighbor.associated = true)
    (step : CapabilityStep) : RecordStep s (capabilityStep cfg s step).1 (step, s) := by
  cases step with
  | setProfile gptp => exact .kept ⟨rfl, rfl, rfl, rfl, rfl⟩ id trivial
  | port sec =>
    cases sec with
    | associate bssid =>
      refine .cleared ?_
      show (associatePort s.port bssid).capableReceive.valid = false
      unfold associatePort
      rw [if_pos hs.wifiMode]
    | adopt association bssid => exact adopt_recordStep association bssid hassociated
    | setPortLink up => exact setPortLink_recordStep s up
    | linkWritten => exact linkWritten_recordStep cfg hs
    | resetForProfile => exact .cleared rfl
    | announce rx msg => exact announce_recordStep hs rx msg hagree
    | indication sender association indication nowUs mono =>
      exact indication_recordStep hs sender association indication nowUs mono
    | timing sender association request =>
      obtain ⟨peers, neighbor, heq, hneighbor⟩ :=
        timingSection_eq cfg s.gptp s.port sender association request
      have hsync : ∃ sync, neighbor = { s.port.wifiNeighbor with sync := sync } := by
        rcases hneighbor with rfl | ⟨mac, rfl⟩
        · exact ⟨s.port.wifiNeighbor.sync, rfl⟩
        · unfold ptpWifiNeighborSyncInterval
          split
          · exact ⟨_, rfl⟩
          · exact ⟨s.port.wifiNeighbor.sync, rfl⟩
      obtain ⟨sync, rfl⟩ := hsync
      show RecordStep s
        { s with port := timingSection cfg s.gptp s.port sender association request } _
      rw [heq]
      exact .kept ⟨rfl, rfl, rfl, rfl, rfl⟩ id trivial
    | interval sender association request =>
      obtain ⟨wired, peers, transmit, heq⟩ :=
        intervalSection_eq s.gptp s.port sender association request
      show RecordStep s
        { s with port := intervalSection s.gptp s.port sender association request } _
      rw [heq]
      exact .kept ⟨rfl, rfl, rfl, rfl, rfl⟩ id trivial

/-- The port is a station's for good; and while the link is about to come up it is down, so
    that nothing is recorded. -/
theorem capabilityStep_stationPort (cfg : Config) {s : Station F} (hs : StationPort s)
    (step : CapabilityStep) : StationPort (capabilityStep cfg s step).1 := by
  cases step with
  | setProfile gptp => exact ⟨hs.medium, hs.wifiMode, hs.link⟩
  | port sec =>
    cases sec with
    | associate bssid =>
      show StationPort { s with port := associatePort s.port bssid }
      unfold associatePort
      rw [if_pos hs.wifiMode]
      exact ⟨hs.medium, hs.wifiMode, fun h => ⟨(hs.link h).1, rfl⟩⟩
    | adopt association bssid =>
      show StationPort { s with port := adoptPort s.port association bssid }
      unfold adoptPort
      split
      · exact ⟨hs.medium, hs.wifiMode, hs.link⟩
      · exact ⟨hs.medium, hs.wifiMode, hs.link⟩
    | setPortLink up =>
      show StationPort (s.setPortLink up)
      unfold Station.setPortLink
      split
      · exact hs
      · rename_i hchanges
        refine ⟨hs.medium, hs.wifiMode, fun h => ⟨?_, rfl⟩⟩
        obtain rfl := Option.some.inj h
        exact Bool.eq_false_iff.mpr fun hup => hchanges (.inl hup)
    | linkWritten => exact ⟨hs.medium, hs.wifiMode, fun h => by cases h⟩
    | resetForProfile => exact ⟨hs.medium, hs.wifiMode, fun h => ⟨(hs.link h).1, rfl⟩⟩
    | announce rx msg =>
      show StationPort { s with port := (announceNeighbor (s.port.receiving rx) msg).1 }
      unfold announceNeighbor
      split
      · refine ⟨hs.medium, hs.wifiMode, fun h => ⟨(hs.link h).1, ?_⟩⟩
        dsimp only
        split
        · rfl
        · exact (hs.link h).2
      · exact ⟨hs.medium, hs.wifiMode, hs.link⟩
    | indication sender association indication nowUs mono =>
      show StationPort { s with
        port := handleIndication s.gptp s.port sender association indication nowUs mono }
      unfold handleIndication
      rw [indicationSection_station hs]
      by_cases htakes : s.takes sender association indication nowUs = true
      · rw [if_pos htakes]
        refine ⟨hs.medium, hs.wifiMode, fun h => ?_⟩
        have hup := (takes_spec htakes).1
        rw [(hs.link h).1] at hup
        cases hup
      · rw [if_neg htakes]
        exact ⟨hs.medium, hs.wifiMode, hs.link⟩
    | timing sender association request =>
      obtain ⟨peers, neighbor, heq, -⟩ :=
        timingSection_eq cfg s.gptp s.port sender association request
      show StationPort
        { s with port := timingSection cfg s.gptp s.port sender association request }
      rw [heq]
      exact ⟨hs.medium, hs.wifiMode, hs.link⟩
    | interval sender association request =>
      obtain ⟨wired, peers, transmit, heq⟩ :=
        intervalSection_eq s.gptp s.port sender association request
      show StationPort
        { s with port := intervalSection s.gptp s.port sender association request }
      rw [heq]
      exact ⟨hs.medium, hs.wifiMode, hs.link⟩

/-! ## Whole runs -/

/-- A valid record is of an indication that was taken, and nothing has disturbed it since. -/
structure RecordHeld (h : StationHistory F) (s : Station F) : Prop where
  port : StationPort s
  associated : s.port.capableReceive.valid = true → s.port.wifiNeighbor.associated = true
  sourcePort : s.port.capableReceive.valid = true →
    s.port.capableReceive.message.sourcePort = s.port.wifiNeighbor.portIdentity
  expiresUs : s.port.capableReceive.valid = true →
    s.port.capableReceive.expiresUs = s.port.capableReceive.receivedUs +
      capableTimeoutUs s.port.capableReceive.message.logInterval
  since : s.port.capableReceive.valid = true →
    IndicatedSince h s.port.wifiNeighbor s.port.capableReceive.message
      s.port.capableReceive.receivedUs s.port.linkUp

/-- What does not disturb a link that is up does not disturb one that may be down. -/
theorem LeftAlone.mono {identity : PortIdentity} {linkUp linkUp' : Bool}
    (hlink : linkUp' = true → linkUp = true) {x : CapabilityStep × Station F}
    (h : LeftAlone identity linkUp x) : LeftAlone identity linkUp' x := by
  obtain ⟨step, found⟩ := x
  cases step with
  | setProfile gptp => exact h
  | port sec =>
    cases sec with
    | linkWritten => exact fun hup => h (hlink hup)
    | _ => exact h

theorem RecordHeld.step {cfg : Config} {h : StationHistory F} {s : Station F}
    (hheld : RecordHeld h s) (step : CapabilityStep) :
    RecordHeld (h ++ [(step, (capabilityStep cfg s step).2)])
      (capabilityStep cfg s step).1 := by
  have hfound : (capabilityStep cfg s step).2 = s := by
    cases step <;> rfl
  have hport := capabilityStep_stationPort cfg hheld.port step
  rw [hfound]
  cases capabilityStep_recordStep cfg hheld.port hheld.sourcePort hheld.associated step with
  | cleared hcleared =>
    have hnone (hvalid : (capabilityStep cfg s step).1.port.capableReceive.valid = true) :
        False := by
      rw [hcleared] at hvalid
      cases hvalid
    exact ⟨hport, fun hv => (hnone hv).elim, fun hv => (hnone hv).elim,
      fun hv => (hnone hv).elim, fun hv => (hnone hv).elim⟩
  | taken hneighbor hindicated hrecord =>
    refine ⟨hport, ?_, ?_, ?_, ?_⟩
    · intro _
      rw [hneighbor]
      exact (takes_spec hindicated.2.1).2.1
    · intro _
      rw [hrecord, hneighbor]
      exact hindicated.2.2.symm
    · intro _
      rw [hrecord]
    · intro _
      rw [hrecord]
      apply Since.now
      rw [hneighbor]
      exact hindicated
  | kept hkept hlink hleft =>
    refine ⟨hport, ?_, ?_, ?_, ?_⟩
    · rw [hkept.record, hkept.associated]
      exact hheld.associated
    · rw [hkept.record, hkept.identity]
      exact hheld.sourcePort
    · rw [hkept.record]
      exact hheld.expiresUs
    · intro hvalid
      rw [hkept.record] at hvalid
      unfold IndicatedSince
      rw [hkept.record, hkept.association, hkept.bssid, hkept.identity]
      exact Since.snoc
        ((hheld.since hvalid).mono (fun _ _ => id) fun _ hy => LeftAlone.mono hlink hy)
        hleft

/-- A station's port before its first indication. -/
structure Station.Fresh (s : Station F) : Prop where
  medium : s.port.medium = .wifiFtm
  wifiMode : s.port.wifiMode = .sta
  linkChange : s.linkChange = none
  unindicated : s.port.capableReceive.valid = false

theorem recordHeld_run (cfg : Config) {s₀ : Station F} (hs₀ : s₀.Fresh)
    (steps : List CapabilityStep) :
    RecordHeld (trace (capabilityStep cfg) s₀ steps) (run (capabilityStep cfg) s₀ steps) := by
  apply run_induction
  · have hnone (hvalid : s₀.port.capableReceive.valid = true) : False := by
      rw [hs₀.unindicated] at hvalid
      cases hvalid
    refine ⟨⟨hs₀.medium, hs₀.wifiMode, fun h => ?_⟩, fun hv => (hnone hv).elim,
      fun hv => (hnone hv).elim, fun hv => (hnone hv).elim, fun hv => (hnone hv).elim⟩
    rw [hs₀.linkChange] at h
    cases h
  · intro h s step hheld
    exact hheld.step step

/-- **The neighbor of a station is capable by its own word.** Whenever the term is true, an
    indication from the present access point, sent by the port bound now, was taken less than
    nine of its intervals ago; and since then no association began or ended, the link did not
    change, the port was not reset, and no other port was ever bound. -/
theorem neighborTerm_indicated (cfg : Config) {s₀ : Station F} (hs₀ : s₀.Fresh)
    (steps : List CapabilityStep) (nowUs : Int)
    (hterm : neighborTerm (run (capabilityStep cfg) s₀ steps).port nowUs = true) :
    let s := run (capabilityStep cfg) s₀ steps
    ∃ logInterval receivedUs : Int,
      receivedUs ≤ nowUs ∧
      nowUs < receivedUs + ⌈(9 * 10 ^ 6 : ℚ) * 2 ^ logInterval⌉ ∧
      IndicatedSince (trace (capabilityStep cfg) s₀ steps) s.port.wifiNeighbor
        ⟨s.port.wifiNeighbor.portIdentity, logInterval⟩ receivedUs s.port.linkUp := by
  have hheld := recordHeld_run cfg hs₀ steps
  generalize run (capabilityStep cfg) s₀ steps = s at hterm hheld ⊢
  simp only [neighborTerm, ptpNeighborCapable, Bool.and_eq_true, decide_eq_true_eq] at hterm
  obtain ⟨-, ⟨⟨⟨hvalid, -⟩, hsource⟩, hfrom⟩, huntil⟩ := hterm
  refine ⟨s.port.capableReceive.message.logInterval, s.port.capableReceive.receivedUs,
    hfrom, ?_, ?_⟩
  · rw [← capableTimeoutUs_eq_ceil, ← hheld.expiresUs hvalid]
    exact huntil
  · rw [← hsource]
    exact hheld.since hvalid

namespace Sample

/-- A station that binds its access point's port and hears from it. -/
def freshStation : Station Unit :=
  { gptp := true
    port := { (default : PtpPort Unit) with
      enabled := true, linkUp := true, medium := .wifiFtm, wifiMode := .sta }
    linkChange := none }

def indicatedSteps (accessPoint : MacAddr) : List CapabilityStep :=
  [.port (.associate (some accessPoint)),
    .port (.announce
      { (default : RxScratch) with
        rxSourceMac := accessPoint, rxSourceMacValid := true, rxAssociation := 1 } default),
    .port (.indication (some accessPoint) 1 ⟨default, -3⟩ 1000 default)]

end Sample

theorem neighborTerm_indicated_sample :
    let steps := Sample.indicatedSteps #v[2, 0, 0, 0, 0, 1]
    let s := run (capabilityStep Sample.config) Sample.freshStation steps
    ∃ logInterval receivedUs : Int,
      receivedUs ≤ 1126000 - 1 ∧
      1126000 - 1 < receivedUs + ⌈(9 * 10 ^ 6 : ℚ) * 2 ^ logInterval⌉ ∧
      IndicatedSince (trace (capabilityStep Sample.config) Sample.freshStation steps)
        s.port.wifiNeighbor ⟨s.port.wifiNeighbor.portIdentity, logInterval⟩ receivedUs
        s.port.linkUp :=
  neighborTerm_indicated Sample.config ⟨rfl, rfl, rfl, rfl⟩
    (Sample.indicatedSteps #v[2, 0, 0, 0, 0, 1]) (1126000 - 1) (by decide +kernel)

end EspPtp
