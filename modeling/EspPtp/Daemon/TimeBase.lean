import EspPtp.Daemon.Signaling
import EspPtp.Daemon.Sync
import EspPtp.Wire.Codec

/-!
# The time base told to stations (`ptp_fill_gm_fields`)

A Follow_Up this clock originates names a time base: the one of the selected source, relayed
as it was received, or its own. A station compares the indicator with the one before, and
applies `lastGmPhaseChange` when it changed; so the daemon keeps what it published last.

`ptp_publish_local_source` is the second publisher next to the Follow_Up handler: while this
clock is its own source it publishes what such a Follow_Up would say.
-/

namespace EspPtp

open Lib

/-! ## The fields -/

/-- `ptp_scaled_ns_from_ns`: a signed 96-bit count of 2⁻¹⁶ nanoseconds. -/
def ptpScaledNsFromNs (valueNs : Int) : Vector UInt8 12 :=
  let signExtension : UInt8 := if valueNs < 0 then 0xff else 0
  let byte (shift : Nat) : UInt8 := UInt8.ofInt (valueNs / 2 ^ shift)
  #v[signExtension, signExtension, byte 56, byte 48, byte 40, byte 32, byte 24, byte 16, byte 8,
    byte 0, 0, 0]

namespace GmFields

variable (fields : GmFields)

/-- `gmTimeBaseIndicator`. -/
def indicator : Vector UInt8 2 := #v[fields[0], fields[1]]

/-- `lastGmPhaseChange`. -/
def phase : Vector UInt8 12 := Vector.ofFn fun i => fields[2 + i.val]

/-- The fields with another `lastGmPhaseChange`. -/
def withPhase (phase : Vector UInt8 12) : GmFields :=
  Vector.ofFn fun i =>
    if h : 2 ≤ i.val ∧ i.val < 14 then phase[i.val - 2] else fields[i]

@[simp] theorem indicator_withPhase (phase : Vector UInt8 12) :
    indicator (fields.withPhase phase) = fields.indicator := by
  simp [indicator, withPhase]

end GmFields

/-- A 16-bit number on the wire. -/
def be16Bytes (x : UInt16) : Vector UInt8 2 := #v[(x >>> 8).toUInt8, x.toUInt8]

/-- The fields of this clock's own time base. -/
def ownGmFields (indicator : UInt16) : GmFields :=
  Vector.ofFn fun i =>
    if i = 0 then (indicator >>> 8).toUInt8 else if i = 1 then indicator.toUInt8 else 0

@[simp] theorem indicator_ownGmFields (indicator : UInt16) :
    (ownGmFields indicator).indicator = be16Bytes indicator := by
  simp [GmFields.indicator, ownGmFields, be16Bytes]

/-- The first half of `ptp_fill_gm_fields`: whose fields they are. Becoming its own source,
    the clock takes the indicator after the one it relayed last. -/
def gmFieldsSource (t : PtpTimeBase) (relaying : Bool) : PtpTimeBase × GmFields :=
  if relaying then ({ t with gmFieldsOwn := false }, t.upstreamGmFields)
  else
    let t :=
      if t.gmFieldsOwn then t
      else
        { t with
          ownTimeBaseIndicator := be16 t.upstreamGmFields.indicator + 1
          gmFieldsOwn := true }
    (t, ownGmFields t.ownTimeBaseIndicator)

/-- The second half: the phase change that goes with them. -/
def gmFieldsPhase (t : PtpTimeBase) (relaying : Bool) (fields : GmFields) (btc : ClockIdentity) :
    PtpTimeBase × GmFields :=
  let publish (t : PtpTimeBase) (fields : GmFields) : PtpTimeBase × GmFields :=
    ({ t with
        publishedBtc := btc
        publishedGmFields := fields
        publishedClockUpdates := t.clockUpdates
        publishedGmValid := true }, fields)
  let rebased : PtpTimeBase := { t with phaseBaselineStepsNs := t.clockStepsNs }
  let changed := t.publishedGmValid &&
    (decide (btc ≠ t.publishedBtc) || decide (fields.indicator ≠ t.publishedGmFields.indicator))
  if !changed then
    -- The phase change told last is told again, for those that missed it.
    publish (if !t.publishedGmValid || relaying then rebased else t)
      (if t.publishedGmValid then fields.withPhase t.publishedGmFields.phase else fields)
  -- Becoming its own source, the clock carries on.
  else if !relaying then publish rebased (fields.withPhase (ptpScaledNsFromNs 0))
  -- The clock does not follow the new source yet.
  else if t.clockUpdates = t.publishedClockUpdates then (t, t.publishedGmFields)
  else
    publish rebased
      (fields.withPhase (ptpScaledNsFromNs (t.clockStepsNs - t.phaseBaselineStepsNs)))

variable {F : Type} {n : Nat}

/-- The daemon relays its source's time base. -/
def PtpState.relaying (s : PtpState F n) : Bool :=
  s.selectedSourceValid && s.upstreamGmFieldsValid

/-- The clock identity whose time base it is. -/
def PtpState.gmIdentity (s : PtpState F n) : ClockIdentity :=
  if s.relaying then s.selectedSource.btcIdentity else s.ownIdentity.btcIdentity

/-- `ptp_fill_gm_fields`. -/
def ptpFillGmFields (s : PtpState F n) : PtpState F n × GmFields :=
  let sourced := gmFieldsSource s.toPtpTimeBase s.relaying
  let filled := gmFieldsPhase sourced.1 s.relaying sourced.2 s.gmIdentity
  ({ s with toPtpTimeBase := filled.1 }, filled.2)

/-! ### Its own source -/

/-- Once the clock has an indicator of its own it stays with it until it relays. -/
theorem gmFieldsSource_own (t : PtpTimeBase) :
    (gmFieldsSource t false).1.gmFieldsOwn = true ∧
      (t.gmFieldsOwn = true →
        (gmFieldsSource t false).1.ownTimeBaseIndicator = t.ownTimeBaseIndicator) ∧
      (gmFieldsSource t false).2.indicator =
        be16Bytes (gmFieldsSource t false).1.ownTimeBaseIndicator := by
  unfold gmFieldsSource
  cases hown : t.gmFieldsOwn with
  | true => simp [hown]
  | false => simp

/-- The phase change is all the second half decides for an own source. -/
theorem gmFieldsPhase_own (t : PtpTimeBase) (fields : GmFields) (btc : ClockIdentity) :
    (gmFieldsPhase t false fields btc).1.gmFieldsOwn = t.gmFieldsOwn ∧
      (gmFieldsPhase t false fields btc).1.ownTimeBaseIndicator = t.ownTimeBaseIndicator ∧
      (gmFieldsPhase t false fields btc).2.indicator = fields.indicator := by
  unfold gmFieldsPhase
  dsimp only
  split_ifs <;> simp_all

/-- **While it is its own source, the daemon says its own indicator**, and does not change
    it. -/
theorem ptpFillGmFields_own {s : PtpState F n} (h : s.relaying = false) :
    (ptpFillGmFields s).1.gmFieldsOwn = true ∧
      (s.gmFieldsOwn = true →
        (ptpFillGmFields s).1.ownTimeBaseIndicator = s.ownTimeBaseIndicator) ∧
      (ptpFillGmFields s).2.indicator = be16Bytes (ptpFillGmFields s).1.ownTimeBaseIndicator := by
  obtain ⟨hown, hkept, hindicator⟩ := gmFieldsSource_own s.toPtpTimeBase
  obtain ⟨hown', hkept', hindicator'⟩ :=
    gmFieldsPhase_own (gmFieldsSource s.toPtpTimeBase false).1
      (gmFieldsSource s.toPtpTimeBase false).2 s.gmIdentity
  unfold ptpFillGmFields
  rw [h]
  refine ⟨hown'.trans hown, fun hs => hkept'.trans (hkept hs), ?_⟩
  show (gmFieldsPhase _ _ _ _).2.indicator = be16Bytes (gmFieldsPhase _ _ _ _).1.ownTimeBaseIndicator
  rw [hindicator', hindicator, hkept']

/-! ## A Follow_Up of this clock -/

/-- The header of `ptp_marshal_follow_up_for_beacon_ie`. -/
def followUpHeader (cfg : Config) (s : PtpState F n) (portIndex : Nat) : PtpHeader :=
  let own := s.ownIdentity.header
  { own with
    messagetype := if s.isGptp then 0x18 else 0x08
    controlfield := 2
    logmessageinterval := UInt8.ofInt cfg.syncLogInterval
    messagelength := octets 0 76
    flags := octets 0 (if s.isGptp then 8 else octet1 own.flags)
    sourceportindex := portNumber (portIndex + 1) }

/-- The information TLV around the fields. -/
def informationTlv (fields : GmFields) : Vector UInt8 32 :=
  (#v[0, 3, 0, 0x1c, 0, 0x80, 0xc2, 0, 0, 1, 0, 0, 0, 0] : Vector UInt8 14) ++ fields

theorem informationTlv_fields (fields : GmFields) {k : Nat} (hk : k < 18) :
    (informationTlv fields)[14 + k] = fields[k] := by
  apply Eq.trans (Vector.getElem_append_right (by omega) (by omega))
  simp

/-- `ptp_marshal_follow_up_for_beacon_ie`. -/
def ptpMarshalFollowUp (cfg : Config) (s : PtpState F n) (portIndex : Nat) (now : Timespec) :
    PtpState F n × PtpFollowUp :=
  let filled := ptpFillGmFields s
  let out : PtpFollowUp :=
    { header := followUpHeader cfg s portIndex
      origintimestamp := timespecToPtpFormat cfg now
      informationtlv := informationTlv filled.2 }
  (filled.1, PtpFollowUp.read (ptpGptpWireNormalize out.write s.isGptp 1))

/-- The information TLV is at byte 44. -/
theorem PtpFollowUp.u8_write (msg : PtpFollowUp) {k : Nat} (hk : k < 32) :
    msg.write.u8 (44 + k) = msg.informationtlv[k] := by
  unfold Bytes.u8 PtpFollowUp.write
  rw [List.getD_eq_getElem?_getD, List.getElem?_append_right (by simp [PtpHeader.write_length])]
  simp [PtpHeader.write_length, hk]

/-- The indicator of the fields is the one on the wire. -/
theorem ptpMarshalFollowUp_indicator (cfg : Config) (s : PtpState F n) (portIndex : Nat)
    (now : Timespec) :
    (ptpMarshalFollowUp cfg s portIndex now).2.timeBaseIndicator =
      (ptpFillGmFields s).2.indicator := by
  have hread : ∀ m : Bytes, (PtpFollowUp.read m).timeBaseIndicator = #v[m.u8 58, m.u8 59] := by
    intro m
    simp [PtpFollowUp.read, PtpFollowUp.timeBaseIndicator, tlvTimeBaseIndicator, Bytes.field]
  unfold ptpMarshalFollowUp
  dsimp only
  rw [hread, u8_normalize (by simp [wireTouches]), u8_normalize (by simp [wireTouches]),
    show 58 = 44 + 14 from rfl, show 59 = 44 + 15 from rfl, PtpFollowUp.u8_write _ (by decide),
    PtpFollowUp.u8_write _ (by decide)]
  unfold GmFields.indicator
  congr 1
  rw [← informationTlv_fields _ (by decide), ← informationTlv_fields _ (by decide)]

/-! ## The second publisher -/

/-- What `ptp_publish_local_source` reads from outside: the time, `none` for a failure. -/
structure LocalSourceAnswers where
  origin : Option Timespec
  publishedUs : Int
  now : Timespec
  deriving DecidableEq, Inhabited

/-- This clock is its own source, and hardware. -/
def PtpState.originates (cfg : Config) (s : PtpState F n) : Bool :=
  s.isGptp && !cfg.useSwClock && !s.selectedSourceValid && decide (s.ownIdentity.btcPriority1 < 255)

/-- The snapshot the local source publishes, around a marshalled Follow_Up. -/
def localSnapshot (cfg : Config) (s : PtpState F n) (generation : UInt32) (msg : PtpFollowUp)
    (origin : Timespec) (publishedUs : Int) : PtpTimingSnapshot :=
  { generation := generation
    receivedUs := publishedUs
    referenceNs := timespecToNs origin
    localReceiveNs := timespecToNs origin
    offsetNs := 0
    correctionNs := 0
    peerDelayNs := 0
    trimPpb := s.freqTrimPpb
    driftPpb := 0
    btcIdentity := s.ownIdentity.btcIdentity
    ownIdentity := s.ownIdentity.header.sourceidentity
    followUp := { msg with origintimestamp := timespecToPtpFormat cfg origin }
    hardwareClock := true
    valid := true }

/-- `ptp_publish_local_source`. -/
def ptpPublishLocalSource (cfg : Config) (s : PtpState F n) (answers : LocalSourceAnswers) :
    PtpState F n :=
  if !s.originates cfg then
    { s with localSourceSnapshot := { s.localSourceSnapshot with valid := false } }
  else
    match answers.origin with
    | none => s
    | some origin =>
      if origin.tvSec < 0 then s
      else
        let marshalled := ptpMarshalFollowUp cfg s 0 answers.now
        let t := marshalled.1.timingSnapshot
        let generation := if t.generation = 0 then 1 else t.generation
        { marshalled.1 with
          timingSnapshot := { t with generation := generation }
          localSourceSnapshot :=
            localSnapshot cfg s generation marshalled.2 origin answers.publishedUs }

end EspPtp
