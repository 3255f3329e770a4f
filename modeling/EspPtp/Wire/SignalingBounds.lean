import EspPtp.Wire.SignalingGrammar

/-!
# A Signaling message is read within its bounds

The functions of `ptp_signaling.h` once more, with every read checked: a read past the bound
is `none`, and so is then the whole function. The header is read below the received size, and
the TLVs below the length the message gives itself, which may be less.

They never are `none`, whatever the message says of the lengths in it.
-/

namespace EspPtp

open Lib

/-! ## Checked reads -/

namespace Bytes

variable (m : Bytes)

/-- A byte below a bound. -/
def readBelow (bound i : Nat) : Option UInt8 := if i < bound then some (m.u8 i) else none

/-- Two bytes below a bound. -/
def wordBelow (bound i : Nat) : Option Nat :=
  match m.readBelow bound i, m.readBelow bound (i + 1) with
  | some hi, some lo => some (hi.toNat * 256 + lo.toNat)
  | _, _ => none

/-- Bytes that are compared or copied, all of them below a bound. -/
def fieldBelow (bound i n : Nat) : Option (Vector UInt8 n) :=
  if i + n ≤ bound then some (m.field i n) else none

variable {m} {bound i n : Nat}

theorem readBelow_eq (h : i < bound) : m.readBelow bound i = some (m.u8 i) := if_pos h

theorem wordBelow_eq (h : i + 2 ≤ bound) : m.wordBelow bound i = some (m.word i) := by
  unfold wordBelow
  rw [readBelow_eq (by omega), readBelow_eq (by omega)]
  rfl

theorem fieldBelow_eq (h : i + n ≤ bound) : m.fieldBelow bound i n = some (m.field i n) := if_pos h

end Bytes

/-! ## The source, with checked reads -/

/-- `knownTlv`, checked. -/
def knownTlvBelow (message : Bytes) (bound offset body : Nat) : Option (Option UInt8) :=
  if body ≥ 6 then do
    let organization ← message.fieldBelow bound (offset + 4) 5
    if organization = ieee8021OrgId then do
      let kind ← message.readBelow bound (offset + 9)
      let type ← message.wordBelow bound offset
      let expectedType := if kind = 2 then 0x0003 else 0x8000
      if (kind = 2 ∨ kind = 4 ∨ kind = 5) ∧ type = expectedType then some (some kind)
      else some none
    else some none
  else some none

/-- The loop of `ptp_signaling_find_tlv`, checked against the message's own length. -/
def findTlvLoopBelow (message : Bytes) (length : Nat) (subtype : UInt8) (offset : Nat)
    (seen : List UInt8) (found : Option Nat) : Option (PtpSignaling Nat) :=
  if offset < length then
    if length - offset < 4 then some .malformed
    else
      match message.wordBelow length (offset + 2) with
      | none => none
      | some body =>
        if body > length - offset - 4 ∨ body % 2 = 1 then some .malformed
        else
          match knownTlvBelow message length offset body with
          | none => none
          | some none => findTlvLoopBelow message length subtype (offset + body + 4) seen found
          | some (some kind) =>
            if body ≠ expectedBody kind ∨ kind ∈ seen then some .malformed
            else
              findTlvLoopBelow message length subtype (offset + body + 4) (kind :: seen)
                (if kind = subtype then some offset else found)
  else
    match found with
    | none => some .ignored
    | some offset => some (.decoded offset)
termination_by length - offset

/-- `ptp_signaling_find_tlv`, its header checked against the received size. -/
def ptpSignalingFindTlvBelow (message : Bytes) (received : Nat) (domain : UInt8)
    (localPort : PortIdentity) (subtype : UInt8) : Option (PtpSignaling Nat) :=
  if received < 44 then some .malformed
  else do
    let length ← message.wordBelow received 2
    if length < 44 ∨ length > received then some .malformed
    else do
      let type ← message.readBelow received 0
      let version ← message.readBelow received 1
      let messageDomain ← message.readBelow received 4
      let minorSdoId ← message.readBelow received 5
      if type ≠ 0x1c ∨ version &&& 15 ≠ 2 ∨ messageDomain ≠ domain ∨ minorSdoId ≠ 0 then
        some .ignored
      else do
        let targetClock ← message.fieldBelow received 34 8
        let targetPort ← message.fieldBelow received 42 2
        let source ← message.fieldBelow received 20 8
        let target : PortIdentity := ⟨targetClock, targetPort⟩
        if target ≠ .wildcard ∧ target ≠ localPort then some .ignored
        else if source = localPort.clock then some .ignored
        else findTlvLoopBelow message length subtype 44 [] none

/-- The ten bytes of the source port, checked. -/
def sourcePortBelow (message : Bytes) (received : Nat) : Option PortIdentity := do
  let clock ← message.fieldBelow received 20 8
  let port ← message.fieldBelow received 28 2
  some ⟨clock, port⟩

/-- `ptp_signaling_read_capable_tlv`, checked; the TLV against the message's own length. -/
def ptpSignalingReadCapableTlvBelow (message : Bytes) (received : Nat) (domain : UInt8)
    (localPort : PortIdentity) (subtype : UInt8) : Option (PtpSignaling PtpCapableMessage) := do
  let found ← ptpSignalingFindTlvBelow message received domain localPort subtype
  match found with
  | .malformed => some .malformed
  | .ignored => some .ignored
  | .decoded tlv => do
    let sourcePort ← sourcePortBelow message received
    let logInterval ← message.readBelow (message.word 2) (tlv + 10)
    some (.decoded ⟨sourcePort, logInterval.toInt8.toInt⟩)

/-- `ptp_signaling_read_message_interval`, checked likewise. -/
def ptpSignalingReadMessageIntervalBelow (message : Bytes) (received : Nat) (domain : UInt8)
    (localPort : PortIdentity) : Option (PtpSignaling PtpIntervalMessage) := do
  let found ← ptpSignalingFindTlvBelow message received domain localPort 2
  match found with
  | .malformed => some .malformed
  | .ignored => some .ignored
  | .decoded tlv => do
    let sourcePort ← sourcePortBelow message received
    let logLinkDelay ← message.readBelow (message.word 2) (tlv + 10)
    let logSync ← message.readBelow (message.word 2) (tlv + 11)
    let logAnnounce ← message.readBelow (message.word 2) (tlv + 12)
    let flags ← message.readBelow (message.word 2) (tlv + 13)
    some (.decoded ⟨sourcePort, logLinkDelay.toInt8.toInt, logSync.toInt8.toInt,
      logAnnounce.toInt8.toInt, flags⟩)

/-! ## No read is refused -/

theorem knownTlvBelow_eq (message : Bytes) {bound offset body : Nat}
    (h : offset + 4 + body ≤ bound) :
    knownTlvBelow message bound offset body = some (knownTlv message offset body) := by
  unfold knownTlvBelow knownTlv
  by_cases hlong : body ≥ 6
  · rw [if_pos hlong, Bytes.fieldBelow_eq (by omega), Bytes.readBelow_eq (by omega),
      Bytes.wordBelow_eq (by omega)]
    dsimp only [Option.bind_eq_bind, Option.bind_some]
    by_cases horganization : message.field (offset + 4) 5 = ieee8021OrgId
    · have hknown : body ≥ 6 ∧ message.field (offset + 4) 5 = ieee8021OrgId :=
        ⟨hlong, horganization⟩
      rw [if_pos horganization, if_pos hknown]
      exact (apply_ite some _ _ _).symm
    · rw [if_neg horganization, if_neg fun h => horganization h.2]
  · rw [if_neg hlong, if_neg fun h => hlong h.1]

theorem findTlvLoopBelow_eq (message : Bytes) (length : Nat) (subtype : UInt8) (offset : Nat)
    (seen : List UInt8) (found : Option Nat) :
    findTlvLoopBelow message length subtype offset seen found =
      some (findTlvLoop message length subtype offset seen found) := by
  fun_induction findTlvLoop message length subtype offset seen found with
  | case1 offset seen found hmore hshort =>
    unfold findTlvLoopBelow
    rw [if_pos hmore, if_pos hshort]
  | case2 offset seen found hmore hshort body hbad =>
    unfold findTlvLoopBelow
    rw [if_pos hmore, if_neg hshort, Bytes.wordBelow_eq (by omega)]
    dsimp only
    rw [if_pos hbad]
  | case3 offset seen found hmore hshort body hgood hknown ih =>
    unfold findTlvLoopBelow
    rw [if_pos hmore, if_neg hshort, Bytes.wordBelow_eq (by omega)]
    dsimp only
    rw [if_neg hgood, knownTlvBelow_eq message (by omega), hknown]
    exact ih
  | case4 offset seen found hmore hshort body hgood kind hknown hwrong =>
    unfold findTlvLoopBelow
    rw [if_pos hmore, if_neg hshort, Bytes.wordBelow_eq (by omega)]
    dsimp only
    rw [if_neg hgood, knownTlvBelow_eq message (by omega), hknown]
    dsimp only
    rw [if_pos hwrong]
  | case5 offset seen found hmore hshort body hgood kind hknown hright ih =>
    simp only [dite_eq_ite] at ih
    unfold findTlvLoopBelow
    rw [if_pos hmore, if_neg hshort, Bytes.wordBelow_eq (by omega)]
    dsimp only
    rw [if_neg hgood, knownTlvBelow_eq message (by omega), hknown]
    dsimp only
    rw [if_neg hright, ih]
  | case6 offset seen hend => rw [findTlvLoopBelow, if_neg hend]
  | case7 offset seen hend found => rw [findTlvLoopBelow, if_neg hend]

theorem ptpSignalingFindTlvBelow_eq (message : Bytes) (received : Nat) (domain : UInt8)
    (localPort : PortIdentity) (subtype : UInt8) :
    ptpSignalingFindTlvBelow message received domain localPort subtype =
      some (ptpSignalingFindTlv message received domain localPort subtype) := by
  unfold ptpSignalingFindTlvBelow ptpSignalingFindTlv
  by_cases hshort : received < 44
  · rw [if_pos hshort, if_pos hshort]
  · rw [if_neg hshort, if_neg hshort, Bytes.wordBelow_eq (by omega)]
    dsimp only [Option.bind_eq_bind, Option.bind_some]
    by_cases hlength : message.word 2 < 44 ∨ message.word 2 > received
    · rw [if_pos hlength, if_pos hlength]
    · rw [if_neg hlength, if_neg hlength, Bytes.readBelow_eq (by omega),
        Bytes.readBelow_eq (by omega), Bytes.readBelow_eq (by omega),
        Bytes.readBelow_eq (by omega), Bytes.fieldBelow_eq (by omega),
        Bytes.fieldBelow_eq (by omega), Bytes.fieldBelow_eq (by omega), findTlvLoopBelow_eq]
      dsimp only [Option.bind_eq_bind, Option.bind_some]
      rw [show (⟨message.field 34 8, message.field 42 2⟩ : PortIdentity) = message.port 34 from rfl]
      split_ifs <;> rfl

/-- What is found is inside the message, and so is what the readers look at. -/
theorem FoundAt.inside {message : Bytes} {subtype : UInt8} {place : Nat}
    (h : FoundAt message subtype place) (hbody : 44 ≤ message.word 2) :
    place + 4 + expectedBody subtype ≤ message.word 2 := by
  obtain ⟨tlvs, hbytes, hchain, before, tlv, after, rfl, hkind, rfl⟩ := h
  have hexact := hchain.exact tlv (List.mem_append_right _ List.mem_cons_self) subtype hkind
  have hsize := congrArg List.length hbytes
  rw [Bytes.span_length, Tlv.encodeAll, List.flatMap_append, List.flatMap_cons,
    List.length_append, List.length_append, Tlv.encode_length] at hsize
  unfold Tlv.encodeAll
  omega

theorem sourcePortBelow_eq (message : Bytes) {received : Nat} (h : 44 ≤ received) :
    sourcePortBelow message received = some (message.port 20) := by
  unfold sourcePortBelow
  rw [Bytes.fieldBelow_eq (by omega), Bytes.fieldBelow_eq (by omega)]
  rfl

/-- The bytes of a found TLV are below the message's own length. -/
theorem readBelow_found {message : Bytes} {received : Nat} {domain : UInt8}
    {localPort : PortIdentity} {subtype : UInt8} {tlv : Nat}
    (h : ptpSignalingFindTlv message received domain localPort subtype = .decoded tlv) {k : Nat}
    (hk : k < 4 + expectedBody subtype) :
    message.readBelow (message.word 2) (tlv + k) = some (message.u8 (tlv + k)) := by
  obtain ⟨hheader, hfound⟩ := ptpSignalingFindTlv_decoded.mp h
  have hinside := hfound.inside hheader.body
  exact Bytes.readBelow_eq (by omega)

theorem expectedBody_ge (kind : UInt8) : 10 ≤ expectedBody kind := by
  unfold expectedBody
  split <;> omega

theorem ptpSignalingReadCapableTlvBelow_eq (message : Bytes) (received : Nat) (domain : UInt8)
    (localPort : PortIdentity) (subtype : UInt8) :
    ptpSignalingReadCapableTlvBelow message received domain localPort subtype =
      some (ptpSignalingReadCapableTlv message received domain localPort subtype) := by
  have hbody := expectedBody_ge subtype
  unfold ptpSignalingReadCapableTlvBelow ptpSignalingReadCapableTlv
  rw [ptpSignalingFindTlvBelow_eq]
  dsimp only [Option.bind_eq_bind, Option.bind_some]
  cases hfind : ptpSignalingFindTlv message received domain localPort subtype with
  | malformed => rfl
  | ignored => rfl
  | decoded tlv =>
    have hheader := (ptpSignalingFindTlv_decoded.mp hfind).1
    have hreceived : 44 ≤ received := hheader.body.trans hheader.whole
    dsimp only
    rw [sourcePortBelow_eq message hreceived, readBelow_found hfind (by omega)]
    rfl

theorem ptpSignalingReadMessageIntervalBelow_eq (message : Bytes) (received : Nat) (domain : UInt8)
    (localPort : PortIdentity) :
    ptpSignalingReadMessageIntervalBelow message received domain localPort =
      some (ptpSignalingReadMessageInterval message received domain localPort) := by
  have hbody : expectedBody 2 = 12 := rfl
  unfold ptpSignalingReadMessageIntervalBelow ptpSignalingReadMessageInterval
  rw [ptpSignalingFindTlvBelow_eq]
  dsimp only [Option.bind_eq_bind, Option.bind_some]
  cases hfind : ptpSignalingFindTlv message received domain localPort 2 with
  | malformed => rfl
  | ignored => rfl
  | decoded tlv =>
    have hheader := (ptpSignalingFindTlv_decoded.mp hfind).1
    have hreceived : 44 ≤ received := hheader.body.trans hheader.whole
    dsimp only
    rw [sourcePortBelow_eq message hreceived, readBelow_found hfind (by omega),
      readBelow_found hfind (by omega), readBelow_found hfind (by omega),
      readBelow_found hfind (by omega)]
    rfl

/-! ## The verdicts -/

/-- What the functions of `ptp_signaling.h` say of a message. -/
structure SignalingVerdicts (message : Bytes) (received : Nat) (domain : UInt8)
    (localPort : PortIdentity) : Prop where
  found : ∀ subtype place,
    ptpSignalingFindTlv message received domain localPort subtype = .decoded place ↔
      SignalingHeader message received domain localPort ∧ FoundAt message subtype place
  malformed : SignalingHeader message received domain localPort → ∀ subtype,
    (ptpSignalingFindTlv message received domain localPort subtype = .malformed ↔
      ¬ SignalingGrammar message)
  /-- The three readers agree, under whatever header. -/
  intervalAgrees :
    (ptpSignalingReadCapableInterval message received domain localPort).isMalformed =
      (ptpSignalingReadCapable message received domain localPort).isMalformed
  timingAgrees :
    (ptpSignalingReadMessageInterval message received domain localPort).isMalformed =
      (ptpSignalingReadCapable message received domain localPort).isMalformed
  /-- No read is refused. -/
  findBounded : ∀ subtype, ptpSignalingFindTlvBelow message received domain localPort subtype =
    some (ptpSignalingFindTlv message received domain localPort subtype)
  capableBounded : ∀ subtype,
    ptpSignalingReadCapableTlvBelow message received domain localPort subtype =
      some (ptpSignalingReadCapableTlv message received domain localPort subtype)
  timingBounded : ptpSignalingReadMessageIntervalBelow message received domain localPort =
    some (ptpSignalingReadMessageInterval message received domain localPort)

/-- A reader says malformed exactly if the walk does. -/
theorem PtpSignaling.isMalformed_map {α β : Type} (f : α → β) (x : PtpSignaling α) :
    (x.map f).isMalformed = x.isMalformed := by
  cases x <;> rfl

/-- Whether a message is malformed does not depend on what is looked for. -/
theorem isMalformed_find (message : Bytes) (received : Nat) (domain : UInt8)
    (localPort : PortIdentity) (a b : UInt8) :
    (ptpSignalingFindTlv message received domain localPort a).isMalformed =
      (ptpSignalingFindTlv message received domain localPort b).isMalformed := by
  have hiff : ∀ x : PtpSignaling Nat, x.isMalformed = true ↔ x = .malformed := by
    intro x
    cases x <;> simp [PtpSignaling.isMalformed]
  rw [Bool.eq_iff_iff, hiff, hiff]
  by_cases hheader : SignalingHeader message received domain localPort
  · rw [hheader.malformed, hheader.malformed]
  · rw [malformed_of_not_header hheader, malformed_of_not_header hheader]

/-- **A Signaling message is read as its grammar says, by all readers alike, and within its
    bounds.** -/
theorem signalingVerdicts (message : Bytes) (received : Nat) (domain : UInt8)
    (localPort : PortIdentity) : SignalingVerdicts message received domain localPort where
  found _ _ := ptpSignalingFindTlv_decoded
  malformed hheader _ := hheader.malformed
  intervalAgrees := by
    unfold ptpSignalingReadCapableInterval ptpSignalingReadCapable ptpSignalingReadCapableTlv
    rw [PtpSignaling.isMalformed_map, PtpSignaling.isMalformed_map]
    exact isMalformed_find ..
  timingAgrees := by
    unfold ptpSignalingReadMessageInterval ptpSignalingReadCapable ptpSignalingReadCapableTlv
    rw [PtpSignaling.isMalformed_map, PtpSignaling.isMalformed_map]
    exact isMalformed_find ..
  findBounded := ptpSignalingFindTlvBelow_eq message received domain localPort
  capableBounded := ptpSignalingReadCapableTlvBelow_eq message received domain localPort
  timingBounded := ptpSignalingReadMessageIntervalBelow_eq message received domain localPort

end EspPtp
