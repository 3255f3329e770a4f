import EspPtp.Wire.Signaling
import EspPtp.Wire.TlvWalk

/-!
# What a Signaling message says

`ptp_signaling_find_tlv` judges a message and finds a TLV of it in one walk. Here the two are
apart: a message is in the grammar or it is not, whatever is looked for (`SignalingGrammar`),
and a message in it has at most one TLV of a kind, which is at its place in the chain
(`FoundAt`). That is why the three readers, which look for different kinds, agree on which
messages are malformed.

A walk over a message from the network also has to stay in it. The second half translates the
source once more, with every index checked before it is read.
-/

namespace EspPtp

open Lib

/-! ## The grammar -/

/-- The kind of a TLV of IEEE 802.1 that this daemon knows. -/
def signalingKind (tlv : Tlv) : Option UInt8 :=
  if 6 ≤ tlv.body.length ∧ Bytes.field tlv.body 0 5 = ieee8021OrgId then
    let kind := Bytes.u8 tlv.body 5
    if (kind = 2 ∧ tlv.type = 0x0003) ∨ ((kind = 4 ∨ kind = 5) ∧ tlv.type = 0x8000) then some kind
    else none
  else none

/-- A chain whose bodies are even, and whose known TLVs are of their length and of different
    kinds, none of them seen before. -/
structure ChainFrom (seen : List UInt8) (tlvs : List Tlv) : Prop where
  even : ∀ tlv ∈ tlvs, tlv.body.length % 2 = 0
  exact : ∀ tlv ∈ tlvs, ∀ kind ∈ signalingKind tlv, tlv.body.length = expectedBody kind
  once : (tlvs.filterMap signalingKind).Nodup
  fresh : ∀ kind ∈ tlvs.filterMap signalingKind, kind ∉ seen

/-- The header of a message that is for this port. -/
structure SignalingHeader (message : Bytes) (received : Nat) (domain : UInt8)
    (localPort : PortIdentity) : Prop where
  body : 44 ≤ message.word 2
  whole : message.word 2 ≤ received
  type : message.u8 0 = 0x1c
  version : message.u8 1 &&& 15 = 2
  domain : message.u8 4 = domain
  minorSdoId : message.u8 5 = 0
  target : message.port 34 = .wildcard ∨ message.port 34 = localPort
  source : message.field 20 8 ≠ localPort.clock

/-- The bytes behind the target are a chain in order. -/
def SignalingGrammar (message : Bytes) : Prop :=
  ∃ tlvs, Tlv.encodeAll tlvs = message.span 44 (message.word 2 - 44) ∧ ChainFrom [] tlvs

/-- The place of a TLV of a kind in a chain that begins at an offset. -/
def PlaceOf (subtype : UInt8) (offset : Nat) (tlvs : List Tlv) (place : Nat) : Prop :=
  ∃ before tlv after, tlvs = before ++ tlv :: after ∧ signalingKind tlv = some subtype ∧
    place = offset + (Tlv.encodeAll before).length

/-- The place of a TLV of a kind in a message in the grammar. -/
def FoundAt (message : Bytes) (subtype : UInt8) (place : Nat) : Prop :=
  ∃ tlvs, Tlv.encodeAll tlvs = message.span 44 (message.word 2 - 44) ∧ ChainFrom [] tlvs ∧
    PlaceOf subtype 44 tlvs place

/-! ## The walk over the TLVs -/

/-- The loop of `ptp_signaling_find_tlv`, on the TLVs instead of their bytes. -/
def scanTlvs (subtype : UInt8) : Nat → List Tlv → List UInt8 → Option Nat → PtpSignaling Nat
  | _, [], _, none => .ignored
  | _, [], _, some offset => .decoded offset
  | offset, tlv :: tlvs, seen, found =>
    if tlv.body.length % 2 = 1 then .malformed
    else
      match signalingKind tlv with
      | none => scanTlvs subtype (offset + tlv.encode.length) tlvs seen found
      | some kind =>
        if tlv.body.length ≠ expectedBody kind ∨ kind ∈ seen then .malformed
        else
          scanTlvs subtype (offset + tlv.encode.length) tlvs (kind :: seen)
            (if kind = subtype then some offset else found)

/-- The source looks at a TLV as the grammar does. -/
theorem knownTlv_eq (message : Bytes) (offset : Nat) :
    knownTlv message offset (message.word (offset + 2)) =
      signalingKind (message.tlvAt offset) := by
  unfold knownTlv signalingKind
  rw [Bytes.tlvAt_body, Bytes.tlvAt_type, Bytes.span_length]
  by_cases hlong : 6 ≤ message.word (offset + 2)
  · rw [Bytes.field_span message (by omega), Bytes.u8_span message (by omega)]
    dsimp only
    have hexpected : ∀ kind : UInt8,
        ((kind = 2 ∨ kind = 4 ∨ kind = 5) ∧
          message.word offset = (if kind = 2 then 0x0003 else 0x8000)) ↔
        ((kind = 2 ∧ message.word offset = 0x0003) ∨
          ((kind = 4 ∨ kind = 5) ∧ message.word offset = 0x8000)) := by
      intro kind
      by_cases h2 : kind = 2
      · subst h2
        simp
      · simp [h2]
    simp only [hexpected, ge_iff_le, Nat.add_zero]
  · rw [if_neg (fun h => hlong h.1), if_neg (fun h => hlong h.1)]

/-- The walk over what is ahead, if that is a chain. -/
def judgeTlvs (subtype : UInt8) (offset : Nat) (seen : List UInt8) (found : Option Nat) :
    Option (List Tlv) → PtpSignaling Nat
  | none => .malformed
  | some tlvs => scanTlvs subtype offset tlvs seen found

/-- One turn of it. Where the rest is no chain, the message is malformed whatever the TLV. -/
theorem judgeTlvs_cons (subtype : UInt8) (offset : Nat) (seen : List UInt8) (found : Option Nat)
    (tlv : Tlv) (rest : Option (List Tlv)) :
    judgeTlvs subtype offset seen found (rest.map (tlv :: ·)) =
      if tlv.body.length % 2 = 1 then .malformed
      else
        match signalingKind tlv with
        | none => judgeTlvs subtype (offset + tlv.encode.length) seen found rest
        | some kind =>
          if tlv.body.length ≠ expectedBody kind ∨ kind ∈ seen then .malformed
          else
            judgeTlvs subtype (offset + tlv.encode.length) (kind :: seen)
              (if kind = subtype then some offset else found) rest := by
  cases rest with
  | some tlvs => simp only [judgeTlvs, Option.map_some, scanTlvs]
  | none =>
    simp only [judgeTlvs, Option.map_none]
    split
    · rfl
    · split
      · rfl
      · split <;> rfl

/-- The walk over the bytes is the walk over their TLVs, by induction on the walk. -/
theorem findTlvLoop_eq (message : Bytes) (length : Nat) (subtype : UInt8) (offset : Nat)
    (seen : List UInt8) (found : Option Nat) :
    findTlvLoop message length subtype offset seen found =
      judgeTlvs subtype offset seen found
        (Tlv.parse (message.span offset (length - offset))) := by
  have hbody : ∀ offset, (message.tlvAt offset).body.length = message.word (offset + 2) :=
    fun offset => by rw [Bytes.tlvAt_body, Bytes.span_length]
  have hnext : ∀ offset, offset + (message.tlvAt offset).encode.length =
      offset + message.word (offset + 2) + 4 := by
    intro offset
    rw [Tlv.encode_length, hbody, Nat.add_assoc]
  have hrest : ∀ offset, offset + 4 + message.word (offset + 2) =
      offset + message.word (offset + 2) + 4 := fun offset => by omega
  fun_induction findTlvLoop message length subtype offset seen found with
  | case1 offset seen found hmore hshort =>
    rw [Bytes.parse_span _ hmore, if_pos hshort]
    rfl
  | case2 offset seen found hmore hshort body hbad =>
    rw [Bytes.parse_span _ hmore, if_neg hshort]
    by_cases hlong : message.word (offset + 2) > length - (offset + 4)
    · rw [if_pos hlong]
      rfl
    · have hodd : message.word (offset + 2) % 2 = 1 := by omega
      rw [if_neg hlong, judgeTlvs_cons, hbody, if_pos hodd]
  | case3 offset seen found hmore hshort body hgood hknown ih =>
    rw [not_or] at hgood
    have hfits : ¬ message.word (offset + 2) > length - (offset + 4) := by omega
    rw [ih, Bytes.parse_span _ hmore, if_neg hshort, if_neg hfits, judgeTlvs_cons, hbody,
      if_neg hgood.2, ← knownTlv_eq, hknown, hnext, hrest]
  | case4 offset seen found hmore hshort body hgood kind hknown hwrong =>
    rw [not_or] at hgood
    have hfits : ¬ message.word (offset + 2) > length - (offset + 4) := by omega
    rw [Bytes.parse_span _ hmore, if_neg hshort, if_neg hfits, judgeTlvs_cons, hbody,
      if_neg hgood.2, ← knownTlv_eq, hknown]
    dsimp only
    rw [if_pos hwrong]
  | case5 offset seen found hmore hshort body hgood kind hknown hright ih =>
    rw [not_or] at hgood
    have hfits : ¬ message.word (offset + 2) > length - (offset + 4) := by omega
    simp only [dite_eq_ite] at ih
    rw [ih, Bytes.parse_span _ hmore, if_neg hshort, if_neg hfits, judgeTlvs_cons, hbody,
      if_neg hgood.2, ← knownTlv_eq, hknown]
    dsimp only
    rw [if_neg hright, hnext, hrest]
  | case6 offset seen hend =>
    rw [Nat.sub_eq_zero_of_le (Nat.le_of_not_lt hend), Bytes.span_zero, Tlv.parse]
    rfl
  | case7 offset seen hend found =>
    rw [Nat.sub_eq_zero_of_le (Nat.le_of_not_lt hend), Bytes.span_zero, Tlv.parse]
    rfl

/-! ## What the walk finds -/

theorem ChainFrom.nil (seen : List UInt8) : ChainFrom seen [] :=
  ⟨by simp, by simp, List.nodup_nil, by simp⟩

theorem chainFrom_cons_other {seen : List UInt8} {tlv : Tlv} {tlvs : List Tlv}
    (h : signalingKind tlv = none) :
    ChainFrom seen (tlv :: tlvs) ↔ tlv.body.length % 2 = 0 ∧ ChainFrom seen tlvs := by
  constructor
  · rintro ⟨heven, hexact, honce, hfresh⟩
    rw [List.filterMap_cons_none h] at honce hfresh
    refine ⟨heven tlv List.mem_cons_self, ?_, ?_, honce, hfresh⟩
    · exact fun other hother => heven other (List.mem_cons_of_mem _ hother)
    · exact fun other hother => hexact other (List.mem_cons_of_mem _ hother)
  · rintro ⟨hself, heven, hexact, honce, hfresh⟩
    rw [← List.filterMap_cons_none h] at honce hfresh
    refine ⟨?_, ?_, honce, hfresh⟩
    · intro other hother
      rcases List.mem_cons.mp hother with rfl | hother
      · exact hself
      · exact heven other hother
    · intro other hother kind hkind
      rcases List.mem_cons.mp hother with rfl | hother
      · rw [h] at hkind
        cases hkind
      · exact hexact other hother kind hkind

theorem chainFrom_cons_known {seen : List UInt8} {tlv : Tlv} {tlvs : List Tlv} {kind : UInt8}
    (h : signalingKind tlv = some kind) :
    ChainFrom seen (tlv :: tlvs) ↔ tlv.body.length % 2 = 0 ∧
      tlv.body.length = expectedBody kind ∧ kind ∉ seen ∧ ChainFrom (kind :: seen) tlvs := by
  constructor
  · rintro ⟨heven, hexact, honce, hfresh⟩
    rw [List.filterMap_cons_some h] at honce hfresh
    obtain ⟨hfirst, honce⟩ := List.nodup_cons.mp honce
    refine ⟨heven tlv List.mem_cons_self, hexact tlv List.mem_cons_self kind h,
      hfresh kind List.mem_cons_self, ?_, ?_, honce, ?_⟩
    · exact fun other hother => heven other (List.mem_cons_of_mem _ hother)
    · exact fun other hother => hexact other (List.mem_cons_of_mem _ hother)
    · intro other hother hseen
      rcases List.mem_cons.mp hseen with rfl | hseen
      · exact hfirst hother
      · exact hfresh other (List.mem_cons_of_mem _ hother) hseen
  · rintro ⟨hself, hlength, hnew, heven, hexact, honce, hfresh⟩
    refine ⟨?_, ?_, ?_, ?_⟩
    · intro other hother
      rcases List.mem_cons.mp hother with rfl | hother
      · exact hself
      · exact heven other hother
    · intro other hother kind' hkind
      rcases List.mem_cons.mp hother with rfl | hother
      · rw [h] at hkind
        cases hkind
        exact hlength
      · exact hexact other hother kind' hkind
    · rw [List.filterMap_cons_some h]
      exact List.nodup_cons.mpr ⟨fun hmem => hfresh kind hmem List.mem_cons_self, honce⟩
    · intro other hother
      rw [List.filterMap_cons_some h] at hother
      rcases List.mem_cons.mp hother with rfl | hother
      · exact hnew
      · exact fun hseen => hfresh other hother (List.mem_cons_of_mem _ hseen)

/-- The walk ends well exactly over a chain in order. -/
theorem scanTlvs_malformed {subtype : UInt8} {offset : Nat} {tlvs : List Tlv} {seen : List UInt8}
    {found : Option Nat} :
    scanTlvs subtype offset tlvs seen found = .malformed ↔ ¬ ChainFrom seen tlvs := by
  induction tlvs generalizing offset seen found with
  | nil =>
    have hnil := ChainFrom.nil seen
    cases found <;> simp [scanTlvs, hnil]
  | cons tlv tlvs ih =>
    unfold scanTlvs
    by_cases hodd : tlv.body.length % 2 = 1
    · rw [if_pos hodd]
      refine iff_of_true rfl fun h => ?_
      have := h.even tlv List.mem_cons_self
      omega
    · have heven : tlv.body.length % 2 = 0 := by omega
      rw [if_neg hodd]
      cases hkind : signalingKind tlv with
      | none =>
        dsimp only
        rw [ih, chainFrom_cons_other hkind]
        simp [heven]
      | some kind =>
        dsimp only
        rw [chainFrom_cons_known hkind]
        by_cases hwrong : tlv.body.length ≠ expectedBody kind ∨ kind ∈ seen
        · rw [if_pos hwrong]
          refine iff_of_true rfl ?_
          rintro ⟨-, hlength, hnew, -⟩
          exact hwrong.elim (fun h => h hlength) hnew
        · rw [if_neg hwrong, ih, not_iff_not]
          rw [not_or, not_not] at hwrong
          exact ⟨fun h => ⟨heven, hwrong.1, hwrong.2, h⟩, fun h => h.2.2.2⟩

theorem not_placeOf_nil (subtype : UInt8) (offset place : Nat) :
    ¬ PlaceOf subtype offset [] place := by
  rintro ⟨before, tlv, after, htlvs, -⟩
  exact List.append_ne_nil_of_right_ne_nil _ (List.cons_ne_nil _ _) htlvs.symm

theorem placeOf_cons {subtype : UInt8} {offset place : Nat} {tlv : Tlv} {tlvs : List Tlv} :
    PlaceOf subtype offset (tlv :: tlvs) place ↔
      (signalingKind tlv = some subtype ∧ place = offset) ∨
        PlaceOf subtype (offset + tlv.encode.length) tlvs place := by
  constructor
  · rintro ⟨before, found, after, htlvs, hkind, rfl⟩
    cases before with
    | nil =>
      cases htlvs
      exact .inl ⟨hkind, rfl⟩
    | cons first before =>
      cases htlvs
      refine .inr ⟨before, found, after, rfl, hkind, ?_⟩
      rw [Tlv.encodeAll_cons, List.length_append, Nat.add_assoc]
  · rintro (⟨hkind, rfl⟩ | ⟨before, found, after, rfl, hkind, rfl⟩)
    · exact ⟨[], tlv, tlvs, rfl, hkind, rfl⟩
    · refine ⟨tlv :: before, found, after, rfl, hkind, ?_⟩
      rw [Tlv.encodeAll_cons, List.length_append, Nat.add_assoc]

/-- What the walk over a chain in order finds: the TLV of the kind, or what it had found. -/
theorem scanTlvs_decoded {subtype : UInt8} {offset : Nat} {tlvs : List Tlv} {seen : List UInt8}
    {found : Option Nat} {place : Nat} (hchain : ChainFrom seen tlvs) :
    scanTlvs subtype offset tlvs seen found = .decoded place ↔
      PlaceOf subtype offset tlvs place ∨
        (subtype ∉ tlvs.filterMap signalingKind ∧ found = some place) := by
  induction tlvs generalizing offset seen found with
  | nil =>
    have hnone := not_placeOf_nil subtype offset place
    cases found <;> simp [scanTlvs, hnone]
  | cons tlv tlvs ih =>
    have hodd : ¬ tlv.body.length % 2 = 1 := by
      have := hchain.even tlv List.mem_cons_self
      omega
    unfold scanTlvs
    rw [if_neg hodd, placeOf_cons]
    cases hkind : signalingKind tlv with
    | none =>
      dsimp only
      rw [ih ((chainFrom_cons_other hkind).mp hchain).2, List.filterMap_cons_none hkind]
      simp
    | some kind =>
      obtain ⟨-, hlength, hnew, hrest⟩ := (chainFrom_cons_known hkind).mp hchain
      dsimp only
      rw [if_neg (not_or.mpr ⟨not_not.mpr hlength, hnew⟩), ih hrest,
        List.filterMap_cons_some hkind]
      by_cases hsubtype : kind = subtype
      · subst hsubtype
        -- No other TLV of the chain is of this kind.
        have hlast : kind ∉ tlvs.filterMap signalingKind := fun hmem =>
          hrest.fresh kind hmem List.mem_cons_self
        simp [hlast, eq_comm, or_comm]
      · simp [hsubtype, Ne.symm hsubtype]

/-! ## The message -/

section Message

variable {message : Bytes} {received : Nat} {domain : UInt8} {localPort : PortIdentity}
  {subtype : UInt8}

/-- Under a header for this port, the TLVs decide. -/
theorem SignalingHeader.find (h : SignalingHeader message received domain localPort) :
    ptpSignalingFindTlv message received domain localPort subtype =
      judgeTlvs subtype 44 [] none (Tlv.parse (message.span 44 (message.word 2 - 44))) := by
  obtain ⟨hbody, hwhole, htype, hversion, hdomain, hminor, htarget, hsource⟩ := h
  unfold ptpSignalingFindTlv
  dsimp only
  rw [if_neg (by omega), if_neg (by omega), if_neg, if_neg, if_neg hsource, findTlvLoop_eq]
  · rintro ⟨hother, hlocal⟩
    exact htarget.elim hother hlocal
  · simp [htype, hversion, hdomain, hminor]

/-- Only under a header for this port is anything found. -/
theorem header_of_decoded {place : Nat}
    (h : ptpSignalingFindTlv message received domain localPort subtype = .decoded place) :
    SignalingHeader message received domain localPort := by
  unfold ptpSignalingFindTlv at h
  dsimp only at h
  split_ifs at h with hshort hlength hfields htarget hsource
  simp only [not_or, not_not] at hfields
  obtain ⟨htype, hversion, hdomain, hminor⟩ := hfields
  refine ⟨by omega, by omega, htype, hversion, hdomain, hminor, ?_, hsource⟩
  by_cases hwildcard : message.port 34 = .wildcard
  · exact .inl hwildcard
  · exact .inr (not_not.mp fun hlocal => htarget ⟨hwildcard, hlocal⟩)

/-- Without one, the message is malformed only for its length. -/
theorem malformed_of_not_header
    (h : ¬ SignalingHeader message received domain localPort) :
    ptpSignalingFindTlv message received domain localPort subtype = .malformed ↔
      ¬ (44 ≤ message.word 2 ∧ message.word 2 ≤ received) := by
  unfold ptpSignalingFindTlv
  dsimp only
  by_cases hlength : 44 ≤ message.word 2 ∧ message.word 2 ≤ received
  · rw [if_neg (by omega), if_neg (by omega)]
    refine iff_of_false ?_ (not_not.mpr hlength)
    split_ifs with hfields htarget hsource
    · simp
    · simp
    · simp
    · simp only [not_or, not_not] at hfields
      obtain ⟨htype, hversion, hdomain, hminor⟩ := hfields
      refine absurd ⟨hlength.1, hlength.2, htype, hversion, hdomain, hminor, ?_, hsource⟩ h
      by_cases hwildcard : message.port 34 = .wildcard
      · exact .inl hwildcard
      · exact .inr (not_not.mp fun hlocal => htarget ⟨hwildcard, hlocal⟩)
  · refine iff_of_true ?_ hlength
    split_ifs with hshort hbody
    · rfl
    · rfl
    all_goals exact absurd (by omega) hlength

/-- What is found is the TLV of the kind in a message in the grammar. -/
theorem ptpSignalingFindTlv_decoded {place : Nat} :
    ptpSignalingFindTlv message received domain localPort subtype = .decoded place ↔
      SignalingHeader message received domain localPort ∧ FoundAt message subtype place := by
  constructor
  · intro h
    have hheader := header_of_decoded h
    rw [hheader.find] at h
    refine ⟨hheader, ?_⟩
    cases hparse : Tlv.parse (message.span 44 (message.word 2 - 44)) with
    | none =>
      rw [hparse] at h
      cases h
    | some tlvs =>
      rw [hparse, judgeTlvs] at h
      have hchain : ChainFrom [] tlvs := by
        by_contra hbroken
        rw [scanTlvs_malformed.mpr hbroken] at h
        cases h
      refine ⟨tlvs, Tlv.parse_eq_some_iff.mp hparse, hchain, ?_⟩
      simpa using (scanTlvs_decoded hchain).mp h
  · rintro ⟨hheader, tlvs, hbytes, hchain, hplace⟩
    rw [hheader.find, Tlv.parse_eq_some_iff.mpr hbytes, judgeTlvs, scanTlvs_decoded hchain]
    exact .inl hplace

/-- Under a header for this port, a message is malformed exactly if it is not in the grammar. -/
theorem SignalingHeader.malformed (h : SignalingHeader message received domain localPort) :
    ptpSignalingFindTlv message received domain localPort subtype = .malformed ↔
      ¬ SignalingGrammar message := by
  rw [h.find]
  cases hparse : Tlv.parse (message.span 44 (message.word 2 - 44)) with
  | none =>
    refine iff_of_true rfl ?_
    rintro ⟨tlvs, hbytes, -⟩
    rw [Tlv.parse_eq_some_iff.mpr hbytes] at hparse
    cases hparse
  | some tlvs =>
    have hbytes := Tlv.parse_eq_some_iff.mp hparse
    rw [judgeTlvs, scanTlvs_malformed, not_iff_not]
    constructor
    · exact fun hchain => ⟨tlvs, hbytes, hchain⟩
    · rintro ⟨others, hothers, hchain⟩
      rw [Tlv.parse_eq_some_iff.mpr hothers] at hparse
      cases hparse
      exact hchain

end Message

end EspPtp
