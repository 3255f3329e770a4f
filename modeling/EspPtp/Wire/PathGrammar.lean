import EspPtp.Wire.PathTrace
import EspPtp.Wire.TlvWalk

/-!
# Which Announces have a path

`ptp_path_trace_parse` walks the TLVs of an Announce once and decides on the way. Said of the
whole message: behind the body is a chain of TLVs, and at most one of them is a Path Trace,
which holds between one and sixteen identities and not this clock's own.
-/

namespace EspPtp

open Lib

/-! ## Identities in a body -/

/-- The identities of a path, one after another. -/
def PtpPathTrace.bytes (path : PtpPathTrace) : List UInt8 := path.flatMap Vector.toList

@[simp] theorem PtpPathTrace.bytes_length (path : PtpPathTrace) :
    path.bytes.length = path.length * 8 := by
  induction path with
  | nil => rfl
  | cons identity path ih =>
    show (identity.toList ++ PtpPathTrace.bytes path).length = _
    rw [List.length_append, ih, Vector.length_toList, List.length_cons]
    omega

theorem PtpPathTrace.bytes_inj {a b : PtpPathTrace} (h : a.bytes = b.bytes) : a = b := by
  induction a generalizing b with
  | nil =>
    have hlen := congrArg List.length h
    cases b with
    | nil => rfl
    | cons identity b =>
      rw [bytes_length, bytes_length] at hlen
      cases hlen
  | cons identity a ih =>
    cases b with
    | nil =>
      have hlen := congrArg List.length h
      rw [bytes_length, bytes_length] at hlen
      cases hlen
    | cons other b =>
      obtain ⟨hfirst, hrest⟩ := List.append_inj h (by simp)
      rw [ih hrest, Vector.toList_inj.mp hfirst]

/-- The identities at an offset. -/
def Bytes.identities (m : Bytes) (start count : Nat) : PtpPathTrace :=
  (List.range count).map fun index => m.field (start + index * 8) 8

@[simp] theorem Bytes.identities_length (m : Bytes) (start count : Nat) :
    (m.identities start count).length = count := by
  simp [Bytes.identities]

theorem Bytes.bytes_identities (m : Bytes) (start count : Nat) :
    (m.identities start count).bytes = m.span start (count * 8) := by
  unfold identities
  induction count with
  | zero => rfl
  | succ count ih =>
    have hlast : PtpPathTrace.bytes [m.field (start + count * 8) 8] =
        m.span (start + count * 8) 8 := by
      show (m.field (start + count * 8) 8).toList ++ [] = _
      rw [List.append_nil, toList_field]
    rw [List.range_succ, List.map_append, Nat.succ_mul, span_add, ← ih, ← hlast]
    exact List.flatMap_append

/-- The bytes at an offset are those of a path exactly if they are whole identities. -/
theorem Bytes.span_eq_bytes_iff (m : Bytes) (start size : Nat) (path : PtpPathTrace) :
    m.span start size = path.bytes ↔ size % 8 = 0 ∧ path = m.identities start (size / 8) := by
  constructor
  · intro h
    have hsize : size = path.length * 8 := by
      have hlen := congrArg List.length h
      simpa using hlen
    have hcount : size / 8 = path.length := by omega
    refine ⟨by omega, PtpPathTrace.bytes_inj ?_⟩
    rw [Bytes.bytes_identities, hcount, ← hsize, h]
  · rintro ⟨hwhole, rfl⟩
    rw [Bytes.bytes_identities]
    congr 1
    omega

/-! ## The grammar -/

/-- The path that the Path Trace TLVs of a message hold. -/
inductive PathOf (localIdentity : ClockIdentity) : List Tlv → PtpPathTrace → Prop
  | missing : PathOf localIdentity [] []
  | one {tlv : Tlv} {path : PtpPathTrace} (hbody : tlv.body = path.bytes) (hsome : path ≠ [])
      (hfits : path.length ≤ ptpPathTraceMaxClocks) (hloop : localIdentity ∉ path) :
      PathOf localIdentity [tlv] path

/-- The Path Trace TLVs of a chain. -/
def pathTlvs (tlvs : List Tlv) : List Tlv := tlvs.filter fun tlv => tlv.type = 8

/-- An Announce with a path. -/
structure PathGrammar (message : Bytes) (received : Nat) (localIdentity : ClockIdentity)
    (path : PtpPathTrace) : Prop where
  body : ptpAnnounceBodyLength ≤ message.word 2
  whole : message.word 2 ≤ received
  chain : ∃ tlvs, Tlv.encodeAll tlvs = message.span 64 (message.word 2 - 64) ∧
    PathOf localIdentity (pathTlvs tlvs) path

/-- What the rest of the walk makes of what was found so far. -/
def PathFrom (localIdentity : ClockIdentity) (found : Option PtpPathTrace) (traces : List Tlv)
    (path : PtpPathTrace) : Prop :=
  match found with
  | none => PathOf localIdentity traces path
  | some path' => traces = [] ∧ path = path'

theorem pathTlvs_cons_trace {tlv : Tlv} (h : tlv.type = 8) (tlvs : List Tlv) :
    pathTlvs (tlv :: tlvs) = tlv :: pathTlvs tlvs := by
  simp [pathTlvs, h]

theorem pathTlvs_cons_other {tlv : Tlv} (h : tlv.type ≠ 8) (tlvs : List Tlv) :
    pathTlvs (tlv :: tlvs) = pathTlvs tlvs := by
  simp [pathTlvs, h]

/-- The checks of the walk at a Path Trace TLV are those of the grammar. -/
theorem pathFrom_cons {message : Bytes} {start size : Nat} {localIdentity : ClockIdentity}
    {found : Option PtpPathTrace} {tlv : Tlv} (hbody : tlv.body = message.span start size)
    {traces : List Tlv} {path : PtpPathTrace} :
    PathFrom localIdentity found (tlv :: traces) path ↔
      ¬ (found.isSome ∨ size = 0 ∨ size % 8 ≠ 0 ∨ size / 8 > ptpPathTraceMaxClocks) ∧
        localIdentity ∉ message.identities start (size / 8) ∧
          PathFrom localIdentity (some (message.identities start (size / 8))) traces path := by
  cases found with
  | some path' => simp [PathFrom]
  | none =>
    constructor
    · intro h
      cases h with
      | one hpath hsome hfits hloop =>
        rw [hbody] at hpath
        obtain ⟨hwhole, rfl⟩ := (Bytes.span_eq_bytes_iff ..).mp hpath
        rw [Bytes.identities_length] at hfits
        have hpos : size ≠ 0 := by
          rintro rfl
          exact hsome rfl
        refine ⟨?_, hloop, rfl, rfl⟩
        rintro (h | h | h | h)
        · cases h
        · exact hpos h
        · exact h hwhole
        · exact absurd hfits (Nat.not_le.mpr h)
    · rintro ⟨hchecks, hloop, rfl, rfl⟩
      simp only [Option.isSome_none, Bool.false_eq_true, false_or, not_or, ne_eq, not_not] at hchecks
      obtain ⟨hpos, hwhole, hfits⟩ := hchecks
      apply PathOf.one
      · rw [hbody]
        exact (Bytes.span_eq_bytes_iff ..).mpr ⟨hwhole, rfl⟩
      · intro hnil
        have hlen := congrArg List.length hnil
        rw [Bytes.identities_length, List.length_nil] at hlen
        omega
      · rw [Bytes.identities_length]
        exact Nat.le_of_not_lt hfits
      · exact hloop

/-- The walk finds the path of the chain ahead, by induction on the walk: a turn is one of the
    checks of the grammar, and the rest is the chain behind the TLV. -/
theorem pathTraceLoop_iff {message : Bytes} {length offset : Nat} {localIdentity : ClockIdentity}
    {found : Option PtpPathTrace} {path : PtpPathTrace} :
    pathTraceLoop message length localIdentity offset found = some path ↔
      ∃ tlvs, Tlv.parse (message.span offset (length - offset)) = some tlvs ∧
        PathFrom localIdentity found (pathTlvs tlvs) path := by
  fun_induction pathTraceLoop message length localIdentity offset found with
  | case1 offset found hmore hshort =>
    rw [Bytes.exists_parse_span _ hmore]
    simp [hshort]
  | case2 offset found hmore hshort bytes hlong =>
    rw [Bytes.exists_parse_span _ hmore]
    simp [show message.word (offset + 2) > length - (offset + 4) from hlong]
  | case3 offset found hmore hshort type bytes hfits htype hchecks =>
    rw [Bytes.exists_parse_span _ hmore]
    constructor
    · intro h
      cases h
    · rintro ⟨-, -, rest, -, hpath⟩
      rw [pathTlvs_cons_trace htype, pathFrom_cons (message.tlvAt_body offset)] at hpath
      exact absurd hchecks hpath.1
  | case4 offset found hmore hshort type bytes hfits htype identities hchecks hloop =>
    rw [Bytes.exists_parse_span _ hmore]
    constructor
    · intro h
      cases h
    · rintro ⟨-, -, rest, -, hpath⟩
      rw [pathTlvs_cons_trace htype, pathFrom_cons (message.tlvAt_body offset)] at hpath
      exact absurd hloop hpath.2.1
  | case5 offset found hmore hshort type bytes hfits htype identities hchecks hloop ih =>
    rw [Bytes.exists_parse_span _ hmore, ih]
    constructor
    · rintro ⟨rest, hrest, hpath⟩
      refine ⟨hshort, hfits, rest, hrest, ?_⟩
      rw [pathTlvs_cons_trace htype, pathFrom_cons (message.tlvAt_body offset)]
      exact ⟨hchecks, hloop, hpath⟩
    · rintro ⟨-, -, rest, hrest, hpath⟩
      rw [pathTlvs_cons_trace htype, pathFrom_cons (message.tlvAt_body offset)] at hpath
      exact ⟨rest, hrest, hpath.2.2⟩
  | case6 offset found hmore hshort type bytes hfits htype ih =>
    rw [Bytes.exists_parse_span _ hmore, ih]
    constructor
    · rintro ⟨rest, hrest, hpath⟩
      refine ⟨hshort, hfits, rest, hrest, ?_⟩
      rw [pathTlvs_cons_other htype]
      exact hpath
    · rintro ⟨-, -, rest, hrest, hpath⟩
      rw [pathTlvs_cons_other htype] at hpath
      exact ⟨rest, hrest, hpath⟩
  | case7 offset found hend =>
    rw [Bytes.exists_parse_span_end _ hend]
    cases found with
    | none =>
      constructor
      · rintro ⟨rfl⟩
        exact .missing
      · rintro ⟨⟩
        rfl
    | some path' => simp [PathFrom, pathTlvs, eq_comm]

/-- **An Announce has a path exactly if it is in the grammar.** -/
theorem ptpPathTraceParse_iff (message : Bytes) (received : Nat) (localIdentity : ClockIdentity)
    (path : PtpPathTrace) : ptpPathTraceParse message received localIdentity = some path ↔
      PathGrammar message received localIdentity path := by
  unfold ptpPathTraceParse
  dsimp only
  by_cases hbody : ptpAnnounceBodyLength ≤ message.word 2 ∧ message.word 2 ≤ received
  · obtain ⟨hbody, hwhole⟩ := hbody
    rw [if_neg (by omega), if_neg (by omega), pathTraceLoop_iff]
    constructor
    · rintro ⟨tlvs, hchain, hpath⟩
      exact ⟨hbody, hwhole, tlvs, Tlv.parse_eq_some_iff.mp hchain, hpath⟩
    · rintro ⟨-, -, tlvs, hchain, hpath⟩
      exact ⟨tlvs, Tlv.parse_eq_some_iff.mpr hchain, hpath⟩
  · constructor
    · intro h
      split_ifs at h
      omega
    · intro h
      exact absurd ⟨h.body, h.whole⟩ hbody

end EspPtp
