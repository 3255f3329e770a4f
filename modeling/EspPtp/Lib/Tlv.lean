import Mathlib.Algebra.Group.Nat.Defs
import Mathlib.Data.List.Basic

/-!
# Chains of TLVs

A *TLV* is a type, a length and a body: two big-endian bytes each for the first two, and as
many bytes as the second says. A message format puts them one after another, and a reader of
one walks the whole chain, because where the next TLV begins is known only from this one.

`Tlv.parse` takes a chain apart and `Tlv.encodeAll` puts one together, and each undoes the
other (`parse_eq_some_iff`): there is one way to read a chain, so *"the bytes are a chain in
which …"* may speak of *the* TLVs of the bytes. Bytes that end within a TLV still have a longest
chain at their front, `Tlv.parseFront`, and a reader that stops at the torn end has walked that.

Nothing here names a particular program.
-/

namespace EspPtp
namespace Lib

/-- Two bytes as a big-endian number. -/
def beWord (hi lo : UInt8) : Nat := hi.toNat * 256 + lo.toNat

/-- A number as two bytes. -/
def beBytes (word : Nat) : List UInt8 := [(word / 256).toUInt8, word.toUInt8]

theorem beWord_lt (hi lo : UInt8) : beWord hi lo < 2 ^ 16 := by
  have hhi := hi.toNat_lt
  have hlo := lo.toNat_lt
  unfold beWord
  omega

theorem beBytes_beWord (hi lo : UInt8) : beBytes (beWord hi lo) = [hi, lo] := by
  have hhi := hi.toNat_lt
  have hlo := lo.toNat_lt
  unfold beBytes beWord
  congr 1
  · apply UInt8.toNat_inj.mp
    show (UInt8.ofNat _).toNat = _
    rw [UInt8.toNat_ofNat']
    omega
  · congr 1
    apply UInt8.toNat_inj.mp
    show (UInt8.ofNat _).toNat = _
    rw [UInt8.toNat_ofNat']
    omega

theorem beWord_toUInt8 {word : Nat} (h : word < 2 ^ 16) :
    beWord (word / 256).toUInt8 word.toUInt8 = word := by
  show (UInt8.ofNat _).toNat * 256 + (UInt8.ofNat _).toNat = word
  rw [UInt8.toNat_ofNat', UInt8.toNat_ofNat']
  omega

/-- A type and a body, both as short as the format can say. -/
@[ext]
structure Tlv where
  type : Nat
  body : List UInt8
  type_lt : type < 2 ^ 16
  body_lt : body.length < 2 ^ 16

namespace Tlv

/-- The bytes of a TLV. -/
def encode (tlv : Tlv) : List UInt8 := beBytes tlv.type ++ beBytes tlv.body.length ++ tlv.body

/-- The bytes of a chain. -/
def encodeAll (tlvs : List Tlv) : List UInt8 := tlvs.flatMap encode

@[simp] theorem encodeAll_nil : encodeAll [] = [] := rfl

@[simp] theorem encodeAll_cons (tlv : Tlv) (tlvs : List Tlv) :
    encodeAll (tlv :: tlvs) = tlv.encode ++ encodeAll tlvs := rfl

@[simp] theorem encode_length (tlv : Tlv) : tlv.encode.length = tlv.body.length + 4 := by
  simp [encode, beBytes]

/-- A TLV before other bytes, as a reader meets it. -/
theorem encode_append (tlv : Tlv) (rest : List UInt8) :
    ∃ t1 t0 l1 l0, tlv.encode ++ rest = t1 :: t0 :: l1 :: l0 :: (tlv.body ++ rest) ∧
      beWord t1 t0 = tlv.type ∧ beWord l1 l0 = tlv.body.length :=
  ⟨_, _, _, _, rfl, beWord_toUInt8 tlv.type_lt, beWord_toUInt8 tlv.body_lt⟩

/-- The TLVs of a chain; `none` if the bytes end within one. -/
def parse : List UInt8 → Option (List Tlv)
  | [] => some []
  | t1 :: t0 :: l1 :: l0 :: rest =>
    if h : beWord l1 l0 ≤ rest.length then
      (parse (rest.drop (beWord l1 l0))).map fun tlvs =>
        { type := beWord t1 t0
          body := rest.take (beWord l1 l0)
          type_lt := beWord_lt t1 t0
          body_lt := by
            rw [List.length_take_of_le h]
            exact beWord_lt l1 l0 } :: tlvs
    else none
  | _ => none
termination_by bytes => bytes.length
decreasing_by
  simp only [List.length_drop, List.length_cons]
  omega

/-- A TLV at the front of the bytes is the first of the chain. -/
theorem parse_encode_append (tlv : Tlv) (rest : List UInt8) :
    parse (tlv.encode ++ rest) = (parse rest).map (tlv :: ·) := by
  obtain ⟨t1, t0, l1, l0, hbytes, htype, hlen⟩ := encode_append tlv rest
  have hfits : beWord l1 l0 ≤ (tlv.body ++ rest).length := by
    rw [hlen, List.length_append]
    exact Nat.le_add_right _ _
  rw [hbytes, parse, dif_pos hfits]
  simp only [hlen, List.drop_left, List.take_left, htype]

theorem parse_encodeAll (tlvs : List Tlv) : parse (encodeAll tlvs) = some tlvs := by
  induction tlvs with
  | nil => rw [encodeAll_nil, parse]
  | cons tlv tlvs ih =>
    rw [encodeAll_cons, parse_encode_append, ih]
    rfl

theorem encodeAll_of_parse {bytes : List UInt8} {tlvs : List Tlv} (h : parse bytes = some tlvs) :
    encodeAll tlvs = bytes := by
  induction bytes using parse.induct generalizing tlvs with
  | case1 =>
    rw [parse] at h
    cases h
    rfl
  | case2 t1 t0 l1 l0 rest hfits ih =>
    rw [parse, dif_pos hfits] at h
    obtain ⟨found, hfound, rfl⟩ := Option.map_eq_some_iff.mp h
    rw [encodeAll_cons, ih hfound]
    unfold encode
    rw [List.length_take_of_le hfits, beBytes_beWord, beBytes_beWord, List.append_assoc,
      List.take_append_drop]
    rfl
  | case3 t1 t0 l1 l0 rest hfits =>
    rw [parse, dif_neg hfits] at h
    cases h
  | case4 bytes hne hshort =>
    rw [parse] at h
    · cases h
    · exact hne
    · exact hshort

/-- **There is one way to read a chain.** -/
theorem parse_eq_some_iff {bytes : List UInt8} {tlvs : List Tlv} :
    parse bytes = some tlvs ↔ encodeAll tlvs = bytes := by
  constructor
  · exact encodeAll_of_parse
  · rintro rfl
    exact parse_encodeAll tlvs

/-! ### Chains with a torn end -/

/-- The whole TLVs at the front of some bytes. -/
def parseFront : List UInt8 → List Tlv
  | t1 :: t0 :: l1 :: l0 :: rest =>
    if h : beWord l1 l0 ≤ rest.length then
      { type := beWord t1 t0
        body := rest.take (beWord l1 l0)
        type_lt := beWord_lt t1 t0
        body_lt := by
          rw [List.length_take_of_le h]
          exact beWord_lt l1 l0 } :: parseFront (rest.drop (beWord l1 l0))
    else []
  | _ => []
termination_by bytes => bytes.length
decreasing_by
  simp only [List.length_drop, List.length_cons]
  omega

theorem parseFront_encode_append (tlv : Tlv) (rest : List UInt8) :
    parseFront (tlv.encode ++ rest) = tlv :: parseFront rest := by
  obtain ⟨t1, t0, l1, l0, hbytes, htype, hlen⟩ := encode_append tlv rest
  have hfits : beWord l1 l0 ≤ (tlv.body ++ rest).length := by
    rw [hlen, List.length_append]
    exact Nat.le_add_right _ _
  rw [hbytes, parseFront, dif_pos hfits]
  simp only [hlen, List.drop_left, List.take_left, htype]

theorem parseFront_encodeAll_append (tlvs : List Tlv) (rest : List UInt8) :
    parseFront (encodeAll tlvs ++ rest) = tlvs ++ parseFront rest := by
  induction tlvs with
  | nil => rfl
  | cons tlv tlvs ih =>
    rw [encodeAll_cons, List.append_assoc, parseFront_encode_append, ih, List.cons_append]

/-- They are a chain at the front of the bytes. -/
theorem encodeAll_parseFront (bytes : List UInt8) : encodeAll (parseFront bytes) <+: bytes := by
  induction bytes using parseFront.induct with
  | case1 t1 t0 l1 l0 rest hfits ih =>
    rw [parseFront, dif_pos hfits, encodeAll_cons]
    obtain ⟨torn, htorn⟩ := ih
    refine ⟨torn, ?_⟩
    rw [List.append_assoc, htorn]
    unfold encode
    rw [List.length_take_of_le hfits, beBytes_beWord, beBytes_beWord, List.append_assoc,
      List.take_append_drop]
    rfl
  | case2 t1 t0 l1 l0 rest hfits =>
    rw [parseFront, dif_neg hfits]
    exact List.nil_prefix
  | case3 bytes hshort =>
    rw [parseFront]
    · exact List.nil_prefix
    · exact hshort

/-- **No chain at the front of the bytes is longer.** -/
theorem prefix_parseFront {tlvs : List Tlv} {bytes : List UInt8}
    (h : encodeAll tlvs <+: bytes) : tlvs <+: parseFront bytes := by
  obtain ⟨rest, rfl⟩ := h
  rw [parseFront_encodeAll_append]
  exact List.prefix_append tlvs _

/-- The whole TLVs that some bytes begin with, as many as there are. -/
structure LongestChain (bytes : List UInt8) (tlvs : List Tlv) : Prop where
  front : encodeAll tlvs <+: bytes
  longest : ∀ other, encodeAll other <+: bytes → other <+: tlvs

theorem longestChain_parseFront (bytes : List UInt8) : LongestChain bytes (parseFront bytes) :=
  ⟨encodeAll_parseFront bytes, fun _ h => prefix_parseFront h⟩

section Find

variable (p : Tlv → Bool)

/-- Where the body of the first TLV of a kind begins, in a chain that begins at `start`. -/
def findBody (start : Nat) : List Tlv → Option Nat
  | [] => none
  | tlv :: tlvs => if p tlv then some (start + 4) else findBody (start + 4 + tlv.body.length) tlvs

variable {p}

theorem findBody_eq_none_iff {start : Nat} {tlvs : List Tlv} :
    findBody p start tlvs = none ↔ ∀ tlv ∈ tlvs, p tlv = false := by
  induction tlvs generalizing start with
  | nil => simp [findBody]
  | cons tlv tlvs ih =>
    unfold findBody
    cases hp : p tlv with
    | true => simp [hp]
    | false => simp [hp, ih]

theorem findBody_append {start : Nat} {before : List Tlv}
    (hbefore : ∀ tlv ∈ before, p tlv = false) (after : List Tlv) :
    findBody p start (before ++ after) =
      findBody p (start + (encodeAll before).length) after := by
  induction before generalizing start with
  | nil => rfl
  | cons tlv before ih =>
    have hother := hbefore tlv List.mem_cons_self
    rw [List.cons_append, findBody, hother, if_neg Bool.false_ne_true,
      ih (fun t ht => hbefore t (List.mem_cons_of_mem tlv ht)), encodeAll_cons,
      List.length_append, encode_length]
    congr 1
    omega

/-- **The first TLV of a kind**: the one found, with none of the kind before it. -/
theorem findBody_eq_some_iff {start value : Nat} {tlvs : List Tlv} :
    findBody p start tlvs = some value ↔
      ∃ before tlv after, tlvs = before ++ tlv :: after ∧ (∀ t ∈ before, p t = false) ∧
        p tlv = true ∧ value = start + (encodeAll before).length + 4 := by
  constructor
  · intro h
    induction tlvs generalizing start with
    | nil => cases h
    | cons tlv tlvs ih =>
      unfold findBody at h
      cases hp : p tlv with
      | true =>
        rw [hp, if_pos rfl] at h
        exact ⟨[], tlv, tlvs, rfl, fun t ht => (List.not_mem_nil ht).elim, hp,
          (Option.some.inj h).symm⟩
      | false =>
        rw [hp, if_neg Bool.false_ne_true] at h
        obtain ⟨before, found, after, rfl, hbefore, hfound, hvalue⟩ := ih h
        refine ⟨tlv :: before, found, after, rfl, ?_, hfound, ?_⟩
        · intro t ht
          rcases List.mem_cons.mp ht with rfl | ht
          · exact hp
          · exact hbefore t ht
        · rw [hvalue, encodeAll_cons, List.length_append, encode_length]
          omega
  · rintro ⟨before, tlv, after, rfl, hbefore, htlv, rfl⟩
    rw [findBody_append hbefore, findBody, if_pos htlv]

end Find

end Tlv

end Lib
end EspPtp
