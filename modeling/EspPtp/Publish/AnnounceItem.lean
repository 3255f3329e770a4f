import EspPtp.Lib.History
import EspPtp.Wifi.Peers
import EspPtp.Wire.Codec
import EspPtp.Wire.PathTrace

/-!
# What an access point announces (`ptp_wifi.c`, the unicast Announce)

The daemon hands an Announce to a worker together with the stations it is for, and the worker
sends each of them a copy with the station's own port number, sequence number and interval.

An Announce is refreshed several times a second, and most of these say nothing new. So the
worker keeps, for each port, the message that was new last, and gives it a revision number:
the number is what a station's schedule looks at to see that there is news.
-/

namespace EspPtp

open Lib

/-- `PTP_ANNOUNCE_MAX_LENGTH`. -/
def ptpAnnounceMaxLength : Nat := ptpAnnounceBodyLength + 4 + ptpPathTraceMaxClocks * 8

/-- `ap_announce_item_t`, for a device of `n` ports; `len` is the length of `msg`. -/
structure ApAnnounceItem (n : Nat) where
  portIndex : Fin n
  generation : UInt32
  sourceGeneration : UInt32
  queuedUs : Int
  peers : PtpWifiAssociationSnapshot
  initialInterval : Int
  srcMac : MacAddr
  msg : Bytes

/-- What `ptp_wifi_ap_send_announce` reads before it takes its snapshot. -/
structure AnnounceReads where
  generation : UInt32
  sourceGeneration : UInt32
  queuedUs : Int
  deriving DecidableEq, Inhabited

/-- `ptpd_wifi_association_snapshot`; `portOpen` is its test of the port, the one of
    `ptpd_wifi_announce_begin`. -/
def ptpdWifiAssociationSnapshot {n : Nat} (cfg : Config) (portOpen : Bool) (peers : PtpWifiPeers)
    (p : Fin n) : Option PtpWifiAssociationSnapshot :=
  if portOpen && ptpWifiPeersPublishable cfg peers then
    ptpWifiPeersSnapshot peers (p.val + 1) n
  else none

/-- `ptp_wifi_ap_send_announce`, with its mailbox set up: the item that is put into it, and what
    is returned. -/
def ptpWifiApSendAnnounce {n : Nat} (cfg : Config) (portOpen : Bool) (peers : PtpWifiPeers)
    (p : Fin n) (srcMac : MacAddr) (ptpMsg : Bytes) (reads : AnnounceReads) :
    Option (ApAnnounceItem n) × Int :=
  if ptpMsg.length < ptpAnnounceBodyLength ∨ ptpMsg.length > ptpAnnounceMaxLength then (none, -1)
  else
    match ptpdWifiAssociationSnapshot cfg portOpen peers p with
    | none => (none, -1)
    | some peers =>
      if peers.entries = [] then (none, 0)
      else
        (some
          { portIndex := p
            generation := reads.generation
            sourceGeneration := reads.sourceGeneration
            queuedUs := reads.queuedUs
            peers := peers
            initialInterval := (ptpMsg.u8 33).toInt8.toInt
            srcMac := srcMac
            msg := ptpMsg }, 0)

/-! ## The copy of a station -/

/-- The fields `ap_send_announce_now` writes for one station. -/
def announceFor (msg : Bytes) (portNumber : Nat) (sequence : UInt16) (advertised : Int) : Bytes :=
  ((((msg.set 28 (portNumber / 256).toUInt8).set 29 portNumber.toUInt8).set 30
    (sequence >>> 8).toUInt8).set 31 sequence.toUInt8).set 33 (UInt8.ofInt advertised)

@[simp] theorem announceFor_length (msg : Bytes) (portNumber : Nat) (sequence : UInt16)
    (advertised : Int) :
    (announceFor msg portNumber sequence advertised).length = msg.length := by
  simp [announceFor]

/-- Every other byte is that of the message. -/
theorem u8_announceFor {i : Nat} (h : ¬ (28 ≤ i ∧ i < 32) ∧ i ≠ 33) (msg : Bytes)
    (portNumber : Nat) (sequence : UInt16) (advertised : Int) :
    (announceFor msg portNumber sequence advertised).u8 i = msg.u8 i := by
  have h28 : 28 ≠ i := by omega
  have h29 : 29 ≠ i := by omega
  have h30 : 30 ≠ i := by omega
  have h31 : 31 ≠ i := by omega
  have h33 : 33 ≠ i := by omega
  simp [announceFor, h28, h29, h30, h31, h33]

/-- The source writes into the one message, station after station: what is written for a
    station is written over for the next. -/
theorem announceFor_announceFor (msg : Bytes) (portNumber portNumber' : Nat)
    (sequence sequence' : UInt16) (advertised advertised' : Int) :
    announceFor (announceFor msg portNumber sequence advertised) portNumber' sequence'
      advertised' = announceFor msg portNumber' sequence' advertised' := by
  apply List.ext_getElem
  · simp
  · intro i hi hi'
    simp only [announceFor, List.getElem_set]
    split_ifs <;> rfl

theorem field_announceFor {start count : Nat}
    (h : ∀ i, start ≤ i → i < start + count → ¬ (28 ≤ i ∧ i < 32) ∧ i ≠ 33) (msg : Bytes)
    (portNumber : Nat) (sequence : UInt16) (advertised : Int) :
    (announceFor msg portNumber sequence advertised).field start count =
      msg.field start count := by
  apply Vector.ext
  intro i hi
  rw [Bytes.field, Bytes.field, Vector.getElem_ofFn, Vector.getElem_ofFn,
    u8_announceFor (h _ (by omega) (by omega))]

/-- An Announce with the fields of one station. -/
def PtpAnnounce.forStation (msg : PtpAnnounce) (portNumber : Nat) (sequence : UInt16)
    (advertised : Int) : PtpAnnounce :=
  { msg with
    header :=
      { msg.header with
        sourceportindex := octets (portNumber / 256).toUInt8 portNumber.toUInt8
        sequenceid := octets (sequence >>> 8).toUInt8 sequence.toUInt8
        logmessageinterval := UInt8.ofInt advertised } }

/-- A field of two bytes that were both written. -/
theorem field_two {m : Bytes} {i : Nat} {first second : UInt8} (hfirst : m.u8 i = first)
    (hsecond : m.u8 (i + 1) = second) : m.field i 2 = octets first second := by
  subst hfirst hsecond
  rfl

/-- The copy of a station is read as the Announce with the fields of that station. -/
theorem read_announceFor {msg : Bytes} (hlen : 34 ≤ msg.length) (portNumber : Nat)
    (sequence : UInt16) (advertised : Int) :
    PtpAnnounce.read (announceFor msg portNumber sequence advertised) =
      (PtpAnnounce.read msg).forStation portNumber sequence advertised := by
  have hport : (announceFor msg portNumber sequence advertised).field 28 2 =
      octets (portNumber / 256).toUInt8 portNumber.toUInt8 := by
    apply field_two <;>
    · simp [announceFor]
      omega
  have hsequence : (announceFor msg portNumber sequence advertised).field 30 2 =
      octets (sequence >>> 8).toUInt8 sequence.toUInt8 := by
    apply field_two <;>
    · simp [announceFor]
      omega
  have hinterval : (announceFor msg portNumber sequence advertised).u8 33 =
      UInt8.ofInt advertised := by
    simp [announceFor]
    omega
  unfold PtpAnnounce.read PtpHeader.read PtpAnnounce.forStation
  rw [hport, hsequence, hinterval]
  simp (disch := omega) only [u8_announceFor, field_announceFor]

/-- The frame a message is handed to the radio in: both addresses and the Ethertype of PTP. -/
def radioFrame (srcMac dstMac : MacAddr) (ptpMsg : Bytes) : Bytes :=
  dstMac.toList ++ srcMac.toList ++ [0x88, 0xf7] ++ ptpMsg

/-! ## What is new -/

/-- What `ap_announce_information` compares: not the timestamp, and not what is written for a
    station. -/
structure AnnounceContent where
  length : Nat
  domain : UInt8
  flags : Vector UInt8 2
  identity : ClockIdentity
  body : Bytes
  deriving DecidableEq

def Bytes.announceContent (m : Bytes) : AnnounceContent :=
  ⟨m.length, m.u8 4, m.field 6 2, m.field 20 8, m.drop 44⟩

/-- One entry of `s_announce_information`. -/
structure AnnounceInformation where
  revision : UInt32
  message : Bytes
  deriving DecidableEq, Inhabited

/-- `ap_announce_information` on the entry of the item's port. What is returned is the revision
    of the entry afterwards. -/
def apAnnounceInformation (information : AnnounceInformation) (msg : Bytes) :
    AnnounceInformation :=
  if information.revision = 0 ∨ information.message.announceContent ≠ msg.announceContent then
    ⟨nextNonzero information.revision, msg⟩
  else information

theorem apAnnounceInformation_revision_ne_zero (information : AnnounceInformation) (msg : Bytes) :
    (apAnnounceInformation information msg).revision ≠ 0 := by
  unfold apAnnounceInformation
  split
  · exact nextNonzero_ne_zero _
  · rename_i hkept
    exact fun hzero => hkept (.inl hzero)

/-- The entry stands for the message it was asked about last. -/
theorem apAnnounceInformation_content (information : AnnounceInformation) (msg : Bytes) :
    (apAnnounceInformation information msg).message.announceContent = msg.announceContent := by
  unfold apAnnounceInformation
  split
  · rfl
  · rename_i hkept
    exact not_not.mp fun hne => hkept (.inr hne)

/-- The table, asked about a message of one port. -/
def informationStep {n : Nat} (table : Fin n → AnnounceInformation) (asked : Fin n × Bytes) :
    (Fin n → AnnounceInformation) × UInt32 :=
  let information := apAnnounceInformation (table asked.1) asked.2
  (Function.update table asked.1 information, information.revision)

theorem informationStep_revision {n : Nat} (table : Fin n → AnnounceInformation)
    (asked : Fin n × Bytes) :
    ((informationStep table asked).1 asked.1).revision = (informationStep table asked).2 := by
  simp only [informationStep, Function.update_self]

/-! ## Revisions -/

/-- How often the content changes along some messages, from a first one on. -/
def contentChanges : AnnounceContent → List Bytes → Nat
  | _, [] => 0
  | content, msg :: msgs =>
    (if msg.announceContent = content then 0 else 1) + contentChanges msg.announceContent msgs

theorem contentChanges_le (content : AnnounceContent) (msgs : List Bytes) :
    contentChanges content msgs ≤ msgs.length := by
  induction msgs generalizing content with
  | nil => exact Nat.le_refl 0
  | cons msg msgs ih =>
    have hrest := ih msg.announceContent
    simp only [contentChanges, List.length_cons]
    split <;> omega

theorem contentChanges_eq_zero_iff (content : AnnounceContent) (msgs : List Bytes) :
    contentChanges content msgs = 0 ↔ ∀ msg ∈ msgs, msg.announceContent = content := by
  induction msgs generalizing content with
  | nil => simp [contentChanges]
  | cons msg msgs ih =>
    simp only [contentChanges, Nat.add_eq_zero_iff, ih, List.mem_cons, forall_eq_or_imp]
    constructor
    · rintro ⟨hfirst, hrest⟩
      have hsame : msg.announceContent = content := by
        by_contra hne
        rw [if_neg hne] at hfirst
        cases hfirst
      exact ⟨hsame, fun other hother => (hrest other hother).trans hsame⟩
    · rintro ⟨hsame, hrest⟩
      refine ⟨if_pos hsame, fun other hother => ?_⟩
      rw [hsame]
      exact hrest other hother

section Revisions

variable {n : Nat}

/-- The messages of a port among those asked about. -/
def asksOf (p : Fin n) (asked : List (Fin n × Bytes)) : List Bytes :=
  (asked.filter fun ask => decide (ask.1 = p)).map Prod.snd

theorem mem_asksOf {p : Fin n} {asked : List (Fin n × Bytes)} {msg : Bytes} :
    msg ∈ asksOf p asked ↔ (p, msg) ∈ asked := by
  simp only [asksOf, List.mem_map, List.mem_filter, decide_eq_true_eq]
  constructor
  · rintro ⟨⟨q, other⟩, ⟨hmem, rfl⟩, rfl⟩
    exact hmem
  · intro hmem
    exact ⟨(p, msg), ⟨hmem, rfl⟩, rfl⟩

/-- The entry of a port counts the changes of what the port announces. -/
theorem run_information (table : Fin n → AnnounceInformation) (p : Fin n)
    (hset : (table p).revision ≠ 0) (asked : List (Fin n × Bytes)) :
    (run informationStep table asked p).revision =
      nextNonzero^[contentChanges (table p).message.announceContent (asksOf p asked)]
        (table p).revision := by
  induction asked generalizing table with
  | nil => rfl
  | cons ask asked ih =>
    rw [run_cons]
    by_cases hport : ask.1 = p
    · subst hport
      have hentry : (informationStep table ask).1 ask.1 =
          apAnnounceInformation (table ask.1) ask.2 := Function.update_self ..
      have hasks : asksOf ask.1 (ask :: asked) = ask.2 :: asksOf ask.1 asked := by
        simp [asksOf]
      rw [ih _ (by rw [hentry]; exact apAnnounceInformation_revision_ne_zero _ _), hentry,
        apAnnounceInformation_content, hasks, contentChanges]
      by_cases hsame : ask.2.announceContent = (table ask.1).message.announceContent
      · have hkept : apAnnounceInformation (table ask.1) ask.2 = table ask.1 := by
          unfold apAnnounceInformation
          exact if_neg (by simp [hset, hsame])
        rw [hkept, if_pos hsame, Nat.zero_add]
      · have hnew : apAnnounceInformation (table ask.1) ask.2 =
            ⟨nextNonzero (table ask.1).revision, ask.2⟩ := by
          unfold apAnnounceInformation
          exact if_pos (.inr (Ne.symm hsame))
        rw [hnew, if_neg hsame, Nat.add_comm, Function.iterate_succ_apply]
    · have hentry : (informationStep table ask).1 p = table p :=
        Function.update_of_ne (Ne.symm hport) _ _
      have hasks : asksOf p (ask :: asked) = asksOf p asked := by
        simp [asksOf, hport]
      rw [ih _ (by rw [hentry]; exact hset), hentry, hasks]

/-- The revision a message is given, after others. -/
def announceRevision (asked : List (Fin n × Bytes)) (ask : Fin n × Bytes) : UInt32 :=
  (informationStep (run informationStep (fun _ => default) asked) ask).2

theorem announceRevision_ne_zero (asked : List (Fin n × Bytes)) (ask : Fin n × Bytes) :
    announceRevision asked ask ≠ 0 :=
  apAnnounceInformation_revision_ne_zero _ _

/-- **Two Announces of a port are given one revision exactly if the port announced nothing else
    from the first to the second.** -/
theorem announceRevision_eq_iff (before between : List (Fin n × Bytes))
    (first second : Fin n × Bytes) (hport : second.1 = first.1)
    (hround : between.length + 1 < 2 ^ 32 - 1) :
    announceRevision (before ++ first :: between) second = announceRevision before first ↔
      ∀ ask ∈ between ++ [second], ask.1 = first.1 →
        ask.2.announceContent = first.2.announceContent := by
  let table := (informationStep (run informationStep (fun _ => default) before) first).1
  have hentry : table first.1 =
      apAnnounceInformation (run informationStep (fun _ => default) before first.1) first.2 :=
    Function.update_self ..
  have hset : (table first.1).revision ≠ 0 := by
    rw [hentry]
    exact apAnnounceInformation_revision_ne_zero _ _
  have hfirst : announceRevision before first = (table first.1).revision := by
    rw [hentry]
    rfl
  have hsecond : announceRevision (before ++ first :: between) second =
      (run informationStep table (between ++ [second]) first.1).revision := by
    rw [announceRevision, run_append, run_cons, run_snoc, ← hport, informationStep_revision]
  have hcontent : (table first.1).message.announceContent = first.2.announceContent := by
    rw [hentry, apAnnounceInformation_content]
  rw [hsecond, hfirst, run_information table first.1 hset, hcontent]
  have hle := contentChanges_le first.2.announceContent (asksOf first.1 (between ++ [second]))
  have hasks : (asksOf first.1 (between ++ [second])).length ≤ between.length + 1 := by
    have hfilter := List.length_filter_le (fun ask => decide (ask.1 = first.1))
      (between ++ [second])
    simpa [asksOf] using hfilter
  have hzero := contentChanges_eq_zero_iff first.2.announceContent
    (asksOf first.1 (between ++ [second]))
  constructor
  · intro hsame ask hask hask1
    have hnone := iterate_nextNonzero_ne (by omega) hsame
    apply hzero.mp hnone
    rw [mem_asksOf, ← hask1]
    exact hask
  · intro hall
    have hnone : contentChanges first.2.announceContent
        (asksOf first.1 (between ++ [second])) = 0 := by
      rw [hzero]
      intro msg hmsg
      exact hall _ (mem_asksOf.mp hmsg) rfl
    rw [hnone]
    rfl

end Revisions

end EspPtp
