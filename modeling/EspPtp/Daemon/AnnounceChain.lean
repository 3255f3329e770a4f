import EspPtp.Daemon.ApAnnounce
import EspPtp.Wire.Agree

/-!
# Announces along a chain of clocks

The first clock announces itself, and every clock after it stores what it receives as its
selected source and announces that. Which clocks an Announce came through is written in it,
so that it is refused where it has been, and it is refused rather than cut short where the
path is full: a chain passes an Announce to its end exactly if its clocks are different ones
and no more than sixteen.
-/

namespace EspPtp

open Lib

variable {F : Type}

/-! ## The chain -/

/-- A clock of the chain: the daemon when it sends, the port it sends from, and the clock's
    time. Behind the message it received stands what was left in the buffer. -/
structure ChainClock (F : Type) where
  cfg : Config
  others : Nat
  state : PtpState F others
  port : Fin (others + 1)
  announces : state.announcesToStations port = true
  origin : Timespec
  padding : Bytes

namespace ChainClock

variable (clock : ChainClock F)

def identity : ClockIdentity := clock.state.ownIdentity.header.sourceidentity

/-- What is received of a message. -/
def received (wire : Bytes) : Bytes := wire ++ clock.padding

/-- The clock's parse of what it receives. -/
def pathOf (wire : Bytes) : Option PtpPathTrace :=
  ptpPathTraceParse (clock.received wire) (clock.received wire).length clock.identity

/-- The daemon with what it received as its selected source. -/
def stored (wire : Bytes) (path : PtpPathTrace) : PtpState F clock.others :=
  { clock.state.storeSource clock.cfg (clock.received wire) (clock.received wire).length path with
    selectedSourceValid := true }

/-- What the clock sends of a message it received. -/
def relay (wire : Bytes) : Option Bytes :=
  match clock.pathOf wire with
  | none => none
  | some path => (clock.stored wire path).apAnnounce clock.cfg clock.port clock.origin

end ChainClock

/-- The first clock of a chain, which follows no other. -/
structure ChainOrigin (F : Type) extends ChainClock F where
  alone : state.selectedSourceValid = false
  first : state.ownIdentity.stepsremoved = #v[0, 0]

/-- The clock's own Announce. -/
def ChainOrigin.announce (origin : ChainOrigin F) : Option Bytes :=
  origin.state.apAnnounce origin.cfg origin.port origin.origin

/-- What the last clock of a chain sends. -/
def chainAnnounce (origin : ChainOrigin F) (relays : List (ChainClock F)) : Option Bytes :=
  relays.foldl (fun wire clock => wire.bind clock.relay) origin.announce

/-- The clocks of a chain. -/
def chainIdentities (origin : ChainOrigin F) (relays : List (ChainClock F)) : PtpPathTrace :=
  origin.identity :: relays.map ChainClock.identity

/-! ## What is on the wire -/

/-- An Announce that came through these clocks. -/
structure CarriesPath (wire : Bytes) (path : PtpPathTrace) : Prop where
  length : wire.length = 64 + 4 + path.length * 8
  messagelength : wire.word 2 = wire.length
  trace : wire.span 64 (4 + path.length * 8) =
    [0, 8, (path.length * 8 / 256).toUInt8, (path.length * 8).toUInt8] ++ path.bytes

/-- An Announce from a clock with this identity, this many steps on. -/
structure CarriesSource (wire : Bytes) (steps : Nat) (system : List UInt8) : Prop where
  steps : wire.word 61 = steps
  system : systemIdentity (PtpAnnounce.read wire) = system

/-- A full path has room in a message. -/
theorem path_fits {path : PtpPathTrace} (h : path.length ≤ ptpPathTraceMaxClocks) :
    path.length * 8 < 2 ^ 16 := by
  unfold ptpPathTraceMaxClocks at h
  omega

/-- The TLV of a path. -/
def PtpPathTrace.tlv (path : PtpPathTrace) (h : path.length ≤ ptpPathTraceMaxClocks) : Tlv where
  type := 8
  body := path.bytes
  type_lt := by decide
  body_lt := by
    rw [PtpPathTrace.bytes_length]
    exact path_fits h

/-- Who receives the Announce reads its path, unless it is on it. -/
theorem CarriesPath.parse {wire : Bytes} {path : PtpPathTrace} (h : CarriesPath wire path)
    (hsome : path ≠ []) (hfits : path.length ≤ ptpPathTraceMaxClocks) (padding : Bytes)
    (identity : ClockIdentity) :
    ptpPathTraceParse (wire ++ padding) (wire ++ padding).length identity =
      if identity ∈ path then none else some path := by
  have hlen := h.length
  have hword : (wire ++ padding).word 2 = wire.length := by
    rw [← h.messagelength]
    unfold Bytes.word
    rw [Bytes.u8_append_left (by omega), Bytes.u8_append_left (by omega)]
  have hspan : (wire ++ padding).span 64 (wire.length - 64) = Tlv.encodeAll [path.tlv hfits] := by
    rw [Bytes.span_append_left (by omega), show wire.length - 64 = 4 + path.length * 8 by omega,
      h.trace]
    simp [Tlv.encodeAll, Tlv.encode, beBytes, PtpPathTrace.tlv]
  have htraces : pathTlvs [path.tlv hfits] = [path.tlv hfits] := rfl
  by_cases hloop : identity ∈ path
  · rw [if_pos hloop]
    apply Option.eq_none_iff_forall_ne_some.mpr
    intro other hother
    obtain ⟨-, -, tlvs, hchain, hpath⟩ := (ptpPathTraceParse_iff ..).mp hother
    rw [hword, hspan] at hchain
    have htlvs := Tlv.parse_encodeAll tlvs
    rw [hchain, Tlv.parse_encodeAll] at htlvs
    cases htlvs
    rw [htraces] at hpath
    cases hpath with
    | one hbody _ _ hnot =>
      cases PtpPathTrace.bytes_inj hbody
      exact hnot hloop
  · rw [if_neg hloop, ptpPathTraceParse_iff]
    have hbody : 64 ≤ wire.length := by omega
    refine ⟨by rw [hword]; exact hbody, ?_, [path.tlv hfits], ?_, ?_⟩
    · rw [hword, List.length_append]
      exact Nat.le_add_right _ _
    · rw [hword, hspan]
    · rw [htraces]
      exact .one rfl hsome hfits hloop

/-! ## What a clock sends -/

section Wire

variable {n : Nat} {s : PtpState F n} {p : Fin (n + 1)} {msg : PtpAnnounce} {tlv : Bytes}

/-- The message before it is normalized. -/
def announceBody (msg : PtpAnnounce) (tlv : Bytes) : PtpAnnounce :=
  { msg with header := ptpSetMessageLength msg.header (64 + tlv.length) }

theorem announceWire_eq : s.announceWire p msg tlv =
    ptpGptpWireNormalize ((announceBody msg tlv).write ++ tlv) s.isGptp
      (ptpTxMinorVersion (s.ports p)) := rfl

theorem announceWire_length : (s.announceWire p msg tlv).length = 64 + tlv.length := by
  rw [announceWire_eq, ptpGptpWireNormalize_length, List.length_append, PtpAnnounce.write_length]

/-- Bytes of an Announce that are sent as they are. -/
theorem not_wireTouches (htype : msg.header.messagetype &&& 15 = 11) {i : Nat}
    (h : i = 2 ∨ i = 3 ∨ 47 ≤ i) :
    ¬ wireTouches (Bytes.u8 ((announceBody msg tlv).write ++ tlv) 0) i := by
  have h0 := PtpHeader.u8_zero (PtpAnnounce.header_write (announceBody msg tlv) tlv)
  rw [show (announceBody msg tlv).header.messagetype = msg.header.messagetype from rfl] at h0
  unfold wireTouches
  rw [h0, htype]
  rintro (h' | h' | h' | h' | ⟨h', -⟩ | ⟨-, h'⟩ | ⟨h', -⟩ | ⟨h', -⟩)
  all_goals first | omega | cases h'

theorem u8_announceWire (htype : msg.header.messagetype &&& 15 = 11) {i : Nat}
    (h : i = 2 ∨ i = 3 ∨ 47 ≤ i) :
    (s.announceWire p msg tlv).u8 i = Bytes.u8 ((announceBody msg tlv).write ++ tlv) i := by
  rw [announceWire_eq]
  exact u8_normalize (not_wireTouches htype h) _ _

theorem field_announceWire (htype : msg.header.messagetype &&& 15 = 11) {start count : Nat}
    (h : 47 ≤ start) : (s.announceWire p msg tlv).field start count =
      Bytes.field ((announceBody msg tlv).write ++ tlv) start count := by
  rw [announceWire_eq]
  exact field_normalize (fun i hi _ => not_wireTouches htype (.inr (.inr (by omega)))) _ _

/-- The TLV is sent as it is. -/
theorem span_announceWire (htype : msg.header.messagetype &&& 15 = 11) :
    (s.announceWire p msg tlv).span 64 tlv.length = tlv := by
  rw [← Bytes.toList_field, field_announceWire htype (by decide), Bytes.toList_field,
    Bytes.span_append_right (by simp), PtpAnnounce.write_length]
  exact Bytes.span_all tlv

/-- The message gives its own length. -/
theorem word_announceWire (htype : msg.header.messagetype &&& 15 = 11)
    (hlen : 64 + tlv.length < 2 ^ 16) : (s.announceWire p msg tlv).word 2 = 64 + tlv.length := by
  have hword := PtpHeader.word_two (PtpAnnounce.header_write (announceBody msg tlv) tlv)
  unfold Bytes.word at hword ⊢
  rw [u8_announceWire htype (by decide), u8_announceWire htype (by decide), hword]
  exact beWord_toUInt8 hlen

/-- The source is sent as it is. -/
theorem carriesSource_announceWire (htype : msg.header.messagetype &&& 15 = 11) :
    CarriesSource (s.announceWire p msg tlv)
      (beWord (octet0 msg.stepsremoved) (octet1 msg.stepsremoved)) (systemIdentity msg) := by
  have hread := PtpAnnounce.read_write (announceBody msg tlv) tlv
  have hsteps : (PtpAnnounce.read ((announceBody msg tlv).write ++ tlv)).stepsremoved =
      msg.stepsremoved := by
    rw [hread]
    rfl
  have hsystem : systemIdentity (PtpAnnounce.read ((announceBody msg tlv).write ++ tlv)) =
      systemIdentity msg := by
    rw [hread]
    rfl
  unfold PtpAnnounce.read at hsteps
  dsimp only at hsteps
  constructor
  · rw [Bytes.word_eq_field, field_announceWire htype (by decide), hsteps]
  · rw [← hsystem]
    unfold systemIdentity PtpAnnounce.read
    dsimp only
    rw [u8_announceWire htype (by decide), u8_announceWire htype (by decide),
      field_announceWire htype (by decide), field_announceWire htype (by decide)]

/-- What an access point sends is an Announce. -/
theorem announceAs_type (cfg : Config) (s : PtpState F n) (p : Fin (n + 1)) (origin : Timespec)
    (msg : PtpAnnounce) : (s.announceAs cfg p origin msg).header.messagetype &&& 15 = 11 := by
  unfold PtpState.announceAs
  dsimp only
  split <;> rfl

/-- A clock that is not on a path of fewer than sixteen puts itself at its end. -/
theorem ptpPathTraceWrite_eq {upstream : PtpPathTrace} {identity : ClockIdentity}
    (hroom : upstream.length < ptpPathTraceMaxClocks) (hloop : identity ∉ upstream) :
    ptpPathTraceWrite (4 + ptpPathTraceMaxClocks * 8) upstream identity =
      [0, 8, ((upstream ++ [identity]).length * 8 / 256).toUInt8,
        ((upstream ++ [identity]).length * 8).toUInt8] ++
          PtpPathTrace.bytes (upstream ++ [identity]) := by
  have hsome : ¬ upstream.length ≥ ptpPathTraceMaxClocks := Nat.not_le.mpr hroom
  have hcapacity : ¬ 4 + ptpPathTraceMaxClocks * 8 < (upstream.length + 1) * 8 + 4 := by
    unfold ptpPathTraceMaxClocks at hroom ⊢
    omega
  unfold ptpPathTraceWrite
  dsimp only
  rw [if_neg hsome, if_neg hcapacity, if_neg hloop, List.length_append, List.length_singleton]
  unfold PtpPathTrace.bytes
  rw [List.flatMap_append, List.append_assoc]
  simp

theorem ptpPathTraceWrite_eq_nil {upstream : PtpPathTrace} {identity : ClockIdentity}
    (h : ptpPathTraceMaxClocks ≤ upstream.length ∨ identity ∈ upstream) (capacity : Nat) :
    ptpPathTraceWrite capacity upstream identity = [] := by
  unfold ptpPathTraceWrite
  dsimp only
  split_ifs with hfull hcapacity hloop
  · rfl
  · rfl
  · rfl
  · rcases h with hmany | hmem
    · exact absurd hmany hfull
    · exact absurd hmem hloop

/-- With the TLV of a path, the message carries it. -/
theorem carriesPath_announceWire {path : PtpPathTrace}
    (htype : msg.header.messagetype &&& 15 = 11) (hfits : path.length ≤ ptpPathTraceMaxClocks)
    (htlv : tlv = [0, 8, (path.length * 8 / 256).toUInt8, (path.length * 8).toUInt8] ++
      path.bytes) : CarriesPath (s.announceWire p msg tlv) path := by
  have hlen : tlv.length = 4 + path.length * 8 := by
    rw [htlv, List.length_append, PtpPathTrace.bytes_length]
    rfl
  have hbound : 64 + tlv.length < 2 ^ 16 := by
    unfold ptpPathTraceMaxClocks at hfits
    omega
  constructor
  · rw [announceWire_length, hlen, Nat.add_assoc]
  · rw [word_announceWire htype hbound, announceWire_length]
  · rw [← hlen, span_announceWire htype, htlv]

end Wire

/-! ## One clock after another -/

namespace ChainClock

variable (clock : ChainClock F)

/-- What a clock sends that announces what it selected. -/
theorem apAnnounce_eq (clock : ChainClock F) {s : PtpState F clock.others}
    (hports : s.ports = clock.state.ports) {msg : PtpAnnounce} {tlv : Bytes}
    (hsource : s.announceSource = some msg) (htrace : s.announceTrace = some tlv) :
    s.apAnnounce clock.cfg clock.port clock.origin =
      some (s.announceWire clock.port (s.announceAs clock.cfg clock.port clock.origin msg) tlv) := by
  have hopen : s.announcesToStations clock.port = true := by
    unfold PtpState.announcesToStations
    rw [hports]
    exact clock.announces
  unfold PtpState.apAnnounce
  rw [hopen, hsource, htrace]
  rfl

theorem stored_source (wire : Bytes) (path : PtpPathTrace) :
    (clock.stored wire path).selectedSource = PtpAnnounce.read (clock.received wire) ∧
      (clock.stored wire path).selectedPath = path := by
  have hnoted : ∀ (s : PtpSelection) (rx : RxScratch),
      (noteSourceMac s rx).selectedSource = s.selectedSource ∧
        (noteSourceMac s rx).selectedPath = s.selectedPath := by
    intro s rx
    unfold noteSourceMac
    split <;> exact ⟨rfl, rfl⟩
  exact hnoted _ _

/-- A clock that is on the path, or finds it full, sends nothing. -/
theorem relay_refuses {wire : Bytes} {path : PtpPathTrace} (hpath : CarriesPath wire path)
    (hsome : path ≠ []) (hfits : path.length ≤ ptpPathTraceMaxClocks)
    (h : ptpPathTraceMaxClocks ≤ path.length ∨ clock.identity ∈ path) :
    clock.relay wire = none := by
  have hparse := hpath.parse hsome hfits clock.padding clock.identity
  unfold relay pathOf received
  rw [hparse]
  by_cases hloop : clock.identity ∈ path
  · rw [if_pos hloop]
  · rw [if_neg hloop]
    have htrace : (clock.stored wire path).announceTrace = none := by
      unfold PtpState.announceTrace
      dsimp only
      rw [if_pos (show (clock.stored wire path).selectedSourceValid = true from rfl),
        (clock.stored_source wire path).2, if_pos (.inr hsome), if_pos]
      exact ptpPathTraceWrite_eq_nil h _
    unfold PtpState.apAnnounce
    dsimp only
    rw [htrace]
    split
    · rfl
    · split
      · rename_i heq
        cases heq
      · rfl

/-- What a clock sends on of an Announce that it stored. -/
theorem stored_announceSource {wire : Bytes} {path : PtpPathTrace}
    (hselected : (clock.stored wire path).selectedSource = PtpAnnounce.read wire)
    (hsteps : (be16 (PtpAnnounce.read wire).stepsremoved).toNat < 65535) :
    (clock.stored wire path).announceSource =
      some ((PtpAnnounce.read wire).withSteps
        ((be16 (PtpAnnounce.read wire).stepsremoved).toNat + 1)) := by
  unfold PtpState.announceSource
  dsimp only
  rw [if_pos (show (clock.stored wire path).selectedSourceValid = true from rfl), hselected,
    if_neg (Nat.ne_of_lt hsteps)]

/-- The TLV behind it. -/
theorem stored_announceTrace {wire : Bytes} {path : PtpPathTrace}
    (hpath : (clock.stored wire path).selectedPath = path) (hsome : path ≠ [])
    (hroom : path.length < ptpPathTraceMaxClocks) (hloop : clock.identity ∉ path) :
    (clock.stored wire path).announceTrace =
      some (ptpPathTraceWrite (4 + ptpPathTraceMaxClocks * 8) path clock.identity) := by
  unfold PtpState.announceTrace
  dsimp only
  rw [if_pos (show (clock.stored wire path).selectedSourceValid = true from rfl), hpath,
    if_pos (.inr hsome)]
  rw [show (clock.stored wire path).ownIdentity.header.sourceidentity = clock.identity from rfl,
    if_neg]
  rw [ptpPathTraceWrite_eq hroom hloop]
  exact List.cons_ne_nil _ _

/-- A clock that is not on a path with room sends the Announce on, one step further. -/
theorem relay_passes {wire : Bytes} {path : PtpPathTrace} {steps : Nat} {system : List UInt8}
    (hpath : CarriesPath wire path) (hsource : CarriesSource wire steps system)
    (hsome : path ≠ []) (hroom : path.length < ptpPathTraceMaxClocks)
    (hsteps : steps < 65535) (hloop : clock.identity ∉ path) :
    ∃ wire', clock.relay wire = some wire' ∧ CarriesPath wire' (path ++ [clock.identity]) ∧
      CarriesSource wire' (steps + 1) system := by
  have hlength := hpath.length
  have hparse := hpath.parse hsome hroom.le clock.padding clock.identity
  rw [if_neg hloop] at hparse
  obtain ⟨hselected, hselectedPath⟩ := clock.stored_source wire path
  have hreceived : PtpAnnounce.read (clock.received wire) = PtpAnnounce.read wire :=
    (Agree.append wire clock.padding).announce (by omega)
  rw [hreceived] at hselected
  have hword : (be16 (PtpAnnounce.read wire).stepsremoved).toNat = steps := by
    rw [← hsource.steps, Bytes.word_eq_field]
    exact toNat_be16 _
  have hannounce := clock.stored_announceSource hselected (hword ▸ hsteps)
  rw [hword] at hannounce
  have hwritten := ptpPathTraceWrite_eq hroom hloop
  have htrace := clock.stored_announceTrace hselectedPath hsome hroom hloop
  have hrelay : ∃ msg tlv, clock.relay wire =
      some ((clock.stored wire path).announceWire clock.port
        ((clock.stored wire path).announceAs clock.cfg clock.port clock.origin msg) tlv) ∧
      msg = (PtpAnnounce.read wire).withSteps (steps + 1) ∧
      tlv = ptpPathTraceWrite (4 + ptpPathTraceMaxClocks * 8) path clock.identity := by
    refine ⟨_, _, ?_, rfl, rfl⟩
    unfold relay pathOf received
    rw [hparse]
    exact apAnnounce_eq clock (show (clock.stored wire path).ports = _ from rfl) hannounce htrace
  obtain ⟨msg, tlv, hrelay, hmsg, htlv⟩ := hrelay
  have htype := announceAs_type clock.cfg (clock.stored wire path) clock.port clock.origin msg
  have hsystem : systemIdentity
      ((clock.stored wire path).announceAs clock.cfg clock.port clock.origin msg) = system := by
    rw [hmsg, ← hsource.system]
    rfl
  have hstep : beWord
      ((clock.stored wire path).announceAs clock.cfg clock.port clock.origin msg).stepsremoved[0]
      ((clock.stored wire path).announceAs clock.cfg clock.port clock.origin msg).stepsremoved[1] =
      steps + 1 := by
    rw [hmsg]
    exact beWord_toUInt8 (by omega)
  refine ⟨_, hrelay, ?_, ?_⟩
  · have hmore : (path ++ [clock.identity]).length ≤ ptpPathTraceMaxClocks := by
      rw [List.length_append, List.length_singleton]
      exact hroom
    exact carriesPath_announceWire htype hmore (htlv.trans hwritten)
  · rw [← hsystem, ← hstep]
    exact carriesSource_announceWire htype

end ChainClock

/-- The first clock sends its own Announce, with itself as the path. -/
theorem ChainOrigin.announce_eq (origin : ChainOrigin F) :
    ∃ wire, origin.announce = some wire ∧ CarriesPath wire [origin.identity] ∧
      CarriesSource wire 0 (systemIdentity origin.state.ownIdentity) := by
  have halone : ¬ origin.state.selectedSourceValid = true := by
    rw [origin.alone]
    exact Bool.false_ne_true
  have hsource : origin.state.announceSource = some origin.state.ownIdentity := by
    unfold PtpState.announceSource
    rw [if_neg halone]
  have hwritten : ptpPathTraceWrite (4 + ptpPathTraceMaxClocks * 8) [] origin.identity = _ :=
    ptpPathTraceWrite_eq (Nat.zero_lt_succ _) List.not_mem_nil
  have htrace : origin.state.announceTrace =
      some (ptpPathTraceWrite (4 + ptpPathTraceMaxClocks * 8) [] origin.identity) := by
    unfold PtpState.announceTrace
    dsimp only
    rw [if_neg halone, if_pos (.inl (by rw [origin.alone]; rfl)), if_neg]
    · rfl
    · rw [show origin.state.ownIdentity.header.sourceidentity = origin.identity from rfl, hwritten]
      exact List.cons_ne_nil _ _
  have htype := announceAs_type origin.cfg origin.state origin.port origin.origin
    origin.state.ownIdentity
  have hsteps : beWord
      (origin.state.announceAs origin.cfg origin.port origin.origin
        origin.state.ownIdentity).stepsremoved[0]
      (origin.state.announceAs origin.cfg origin.port origin.origin
        origin.state.ownIdentity).stepsremoved[1] = 0 := by
    show beWord origin.state.ownIdentity.stepsremoved[0]
      origin.state.ownIdentity.stepsremoved[1] = 0
    rw [origin.first]
    rfl
  refine ⟨_, ChainClock.apAnnounce_eq origin.toChainClock rfl hsource htrace, ?_, ?_⟩
  · exact carriesPath_announceWire htype (Nat.le_of_ble_eq_true rfl) hwritten
  · rw [← hsteps]
    exact carriesSource_announceWire htype

/-! ## Every chain -/

/-- What becomes of an Announce on its way through a chain. -/
structure ChainOutcome (origin : ChainOrigin F) (relays : List (ChainClock F)) : Prop where
  /-- Different clocks pass it on, up to the sixteenth. -/
  passes : (chainIdentities origin relays).Nodup → relays.length < ptpPathTraceMaxClocks →
    ∃ wire, chainAnnounce origin relays = some wire
  /-- No other clocks do. -/
  once : ∀ wire, chainAnnounce origin relays = some wire →
    (chainIdentities origin relays).Nodup ∧ relays.length < ptpPathTraceMaxClocks
  path : ∀ wire, chainAnnounce origin relays = some wire →
    CarriesPath wire (chainIdentities origin relays)
  source : ∀ wire, chainAnnounce origin relays = some wire →
    CarriesSource wire relays.length (systemIdentity origin.state.ownIdentity)
  /-- A clock on the path refuses it, and every other one reads the path. -/
  received : ∀ wire, chainAnnounce origin relays = some wire → ∀ padding identity,
    ptpPathTraceParse (wire ++ padding) (wire ++ padding).length identity =
      if identity ∈ chainIdentities origin relays then none
      else some (chainIdentities origin relays)

theorem chainAnnounce_snoc (origin : ChainOrigin F) (relays : List (ChainClock F))
    (clock : ChainClock F) : chainAnnounce origin (relays ++ [clock]) =
      (chainAnnounce origin relays).bind clock.relay := by
  unfold chainAnnounce
  rw [List.foldl_append]
  rfl

theorem chainIdentities_snoc (origin : ChainOrigin F) (relays : List (ChainClock F))
    (clock : ChainClock F) : chainIdentities origin (relays ++ [clock]) =
      chainIdentities origin relays ++ [clock.identity] := by
  unfold chainIdentities
  rw [List.map_append]
  rfl

/-- What the last clock sent, by induction on the chain. -/
theorem chainAnnounce_cases (origin : ChainOrigin F) (relays : List (ChainClock F)) :
    ((chainIdentities origin relays).Nodup ∧ relays.length < ptpPathTraceMaxClocks ∧
      ∃ wire, chainAnnounce origin relays = some wire ∧
        CarriesPath wire (chainIdentities origin relays) ∧
          CarriesSource wire relays.length (systemIdentity origin.state.ownIdentity)) ∨
    (¬ ((chainIdentities origin relays).Nodup ∧ relays.length < ptpPathTraceMaxClocks) ∧
      chainAnnounce origin relays = none) := by
  induction relays using List.reverseRecOn with
  | nil => exact .inl ⟨List.nodup_singleton _, Nat.zero_lt_succ _, origin.announce_eq⟩
  | append_singleton relays clock ih =>
    rw [chainAnnounce_snoc, chainIdentities_snoc]
    have hcount : (chainIdentities origin relays).length = relays.length + 1 := by
      simp [chainIdentities]
    have hmore : (chainIdentities origin relays ++ [clock.identity]).Nodup ↔
        (chainIdentities origin relays).Nodup ∧ clock.identity ∉ chainIdentities origin relays := by
      rw [List.nodup_append_comm, List.singleton_append, List.nodup_cons, and_comm]
    rw [hmore, List.length_append, List.length_singleton]
    rcases ih with ⟨hnodup, hlength, wire, hwire, hpath, hsource⟩ | ⟨hstopped, hnone⟩
    · have hsome : chainIdentities origin relays ≠ [] := List.cons_ne_nil _ _
      rw [hwire, Option.bind_some]
      by_cases hrefused : ptpPathTraceMaxClocks ≤ (chainIdentities origin relays).length ∨
          clock.identity ∈ chainIdentities origin relays
      · refine .inr ⟨?_, clock.relay_refuses hpath hsome (by omega) hrefused⟩
        rintro ⟨⟨-, hloop⟩, hroom⟩
        rcases hrefused with hfull | hmem
        · omega
        · exact hloop hmem
      · rw [not_or] at hrefused
        obtain ⟨hroom, hloop⟩ := hrefused
        have hsteps : relays.length < 65535 := Nat.lt_trans hlength (by decide)
        obtain ⟨wire', hwire', hpath', hsource'⟩ :=
          clock.relay_passes hpath hsource hsome (by omega) hsteps hloop
        exact .inl ⟨⟨hnodup, hloop⟩, by omega, wire', hwire', hpath', hsource'⟩
    · refine .inr ⟨?_, by rw [hnone]; rfl⟩
      rintro ⟨⟨hnodup, -⟩, hroom⟩
      exact hstopped ⟨hnodup, by omega⟩

theorem chainOutcome (origin : ChainOrigin F) (relays : List (ChainClock F)) :
    ChainOutcome origin relays := by
  have hcases := chainAnnounce_cases origin relays
  have hsent : ∀ wire, chainAnnounce origin relays = some wire →
      (chainIdentities origin relays).Nodup ∧ relays.length < ptpPathTraceMaxClocks ∧
        CarriesPath wire (chainIdentities origin relays) ∧
          CarriesSource wire relays.length (systemIdentity origin.state.ownIdentity) := by
    intro wire hwire
    rcases hcases with ⟨hnodup, hlength, wire', hwire', hpath, hsource⟩ | ⟨-, hnone⟩
    · rw [hwire'] at hwire
      cases hwire
      exact ⟨hnodup, hlength, hpath, hsource⟩
    · rw [hnone] at hwire
      cases hwire
  refine ⟨?_, ?_, ?_, ?_, ?_⟩
  · intro hnodup hlength
    rcases hcases with ⟨-, -, wire, hwire, -⟩ | ⟨hstopped, -⟩
    · exact ⟨wire, hwire⟩
    · exact absurd ⟨hnodup, hlength⟩ hstopped
  · intro wire hwire
    exact ⟨(hsent wire hwire).1, (hsent wire hwire).2.1⟩
  · intro wire hwire
    exact (hsent wire hwire).2.2.1
  · intro wire hwire
    exact (hsent wire hwire).2.2.2
  · intro wire hwire padding identity
    obtain ⟨-, hlength, hpath, -⟩ := hsent wire hwire
    have hfits : (chainIdentities origin relays).length ≤ ptpPathTraceMaxClocks := by
      rw [chainIdentities, List.length_cons, List.length_map]
      exact hlength
    exact hpath.parse (List.cons_ne_nil _ _) hfits padding identity

namespace Sample

/-- An access point of a clock with this identity. -/
def chainClock (identity : UInt8) : ChainClock ℚ where
  cfg := config
  others := 0
  state :=
    { (default : PtpState ℚ 0) with
      activePtpProfile := .gptp
      ownIdentity :=
        { (default : PtpAnnounce) with
          header := { (default : PtpHeader) with sourceidentity := Vector.replicate 8 identity } }
      ports := fun _ =>
        { (default : PtpPort ℚ) with
          enabled := true
          medium := .wifiFtm
          wifiMode := .ap } }
  port := ⟨0, Nat.one_pos⟩
  announces := rfl
  origin := ⟨0, 0⟩
  padding := [0, 0]

def chainOrigin : ChainOrigin ℚ where
  toChainClock := chainClock 1
  alone := rfl
  first := rfl

end Sample

example : ∃ wire, chainAnnounce Sample.chainOrigin [Sample.chainClock 2, Sample.chainClock 3] =
    some wire := (chainOutcome _ _).passes (by decide) (by decide)

/-- What `ptp_path_trace_parse` does with any message: it stores the path of one in the grammar,
    and leaves its out parameter alone for every other one. -/
def ParsesPath (message : Bytes) (received : Nat) (identity : ClockIdentity)
    (before : PtpPathTrace) : Prop :=
  let answer := ptpPathTraceParseInto message received identity before
  if answer.1 then PathGrammar message received identity answer.2
  else (∀ path, ¬ PathGrammar message received identity path) ∧ answer.2 = before

theorem parsesPath (message : Bytes) (received : Nat) (identity : ClockIdentity)
    (before : PtpPathTrace) : ParsesPath message received identity before := by
  unfold ParsesPath ptpPathTraceParseInto
  cases hparse : ptpPathTraceParse message received identity with
  | none =>
    refine ⟨?_, rfl⟩
    intro path hpath
    rw [(ptpPathTraceParse_iff ..).mpr hpath] at hparse
    cases hparse
  | some path => exact (ptpPathTraceParse_iff ..).mp hparse

/-- **Paths grow by one clock at a time and never come back to one, and what is read as a path
    is one.** -/
theorem paths_grow :
    (∀ (origin : ChainOrigin F) (relays : List (ChainClock F)), ChainOutcome origin relays) ∧
      ∀ message received identity before, ParsesPath message received identity before :=
  ⟨chainOutcome, parsesPath⟩

end EspPtp
