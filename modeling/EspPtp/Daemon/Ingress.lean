import EspPtp.Daemon.Arrival

/-!
# A frame of another port, and port 0

All ports share the receive buffer and the dispatcher, and port 0 holds the timing state of
the daemon. What a frame that came in on another port does to port 0 is therefore decided
branch by branch. `bootstrap` forgets what such a frame may write (the other ports, and the
scratch fields every frame passes through); a frame leaves port 0 alone when `bootstrap`
cannot tell the difference and nothing was sent.

One branch does not ask for the port: a Delay_Req or Pdelay_Req is answered, and its
endpoint declaration believed, wherever it came from. `rx_undisturbed_iff` says that this is
the only one, and exactly when it shows.
-/

namespace EspPtp

open Lib

variable {F : Type} {n : Nat}

/-- A port without the scratch fields. -/
def PtpPort.protocol (port : PtpPort F) : PtpPort F := { port with toRxScratch := default }

namespace PtpState

variable (s : PtpState F n)

/-- The daemon as port 0 sees it. -/
def bootstrap : PtpState F n := { s with ports := fun _ => s.port0.protocol }

theorem bootstrap_withPort {p : Fin (n + 1)} (h : p ≠ 0) (port : PtpPort F) :
    (s.withPort p port).bootstrap = s.bootstrap := by
  have hport0 : (s.withPort p port).port0 = s.port0 := s.withPort_ports_of_ne h.symm port
  unfold bootstrap
  rw [hport0]
  rfl

theorem bootstrap_withPort0 (port : PtpPort F) :
    (s.withPort0 port).bootstrap = { s with ports := fun _ => port.protocol } := by
  unfold bootstrap
  rw [withPort0_port0]
  rfl

/-- The scratch fields may change. -/
theorem bootstrap_scratch {port : PtpPort F} (h : port.protocol = s.port0.protocol) :
    (s.withPort0 port).bootstrap = s.bootstrap := by
  rw [bootstrap_withPort0, h]
  rfl

@[simp] theorem bootstrap_isGptp : s.bootstrap.isGptp = s.isGptp := rfl

@[simp] theorem bootstrap_selectedSourceValid :
    s.bootstrap.selectedSourceValid = s.selectedSourceValid := rfl

@[simp] theorem bootstrap_peerIsEndpoint :
    s.bootstrap.port0.peerIsEndpoint = s.port0.peerIsEndpoint := rfl

end PtpState

/-- A step that left port 0 and its socket alone. -/
structure Undisturbed (s : PtpState F n) (after : PtpState F n × List PtpFrame) : Prop where
  state : after.1.bootstrap = s.bootstrap
  sent : after.2 = []

theorem Undisturbed.congr {s s' : PtpState F n} (h : s'.bootstrap = s.bootstrap)
    (after : PtpState F n × List PtpFrame) : Undisturbed s' after ↔ Undisturbed s after := by
  constructor
  · rintro ⟨hstate, hsent⟩
    exact ⟨hstate.trans h, hsent⟩
  · rintro ⟨hstate, hsent⟩
    exact ⟨hstate.trans h.symm, hsent⟩

/-! ## Signaling stays on its port -/

theorem onRequest_bootstrap {α : Type} (s : PtpState F n) {ingress : Fin (n + 1)}
    (h : ingress ≠ 0) (request : PtpSignaling α) (act : PtpPort F → α → PtpPort F) :
    (s.onRequest ingress request act).bootstrap = s.bootstrap := by
  cases request with
  | decoded value => exact s.bootstrap_withPort h _
  | _ => rfl

theorem rxSignaling_bootstrap (cfg : Config) (s : PtpState F n) (length : Nat)
    {ingress : Fin (n + 1)} (h : ingress ≠ 0) (reads : RxReadings) :
    (rxSignaling cfg s length ingress reads).bootstrap = s.bootstrap := by
  unfold rxSignaling
  dsimp only
  split
  · rfl
  · simp only [onRequest_bootstrap _ h]

/-! ## The request that does not -/

/-- The request is answered. -/
def PtpState.answersRequest (s : PtpState F n) (answers : DelayReqAnswers) : Prop :=
  (s.isGptp ∨ !s.selectedSourceValid) ∧ answers.response.isSome

/-- The request carries an endpoint declaration, and port 0 had none. -/
def PtpState.marksEndpoint (s : PtpState F n) (length : Nat) : Prop :=
  s.port0.peerIsEndpoint = false ∧ ptpMsgHasEndpointDeclTlv s.port0.rxbuf length 54

theorem noteEndpoint_bootstrap_iff (s : PtpState F n) (length : Nat) :
    (s.noteEndpoint length).bootstrap = s.bootstrap ↔ ¬ s.marksEndpoint length := by
  unfold PtpState.noteEndpoint PtpState.marksEndpoint
  by_cases htlv : ptpMsgHasEndpointDeclTlv s.port0.rxbuf length 54
  · rw [if_pos htlv]
    constructor
    · rintro h ⟨hfalse, -⟩
      -- The flag is a field of port 0, so `bootstrap` shows it.
      have hflag := congrArg (fun t : PtpState F n => t.port0.peerIsEndpoint) h
      simp [hfalse] at hflag
    · intro h
      have hset : s.port0.peerIsEndpoint = true := by
        cases hflag : s.port0.peerIsEndpoint with
        | false => exact absurd ⟨hflag, htlv⟩ h
        | true => rfl
      apply s.bootstrap_scratch
      rw [← hset]
  · rw [if_neg htlv]
    simp [htlv]

theorem noteEndpoint_frame (s : PtpState F n) (length : Nat) :
    (s.noteEndpoint length).isGptp = s.isGptp ∧
      (s.noteEndpoint length).selectedSourceValid = s.selectedSourceValid := by
  unfold PtpState.noteEndpoint
  split <;> exact ⟨rfl, rfl⟩

/-- An answered request sends something; one that is not leaves everything as it is. -/
theorem ptpProcessDelayReq_cases (cfg : Config) (s : PtpState F n) (req : PtpDelayReq)
    (answers : DelayReqAnswers) :
    (s.answersRequest answers ∧ (ptpProcessDelayReq cfg s req answers).2 ≠ []) ∨
      (¬ s.answersRequest answers ∧ ptpProcessDelayReq cfg s req answers = (s, [])) := by
  unfold ptpProcessDelayReq PtpState.answersRequest
  by_cases hsilent : !s.isGptp && s.selectedSourceValid
  · right
    rw [if_pos hsilent]
    simp only [Bool.and_eq_true, Bool.not_eq_true'] at hsilent
    simp [hsilent]
  · rw [if_neg hsilent]
    have hanswers : s.isGptp = true ∨ (!s.selectedSourceValid) = true := by
      cases hgptp : s.isGptp <;> simp_all
    cases answers.response with
    | none =>
      right
      simp
    | some transmitted =>
      left
      exact ⟨⟨hanswers, rfl⟩, List.cons_ne_nil _ _⟩

theorem rxDelayReq_undisturbed_iff (cfg : Config) (s : PtpState F n) (length : Nat)
    (reads : RxReadings) :
    Undisturbed s (rxDelayReq cfg s length reads) ↔
      ¬ (s.answersRequest reads.delayReq ∨ s.marksEndpoint length) := by
  have hframe := noteEndpoint_frame s length
  have hanswers :
      (s.noteEndpoint length).answersRequest reads.delayReq ↔
        s.answersRequest reads.delayReq := by
    unfold PtpState.answersRequest
    rw [hframe.1, hframe.2]
  unfold rxDelayReq
  rcases ptpProcessDelayReq_cases cfg (s.noteEndpoint length)
      (PtpDelayReq.read s.port0.rxbuf) reads.delayReq with ⟨hsends, hsent⟩ | ⟨hsilent, hsame⟩
  · constructor
    · intro h
      exact absurd h.sent hsent
    · intro h
      exact absurd (.inl (hanswers.mp hsends)) h
  · rw [hsame]
    have hnot : ¬ s.answersRequest reads.delayReq := fun h => hsilent (hanswers.mpr h)
    constructor
    · rintro ⟨hstate, -⟩ (h | h)
      · exact hnot h
      · exact (noteEndpoint_bootstrap_iff s length).mp hstate h
    · intro h
      exact ⟨(noteEndpoint_bootstrap_iff s length).mpr fun hmarks => h (.inr hmarks), rfl⟩

/-! ## What a frame has to pass -/

/-- The two types that ask for the delay. -/
def PtpMsgtype.IsDelayRequest (type : PtpMsgtype) : Prop := type = .delayReq ∨ type = .pdelayReq

/-- A delay request that passes every check made before the dispatch, on a build that
    answers requests. -/
structure DelayRequestPasses (cfg : Config) (s : PtpState F n) (received : Nat)
    (ingress : Fin (n + 1)) : Prop where
  type : s.port0.rxbuf.msgtype.IsDelayRequest
  bounded : ptpMessageBoundedLength s.port0.rxbuf received ≠ 0
  domain : s.port0.rxbuf.u8 4 = cfg.domain
  profile : s.port0.rxbuf.isGptp = s.isGptp
  sender : SenderAccepted cfg s.isGptp (s.ports ingress) s.port0.sender
  server : cfg.actsAsServer

/-- The request reaches port 0: it is answered there, or port 0 takes its endpoint
    declaration for the one of its own peer. -/
def ReachesPort0 (cfg : Config) (s : PtpState F n) (received : Nat) (ingress : Fin (n + 1))
    (answers : DelayReqAnswers) : Prop :=
  DelayRequestPasses cfg s received ingress ∧
    (s.answersRequest answers ∨
      s.marksEndpoint (ptpMessageBoundedLength s.port0.rxbuf received))

/-- A delay request has no payload to be checked. -/
theorem DelayRequestPasses.iff {cfg : Config} {s : PtpState F n} {received : Nat}
    {ingress : Fin (n + 1)} :
    DelayRequestPasses cfg s received ingress ↔
      s.port0.rxbuf.msgtype.IsDelayRequest ∧ cfg.actsAsServer ∧
        FramePasses cfg s received ingress := by
  constructor
  · rintro ⟨htype, hbounded, hdomain, hprofile, hsender, hserver⟩
    refine ⟨htype, hserver, hbounded, fun _ hfollowUp => ?_, hdomain, hprofile, hsender⟩
    rcases htype with h | h <;> rw [h] at hfollowUp <;> cases hfollowUp
  · rintro ⟨htype, hserver, hpasses⟩
    exact ⟨htype, hpasses.bounded, hpasses.domain, hpasses.profile, hpasses.sender, hserver⟩

/-- The sender check only writes a scratch field. -/
theorem rxSender_bootstrap (cfg : Config) (s : PtpState F n) (ingress : Fin (n + 1)) :
    (rxSender cfg s ingress).1.bootstrap = s.bootstrap ∧
      (rxSender cfg s ingress).1.port0.rxbuf = s.port0.rxbuf := by
  unfold rxSender
  cases senderCheck cfg s.isGptp (s.ports ingress) s.port0.sender with
  | none => exact ⟨rfl, rfl⟩
  | some checked =>
    constructor
    · exact s.bootstrap_scratch rfl
    · simp

/-- What decides over a delay request is part of `bootstrap` and the frame. -/
theorem PtpState.reaches_congr {s s' : PtpState F n} (h : s'.bootstrap = s.bootstrap)
    (hrxbuf : s'.port0.rxbuf = s.port0.rxbuf) (answers : DelayReqAnswers) (length : Nat) :
    (s'.answersRequest answers ∨ s'.marksEndpoint length) ↔
      (s.answersRequest answers ∨ s.marksEndpoint length) := by
  have hgptp : s'.isGptp = s.isGptp := by
    rw [← s'.bootstrap_isGptp, h, s.bootstrap_isGptp]
  have hvalid : s'.selectedSourceValid = s.selectedSourceValid := by
    rw [← s'.bootstrap_selectedSourceValid, h, s.bootstrap_selectedSourceValid]
  have hflag : s'.port0.peerIsEndpoint = s.port0.peerIsEndpoint := by
    rw [← s'.bootstrap_peerIsEndpoint, h, s.bootstrap_peerIsEndpoint]
  unfold PtpState.answersRequest PtpState.marksEndpoint
  rw [hgptp, hvalid, hflag, hrxbuf]

/-- On another port nothing of port 0 is touched before the dispatch. -/
theorem rxArrival_bootstrap (cfg : Config) (s : PtpState F n) (received : Nat)
    {ingress : Fin (n + 1)} (h : ingress ≠ 0) (mono : Timespec) :
    (rxArrival cfg s received ingress mono).1.bootstrap = s.bootstrap ∧
      (rxArrival cfg s received ingress mono).1.port0.rxbuf = s.port0.rxbuf := by
  have hother : ∀ (t : PtpState F n) (port : PtpPort F),
      (t.withPort ingress port).port0 = t.port0 :=
    fun t port => t.withPort_ports_of_ne h.symm port
  unfold rxArrival
  cases rxAdmission cfg s.isGptp s.port0.rxbuf received with
  | dropped => exact ⟨rfl, rfl⟩
  | otherSdoid =>
    exact ⟨s.bootstrap_withPort h _, congrArg (fun port => port.rxbuf) (hother s _)⟩
  | admitted length =>
    dsimp only
    generalize hversion : s.withPort ingress _ = s₁
    have hport0 : s₁.port0 = s.port0 := hversion ▸ hother s _
    have hbootstrap : s₁.bootstrap = s.bootstrap := hversion ▸ s.bootstrap_withPort h _
    obtain ⟨hsender, hrxbuf⟩ := rxSender_bootstrap cfg s₁ ingress
    rw [hbootstrap] at hsender
    rw [hport0] at hrxbuf
    cases (rxSender cfg s₁ ingress).2 with
    | false => exact ⟨hsender, hrxbuf⟩
    | true =>
      exact ⟨(PtpState.bootstrap_withPort _ h _).trans hsender,
        (congrArg (fun port => port.rxbuf) (hother _ _)).trans hrxbuf⟩

/-! ## The frame -/

variable [CDouble F]

/-- On another port every other type is harmless. -/
theorem rxDispatch_undisturbed_iff (cfg : Config) (s : PtpState F n) (length : Nat)
    {ingress : Fin (n + 1)} (h : ingress ≠ 0) (reads : RxReadings) :
    Undisturbed s (rxDispatch cfg s length ingress reads) ↔
      ¬ (s.port0.rxbuf.msgtype.IsDelayRequest ∧ cfg.actsAsServer ∧
        (s.answersRequest reads.delayReq ∨ s.marksEndpoint length)) := by
  have hself : Undisturbed s (s, []) := ⟨rfl, rfl⟩
  unfold rxDispatch PtpMsgtype.IsDelayRequest
  cases s.port0.rxbuf.msgtype with
  | signaling =>
    have hsignaling : Undisturbed s (rxSignaling cfg s length ingress reads, []) :=
      ⟨rxSignaling_bootstrap cfg s length h reads, rfl⟩
    simp [hsignaling]
  | announce | sync | followUp => simp [h, hself]
  | delayResp | pdelayResp => simp [h, hself]
  | delayReq | pdelayReq =>
    cases hserver : cfg.actsAsServer with
    | false => simp [hself]
    | true => simp [rxDelayReq_undisturbed_iff]
  | pdelayRespFollowUp => simp [h, hself]
  | other => simp [hself]

/-- **A frame of another port leaves port 0 alone, unless it is a delay request that reaches
    it.** -/
theorem rx_undisturbed_iff (cfg : Config) (s : PtpState F n) (received : Nat)
    {ingress : Fin (n + 1)} (h : ingress ≠ 0) (reads : RxReadings) :
    Undisturbed s (ptpProcessRxPacket cfg s received ingress reads) ↔
      ¬ ReachesPort0 cfg s received ingress reads.delayReq := by
  obtain ⟨hbootstrap, hrxbuf⟩ := rxArrival_bootstrap cfg s received h reads.mono
  have harrives : ∀ length, _ := fun length =>
    rxArrival_some_iff cfg s received ingress reads.mono length
  unfold ptpProcessRxPacket ReachesPort0
  rw [DelayRequestPasses.iff]
  generalize rxArrival cfg s received ingress reads.mono = arrival at hbootstrap hrxbuf harrives
  obtain ⟨s', passed⟩ := arrival
  cases passed with
  | none =>
    apply iff_of_true ⟨hbootstrap, rfl⟩
    rintro ⟨⟨-, -, hpasses⟩, -⟩
    cases (harrives _).mpr ⟨hpasses, rfl⟩
  | some length =>
    obtain ⟨hpasses, rfl⟩ := (harrives length).mp rfl
    dsimp only at hbootstrap hrxbuf ⊢
    rw [← Undisturbed.congr hbootstrap, rxDispatch_undisturbed_iff cfg s' _ h, hrxbuf,
      PtpState.reaches_congr hbootstrap hrxbuf]
    apply not_congr
    constructor
    · rintro ⟨htype, hserver, hreaches⟩
      exact ⟨⟨htype, hserver, hpasses⟩, hreaches⟩
    · rintro ⟨⟨htype, hserver, -⟩, hreaches⟩
      exact ⟨htype, hserver, hreaches⟩

/-! ## A station's Pdelay_Req -/

namespace Sample

/-- A Pdelay_Req with an endpoint declaration. -/
def pdelayReqFrame : Bytes :=
  [0x12, 0x12, 0, 66] ++ List.replicate 16 0 ++ [2, 0, 0, 255, 254, 0, 0, 1, 0, 1, 0, 0, 5, 0] ++
    List.replicate 20 0 ++ endpointDeclTlv

/-- A daemon in the gPTP profile with a wired port 0 and a station on its access point, and
    a frame that came in there. -/
def twoPorts (sender : MacAddr) : PtpState ℚ 1 :=
  { (default : PtpState ℚ 1) with
    activePtpProfile := .gptp
    ports := fun p =>
      if p.val = 0 then
        { (default : PtpPort ℚ) with
          medium := .ethHwts
          enabled := true
          linkUp := true
          rxSourceMac := sender
          rxSourceMacValid := true
          rxbuf := pdelayReqFrame }
      else
        { (default : PtpPort ℚ) with
          medium := .wifiFtm
          wifiMode := .ap
          enabled := true
          linkUp := true
          wifiPeers := (ptpWifiPeersJoin PtpWifiPeers.zero station).1 } }

def answered : RxReadings :=
  { (default : RxReadings) with delayReq := ⟨some ⟨1, 0⟩, true, ⟨1, 0⟩⟩ }

end Sample

/-- The request of a station that is not associated stays outside. -/
theorem rx_undisturbed_iff_stranger :
    (1 : Fin 2) ≠ 0 ∧
      Undisturbed (Sample.twoPorts #v[2, 0, 0, 0, 0, 2])
        (ptpProcessRxPacket Sample.config (Sample.twoPorts #v[2, 0, 0, 0, 0, 2]) 66 1
          Sample.answered) := by
  refine ⟨by decide, (rx_undisturbed_iff Sample.config _ 66 (by decide) _).mpr ?_⟩
  rintro ⟨hpasses, -⟩
  have hsender := hpasses.sender (false, 0) (by decide +kernel)
  cases hsender

/-- An associated station marks port 0's peer as an endpoint, and is answered through port
    0's socket. -/
theorem not_rx_undisturbed :
    ¬ ∀ (cfg : Config) (s : PtpState ℚ 1) (received : Nat) (reads : RxReadings),
      Undisturbed s (ptpProcessRxPacket cfg s received 1 reads) := by
  intro hclaim
  obtain ⟨hstate, -⟩ :=
    hclaim Sample.config (Sample.twoPorts Sample.station) 66 Sample.answered
  have hflag := congrArg (fun t : PtpState ℚ 1 => t.port0.peerIsEndpoint) hstate
  exact absurd hflag (by decide +kernel)

end EspPtp
