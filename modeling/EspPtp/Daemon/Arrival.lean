import EspPtp.Daemon.Receive

/-!
# What a frame has to pass

Before the dispatch a frame leaves only stamps: when something valid came in, its minor
version, which association it belongs to. `unstamped` forgets them, and what the handlers
read is the same before and after.

`FramePasses` are the checks, in terms of the state the frame finds.
-/

namespace EspPtp

open Lib

variable {F : Type} {n : Nat}

/-! ## The stamps -/

/-- A port without what the arrival of a frame writes. -/
def PtpPort.unstamped (port : PtpPort F) : PtpPort F :=
  { port with
    rxMinorVersion := 0
    lastSocketAlive := default
    lastReceivedMulticast := default
    rxAssociation := 0 }

/-- The daemon without the stamps. -/
def PtpState.unstamped (s : PtpState F n) : PtpState F n :=
  { s with ports := fun p => (s.ports p).unstamped }

theorem PtpState.unstamped_withPort (s : PtpState F n) {p : Fin (n + 1)} {port : PtpPort F}
    (h : port.unstamped = (s.ports p).unstamped) : (s.withPort p port).unstamped = s.unstamped := by
  unfold unstamped
  congr 1
  funext q
  by_cases hq : q = p
  · subst hq
    simpa [withPort] using h
  · rw [s.withPort_ports_of_ne hq]

theorem rxSender_unstamped (cfg : Config) (s : PtpState F n) (ingress : Fin (n + 1)) :
    (rxSender cfg s ingress).1.unstamped = s.unstamped := by
  unfold rxSender
  cases senderCheck cfg s.isGptp (s.ports ingress) s.port0.sender with
  | none => rfl
  | some checked => exact s.unstamped_withPort rfl

/-- Before the dispatch only stamps change. -/
theorem rxArrival_unstamped (cfg : Config) (s : PtpState F n) (received : Nat)
    (ingress : Fin (n + 1)) (mono : Timespec) :
    (rxArrival cfg s received ingress mono).1.unstamped = s.unstamped := by
  unfold rxArrival
  cases rxAdmission cfg s.isGptp s.port0.rxbuf received with
  | dropped => rfl
  | otherSdoid => exact s.unstamped_withPort rfl
  | admitted length =>
    dsimp only
    generalize hversion : s.withPort ingress _ = s₁
    have hsame : s₁.unstamped = s.unstamped := hversion ▸ s.unstamped_withPort rfl
    have hsender := (rxSender_unstamped cfg s₁ ingress).trans hsame
    cases (rxSender cfg s₁ ingress).2 with
    | false => exact hsender
    | true =>
      rw [if_neg (by decide)]
      apply Eq.trans (PtpState.unstamped_withPort _ _)
      · exact hsender
      · rfl

/-! ## The checks -/

/-- The frame comes from a station that may use the port. -/
def SenderAccepted (cfg : Config) (gptp : Bool) (port : PtpPort F) (sender : Option MacAddr) :
    Prop :=
  ∀ checked, senderCheck cfg gptp port sender = some checked → checked.1 = true

/-- The frame reaches the dispatch. -/
structure FramePasses (cfg : Config) (s : PtpState F n) (received : Nat)
    (ingress : Fin (n + 1)) : Prop where
  bounded : ptpMessageBoundedLength s.port0.rxbuf received ≠ 0
  payload : s.isGptp = true → s.port0.rxbuf.msgtype = .followUp →
    ptpTimingPayloadValid s.port0.rxbuf (ptpMessageBoundedLength s.port0.rxbuf received) = true
  domain : s.port0.rxbuf.u8 4 = cfg.domain
  profile : s.port0.rxbuf.isGptp = s.isGptp
  sender : SenderAccepted cfg s.isGptp (s.ports ingress) s.port0.sender

/-- The length of an admitted message is the one the bounds check gave. -/
theorem rxAdmission_admitted_iff (cfg : Config) (gptp : Bool) (message : Bytes)
    (received length : Nat) :
    rxAdmission cfg gptp message received = .admitted length ↔
      ptpMessageBoundedLength message received ≠ 0 ∧
        (gptp = true → message.msgtype = .followUp →
          ptpTimingPayloadValid message (ptpMessageBoundedLength message received) = true) ∧
        message.u8 4 = cfg.domain ∧ message.isGptp = gptp ∧
        length = ptpMessageBoundedLength message received := by
  have hshort : received < 34 → ptpMessageBoundedLength message received = 0 := by
    intro h
    unfold ptpMessageBoundedLength
    rw [if_pos (.inl h)]
  unfold rxAdmission
  dsimp only
  constructor
  · intro h
    split_ifs at h with h₁ h₂ h₃ h₄ h₅
    cases h
    refine ⟨h₂, fun hgptp htype => ?_, not_not.mp h₄, not_not.mp h₅, rfl⟩
    cases hpayload : ptpTimingPayloadValid message (ptpMessageBoundedLength message received) with
    | true => rfl
    | false => exact absurd ⟨hgptp, htype, by simp [hpayload]⟩ h₃
  · rintro ⟨hbounded, hpayload, hdomain, hgptp, rfl⟩
    have hqualified : ¬(gptp = true ∧ message.msgtype = .followUp ∧
        (!ptpTimingPayloadValid message (ptpMessageBoundedLength message received)) = true) := by
      rintro ⟨h, htype, hinvalid⟩
      rw [hpayload h htype] at hinvalid
      cases hinvalid
    rw [if_neg fun h => hbounded (hshort h), if_neg hbounded, if_neg hqualified,
      if_neg (not_not.mpr hdomain), if_neg (not_not.mpr hgptp)]

theorem rxSender_accepted_iff (cfg : Config) (s : PtpState F n) (ingress : Fin (n + 1)) :
    (rxSender cfg s ingress).2 = true ↔
      SenderAccepted cfg s.isGptp (s.ports ingress) s.port0.sender := by
  unfold rxSender SenderAccepted
  cases senderCheck cfg s.isGptp (s.ports ingress) s.port0.sender with
  | none => simp
  | some checked => simp

/-- The sender check reads none of the stamps. -/
theorem SenderAccepted.congr {cfg : Config} {s s' : PtpState F n} (ingress : Fin (n + 1))
    (h : s'.unstamped = s.unstamped) :
    SenderAccepted cfg s'.isGptp (s'.ports ingress) s'.port0.sender ↔
      SenderAccepted cfg s.isGptp (s.ports ingress) s.port0.sender := by
  show SenderAccepted cfg s'.unstamped.isGptp (s'.unstamped.ports ingress)
    s'.unstamped.port0.sender ↔ _
  rw [h]
  rfl

/-- Which frames go on to the dispatch. -/
theorem rxArrival_some_iff (cfg : Config) (s : PtpState F n) (received : Nat)
    (ingress : Fin (n + 1)) (mono : Timespec) (length : Nat) :
    (rxArrival cfg s received ingress mono).2 = some length ↔
      FramePasses cfg s received ingress ∧
        length = ptpMessageBoundedLength s.port0.rxbuf received := by
  have hadmitted : ∀ given, _ := fun given => rxAdmission_admitted_iff cfg s.isGptp
    s.port0.rxbuf received given
  unfold rxArrival
  cases hanswer : rxAdmission cfg s.isGptp s.port0.rxbuf received with
  | dropped | otherSdoid =>
    simp only [reduceCtorEq, false_iff]
    rintro ⟨hpasses, -⟩
    have h := (hadmitted _).mpr
      ⟨hpasses.bounded, hpasses.payload, hpasses.domain, hpasses.profile, rfl⟩
    rw [hanswer] at h
    cases h
  | admitted given =>
    obtain ⟨hbounded, hpayload, hdomain, hprofile, rfl⟩ := (hadmitted given).mp hanswer
    dsimp only
    generalize hversion : s.withPort ingress _ = s₁
    have hsame : s₁.unstamped = s.unstamped := hversion ▸ s.unstamped_withPort rfl
    have haccepted := (rxSender_accepted_iff cfg s₁ ingress).trans
      (SenderAccepted.congr ingress hsame)
    cases hsender : (rxSender cfg s₁ ingress).2 with
    | false =>
      simp only [Bool.not_false, if_true, reduceCtorEq, false_iff]
      rintro ⟨hpasses, -⟩
      rw [haccepted.mpr hpasses.sender] at hsender
      cases hsender
    | true =>
      have hpasses : FramePasses cfg s received ingress :=
        ⟨hbounded, hpayload, hdomain, hprofile, haccepted.mp hsender⟩
      simp only [Bool.not_true, Bool.false_eq_true, if_false, Option.some.injEq, hpasses,
        true_and]
      exact eq_comm

end EspPtp
