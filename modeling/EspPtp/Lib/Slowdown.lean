import Mathlib.Data.Int.Basic
import EspPtp.Lib.Outstanding

/-!
# Slowing down after notice

A periodic sender that is asked for a longer period says so in a number of messages first,
still at its old rate, so that whoever counts on the old rate has been told. A shorter
period, or none, takes effect at once. A period of zero is a sender that does not send.
-/

namespace EspPtp
namespace Lib

/-- The messages still to be sent at the old period, and the period asked for. -/
structure Slowdown where
  remaining : Nat
  old : Int
  target : Int
  deriving DecidableEq

namespace Slowdown

variable {messages : Nat} {s : Slowdown} {next : Int}

/-- The period in effect. -/
def effective (s : Slowdown) : Int := if s.remaining ≠ 0 then s.old else s.target

/-- The period `next` is asked for; `messages` are to be sent before it takes effect. -/
def request (messages : Nat) (s : Slowdown) (next : Int) : Slowdown where
  remaining := if s.effective ≠ 0 ∧ next > s.effective then messages else 0
  old := s.effective
  target := next

/-- One of the messages was sent. -/
def count (s : Slowdown) : Slowdown := { s with remaining := s.remaining - 1 }

/-- While messages remain, the period asked for is longer than the one in effect. -/
structure Kept (messages : Nat) (s : Slowdown) : Prop where
  le : s.remaining ≤ messages
  longer : s.remaining ≠ 0 → 0 < s.old ∧ s.old < s.target
  nonneg : 0 ≤ s.target

theorem Kept.of_settled (h : s.remaining = 0) (htarget : 0 ≤ s.target) : Kept messages s where
  le := by rw [h]; exact Nat.zero_le messages
  longer hne := absurd h hne
  nonneg := htarget

theorem effective_settled (h : s.remaining = 0) : s.effective = s.target := by
  simp [effective, h]

theorem effective_slowing (h : s.remaining ≠ 0) : s.effective = s.old := by
  simp [effective, h]

theorem Kept.effective_nonneg (h : Kept messages s) : 0 ≤ s.effective := by
  by_cases hsettled : s.remaining = 0
  · rw [effective_settled hsettled]
    exact h.nonneg
  · rw [effective_slowing hsettled]
    exact Int.le_of_lt (h.longer hsettled).1

/-- The period in effect is no longer than the one asked for. -/
theorem Kept.effective_le (h : Kept messages s) : s.effective ≤ s.target := by
  by_cases hsettled : s.remaining = 0
  · rw [effective_settled hsettled]
  · rw [effective_slowing hsettled]
    exact Int.le_of_lt (h.longer hsettled).2

/-- A sender that is stopped has none. -/
theorem Kept.effective_stopped (h : Kept messages s) (hstopped : s.target = 0) :
    s.effective = 0 := by
  have hle := h.effective_le
  rw [hstopped] at hle
  exact Int.le_antisymm hle h.effective_nonneg

/-- A request starts a slowdown, or settles the period at once. -/
theorem request_cases (messages : Nat) (s : Slowdown) (next : Int) :
    (s.effective ≠ 0 ∧ s.effective < next ∧
        s.request messages next = ⟨messages, s.effective, next⟩) ∨
      ((s.effective = 0 ∨ next ≤ s.effective) ∧
        s.request messages next = ⟨0, s.effective, next⟩) := by
  by_cases hlonger : s.effective ≠ 0 ∧ next > s.effective
  · exact .inl ⟨hlonger.1, hlonger.2, by simp [request, hlonger]⟩
  · refine .inr ⟨?_, by simp only [request, hlonger, if_false]⟩
    rw [not_and_or, not_not] at hlonger
    exact hlonger.imp_right Int.not_lt.mp

theorem Kept.request (h : Kept messages s) (hnext : 0 ≤ next) :
    Kept messages (s.request messages next) := by
  have hnonneg := h.effective_nonneg
  rcases request_cases messages s next with ⟨hsends, hlonger, heq⟩ | ⟨-, heq⟩
  · rw [heq]
    exact
      { le := Nat.le_refl messages
        longer := fun _ => ⟨lt_of_le_of_ne hnonneg hsends.symm, hlonger⟩
        nonneg := hnext }
  · rw [heq]
    exact .of_settled rfl hnext

theorem Kept.count (h : Kept messages s) : Kept messages s.count where
  le := Nat.le_trans (Nat.sub_le _ _) h.le
  longer hne := h.longer (by intro hzero; simp [Slowdown.count, hzero] at hne)
  nonneg := h.nonneg

/-- **A request never lengthens the period in effect.** -/
theorem request_effective_le (hmessages : messages ≠ 0) (hsends : s.effective ≠ 0) :
    (s.request messages next).effective ≤ s.effective := by
  rcases request_cases messages s next with ⟨-, -, heq⟩ | ⟨hshorter, heq⟩
  · rw [heq]
    simp [effective, hmessages]
  · rw [heq]
    exact hshorter.resolve_left hsends

/-- The last message, and no other, brings the period asked for into effect. -/
theorem count_effective (hchanged : s.count.effective ≠ s.effective) :
    s.remaining = 1 ∧ s.count.effective = s.target := by
  -- With none remaining nothing is counted, and with more than one the old period stays.
  have hslowing : s.remaining ≠ 0 := by
    intro hzero
    have hsame : s.count = s := by
      rw [Slowdown.count, hzero, Nat.zero_sub, ← hzero]
    exact hchanged (by rw [hsame])
  have hlast : s.count.remaining = 0 := by
    by_contra hmore
    exact hchanged (by rw [effective_slowing hmore, effective_slowing hslowing]; rfl)
  refine ⟨?_, effective_settled hlast⟩
  have hle : s.remaining - 1 = 0 := hlast
  omega

theorem Kept.count_last (h : Kept messages s) (hlast : s.remaining = 1) :
    s.count.effective ≠ s.effective := by
  have hslowing : s.remaining ≠ 0 := by rw [hlast]; exact Nat.one_ne_zero
  have hsettled : s.count.remaining = 0 := by simp [Slowdown.count, hlast]
  have hlonger := (h.longer hslowing).2
  rw [effective_settled hsettled, effective_slowing hslowing]
  exact ne_of_gt hlonger

end Slowdown

/-! ## The messages sent since the period was last changed -/

/-- The completions since the last change of the interval that were taken and succeeded. -/
def completions (h : List Report) : Nat :=
  h.foldl
    (fun sent report =>
      match report with
      | .requested true => 0
      | .finished _ true _ true => sent + 1
      | _ => sent) 0

section Completions

variable {h : List Report} {token : UInt32} {now : Int}

@[simp] theorem completions_changed : completions (h ++ [.requested true]) = 0 := by
  simp [completions]

@[simp] theorem completions_counted :
    completions (h ++ [.finished token true now true]) = completions h + 1 := by
  simp [completions]

/-- Neither a change nor a message sent. -/
def Report.isQuiet : Report → Bool
  | .requested changed => !changed
  | .finished _ accepted _ counted => !(accepted && counted)
  | _ => true

theorem completions_quiet {r : Report} (hquiet : r.isQuiet = true) :
    completions (h ++ [r]) = completions h := by
  simp only [completions, List.foldl_append, List.foldl_cons, List.foldl_nil]
  cases r with
  | begun => rfl
  | disabled => rfl
  | rebound => rfl
  | requested changed =>
    cases changed with
    | true => simp [Report.isQuiet] at hquiet
    | false => rfl
  | finished token accepted now counted =>
    cases accepted with
    | false => rfl
    | true =>
      cases counted with
      | false => rfl
      | true => simp [Report.isQuiet] at hquiet

/-- What remains to be sent and what has been sent make up what was promised. -/
def Promised (messages : Nat) (h : List Report) (s : Slowdown) : Prop :=
  s.remaining ≠ 0 → s.remaining + completions h = messages

variable {messages : Nat} {s : Slowdown}

theorem Promised.of_settled (hsettled : s.remaining = 0) : Promised messages h s :=
  fun hne => absurd hsettled hne

theorem Promised.quiet (hs : Promised messages h s) {r : Report} (hquiet : r.isQuiet = true) :
    Promised messages (h ++ [r]) s := by
  intro hne
  rw [completions_quiet hquiet]
  exact hs hne

theorem Promised.requested (s : Slowdown) (next : Int) :
    Promised messages (h ++ [.requested true]) (s.request messages next) := by
  intro hne
  rw [completions_changed]
  rcases Slowdown.request_cases messages s next with ⟨-, -, heq⟩ | ⟨-, heq⟩
  · rw [heq]
    rfl
  · rw [heq] at hne
    exact absurd rfl hne

theorem Promised.counted (hs : Promised messages h s) :
    Promised messages (h ++ [.finished token true now true]) s.count := by
  intro hne
  have hmore : s.remaining - 1 ≠ 0 := hne
  have hbefore := hs (by omega)
  rw [completions_counted]
  show s.remaining - 1 + (completions h + 1) = messages
  omega

/-- What a call may do to the period, by what it said. A call that sets the sender up, or
    starts it anew, leaves it settled; a request may set it up first. -/
inductive Slowdown.Step (messages : Nat) (s : Slowdown) : Report → Slowdown → Prop
  | quiet {r : Report} (h : r.isQuiet = true) : Step messages s r s
  | settled {r : Report} {s' : Slowdown} (h : s'.remaining = 0) (htarget : 0 ≤ s'.target) :
      Step messages s r s'
  | requested {s₀ : Slowdown} {next : Int} (h : s₀ = s ∨ s₀.remaining = 0 ∧ 0 ≤ s₀.target)
      (hnext : 0 ≤ next) : Step messages s (.requested true) (s₀.request messages next)
  | counted (token : UInt32) (now : Int) : Step messages s (.finished token true now true) s.count

variable {r : Report} {s' : Slowdown}

theorem Slowdown.Kept.step (hs : s.Kept messages) (hstep : s.Step messages r s') :
    s'.Kept messages := by
  cases hstep with
  | quiet _ => exact hs
  | settled hsettled htarget => exact .of_settled hsettled htarget
  | requested hsame hnext =>
    rcases hsame with rfl | ⟨hsettled, htarget⟩
    · exact hs.request hnext
    · exact (Kept.of_settled hsettled htarget).request hnext
  | counted token now => exact hs.count

theorem Promised.step (hs : Promised messages h s) (hstep : s.Step messages r s') :
    Promised messages (h ++ [r]) s' := by
  cases hstep with
  | quiet hquiet => exact hs.quiet hquiet
  | settled hsettled _ => exact .of_settled hsettled
  | requested _ _ => exact .requested _ _
  | counted token now => exact hs.counted

end Completions

end Lib
end EspPtp
