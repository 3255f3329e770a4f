import Mathlib.Data.List.Perm.Basic
import Mathlib.Order.Lattice

/-!
# Electing by announcements

Candidates announce themselves, again and again, and a listener follows one of them: a
candidate better than its own threshold, and the best it has heard. It compares an
announcement with what it **stored** of its champion, so a champion whose quality changed is
judged by its old announcement until it announces itself again. That is what takes two
rounds: in the first a stale champion corrects itself or falls, in the second the least
candidate is heard against announcements that are all current.

A listener may also keep the announcement of a candidate it does not follow at present, and
take it up again between two announcements.

`rank` orders the candidates, smaller is better; `port` says who announces.
-/

namespace EspPtp
namespace Lib
namespace Election

variable {α π κ : Type}

/-- What a listener stored, and whether it follows it. -/
inductive Listener (α : Type) where
  | idle
  | shelving (kept : α)
  | following (champion : α)
  deriving DecidableEq

namespace Listener

/-- The announcement that is stored. -/
def kept : Listener α → Option α
  | idle => none
  | shelving a | following a => some a

/-- Between two announcements, what is kept may be taken up again. -/
inductive Resumes : Listener α → Listener α → Prop
  | same (l : Listener α) : Resumes l l
  | resumed (a : α) : Resumes (.shelving a) (.following a)

theorem Resumes.kept {l l' : Listener α} (h : Resumes l l') : l'.kept = l.kept := by
  cases h with
  | same => rfl
  | resumed a => rfl

end Listener

open Listener

section Hear

variable [DecidableEq π] [LinearOrder κ] (rank : α → κ) (port : α → π) (own : κ)

/-- The listener after an announcement `m`. One that is not better than the threshold ends
    what is kept of its own port; any other replaces a worse champion, or itself. -/
def hear (l : Listener α) (m : α) : Listener α :=
  match l with
  | .idle => if rank m < own then .following m else .idle
  | .shelving h =>
    if rank m < own then .following m
    else if port m = port h then .idle
    else .shelving h
  | .following h =>
    if rank m < own then
      if port m = port h ∨ rank m < rank h then .following m else .following h
    else if port m = port h then .idle
    else .following h

/-- A list of announcements is heard. -/
inductive Hearing : Listener α → List α → Listener α → Prop
  | nil (l : Listener α) : Hearing l [] l
  | cons {l l₁ l₂ : Listener α} {m : α} {rest : List α} (h : Resumes (hear rank port own l m) l₁)
      (hrest : Hearing l₁ rest l₂) : Hearing l (m :: rest) l₂

/-- What is kept is one of `candidates`, as it announces itself, and better than the
    threshold. -/
def Settled (candidates : List α) (l : Listener α) : Prop :=
  ∀ h ∈ l.kept, h ∈ candidates ∧ rank h < own

end Hear

variable [DecidableEq π] [LinearOrder κ] {rank : α → κ} {port : α → π} {own : κ}
  {candidates : List α} {l l' : Listener α}

theorem Hearing.append_inv {first second : List α}
    (h : Hearing rank port own l (first ++ second) l') :
    ∃ mid, Hearing rank port own l first mid ∧ Hearing rank port own mid second l' := by
  induction first generalizing l with
  | nil => exact ⟨l, .nil l, h⟩
  | cons m rest ih =>
    cases h with
    | cons hstep hrest =>
      obtain ⟨mid, hfirst, hsecond⟩ := ih hrest
      exact ⟨mid, .cons hstep hfirst, hsecond⟩

/-- What is kept is what was heard now, and better than the threshold, or what was kept
    before, and of another port. -/
theorem kept_hear {m h : α} (hkept : h ∈ (hear rank port own l m).kept) :
    (h = m ∧ rank m < own) ∨ (h ∈ l.kept ∧ port m ≠ port h) := by
  cases l with
  | idle =>
    unfold hear at hkept
    dsimp only at hkept
    split_ifs at hkept with hbetter
    · cases hkept
      exact .inl ⟨rfl, hbetter⟩
    · cases hkept
  | shelving old =>
    unfold hear at hkept
    dsimp only at hkept
    split_ifs at hkept with hbetter hself
    · cases hkept
      exact .inl ⟨rfl, hbetter⟩
    · cases hkept
    · cases hkept
      exact .inr ⟨rfl, hself⟩
  | following old =>
    unfold hear at hkept
    dsimp only at hkept
    split_ifs at hkept with hbetter hreplaces hself
    · cases hkept
      exact .inl ⟨rfl, hbetter⟩
    · cases hkept
      exact .inr ⟨rfl, fun hsame => hreplaces (.inl hsame)⟩
    · cases hkept
    · cases hkept
      exact .inr ⟨rfl, hself⟩

theorem Settled.resumes (h : Settled rank own candidates l) (hresumes : Resumes l l') :
    Settled rank own candidates l' := by
  intro x hx
  rw [hresumes.kept] at hx
  exact h x hx

/-! ## The first round -/

/-- Whatever was stored, when its port has announced itself the listener is settled. -/
theorem Hearing.settled {heard : List α} (h : Hearing rank port own l heard l')
    (hheard : ∀ m ∈ heard, m ∈ candidates)
    (hport : ∀ h ∈ l.kept, (h ∈ candidates ∧ rank h < own) ∨ ∃ m ∈ heard, port m = port h) :
    Settled rank own candidates l' := by
  induction h with
  | nil l =>
    intro x hx
    rcases hport x hx with hsettled | ⟨m, hm, -⟩
    · exact hsettled
    · cases hm
  | @cons l l₁ l₂ m rest hstep _ ih =>
    apply ih (fun x hx => hheard x (List.mem_cons_of_mem m hx))
    intro x hx
    rw [hstep.kept] at hx
    rcases kept_hear hx with ⟨rfl, hbetter⟩ | ⟨hold, hother⟩
    · exact .inl ⟨hheard x List.mem_cons_self, hbetter⟩
    · rcases hport x hold with hsettled | ⟨y, hy, hsame⟩
      · exact .inl hsettled
      · -- It was not its port that announced itself.
        rcases List.mem_cons.mp hy with rfl | hrest
        · exact absurd hsame hother
        · exact .inr ⟨y, hrest, hsame⟩

/-! ## The second round -/

/-- The listener follows a candidate at least as good. -/
def FollowsAtLeast (rank : α → κ) (l : Listener α) (a : α) : Prop :=
  ∃ h, l = .following h ∧ rank h ≤ rank a

theorem FollowsAtLeast.resumes {a : α} (h : FollowsAtLeast rank l a) (hresumes : Resumes l l') :
    FollowsAtLeast rank l' a := by
  obtain ⟨x, rfl, hle⟩ := h
  cases hresumes with
  | same => exact ⟨x, rfl, hle⟩

/-- A champion as it announces itself is only replaced by a better one. -/
theorem Settled.keepsLevel (h : Settled rank own candidates l)
    (hdistinct : ∀ a ∈ candidates, ∀ b ∈ candidates, port a = port b → a = b) {m a : α}
    (hm : m ∈ candidates) (hlevel : FollowsAtLeast rank l a) :
    FollowsAtLeast rank (hear rank port own l m) a := by
  obtain ⟨old, rfl, hle⟩ := hlevel
  obtain ⟨hold, hgood⟩ := h old rfl
  unfold hear
  dsimp only
  by_cases hself : port m = port old
  · have hsame := hdistinct m hm old hold hself
    subst hsame
    rw [if_pos hgood, if_pos (.inl rfl)]
    exact ⟨m, rfl, hle⟩
  · by_cases hbetter : rank m < own
    · rw [if_pos hbetter]
      by_cases hless : rank m < rank old
      · rw [if_pos (.inr hless)]
        exact ⟨m, rfl, le_trans (le_of_lt hless) hle⟩
      · rw [if_neg (by simp [hself, hless])]
        exact ⟨old, rfl, hle⟩
    · rw [if_neg hbetter, if_neg hself]
      exact ⟨old, rfl, hle⟩

/-- An announcement better than the threshold leaves a champion at least as good. -/
theorem hear_level {m : α} (hbetter : rank m < own) :
    FollowsAtLeast rank (hear rank port own l m) m := by
  unfold hear
  cases l with
  | idle =>
    dsimp only
    rw [if_pos hbetter]
    exact ⟨m, rfl, le_refl _⟩
  | shelving old =>
    dsimp only
    rw [if_pos hbetter]
    exact ⟨m, rfl, le_refl _⟩
  | following old =>
    dsimp only
    rw [if_pos hbetter]
    by_cases hreplaces : port m = port old ∨ rank m < rank old
    · rw [if_pos hreplaces]
      exact ⟨m, rfl, le_refl _⟩
    · rw [if_neg hreplaces]
      exact ⟨old, rfl, not_lt.mp fun hless => hreplaces (.inr hless)⟩

theorem Settled.hear (h : Settled rank own candidates l) {m : α} (hm : m ∈ candidates) :
    Settled rank own candidates (hear rank port own l m) := by
  intro x hx
  rcases kept_hear hx with ⟨rfl, hbetter⟩ | ⟨hold, -⟩
  · exact ⟨hm, hbetter⟩
  · exact h x hold

/-- From a settled listener, everyone heard is at most as good as the champion in the end. -/
theorem Hearing.level {heard : List α} (h : Hearing rank port own l heard l')
    (hdistinct : ∀ a ∈ candidates, ∀ b ∈ candidates, port a = port b → a = b)
    (hsettled : Settled rank own candidates l) (hheard : ∀ m ∈ heard, m ∈ candidates) :
    (∀ a, FollowsAtLeast rank l a → FollowsAtLeast rank l' a) ∧
      ∀ m ∈ heard, rank m < own → FollowsAtLeast rank l' m := by
  induction h with
  | nil l => exact ⟨fun _ hlevel => hlevel, fun m hm => (by cases hm)⟩
  | @cons l l₁ l₂ m rest hstep _ ih =>
    have hm := hheard m List.mem_cons_self
    obtain ⟨ihkeeps, ihhears⟩ := ih ((hsettled.hear hm).resumes hstep)
      fun x hx => hheard x (List.mem_cons_of_mem m hx)
    refine ⟨fun a hlevel => ?_, fun x hx hbetter => ?_⟩
    · exact ihkeeps a ((hsettled.keepsLevel hdistinct hm hlevel).resumes hstep)
    · rcases List.mem_cons.mp hx with rfl | hrest
      · exact ihkeeps x ((hear_level hbetter).resumes hstep)
      · exact ihhears x hrest hbetter

/-- **Two rounds elect the best**, in whatever orders the candidates announce themselves,
    and whatever was stored of one of them before. -/
theorem Hearing.elects {first second : List α}
    (h : Hearing rank port own l (first ++ second) l')
    (hdistinct : ∀ a ∈ candidates, ∀ b ∈ candidates, port a = port b → a = b)
    (hkept : ∀ h ∈ l.kept, ∃ m ∈ candidates, port m = port h)
    (hfirst : first.Perm candidates) (hsecond : second.Perm candidates) :
    Settled rank own candidates l' ∧
      ∀ m ∈ candidates, rank m < own → FollowsAtLeast rank l' m := by
  obtain ⟨mid, hround₁, hround₂⟩ := h.append_inv
  have hsettled : Settled rank own candidates mid := by
    apply hround₁.settled fun m hm => hfirst.mem_iff.mp hm
    intro x hx
    obtain ⟨m, hm, hport⟩ := hkept x hx
    exact .inr ⟨m, hfirst.mem_iff.mpr hm, hport⟩
  refine ⟨?_, fun m hm => ?_⟩
  · exact hround₂.settled (fun m hm => hsecond.mem_iff.mp hm) fun x hx => .inl (hsettled x hx)
  · exact (hround₂.level hdistinct hsettled fun x hx => hsecond.mem_iff.mp hx).2 m
      (hsecond.mem_iff.mpr hm)

end Election
end Lib
end EspPtp
