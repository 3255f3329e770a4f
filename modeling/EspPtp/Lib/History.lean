import Mathlib.Data.List.Induction

/-!
# Machines, histories and the rules for reasoning about runs

A *machine* here is a total function `step : σ → ε → σ × ο`: in a state, an event
happens, the state changes and an outcome is answered. Every shared object of a
concurrent program whose operations are critical sections is one — the events are the
sections, in whatever order the tasks take the lock, and the outcomes are what each
section returned to its task.

`run` is the state after a list of events and `trace` is the **history**: each event
paired with the outcome it was answered with. Claims of the form *"since the call that
did X, nobody has done Y"* are claims about the history and not about the state, so
the induction rules below carry both: `run_induction` proves `P (trace …) (run …)`
by showing that one more event, appended at the *end* of the history, keeps `P`.

Nothing here names a particular program.
-/

namespace EspPtp
namespace Lib

universe u v w

variable {σ : Type u} {ε : Type v} {ο : Type w}

/-- The state after the events, in order. -/
def run (step : σ → ε → σ × ο) : σ → List ε → σ
  | s, [] => s
  | s, e :: es => run step (step s e).1 es

/-- The history of a run: every event with the outcome it was answered with. -/
def trace (step : σ → ε → σ × ο) : σ → List ε → List (ε × ο)
  | _, [] => []
  | s, e :: es => (e, (step s e).2) :: trace step (step s e).1 es

section Run

variable {step : σ → ε → σ × ο}

@[simp] theorem run_nil (s : σ) : run step s [] = s := rfl

@[simp] theorem run_cons (s : σ) (e : ε) (es : List ε) :
    run step s (e :: es) = run step (step s e).1 es := rfl

@[simp] theorem trace_nil (s : σ) : trace step s [] = [] := rfl

@[simp] theorem trace_cons (s : σ) (e : ε) (es : List ε) :
    trace step s (e :: es) = (e, (step s e).2) :: trace step (step s e).1 es := rfl

theorem run_append (s : σ) (as bs : List ε) :
    run step s (as ++ bs) = run step (run step s as) bs := by
  induction as generalizing s with
  | nil => rfl
  | cons a as ih => exact ih (step s a).1

theorem trace_append (s : σ) (as bs : List ε) :
    trace step s (as ++ bs) = trace step s as ++ trace step (run step s as) bs := by
  induction as generalizing s with
  | nil => rfl
  | cons a as ih =>
    simp only [List.cons_append, trace_cons, run_cons]
    rw [ih]

theorem run_snoc (s : σ) (es : List ε) (e : ε) :
    run step s (es ++ [e]) = (step (run step s es) e).1 := by
  rw [run_append]; rfl

theorem trace_snoc (s : σ) (es : List ε) (e : ε) :
    trace step s (es ++ [e]) =
      trace step s es ++ [(e, (step (run step s es) e).2)] := by
  rw [trace_append]; rfl

theorem trace_fst (step : σ → ε → σ × ο) (s : σ) (es : List ε) :
    (trace step s es).map Prod.fst = es := by
  induction es generalizing s with
  | nil => rfl
  | cons e es ih => simp [ih]

/-- Where an entry of a history comes from. -/
theorem trace_split {s : σ} {es : List ε} {before after : List (ε × ο)} {x : ε × ο}
    (h : trace step s es = before ++ x :: after) :
    ∃ first rest, es = first ++ x.1 :: rest ∧ before = trace step s first ∧
      x.2 = (step (run step s first) x.1).2 := by
  induction es generalizing s before with
  | nil => simp at h
  | cons e es ih =>
    rw [trace_cons] at h
    cases before with
    | nil =>
      rw [List.nil_append] at h
      obtain ⟨rfl, -⟩ := List.cons.inj h
      exact ⟨[], es, rfl, rfl, rfl⟩
    | cons y before =>
      obtain ⟨rfl, hrest⟩ := List.cons.inj h
      obtain ⟨first, rest, rfl, rfl, hx⟩ := ih hrest
      exact ⟨e :: first, rest, rfl, rfl, hx⟩

/-- **The induction rule over runs, on the history.** `P` holds of the empty history in
    the initial state, and one more event keeps it. -/
theorem run_induction {s₀ : σ} {P : List (ε × ο) → σ → Prop} (hinit : P [] s₀)
    (hstep : ∀ h s e, P h s → P (h ++ [(e, (step s e).2)]) (step s e).1)
    (es : List ε) : P (trace step s₀ es) (run step s₀ es) := by
  induction es using List.reverseRecOn with
  | nil => exact hinit
  | append_singleton es e ih =>
    rw [trace_snoc, run_snoc]
    exact hstep _ _ _ ih

/-- The same rule for runs that stay within a bound: `Good` restricts the history, is
    inherited by its prefixes, and may be used in the step. What a hypothesis such as
    *"with fewer than n increments"* needs. -/
theorem run_induction_while {s₀ : σ} {P : List (ε × ο) → σ → Prop}
    (Good : List (ε × ο) → Prop) (hpre : ∀ h x, Good (h ++ [x]) → Good h)
    (hinit : P [] s₀)
    (hstep : ∀ h s e, Good (h ++ [(e, (step s e).2)]) → P h s →
      P (h ++ [(e, (step s e).2)]) (step s e).1)
    (es : List ε) (hgood : Good (trace step s₀ es)) :
    P (trace step s₀ es) (run step s₀ es) := by
  induction es using List.reverseRecOn with
  | nil => exact hinit
  | append_singleton es e ih =>
    rw [trace_snoc] at hgood
    rw [trace_snoc, run_snoc]
    exact hstep _ _ _ hgood (ih (hpre _ _ hgood))

/-- How often a run takes a step of a kind, told by the states before and after it. -/
def countSteps (step : σ → ε → σ × ο) (kind : σ → σ → Bool) : σ → List ε → Nat
  | _, [] => 0
  | s, e :: es =>
    (if kind s (step s e).1 then 1 else 0) + countSteps step kind (step s e).1 es

theorem countSteps_append (kind : σ → σ → Bool) (s : σ) (as bs : List ε) :
    countSteps step kind s (as ++ bs) =
      countSteps step kind s as + countSteps step kind (run step s as) bs := by
  induction as generalizing s with
  | nil => simp [countSteps]
  | cons a as ih =>
    simp only [List.cons_append, countSteps, run_cons]
    rw [ih, Nat.add_assoc]

end Run

/-! ## Runs of admissible steps -/

section Reached

variable {act : σ → ε → σ} {ok : σ → ε → Prop} {s₀ : σ}

/-- The states of the runs from `s₀` whose every step is admissible where it is taken. -/
inductive Reached (act : σ → ε → σ) (ok : σ → ε → Prop) (s₀ : σ) : σ → Prop
  | init : Reached act ok s₀ s₀
  | step {s : σ} {e : ε} : Reached act ok s₀ s → ok s e → Reached act ok s₀ (act s e)

/-- **The invariant rule**: what holds at the start and is kept by every admissible step
    holds of every state reached. -/
theorem Reached.invariant {P : σ → Prop} (hinit : P s₀)
    (hstep : ∀ s e, ok s e → P s → P (act s e)) {s : σ} (h : Reached act ok s₀ s) : P s := by
  induction h with
  | init => exact hinit
  | step _ hok ih => exact hstep _ _ hok ih

/-- A list of steps, all admissible where they are taken. -/
def Admissible (act : σ → ε → σ) (ok : σ → ε → Prop) : σ → List ε → Prop
  | _, [] => True
  | s, e :: es => ok s e ∧ Admissible act ok (act s e) es

instance Admissible.decidable [∀ s e, Decidable (ok s e)] :
    ∀ (s : σ) (es : List ε), Decidable (Admissible act ok s es)
  | _, [] => inferInstanceAs (Decidable True)
  | s, e :: es =>
    have : Decidable (Admissible act ok (act s e) es) := Admissible.decidable (act s e) es
    inferInstanceAs (Decidable (ok s e ∧ Admissible act ok (act s e) es))

theorem Admissible.append {s : σ} {as bs : List ε} :
    Admissible act ok s (as ++ bs) ↔
      Admissible act ok s as ∧ Admissible act ok (as.foldl act s) bs := by
  induction as generalizing s with
  | nil => simp [Admissible]
  | cons a as ih =>
    show (ok s a ∧ Admissible act ok (act s a) (as ++ bs)) ↔
      (ok s a ∧ Admissible act ok (act s a) as) ∧ Admissible act ok (as.foldl act (act s a)) bs
    rw [ih, and_assoc]

/-- A run is a fold, where the outcomes are not looked at. -/
theorem run_eq_foldl {step : σ → ε → σ × ο} (h : ∀ s e, (step s e).1 = act s e) (s : σ)
    (es : List ε) : run step s es = es.foldl act s := by
  induction es generalizing s with
  | nil => rfl
  | cons e es ih => rw [run_cons, ih, h, List.foldl_cons]

theorem Reached.of_steps {s : σ} (h : Reached act ok s₀ s) (es : List ε)
    (hes : Admissible act ok s es) : Reached act ok s₀ (es.foldl act s) := by
  induction es generalizing s with
  | nil => exact h
  | cons e es ih => exact ih (h.step hes.1) hes.2

end Reached

/-! ## What a run answered -/

section Outputs

variable {step : σ → ε → σ × Option ο}

/-- The answers of a run whose events may answer nothing. -/
def outputs (step : σ → ε → σ × Option ο) (s : σ) (es : List ε) : List ο :=
  (trace step s es).filterMap Prod.snd

@[simp] theorem outputs_nil (s : σ) : outputs step s [] = [] := rfl

theorem outputs_cons (s : σ) (e : ε) (es : List ε) :
    outputs step s (e :: es) = (step s e).2.toList ++ outputs step (step s e).1 es := by
  simp only [outputs, trace_cons]
  cases (step s e).2 <;> simp

theorem outputs_append (s : σ) (as bs : List ε) :
    outputs step s (as ++ bs) = outputs step s as ++ outputs step (run step s as) bs := by
  simp only [outputs, trace_append, List.filterMap_append]

end Outputs

/-! ## Past-time statements about a history -/

section Past

variable {α : Type u} {start : List α → α → Prop} {hold : α → Prop} {h : List α}

/-- `Since start hold h`: at some point of the history something satisfied `start`, which
    may look at all that came before it, and everything after it satisfies `hold`. -/
def Since (start : List α → α → Prop) (hold : α → Prop) (h : List α) : Prop :=
  ∃ before x after, h = before ++ x :: after ∧ start before x ∧ ∀ y ∈ after, hold y

theorem Since.now {x : α} (hx : start h x) : Since start hold (h ++ [x]) :=
  ⟨h, x, [], rfl, hx, by simp⟩

theorem Since.snoc (hs : Since start hold h) {y : α} (hy : hold y) :
    Since start hold (h ++ [y]) := by
  obtain ⟨before, x, after, rfl, hx, ha⟩ := hs
  refine ⟨before, x, after ++ [y], by simp, hx, ?_⟩
  intro z hz
  rcases List.mem_append.mp hz with hz | hz
  · exact ha z hz
  · rw [List.mem_singleton.mp hz]
    exact hy

theorem Since.mono {start' : List α → α → Prop} {hold' : α → Prop} (hs : Since start hold h)
    (h1 : ∀ before x, start before x → start' before x) (h2 : ∀ x, hold x → hold' x) :
    Since start' hold' h := by
  obtain ⟨before, x, after, rfl, hx, ha⟩ := hs
  exact ⟨before, x, after, rfl, h1 before x hx, fun y hy => h2 y (ha y hy)⟩

/-- Where the last event of a history sits in a splitting of it. -/
theorem snoc_eq_split {before after : List α} {x y : α} (hsplit : h ++ [x] = before ++ y :: after) :
    (after = [] ∧ h = before ∧ x = y) ∨
      ∃ rest, after = rest ++ [x] ∧ h = before ++ y :: rest := by
  rcases List.eq_nil_or_concat after with rfl | ⟨rest, z, rfl⟩
  · obtain ⟨hb, hx⟩ := List.append_inj' hsplit rfl
    exact Or.inl ⟨rfl, hb, by simpa using hx⟩
  · have hassoc : h ++ [x] = (before ++ y :: rest) ++ [z] := by simpa using hsplit
    obtain ⟨hb, hx⟩ := List.append_inj' hassoc rfl
    have hxz : x = z := by simpa using hx
    exact Or.inr ⟨rest, by rw [hxz]; simp, hb⟩

theorem Since.of_snoc {x : α} (hs : Since start hold (h ++ [x])) :
    start h x ∨ (Since start hold h ∧ hold x) := by
  obtain ⟨before, y, after, hsplit, hy, ha⟩ := hs
  rcases snoc_eq_split hsplit with ⟨-, rfl, rfl⟩ | ⟨rest, rfl, rfl⟩
  · exact Or.inl hy
  · refine Or.inr ⟨⟨before, y, rest, rfl, hy, ?_⟩, ha x (by simp)⟩
    intro z hz
    exact ha z (List.mem_append_left _ hz)

/-- Nothing has held since before an event that it does not hold of. -/
theorem not_since_of_not_hold {before after : List α} {x : α} (hx : ¬ hold x)
    (hstart : ∀ y ∈ x :: after, ∀ past, ¬ start past y) :
    ¬ Since start hold (before ++ x :: after) := by
  induction after using List.reverseRecOn with
  | nil =>
    intro hs
    rcases hs.of_snoc with hnow | ⟨-, hheld⟩
    · exact hstart x List.mem_cons_self _ hnow
    · exact hx hheld
  | append_singleton after y ih =>
    intro hs
    rw [← List.cons_append, ← List.append_assoc] at hs
    rcases hs.of_snoc with hnow | ⟨hpast, -⟩
    · exact hstart y (by simp) _ hnow
    · exact ih (fun z hz => hstart z (List.mem_append_left [y] hz)) hpast

/-- What has held since some start, through an event that is neither, started after it. -/
theorem Since.started_after {before after : List α} {x : α}
    (hs : Since start hold (before ++ x :: after)) (hx : ¬ hold x)
    (hnot : ∀ past, ¬ start past x) :
    ∃ first y rest, after = first ++ y :: rest ∧ start (before ++ x :: first) y := by
  induction after using List.reverseRecOn with
  | nil =>
    rcases hs.of_snoc with hnow | ⟨-, hheld⟩
    · exact absurd hnow (hnot _)
    · exact absurd hheld hx
  | append_singleton after z ih =>
    rw [← List.cons_append, ← List.append_assoc] at hs
    rcases hs.of_snoc with hnow | ⟨hpast, -⟩
    · exact ⟨after, z, [], rfl, hnow⟩
    · obtain ⟨first, y, rest, rfl, hy⟩ := ih hpast
      exact ⟨first, y, rest ++ [z], by simp, hy⟩

/-- `Always P h`: `P` holds of every event of the history and what came before it. -/
def Always (P : List α → α → Prop) (h : List α) : Prop :=
  ∀ before x after, h = before ++ x :: after → P before x

variable {P : List α → α → Prop}

theorem Always.nil : Always P [] := by
  intro before x after h
  simp at h

theorem Always.snoc (ha : Always P h) {x : α} (hx : P h x) : Always P (h ++ [x]) := by
  intro before y after hsplit
  rcases snoc_eq_split hsplit with ⟨-, rfl, rfl⟩ | ⟨rest, -, rfl⟩
  · exact hx
  · exact ha before y rest rfl

/-- The end of a history, after the last event that starts anew. -/
def lastSince (reset : α → Bool) (h : List α) : List α :=
  (h.reverse.takeWhile fun x => !reset x).reverse

theorem lastSince_snoc (reset : α → Bool) (h : List α) (x : α) :
    lastSince reset (h ++ [x]) = if reset x then [] else lastSince reset h ++ [x] := by
  unfold lastSince
  rw [List.reverse_concat, List.takeWhile_cons]
  cases reset x <;> simp

/-- How many events of a kind a history has since the last that starts the count anew. -/
def countSince (reset kind : α → Bool) (h : List α) : Nat :=
  (h.reverse.takeWhile fun x => !reset x).countP kind

variable {reset kind : α → Bool}

theorem countSince_eq (reset kind : α → Bool) (h : List α) :
    countSince reset kind h = (lastSince reset h).countP kind :=
  List.countP_reverse.symm

theorem countSince_snoc (x : α) :
    countSince reset kind (h ++ [x]) =
      if reset x then 0 else countSince reset kind h + if kind x then 1 else 0 := by
  unfold countSince
  rw [List.reverse_concat, List.takeWhile_cons]
  cases hreset : reset x with
  | true => simp
  | false => simp [List.countP_cons]

/-- What is counted is the end of the history, and nothing in it starts the count anew. -/
theorem countSince_split (reset kind : α → Bool) (h : List α) :
    ∃ before after, h = before ++ after ∧ (∀ x ∈ after, reset x = false) ∧
      after.countP kind = countSince reset kind h := by
  refine ⟨(h.reverse.dropWhile fun x => !reset x).reverse,
    (h.reverse.takeWhile fun x => !reset x).reverse, ?_, ?_, ?_⟩
  · rw [← List.reverse_append, List.takeWhile_append_dropWhile, List.reverse_reverse]
  · intro x hx
    have hkept := List.all_eq_true.mp List.all_takeWhile x (List.mem_reverse.mp hx)
    simpa using hkept
  · exact List.countP_reverse

end Past

end Lib
end EspPtp
