import EspPtp.Lib.Counter
import EspPtp.Lib.History
import EspPtp.Lib.Pacing

/-!
# One piece of work in flight

A sender that names the work it hands out by serial numbers, and keeps the number of the
latest until it hears what became of it. It hands out the next piece once its deadline has
come and the piece before it is resolved, is older than a limit, or was overtaken by news.

`Outstanding.Step` says what a call may do to the five numbers such a sender keeps, and
`Report` what the call said. Two senders written independently of each other are both
instances once each of their operations is shown to be such a step; what is said here of
the tokens is said of the reports alone.
-/

namespace EspPtp
namespace Lib

/-- What is kept of the work in flight; a `pending` of zero is none. -/
structure Outstanding where
  serial : UInt32
  pending : UInt32
  queued : Int
  next : Int
  active : Bool

namespace Outstanding

/-- Nothing handed out yet. -/
def start : Outstanding := ⟨0, 0, 0, 0, false⟩

/-- What was in flight no longer counts, and neither does the deadline. -/
def overtaken (s : Outstanding) : Outstanding := { s with pending := 0, active := false }

/-- Hand out the next piece at `now`, if it is due; the token is zero if it is not. -/
def beginAt (limit period : Int) (s : Outstanding) (now : Int) : Outstanding × UInt32 :=
  if s.pending ≠ 0 ∧ (now < s.queued ∨ now - s.queued < limit) then (s, 0)
  else if s.active = true ∧ now < s.next then ({ s with pending := 0 }, 0)
  else
    ({ serial := nextNonzero s.serial
       pending := nextNonzero s.serial
       queued := now
       next := paced period s.active s.next now
       active := true }, nextNonzero s.serial)

/-- A completion of `token` at `now`, and whether it is taken. -/
def finishAt (limit : Int) (s : Outstanding) (token : UInt32) (now : Int) : Outstanding × Bool :=
  if token = 0 ∨ s.pending ≠ token then (s, false)
  else ({ s with pending := 0 }, decide (s.queued ≤ now ∧ now < s.queued + limit))

end Outstanding

/-- What one call said. -/
inductive Report where
  /-- A call that hands out work, or the token zero; `news` overtook what was in flight. -/
  | begun (token : UInt32) (now : Int) (news : Bool)
  /-- A call that finds the sender disabled. -/
  | disabled
  /-- A completion, and whether it was taken. -/
  | finished (token : UInt32) (accepted : Bool) (now : Int) (counted : Bool)
  /-- A request for another interval, and whether it changed it. -/
  | requested (changed : Bool)
  /-- A change of who is sent to, and whether it started the sender anew. -/
  | rebound (reset : Bool)
  deriving DecidableEq, Repr

namespace Report

def isBegin : Report → Bool
  | .begun .. | .disabled => true
  | _ => false

/-- The token a call handed out. -/
def token? : Report → Option UInt32
  | .begun token _ _ => if token = 0 then none else some token
  | _ => none

/-- The token a completion was taken for. -/
def counted? : Report → Option UInt32
  | .finished token _ _ true => some token
  | _ => none

/-- After this nothing handed out before can be completed any more. -/
def retires : Report → Bool
  | .begun token _ news => decide (token ≠ 0) || news
  | .disabled => true
  | .finished _ _ _ counted => counted
  | .requested changed => changed
  | .rebound reset => reset

/-- After this `token` needs no completion any more. -/
def resolves (token : UInt32) : Report → Bool
  | .begun _ _ news => news
  | .disabled => true
  | .finished other _ _ _ => decide (other = token)
  | .requested changed => changed
  | .rebound reset => reset

/-- `token` was handed out at this time. -/
def issues (token : UInt32) (issued : Int) (report : Report) : Prop :=
  ∃ news, report = .begun token issued news

end Report

/-- The begin a call made, and the deadline it left. -/
def Report.beat? (report : Report) (deadline : Int) : Option Beat :=
  match report with
  | .begun token now _ => if token = 0 then none else some ⟨now, deadline⟩
  | _ => none

/-- A call that starts nothing anew. -/
def Report.isSteady : Report → Bool
  | .begun _ _ news => !news
  | .disabled => false
  | .finished .. => true
  | .requested changed => !changed
  | .rebound reset => !reset

/-- The tokens handed out, in order. -/
def tokens (h : List Report) : List UInt32 := h.filterMap Report.token?

/-- The tokens whose completions were taken, in order. -/
def countedTokens (h : List Report) : List UInt32 := h.filterMap Report.counted?

def begins (h : List Report) : Nat := h.countP Report.isBegin

/-- A completion is taken only for the latest token, in time, and with nothing since its
    issue that retires it. -/
def FinishSound (limit : Int) (past : List Report) (report : Report) : Prop :=
  ∀ token accepted now, report = .finished token accepted now true →
    ∃ issued, issued ≤ now ∧ now < issued + limit ∧
      Since (fun _ => Report.issues token issued) (fun r => r.retires = false) past

/-- Work is handed out over an unresolved token only after the limit, or for news. -/
def BeginSound (limit : Int) (past : List Report) (report : Report) : Prop :=
  ∀ token now news, report = .begun token now news → token ≠ 0 →
    ∀ earlier issued, earlier ≠ 0 →
      Since (fun _ => Report.issues earlier issued) (fun r => r.resolves earlier = false) past →
      issued + limit ≤ now ∨ news = true

structure TokensSound (limit : Int) (h : List Report) : Prop where
  distinct : (tokens h).Nodup
  once : (countedTokens h).Nodup
  finishes : Always (FinishSound limit) h
  begins : Always (BeginSound limit) h

/-- What a call may do, by what it said. -/
inductive Outstanding.Step (limit : Int) (s : Outstanding) : Report → Outstanding → Prop
  | refused (now : Int) : Step limit s (.begun 0 now false) s
  | unchanged : Step limit s (.requested false) s
  | kept : Step limit s (.rebound false) s
  | unknown {token : UInt32} (accepted : Bool) (now : Int) (h : token = 0 ∨ s.pending ≠ token) :
      Step limit s (.finished token accepted now false) s
  | late (accepted : Bool) {now : Int} (h : now < s.queued ∨ s.queued + limit ≤ now) :
      Step limit s (.finished s.pending accepted now false) { s with pending := 0 }
  | counted (accepted : Bool) {now next : Int} (hpending : s.pending ≠ 0)
      (hissued : s.queued ≤ now) (hlimit : now < s.queued + limit)
      (hnext : next = s.next ∨ now ≤ next) :
      Step limit s (.finished s.pending accepted now true)
        { s with pending := 0, next := next }
  | lapsed {now : Int} (hactive : s.active = true) (hold : s.queued + limit ≤ now)
      (hdue : now < s.next) : Step limit s (.begun 0 now false) { s with pending := 0 }
  | issued {now next : Int} (news : Bool)
      (hfree : s.pending = 0 ∨ s.queued + limit ≤ now ∨ news = true)
      (hdue : s.active = false ∨ s.next ≤ now ∨ news = true) (hnext : now < next) :
      Step limit s (.begun (nextNonzero s.serial) now news)
        { serial := nextNonzero s.serial
          pending := nextNonzero s.serial
          queued := now
          next := next
          active := true }
  | disabled : Step limit s .disabled { s with pending := 0, active := false }
  | changed : Step limit s (.requested true) { s with pending := 0, active := false }
  | reset : Step limit s (.rebound true) { Outstanding.start with serial := s.serial }

/-! ## The operations are steps -/

section Operations

variable {limit period now : Int} {s : Outstanding}

theorem Outstanding.beginAt_busy
    (h : s.pending ≠ 0 ∧ (now < s.queued ∨ now - s.queued < limit)) :
    s.beginAt limit period now = (s, 0) := if_pos h

theorem Outstanding.beginAt_early
    (hfree : ¬ (s.pending ≠ 0 ∧ (now < s.queued ∨ now - s.queued < limit)))
    (h : s.active = true ∧ now < s.next) :
    s.beginAt limit period now = ({ s with pending := 0 }, 0) := by
  rw [beginAt, if_neg hfree, if_pos h]

theorem Outstanding.beginAt_due
    (hfree : ¬ (s.pending ≠ 0 ∧ (now < s.queued ∨ now - s.queued < limit)))
    (hdue : ¬ (s.active = true ∧ now < s.next)) :
    s.beginAt limit period now =
      ({ serial := nextNonzero s.serial
         pending := nextNonzero s.serial
         queued := now
         next := paced period s.active s.next now
         active := true }, nextNonzero s.serial) := by
  rw [beginAt, if_neg hfree, if_neg hdue]

/-- When work is handed out. -/
theorem Outstanding.beginAt_ne_zero :
    (s.beginAt limit period now).2 ≠ 0 ↔
      ¬ (s.pending ≠ 0 ∧ (now < s.queued ∨ now - s.queued < limit)) ∧
        ¬ (s.active = true ∧ now < s.next) := by
  constructor
  · intro hne
    by_cases hfree : s.pending ≠ 0 ∧ (now < s.queued ∨ now - s.queued < limit)
    · rw [beginAt_busy hfree] at hne
      exact absurd rfl hne
    · by_cases hdue : s.active = true ∧ now < s.next
      · rw [beginAt_early hfree hdue] at hne
        exact absurd rfl hne
      · exact ⟨hfree, hdue⟩
  · rintro ⟨hfree, hdue⟩
    rw [beginAt_due hfree hdue]
    exact nextNonzero_ne_zero _

/-- Where nothing is handed out the deadline stays. -/
theorem Outstanding.beginAt_idle (h : (s.beginAt limit period now).2 = 0) :
    (s.beginAt limit period now).1.next = s.next ∧
      (s.beginAt limit period now).1.active = s.active := by
  by_cases hfree : s.pending ≠ 0 ∧ (now < s.queued ∨ now - s.queued < limit)
  · rw [beginAt_busy hfree]
    exact ⟨rfl, rfl⟩
  · by_cases hdue : s.active = true ∧ now < s.next
    · rw [beginAt_early hfree hdue]
      exact ⟨rfl, rfl⟩
    · rw [beginAt_due hfree hdue] at h
      exact absurd h (nextNonzero_ne_zero _)

theorem Outstanding.beginAt_step (hperiod : 0 < period) :
    s.Step limit (.begun (s.beginAt limit period now).2 now false)
      (s.beginAt limit period now).1 := by
  by_cases hfree : s.pending ≠ 0 ∧ (now < s.queued ∨ now - s.queued < limit)
  · rw [beginAt_busy hfree]
    exact .refused now
  · have hlate : s.pending = 0 ∨ s.queued + limit ≤ now := by
      by_cases hpending : s.pending = 0
      · exact .inl hpending
      · have hage : ¬ (now < s.queued ∨ now - s.queued < limit) := fun h => hfree ⟨hpending, h⟩
        exact .inr (by omega)
    by_cases hdue : s.active = true ∧ now < s.next
    · rw [beginAt_early hfree hdue]
      -- Before the deadline what is in flight is given up all the same, once it is too old.
      rcases hlate with hnone | hlate
      · have hsame : { s with pending := 0 } = s := by rw [← hnone]
        rw [hsame]
        exact .refused now
      · exact .lapsed hdue.1 hlate hdue.2
    · rw [beginAt_due hfree hdue]
      refine .issued false ?_ ?_ (lt_paced hperiod)
      · exact hlate.imp_right Or.inl
      · cases hactive : s.active with
        | false => exact .inl rfl
        | true =>
          have hnext : ¬ now < s.next := fun hlt => hdue ⟨hactive, hlt⟩
          exact .inr (.inl (Int.not_lt.mp hnext))

/-- What a steady call does to the deadline. -/
inductive PaceStep (period : Int) (active : Bool) (next : Int) : Report → Bool → Int → Prop
  | begun {token : UInt32} {now : Int} (news : Bool) (hne : token ≠ 0) (hperiod : 0 < period)
      (hdue : active = true → next ≤ now) :
      PaceStep period active next (.begun token now news) true (paced period active next now)
  | idle {r : Report} (h : ∀ deadline, r.beat? deadline = none) :
      PaceStep period active next r active next

theorem Outstanding.beginAt_pace (hperiod : 0 < period) :
    PaceStep period s.active s.next (.begun (s.beginAt limit period now).2 now false)
      (s.beginAt limit period now).1.active (s.beginAt limit period now).1.next := by
  by_cases hidle : (s.beginAt limit period now).2 = 0
  · obtain ⟨hnext, hactive⟩ := beginAt_idle hidle
    rw [hnext, hactive]
    exact .idle fun deadline => by simp [Report.beat?, hidle]
  · obtain ⟨hfree, hdue⟩ := beginAt_ne_zero.mp hidle
    rw [beginAt_due hfree hdue]
    refine .begun false (nextNonzero_ne_zero _) hperiod ?_
    exact fun hactive => Int.not_lt.mp fun hlt => hdue ⟨hactive, hlt⟩

/-- Neither time kept is negative or beyond the bound. -/
structure Outstanding.Within (bound : Int) (s : Outstanding) : Prop where
  queued : 0 ≤ s.queued ∧ s.queued ≤ bound
  next : 0 ≤ s.next ∧ s.next ≤ bound

theorem Outstanding.Within.beginAt {bound : Int} (hs : s.Within bound) (hperiod : 0 < period)
    (hnow : 0 ≤ now) (hbound : now ≤ bound - period) :
    (s.beginAt limit period now).1.Within bound := by
  by_cases hfree : s.pending ≠ 0 ∧ (now < s.queued ∨ now - s.queued < limit)
  · rw [beginAt_busy hfree]
    exact hs
  · by_cases hdue : s.active = true ∧ now < s.next
    · rw [beginAt_early hfree hdue]
      exact ⟨hs.queued, hs.next⟩
    · rw [beginAt_due hfree hdue]
      have hafter := @lt_paced period s.next now s.active hperiod
      have hlater := @paced_le period s.next now s.active fun hactive =>
        Int.not_lt.mp fun hlt => hdue ⟨hactive, hlt⟩
      exact ⟨⟨hnow, by show now ≤ bound; omega⟩, by
        show 0 ≤ paced _ _ _ _ ∧ paced _ _ _ _ ≤ bound; omega⟩

/-- A completion leaves the deadline, or moves it past a time that is not before the issue. -/
theorem Outstanding.Within.moved {bound next : Int} (hs : s.Within bound)
    (hissued : s.queued ≤ now) (hnext : next = s.next ∨ now ≤ next ∧ next ≤ bound) :
    Outstanding.Within bound { s with pending := 0, next := next } := by
  refine ⟨hs.queued, ?_⟩
  show 0 ≤ next ∧ next ≤ bound
  rcases hnext with hsame | ⟨hlater, hbound⟩
  · rw [hsame]
    exact hs.next
  · exact ⟨Int.le_trans hs.queued.1 (Int.le_trans hissued hlater), hbound⟩

/-- News is followed by a begin at once. -/
theorem Outstanding.overtaken_beginAt :
    s.overtaken.beginAt limit period now =
      ({ serial := nextNonzero s.serial
         pending := nextNonzero s.serial
         queued := now
         next := now + period
         active := true }, nextNonzero s.serial) := by
  simp [beginAt, overtaken]

theorem Outstanding.overtaken_step (hperiod : 0 < period) :
    s.Step limit (.begun (s.overtaken.beginAt limit period now).2 now true)
      (s.overtaken.beginAt limit period now).1 := by
  rw [overtaken_beginAt]
  exact .issued true (.inr (.inr rfl)) (.inr (.inr rfl)) (Int.lt_add_of_pos_right now hperiod)

theorem Outstanding.finishAt_unknown {token : UInt32} (h : token = 0 ∨ s.pending ≠ token) :
    s.finishAt limit token now = (s, false) := if_pos h

theorem Outstanding.finishAt_known {token : UInt32} (h : ¬ (token = 0 ∨ s.pending ≠ token)) :
    s.finishAt limit token now =
      ({ s with pending := 0 }, decide (s.queued ≤ now ∧ now < s.queued + limit)) := if_neg h

/-- Out of time, what is in flight is forgotten. -/
theorem Outstanding.finishAt_late {token : UInt32} (hpending : s.pending = token)
    (hlate : now < s.queued ∨ s.queued + limit ≤ now) :
    s.finishAt limit token now = ({ s with pending := 0 }, false) := by
  by_cases hzero : token = 0
  · have hsame : { s with pending := 0 } = s := by rw [← hzero, ← hpending]
    rw [finishAt_unknown (.inl hzero), hsame]
  · have hrefused : ¬ (s.queued ≤ now ∧ now < s.queued + limit) := by omega
    rw [finishAt_known (fun h => h.elim hzero (absurd hpending)), decide_eq_false hrefused]

theorem Outstanding.finishAt_taken {token : UInt32} (hpending : s.pending = token)
    (hne : token ≠ 0) (hissued : s.queued ≤ now) (hlimit : now < s.queued + limit) :
    s.finishAt limit token now = ({ s with pending := 0 }, true) := by
  rw [finishAt_known (fun h => h.elim hne (absurd hpending)), decide_eq_true ⟨hissued, hlimit⟩]

theorem Outstanding.finishAt_step (token : UInt32) (accepted : Bool) {next : Int}
    (hkept : (s.finishAt limit token now).2 = false → next = s.next)
    (hnext : next = s.next ∨ now ≤ next) :
    s.Step limit (.finished token accepted now (s.finishAt limit token now).2)
      { (s.finishAt limit token now).1 with next := next } := by
  unfold finishAt at hkept ⊢
  split
  · rename_i hunknown
    rw [if_pos hunknown] at hkept
    rw [hkept rfl]
    exact .unknown accepted now hunknown
  · rename_i hknown
    rw [if_neg hknown] at hkept
    rw [not_or, not_ne_iff] at hknown
    obtain ⟨hne, rfl⟩ := hknown
    by_cases hintime : s.queued ≤ now ∧ now < s.queued + limit
    · simp only [hintime, and_self, decide_true]
      exact .counted accepted hne hintime.1 hintime.2 hnext
    · -- A completion that is not taken leaves the deadline.
      simp only [hintime, decide_false] at hkept ⊢
      rw [hkept trivial]
      exact .late accepted (by omega)

end Operations

/-! ## The pace of a run -/

section Pace

universe u v

variable {σ : Type u} {ε : Type v} {step : σ → ε → σ × Report} {active : σ → Bool}
  {next : σ → Int} {period : Int}

/-- The begins of a run, and the deadlines they leave. -/
def beats (step : σ → ε → σ × Report) (next : σ → Int) : σ → List ε → List Beat
  | _, [] => []
  | s, e :: es =>
    ((step s e).2.beat? (next (step s e).1)).toList ++ beats step next (step s e).1 es

/-- **The begins of a sender whose calls are steady keep its pace.** -/
theorem paced_beats {P : σ → Prop} {ok : σ → ε → Prop}
    (hstep : ∀ s e, P s → ok s e → P (step s e).1 ∧
      PaceStep period (active s) (next s) (step s e).2 (active (step s e).1) (next (step s e).1))
    {s : σ} (hs : P s) {es : List ε} (hes : Admissible (fun s e => (step s e).1) ok s es) :
    Paced period (active s) (next s) (beats step next s es) := by
  induction es generalizing s with
  | nil => exact .nil
  | cons e es ih =>
    obtain ⟨hgood, hpace⟩ := hstep s e hs hes.1
    -- The rest of the run starts at the deadline this call leaves.
    have hrest := ih hgood hes.2
    unfold beats
    generalize (step s e).1 = s', (step s e).2 = r at hpace hrest ⊢
    generalize active s' = active', hnext : next s' = next' at hpace hrest ⊢
    cases hpace with
    | begun news hne hperiod hdue =>
      simp only [Report.beat?, hne, if_false, Option.toList_some, List.singleton_append]
      exact .cons hperiod hdue hrest
    | idle hidle =>
      simp only [hidle, Option.toList_none, List.nil_append]
      exact hrest

end Pace

/-- The reports of the calls so far, and what is kept after them. -/
inductive Outstanding.Traced (limit : Int) : List Report → Outstanding → Prop
  | start : Traced limit [] .start
  | step {h : List Report} {s s' : Outstanding} {r : Report} :
      Traced limit h s → s.Step limit r s' → Traced limit (h ++ [r]) s'

variable {limit : Int} {h : List Report} {s s' : Outstanding} {r : Report}

@[simp] theorem tokens_snoc : tokens (h ++ [r]) = tokens h ++ r.token?.toList := by
  simp only [tokens, List.filterMap_append, List.append_cancel_left_eq]
  cases hr : r.token? <;> simp [hr]

@[simp] theorem countedTokens_snoc :
    countedTokens (h ++ [r]) = countedTokens h ++ r.counted?.toList := by
  simp only [countedTokens, List.filterMap_append, List.append_cancel_left_eq]
  cases hr : r.counted? <;> simp [hr]

@[simp] theorem begins_snoc : begins (h ++ [r]) = begins h + if r.isBegin then 1 else 0 := by
  simp [begins, List.countP_append]

/-! ## What the five numbers say of the past -/

/-- Work in flight is the latest handed out, and nothing has retired it. -/
structure InFlight (h : List Report) (s : Outstanding) : Prop where
  active : s.pending ≠ 0 → s.active = true
  next : s.pending ≠ 0 → s.queued < s.next
  since : s.pending ≠ 0 →
    Since (fun _ => Report.issues s.pending s.queued) (fun r => r.retires = false) h

theorem InFlight.of_none (hnone : s.pending = 0) : InFlight h s where
  active hne := absurd hnone hne
  next hne := absurd hnone hne
  since hne := absurd hnone hne

/-- A report that retires nothing, and leaves the sender as it is, keeps it. -/
theorem InFlight.snoc (hs : InFlight h s) (hr : r.retires = false) : InFlight (h ++ [r]) s where
  active := hs.active
  next := hs.next
  since hne := (hs.since hne).snoc hr

theorem InFlight.step (hs : InFlight h s) (hstep : s.Step limit r s') :
    InFlight (h ++ [r]) s' := by
  cases hstep with
  | refused now => exact hs.snoc rfl
  | unchanged => exact hs.snoc rfl
  | kept => exact hs.snoc rfl
  | unknown accepted now _ => exact hs.snoc rfl
  | late accepted _ => exact .of_none rfl
  | counted accepted _ _ _ _ => exact .of_none rfl
  | lapsed _ _ _ => exact .of_none rfl
  | issued news _ _ hnext =>
    exact
      { active := fun _ => rfl
        next := fun _ => hnext
        since := fun _ => Since.now ⟨news, rfl⟩ }
  | disabled => exact .of_none rfl
  | changed => exact .of_none rfl
  | reset => exact .of_none rfl

/-- What keeps the sender from handing out more over an unresolved token: it is still in
    flight, or the deadline is past its limit. -/
def Waits (limit : Int) (s : Outstanding) (token : UInt32) (issued : Int) : Prop :=
  s.active = true ∧
    ((s.pending = token ∧ s.queued = issued ∧ issued < s.next) ∨
      (issued + limit ≤ s.next ∧ (s.pending ≠ 0 → issued + limit ≤ s.queued)))

/-- Every unresolved token makes the sender wait. -/
def WaitsFor (limit : Int) (h : List Report) (s : Outstanding) : Prop :=
  ∀ token issued, token ≠ 0 →
    Since (fun _ => Report.issues token issued) (fun r => r.resolves token = false) h →
    Waits limit s token issued

/-- A report that hands out nothing leaves what was unresolved before it. -/
theorem unresolved_of_snoc {token : UInt32} {issued : Int} (hr : r.token? = none)
    (hne : token ≠ 0)
    (hs : Since (fun _ => Report.issues token issued) (fun r => r.resolves token = false)
      (h ++ [r])) :
    Since (fun _ => Report.issues token issued) (fun r => r.resolves token = false) h ∧
      r.resolves token = false := by
  rcases hs.of_snoc with ⟨news, hnow⟩ | hpast
  · rw [hnow] at hr
    simp [Report.token?, hne] at hr
  · exact hpast

/-- One that leaves the sender as it is makes it wait as before. -/
theorem WaitsFor.snoc (hs : WaitsFor limit h s) (hr : r.token? = none) :
    WaitsFor limit (h ++ [r]) s := by
  intro token issued hne hsince
  obtain ⟨hpast, -⟩ := unresolved_of_snoc hr hne hsince
  exact hs token issued hne hpast

/-- One that resolves every token leaves none to wait for. -/
theorem WaitsFor.of_resolved (hr : r.token? = none) (hall : ∀ token, r.resolves token = true) :
    WaitsFor limit (h ++ [r]) s := by
  intro token issued hne hsince
  obtain ⟨-, hnot⟩ := unresolved_of_snoc hr hne hsince
  rw [hall] at hnot
  cases hnot

theorem WaitsFor.step (hs : WaitsFor limit h s) (hstep : s.Step limit r s') :
    WaitsFor limit (h ++ [r]) s' := by
  cases hstep with
  | refused now => exact hs.snoc rfl
  | unchanged => exact hs.snoc rfl
  | kept => exact hs.snoc rfl
  | unknown accepted now _ => exact hs.snoc rfl
  | late accepted _ =>
    intro token issued hne hsince
    obtain ⟨hpast, hother⟩ := unresolved_of_snoc rfl hne hsince
    obtain ⟨hactive, ⟨hsame, -⟩ | ⟨hnext, -⟩⟩ := hs token issued hne hpast
    · -- The completion was for this token, and resolves it.
      simp [Report.resolves, hsame] at hother
    · exact ⟨hactive, .inr ⟨hnext, fun hpending => absurd rfl hpending⟩⟩
  | @counted accepted now next hpending hissued _ hnext =>
    intro token issued hne hsince
    obtain ⟨hpast, hother⟩ := unresolved_of_snoc rfl hne hsince
    obtain ⟨hactive, ⟨hsame, -⟩ | ⟨hold, hqueued⟩⟩ := hs token issued hne hpast
    · simp [Report.resolves, hsame] at hother
    · -- The completion came after the latest issue, which was past this token's limit.
      have hlimit := hqueued hpending
      refine ⟨hactive, .inr ⟨?_, fun hpending => absurd rfl hpending⟩⟩
      show issued + limit ≤ next
      omega
  | lapsed _ hold hdue =>
    intro token issued hne hsince
    obtain ⟨hpast, -⟩ := unresolved_of_snoc rfl hne hsince
    obtain ⟨hactive, ⟨-, hqueued, -⟩ | ⟨hnext, -⟩⟩ := hs token issued hne hpast
    · -- What is in flight is past its limit, and the deadline is later still.
      refine ⟨hactive, .inr ⟨?_, fun hpending => absurd rfl hpending⟩⟩
      show issued + limit ≤ s.next
      omega
    · exact ⟨hactive, .inr ⟨hnext, fun hpending => absurd rfl hpending⟩⟩
  | @issued now next news hfree hdue hnext =>
    intro token issued hne hsince
    rcases hsince.of_snoc with ⟨news', hnow⟩ | ⟨hpast, hnews⟩
    · injection hnow with htoken hissued
      exact ⟨rfl, .inl ⟨htoken, hissued, by rw [← hissued]; exact hnext⟩⟩
    · -- Without news it was handed out past the deadline, or past the limit of the one before.
      have hquiet : news = false := by simpa [Report.resolves] using hnews
      subst hquiet
      obtain ⟨hactive, hwaits⟩ := hs token issued hne hpast
      have hpassed : issued + limit ≤ now := by
        simp only [hactive, Bool.true_eq_false, Bool.false_eq_true, or_false, false_or]
          at hfree hdue
        rcases hwaits with ⟨hsame, hqueued, -⟩ | ⟨hold, -⟩
        · rcases hfree with hnone | hlate
          · exact absurd (hsame.symm.trans hnone) hne
          · omega
        · omega
      refine ⟨rfl, .inr ⟨?_, fun _ => hpassed⟩⟩
      show issued + limit ≤ next
      omega
  | disabled => exact .of_resolved rfl fun _ => rfl
  | changed => exact .of_resolved rfl fun _ => rfl
  | reset => exact .of_resolved rfl fun _ => rfl

/-! ## The numbers -/

/-- The serial number counts the begins, and no token is beyond it. -/
structure Numbered (h : List Report) (s : Outstanding) : Prop where
  serial : s.serial.toNat ≤ begins h
  issued : ∀ token ∈ tokens h, token.toNat ≤ s.serial.toNat
  distinct : (tokens h).Nodup
  pending : s.pending = 0 ∨ s.pending = s.serial
  counted : ∀ token ∈ countedTokens h,
    token ≠ 0 ∧ token ≠ s.pending ∧ token.toNat ≤ s.serial.toNat
  once : (countedTokens h).Nodup

/-- What neither hands out nor takes a completion, and at most forgets what is in flight. -/
theorem Numbered.quiet (hs : Numbered h s) (htoken : r.token? = none)
    (hcounted : r.counted? = none) (hserial : s'.serial = s.serial)
    (hpending : s'.pending = 0 ∨ s'.pending = s.pending) : Numbered (h ++ [r]) s' := by
  have htokens : tokens (h ++ [r]) = tokens h := by simp [htoken]
  have hcount : countedTokens (h ++ [r]) = countedTokens h := by simp [hcounted]
  refine
    { serial := ?_
      issued := by rw [htokens, hserial]; exact hs.issued
      distinct := by rw [htokens]; exact hs.distinct
      pending := ?_
      counted := ?_
      once := by rw [hcount]; exact hs.once }
  · rw [hserial, begins_snoc]
    exact Nat.le_add_right_of_le hs.serial
  · rcases hpending with hnone | hsame
    · exact .inl hnone
    · rw [hsame, hserial]
      exact hs.pending
  · rw [hcount, hserial]
    intro token hmem
    obtain ⟨hne, hother, hle⟩ := hs.counted token hmem
    refine ⟨hne, ?_, hle⟩
    rcases hpending with hnone | hsame
    · rw [hnone]; exact hne
    · rw [hsame]; exact hother

/-- The next number is beyond all tokens so far, as long as the counter has not wrapped. -/
theorem Numbered.issue (hs : Numbered h s) (hbound : begins h + 1 < 2 ^ 32) {now next : Int}
    {news : Bool} :
    Numbered (h ++ [.begun (nextNonzero s.serial) now news])
      { serial := nextNonzero s.serial
        pending := nextNonzero s.serial
        queued := now
        next := next
        active := true } := by
  have hserial := hs.serial
  -- The counter has not come round, since it is not ahead of the begins.
  have hnext : (nextNonzero s.serial).toNat = s.serial.toNat + 1 :=
    nextNonzero_toNat (by omega)
  have hbeyond : ∀ {token : UInt32}, token.toNat ≤ s.serial.toNat →
      token ≠ nextNonzero s.serial := by
    intro token hle heq
    rw [heq, hnext] at hle
    omega
  have htokens : tokens (h ++ [.begun (nextNonzero s.serial) now news]) =
      tokens h ++ [nextNonzero s.serial] := by
    simp [Report.token?, nextNonzero_ne_zero]
  have hcount : countedTokens (h ++ [.begun (nextNonzero s.serial) now news]) =
      countedTokens h := by
    simp [Report.counted?]
  refine
    { serial := ?_
      issued := ?_
      distinct := ?_
      pending := .inr rfl
      counted := ?_
      once := by rw [hcount]; exact hs.once }
  · show (nextNonzero s.serial).toNat ≤ _
    rw [hnext, begins_snoc]
    exact Nat.add_le_add_right hserial 1
  · rw [htokens]
    intro token hmem
    show token.toNat ≤ (nextNonzero s.serial).toNat
    rcases List.mem_append.mp hmem with hmem | hmem
    · have hle := hs.issued token hmem
      omega
    · rw [List.mem_singleton.mp hmem]
  · rw [htokens]
    refine List.nodup_append.mpr ⟨hs.distinct, List.nodup_singleton _, ?_⟩
    intro token hmem other hother
    rw [List.mem_singleton.mp hother]
    exact hbeyond (hs.issued token hmem)
  · rw [hcount]
    intro token hmem
    obtain ⟨hne, -, hle⟩ := hs.counted token hmem
    refine ⟨hne, hbeyond hle, ?_⟩
    show token.toNat ≤ (nextNonzero s.serial).toNat
    omega

/-- A completion is taken of what is in flight, which it is not taken of again. -/
theorem Numbered.count (hs : Numbered h s) (hpending : s.pending ≠ 0) {accepted : Bool}
    {now next : Int} :
    Numbered (h ++ [.finished s.pending accepted now true])
      { s with pending := 0, next := next } := by
  have hsame : s.pending = s.serial := hs.pending.resolve_left hpending
  have htokens : tokens (h ++ [.finished s.pending accepted now true]) = tokens h := by
    simp [Report.token?]
  have hcount : countedTokens (h ++ [.finished s.pending accepted now true]) =
      countedTokens h ++ [s.pending] := by
    simp [Report.counted?]
  refine
    { serial := ?_
      issued := by rw [htokens]; exact hs.issued
      distinct := by rw [htokens]; exact hs.distinct
      pending := .inl rfl
      counted := ?_
      once := ?_ }
  · rw [begins_snoc]
    exact Nat.le_add_right_of_le hs.serial
  · rw [hcount]
    intro token hmem
    rcases List.mem_append.mp hmem with hmem | hmem
    · obtain ⟨hne, -, hle⟩ := hs.counted token hmem
      exact ⟨hne, hne, hle⟩
    · rw [List.mem_singleton.mp hmem]
      exact ⟨hpending, hpending, by rw [hsame]⟩
  · rw [hcount]
    refine List.nodup_append.mpr ⟨hs.once, List.nodup_singleton _, ?_⟩
    intro token hmem other hother
    rw [List.mem_singleton.mp hother]
    exact (hs.counted token hmem).2.1

theorem Numbered.step (hs : Numbered h s) (hbound : begins h + 1 < 2 ^ 32)
    (hstep : s.Step limit r s') : Numbered (h ++ [r]) s' := by
  cases hstep with
  | refused now => exact hs.quiet rfl rfl rfl (.inr rfl)
  | unchanged => exact hs.quiet rfl rfl rfl (.inr rfl)
  | kept => exact hs.quiet rfl rfl rfl (.inr rfl)
  | unknown accepted now _ => exact hs.quiet rfl rfl rfl (.inr rfl)
  | late accepted _ => exact hs.quiet rfl rfl rfl (.inl rfl)
  | counted accepted hpending _ _ _ => exact hs.count hpending
  | lapsed _ _ _ => exact hs.quiet rfl rfl rfl (.inl rfl)
  | issued news _ _ _ => exact hs.issue hbound
  | disabled => exact hs.quiet rfl rfl rfl (.inl rfl)
  | changed => exact hs.quiet rfl rfl rfl (.inl rfl)
  | reset => exact hs.quiet rfl rfl rfl (.inl rfl)

/-! ## The tokens of a run -/

/-- The step that takes a completion takes it of what is in flight. -/
theorem InFlight.finishSound (hs : InFlight h s) (hstep : s.Step limit r s') :
    FinishSound limit h r := by
  rintro token accepted now rfl
  cases hstep with
  | counted _ hpending hissued hlimit _ =>
    exact ⟨s.queued, hissued, hlimit, hs.since hpending⟩

/-- The step that hands out comes when nothing unresolved makes the sender wait. -/
theorem WaitsFor.beginSound (hs : WaitsFor limit h s) (hstep : s.Step limit r s') :
    BeginSound limit h r := by
  rintro token now news rfl htoken earlier issued hne hsince
  cases hstep with
  | refused => exact absurd rfl htoken
  | lapsed => exact absurd rfl htoken
  | issued _ hfree hdue _ =>
    obtain ⟨hactive, hwaits⟩ := hs earlier issued hne hsince
    rcases hdue with hidle | hdue | hnews
    · rw [hidle] at hactive
      cases hactive
    · rcases hwaits with ⟨hsame, hqueued, -⟩ | ⟨hnext, -⟩
      · rcases hfree with hnone | hlate | hnews
        · exact absurd (hsame.symm.trans hnone) hne
        · exact .inl (by omega)
        · exact .inr hnews
      · exact .inl (by omega)
    · exact .inr hnews

theorem Outstanding.Traced.inFlight (ht : Traced limit h s) : InFlight h s := by
  induction ht with
  | start => exact .of_none rfl
  | step _ hstep ih => exact ih.step hstep

theorem Outstanding.Traced.waitsFor (ht : Traced limit h s) : WaitsFor limit h s := by
  induction ht with
  | start =>
    rintro token issued - ⟨before, x, after, hsplit, -⟩
    simp at hsplit
  | step _ hstep ih => exact ih.step hstep

theorem Outstanding.Traced.numbered (ht : Traced limit h s) (hbound : begins h < 2 ^ 32 - 1) :
    Numbered h s := by
  induction ht with
  | start =>
    exact
      { serial := Nat.le_refl _
        issued := by simp [tokens]
        distinct := by simp [tokens]
        pending := .inl rfl
        counted := by simp [countedTokens]
        once := by simp [countedTokens] }
  | step _ hstep ih =>
    rw [begins_snoc] at hbound
    exact (ih (by omega)).step (by omega) hstep

/-- **The tokens of every run of such a sender are sound**, as long as it begins less often
    than it has numbers. -/
theorem Outstanding.Traced.sound (ht : Traced limit h s) (hbound : begins h < 2 ^ 32 - 1) :
    TokensSound limit h := by
  have hnumbered := ht.numbered hbound
  refine
    { distinct := hnumbered.distinct
      once := hnumbered.once
      finishes := ?_
      begins := ?_ }
  · clear hbound hnumbered
    induction ht with
    | start => exact Always.nil
    | step ht hstep ih => exact ih.snoc (ht.inFlight.finishSound hstep)
  · clear hbound hnumbered
    induction ht with
    | start => exact Always.nil
    | step ht hstep ih => exact ih.snoc (ht.waitsFor.beginSound hstep)

end Lib
end EspPtp
