import EspPtp.Publish.AnnounceRun

/-!
# Information revisions in a run of the Announce worker

The table of what was announced last is asked once for each item that passes the check before
the loop, and the answer goes with every frame of that item. So the revision numbers of the
frames on the air are those of `announceRevision`, over the items asked about.
-/

namespace EspPtp

open Lib

variable {n : Nat}

/-- What the worker asks its table about in a visit. -/
def PublisherVisit.ask? (x : PublisherVisit n) : Option (Fin n × Bytes) :=
  match x.1, x.2.worker with
  | .worker nowUs _, .entering item check =>
    match x.2.checkItem item nowUs check with
    | .passed _ => some (item.portIndex, item.msg)
    | _ => none
  | _, _ => none

/-- What it asked about in a history. -/
def asks (history : List (PublisherVisit n)) : List (Fin n × Bytes) :=
  history.filterMap (·.ask?)

theorem asks_append (as bs : List (PublisherVisit n)) : asks (as ++ bs) = asks as ++ asks bs :=
  List.filterMap_append

theorem asks_snoc_none (history : List (PublisherVisit n)) {x : PublisherVisit n}
    (h : x.ask? = none) : asks (history ++ [x]) = asks history := by
  rw [asks_append]
  simp [asks, h]

theorem asks_snoc_some (history : List (PublisherVisit n)) {x : PublisherVisit n}
    {ask : Fin n × Bytes} (h : x.ask? = some ask) :
    asks (history ++ [x]) = asks history ++ [ask] := by
  rw [asks_append]
  simp [asks, h]

/-- A turn is of the item asked about last, under the revision of that answer. -/
def AnnounceTurn.Revised (turn : AnnounceTurn n) (history : List (PublisherVisit n)) : Prop :=
  ∃ before, asks history = before ++ [(turn.item.portIndex, turn.item.msg)] ∧
    turn.revision = announceRevision before (turn.item.portIndex, turn.item.msg)

/-- The turn the worker is in. -/
def AnnounceWorker.turn? : AnnounceWorker n → Option (AnnounceTurn n)
  | .checking turn _ | .beginning turn _ | .sending turn _ _ _ | .finishing turn _ _ => some turn
  | .waiting | .entering _ _ => none

theorem AnnounceWorker.turn?_turnTo {item : ApAnnounceItem n} {revision : UInt32}
    {stations : List PtpWifiAssociationEntry} {turn : AnnounceTurn n}
    (h : (AnnounceWorker.turnTo item revision stations).turn? = some turn) :
    turn.item = item ∧ turn.revision = revision := by
  cases stations with
  | nil => cases h
  | cons peer rest =>
    cases h
    exact ⟨rfl, rfl⟩

/-- What a history and the state it led to have in common. -/
structure RevisionInv (history : List (PublisherVisit n)) (s : AnnouncePublisher n) : Prop where
  table : s.information = run informationStep (fun _ => default) (asks history)
  turn : ∀ turn, s.worker.turn? = some turn → turn.Revised history

theorem AnnounceTurn.Revised.snoc {turn : AnnounceTurn n} {history : List (PublisherVisit n)}
    (h : turn.Revised history) {x : PublisherVisit n} (hx : x.ask? = none) :
    turn.Revised (history ++ [x]) := by
  unfold AnnounceTurn.Revised
  rw [asks_snoc_none _ hx]
  exact h

/-- A step that asks nothing, and stays in its turn or goes on to one of the same item. -/
theorem RevisionInv.quiet {history : List (PublisherVisit n)} {s s' : AnnouncePublisher n}
    (h : RevisionInv history s) {x : PublisherVisit n} (hx : x.ask? = none)
    (htable : s'.information = s.information)
    (hturn : ∀ turn, s'.worker.turn? = some turn → ∃ other, s.worker.turn? = some other ∧
      turn.item = other.item ∧ turn.revision = other.revision) :
    RevisionInv (history ++ [x]) s' where
  table := by rw [htable, h.table, asks_snoc_none _ hx]
  turn := by
    intro turn hmine
    obtain ⟨other, hother, hitem, hrevision⟩ := hturn turn hmine
    obtain ⟨before, hasks, hrev⟩ := h.turn other hother
    refine ⟨before, ?_, ?_⟩
    · rw [asks_snoc_none _ hx, hitem]
      exact hasks
    · rw [hrevision, hitem]
      exact hrev

theorem RevisionInv.work {cfg : Config} {history : List (PublisherVisit n)}
    {s : AnnouncePublisher n} (h : RevisionInv history s) (nowUs : Int) (accepted : Bool) :
    RevisionInv (history ++ [(.worker nowUs accepted, s)]) (s.work cfg nowUs accepted) := by
  have hsilent : (∀ item check, s.worker ≠ .entering item check) →
      PublisherVisit.ask? (.worker nowUs accepted, s) = none := by
    intro hnone
    unfold PublisherVisit.ask?
    dsimp only
    cases hworker : s.worker with
    | entering item check => exact absurd hworker (hnone item check)
    | _ => rfl
  have hwork := s.work_cases cfg nowUs accepted
  generalize s.work cfg nowUs accepted = s' at hwork
  cases hwork with
  | idle hworker _ =>
    exact h.quiet (hsilent (by simp [hworker])) rfl fun turn hturn => ⟨turn, hturn, rfl, rfl⟩
  | takes item hworker _ =>
    refine h.quiet (hsilent (by simp [hworker])) rfl fun turn hturn => ?_
    cases hturn
  | refuses item check hworker hcheck =>
    refine h.quiet ?_ rfl fun turn hturn => ?_
    · rcases hworker with hentering | ⟨turn, -, hchecking⟩
      · simp [PublisherVisit.ask?, hentering, hcheck]
      · exact hsilent (by simp [hchecking])
    · cases hturn
  | enters item check next hworker hcheck =>
    refine h.quiet ?_ rfl fun turn hturn => ?_
    · simp [PublisherVisit.ask?, hworker, hcheck]
    · cases hturn
  | informs item check passed hworker hcheck =>
    have hask : PublisherVisit.ask? (.worker nowUs accepted, s) =
        some (item.portIndex, item.msg) := by
      simp [PublisherVisit.ask?, hworker, hcheck]
    refine ⟨?_, fun turn hturn => ?_⟩
    · rw [asks_snoc_some _ hask, run_snoc, ← h.table]
    · obtain ⟨hitem, hrevision⟩ := AnnounceWorker.turn?_turnTo hturn
      refine ⟨asks history, ?_, ?_⟩
      · rw [asks_snoc_some _ hask, hitem]
      · rw [hrevision, hitem, announceRevision, ← h.table]
  | checks turn check next hworker _ =>
    refine h.quiet (hsilent (by simp [hworker])) rfl fun other hother => ?_
    cases hother
    exact ⟨turn, by rw [hworker]; rfl, rfl, rfl⟩
  | passes turn check passed hworker _ =>
    refine h.quiet (hsilent (by simp [hworker])) rfl fun other hother => ?_
    cases hother
    exact ⟨turn, by rw [hworker]; rfl, rfl, rfl⟩
  | skips turn read hworker _ =>
    refine h.quiet (hsilent (by simp [hworker])) rfl fun other hother => ?_
    exact ⟨turn, by rw [hworker]; rfl, AnnounceWorker.turn?_turnTo hother⟩
  | begins turn read token advertised sequence hworker _ =>
    refine h.quiet (hsilent (by simp [hworker])) rfl fun other hother => ?_
    cases hother
    exact ⟨turn, by rw [hworker]; rfl, rfl, rfl⟩
  | sends turn token advertised sequence hworker =>
    refine h.quiet (hsilent (by simp [hworker])) rfl fun other hother => ?_
    cases hother
    exact ⟨turn, by rw [hworker]; rfl, rfl, rfl⟩
  | finishes turn token taken hworker =>
    refine h.quiet (hsilent (by simp [hworker])) rfl fun other hother => ?_
    exact ⟨turn, by rw [hworker]; rfl, AnnounceWorker.turn?_turnTo hother⟩

theorem RevisionInv.step {cfg : Config} {history : List (PublisherVisit n)}
    {s : AnnouncePublisher n} (h : RevisionInv history s) (e : PublisherEvent n) :
    RevisionInv (history ++ [(e, s)]) (s.apply cfg e) := by
  have hsame : ∀ s' : AnnouncePublisher n, s'.information = s.information →
      s'.worker = s.worker → PublisherVisit.ask? (e, s) = none →
        RevisionInv (history ++ [(e, s)]) s' := by
    intro s' htable hworker hsilent
    refine h.quiet hsilent htable fun turn hturn => ⟨turn, ?_, rfl, rfl⟩
    rw [← hworker]
    exact hturn
  cases e with
  | announce p srcMac ptpMsg reads =>
    unfold AnnouncePublisher.apply
    dsimp only
    split <;> exact hsame _ rfl rfl rfl
  | worker nowUs accepted => exact h.work nowUs accepted
  | _ => exact hsame _ rfl rfl rfl

theorem revisionInv_run (cfg : Config) {s₀ : AnnouncePublisher n} (hfresh : s₀.Fresh)
    (events : List (PublisherEvent n)) :
    RevisionInv (trace (publisherStep cfg) s₀ events) (run (publisherStep cfg) s₀ events) := by
  apply run_induction
  · refine ⟨hfresh.information, ?_⟩
    simp [hfresh.worker, AnnounceWorker.turn?]
  · intro history s e h
    exact h.step e

/-- What was asked about in the events that follow others. -/
def asksIn (cfg : Config) (s₀ : AnnouncePublisher n) (first second : List (PublisherEvent n)) :
    List (Fin n × Bytes) :=
  asks (trace (publisherStep cfg) (run (publisherStep cfg) s₀ first) second)

/-- **The frames of a port carry one revision exactly as long as the port announces one thing.**
    Two frames, the second sent after the events `second`. -/
theorem frameRevisions_eq_iff (cfg : Config) (s₀ : AnnouncePublisher n) (hfresh : s₀.Fresh)
    (first second : List (PublisherEvent n)) (nowUs : Int) (accepted : Bool)
    (turn turn' : AnnounceTurn n) (token token' : UInt32) (advertised advertised' : Int)
    (sequence sequence' : UInt16)
    (hturn : (run (publisherStep cfg) s₀ first).worker = .sending turn token advertised sequence)
    (hturn' : (run (publisherStep cfg) s₀ (first ++ .worker nowUs accepted :: second)).worker =
      .sending turn' token' advertised' sequence')
    (hport : turn'.item.portIndex = turn.item.portIndex)
    (hround : (asksIn cfg s₀ (first ++ [.worker nowUs accepted]) second).length < 2 ^ 32 - 1) :
    turn.revision ≠ 0 ∧
      (turn'.revision = turn.revision ↔
        ∀ ask ∈ asksIn cfg s₀ (first ++ [.worker nowUs accepted]) second,
          ask.1 = turn.item.portIndex →
            ask.2.announceContent = turn.item.msg.announceContent) := by
  have hrevised := (revisionInv_run cfg hfresh first).turn turn (by rw [hturn]; rfl)
  have hrevised' :=
    (revisionInv_run cfg hfresh (first ++ .worker nowUs accepted :: second)).turn turn'
      (by rw [hturn']; rfl)
  obtain ⟨asked, hasked, hrevision⟩ := hrevised
  obtain ⟨asked', hasked', hrevision'⟩ := hrevised'
  refine ⟨by rw [hrevision]; exact announceRevision_ne_zero _ _, ?_⟩
  have hquiet : PublisherVisit.ask?
      (.worker nowUs accepted, run (publisherStep cfg) s₀ first) = none := by
    simp [PublisherVisit.ask?, hturn]
  have hwhole : asks (trace (publisherStep cfg) s₀ (first ++ .worker nowUs accepted :: second)) =
      asked ++ (turn.item.portIndex, turn.item.msg) ::
        asksIn cfg s₀ (first ++ [.worker nowUs accepted]) second := by
    have hcons : first ++ .worker nowUs accepted :: second =
        (first ++ [.worker nowUs accepted]) ++ second := by simp
    have hfirst : asks (trace (publisherStep cfg) s₀ (first ++ [.worker nowUs accepted])) =
        asked ++ [(turn.item.portIndex, turn.item.msg)] := by
      rw [trace_snoc]
      exact (asks_snoc_none _ hquiet).trans hasked
    rw [hcons, trace_append, asks_append, hfirst, List.append_assoc, List.singleton_append]
    rfl
  rw [hwhole] at hasked'
  generalize asksIn cfg s₀ (first ++ [.worker nowUs accepted]) second = asked₂ at hasked' hround ⊢
  rcases List.eq_nil_or_concat asked₂ with rfl | ⟨between, last, rfl⟩
  · -- The same pass: nothing was asked in between.
    obtain ⟨rfl, hsame⟩ := List.append_inj' hasked' rfl
    have hitem := (List.cons.inj hsame).1
    rw [hrevision', hrevision, ← hitem]
    simp
  · rw [List.concat_eq_append] at hasked' hround ⊢
    have hlist : asked ++ (turn.item.portIndex, turn.item.msg) :: (between ++ [last]) =
        (asked ++ (turn.item.portIndex, turn.item.msg) :: between) ++ [last] := by simp
    rw [hlist] at hasked'
    obtain ⟨rfl, hsame⟩ := List.append_inj' hasked' rfl
    have hitem : last = (turn'.item.portIndex, turn'.item.msg) := (List.cons.inj hsame).1
    rw [hitem] at hround ⊢
    rw [List.length_append, List.length_singleton] at hround
    rw [hrevision', hrevision]
    exact announceRevision_eq_iff asked between _ _ hport (by omega)

/-- A second Announce with another clock identity is posted after the first. -/
def Sample.announcedTwice : List (PublisherEvent 1) :=
  .announce ⟨0, Nat.one_pos⟩ Sample.station ((List.replicate 64 0).set 20 1) ⟨0, 0, 20⟩ ::
    List.replicate 9 (.worker 30 true)

theorem frameRevisions_eq_iff_twice :
    ∃ turn turn' : AnnounceTurn 1, turn.revision ≠ 0 ∧
      (turn'.revision = turn.revision ↔
        ∀ ask ∈ asksIn Sample.config Sample.publisher
            (Sample.announced.take 10 ++ [.worker 7 true]) Sample.announcedTwice,
          ask.1 = turn.item.portIndex →
            ask.2.announceContent = turn.item.msg.announceContent) := by
  exact ⟨_, _, frameRevisions_eq_iff Sample.config Sample.publisher Sample.publisher_fresh
    (Sample.announced.take 10) Sample.announcedTwice 7 true _ _ 1 2 0 0 1 2 rfl rfl rfl
    (by decide +kernel)⟩

end EspPtp
