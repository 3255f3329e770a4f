import EspPtp.Lib.Relay
import EspPtp.Publish.CapablePlace

/-!
# What becomes of a gPTP-capable indication

The two queues and what is between them are a relay from the sections in which the daemon
begins a transmission to the calls of the radio, and the way back is another, from these calls
to the sections in which a schedule counts a completion. So a transmission is neither repeated
nor overtaken, and no schedule counts one that the radio did not take.
-/

namespace EspPtp

open Lib

variable {n : Nat}

/-! ## What a visit does -/

namespace CapableVisit

/-- The transmission a section of the daemon begins. -/
def begun? (node : CapableNode n) (x : CapableVisit n) : Option (CapableWork n) :=
  match x.1, x.2.daemon with
  | .daemon _ enabled nowUs, .sampled place generation =>
    (x.2.beginSend node.cfg place generation enabled nowUs).2
  | _, _ => none

/-- The item the radio takes. -/
def taken? (x : CapableVisit n) : Option (WifiCapableItem n) :=
  match x.1, x.2.worker with
  | .worker _ true, .sending item => some item
  | _, _ => none

/-- The report of a success that a schedule takes. -/
def credited? (x : CapableVisit n) : Option (PtpWifiCapableResult n) :=
  match x.1, x.2.daemon with
  | .daemon _ _ _, .completing result =>
    if result.accepted = true ∧ (x.2.complete result).2 = true then some result else none
  | _, _ => none

end CapableVisit

section Logs

variable (node : CapableNode n) (history : List (CapableVisit n)) (x : CapableVisit n)

/-- The transmissions begun in a history. -/
def begunWorks : List (CapableWork n) := history.filterMap (CapableVisit.begun? node)

/-- The items the radio took. -/
def takenItems : List (WifiCapableItem n) := history.filterMap CapableVisit.taken?

/-- The successes that schedules took. -/
def creditedResults : List (PtpWifiCapableResult n) := history.filterMap CapableVisit.credited?

theorem begunWorks_snoc :
    begunWorks node (history ++ [x]) = begunWorks node history ++ (x.begun? node).toList :=
  filterMap_snoc _ history x

theorem takenItems_snoc :
    takenItems (history ++ [x]) = takenItems history ++ x.taken?.toList :=
  filterMap_snoc _ history x

theorem creditedResults_snoc :
    creditedResults (history ++ [x]) = creditedResults history ++ x.credited?.toList :=
  filterMap_snoc _ history x

end Logs

/-- An item, but for the time it was put into the queue. -/
def WifiCapableItem.unqueued (item : WifiCapableItem n) : WifiCapableItem n :=
  { item with queuedUs := 0 }

/-- The transmission a report is about. -/
def PtpWifiCapableResult.about (result : PtpWifiCapableResult n) : PtpWifiCapableResult n :=
  { result with accepted := false, completedUs := 0 }

@[simp] theorem CapableWork.item_unqueued (node : CapableNode n) (work : CapableWork n)
    (queuedUs : Int) : (work.item node queuedUs).unqueued = work.item node 0 := rfl

@[simp] theorem report_about (item : WifiCapableItem n) (accepted : Bool) (nowUs : Int) :
    (CapableRadio.report item accepted nowUs).about = item.result.about := rfl

/-! ## The two relays -/

/-- The item the worker has not handed to the radio. -/
def CapableWorker.unsent : CapableWorker n → List (WifiCapableItem n)
  | .reading item => [item]
  | .checking item => [item]
  | .sending item => [item]
  | _ => []

/-- The item the daemon has not put into the queue. -/
def CapableDaemon.unqueued (node : CapableNode n) : CapableDaemon n → List (WifiCapableItem n)
  | .sending work => [work.item node 0]
  | _ => []

/-- The success the worker has not reported. -/
def CapableWorker.unreported : CapableWorker n → List (PtpWifiCapableResult n)
  | .reporting item true => [item.result]
  | _ => []

/-- The success the daemon has not brought to the schedule. -/
def CapableDaemon.uncredited : CapableDaemon n → List (PtpWifiCapableResult n)
  | .received result => if result.accepted then [result] else []
  | .completing result => if result.accepted then [result] else []
  | _ => []

namespace CapableRadio

variable (s : CapableRadio n)

/-- What is between the daemon and the radio, nearest the radio first. -/
def outgoing (node : CapableNode n) : List (WifiCapableItem n) :=
  (s.worker.unsent ++ s.queue).map WifiCapableItem.unqueued ++ s.daemon.unqueued node

/-- What is on the way back, nearest the daemon first. -/
def returning : List (PtpWifiCapableResult n) :=
  (s.daemon.uncredited ++ s.results.filter (·.accepted) ++ s.worker.unreported).map
    PtpWifiCapableResult.about

end CapableRadio

/-- What a visit does to the two relays: nothing but to lose, or something enters, changes over
    or comes out. -/
inductive CapableMoves (node : CapableNode n) (s s' : CapableRadio n) (x : CapableVisit n) : Prop
  | quiet (hbegun : x.begun? node = none) (htaken : x.taken? = none)
    (hcredited : x.credited? = none) (hout : (s'.outgoing node).Sublist (s.outgoing node))
    (hback : s'.returning.Sublist s.returning)
  | begins (work : CapableWork n) (hbegun : x.begun? node = some work) (htaken : x.taken? = none)
    (hcredited : x.credited? = none)
    (hout : s'.outgoing node = s.outgoing node ++ [work.item node 0])
    (hback : s'.returning = s.returning)
  | takes (item : WifiCapableItem n) (hbegun : x.begun? node = none) (htaken : x.taken? = some item)
    (hcredited : x.credited? = none) (hout : s.outgoing node = item.unqueued :: s'.outgoing node)
    (hback : s'.returning = s.returning ++ [item.result.about])
  | credits (result : PtpWifiCapableResult n) (hbegun : x.begun? node = none)
    (htaken : x.taken? = none) (hcredited : x.credited? = some result)
    (hout : s'.outgoing node = s.outgoing node) (hback : s.returning = result.about :: s'.returning)

/-- The daemon takes a step. -/
theorem serve_moves (node : CapableNode n) (s : CapableRadio n) (place : Option (CapablePlace n))
    (enabled : Bool) (nowUs : Int) :
    CapableMoves node s (s.serve node place enabled nowUs)
      (.daemon place enabled nowUs, s) := by
  have htaken : CapableVisit.taken? (CapableEvent.daemon place enabled nowUs, s) = none := rfl
  have hserve := s.serve_cases node place enabled nowUs
  generalize s.serve node place enabled nowUs = s' at hserve ⊢
  cases hserve with
  | idle hdaemon hresults =>
    exact .quiet (by simp [CapableVisit.begun?, hdaemon]) htaken
      (by simp [CapableVisit.credited?, hdaemon]) (.refl _) (.refl _)
  | receives result results hdaemon hresults =>
    refine .quiet (by simp [CapableVisit.begun?, hdaemon]) htaken
      (by simp [CapableVisit.credited?, hdaemon]) ?_ ?_
    · simp [CapableRadio.outgoing, hdaemon, CapableDaemon.unqueued]
    · -- The first report of the queue is now the daemon's.
      cases haccepted : result.accepted <;>
        simp [CapableRadio.returning, hdaemon, hresults, CapableDaemon.uncredited, haccepted]
  | skips place' generation hdaemon hnone =>
    refine .quiet (by simpa [CapableVisit.begun?, hdaemon] using hnone) htaken
      (by simp [CapableVisit.credited?, hdaemon]) ?_ ?_
    · simp [CapableRadio.outgoing, CapableRadio.withPort, hdaemon, CapableDaemon.unqueued]
    · simp [CapableRadio.returning, CapableRadio.withPort, hdaemon, CapableDaemon.uncredited]
  | begins place' generation work hdaemon hbegun =>
    refine .begins work (by simpa [CapableVisit.begun?, hdaemon] using hbegun) htaken
      (by simp [CapableVisit.credited?, hdaemon]) ?_ ?_
    · simp [CapableRadio.outgoing, CapableRadio.withPort, hdaemon, CapableDaemon.unqueued]
    · simp [CapableRadio.returning, CapableRadio.withPort, hdaemon, CapableDaemon.uncredited]
  | queues work queue hdaemon hsent =>
    have hqueue : queue = s.queue ++ [work.item node nowUs] := by
      unfold ptpWifiSendCapablePeer at hsent
      split at hsent
      · cases hsent
      · exact (Option.some.inj hsent).symm
    refine .quiet (by simp [CapableVisit.begun?, hdaemon]) htaken
      (by simp [CapableVisit.credited?, hdaemon]) ?_ ?_
    · simp [CapableRadio.outgoing, hdaemon, CapableDaemon.unqueued, hqueue]
    · simp [CapableRadio.returning, hdaemon, CapableDaemon.uncredited]
  | completes result hdaemon =>
    have hbegun : CapableVisit.begun? node (CapableEvent.daemon place enabled nowUs, s) = none := by
      simp [CapableVisit.begun?, hdaemon]
    by_cases hcounts : result.accepted = true ∧ (s.complete result).2 = true
    · refine .credits result hbegun htaken
        (by simp [CapableVisit.credited?, hdaemon, hcounts]) ?_ ?_
      · simp [CapableRadio.outgoing, CapableRadio.withPort, hdaemon, CapableDaemon.unqueued]
      · simp [CapableRadio.returning, CapableRadio.withPort, hdaemon, CapableDaemon.uncredited,
          hcounts.1]
    · refine .quiet hbegun htaken (by simp [CapableVisit.credited?, hdaemon, hcounts]) ?_ ?_
      · simp [CapableRadio.outgoing, CapableRadio.withPort, hdaemon, CapableDaemon.unqueued]
      · simp [CapableRadio.returning, CapableRadio.withPort, hdaemon, CapableDaemon.uncredited]
  | samples _ hdaemon | refuses _ hdaemon | abandons _ hdaemon | drops _ hdaemon _
  | keeps _ hdaemon _ =>
    refine .quiet (by simp [CapableVisit.begun?, hdaemon]) htaken
      (by simp [CapableVisit.credited?, hdaemon]) ?_ ?_
    · simp [CapableRadio.outgoing, CapableRadio.withPort, hdaemon, CapableDaemon.unqueued]
    · simp [CapableRadio.returning, CapableRadio.withPort, hdaemon, CapableDaemon.uncredited]

/-- The worker takes a step. -/
theorem work_moves (node : CapableNode n) (s : CapableRadio n) (nowUs : Int) (accepted : Bool) :
    CapableMoves node s (s.work nowUs accepted) (.worker nowUs accepted, s) := by
  have hbegun : CapableVisit.begun? node (CapableEvent.worker nowUs accepted, s) = none := rfl
  have hcredited : CapableVisit.credited? (CapableEvent.worker nowUs accepted, s) = none := rfl
  have hwork := s.work_cases nowUs accepted
  generalize s.work nowUs accepted = s' at hwork ⊢
  cases hwork with
  | idle hworker hqueue =>
    exact .quiet hbegun (by simp [CapableVisit.taken?, hworker]) hcredited (.refl _) (.refl _)
  | takes item queue hworker hqueue =>
    refine .quiet hbegun (by simp [CapableVisit.taken?, hworker]) hcredited ?_ ?_
    · simp [CapableRadio.outgoing, hworker, hqueue, CapableWorker.unsent]
    · simp [CapableRadio.returning, hworker, CapableWorker.unreported]
  | retires item hworker =>
    rcases hworker with hworker | hworker <;>
    · refine .quiet hbegun (by simp [CapableVisit.taken?, hworker]) hcredited ?_ ?_
      · simp [CapableRadio.outgoing, hworker, CapableWorker.unsent]
      · simp [CapableRadio.returning, hworker, CapableWorker.unreported]
  | sends item hworker =>
    cases accepted with
    | false =>
      refine .quiet hbegun (by simp [CapableVisit.taken?]) hcredited ?_ ?_
      · simp [CapableRadio.outgoing, hworker, CapableWorker.unsent]
      · simp [CapableRadio.returning, hworker, CapableWorker.unreported]
    | true =>
      refine .takes item hbegun (by simp [CapableVisit.taken?, hworker]) hcredited ?_ ?_
      · simp [CapableRadio.outgoing, hworker, CapableWorker.unsent]
      · simp [CapableRadio.returning, hworker, CapableWorker.unreported]
  | reports item taken hworker =>
    refine .quiet hbegun (by simp [CapableVisit.taken?, hworker]) hcredited ?_ ?_
    · simp [CapableRadio.outgoing, hworker, CapableWorker.unsent]
    · -- What the worker had in hand is the last of the queue now.
      cases taken <;>
        simp [CapableRadio.returning, hworker, CapableWorker.unreported, CapableRadio.report,
          PtpWifiCapableResult.about]
  | reads item hworker _ | checks item hworker _ | loses item _ hworker =>
    refine .quiet hbegun (by simp [CapableVisit.taken?, hworker]) hcredited ?_ ?_
    · simp [CapableRadio.outgoing, hworker, CapableWorker.unsent]
    · simp [CapableRadio.returning, CapableWorker.unreported, hworker]

theorem apply_moves (node : CapableNode n) (s : CapableRadio n) (e : CapableEvent n) :
    CapableMoves node s (s.apply node e) (e, s) := by
  cases e with
  | daemon place enabled nowUs => exact serve_moves node s place enabled nowUs
  | worker nowUs accepted => exact work_moves node s nowUs accepted
  | peers p op => exact .quiet rfl rfl rfl (.refl _) (.refl _)
  | neighbor p op => exact .quiet rfl rfl rfl (.refl _) (.refl _)
  | link p => exact .quiet rfl rfl rfl (.refl _) (.refl _)

/-- Both relays. -/
structure CapableRelayed (node : CapableNode n) (history : List (CapableVisit n))
    (s : CapableRadio n) : Prop where
  sends : Relayed ((begunWorks node history).map fun work => work.item node 0)
    ((takenItems history).map WifiCapableItem.unqueued) (s.outgoing node)
  returns : Relayed ((takenItems history).map fun item => item.result.about)
    ((creditedResults history).map PtpWifiCapableResult.about) s.returning

theorem CapableRelayed.step {node : CapableNode n} {history : List (CapableVisit n)}
    {s : CapableRadio n} (h : CapableRelayed node history s) (e : CapableEvent n) :
    CapableRelayed node (history ++ [(e, s)]) (s.apply node e) := by
  have hmoves := apply_moves node s e
  generalize (s.apply node e) = s' at hmoves ⊢
  generalize ((e, s) : CapableVisit n) = x at hmoves ⊢
  obtain ⟨hsends, hreturns⟩ := h
  constructor
  · rw [begunWorks_snoc, takenItems_snoc, List.map_append, List.map_append]
    cases hmoves with
    | quiet hbegun htaken _ hout _ =>
      rw [hbegun, htaken]
      simpa using hsends.lose hout
    | begins work hbegun htaken _ hout _ =>
      rw [hbegun, htaken, hout]
      simpa using hsends.enter (work.item node 0)
    | takes item hbegun htaken _ hout _ =>
      rw [hout] at hsends
      rw [hbegun, htaken]
      simpa using hsends.pass
    | credits result hbegun htaken _ hout _ =>
      rw [hbegun, htaken, hout]
      simpa using hsends
  · rw [takenItems_snoc, creditedResults_snoc, List.map_append, List.map_append]
    cases hmoves with
    | quiet _ htaken hcredited _ hback =>
      rw [htaken, hcredited]
      simpa using hreturns.lose hback
    | begins work _ htaken hcredited _ hback =>
      rw [htaken, hcredited, hback]
      simpa using hreturns
    | takes item _ htaken hcredited _ hback =>
      rw [htaken, hcredited, hback]
      simpa using hreturns.enter item.result.about
    | credits result _ htaken hcredited _ hback =>
      rw [hback] at hreturns
      rw [htaken, hcredited]
      simpa using hreturns.pass

theorem capableRelayed (node : CapableNode n) {s₀ : CapableRadio n} (hfresh : s₀.Fresh)
    (events : List (CapableEvent n)) :
    CapableRelayed node (trace (capableStep node) s₀ events)
      (run (capableStep node) s₀ events) := by
  refine run_induction ?_ ?_ events
  · constructor
    · simp only [CapableRadio.outgoing, hfresh.queue, hfresh.daemon, hfresh.worker]
      exact .start
    · simp only [CapableRadio.returning, hfresh.results, hfresh.daemon, hfresh.worker]
      exact .start
  · intro history s e h
    exact h.step e

/-- What is counted was sent, and what was sent was begun: each once, and in order. -/
structure CapableAccounted (node : CapableNode n) (history : List (CapableVisit n)) : Prop where
  sent : ((takenItems history).map WifiCapableItem.unqueued).Sublist
    ((begunWorks node history).map fun work => work.item node 0)
  counted : ((creditedResults history).map PtpWifiCapableResult.about).Sublist
    ((takenItems history).map fun item => item.result.about)

/-- **Every success a schedule counts is a frame of its own that the radio took, and every such
    frame is a transmission of its own that the daemon began.** -/
theorem capableCredits_accounted (node : CapableNode n) {s₀ : CapableRadio n} (hfresh : s₀.Fresh)
    (events : List (CapableEvent n)) :
    CapableAccounted node (trace (capableStep node) s₀ events) :=
  ⟨(capableRelayed node hfresh events).sends.sublist,
    (capableRelayed node hfresh events).returns.sublist⟩

/-! ## What is sent -/

namespace CapableVisit

def IsDaemon (x : CapableVisit n) : Prop :=
  ∃ place enabled nowUs, x.1 = .daemon place enabled nowUs

def IsWorker (x : CapableVisit n) : Prop := ∃ nowUs accepted, x.1 = .worker nowUs accepted

/-- A send for a place reads this link generation. -/
structure Samples (place : CapablePlace n) (generation : UInt32) (x : CapableVisit n) : Prop where
  isDaemon : x.IsDaemon
  idle : x.2.daemon = .idle
  generation : generation = x.2.linkGeneration place.port

/-- The worker finds the item less than a second old. -/
def Ages (item : WifiCapableItem n) (x : CapableVisit n) : Prop :=
  ∃ nowUs accepted, x.1 = .worker nowUs accepted ∧ x.2.worker = .reading item ∧
    0 ≤ nowUs - item.queuedUs ∧ nowUs - item.queuedUs < 1000000

/-- The worker looks at the link generation. -/
structure Looks (item : WifiCapableItem n) (x : CapableVisit n) : Prop where
  isWorker : x.IsWorker
  checking : x.2.worker = .checking item

/-- A section of the daemon begins this transmission, to who is there. -/
structure Begins (node : CapableNode n) (work : CapableWork n) (x : CapableVisit n) : Prop where
  begun : x.begun? node = some work
  there : (x.2.ports work.place.port).lifetime work.place.slot =
    some (work.destination, work.association)

end CapableVisit

/-- The daemon is in a send, and has read this generation for it. -/
def Sampled (place : CapablePlace n) (generation : UInt32) (history : List (CapableVisit n)) :
    Prop :=
  Since (fun _ x => x.Samples place generation) (fun x => ¬ x.IsDaemon) history

/-- The transmission was begun. -/
def Issued (node : CapableNode n) (work : CapableWork n) (history : List (CapableVisit n)) : Prop :=
  Since (fun before x => x.Begins node work ∧ Sampled work.place work.generation before)
    (fun _ => True) history

/-- The worker has found the item young enough, and done nothing since. -/
def Aged (item : WifiCapableItem n) (history : List (CapableVisit n)) : Prop :=
  Since (fun _ x => x.Ages item) (fun x => ¬ x.IsWorker) history

/-- The worker has found the item on the link it was begun on, and done nothing since. -/
def Looked (item : WifiCapableItem n) (history : List (CapableVisit n)) : Prop :=
  Since
    (fun before x => (x.Looks item ∧ item.generation = x.2.linkGeneration item.portIndex) ∧
      Aged item before)
    (fun x => ¬ x.IsWorker) history

/-- What is in the queue, or in the worker's hands. -/
def Queued (node : CapableNode n) (item : WifiCapableItem n) (history : List (CapableVisit n)) :
    Prop :=
  ∃ work queuedUs, item = work.item node queuedUs ∧
    (work.write node).2 = ptpCapableMessageLength ∧ Issued node work history

/-- The invariant. -/
structure CapableCarried (node : CapableNode n) (history : List (CapableVisit n))
    (s : CapableRadio n) : Prop where
  sampled : ∀ place generation, s.daemon = .sampled place generation →
    Sampled place generation history
  sending : ∀ work, s.daemon = .sending work → Issued node work history
  queued : ∀ item ∈ s.worker.unsent ++ s.queue, Queued node item history
  aged : ∀ item, s.worker = .checking item → Aged item history
  looked : ∀ item, s.worker = .sending item → Looked item history

theorem ptpCapableScheduleBegin_enabled {schedule : PtpCapableSchedule} {enabled : Bool}
    {nowUs : Int} (h : (ptpCapableScheduleBegin schedule enabled nowUs).2 ≠ 0) :
    enabled = true := by
  cases enabled with
  | true => rfl
  | false => exact absurd rfl h

/-- A begin that answers a token is for somebody who is there. -/
theorem CapablePort.begin_there {cfg : Config} {enabled : Bool} {nowUs : Int} {port : CapablePort}
    {slot : Option (Fin ptpWifiPeersMax)} (h : (port.begin cfg enabled nowUs slot).2 ≠ 0) :
    port.lifetime slot = some ((port.begin cfg enabled nowUs slot).1.named slot) := by
  cases port with
  | ap peers =>
    cases slot with
    | none => exact absurd rfl h
    | some slot =>
      have hassociated : (peers.entries slot).associated = true :=
        ((Bool.and_eq_true _ _).mp (ptpCapableScheduleBegin_enabled h)).2
      simp [CapablePort.lifetime, CapablePort.named, CapablePort.begin, peersCapableBegin,
        PtpWifiPeers.lifetime, hassociated]
  | sta neighbor =>
    cases slot with
    | some slot => exact absurd rfl h
    | none =>
      have hassociated : neighbor.associated = true :=
        ((Bool.and_eq_true _ _).mp (ptpCapableScheduleBegin_enabled h)).2
      simp [CapablePort.lifetime, CapablePort.named, CapablePort.begin, hassociated]
  | other => exact absurd rfl h

/-- What the section of a send copies. -/
theorem CapableRadio.beginSend_spec {s : CapableRadio n} {cfg : Config} {place : CapablePlace n}
    {generation : UInt32} {enabled : Bool} {nowUs : Int} {work : CapableWork n}
    (h : (s.beginSend cfg place generation enabled nowUs).2 = some work) :
    work.place = place ∧ work.generation = generation ∧
      (s.ports place.port).lifetime place.slot = some (work.destination, work.association) := by
  unfold CapableRadio.beginSend at h
  dsimp only at h
  split at h
  · cases h
  · rename_i htoken
    cases h
    exact ⟨rfl, rfl, CapablePort.begin_there htoken⟩

section Carried

variable {node : CapableNode n} {history : List (CapableVisit n)} {s : CapableRadio n}

theorem Issued.snoc {work : CapableWork n} (h : Issued node work history) (x : CapableVisit n) :
    Issued node work (history ++ [x]) := Since.snoc h trivial

theorem Queued.snoc {item : WifiCapableItem n} (h : Queued node item history)
    (x : CapableVisit n) : Queued node item (history ++ [x]) := by
  obtain ⟨work, queuedUs, hitem, hlength, hissued⟩ := h
  exact ⟨work, queuedUs, hitem, hlength, hissued.snoc x⟩

/-- The daemon goes on, and leaves the worker alone. -/
theorem CapableCarried.daemon {s' : CapableRadio n} {x : CapableVisit n}
    (h : CapableCarried node history s) (hx : ¬ x.IsWorker) (hworker : s'.worker = s.worker)
    (hqueue : s'.queue.Sublist s.queue)
    (hsampled : ∀ place generation, s'.daemon = .sampled place generation →
      Sampled place generation (history ++ [x]))
    (hsending : ∀ work, s'.daemon = .sending work → Issued node work (history ++ [x])) :
    CapableCarried node (history ++ [x]) s' where
  sampled := hsampled
  sending := hsending
  queued := by
    intro item hitem
    rw [hworker] at hitem
    have hsub := List.Sublist.append (List.Sublist.refl s.worker.unsent) hqueue
    exact (h.queued item (hsub.subset hitem)).snoc x
  aged := fun item hitem => Since.snoc (h.aged item (hworker ▸ hitem)) hx
  looked := fun item hitem => Since.snoc (h.looked item (hworker ▸ hitem)) hx

theorem CapableCarried.serve (h : CapableCarried node history s)
    (place : Option (CapablePlace n)) (enabled : Bool) (nowUs : Int) :
    CapableCarried node (history ++ [(.daemon place enabled nowUs, s)])
      (s.serve node place enabled nowUs) := by
  have hnot : ¬ CapableVisit.IsWorker (CapableEvent.daemon place enabled nowUs, s) := by
    rintro ⟨_, _, hevent⟩
    cases hevent
  have hdaemonVisit : CapableVisit.IsDaemon (CapableEvent.daemon place enabled nowUs, s) :=
    ⟨place, enabled, nowUs, rfl⟩
  have hserve := s.serve_cases node place enabled nowUs
  generalize s.serve node place enabled nowUs = s' at hserve ⊢
  cases hserve with
  | idle hdaemon hresults =>
    refine h.daemon hnot rfl (.refl _) ?_ ?_ <;>
    · intros
      simp_all
  | samples sampled hdaemon =>
    refine h.daemon hnot rfl (.refl _) ?_ ?_
    · intro place generation hsampled
      cases hsampled
      exact Since.now ⟨hdaemonVisit, hdaemon, rfl⟩
    · intro work hsending
      cases hsending
  | begins sampled generation work hdaemon hbegun =>
    refine h.daemon hnot rfl (.refl _) ?_ ?_
    · intro place generation hsampled
      cases hsampled
    · intro begun hsending
      cases hsending
      obtain ⟨hplace, hgeneration, hthere⟩ := CapableRadio.beginSend_spec hbegun
      have hlog : CapableVisit.begun? node (CapableEvent.daemon place enabled nowUs, s) =
          some work := by
        simpa [CapableVisit.begun?, hdaemon] using hbegun
      refine Since.now ⟨⟨hlog, ?_⟩, ?_⟩
      · rw [hplace]
        exact hthere
      · rw [hplace, hgeneration]
        exact h.sampled _ _ hdaemon
  | queues work queue hdaemon hsent =>
    obtain ⟨hlength, rfl⟩ : (work.write node).2 = ptpCapableMessageLength ∧
        queue = s.queue ++ [work.item node nowUs] := by
      unfold ptpWifiSendCapablePeer at hsent
      split at hsent
      · cases hsent
      · rename_i hadmitted
        simp only [not_or, not_not] at hadmitted
        exact ⟨hadmitted.2.2.1, (Option.some.inj hsent).symm⟩
    have hrest : CapableCarried node
        (history ++ [(CapableEvent.daemon place enabled nowUs, s)]) { s with daemon := .idle } :=
      h.daemon hnot rfl (.refl _) (fun _ _ hsampled => by cases hsampled)
        (fun _ hsending => by cases hsending)
    refine ⟨hrest.sampled, hrest.sending, ?_, hrest.aged, hrest.looked⟩
    intro item hitem
    rw [← List.append_assoc] at hitem
    rcases List.mem_append.mp hitem with hold | hnew
    · exact hrest.queued item hold
    · rw [List.mem_singleton.mp hnew]
      exact ⟨work, nowUs, rfl, hlength, (h.sending work hdaemon).snoc _⟩
  | _ =>
    refine h.daemon hnot rfl (.refl _) ?_ ?_
    · intro place generation hsampled
      cases hsampled
    · intro work hsending
      cases hsending

theorem CapableCarried.work (h : CapableCarried node history s) (nowUs : Int) (accepted : Bool) :
    CapableCarried node (history ++ [(.worker nowUs accepted, s)]) (s.work nowUs accepted) := by
  have hnot : ¬ CapableVisit.IsDaemon (CapableEvent.worker nowUs accepted, s) := by
    rintro ⟨_, _, _, hevent⟩
    cases hevent
  have hworkerVisit : CapableVisit.IsWorker (CapableEvent.worker nowUs accepted, s) :=
    ⟨nowUs, accepted, rfl⟩
  -- The worker leaves the daemon alone, and has what it had or took out of the queue.
  have hrest : ∀ s' : CapableRadio n, s'.daemon = s.daemon →
      (∀ item ∈ s'.worker.unsent ++ s'.queue, item ∈ s.worker.unsent ++ s.queue) →
      (∀ item, s'.worker = .checking item →
        Aged item (history ++ [(CapableEvent.worker nowUs accepted, s)])) →
      (∀ item, s'.worker = .sending item →
        Looked item (history ++ [(CapableEvent.worker nowUs accepted, s)])) →
      CapableCarried node (history ++ [(CapableEvent.worker nowUs accepted, s)]) s' := by
    intro s' hdaemon hitems haged hlooked
    refine ⟨?_, ?_, ?_, haged, hlooked⟩
    · intro place generation hsampled
      exact Since.snoc (h.sampled place generation (hdaemon ▸ hsampled)) hnot
    · intro work hsending
      exact (h.sending work (hdaemon ▸ hsending)).snoc _
    · intro item hitem
      exact (h.queued item (hitems item hitem)).snoc _
  have hwork := s.work_cases nowUs accepted
  generalize s.work nowUs accepted = s' at hwork ⊢
  cases hwork with
  | idle hworker hqueue =>
    refine hrest _ rfl (fun _ hitem => hitem) ?_ ?_ <;>
    · intro item hitem
      rw [hworker] at hitem
      cases hitem
  | takes item queue hworker hqueue =>
    refine hrest _ rfl ?_ ?_ ?_
    · simp [hworker, hqueue, CapableWorker.unsent]
    · intro item hitem
      cases hitem
    · intro item hitem
      cases hitem
  | reads item hworker hage =>
    refine hrest _ rfl ?_ ?_ ?_
    · simp [hworker, CapableWorker.unsent]
    · intro item hitem
      cases hitem
      exact Since.now ⟨nowUs, accepted, rfl, hworker, hage⟩
    · intro item hitem
      cases hitem
  | checks item hworker hlink =>
    refine hrest _ rfl ?_ ?_ ?_
    · simp [hworker, CapableWorker.unsent]
    · intro item hitem
      cases hitem
    · intro item hitem
      cases hitem
      exact Since.now ⟨⟨⟨hworkerVisit, hworker⟩, hlink⟩, h.aged item hworker⟩
  | retires item hworker =>
    refine hrest _ rfl ?_ ?_ ?_
    · intro other hother
      exact List.mem_append_right _ hother
    · intro item hitem
      cases hitem
    · intro item hitem
      cases hitem
  | sends item hworker =>
    refine hrest _ rfl ?_ ?_ ?_
    · intro other hother
      exact List.mem_append_right _ hother
    · intro item hitem
      cases hitem
    · intro item hitem
      cases hitem
  | reports item taken hworker =>
    refine hrest _ rfl ?_ ?_ ?_
    · intro other hother
      exact List.mem_append_right _ hother
    · intro item hitem
      cases hitem
    · intro item hitem
      cases hitem
  | loses item taken hworker =>
    refine hrest _ rfl ?_ ?_ ?_
    · intro other hother
      exact List.mem_append_right _ hother
    · intro item hitem
      cases hitem
    · intro item hitem
      cases hitem

/-- Others leave both alone. -/
theorem CapableCarried.other {s' : CapableRadio n} {x : CapableVisit n}
    (h : CapableCarried node history s) (hdaemon : ¬ x.IsDaemon) (hworker : ¬ x.IsWorker)
    (hsame : s'.daemon = s.daemon ∧ s'.worker = s.worker ∧ s'.queue = s.queue) :
    CapableCarried node (history ++ [x]) s' := by
  refine h.daemon hworker hsame.2.1 (hsame.2.2 ▸ .refl _) ?_ ?_
  · intro place generation hsampled
    exact Since.snoc (h.sampled place generation (hsame.1 ▸ hsampled)) hdaemon
  · intro work hsending
    exact (h.sending work (hsame.1 ▸ hsending)).snoc x

theorem CapableCarried.step (h : CapableCarried node history s) (e : CapableEvent n) :
    CapableCarried node (history ++ [(e, s)]) (s.apply node e) := by
  cases e with
  | daemon place enabled nowUs => exact h.serve place enabled nowUs
  | worker nowUs accepted => exact h.work nowUs accepted
  | _ =>
    refine h.other ?_ ?_ ⟨rfl, rfl, rfl⟩
    · rintro ⟨_, _, _, hevent⟩
      cases hevent
    · rintro ⟨_, _, hevent⟩
      cases hevent

end Carried

/-! ## The link -/

/-- The interval of a transmission is one a neighbor can ask for. -/
theorem beginSend_interval {s : CapableRadio n} {cfg : Config} {place : CapablePlace n}
    {generation : UInt32} {enabled : Bool} {nowUs : Int} {work : CapableWork n}
    (hsound : ((s.ports place.port).schedule place.slot).Sound)
    (h : (s.beginSend cfg place generation enabled nowUs).2 = some work) :
    work.interval = ((s.ports place.port).schedule place.slot).interval.logInterval ∧
      -3 ≤ work.interval ∧ work.interval ≤ 24 := by
  unfold CapableRadio.beginSend at h
  dsimp only at h
  split at h
  · cases h
  · rename_i htoken
    cases h
    rcases (s.ports place.port).begin_acts cfg enabled nowUs place.slot with
      ⟨opened, hacts, hanswer⟩ | hnothing
    · have hspec := ptpCapableScheduleBegin_spec ((s.ports place.port).schedule place.slot) opened
        nowUs
      rw [hanswer] at htoken
      dsimp only
      rw [hacts.here]
      generalize ptpCapableScheduleBegin ((s.ports place.port).schedule place.slot) opened nowUs =
        answer at hspec htoken ⊢
      cases hspec with
      | none => exact absurd rfl htoken
      | begun s' _ _ _ hadvertised hperiod =>
        rw [hadvertised]
        refine ⟨rfl, hsound.ranged.resolve_left ?_⟩
        intro hstopped
        apply hperiod
        simp [PtpCapableSchedule.period, ptpCapableIntervalPeriod, hstopped]
    · rw [hnothing] at htoken
      exact absurd rfl htoken

/-- A byte keeps such an interval. -/
theorem toInt_ofInt_interval {interval : Int} (h : -3 ≤ interval ∧ interval ≤ 24) :
    (Int8.ofInt interval).toInt = interval := by
  exact Int8.toInt_ofInt_of_le (by omega) (by omega)

theorem CapableVisit.begun?_some {node : CapableNode n} {x : CapableVisit n}
    {work : CapableWork n} (h : x.begun? node = some work) :
    ∃ place generation enabled nowUs, x.2.daemon = .sampled place generation ∧
      (x.2.beginSend node.cfg place generation enabled nowUs).2 = some work := by
  unfold CapableVisit.begun? at h
  split at h
  · rename_i _ _ enabled nowUs place generation _ hdaemon
    exact ⟨place, generation, enabled, nowUs, hdaemon, h⟩
  · cases h

section Message

variable (node : CapableNode n) {work : CapableWork n}
  (h : -3 ≤ work.interval ∧ work.interval ≤ 24) (queuedUs : Int)
include h

theorem CapableWork.message_eq : (work.item node queuedUs).message =
    capableMessage (work.place.sourcePort node) node.cfg.domain work.sequence
      (Int8.ofInt work.interval) := by
  have hinterval := toInt_ofInt_interval h
  show (work.write node).1 = _
  unfold CapableWork.write ptpSignalingWriteCapable
  rw [if_neg (by rw [hinterval]; omega), List.drop_replicate, Nat.sub_self, List.replicate_zero,
    List.append_nil]

/-- What a send writes is read back. -/
theorem CapableWork.read {localPort : PortIdentity} (hlocal : node.clock ≠ localPort.clock) :
    ptpSignalingReadCapable (work.item node queuedUs).message ptpCapableMessageLength
        node.cfg.domain localPort = .decoded ⟨work.place.sourcePort node, work.interval⟩ := by
  have hmessage := capableMessage_message (work.place.sourcePort node) node.cfg.domain
    work.sequence (Int8.ofInt work.interval)
  have hlength := capableMessage_length (work.place.sourcePort node) node.cfg.domain
    work.sequence (Int8.ofInt work.interval)
  have hread := hmessage.readAs (.inl rfl) rfl [] (Nat.le_of_eq hlength) hlocal
  rw [List.append_nil, toInt_ofInt_interval h] at hread
  rw [work.message_eq node h queuedUs]
  exact hread.capable

theorem CapableWork.advertised_item : (work.item node queuedUs).advertised = work.interval := by
  have hbyte : (capableMessage (work.place.sourcePort node) node.cfg.domain work.sequence
      (Int8.ofInt work.interval)).u8 54 = (Int8.ofInt work.interval).toUInt8 := by
    simp [capableMessage, Bytes.u8]
  unfold WifiCapableItem.advertised
  rw [work.message_eq node h queuedUs, hbyte, Int8.toInt8_toUInt8]
  exact toInt_ofInt_interval h

end Message

namespace Sample

/-- A station on its only port, with its access point. -/
def capableNode : CapableNode 1 where
  cfg := config
  clock := #v[2, 0, 0, 0xff, 0xfe, 0, 0, 5]
  intfHwAddr := fun _ => #v[2, 0, 0, 0, 0, 5]

def capablePlace : CapablePlace 1 := ⟨⟨0, Nat.one_pos⟩, none⟩

def accessPoint : MacAddr := #v[2, 0, 0, 0, 0, 9]

def accessPointPort : PortIdentity := ⟨#v[2, 0, 0, 0xff, 0xfe, 0, 0, 9], #v[0, 3]⟩

def capableRadio : CapableRadio 1 where
  ports := fun _ => .sta default
  linkGeneration := fun _ => 0
  queue := []
  results := []
  daemon := .idle
  worker := .waiting

theorem capableRadio_fresh : capableRadio.Fresh := ⟨fun _ => rfl, rfl, rfl, rfl, rfl⟩

/-- The access point asks for two seconds, where one second is in effect. -/
def capableAsked : List (CapableEvent 1) :=
  [.neighbor capablePlace.port (.associate (some accessPoint)),
    .neighbor capablePlace.port (.bind 1 accessPoint accessPointPort),
    .neighbor capablePlace.port (.interval accessPoint 1 ⟨accessPointPort, 1⟩)]

/-- An indication, up to its completion. -/
def capableSend (nowUs : Int) : List (CapableEvent 1) :=
  List.replicate 3 (.daemon (some capablePlace) true nowUs) ++
    List.replicate 5 (.worker nowUs true) ++ List.replicate 2 (.daemon none true nowUs)

end Sample

/-- One indication, counted. -/
theorem capableCredits_accounted_first :
    (creditedResults (trace (capableStep Sample.capableNode) Sample.capableRadio
        (Sample.capableAsked ++ Sample.capableSend 0 ++
          [.daemon none true 0]))).length = 1 ∧
      CapableAccounted Sample.capableNode
        (trace (capableStep Sample.capableNode) Sample.capableRadio
          (Sample.capableAsked ++ Sample.capableSend 0 ++ [.daemon none true 0])) :=
  ⟨by decide +kernel, capableCredits_accounted Sample.capableNode Sample.capableRadio_fresh _⟩

end EspPtp
