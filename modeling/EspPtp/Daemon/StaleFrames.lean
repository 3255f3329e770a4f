import EspPtp.Daemon.RadioEvolution
import EspPtp.Lib.CDouble

/-!
# Frames of an earlier association

A queued frame must not act on an association that began after the frame was captured.
The link generation is there for it: every association change increments it, and a frame
captured before the increment is dropped. But the increment is a section of its own. It
comes **after** the change, and after the daemon's generation check nothing looks at the
generation again. So there are two windows, and `not_radio_sparesLater` below is a run
through the second: a station that re-associates between the dequeue of its frame and the
lookup of its sender has the old frame bind the new association.

`Timely` closes exactly the windows, and `radio_sparesLater` is what holds then. The
invariant is `CaptureInv`: if the sender of a queued frame has an association younger than
the frame, then the increment of the change that began it has come — and the frame will be
dropped — or is still waiting.
-/

namespace EspPtp

open Lib

variable {F : Type} {n : Nat}

/-! ## What is asked for, and when -/

/-- A change of the state leaves alone the association of the frame's sender, if that
    association is younger than the frame. -/
structure Spares (s s' : RadioSystem F n) (frame : InjectedFrame n CaptureGhost)
    (mac : MacAddr) : Prop where
  ap : (s.ports frame.portIndex).wifiMode = .ap → ∀ slot association,
    (s.ports frame.portIndex).wifiPeers.lifetime slot = some (mac, association) →
    frame.ghost.numbers < (s.ghost frame.portIndex).startedAt slot →
      (s'.ports frame.portIndex).wifiPeers.entries slot =
        (s.ports frame.portIndex).wifiPeers.entries slot
  sta : (s.ports frame.portIndex).wifiMode = .sta →
    ptpWifiNeighborAccepts (s.ports frame.portIndex).wifiNeighbor mac = true →
    frame.ghost.numbers < (s.ghost frame.portIndex).numbers →
      (s'.ports frame.portIndex).wifiNeighbor = (s.ports frame.portIndex).wifiNeighbor ∧
        (s'.ports frame.portIndex).capableReceive = (s.ports frame.portIndex).capableReceive

/-- The sections that handle the frame in hand spare later associations of its sender. -/
def SparesLater (cfg : Config) (numbering : PortNumbering) (s : RadioSystem F n)
    (step : RadioStep n) : Prop :=
  step.handles = true → ∀ frame mac, s.daemon.frame? = some frame →
    frame.sourceMac = some mac → (s.ports frame.portIndex).medium = .wifiFtm →
      Spares s (radioStep cfg numbering s step) frame mac

/-- The steps outside the two windows, and within one round of the counters. -/
structure Timely (s : RadioSystem F n) (step : RadioStep n) : Prop where
  /-- No frame is dequeued that was captured before an association of its sender began whose
      link-generation increment is still to come. -/
  dequeue : step.dequeues = true → ∀ frame ∈ s.injected.frames.head?, ∀ waiting ∈ s.pending,
    waiting.port = frame.portIndex → frame.ghost.numbers < waiting.numbers →
      ∀ mac ∈ frame.sourceMac, mac ∉ waiting.started
  /-- No association of the sender begins between dequeue and lookup. -/
  start : ∀ frame ∈ s.daemon.dequeued?, ∀ mac ∈ frame.sourceMac, ∀ started ∈ step.starts s,
    started.1 = frame.portIndex → mac ∉ started.2
  /-- Fewer than `2 ^ 32` increments of the link generation since the frame's capture. -/
  bumps : step.dequeues = true → ∀ frame ∈ s.injected.frames.head?,
    (s.ghost frame.portIndex).bumps < frame.ghost.bumps + 2 ^ 32
  /-- Fewer than `2 ^ 32 - 1` association numbers since that of the association looked up. -/
  numbers : step.handles = true → ∀ handled ∈ s.daemon.handling?,
    (s.ghost handled.1.portIndex).numbers < s.rxNumber + (2 ^ 32 - 1)

set_option synthInstance.maxSize 512 in
instance (s : RadioSystem F n) (step : RadioStep n) : Decidable (Timely s step) :=
  -- Of an optional value only the value is tried, not its whole type.
  have {α : Type} (o : Option α) (p : α → Prop) [DecidablePred p] : Decidable (∀ a ∈ o, p a) :=
    inferInstance
  decidable_of_iff
    ((step.dequeues = true → ∀ frame ∈ s.injected.frames.head?, ∀ waiting ∈ s.pending,
        waiting.port = frame.portIndex → frame.ghost.numbers < waiting.numbers →
          ∀ mac ∈ frame.sourceMac, mac ∉ waiting.started) ∧
      (∀ frame ∈ s.daemon.dequeued?, ∀ mac ∈ frame.sourceMac, ∀ started ∈ step.starts s,
        started.1 = frame.portIndex → mac ∉ started.2) ∧
      (step.dequeues = true → ∀ frame ∈ s.injected.frames.head?,
        (s.ghost frame.portIndex).bumps < frame.ghost.bumps + 2 ^ 32) ∧
      (step.handles = true → ∀ handled ∈ s.daemon.handling?,
        (s.ghost handled.1.portIndex).numbers < s.rxNumber + (2 ^ 32 - 1)))
    ⟨fun ⟨hd, hs, hb, hn⟩ => ⟨hd, hs, hb, hn⟩, fun ⟨hd, hs, hb, hn⟩ => ⟨hd, hs, hb, hn⟩⟩

/-! ## The invariant -/

/-- If the sender has an association younger than the frame, the frame is stale already or
    the increment that makes it stale is waiting. -/
structure CaptureInv (s : RadioSystem F n) (call : InjectCall n CaptureGhost) : Prop where
  generation : call.linkGeneration = UInt32.ofNat call.ghost.bumps
  bumps : call.ghost.bumps ≤ (s.ghost call.portIndex).bumps
  later : ∀ mac number, call.sourceMac = some mac → s.Associated call.portIndex mac number →
    call.ghost.numbers < number →
      call.ghost.bumps < (s.ghost call.portIndex).bumps ∨
        ∃ waiting ∈ s.pending, waiting.port = call.portIndex ∧ mac ∈ waiting.started ∧
          call.ghost.numbers < waiting.numbers

theorem CaptureInv.evolve {s s' : RadioSystem F n} {starts : Option (Fin n × List MacAddr)}
    {call : InjectCall n CaptureGhost} (h : CaptureInv s call) (hev : Evolution s s' starts)
    (hcounted : ∀ p, PortCounted (s.ports p) (s.ghost p)) : CaptureInv s' call where
  generation := h.generation
  bumps := Nat.le_trans h.bumps (hev.bumps _)
  later := by
    intro mac number hmac hassociated hlt
    rcases hev.associated hcounted _ _ _ hassociated with hold | ⟨-, -, -, waiting, hw⟩
    · rcases h.later mac number hmac hold hlt with hstale | ⟨waiting, hmem, hport, hstarted, hw⟩
      · exact Or.inl (Nat.lt_of_lt_of_le hstale (hev.bumps _))
      · rcases hev.pending waiting hmem with hstill | hmade
        · exact Or.inr ⟨waiting, hstill, hport, hstarted, hw⟩
        · rw [hport] at hmade
          exact Or.inl (Nat.lt_of_le_of_lt h.bumps hmade)
    · obtain ⟨hmem, hport, hstarted, hle⟩ := hw
      exact Or.inr ⟨waiting, hmem, hport, hstarted, Nat.lt_of_lt_of_le hlt hle⟩

/-- The association the lookup stored is not younger than the frame. -/
def RadioSystem.LookedUp (s : RadioSystem F n) (frame : InjectedFrame n CaptureGhost) : Prop :=
  frame.message.u8 0 = 0x1c → (s.ports frame.portIndex).medium = .wifiFtm →
    (s.ports frame.portIndex).wifiMode ≠ .none →
      s.rxAssociation = nthNonzero s.rxNumber ∧ s.rxNumber ≤ frame.ghost.numbers

structure RadioInv (cfg : Config) (s : RadioSystem F n) : Prop where
  counted : ∀ p, PortCounted (s.ports p) (s.ghost p)
  generation : ∀ p, s.injected.generation p = UInt32.ofNat (s.ghost p).bumps
  calls : ∀ call ∈ s.calls, CaptureInv s call
  frames : ∀ frame ∈ s.injected.frames, CaptureInv s frame.toInjectCall
  dequeued : ∀ frame, s.daemon = .dequeued frame → ∀ mac number,
    frame.sourceMac = some mac → s.Associated frame.portIndex mac number →
      number ≤ frame.ghost.numbers
  admitted : ∀ frame length, s.daemon = .admitted frame length → s.LookedUp frame
  handling : ∀ frame requests, s.daemon.handling? = some (frame, requests) →
    s.LookedUp frame ∧
      ∃ length localPort, signalingRequests cfg frame.message length localPort = some requests

theorem PortCounted.associated_le {s : RadioSystem F n} {p : Fin n} {mac : MacAddr}
    {number : Nat} (hcount : PortCounted (s.ports p) (s.ghost p))
    (h : s.Associated p mac number) : number ≤ (s.ghost p).numbers := by
  unfold RadioSystem.Associated at h
  split at h
  · exact h.elim
  · exact h.2.le
  · rename_i hap
    obtain ⟨slot, association, hlife, rfl⟩ := h
    exact ((hcount.ap hap).slots _ _ _ hlife).2

/-- Where the captured frames of a state come from: they were there before, or the call was
    made in that state, or the queued frame is one whose call was. -/
structure CapturedFrom (s s' : RadioSystem F n) : Prop where
  calls : ∀ call ∈ s'.calls, call ∈ s.calls ∨
    (call.linkGeneration = s.injected.generation call.portIndex ∧
      call.ghost = ⟨(s.ghost call.portIndex).bumps, (s.ghost call.portIndex).numbers⟩)
  frames : ∀ frame ∈ s'.injected.frames,
    frame ∈ s.injected.frames ∨ frame.toInjectCall ∈ s.calls

/-- A step that neither captures nor queues. -/
theorem CapturedFrom.same {s s' : RadioSystem F n} (hcalls : s'.calls = s.calls)
    (hframes : s'.injected.frames = s.injected.frames) : CapturedFrom s s' where
  calls _ hmem := Or.inl (hcalls ▸ hmem)
  frames _ hmem := Or.inl (hframes ▸ hmem)

theorem capture_captures (cfg : Config) (numbering : PortNumbering) (s : RadioSystem F n)
    (p : Fin n) (message : Bytes) (sourceMac : Option MacAddr) :
    CapturedFrom s (radioStep cfg numbering s (.capture p message sourceMac)) := by
  simp only [radioStep, Injected.capture]
  split
  · exact .same rfl rfl
  · rename_i call hcall
    split at hcall
    · cases hcall
    · cases hcall
      refine ⟨?_, fun _ h => Or.inl h⟩
      intro other hother
      rcases List.mem_append.mp hother with hold | hnew
      · exact Or.inl hold
      · rw [List.mem_singleton.mp hnew]
        exact Or.inr ⟨rfl, rfl⟩

/-- A frame is queued by the call that captured it. -/
theorem enqueue_captures (cfg : Config) (numbering : PortNumbering) (s : RadioSystem F n)
    (index : Nat) (received : Timespec) :
    CapturedFrom s (radioStep cfg numbering s (.enqueue index received)) := by
  simp only [radioStep]
  split
  · exact .same rfl rfl
  · rename_i call hcall
    refine ⟨fun _ h => Or.inl (List.mem_of_mem_eraseIdx h), ?_⟩
    intro frame hframe
    unfold Injected.enqueue at hframe
    split_ifs at hframe
    · exact Or.inl hframe
    · exact Or.inl hframe
    · exact Or.inl hframe
    · rcases List.mem_append.mp hframe with hold | hnew
      · exact Or.inl hold
      · rw [List.mem_singleton.mp hnew]
        exact Or.inr (List.mem_of_getElem? hcall)

theorem dequeue_captures (cfg : Config) (numbering : PortNumbering) (s : RadioSystem F n) :
    CapturedFrom s (radioStep cfg numbering s .dequeue) := by
  simp only [radioStep, RadioSystem.dequeue]
  split
  · refine ⟨fun _ h => Or.inl h, fun frame hframe => Or.inl ?_⟩
    unfold Injected.dequeue at hframe
    split at hframe
    · exact hframe
    · rename_i hframes
      rw [hframes]
      exact List.mem_cons_of_mem _ hframe
  · exact .same rfl rfl

theorem handle_captures (s : RadioSystem F n) (p : Fin n) {α : Type} (request : PtpSignaling α)
    (act : PtpPort F → α → PtpPort F) (next : DaemonPhase n) :
    CapturedFrom s (s.handle p request act next) := by
  unfold RadioSystem.handle
  split <;> exact .same rfl rfl

theorem radioStep_captures (cfg : Config) (numbering : PortNumbering) (s : RadioSystem F n)
    (step : RadioStep n) : CapturedFrom s (radioStep cfg numbering s step) := by
  cases step with
  | capture p message sourceMac => exact capture_captures cfg numbering s p message sourceMac
  | enqueue index received => exact enqueue_captures cfg numbering s index received
  | dequeue => exact dequeue_captures cfg numbering s
  | bump index =>
    simp only [radioStep, RadioSystem.bump]
    split <;> exact .same rfl rfl
  | lookup =>
    simp only [radioStep, RadioSystem.lookup]
    split
    · split
      · split <;> exact .same rfl rfl
      · exact .same rfl rfl
    · exact .same rfl rfl
  | address =>
    simp only [radioStep, RadioSystem.address]
    split <;> exact .same rfl rfl
  | indication nowUs mono =>
    simp only [radioStep, RadioSystem.indication]
    split
    · exact handle_captures ..
    · exact .same rfl rfl
  | timing =>
    simp only [radioStep, RadioSystem.timing]
    split
    · exact handle_captures ..
    · exact .same rfl rfl
  | interval =>
    simp only [radioStep, RadioSystem.interval]
    split
    · exact handle_captures ..
    · exact .same rfl rfl
  | setProfile gptp => exact .same rfl rfl
  | resetGenerations => exact .same rfl rfl
  | resetPorts => exact .same rfl rfl
  | _ =>
    simp only [radioStep]
    split <;> exact .same rfl rfl

/-! ## Where the daemon goes -/

/-- What a section does with the frame in hand. -/
inductive DaemonMove (cfg : Config) (s s' : RadioSystem F n) (step : RadioStep n) : Prop where
  /-- Nothing, and nothing to what the lookup stored. -/
  | stays (hdaemon : s'.daemon = s.daemon) (hassociation : s'.rxAssociation = s.rxAssociation)
      (hnumber : s'.rxNumber = s.rxNumber)
  | ends (hdaemon : s'.daemon = .idle)
  | takes (frame : InjectedFrame n CaptureGhost) (hstep : step.dequeues = true)
      (hdaemon : s'.daemon = .dequeued frame)
      (hhead : s.injected.frames.head? = some frame)
      (hcurrent : frame.linkGeneration = s.injected.generation frame.portIndex)
      (hports : s'.ports = s.ports) (hghost : s'.ghost = s.ghost)
  | admits (frame : InjectedFrame n CaptureGhost) (length : Nat)
      (hold : s.daemon = .dequeued frame) (hdaemon : s'.daemon = .admitted frame length)
      (hsdoid : frame.message.isGptp = s.gptp)
      (hsender : ∀ accepted association,
        senderCheck cfg s.gptp (s.ports frame.portIndex) frame.sourceMac =
            some (accepted, association) →
          accepted = true ∧ s'.rxAssociation = association ∧
            s'.rxNumber = s.numberOf frame.portIndex frame.sourceMac)
  | addresses (frame : InjectedFrame n CaptureGhost) (length : Nat)
      (requests : SignalingRequests) (localPort : PortIdentity)
      (hold : s.daemon = .admitted frame length)
      (hdaemon : s'.daemon = .addressed frame requests)
      (hrequests : signalingRequests cfg frame.message length localPort = some requests)
      (hassociation : s'.rxAssociation = s.rxAssociation) (hnumber : s'.rxNumber = s.rxNumber)
  | goesOn (frame : InjectedFrame n CaptureGhost) (requests : SignalingRequests)
      (hold : s.daemon.handling? = some (frame, requests))
      (hdaemon : s'.daemon = .indicated frame requests ∨ s'.daemon = .timed frame requests)
      (hassociation : s'.rxAssociation = s.rxAssociation) (hnumber : s'.rxNumber = s.rxNumber)

theorem handle_daemon {α : Type} (s : RadioSystem F n) (p : Fin n) (request : PtpSignaling α)
    (act : PtpPort F → α → PtpPort F) (next : DaemonPhase n) :
    (s.handle p request act next).daemon = next ∧
      (s.handle p request act next).rxAssociation = s.rxAssociation ∧
      (s.handle p request act next).rxNumber = s.rxNumber := by
  unfold RadioSystem.handle
  split <;> exact ⟨rfl, rfl, rfl⟩

theorem rxAdmission_sdoid {cfg : Config} {gptp : Bool} {message : Bytes} {received length : Nat}
    (h : rxAdmission cfg gptp message received = .admitted length) : message.isGptp = gptp := by
  unfold rxAdmission at h
  dsimp only at h
  split_ifs at h with _ _ _ _ hsdoid
  exact not_not.mp hsdoid

theorem lookup_move (cfg : Config) (s : RadioSystem F n) :
    DaemonMove cfg s (s.lookup cfg) .lookup := by
  unfold RadioSystem.lookup
  split
  · rename_i frame hold
    split
    · rename_i length hadmission
      have hsdoid := rxAdmission_sdoid hadmission
      dsimp only
      by_cases hsignaling : frame.message.msgtype = .signaling
      · rw [if_pos hsignaling]
        split
        · rename_i hnone
          refine .admits frame length hold rfl hsdoid ?_
          intro accepted association hcheck
          rw [hnone] at hcheck
          cases hcheck
        · rename_i accepted association hcheck
          by_cases haccepted : accepted = true
          · refine .admits frame length hold (if_pos haccepted) hsdoid ?_
            intro accepted' association' hcheck'
            rw [hcheck] at hcheck'
            cases hcheck'
            exact ⟨haccepted, rfl, rfl⟩
          · exact .ends (if_neg haccepted)
      · rw [if_neg hsignaling]
        split
        · exact .ends rfl
        · exact .ends (by split <;> rfl)
    · exact .ends rfl
  · exact .stays rfl rfl rfl

/-- What is dequeued is taken in hand if its generation is current. -/
theorem dequeue_move (cfg : Config) (numbering : PortNumbering) (s : RadioSystem F n) :
    DaemonMove cfg s (radioStep cfg numbering s .dequeue) .dequeue := by
  simp only [radioStep, RadioSystem.dequeue]
  split
  · unfold Injected.dequeue
    split
    · exact .ends rfl
    · rename_i frame frames hframes
      by_cases hcurrent : frame.linkGeneration = s.injected.generation frame.portIndex
      · refine .takes frame rfl ?_ (by rw [hframes]; rfl) hcurrent rfl rfl
        simp only [hcurrent, decide_true]
      · refine .ends ?_
        simp only [hcurrent, decide_false]
  · exact .stays rfl rfl rfl

theorem address_move (cfg : Config) (numbering : PortNumbering) (s : RadioSystem F n) :
    DaemonMove cfg s (radioStep cfg numbering s .address) .address := by
  simp only [radioStep, RadioSystem.address]
  split
  · rename_i frame length hold
    cases hlocal : signalingLocalPort numbering frame.portIndex (s.ports frame.portIndex)
        frame.sourceMac s.rxAssociation with
    | none => exact .ends rfl
    | some localPort =>
      cases hrequests : signalingRequests cfg frame.message length localPort with
      | none => exact .ends (by simp [hrequests])
      | some requests =>
        exact .addresses frame length requests localPort hold (by simp [hrequests]) hrequests
          rfl rfl
  · exact .stays rfl rfl rfl

theorem radioStep_move (cfg : Config) (numbering : PortNumbering) (s : RadioSystem F n)
    (step : RadioStep n) : DaemonMove cfg s (radioStep cfg numbering s step) step := by
  cases step with
  | dequeue => exact dequeue_move cfg numbering s
  | lookup => exact lookup_move cfg s
  | address => exact address_move cfg numbering s
  | indication nowUs mono =>
    simp only [radioStep, RadioSystem.indication]
    split
    · rename_i frame requests hold
      obtain ⟨hdaemon, hassociation, hnumber⟩ := handle_daemon s frame.portIndex
        requests.indication (fun port request => handleIndication s.gptp port frame.sourceMac
          s.rxAssociation request nowUs mono) (.indicated frame requests)
      exact .goesOn frame requests (by rw [hold]; rfl) (Or.inl hdaemon) hassociation hnumber
    · exact .stays rfl rfl rfl
  | timing =>
    simp only [radioStep, RadioSystem.timing]
    split
    · rename_i frame requests hold
      obtain ⟨hdaemon, hassociation, hnumber⟩ := handle_daemon s frame.portIndex
        requests.timingRequest (fun port request => timingSection cfg s.gptp port
          frame.sourceMac s.rxAssociation request) (.timed frame requests)
      exact .goesOn frame requests (by rw [hold]; rfl) (Or.inr hdaemon) hassociation hnumber
    · exact .stays rfl rfl rfl
  | interval =>
    simp only [radioStep, RadioSystem.interval]
    split
    · exact .ends (handle_daemon _ _ _ _ _).1
    · exact .stays rfl rfl rfl
  | bump index =>
    simp only [radioStep, RadioSystem.bump]
    split <;> exact .stays rfl rfl rfl
  | setProfile gptp => exact .stays rfl rfl rfl
  | resetGenerations => exact .stays rfl rfl rfl
  | resetPorts => exact .stays rfl rfl rfl
  | _ =>
    -- The other tasks never touch what the daemon holds.
    simp only [radioStep]
    split <;> exact .stays rfl rfl rfl

/-! ## The invariant along a run -/

/-- A frame just captured: no association is younger. -/
theorem CaptureInv.fresh {s : RadioSystem F n} {call : InjectCall n CaptureGhost}
    (hcounted : ∀ p, PortCounted (s.ports p) (s.ghost p))
    (hcounts : ∀ p, s.injected.generation p = UInt32.ofNat (s.ghost p).bumps)
    (hgeneration : call.linkGeneration = s.injected.generation call.portIndex)
    (hghost : call.ghost =
      ⟨(s.ghost call.portIndex).bumps, (s.ghost call.portIndex).numbers⟩) :
    CaptureInv s call where
  generation := by rw [hgeneration, hcounts, hghost]
  bumps := by rw [hghost]
  later := by
    intro mac number _ hassociated hlt
    have hle := (hcounted call.portIndex).associated_le hassociated
    rw [hghost] at hlt
    exact absurd hle (Nat.not_le_of_lt hlt)

/-- The generation check: a current frame is not older than an association of its sender. -/
theorem CaptureInv.current {s : RadioSystem F n} {call : InjectCall n CaptureGhost}
    (h : CaptureInv s call)
    (hcurrent : call.linkGeneration = UInt32.ofNat (s.ghost call.portIndex).bumps)
    (hround : (s.ghost call.portIndex).bumps < call.ghost.bumps + 2 ^ 32)
    {mac : MacAddr} {number : Nat} (hmac : call.sourceMac = some mac)
    (hwaiting : ∀ waiting ∈ s.pending, waiting.port = call.portIndex →
      call.ghost.numbers < waiting.numbers → mac ∉ waiting.started)
    (hassociated : s.Associated call.portIndex mac number) : number ≤ call.ghost.numbers := by
  by_contra hlt
  rcases h.later mac number hmac hassociated (Nat.lt_of_not_le hlt) with
    hstale | ⟨waiting, hmem, hport, hstarted, hw⟩
  · -- Fewer than a round of increments apart, two equal generations are one.
    have hvalue := congrArg UInt32.toNat (h.generation.symm.trans hcurrent)
    simp only [UInt32.toNat_ofNat'] at hvalue
    omega
  · exact hwaiting waiting hmem hport hw hstarted

/-- What the sender check finds is an association of the sender. -/
theorem senderCheck_associated {cfg : Config} {s : RadioSystem F n} {p : Fin n}
    {sender : Option MacAddr} {association : UInt32}
    (hcounted : PortCounted (s.ports p) (s.ghost p))
    (hcheck : senderCheck cfg true (s.ports p) sender = some (true, association)) :
    association = nthNonzero (s.numberOf p sender) ∧
      ∃ mac, sender = some mac ∧ s.Associated p mac (s.numberOf p sender) := by
  unfold senderCheck at hcheck
  split_ifs at hcheck with hsta hap
  · simp only [staSender, Option.some.injEq, Prod.mk.injEq] at hcheck
    obtain ⟨haccepts, rfl⟩ := hcheck
    obtain ⟨mac, hsender, haccepts⟩ := (Option.any_eq_true _ _).mp haccepts
    have hnumber : s.numberOf p sender = (s.ghost p).numbers := if_pos hsta.2.2
    rw [hnumber]
    refine ⟨hcounted.sta hsta.2.2, mac, hsender, ?_⟩
    simp only [RadioSystem.Associated, hsta.2.2]
    exact ⟨haccepts, trivial⟩
  · unfold apSender at hcheck
    split at hcheck
    · cases hcheck
    · rename_i slot hslot
      simp only [Option.some.injEq, Prod.mk.injEq] at hcheck
      obtain ⟨mac, hsender, hfind⟩ := Option.bind_eq_some_iff.mp hslot
      have hlife := ptpWifiPeersFind_some hfind
      have hne : (s.ports p).wifiMode ≠ .sta := by
        rw [hap.2.2]
        decide
      have hnumber : s.numberOf p sender = (s.ghost p).startedAt slot := by
        simp only [RadioSystem.numberOf, if_neg hne, hslot]
      rw [hnumber, ← hcheck.2]
      refine ⟨((hcounted.ap hap.2.2).slots _ _ _ hlife).1, mac, hsender, ?_⟩
      simp only [RadioSystem.Associated, hap.2.2]
      exact ⟨slot, _, hlife, rfl⟩

theorem RadioSystem.LookedUp.evolve {s s' : RadioSystem F n}
    {starts : Option (Fin n × List MacAddr)} {frame : InjectedFrame n CaptureGhost}
    (h : s.LookedUp frame) (hev : Evolution s s' starts)
    (hassociation : s'.rxAssociation = s.rxAssociation) (hnumber : s'.rxNumber = s.rxNumber) :
    s'.LookedUp frame := by
  unfold RadioSystem.LookedUp
  rw [hev.medium, hev.mode, hassociation, hnumber]
  exact h

section Run

variable {cfg : Config} {numbering : PortNumbering}

theorem RadioInv.captures {s : RadioSystem F n} (h : RadioInv cfg s) (step : RadioStep n) :
    (∀ call ∈ (radioStep cfg numbering s step).calls,
        CaptureInv (radioStep cfg numbering s step) call) ∧
      ∀ frame ∈ (radioStep cfg numbering s step).injected.frames,
        CaptureInv (radioStep cfg numbering s step) frame.toInjectCall := by
  have hev := radioStep_evolution cfg numbering s step
  obtain ⟨hcalls, hframes⟩ := radioStep_captures cfg numbering s step
  refine ⟨?_, ?_⟩
  · intro call hcall
    rcases hcalls call hcall with hold | ⟨hgeneration, hghost⟩
    · exact (h.calls call hold).evolve hev h.counted
    · exact (CaptureInv.fresh h.counted h.generation hgeneration hghost).evolve hev h.counted
  · intro frame hframe
    rcases hframes frame hframe with hold | hcall
    · exact (h.frames frame hold).evolve hev h.counted
    · exact (h.calls _ hcall).evolve hev h.counted

/-- A frame the daemon has dequeued, and not looked up yet, is not older than an association
    of its sender. -/
theorem RadioInv.dequeuedStep {s : RadioSystem F n} (h : RadioInv cfg s) {step : RadioStep n}
    (hstep : Timely s step) {frame : InjectedFrame n CaptureGhost}
    (hdaemon : (radioStep cfg numbering s step).daemon = .dequeued frame) {mac : MacAddr}
    {number : Nat} (hmac : frame.sourceMac = some mac)
    (hassociated : (radioStep cfg numbering s step).Associated frame.portIndex mac number) :
    number ≤ frame.ghost.numbers := by
  have hev := radioStep_evolution cfg numbering s step
  cases radioStep_move cfg numbering s step with
  | stays hsame _ _ =>
    have hold : s.daemon = .dequeued frame := hsame.symm.trans hdaemon
    rcases hev.associated h.counted _ _ _ hassociated with hbefore | ⟨macs, hstarts, hmem, -⟩
    · exact h.dequeued frame hold mac number hmac hbefore
    · exact absurd hmem
        (hstep.start frame (by rw [hold]; rfl) mac hmac (frame.portIndex, macs) hstarts rfl)
  | takes frame' hdequeues hdaemon' hhead hcurrent hports hghost =>
    rw [hdaemon] at hdaemon'
    cases hdaemon'
    have hbefore : s.Associated frame.portIndex mac number := by
      unfold RadioSystem.Associated at hassociated ⊢
      rw [hports, hghost] at hassociated
      exact hassociated
    refine (h.frames frame (List.mem_of_mem_head? hhead)).current ?_
      (hstep.bumps hdequeues frame hhead) hmac ?_ hbefore
    · rw [hcurrent]
      exact h.generation frame.portIndex
    · intro waiting hmem hport hlt
      exact hstep.dequeue hdequeues frame hhead waiting hmem hport hlt mac hmac
  | ends hidle => rw [hdaemon] at hidle; cases hidle
  | admits _ _ _ hother _ _ => rw [hdaemon] at hother; cases hother
  | addresses _ _ _ _ _ hother _ _ _ => rw [hdaemon] at hother; cases hother
  | goesOn _ _ _ hother _ _ => rcases hother with hother | hother <;> (rw [hdaemon] at hother; cases hother)

/-- The lookup finds an association that is not younger than the frame. -/
theorem RadioInv.lookedUp {s s' : RadioSystem F n} (h : RadioInv cfg s)
    {starts : Option (Fin n × List MacAddr)} (hev : Evolution s s' starts)
    {frame : InjectedFrame n CaptureGhost} (hdaemon : s.daemon = .dequeued frame)
    (hsdoid : frame.message.isGptp = s.gptp)
    (hsender : ∀ accepted association,
      senderCheck cfg s.gptp (s.ports frame.portIndex) frame.sourceMac =
          some (accepted, association) →
        accepted = true ∧ s'.rxAssociation = association ∧
          s'.rxNumber = s.numberOf frame.portIndex frame.sourceMac) : s'.LookedUp frame := by
  intro hmessage hmedium hmode
  rw [hev.medium] at hmedium
  rw [hev.mode] at hmode
  have hgptp : s.gptp = true := by
    rw [← hsdoid]
    rw [Bytes.isGptp, hmessage]
    rfl
  rw [hgptp] at hsender
  cases hcheck : senderCheck cfg true (s.ports frame.portIndex) frame.sourceMac with
  | none =>
    -- On Wi-Fi there is no such port.
    unfold senderCheck at hcheck
    split_ifs at hcheck with hsta hap
    cases hmodeIs : (s.ports frame.portIndex).wifiMode with
    | none => exact absurd hmodeIs hmode
    | ap => exact absurd ⟨rfl, hmedium, hmodeIs⟩ hap
    | sta => exact absurd ⟨rfl, hmedium, hmodeIs⟩ hsta
  | some answer =>
    obtain ⟨accepted, association⟩ := answer
    obtain ⟨rfl, hassociation, hnumber⟩ := hsender accepted association hcheck
    obtain ⟨hcount, mac, hmac, hassociated⟩ :=
      senderCheck_associated (h.counted frame.portIndex) hcheck
    rw [hassociation, hnumber]
    exact ⟨hcount, h.dequeued frame hdaemon mac _ hmac hassociated⟩

theorem RadioInv.step {s : RadioSystem F n} (h : RadioInv cfg s) {step : RadioStep n}
    (hstep : Timely s step) : RadioInv cfg (radioStep cfg numbering s step) where
  counted := fun p => (radioStep_evolution cfg numbering s step).counted p (h.counted p)
  generation := (radioStep_evolution cfg numbering s step).generation h.generation
  calls := (h.captures step).1
  frames := (h.captures step).2
  dequeued := fun _ hdaemon _ _ hmac hassociated => h.dequeuedStep hstep hdaemon hmac hassociated
  admitted := by
    intro frame length hdaemon
    have hev := radioStep_evolution cfg numbering s step
    cases radioStep_move cfg numbering s step with
    | stays hsame hassociation hnumber =>
      exact (h.admitted frame length (hsame.symm.trans hdaemon)).evolve hev hassociation hnumber
    | admits frame' length' hold hnow hsdoid hsender =>
      rw [hdaemon] at hnow
      cases hnow
      exact h.lookedUp hev hold hsdoid hsender
    | ends hnow => rw [hdaemon] at hnow; cases hnow
    | takes _ _ hnow _ _ _ _ => rw [hdaemon] at hnow; cases hnow
    | addresses _ _ _ _ _ hnow _ _ _ => rw [hdaemon] at hnow; cases hnow
    | goesOn _ _ _ hnow _ _ =>
      rcases hnow with hnow | hnow <;> (rw [hdaemon] at hnow; cases hnow)
  handling := by
    intro frame requests hdaemon
    have hev := radioStep_evolution cfg numbering s step
    cases radioStep_move cfg numbering s step with
    | stays hsame hassociation hnumber =>
      rw [hsame] at hdaemon
      obtain ⟨hlooked, hrequests⟩ := h.handling frame requests hdaemon
      exact ⟨hlooked.evolve hev hassociation hnumber, hrequests⟩
    | addresses frame' length requests' localPort hold hnow hrequests hassociation hnumber =>
      rw [hnow] at hdaemon
      cases hdaemon
      exact ⟨(h.admitted frame length hold).evolve hev hassociation hnumber,
        length, localPort, hrequests⟩
    | goesOn frame' requests' hold hnow hassociation hnumber =>
      have hsame : frame' = frame ∧ requests' = requests := by
        rcases hnow with hnow | hnow <;>
          (rw [hnow] at hdaemon; cases hdaemon; exact ⟨rfl, rfl⟩)
      obtain ⟨rfl, rfl⟩ := hsame
      obtain ⟨hlooked, hrequests⟩ := h.handling _ _ hold
      exact ⟨hlooked.evolve hev hassociation hnumber, hrequests⟩
    | ends hnow => rw [hnow] at hdaemon; cases hdaemon
    | takes _ _ hnow _ _ _ _ => rw [hnow] at hdaemon; cases hdaemon
    | admits _ _ _ hnow _ _ => rw [hnow] at hdaemon; cases hdaemon

/-! ## Later associations are spared -/

theorem Spares.same {s s' : RadioSystem F n} {frame : InjectedFrame n CaptureGhost}
    {mac : MacAddr} (h : s'.ports = s.ports) : Spares s s' frame mac := by
  constructor
  · intros
    rw [h]
  · intros
    rw [h]
    exact ⟨rfl, rfl⟩

/-- A request of the frame in hand is for the association that was looked up, and within a
    round of the counter no younger association has its number. -/
theorem RadioInv.handle_spares {s : RadioSystem F n} (h : RadioInv cfg s)
    {frame : InjectedFrame n CaptureGhost} {requests : SignalingRequests}
    (hhandling : s.daemon.handling? = some (frame, requests))
    (hround : (s.ghost frame.portIndex).numbers < s.rxNumber + (2 ^ 32 - 1))
    {α : Type} {request : PtpSignaling α} {act : PtpPort F → α → PtpPort F}
    {next : DaemonPhase n}
    (hcarries : ∀ value, request = .decoded value → frame.message.u8 0 = 0x1c)
    (hact : ∀ value, HandledFor (s.ports frame.portIndex)
      (act (s.ports frame.portIndex) value) frame.sourceMac s.rxAssociation)
    {mac : MacAddr} (hmac : frame.sourceMac = some mac)
    (hmedium : (s.ports frame.portIndex).medium = .wifiFtm) :
    Spares s (s.handle frame.portIndex request act next) frame mac := by
  unfold RadioSystem.handle
  split
  · rename_i value
    have hlooked := (h.handling frame requests hhandling).1 (hcarries value rfl) hmedium
    -- A number of the count above the looked-up one is another number on the wire.
    have hother : ∀ number, frame.ghost.numbers < number →
        number ≤ (s.ghost frame.portIndex).numbers →
        (s.ports frame.portIndex).wifiMode ≠ .none →
          nthNonzero number ≠ s.rxAssociation := by
      intro number hlater hle hmode heq
      obtain ⟨hassociation, hold⟩ := hlooked hmode
      rw [hassociation] at heq
      have hsame := nthNonzero_inj (by omega) (by omega) heq.symm
      omega
    constructor
    · intro hap slot association hlife hlater
      simp only [RadioSystem.withPort, Function.update_self]
      obtain ⟨hnumber, hle⟩ := ((h.counted frame.portIndex).ap hap).slots _ _ _ hlife
      apply (hact value).slots slot mac association hmac hlife
      rw [hnumber]
      exact hother _ hlater hle (by rw [hap]; decide)
    · intro hsta _ hlater
      simp only [RadioSystem.withPort, Function.update_self]
      apply (hact value).neighbor hmedium
      rw [(h.counted frame.portIndex).sta hsta]
      exact hother _ hlater (Nat.le_refl _) (by rw [hsta]; decide)
  · exact Spares.same rfl

/-- The frame that is being handled is the frame in hand. -/
theorem DaemonPhase.frame?_of_handling? {phase : DaemonPhase n}
    {frame : InjectedFrame n CaptureGhost} {requests : SignalingRequests}
    (h : phase.handling? = some (frame, requests)) : phase.frame? = some frame := by
  cases phase with
  | idle => cases h
  | dequeued frame' => cases h
  | admitted frame' length => cases h
  | addressed frame' requests' | indicated frame' requests' | timed frame' requests' =>
    cases h
    rfl

/-- One of the three sections of the frame in hand. -/
theorem RadioInv.section_spares {s : RadioSystem F n} (h : RadioInv cfg s) {step : RadioStep n}
    (hstep : Timely s step) (hhandles : step.handles = true)
    {handled frame : InjectedFrame n CaptureGhost} {requests : SignalingRequests}
    (hhandling : s.daemon.handling? = some (handled, requests))
    (hframe : s.daemon.frame? = some frame)
    {α : Type} {request : PtpSignaling α} {act : PtpPort F → α → PtpPort F}
    {next : DaemonPhase n}
    (hcarries : ∀ value, request = .decoded value →
      (∃ value, requests.indication = .decoded value) ∨
        (∃ value, requests.timingRequest = .decoded value) ∨
        ∃ value, requests.intervalRequest = .decoded value)
    (hact : ∀ value, HandledFor (s.ports handled.portIndex)
      (act (s.ports handled.portIndex) value) handled.sourceMac s.rxAssociation)
    {mac : MacAddr} (hmac : frame.sourceMac = some mac)
    (hmedium : (s.ports frame.portIndex).medium = .wifiFtm) :
    Spares s (s.handle handled.portIndex request act next) frame mac := by
  rw [DaemonPhase.frame?_of_handling? hhandling] at hframe
  cases hframe
  have hnumbers := hstep.numbers hhandles (handled, requests) hhandling
  obtain ⟨-, length, localPort, hrequests⟩ := h.handling handled requests hhandling
  have hsdoid : ∀ value, request = .decoded value → handled.message.u8 0 = 0x1c :=
    fun value hvalue => signalingRequests_sdoid hrequests (hcarries value hvalue)
  exact h.handle_spares hhandling hnumbers hsdoid hact hmac hmedium

theorem RadioInv.spares {s : RadioSystem F n} (h : RadioInv cfg s) {step : RadioStep n}
    (hstep : Timely s step) : SparesLater cfg numbering s step := by
  intro hhandles frame mac hframe hmac hmedium
  cases step with
  | lookup => exact Spares.same (lookup_frame cfg s).1
  | address =>
    refine Spares.same ?_
    simp only [radioStep, RadioSystem.address]
    split <;> rfl
  | indication nowUs mono =>
    simp only [radioStep, RadioSystem.indication]
    split
    · rename_i handled requests hphase
      have hhandling : s.daemon.handling? = some (handled, requests) := by rw [hphase]; rfl
      exact h.section_spares hstep hhandles hhandling hframe
        (fun value hvalue => .inl ⟨value, hvalue⟩)
        (fun value => handleIndication_handled cfg _ _ _ _ value _ _) hmac hmedium
    · exact Spares.same rfl
  | timing =>
    simp only [radioStep, RadioSystem.timing]
    split
    · rename_i handled requests hphase
      have hhandling : s.daemon.handling? = some (handled, requests) := by rw [hphase]; rfl
      exact h.section_spares hstep hhandles hhandling hframe
        (fun value hvalue => .inr (.inl ⟨value, hvalue⟩))
        (fun value => timingSection_handled cfg _ _ _ _ value) hmac hmedium
    · exact Spares.same rfl
  | interval =>
    simp only [radioStep, RadioSystem.interval]
    split
    · rename_i handled requests hphase
      have hhandling : s.daemon.handling? = some (handled, requests) := by rw [hphase]; rfl
      exact h.section_spares hstep hhandles hhandling hframe
        (fun value hvalue => .inr (.inr ⟨value, hvalue⟩))
        (fun value => intervalSection_handled cfg _ _ _ _ value) hmac hmedium
    · exact Spares.same rfl
  | _ => cases hhandles

end Run

/-- The start of a run: no station, nothing queued, and nothing under way. The link
    generations outlive the daemon and are what they are. -/
structure RadioInit (s : RadioSystem F n) : Prop where
  peers : ∀ p, (s.ports p).wifiPeers = PtpWifiPeers.zero
  neighbor : ∀ p, (s.ports p).wifiNeighbor = default
  numbers : ∀ p, (s.ghost p).numbers = 0
  generation : ∀ p, s.injected.generation p = UInt32.ofNat (s.ghost p).bumps
  frames : s.injected.frames = []
  calls : s.calls = []
  daemon : s.daemon = .idle

theorem RadioInit.inv {s : RadioSystem F n} (h : RadioInit s) (cfg : Config) :
    RadioInv cfg s where
  counted := by
    intro p
    constructor
    · intro _
      rw [h.peers]
      constructor
      · rw [h.numbers]
        rfl
      · intro slot mac association hlife
        cases hlife
    · intro _
      rw [h.neighbor, h.numbers]
      rfl
  generation := h.generation
  calls := by
    intro call hcall
    rw [h.calls] at hcall
    cases hcall
  frames := by
    intro frame hframe
    rw [h.frames] at hframe
    cases hframe
  dequeued := by
    intro frame hdaemon
    rw [h.daemon] at hdaemon
    cases hdaemon
  admitted := by
    intro frame length hdaemon
    rw [h.daemon] at hdaemon
    cases hdaemon
  handling := by
    intro frame requests hdaemon
    rw [h.daemon] at hdaemon
    cases hdaemon

/-- **Outside the two windows, a frame never acts on an association that began after its
    capture.** -/
theorem radio_sparesLater (cfg : Config) (numbering : PortNumbering) {s₀ s : RadioSystem F n}
    (hinit : RadioInit s₀) (hrun : Reached (radioStep cfg numbering) Timely s₀ s)
    (step : RadioStep n) (hstep : Timely s step) : SparesLater cfg numbering s step := by
  have hinv : RadioInv cfg s :=
    hrun.invariant (hinit.inv cfg) fun _ _ hok hold => hold.step hok
  exact hinv.spares hstep

/-! ## A station that re-associates -/

namespace Sample

/-- A gPTP-capable indication to every port. -/
def capableFrame : Bytes :=
  [0x1c, 0x12, 0, 60, 0, 0, 0, 0, 0, 0, 0, 0, 0, 0, 0, 0, 0, 0, 0, 0,
    2, 0, 0, 255, 254, 0, 0, 1, 0, 1, 0, 0, 5, 127] ++ List.replicate 10 255 ++
    [0x80, 0, 0, 12, 0, 0x80, 0xc2, 0, 0, 4, 0, 0, 0, 0, 0, 0]

def numbering : PortNumbering := ⟨1, #v[4, 0, 0, 255, 254, 0, 0, 4]⟩

/-- An access point before its first station. -/
def radio : RadioSystem ℚ 1 where
  gptp := true
  ports := fun _ =>
    { (default : PtpPort ℚ) with
      medium := .wifiFtm
      wifiMode := .ap
      enabled := true
      linkUp := true }
  injected := ⟨true, [], fun _ => 0⟩
  calls := []
  pending := []
  daemon := .idle
  rxAssociation := 0
  ghost := fun _ => ⟨0, 0, fun _ => 0⟩
  rxNumber := 0

theorem radio_init : RadioInit radio where
  peers := fun _ => rfl
  neighbor := fun _ => rfl
  numbers := fun _ => rfl
  generation := fun _ => rfl
  frames := rfl
  calls := rfl
  daemon := rfl

/-- The station's frame is in the daemon's hand. -/
def dequeued : List (RadioStep 1) :=
  [.apStaConnected 0 station, .bump 0, .capture 0 capableFrame (some station),
    .enqueue 0 ⟨1, 0⟩, .dequeue]

def dequeuedFrame : InjectedFrame 1 CaptureGhost where
  portIndex := 0
  linkGeneration := 1
  length := 60
  message := capableFrame
  sourceMac := some station
  ghost := ⟨1, 1⟩
  received := ⟨1, 0⟩

def rejoinedAfterLookup : List (RadioStep 1) :=
  dequeued ++ [.lookup, .address, .apStaConnected 0 station]

def rejoinedBeforeLookup : List (RadioStep 1) :=
  dequeued ++ [.apStaConnected 0 station, .lookup, .address]

end Sample

/-- The station re-associates after the lookup: the frame does not reach the second
    association. -/
theorem radio_sparesLater_rejoined :
    let s := Sample.rejoinedAfterLookup.foldl (radioStep Sample.config Sample.numbering)
      Sample.radio
    s.daemon.frame? = some Sample.dequeuedFrame ∧
      (s.ports 0).wifiPeers.lifetime 0 = some (Sample.station, 2) ∧
      SparesLater Sample.config Sample.numbering s (.indication 5 ⟨1, 0⟩) :=
  ⟨by decide +kernel, by decide +kernel,
    radio_sparesLater Sample.config Sample.numbering Sample.radio_init
      (Reached.init.of_steps _ (by decide +kernel)) _ (by decide +kernel)⟩

/-- The station re-associates before the lookup: the frame of the first association binds
    the second. -/
theorem not_radio_sparesLater :
    ¬ ∀ (cfg : Config) (numbering : PortNumbering) (n : Nat) (s₀ s : RadioSystem ℚ n),
      RadioInit s₀ → Reached (radioStep cfg numbering) (fun _ _ => True) s₀ s →
        ∀ step, SparesLater cfg numbering s step := by
  intro hclaim
  have hspares := hclaim Sample.config Sample.numbering 1 Sample.radio _ Sample.radio_init
    (Reached.init.of_steps Sample.rejoinedBeforeLookup (by decide +kernel))
    (.indication 5 ⟨1, 0⟩) rfl Sample.dequeuedFrame Sample.station (by decide +kernel) rfl rfl
  have hbound := hspares.ap rfl 0 2 (by decide +kernel) (by decide +kernel)
  exact absurd hbound (by decide +kernel)

end EspPtp
