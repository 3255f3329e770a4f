import EspPtp.Daemon.Injected
import EspPtp.Daemon.Port
import EspPtp.Lib.Ring

/-!
# The ring of received frames (`s_injected`)

The queue of `Injected` is a ring in the source: eight slots, a head and a count, which the
start of a daemon sets to zero and its end leaves at the head it had. A slot holds the whole
receive buffer, cleared behind the message, and an address with a flag.

Every section here is one of the queue's on what the ring holds (`InjectRing.queue`).
-/

namespace EspPtp

open Lib

/-- `struct ptp_injected_frame_s`. -/
structure InjectSlot (n : Nat) (Γ : Type) where
  length : Nat
  portIndex : Fin n
  linkGeneration : UInt32
  sourceMac : MacAddr
  sourceMacValid : Bool
  received : Timespec
  message : Bytes
  ghost : Γ
  deriving DecidableEq

/-- `s_injected` and the variables beside it. -/
structure InjectRing (n : Nat) (Γ : Type) where
  slots : Vector (InjectSlot n Γ) ptpInjectDepth
  head : Fin ptpInjectDepth
  count : Nat
  generation : Fin n → UInt32
  enabled : Bool

variable {n : Nat} {Γ : Type}

/-! ## The sections -/

/-- What a call writes to its slot. -/
def InjectCall.slot (call : InjectCall n Γ) (received : Timespec) : InjectSlot n Γ where
  length := call.length
  portIndex := call.portIndex
  linkGeneration := call.linkGeneration
  sourceMac := call.sourceMac.getD (Vector.replicate 6 0)
  sourceMacValid := call.sourceMac.isSome
  received := received
  message := call.message ++ List.replicate (256 - call.message.length) 0
  ghost := call.ghost

namespace InjectRing

variable (ring : InjectRing n Γ)

/-- The first section of `ptp_inject_received_frame_from`; `none` is `-EINVAL`. -/
def capture (port : Fin n) (message : Bytes) (sourceMac : Option MacAddr) (ghost : Γ) :
    Option (InjectCall n Γ) :=
  if message.length < 34 ∨ message.length > 256 then none
  else
    some
      { portIndex := port
        linkGeneration := ring.generation port
        length := message.length
        message := message
        sourceMac := sourceMac
        ghost := ghost }

/-- The second section of `ptp_inject_received_frame_from`. -/
def enqueue (call : InjectCall n Γ) (received : Timespec) : InjectRing n Γ × InjectResult :=
  if !ring.enabled then (ring, .esrch)
  else if call.linkGeneration ≠ ring.generation call.portIndex then (ring, .estale)
  else if ring.count = ptpInjectDepth then (ring, .enobufs)
  else
    let tail := Ring.index ring.head ring.count
    ({ ring with
        slots := ring.slots.set tail.val (call.slot received) tail.isLt
        count := ring.count + 1 }, .ok)

/-- The section of the drain: the slot at the head, and whether its frame is current. -/
def dequeue : InjectRing n Γ × Option (InjectSlot n Γ × Bool) :=
  if ring.count = 0 then (ring, none)
  else
    let incoming := ring.slots.get ring.head
    ({ ring with
        head := Ring.index ring.head 1
        count := ring.count - 1 },
      some (incoming, decide (incoming.linkGeneration = ring.generation incoming.portIndex)))

/-- `++s_injected_generation[port]`. -/
def bump (port : Fin n) : InjectRing n Γ :=
  { ring with
    generation := Function.update ring.generation port (ring.generation port + 1) }

/-- The section of `ptp_initialize_state`. -/
def start : InjectRing n Γ :=
  { ring with
    head := ⟨0, ptpInjectDepth_pos⟩
    count := 0
    generation := fun port => ring.generation port + 1
    enabled := true }

/-- The section after the daemon's loop. -/
def stop : InjectRing n Γ :=
  { ring with
    enabled := false
    count := 0
    generation := fun port => ring.generation port + 1 }

end InjectRing

/-! ## What is handed on -/

/-- What `ptp_process_rx_packet` is called with, and finds in port 0. -/
structure InjectHanded (n : Nat) where
  scratch : RxScratch
  length : Nat
  ingress : Fin n
  deriving DecidableEq

/-- The drain copies a slot to port 0. -/
def InjectSlot.handed (slot : InjectSlot n Γ) (rx : RxScratch) : InjectHanded n where
  scratch :=
    { rx with
      rxbuf := slot.message
      rxtime := slot.received
      rxSourceMac := slot.sourceMac
      rxSourceMacValid := slot.sourceMacValid
      rxDestMacValid := false }
  length := slot.length
  ingress := slot.portIndex

/-- The frame is handed on as it was given. -/
structure Intact (frame : InjectedFrame n Γ) (handed : InjectHanded n) : Prop where
  length : handed.length = frame.message.length
  message : handed.scratch.rxbuf.take handed.length = frame.message
  ingress : handed.ingress = frame.portIndex
  sender : handed.scratch.sender = frame.sourceMac
  received : handed.scratch.rxtime = frame.received

/-! ## The ring is a queue -/

/-- The frame in a slot. -/
def InjectSlot.frame (slot : InjectSlot n Γ) : InjectedFrame n Γ where
  portIndex := slot.portIndex
  linkGeneration := slot.linkGeneration
  length := slot.length
  message := slot.message.take slot.length
  sourceMac := if slot.sourceMacValid then some slot.sourceMac else none
  ghost := slot.ghost
  received := slot.received

/-- The queue in the ring. -/
def InjectRing.queue (ring : InjectRing n Γ) : Injected n Γ where
  enabled := ring.enabled
  frames := (Ring.contents ring.slots ring.head ring.count).map InjectSlot.frame
  generation := ring.generation

/-- The slot of a call holds its frame. -/
theorem frame_slot {call : InjectCall n Γ} (h : call.length = call.message.length)
    (received : Timespec) : (call.slot received).frame = { call with received := received } := by
  unfold InjectCall.slot InjectSlot.frame
  rw [h, List.take_left]
  obtain ⟨port, generation, length, message, sourceMac, ghost⟩ := call
  cases sourceMac with
  | none => simp_all
  | some mac => simp_all

/-- A slot whose frame has its own length is handed on intact. -/
theorem InjectSlot.intact {slot : InjectSlot n Γ} (h : slot.frame.length = slot.frame.message.length)
    (rx : RxScratch) : Intact slot.frame (slot.handed rx) := by
  refine ⟨h, rfl, rfl, ?_, rfl⟩
  unfold RxScratch.sender
  rfl

namespace InjectRing

variable {ring : InjectRing n Γ}

theorem queue_length : ring.queue.frames.length = ring.count := by
  simp [queue]

theorem capture_queue (port : Fin n) (message : Bytes) (sourceMac : Option MacAddr) (ghost : Γ) :
    ring.capture port message sourceMac ghost = ring.queue.capture port message sourceMac ghost :=
  rfl

theorem enqueue_queue {call : InjectCall n Γ} (h : call.length = call.message.length)
    (hcount : ring.count ≤ ptpInjectDepth) (received : Timespec) :
    (ring.enqueue call received).1.queue = (ring.queue.enqueue call received).1 ∧
      (ring.enqueue call received).2 = (ring.queue.enqueue call received).2 := by
  unfold enqueue Injected.enqueue
  rw [queue_length]
  by_cases hdisabled : !ring.enabled
  · rw [if_pos hdisabled, if_pos (show (!ring.queue.enabled) = true from hdisabled)]
    exact ⟨rfl, rfl⟩
  · rw [if_neg hdisabled, if_neg (show ¬ (!ring.queue.enabled) = true from hdisabled)]
    by_cases hstale : call.linkGeneration ≠ ring.generation call.portIndex
    · rw [if_pos hstale, if_pos (show call.linkGeneration ≠ ring.queue.generation _ from hstale)]
      exact ⟨rfl, rfl⟩
    · rw [if_neg hstale,
        if_neg (show ¬ call.linkGeneration ≠ ring.queue.generation _ from hstale)]
      by_cases hfull : ring.count = ptpInjectDepth
      · rw [if_pos hfull, if_pos hfull]
        exact ⟨rfl, rfl⟩
      · rw [if_neg hfull, if_neg hfull]
        refine ⟨?_, rfl⟩
        unfold queue
        dsimp only
        rw [Ring.contents_push _ _ (by omega), List.map_append, List.map_singleton, frame_slot h]

theorem dequeue_queue : ring.dequeue.1.queue = ring.queue.dequeue.1 ∧
    ring.dequeue.2.map (fun found => (found.1.frame, found.2)) = ring.queue.dequeue.2 := by
  unfold dequeue Injected.dequeue
  cases hcount : ring.count with
  | zero =>
    have hnone : ring.queue.frames = [] := by
      unfold queue
      rw [hcount]
      rfl
    rw [hnone]
    exact ⟨rfl, rfl⟩
  | succ count =>
    have hsome : ring.queue.frames = (ring.slots.get ring.head).frame ::
        (Ring.contents ring.slots (Ring.index ring.head 1) count).map InjectSlot.frame := by
      unfold queue
      rw [hcount]
      dsimp only
      rw [Ring.contents_pop, List.map_cons]
    rw [hsome]
    exact ⟨rfl, rfl⟩

theorem bump_queue (port : Fin n) : (ring.bump port).queue = ring.queue.bump port := rfl

theorem start_queue : ring.start.queue = ring.queue.start := rfl

theorem stop_queue : ring.stop.queue = ring.queue.stop := rfl

/-- What the second section of a call can do. -/
inductive Enqueued (ring : InjectRing n Γ) (call : InjectCall n Γ) (received : Timespec) :
    InjectRing n Γ × InjectResult → Prop
  | refused (result : InjectResult) (hnot : result ≠ .ok)
      (hfull : result = .enobufs → ring.count = ptpInjectDepth) :
      Enqueued ring call received (ring, result)
  | ok (ring' : InjectRing n Γ) (hroom : ring.count < ptpInjectDepth)
      (hcount : ring'.count = ring.count + 1) (hgeneration : ring'.generation = ring.generation)
      (hframes : ring'.queue.frames = ring.queue.frames ++ [{ call with received := received }]) :
      Enqueued ring call received (ring', .ok)

theorem enqueue_effect {call : InjectCall n Γ} (h : call.length = call.message.length)
    (hcount : ring.count ≤ ptpInjectDepth) (received : Timespec) :
    Enqueued ring call received (ring.enqueue call received) := by
  have hqueue := (enqueue_queue h hcount received).1
  unfold enqueue Injected.enqueue at hqueue
  unfold enqueue
  by_cases hdisabled : !ring.enabled
  · rw [if_pos hdisabled]
    exact .refused _ (by decide) fun h => by cases h
  · by_cases hstale : call.linkGeneration ≠ ring.generation call.portIndex
    · rw [if_neg hdisabled, if_pos hstale]
      exact .refused _ (by decide) fun h => by cases h
    · by_cases hfull : ring.count = ptpInjectDepth
      · rw [if_neg hdisabled, if_neg hstale, if_pos hfull]
        exact .refused _ (by decide) fun _ => hfull
      · rw [queue_length, if_neg hdisabled, if_neg hstale, if_neg hfull,
          if_neg (show ¬ (!ring.queue.enabled) = true from hdisabled),
          if_neg (show ¬ call.linkGeneration ≠ ring.queue.generation _ from hstale),
          if_neg hfull] at hqueue
        rw [if_neg hdisabled, if_neg hstale, if_neg hfull]
        refine .ok _ (by omega) rfl rfl ?_
        rw [hqueue]

/-- What the section of the drain can do. -/
inductive Dequeued (ring : InjectRing n Γ) : InjectRing n Γ × Option (InjectSlot n Γ × Bool) → Prop
  | empty : Dequeued ring (ring, none)
  | slot (ring' : InjectRing n Γ) (slot : InjectSlot n Γ) (hcount : ring'.count ≤ ring.count)
      (hgeneration : ring'.generation = ring.generation)
      (hframes : ring.queue.frames = slot.frame :: ring'.queue.frames) :
      Dequeued ring
        (ring', some (slot, decide (slot.linkGeneration = ring.generation slot.portIndex)))

theorem dequeue_effect : Dequeued ring ring.dequeue := by
  unfold dequeue
  by_cases hempty : ring.count = 0
  · rw [if_pos hempty]
    exact .empty
  · rw [if_neg hempty]
    apply Dequeued.slot
    · exact Nat.sub_le _ _
    · rfl
    · obtain ⟨count, hcount⟩ := Nat.exists_eq_succ_of_ne_zero hempty
      unfold queue
      dsimp only
      rw [hcount, Nat.succ_eq_add_one, Ring.contents_pop, List.map_cons, Nat.add_sub_cancel]

end InjectRing

end EspPtp
