import Mathlib.Logic.Function.Basic
import EspPtp.Message
import EspPtp.Wire.Buffer

/-!
# The queue of received Wi-Fi frames (`s_injected`)

The radio's receive callback copies a frame into a queue of eight, and only the daemon
takes it out. Both do so under `s_injected_lock`, but a call takes the lock **twice**: once
to read the link generation of its port, before the time stamp, and once to queue the frame
if the generation is still that one. The generation stays with the frame, and the daemon
compares it again.

A frame carries a `ghost`: what a run wants to remember of its capture and the code does
not keep. No function here looks at it. The ring buffer is the list of its frames.
-/

namespace EspPtp

/-- `PTP_INJECT_DEPTH`. -/
def ptpInjectDepth : Nat := 8

theorem ptpInjectDepth_pos : 0 < ptpInjectDepth := by decide

/-- What a call of `ptp_inject_received_frame_from` holds between its two sections. -/
structure InjectCall (n : Nat) (Γ : Type) where
  portIndex : Fin n
  linkGeneration : UInt32
  length : Nat
  message : Bytes
  sourceMac : Option MacAddr
  ghost : Γ
  deriving DecidableEq

/-- `struct ptp_injected_frame_s`. -/
structure InjectedFrame (n : Nat) (Γ : Type) extends InjectCall n Γ where
  received : Timespec
  deriving DecidableEq

/-- `s_injected` with its enabling flag, and `s_injected_generation`. -/
structure Injected (n : Nat) (Γ : Type) where
  enabled : Bool
  frames : List (InjectedFrame n Γ)
  generation : Fin n → UInt32

/-- What a call answers. -/
inductive InjectResult where
  | ok
  | einval
  | eio
  | esrch
  | estale
  | enobufs
  deriving DecidableEq, Repr

variable {n : Nat} {Γ : Type}

/-- The first section of `ptp_inject_received_frame_from`; `none` is `-EINVAL`. -/
def Injected.capture (queue : Injected n Γ) (port : Fin n) (message : Bytes)
    (sourceMac : Option MacAddr) (ghost : Γ) : Option (InjectCall n Γ) :=
  if message.length < 34 ∨ message.length > 256 then none
  else
    some
      { portIndex := port
        linkGeneration := queue.generation port
        length := message.length
        message := message
        sourceMac := sourceMac
        ghost := ghost }

/-- The second section of `ptp_inject_received_frame_from`. -/
def Injected.enqueue (queue : Injected n Γ) (call : InjectCall n Γ) (received : Timespec) :
    Injected n Γ × InjectResult :=
  if !queue.enabled then (queue, .esrch)
  else if call.linkGeneration ≠ queue.generation call.portIndex then (queue, .estale)
  else if queue.frames.length = ptpInjectDepth then (queue, .enobufs)
  else ({ queue with frames := queue.frames ++ [{ call with received := received }] }, .ok)

/-- The section of the drain: the oldest frame, and whether it is current. -/
def Injected.dequeue (queue : Injected n Γ) : Injected n Γ × Option (InjectedFrame n Γ × Bool) :=
  match queue.frames with
  | [] => (queue, none)
  | frame :: frames =>
    ({ queue with frames := frames },
      some (frame, decide (frame.linkGeneration = queue.generation frame.portIndex)))

/-- `++s_injected_generation[port]`. -/
def Injected.bump (queue : Injected n Γ) (port : Fin n) : Injected n Γ :=
  { queue with
    generation := Function.update queue.generation port (queue.generation port + 1) }

/-- The loop of `ptp_reset_for_profile` over all ports. -/
def Injected.bumpAll (queue : Injected n Γ) : Injected n Γ :=
  { queue with generation := fun port => queue.generation port + 1 }

/-- The section of `ptp_initialize_state`. -/
def Injected.start (queue : Injected n Γ) : Injected n Γ :=
  { queue.bumpAll with
    enabled := true
    frames := [] }

/-- The section after the daemon's loop. -/
def Injected.stop (queue : Injected n Γ) : Injected n Γ :=
  { queue.bumpAll with
    enabled := false
    frames := [] }

end EspPtp
