import EspPtp.Daemon.InjectRing
import EspPtp.Lib.History

/-!
# Runs of the queue of received frames

Producers, the daemon, and whoever bumps a link generation take the lock in any order, and a
producer takes it twice. The machine's steps are the sections, and a call between its two
sections is in `calls`.

What is asked is about frames, so a capture stamps its call: with a number of its own, with
the bumps of its port so far, and with how often a daemon was started or stopped. The code
compares a 32-bit generation instead, and that is the same as long as the count of bumps
does not come round.
-/

namespace EspPtp

open Lib

variable {n : Nat}

/-! ## The machine -/

/-- What a run remembers of a capture. -/
structure InjectStamp where
  number : Nat
  bumps : Nat
  sections : Nat
  deriving DecidableEq

structure InjectSystem (n : Nat) where
  ring : InjectRing n InjectStamp
  /-- Port 0's receive buffer and what goes with it. -/
  rx : RxScratch
  calls : List (InjectCall n InjectStamp)
  bumps : Fin n → Nat
  /-- How often a daemon was started or stopped. -/
  sections : Nat
  captures : Nat

inductive InjectEvent (n : Nat) where
  /-- A call of `ptp_inject_received_frame_from`, up to its first section. -/
  | capture (port : Fin n) (message : Bytes) (sourceMac : Option MacAddr)
  /-- The rest of a call; `none` is a clock that cannot be read. -/
  | finish (call : Nat) (received : Option Timespec)
  | bump (port : Fin n)
  | start
  | stop
  /-- One turn of the daemon's drain. -/
  | drain

inductive InjectAnswer (n : Nat) where
  | quiet
  | returned (call : InjectCall n InjectStamp) (received : Timespec) (result : InjectResult)
  | refused (result : InjectResult)
  | dropped (slot : InjectSlot n InjectStamp)
  | handed (slot : InjectSlot n InjectStamp) (frame : InjectHanded n)

namespace InjectSystem

variable (s : InjectSystem n)

def capture (port : Fin n) (message : Bytes) (sourceMac : Option MacAddr) :
    InjectSystem n × InjectAnswer n :=
  let stamp : InjectStamp := ⟨s.captures, s.bumps port, s.sections⟩
  match s.ring.capture port message sourceMac stamp with
  | none => (s, .refused .einval)
  | some call =>
    ({ s with
        calls := s.calls ++ [call]
        captures := s.captures + 1 }, .quiet)

def finish (index : Nat) (received : Option Timespec) : InjectSystem n × InjectAnswer n :=
  match s.calls[index]? with
  | none => (s, .quiet)
  | some call =>
    let s := { s with calls := s.calls.eraseIdx index }
    match received with
    | none => (s, .refused .eio)
    | some received =>
      let answer := s.ring.enqueue call received
      ({ s with ring := answer.1 }, .returned call received answer.2)

def drain : InjectSystem n × InjectAnswer n :=
  let taken := s.ring.dequeue
  match taken.2 with
  | none => (s, .quiet)
  | some (slot, current) =>
    if current then
      let frame := slot.handed s.rx
      ({ s with
          ring := taken.1
          rx := frame.scratch }, .handed slot frame)
    else ({ s with ring := taken.1 }, .dropped slot)

/-- The event and its answer. -/
def step : InjectEvent n → InjectSystem n × InjectAnswer n
  | .capture port message sourceMac => s.capture port message sourceMac
  | .finish call received => s.finish call received
  | .bump port =>
    ({ s with
        ring := s.ring.bump port
        bumps := Function.update s.bumps port (s.bumps port + 1) }, .quiet)
  | .start =>
    ({ s with
        ring := s.ring.start
        bumps := fun port => s.bumps port + 1
        sections := s.sections + 1 }, .quiet)
  | .stop =>
    ({ s with
        ring := s.ring.stop
        bumps := fun port => s.bumps port + 1
        sections := s.sections + 1 }, .quiet)
  | .drain => s.drain

end InjectSystem

/-- The step of a run, whose outcome is the system found and the answer. -/
def injectStep (s : InjectSystem n) (e : InjectEvent n) :
    InjectSystem n × InjectSystem n × InjectAnswer n :=
  ((s.step e).1, s, (s.step e).2)

/-- An event of a run, the system it found and the answer. -/
abbrev InjectVisit (n : Nat) := InjectEvent n × InjectSystem n × InjectAnswer n

/-! ## What is asked of a run -/

/-- The frame of an injection that returned zero. -/
def InjectAnswer.accepted : InjectAnswer n → Option (InjectedFrame n InjectStamp)
  | .returned call received .ok => some { call with received := received }
  | _ => none

/-- The frame that was handed to `ptp_process_rx_packet`. -/
def InjectAnswer.delivered : InjectAnswer n → Option (InjectHanded n)
  | .handed _ frame => some frame
  | _ => none

/-- The slot that was dequeued. -/
def InjectAnswer.dequeued : InjectAnswer n → Option (InjectSlot n InjectStamp)
  | .handed slot _ | .dropped slot => some slot
  | _ => none

def acceptedFrames (history : List (InjectVisit n)) : List (InjectedFrame n InjectStamp) :=
  history.filterMap fun x => x.2.2.accepted

def deliveredFrames (history : List (InjectVisit n)) : List (InjectHanded n) :=
  history.filterMap fun x => x.2.2.delivered

/-- The call was captured, with a true stamp. -/
def Captured (history : List (InjectVisit n)) (call : InjectCall n InjectStamp) : Prop :=
  ∃ x ∈ history, x.1 = .capture call.portIndex call.message call.sourceMac ∧
    call.ghost = ⟨x.2.1.captures, x.2.1.bumps call.portIndex, x.2.1.sections⟩

/-- What holds at every event: the depth is kept, only a full queue refuses a frame for want
    of room, and a frame is dropped exactly if its port was bumped since its capture. A frame
    handed on was captured after the last start or stop. -/
structure InjectSound (x : InjectVisit n) : Prop where
  depth : x.2.1.ring.count ≤ ptpInjectDepth
  full : ∀ call received, x.2.2 = .returned call received .enobufs →
    x.2.1.ring.count = ptpInjectDepth
  dropped : ∀ slot, x.2.2 = .dropped slot →
    slot.ghost.bumps < x.2.1.bumps slot.portIndex
  current : ∀ slot frame, x.2.2 = .handed slot frame →
    slot.ghost.bumps = x.2.1.bumps slot.portIndex ∧ slot.ghost.sections = x.2.1.sections

/-- **What the queue promises.** -/
structure InjectDelivers (history : List (InjectVisit n)) : Prop where
  /-- The frames handed on are among the accepted ones, in their order, and intact. -/
  inOrder : ∃ frames, frames.Sublist (acceptedFrames history) ∧
    List.Forall₂ Intact frames (deliveredFrames history)
  /-- Each call is accepted once. -/
  once : ((acceptedFrames history).map fun frame => frame.ghost.number).Nodup
  captured : ∀ frame ∈ acceptedFrames history, Captured history frame.toInjectCall
  /-- What is dropped was accepted, too. -/
  dequeued : ∀ x ∈ history, ∀ slot ∈ x.2.2.dequeued, slot.frame ∈ acceptedFrames history
  sound : ∀ x ∈ history, InjectSound x

/-- A dequeued frame's port was bumped fewer than `2 ^ 32` times since its capture. -/
def InjectInRound (x : InjectVisit n) : Prop :=
  ∀ slot ∈ x.2.2.dequeued, x.2.1.bumps slot.portIndex < slot.ghost.bumps + 2 ^ 32

/-! ## The invariant -/

/-- A capture's stamp is true: the generation it holds is that of its bumps, and a start or
    stop since has bumped its port. -/
structure Stamped (base : Fin n → UInt32) (bumps : Fin n → Nat) (sections : Nat)
    (call : InjectCall n InjectStamp) : Prop where
  length : call.length = call.message.length
  generation : call.linkGeneration = base call.portIndex + UInt32.ofNat call.ghost.bumps
  bumped : call.ghost.bumps ≤ bumps call.portIndex
  section_le : call.ghost.sections ≤ sections
  restarted : call.ghost.sections < sections → call.ghost.bumps < bumps call.portIndex

/-- The calls that are accepted, or still may be. -/
def callNumbers (history : List (InjectVisit n)) (s : InjectSystem n) : List Nat :=
  (acceptedFrames history).map (fun frame => frame.ghost.number) ++
    s.calls.map fun call => call.ghost.number

structure InjectInv (base : Fin n → UInt32) (history : List (InjectVisit n))
    (s : InjectSystem n) : Prop where
  count : s.ring.count ≤ ptpInjectDepth
  generation : ∀ p, s.ring.generation p = base p + UInt32.ofNat (s.bumps p)
  calls : ∀ call ∈ s.calls, Stamped base s.bumps s.sections call
  frames : ∀ frame ∈ s.ring.queue.frames, Stamped base s.bumps s.sections frame.toInjectCall
  held : ∀ call ∈ s.calls, Captured history call
  taken : ∀ frame ∈ acceptedFrames history, Captured history frame.toInjectCall
  inOrder : ∃ taken, (taken ++ s.ring.queue.frames).Sublist (acceptedFrames history) ∧
    List.Forall₂ Intact taken (deliveredFrames history)
  numbers : (callNumbers history s).Nodup
  fresh : ∀ number ∈ callNumbers history s, number < s.captures

/-- Two counts of bumps within a round have one generation only if they are the same. -/
theorem bumps_eq_of_generation {base : UInt32} {a b : Nat} (hle : a ≤ b) (hround : b < a + 2 ^ 32)
    (h : base + UInt32.ofNat a = base + UInt32.ofNat b) : a = b := by
  have hsame : UInt32.ofNat a = UInt32.ofNat b := (UInt32.add_right_inj base).mp h
  have hval := congrArg UInt32.toNat hsame
  rw [UInt32.toNat_ofNat', UInt32.toNat_ofNat'] at hval
  omega

section Inv

variable {base : Fin n → UInt32} {history : List (InjectVisit n)} {s s' : InjectSystem n}
  {x : InjectVisit n}

/-- Bumps keep the stamps true, if a start or stop bumps every port. -/
theorem Stamped.later {call : InjectCall n InjectStamp} (h : Stamped base s.bumps s.sections call)
    (hbumps : ∀ p, s.bumps p ≤ s'.bumps p) (hsections : s.sections ≤ s'.sections)
    (hrestarted : s.sections < s'.sections → ∀ p, s.bumps p < s'.bumps p) :
    Stamped base s'.bumps s'.sections call := by
  refine ⟨h.length, h.generation, h.bumped.trans (hbumps _), h.section_le.trans hsections, ?_⟩
  intro hlater
  by_cases hold : call.ghost.sections < s.sections
  · exact Nat.lt_of_lt_of_le (h.restarted hold) (hbumps _)
  · exact Nat.lt_of_le_of_lt h.bumped (hrestarted (by omega) _)

theorem Captured.snoc {call : InjectCall n InjectStamp} (h : Captured history call) :
    Captured (history ++ [x]) call := by
  obtain ⟨y, hy, hcapture⟩ := h
  exact ⟨y, List.mem_append_left _ hy, hcapture⟩

theorem acceptedFrames_snoc :
    acceptedFrames (history ++ [x]) = acceptedFrames history ++ x.2.2.accepted.toList := by
  unfold acceptedFrames
  rw [List.filterMap_append]
  cases haccepted : x.2.2.accepted <;> simp [haccepted]

theorem deliveredFrames_snoc :
    deliveredFrames (history ++ [x]) = deliveredFrames history ++ x.2.2.delivered.toList := by
  unfold deliveredFrames
  rw [List.filterMap_append]
  cases hdelivered : x.2.2.delivered <;> simp [hdelivered]

/-- A quiet event that keeps the calls and leaves at most what was in the queue. -/
theorem InjectInv.quiet (h : InjectInv base history s) (haccepted : x.2.2.accepted = none)
    (hdelivered : x.2.2.delivered = none) (hcount : s'.ring.count ≤ ptpInjectDepth)
    (hgeneration : ∀ p, s'.ring.generation p = base p + UInt32.ofNat (s'.bumps p))
    (hcalls : s'.calls.Sublist s.calls) (hcaptures : s'.captures = s.captures)
    (hframes : s'.ring.queue.frames.Sublist s.ring.queue.frames)
    (hbumps : ∀ p, s.bumps p ≤ s'.bumps p) (hsections : s.sections ≤ s'.sections)
    (hrestarted : s.sections < s'.sections → ∀ p, s.bumps p < s'.bumps p) :
    InjectInv base (history ++ [x]) s' := by
  have hsame : acceptedFrames (history ++ [x]) = acceptedFrames history := by
    rw [acceptedFrames_snoc, haccepted]
    simp
  have hnumbers : (callNumbers (history ++ [x]) s').Sublist (callNumbers history s) := by
    unfold callNumbers
    rw [hsame]
    exact (List.Sublist.refl _).append (hcalls.map _)
  refine ⟨hcount, hgeneration, ?_, ?_, ?_, ?_, ?_, h.numbers.sublist hnumbers, ?_⟩
  · intro call hcall
    exact (h.calls call (hcalls.subset hcall)).later hbumps hsections hrestarted
  · intro frame hframe
    exact (h.frames frame (hframes.subset hframe)).later hbumps hsections hrestarted
  · intro call hcall
    exact (h.held call (hcalls.subset hcall)).snoc
  · intro frame hframe
    rw [hsame] at hframe
    exact (h.taken frame hframe).snoc
  · obtain ⟨taken, horder, hintact⟩ := h.inOrder
    refine ⟨taken, ?_, ?_⟩
    · rw [hsame]
      exact ((List.Sublist.refl taken).append hframes).trans horder
    · rw [deliveredFrames_snoc, hdelivered]
      simpa using hintact
  · intro number hnumber
    rw [hcaptures]
    exact h.fresh number (hnumbers.subset hnumber)

/-! ## One event -/

/-- An event that takes nothing from the queue and does not refuse for want of room. -/
theorem InjectSound.of_quiet (hcount : x.2.1.ring.count ≤ ptpInjectDepth)
    (hdequeued : x.2.2.dequeued = none)
    (hfull : ∀ call received, x.2.2 ≠ .returned call received .enobufs) : InjectSound x := by
  refine ⟨hcount, ?_, ?_, ?_⟩
  · intro call received hanswer
    exact absurd hanswer (hfull call received)
  · intro slot hanswer
    rw [hanswer] at hdequeued
    cases hdequeued
  · intro slot frame hanswer
    rw [hanswer] at hdequeued
    cases hdequeued

/-- A capture takes a number of its own. -/
theorem InjectInv.captured (h : InjectInv base history s) {call : InjectCall n InjectStamp}
    (hcall : Stamped base s.bumps s.sections call) (hnumber : call.ghost.number = s.captures)
    (hcaptured : Captured (history ++ [x]) call)
    (haccepted : x.2.2.accepted = none) (hdelivered : x.2.2.delivered = none) :
    InjectInv base (history ++ [x])
      { s with
        calls := s.calls ++ [call]
        captures := s.captures + 1 } := by
  have hsame : acceptedFrames (history ++ [x]) = acceptedFrames history := by
    rw [acceptedFrames_snoc, haccepted]
    simp
  have hnumbers : callNumbers (history ++ [x])
      { s with
        calls := s.calls ++ [call]
        captures := s.captures + 1 } = callNumbers history s ++ [s.captures] := by
    unfold callNumbers
    rw [hsame, List.map_append, List.map_singleton, hnumber, List.append_assoc]
  refine ⟨h.count, h.generation, ?_, h.frames, ?_, ?_, ?_, ?_, ?_⟩
  · intro other hother
    rcases List.mem_append.mp hother with hold | hnew
    · exact h.calls other hold
    · rw [List.mem_singleton.mp hnew]
      exact hcall
  · intro other hother
    rcases List.mem_append.mp hother with hold | hnew
    · exact (h.held other hold).snoc
    · rw [List.mem_singleton.mp hnew]
      exact hcaptured
  · intro frame hframe
    rw [hsame] at hframe
    exact (h.taken frame hframe).snoc
  · obtain ⟨taken, horder, hintact⟩ := h.inOrder
    refine ⟨taken, ?_, ?_⟩
    · rw [hsame]
      exact horder
    · rw [deliveredFrames_snoc, hdelivered]
      simpa using hintact
  · rw [hnumbers]
    apply h.numbers.append (List.nodup_singleton _)
    intro number hold hnew
    have hlt := h.fresh number hold
    rw [List.mem_singleton.mp hnew] at hlt
    exact Nat.lt_irrefl _ hlt
  · intro number hmem
    rw [hnumbers] at hmem
    rcases List.mem_append.mp hmem with hold | hnew
    · exact Nat.lt_succ_of_lt (h.fresh number hold)
    · rw [List.mem_singleton.mp hnew]
      exact Nat.lt_succ_self _

/-- A call that returns zero puts its frame at the end of the queue and of what was accepted,
    and its number with them. -/
theorem InjectInv.accepted (h : InjectInv base history s) {index : Nat}
    {call : InjectCall n InjectStamp} (hcall : s.calls[index]? = some call) {received : Timespec}
    {ring' : InjectRing n InjectStamp} (hcount : ring'.count ≤ ptpInjectDepth)
    (hgeneration : ring'.generation = s.ring.generation)
    (hframes : ring'.queue.frames = s.ring.queue.frames ++ [{ call with received := received }])
    (haccepted : x.2.2.accepted = some { call with received := received })
    (hdelivered : x.2.2.delivered = none) :
    InjectInv base (history ++ [x])
      { s with
        ring := ring'
        calls := s.calls.eraseIdx index } := by
  obtain ⟨hindex, hget⟩ := List.getElem?_eq_some_iff.mp hcall
  have hmore : acceptedFrames (history ++ [x]) =
      acceptedFrames history ++ [{ call with received := received }] := by
    rw [acceptedFrames_snoc, haccepted]
    rfl
  have hnumbers : (callNumbers (history ++ [x])
      { s with
        ring := ring'
        calls := s.calls.eraseIdx index }).Perm (callNumbers history s) := by
    unfold callNumbers
    rw [hmore, List.map_append, List.map_singleton, List.append_assoc]
    apply List.Perm.append_left
    have hmoved := (List.getElem_cons_eraseIdx_perm hindex).map fun call => call.ghost.number
    rw [hget] at hmoved
    exact hmoved
  refine ⟨hcount, ?_, ?_, ?_, ?_, ?_, ?_, hnumbers.nodup_iff.mpr h.numbers, ?_⟩
  · intro p
    rw [hgeneration]
    exact h.generation p
  · intro other hother
    exact h.calls other (List.mem_of_mem_eraseIdx hother)
  · intro frame hframe
    rw [hframes] at hframe
    rcases List.mem_append.mp hframe with hold | hnew
    · exact h.frames frame hold
    · rw [List.mem_singleton.mp hnew]
      exact h.calls call (List.mem_of_getElem? hcall)
  · intro other hother
    exact (h.held other (List.mem_of_mem_eraseIdx hother)).snoc
  · intro frame hframe
    rw [hmore] at hframe
    rcases List.mem_append.mp hframe with hold | hnew
    · exact (h.taken frame hold).snoc
    · rw [List.mem_singleton.mp hnew]
      exact (h.held call (List.mem_of_getElem? hcall)).snoc
  · obtain ⟨taken, horder, hintact⟩ := h.inOrder
    refine ⟨taken, ?_, ?_⟩
    · rw [hmore, hframes, ← List.append_assoc]
      exact horder.append (List.Sublist.refl _)
    · rw [deliveredFrames_snoc, hdelivered]
      simpa using hintact
  · intro number hmem
    exact h.fresh number (hnumbers.subset hmem)

/-- A frame that is handed on moves from the queue to what was delivered. -/
theorem InjectInv.handed (h : InjectInv base history s) {slot : InjectSlot n InjectStamp}
    {ring' : InjectRing n InjectStamp} (hcount : ring'.count ≤ s.ring.count)
    (hgeneration : ring'.generation = s.ring.generation)
    (hframes : s.ring.queue.frames = slot.frame :: ring'.queue.frames) {rx : RxScratch}
    (haccepted : x.2.2.accepted = none)
    (hdelivered : x.2.2.delivered = some (slot.handed s.rx)) :
    InjectInv base (history ++ [x])
      { s with
        ring := ring'
        rx := rx } := by
  have hsame : acceptedFrames (history ++ [x]) = acceptedFrames history := by
    rw [acceptedFrames_snoc, haccepted]
    simp
  have hnumbers : callNumbers (history ++ [x])
      { s with
        ring := ring'
        rx := rx } = callNumbers history s := by
    unfold callNumbers
    rw [hsame]
  have hfirst : slot.frame ∈ s.ring.queue.frames := by
    rw [hframes]
    exact List.mem_cons_self
  refine ⟨hcount.trans h.count, ?_, h.calls, ?_, fun call hcall => (h.held call hcall).snoc, ?_, ?_,
    ?_, ?_⟩
  · intro p
    rw [hgeneration]
    exact h.generation p
  · intro frame hframe
    apply h.frames
    rw [hframes]
    exact List.mem_cons_of_mem _ hframe
  · intro frame hframe
    rw [hsame] at hframe
    exact (h.taken frame hframe).snoc
  · obtain ⟨taken, horder, hintact⟩ := h.inOrder
    refine ⟨taken ++ [slot.frame], ?_, ?_⟩
    · rw [hsame, List.append_assoc]
      rw [hframes] at horder
      exact horder
    · rw [deliveredFrames_snoc, hdelivered]
      apply List.rel_append hintact
      exact .cons (InjectSlot.intact (h.frames _ hfirst).length _) .nil
  · rw [hnumbers]
    exact h.numbers
  · rw [hnumbers]
    exact h.fresh

/-- A stamp that holds the generation of now holds the bumps of now. -/
theorem InjectInv.bumps_eq (h : InjectInv base history s) {call : InjectCall n InjectStamp}
    (hcall : Stamped base s.bumps s.sections call)
    (hround : s.bumps call.portIndex < call.ghost.bumps + 2 ^ 32)
    (hsame : call.linkGeneration = s.ring.generation call.portIndex) :
    call.ghost.bumps = s.bumps call.portIndex := by
  rw [hcall.generation, h.generation] at hsame
  exact bumps_eq_of_generation hcall.bumped hround hsame

/-- A start or stop bumps every port. -/
theorem InjectInv.allBumped (h : InjectInv base history s) (p : Fin n) :
    s.ring.generation p + 1 = base p + UInt32.ofNat (s.bumps p + 1) := by
  rw [h.generation, UInt32.ofNat_add, UInt32.add_assoc]
  rfl

/-- A quiet event that bumps nothing. -/
theorem InjectInv.kept (h : InjectInv base history s) (haccepted : x.2.2.accepted = none)
    (hdelivered : x.2.2.delivered = none) {ring' : InjectRing n InjectStamp}
    {calls : List (InjectCall n InjectStamp)} (hcount : ring'.count ≤ s.ring.count)
    (hgeneration : ring'.generation = s.ring.generation) (hcalls : calls.Sublist s.calls)
    (hframes : ring'.queue.frames.Sublist s.ring.queue.frames) :
    InjectInv base (history ++ [x])
      { s with
        ring := ring'
        calls := calls } := by
  refine h.quiet haccepted hdelivered (hcount.trans h.count) ?_ hcalls rfl hframes
    (fun _ => le_rfl) le_rfl ?_
  · intro p
    show ring'.generation p = _
    rw [hgeneration]
    exact h.generation p
  · exact fun hlater => absurd hlater (lt_irrefl _)

/-- What a capture keeps, and what holds at it. -/
theorem InjectInv.capture (h : InjectInv base history s) (port : Fin n) (message : Bytes)
    (sourceMac : Option MacAddr) :
    InjectInv base (history ++
          [(.capture port message sourceMac, s, (s.capture port message sourceMac).2)])
        (s.capture port message sourceMac).1 ∧
      InjectSound (.capture port message sourceMac, s,
        (s.capture port message sourceMac).2) := by
  unfold InjectSystem.capture InjectRing.capture
  dsimp only
  by_cases hlength : message.length < 34 ∨ message.length > 256
  · rw [if_pos hlength]
    exact ⟨h.kept rfl rfl le_rfl rfl (.refl _) (.refl _), .of_quiet h.count rfl (by simp)⟩
  · rw [if_neg hlength]
    refine ⟨h.captured ?_ rfl ?_ rfl rfl, .of_quiet h.count rfl (by simp)⟩
    · exact ⟨rfl, h.generation port, le_rfl, le_rfl, fun hlater => absurd hlater (lt_irrefl _)⟩
    · exact ⟨_, List.mem_append_right _ List.mem_cons_self, rfl, rfl⟩

/-- What the rest of a call keeps, and what holds at it. -/
theorem InjectInv.finish (h : InjectInv base history s) (index : Nat) (received : Option Timespec)
    (e : InjectEvent n) :
    InjectInv base (history ++ [(e, s, (s.finish index received).2)])
        (s.finish index received).1 ∧
      InjectSound (e, s, (s.finish index received).2) := by
  unfold InjectSystem.finish
  cases hcall : s.calls[index]? with
  | none =>
    exact ⟨h.kept rfl rfl le_rfl rfl (.refl _) (.refl _), .of_quiet h.count rfl (by simp)⟩
  | some call =>
    have hleaves : (s.calls.eraseIdx index).Sublist s.calls := List.eraseIdx_sublist _ _
    cases received with
    | none => exact ⟨h.kept rfl rfl le_rfl rfl hleaves (.refl _), .of_quiet h.count rfl (by simp)⟩
    | some received =>
      have hlength := (h.calls call (List.mem_of_getElem? hcall)).length
      have heffect := InjectRing.enqueue_effect hlength h.count received
      dsimp only
      generalize s.ring.enqueue call received = answer at heffect
      cases heffect with
      | refused result hnot hfull =>
        refine ⟨h.kept ?_ rfl le_rfl rfl hleaves (.refl _), h.count, ?_, by simp, by simp⟩
        · cases result <;> first | rfl | exact absurd rfl hnot
        · intro call' received' hanswer
          cases hanswer
          exact hfull rfl
      | ok ring' hroom hcount hgeneration hframes =>
        have hdepth : ring'.count ≤ ptpInjectDepth := by omega
        exact ⟨h.accepted hcall hdepth hgeneration hframes rfl rfl,
          .of_quiet h.count rfl (by simp)⟩

/-- What a turn of the drain keeps, and what holds at it. -/
theorem InjectInv.drain (h : InjectInv base history s) (e : InjectEvent n)
    (hround : InjectInRound (e, s, s.drain.2)) :
    InjectInv base (history ++ [(e, s, s.drain.2)]) s.drain.1 ∧
      InjectSound (e, s, s.drain.2) := by
  have heffect : InjectRing.Dequeued s.ring s.ring.dequeue := InjectRing.dequeue_effect
  unfold InjectSystem.drain at hround ⊢
  dsimp only at hround ⊢
  generalize s.ring.dequeue = taken at heffect hround ⊢
  cases heffect with
  | empty =>
    exact ⟨h.kept rfl rfl le_rfl rfl (.refl _) (.refl _), .of_quiet h.count rfl (by simp)⟩
  | slot ring' slot hcount hgeneration hframes =>
    have hstamped : Stamped base s.bumps s.sections slot.frame.toInjectCall := by
      apply h.frames
      rw [hframes]
      exact List.mem_cons_self
    by_cases hcurrent : slot.linkGeneration = s.ring.generation slot.portIndex
    · simp only [decide_eq_true hcurrent, if_true] at hround ⊢
      have hbumps := h.bumps_eq hstamped (hround slot rfl) hcurrent
      refine ⟨h.handed hcount hgeneration hframes rfl rfl, h.count, by simp, by simp, ?_⟩
      intro slot' frame hanswer
      cases hanswer
      refine ⟨hbumps, le_antisymm hstamped.section_le ?_⟩
      by_contra hlater
      exact absurd hbumps (Nat.ne_of_lt (hstamped.restarted (not_le.mp hlater)))
    · simp only [decide_eq_false hcurrent, Bool.false_eq_true, if_false] at hround ⊢
      refine ⟨h.kept rfl rfl hcount hgeneration (.refl _) ?_, h.count, by simp, ?_, by simp⟩
      · rw [hframes]
        exact List.sublist_cons_self _ _
      · intro slot' hanswer
        cases hanswer
        apply lt_of_le_of_ne hstamped.bumped
        intro heq
        apply hcurrent
        have hheld := hstamped.generation
        rw [heq] at hheld
        rw [h.generation]
        exact hheld

/-- One event keeps the invariant, and does what is asked. -/
theorem InjectInv.step (h : InjectInv base history s) (e : InjectEvent n)
    (hround : InjectInRound (e, (injectStep s e).2)) :
    InjectInv base (history ++ [(e, (injectStep s e).2)]) (injectStep s e).1 ∧
      InjectSound (e, (injectStep s e).2) := by
  cases e with
  | capture port message sourceMac => exact h.capture port message sourceMac
  | finish call received => exact h.finish call received _
  | drain => exact h.drain _ hround
  | bump port =>
    refine ⟨?_, .of_quiet h.count rfl (by simp [injectStep, InjectSystem.step])⟩
    refine h.quiet rfl rfl h.count ?_ (.refl _) rfl (.refl _) ?_ le_rfl ?_
    · intro p
      show Function.update s.ring.generation port (s.ring.generation port + 1) p =
        base p + UInt32.ofNat (Function.update s.bumps port (s.bumps port + 1) p)
      by_cases hp : p = port
      · subst hp
        rw [Function.update_self, Function.update_self]
        exact h.allBumped p
      · rw [Function.update_of_ne hp, Function.update_of_ne hp]
        exact h.generation p
    · intro p
      show s.bumps p ≤ Function.update s.bumps port (s.bumps port + 1) p
      by_cases hp : p = port
      · subst hp
        rw [Function.update_self]
        exact Nat.le_succ _
      · rw [Function.update_of_ne hp]
    · exact fun hlater => absurd hlater (lt_irrefl _)
  | start =>
    refine ⟨?_, .of_quiet h.count rfl (by simp [injectStep, InjectSystem.step])⟩
    refine h.quiet rfl rfl (Nat.zero_le _) h.allBumped (.refl _) rfl (List.nil_sublist _)
      (fun _ => Nat.le_succ _) (Nat.le_succ _) ?_
    exact fun _ _ => Nat.lt_succ_self _
  | stop =>
    refine ⟨?_, .of_quiet h.count rfl (by simp [injectStep, InjectSystem.step])⟩
    refine h.quiet rfl rfl (Nat.zero_le _) h.allBumped (.refl _) rfl (List.nil_sublist _)
      (fun _ => Nat.le_succ _) (Nat.le_succ _) ?_
    exact fun _ _ => Nat.lt_succ_self _

/-- What was dequeued now was accepted. -/
theorem InjectInv.dequeued (h : InjectInv base history s) (e : InjectEvent n) :
    ∀ slot ∈ (injectStep s e).2.2.dequeued, slot.frame ∈ acceptedFrames history := by
  intro slot hslot
  obtain ⟨taken, horder, -⟩ := h.inOrder
  apply horder.subset
  apply List.mem_append_right
  cases e with
  | drain =>
    have heffect : InjectRing.Dequeued s.ring s.ring.dequeue := InjectRing.dequeue_effect
    unfold injectStep InjectSystem.step InjectSystem.drain at hslot
    dsimp only at hslot
    generalize s.ring.dequeue = answer at heffect hslot
    cases heffect with
    | empty => cases hslot
    | slot ring' found hcount hgeneration hframes =>
      have hfound : found = slot := by
        by_cases hcurrent : found.linkGeneration = s.ring.generation found.portIndex
        · simp only [decide_eq_true hcurrent, if_true] at hslot
          exact Option.some.inj hslot
        · simp only [decide_eq_false hcurrent, Bool.false_eq_true, if_false] at hslot
          exact Option.some.inj hslot
      rw [hframes, hfound]
      exact List.mem_cons_self
  | capture port message sourceMac =>
    unfold injectStep InjectSystem.step InjectSystem.capture at hslot
    dsimp only at hslot
    split at hslot <;> cases hslot
  | finish call received =>
    unfold injectStep InjectSystem.step InjectSystem.finish at hslot
    dsimp only at hslot
    split at hslot
    · cases hslot
    · split at hslot <;> cases hslot
  | bump | start | stop => cases hslot

end Inv

/-! ## Every run -/

/-- A queue with nothing in it, and nobody about to put a frame in. -/
def InjectSystem.Idle (s : InjectSystem n) : Prop := s.ring.count = 0 ∧ s.calls = []

/-- What a run keeps. -/
structure InjectKeeps (base : Fin n → UInt32) (history : List (InjectVisit n))
    (s : InjectSystem n) : Prop where
  inv : InjectInv base history s
  sound : ∀ x ∈ history, InjectSound x
  dequeued : ∀ x ∈ history, ∀ slot ∈ x.2.2.dequeued, slot.frame ∈ acceptedFrames history

theorem InjectKeeps.start {s₀ : InjectSystem n} (h : s₀.Idle) :
    InjectKeeps (fun p => s₀.ring.generation p - UInt32.ofNat (s₀.bumps p)) [] s₀ := by
  obtain ⟨hcount, hcalls⟩ := h
  have hframes : s₀.ring.queue.frames = [] := by
    apply List.eq_nil_of_length_eq_zero
    rw [InjectRing.queue_length, hcount]
  refine ⟨⟨by omega, ?_, ?_, ?_, ?_, ?_, ⟨[], ?_, .nil⟩, ?_, ?_⟩, by simp, by simp⟩
  · intro p
    rw [UInt32.sub_add_cancel]
  · simp [hcalls]
  · simp [hframes]
  · simp [hcalls]
  · simp [acceptedFrames]
  · simp [hframes]
  · simp [callNumbers, acceptedFrames, hcalls]
  · simp [callNumbers, acceptedFrames, hcalls]

theorem InjectKeeps.step {base : Fin n → UInt32} {history : List (InjectVisit n)}
    {s : InjectSystem n} (h : InjectKeeps base history s) (e : InjectEvent n)
    (hround : InjectInRound (e, (injectStep s e).2)) :
    InjectKeeps base (history ++ [(e, (injectStep s e).2)]) (injectStep s e).1 := by
  obtain ⟨hinv, hsound⟩ := h.inv.step e hround
  have hmore : ∀ frame ∈ acceptedFrames history,
      frame ∈ acceptedFrames (history ++ [(e, (injectStep s e).2)]) := by
    intro frame hframe
    rw [acceptedFrames_snoc]
    exact List.mem_append_left _ hframe
  refine ⟨hinv, ?_, ?_⟩
  · intro x hx
    rcases List.mem_append.mp hx with hold | hnew
    · exact h.sound x hold
    · rw [List.mem_singleton.mp hnew]
      exact hsound
  · intro x hx slot hslot
    apply hmore
    rcases List.mem_append.mp hx with hold | hnew
    · exact h.dequeued x hold slot hslot
    · rw [List.mem_singleton.mp hnew] at hslot
      exact h.inv.dequeued e slot hslot

theorem InjectKeeps.delivers {base : Fin n → UInt32} {history : List (InjectVisit n)}
    {s : InjectSystem n} (h : InjectKeeps base history s) : InjectDelivers history := by
  obtain ⟨taken, horder, hintact⟩ := h.inv.inOrder
  refine ⟨⟨taken, (List.sublist_append_left _ _).trans horder, hintact⟩, ?_, h.inv.taken,
    h.dequeued, h.sound⟩
  exact h.inv.numbers.sublist (List.sublist_append_left _ _)

/-- **In every run, the daemon is handed what was accepted, in order, once and intact, but for
    what was bumped or cleared since.** -/
theorem injected_delivers (s₀ : InjectSystem n) (hidle : s₀.Idle) (events : List (InjectEvent n))
    (hround : ∀ x ∈ trace injectStep s₀ events, InjectInRound x) :
    InjectDelivers (trace injectStep s₀ events) ∧
      (run injectStep s₀ events).ring.count ≤ ptpInjectDepth := by
  have hrun : InjectKeeps (fun p => s₀.ring.generation p - UInt32.ofNat (s₀.bumps p))
      (trace injectStep s₀ events) (run injectStep s₀ events) := by
    apply run_induction_while fun history => ∀ x ∈ history, InjectInRound x
    · intro history x hgood y hy
      exact hgood y (List.mem_append_left _ hy)
    · exact .start hidle
    · intro history s e hgood h
      exact h.step e (hgood _ (List.mem_append_right _ List.mem_cons_self))
    · exact hround
  exact ⟨hrun.delivers, hrun.inv.count⟩

instance (x : InjectVisit n) : Decidable (InjectInRound x) :=
  inferInstanceAs (Decidable (∀ slot ∈ x.2.2.dequeued, _))

namespace Sample

/-- Before a daemon starts. -/
def injectBoot : InjectSystem 2 where
  ring :=
    { slots := Vector.replicate ptpInjectDepth ⟨0, 0, 0, Vector.replicate 6 0, false, default, [],
        ⟨0, 0, 0⟩⟩
      head := ⟨0, ptpInjectDepth_pos⟩
      count := 0
      generation := fun _ => 0
      enabled := false }
  rx := default
  calls := []
  bumps := fun _ => 0
  sections := 0
  captures := 0

/-- Two calls overtake each other, and the port of one is bumped before the daemon comes. -/
def injectRace : List (InjectEvent 2) :=
  [.start, .capture 0 (List.replicate 40 7) none, .capture 1 (List.replicate 44 9) none,
    .finish 1 (some ⟨3, 5⟩), .finish 0 (some ⟨3, 6⟩), .bump 1, .drain, .drain, .drain]

end Sample

/-- One of two frames is handed on, the other is dropped. -/
theorem injected_delivers_race :
    InjectDelivers (trace injectStep Sample.injectBoot Sample.injectRace) ∧
      (acceptedFrames (trace injectStep Sample.injectBoot Sample.injectRace)).map
        (fun frame => frame.ghost.number) = [1, 0] ∧
      (deliveredFrames (trace injectStep Sample.injectBoot Sample.injectRace)).map
        (fun frame => (frame.ingress, frame.length)) = [(0, 40)] := by
  refine ⟨(injected_delivers Sample.injectBoot ⟨rfl, rfl⟩ Sample.injectRace ?_).1,
    by decide +kernel, by decide +kernel⟩
  decide +kernel

end EspPtp
