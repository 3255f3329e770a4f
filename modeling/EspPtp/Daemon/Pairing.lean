import EspPtp.Daemon.ClockCalls

/-!
# Two-step pairing

A two-step Sync waits in port 0 for its Follow_Up, through whatever happens to the selected
source in between. The Follow_Up is compared with the Sync that waits, not with the selected
source; that it nevertheless belongs to the source selected now is the work of every
function that changes the source.

The invariant `PairingInv` says where a waiting Sync comes from, and that it is of the
selected port as long as there is a selected source at all: a source that was dropped or
reset is a zeroed message, whose type is not Announce, and only an Announce brings another.
-/

namespace EspPtp

open Lib

variable {F : Type} [CDouble F] {n : Nat}

/-- The Sync was received in this event, two-step, from the port selected then. -/
structure StoresSync (cfg : Config) (sync : PendingSync) (frame : RxFrame n) (s : PtpState F n) :
    Prop where
  handled : frame.handled cfg s = .sync sync.packet
  twoStep : sync.packet.header.isTwoStep = true
  valid : s.selectedSourceValid = true
  source : sync.packet.header.sourcePort = s.selectedSource.header.sourcePort
  rxtime : sync.rxtime = frame.scratch.rxtime
  receivedUs : sync.receivedUs = frame.reads.sync.receivedUs

/-- No Sync of the selected source was processed in this event, and the clock not updated. -/
def LeavesSync (cfg : Config) (x : Visit F n) : Prop :=
  ∀ frame, x.1 = .received frame →
    (∀ msg, frame.handled cfg x.2 ≠ .sync msg) ∧ frame.update cfg x.2 = none

/-- This Sync was the last one processed, and it was not used since. -/
def LastSync (cfg : Config) (sync : PendingSync) (history : List (Visit F n)) : Prop :=
  Since (fun _ x => ∃ frame, x.1 = .received frame ∧ StoresSync cfg sync frame x.2)
    (LeavesSync cfg) history

/-- The update of the clock for a Follow_Up, in state `s` after `history`, uses this Sync. -/
structure Pairs (cfg : Config) (history : List (Visit F n)) (s : PtpState F n)
    (frame : RxFrame n) (u : ClockUpdate F n) (sync : PendingSync) : Prop where
  last : LastSync cfg sync history
  follows : Follows (PtpFollowUp.read frame.scratch.rxbuf) sync frame.reads.followup.nowUs
  valid : s.selectedSourceValid = true
  source : s.selectedSource.header.sourcePort = sync.packet.header.sourcePort
  remote : u.call.remote =
    ptpFormatToTimespec (PtpFollowUp.read frame.scratch.rxbuf).origintimestamp
  localTime : u.call.localTime = sync.rxtime

/-! ## The invariant -/

structure PairingInv (cfg : Config) (history : List (Visit F n)) (v : SourceView) : Prop where
  announced : v.valid = true → v.source.IsAnnounce
  waiting : ∀ sync, v.pending = some sync → LastSync cfg sync history
  current : ∀ sync, v.pending = some sync → v.source.IsAnnounce →
    sync.packet.header.sourcePort = v.source.header.sourcePort

namespace PairingInv

variable {cfg : Config} {history : List (Visit F n)} {v v' : SourceView} {x : Visit F n}

/-- An event that is no frame. -/
theorem leavesSync {e : DaemonEvent F n} (s : PtpState F n)
    (h : ∀ frame, e ≠ .received frame) : LeavesSync cfg (e, s) := by
  intro frame hframe
  exact absurd hframe (h frame)

/-- An event that leaves the waiting Sync alone keeps the invariant if it keeps the selected
    port, or zeroes it. -/
theorem snoc (h : PairingInv cfg history v) (hleaves : LeavesSync cfg x)
    (hpending : v'.pending = v.pending ∨ v'.pending = none)
    (hvalid : v'.valid = true → v'.source.IsAnnounce)
    (hsource : v'.source.IsAnnounce → v'.pending = none ∨
      v.source.IsAnnounce ∧ v'.source.header.sourcePort = v.source.header.sourcePort) :
    PairingInv cfg (history ++ [x]) v' := by
  have hwas : ∀ sync, v'.pending = some sync → v.pending = some sync := by
    intro sync hsync
    rcases hpending with hsame | hnone
    · rw [← hsame]
      exact hsync
    · rw [hnone] at hsync
      cases hsync
  refine ⟨hvalid, fun sync hsync => (h.waiting sync (hwas sync hsync)).snoc hleaves, ?_⟩
  intro sync hsync hannounce
  rcases hsource hannounce with hnone | ⟨hbefore, hport⟩
  · rw [hnone] at hsync
    cases hsync
  · rw [hport]
    exact h.current sync (hwas sync hsync) hbefore

/-- Nothing about the source changed. -/
theorem kept (h : PairingInv cfg history v) (hleaves : LeavesSync cfg x)
    (hkept : SelectionKept v v') : PairingInv cfg (history ++ [x]) v' := by
  apply h.snoc hleaves (.inl hkept.pending)
  · rw [hkept.valid, hkept.source]
    exact h.announced
  · rw [hkept.source]
    intro hannounce
    exact .inr ⟨hannounce, rfl⟩

theorem profileEffect (h : PairingInv cfg history v) (hleaves : LeavesSync cfg x)
    (heffect : ProfileEffect v v') : PairingInv cfg (history ++ [x]) v' := by
  rcases heffect with rfl | ⟨profile, rfl⟩
  · exact h.kept hleaves .rfl
  · apply h.snoc hleaves (.inr rfl)
    · intro hvalid
      cases hvalid
    · intro hannounce
      exact absurd hannounce not_isAnnounce_default

/-- Each of the things a frame can do. -/
theorem received {s : PtpState F n} {frame : RxFrame n} (h : PairingInv cfg history s.view)
    (heffect : RxEffect s.view v' frame.scratch.rxtime frame.reads (frame.handled cfg s)) :
    PairingInv cfg (history ++ [(.received frame, s)]) v' := by
  have hleaves : (∀ msg, frame.handled cfg s ≠ .sync msg) →
      (∀ msg, frame.handled cfg s ≠ .followUp msg) →
      LeavesSync cfg ((.received frame, s) : Visit F n) := by
    intro hsync hfollowUp other hother
    cases hother
    exact ⟨hsync, rxClockUpdate_none hsync hfollowUp⟩
  generalize hhandled : frame.handled cfg s = handled at heffect
  have hnone : ∀ w : SourceView, (w.pending = none) → (w.valid = true → w.source.IsAnnounce) →
      PairingInv cfg (history ++ [(.received frame, s)]) w := by
    intro w hpending hannounced
    refine ⟨hannounced, ?_, ?_⟩ <;>
    · intro sync hsync
      rw [hpending] at hsync
      cases hsync
  cases heffect with
  | kept heq =>
    rw [heq]
    exact h.kept (hleaves (by simp [hhandled]) (by simp [hhandled])) .rfl
  | cleared heq =>
    rw [heq]
    exact hnone _ rfl h.announced
  | dropped heq =>
    rw [heq]
    refine h.snoc (hleaves (by simp [hhandled]) (by simp [hhandled])) (.inl ?_) ?_ ?_
    · rfl
    · intro hvalid
      cases hvalid
    · intro hannounce
      exact absurd hannounce not_isAnnounce_default
  | accepted msg receipt changed htype hreceipt hchanged heq =>
    rw [heq]
    cases changed with
    | true => exact hnone _ rfl fun _ => htype
    | false =>
      -- The same port announces itself again.
      obtain ⟨hvalid, hport⟩ := hchanged rfl
      refine h.snoc (hleaves (by simp [hhandled]) (by simp [hhandled])) (.inl ?_) ?_ ?_
      · rfl
      · intro _
        exact htype
      · intro _
        exact .inr ⟨h.announced hvalid, hport⟩
  | waits msg hvalid hport htwo heq =>
    rw [heq]
    refine ⟨h.announced, ?_, ?_⟩
    · intro sync hsync
      cases hsync
      exact .now ⟨frame, rfl, hhandled, htwo, hvalid, hport, rfl, rfl⟩
    · intro sync hsync _
      cases hsync
      exact hport
  | stepped msg hvalid hport htwo hupdated =>
    have hkept := hupdated.selectionKept
    apply hnone _ hkept.pending
    rw [hkept.valid, hkept.source]
    exact h.announced
  | followed msg sync receipt timing hvalid hpending hfollows hreceipt htiming heq =>
    rw [heq]
    exact hnone _ rfl h.announced

end PairingInv

/-- One event keeps the invariant. -/
theorem PairingInv.step {cfg : Config} {history : List (Visit F n)} {s : PtpState F n}
    (h : PairingInv cfg history s.view) (e : DaemonEvent F n) (he : ¬ e.IsInjection) :
    PairingInv cfg (history ++ [(e, s)]) (e.apply cfg s).view := by
  cases e with
  | received frame => exact h.received (receive_effect cfg s frame)
  | capability times =>
    have hleaves : LeavesSync cfg ((.capability times, s) : Visit F n) :=
      leavesSync s (by simp)
    unfold DaemonEvent.apply
    dsimp only
    rw [checkCapability_view]
    split
    · refine h.snoc hleaves (.inr rfl) (fun hvalid => ?_) fun _ => .inl rfl
      cases hvalid
    · exact h.kept hleaves .rfl
  | validity times =>
    unfold DaemonEvent.apply
    dsimp only
    rw [revalidate_view]
    exact h.snoc (leavesSync s (by simp)) (.inl rfl) isSelectedSourceValid_isAnnounce
      fun hannounce => .inr ⟨hannounce, rfl⟩
  | fallback nowUs dropping =>
    exact h.profileEffect (leavesSync s (by simp)) (ptpCheckProfileFallback_view ..)
  | armFallback =>
    exact h.profileEffect (leavesSync s (by simp)) (ptpArmProfileFallback_view ..)
  | setProfile profile =>
    exact h.profileEffect (leavesSync s (by simp)) (ptpdSetProfile_view ..)
  | injectSync p message times => exact absurd trivial he
  | localSource _ | gmFields | injectSyncPair | ftmObserved | elsewhere _ =>
    exact h.kept (leavesSync s (by simp)) (indifferent_kept cfg s rfl)

/-! ## The pairing -/

/-- The Follow_Up of an update pairs with the Sync that waits. -/
theorem PairingInv.pairs {cfg : Config} {history : List (Visit F n)} {s : PtpState F n}
    (h : PairingInv cfg history s.view) {frame : RxFrame n} {u : ClockUpdate F n}
    (hu : frame.update cfg s = some u) (htype : frame.scratch.rxbuf.msgtype = .followUp) :
    ∃ sync, Pairs cfg history s frame u sync := by
  rcases rxClockUpdate_some _ _ _ _ _ hu with ⟨hsync, -⟩ | ⟨hfollowUp, hcall⟩
  · have := hsync.type
    rw [load_rxbuf, htype] at this
    cases this
  · obtain ⟨sync, hpending, hfollows, hrxtime⟩ := followupAccepted_pending hfollowUp.accepted
    have hvalid := ignoresSync_valid hfollowUp.heeded
    rw [load_view] at hpending hvalid
    rw [load_rxbuf] at hfollows hcall
    refine ⟨sync, h.waiting sync hpending, hfollows, hvalid,
      (h.current sync hpending (h.announced hvalid)).symm, ?_, ?_⟩
    · rw [hcall]
      rfl
    · rw [hcall, hrxtime]

/-- A daemon that follows nobody yet. -/
def StartsAlone (s : PtpState F n) : Prop := s.view.valid = false ∧ s.view.pending = none

/-- The update for a Follow_Up in this event pairs it with a Sync. -/
def FollowUpPairs (cfg : Config) (history : List (Visit F n)) (x : Visit F n) : Prop :=
  ∀ frame, x.1 = .received frame → ∀ u ∈ frame.update cfg x.2,
    frame.scratch.rxbuf.msgtype = .followUp → ∃ sync, Pairs cfg history x.2 frame u sync

/-- What a run keeps. -/
structure PairingRun (cfg : Config) (history : List (Visit F n)) (s : PtpState F n) : Prop where
  inv : PairingInv cfg history s.view
  pairs : Always (FollowUpPairs cfg) history

theorem PairingRun.step {cfg : Config} {history : List (Visit F n)} {s : PtpState F n}
    (h : PairingRun cfg history s) (e : DaemonEvent F n) (he : ¬ e.IsInjection) :
    PairingRun cfg (history ++ [(e, s)]) (e.apply cfg s) where
  inv := h.inv.step e he
  pairs := by
    apply h.pairs.snoc
    intro frame hframe u hu htype
    exact h.inv.pairs hu htype

theorem PairingRun.start {cfg : Config} {s₀ : PtpState F n} (h : StartsAlone s₀) :
    PairingRun cfg [] s₀ := by
  obtain ⟨hvalid, hpending⟩ := h
  refine ⟨⟨by simp [hvalid], by simp [hpending], by simp [hpending]⟩, .nil⟩

/-- **In every run, an update of the clock for a Follow_Up uses the last Sync of the source
    selected now, and no Sync is used twice.** -/
theorem followUp_pairs (cfg : Config) (s₀ : PtpState F n) (hstart : StartsAlone s₀)
    (events : List (DaemonEvent F n)) (hevents : ∀ e ∈ events, ¬ e.IsInjection) :
    Always (FollowUpPairs cfg) (trace (daemonStep cfg) s₀ events) := by
  have hrun : PairingRun cfg (trace (daemonStep cfg) s₀ events)
      (run (daemonStep cfg) s₀ events) := by
    apply run_induction_while fun history => ∀ x ∈ history, ¬ x.1.IsInjection
    · intro history x hgood y hy
      exact hgood y (List.mem_append_left _ hy)
    · exact .start hstart
    · intro history s e hgood h
      exact h.step e (hgood (e, s) (List.mem_append_right _ List.mem_cons_self))
    · intro x hx
      have hmem : x.1 ∈ (trace (daemonStep cfg) s₀ events).map Prod.fst :=
        List.mem_map_of_mem hx
      rw [trace_fst] at hmem
      exact hevents x.1 hmem
  exact hrun.pairs

/-- The neighbor is selected, its Sync waits, its Follow_Up updates the clock. -/
theorem followUp_pairs_neighbor :
    Always (FollowUpPairs Sample.config)
        (trace (daemonStep Sample.config) Sample.alone
          [.received (Sample.frameOf (Sample.neighborAnnounce 100) default), .validity default,
            .received (Sample.frameOf (Sample.neighborSync true (Vector.replicate 10 0)) default),
            .received (Sample.frameOf (Sample.neighborFollowUp 0) default)]) ∧
      (run (daemonStep Sample.config) Sample.alone
          [.received (Sample.frameOf (Sample.neighborAnnounce 100) default), .validity default,
            .received (Sample.frameOf (Sample.neighborSync true (Vector.replicate 10 0)) default),
            .received (Sample.frameOf (Sample.neighborFollowUp 0) default)]).clockUpdates = 1 := by
  refine ⟨followUp_pairs Sample.config Sample.alone ⟨rfl, rfl⟩ _ ?_, by decide +kernel⟩
  intro e he
  simp only [List.mem_cons, List.not_mem_nil, or_false] at he
  rcases he with rfl | rfl | rfl | rfl <;> exact id

end EspPtp
