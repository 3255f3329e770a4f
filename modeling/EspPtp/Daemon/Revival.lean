import EspPtp.Daemon.Run
import EspPtp.Wire.Timestamp

/-!
# How a dropped source comes back

The flag of the selected source is cleared in many places and set in one, the validity check.
What the check reads is the stored Announce, when it came, and when Sync was received last;
some of the places that clear the flag clear these too, others keep them. So the question is
what a source whose flag was cleared still has.

`Ended` says it for every way to lose the flag: the source is forgotten, or it was announced
again since, or it lacked the capability and is stored as it was, or it has timed out. A
source that has timed out is timed out forever, because the clocks the daemon reads do not
run backward. The other two are the ways back.
-/

namespace EspPtp

open Lib

variable {F : Type} {n : Nat}

/-! ## Clocks that do not run backward -/

/-- The order of times. -/
def Timespec.NotAfter (a b : Timespec) : Prop :=
  a.tvSec < b.tvSec ∨ (a.tvSec = b.tvSec ∧ a.tvNsec ≤ b.tvNsec)

instance : DecidableRel Timespec.NotAfter := fun a b =>
  inferInstanceAs (Decidable (a.tvSec < b.tvSec ∨ (a.tvSec = b.tvSec ∧ a.tvNsec ≤ b.tvNsec)))

/-- The difference to a time grows, also where it is held at the ends of its range. -/
theorem timespecDeltaNs_mono (cfg : Config) {start a b : Timespec} (hstart : start.Normalized)
    (ha : a.Normalized) (hb : b.Normalized) (h : a.NotAfter b) :
    timespecDeltaNs cfg a start ≤ timespecDeltaNs cfg b start := by
  have hmax : int64Max.tdiv nsecPerSec = 9223372036 := by decide
  have hmin : int64Min.tdiv nsecPerSec = -9223372036 := by decide
  unfold Timespec.Normalized nsecPerSec at hstart ha hb
  unfold Timespec.NotAfter at h
  unfold timespecDeltaNs
  rw [hmax, hmin]
  unfold int64Max int64Min nsecPerSec
  cases cfg.systemTime64 with
  | false =>
    simp only [Bool.false_and, Bool.false_eq_true, if_false]
    omega
  | true =>
    simp only [Bool.true_and, decide_eq_true_eq]
    split_ifs <;> omega

theorem timespecDeltaNs_self (cfg : Config) (ts : Timespec) : timespecDeltaNs cfg ts ts = 0 := by
  have hmax : int64Max.tdiv nsecPerSec = 9223372036 := by decide
  have hmin : int64Min.tdiv nsecPerSec = -9223372036 := by decide
  simp [timespecDeltaNs, hmax, hmin]

/-- And it is not negative. -/
theorem timespecDeltaNs_nonneg (cfg : Config) {start a : Timespec} (hstart : start.Normalized)
    (ha : a.Normalized) (h : start.NotAfter a) : 0 ≤ timespecDeltaNs cfg a start := by
  rw [← timespecDeltaNs_self cfg start]
  exact timespecDeltaNs_mono cfg hstart hstart ha h

/-- The readings of the monotonic clock that an event makes, or that come with it. -/
def DaemonEvent.monoReads : DaemonEvent F n → List Timespec
  | .received frame => [frame.reads.announce.mono]
  | .validity times => [times.mono]
  | _ => []

/-- Those of `esp_timer`. -/
def DaemonEvent.usReads : DaemonEvent F n → List Int
  | .received frame => [frame.reads.announce.receiptUs, frame.reads.followup.observedUs]
  | .validity times => [times.receiptUs]
  | .ftmObserved _ _ _ _ _ nowUs _ => [nowUs]
  | _ => []

/-- The clocks of a run do not run backward. -/
structure Forward (events : List (DaemonEvent F n)) : Prop where
  normalized : ∀ t ∈ events.flatMap DaemonEvent.monoReads, t.Normalized
  mono : (events.flatMap DaemonEvent.monoReads).Pairwise Timespec.NotAfter
  us : (events.flatMap DaemonEvent.usReads).Pairwise (· ≤ ·)

theorem Forward.of_snoc {events : List (DaemonEvent F n)} {e : DaemonEvent F n}
    (h : Forward (events ++ [e])) : Forward events := by
  obtain ⟨hnormalized, hmono, hus⟩ := h
  rw [List.flatMap_append] at hnormalized hmono hus
  exact ⟨fun t ht => hnormalized t (List.mem_append_left _ ht), (List.pairwise_append.mp hmono).1,
    (List.pairwise_append.mp hus).1⟩

section Later

variable {events : List (DaemonEvent F n)} {e : DaemonEvent F n}

/-- What the last event read is not before what was read. -/
theorem Forward.notAfter (h : Forward (events ++ [e])) {t t' : Timespec}
    (ht : t ∈ events.flatMap DaemonEvent.monoReads) (ht' : t' ∈ e.monoReads) : t.NotAfter t' := by
  have hmono := h.mono
  rw [List.flatMap_append] at hmono
  exact (List.pairwise_append.mp hmono).2.2 t ht t' (by simpa using ht')

theorem Forward.le (h : Forward (events ++ [e])) {t t' : Int}
    (ht : t ∈ events.flatMap DaemonEvent.usReads) (ht' : t' ∈ e.usReads) : t ≤ t' := by
  have hus := h.us
  rw [List.flatMap_append] at hus
  exact (List.pairwise_append.mp hus).2.2 t ht t' (by simpa using ht')

end Later

/-! ## What the check reads -/

/-- The receipts of the stored source are current. -/
def SourceView.current (cfg : Config) (v : SourceView) (mono : Timespec) (us : Int) : Bool :=
  let age := timespecDeltaNs cfg mono v.announced
  decide (0 ≤ age) && decide (age < ptpAnnounceReceiptTimeoutNs cfg v.source) &&
    (decide (v.source.btcPriority1 = 255) || ptpSyncReceiptCurrent v.receipt us)

/-- What of the selected source stays when its flag is cleared. -/
def SourceView.stored (v : SourceView) : PtpAnnounce × Timespec × PtpSyncReceipt :=
  (v.source, v.announced, v.receipt)

/-- **A receipt that has timed out stays timed out.** -/
theorem SourceView.current_later {cfg : Config} {v : SourceView} {mono mono' : Timespec}
    {us us' : Int} (h : v.current cfg mono us = false)
    (hannounced : v.announced.NotAfter mono) (hreceived : v.receipt.armed = true →
      v.receipt.receivedUs ≤ us)
    (hnormalized : v.announced.Normalized ∧ mono.Normalized ∧ mono'.Normalized)
    (hmono : mono.NotAfter mono') (hus : us ≤ us') : v.current cfg mono' us' = false := by
  obtain ⟨hstart, hbefore, hafter⟩ := hnormalized
  have hage := timespecDeltaNs_nonneg cfg hstart hbefore hannounced
  have hgrows := timespecDeltaNs_mono cfg hstart hbefore hafter hmono
  unfold SourceView.current at h ⊢
  generalize timespecDeltaNs cfg mono v.announced = age at h hage hgrows ⊢
  generalize timespecDeltaNs cfg mono' v.announced = age' at hgrows ⊢
  generalize ptpAnnounceReceiptTimeoutNs cfg v.source = timeout at h ⊢
  by_cases hold : timeout ≤ age
  · have hout : ¬ age' < timeout := by omega
    simp [hout]
  · have hin : age < timeout := by omega
    simp only [hage, hin, decide_true, Bool.true_and, Bool.or_eq_false_iff] at h
    obtain ⟨hsource, hsync⟩ := h
    have hstill : ptpSyncReceiptCurrent v.receipt us' = false := by
      unfold ptpSyncReceiptCurrent at hsync ⊢
      cases harmed : v.receipt.armed with
      | false => rfl
      | true =>
        have hpast := hreceived harmed
        rw [harmed] at hsync
        simp only [Bool.true_and, Bool.and_eq_false_iff, decide_eq_false_iff_not] at hsync ⊢
        omega
    rw [hsource, hstill]
    simp

/-- The check, in the gPTP profile. -/
theorem isSelectedSourceValid_gptp {cfg : Config} {s : PtpState F n} (hgptp : s.isGptp = true)
    (times : ValidityTimes) :
    isSelectedSourceValid cfg s times =
      (!s.lacksCapability cfg times.toCapabilityTimes && s.isAnnounce &&
        s.view.current cfg times.mono times.receiptUs) := by
  unfold isSelectedSourceValid
  rw [hgptp]
  cases s.lacksCapability cfg times.toCapabilityTimes with
  | true => rfl
  | false =>
    cases s.isAnnounce with
    | true => rfl
    | false => rfl

/-! ## How a source ends -/

/-- The event finds that a source is selected without the capability. -/
def DaemonEvent.FindsIncapable (cfg : Config) (s : PtpState F n) : DaemonEvent F n → Prop
  | .capability times => s.lacksCapability cfg times = true
  | .validity times => s.lacksCapability cfg times.toCapabilityTimes = true
  | _ => False

/-- Since the flag was cleared the stored Announce was accepted. -/
def AnnouncedSince (cfg : Config) (history : List (Visit F n)) (v : SourceView) : Prop :=
  Since (fun _ x => x.2.view.valid = false ∧
      ∃ frame, x.1 = .received frame ∧ frame.handled cfg x.2 = .announce v.source)
    (fun y => y.2.view.valid = false) history

/-- The flag was cleared because the capability was missing, and what is stored is what was
    stored then. -/
def IncapableSince (cfg : Config) (history : List (Visit F n)) (v : SourceView) : Prop :=
  Since (fun _ x => x.2.view.valid = true ∧ x.1.FindsIncapable cfg x.2 ∧
      x.2.view.stored = v.stored)
    (fun y => y.2.view.valid = false) history

/-- The events of a history. -/
def eventsOf (history : List (Visit F n)) : List (DaemonEvent F n) := history.map Prod.fst

/-- What has become of a source whose flag is cleared. -/
inductive Ended (cfg : Config) (history : List (Visit F n)) (v : SourceView) : Prop where
  | forgotten (h : ¬ v.source.IsAnnounce)
  | announced (h : AnnouncedSince cfg history v)
  | incapable (h : IncapableSince cfg history v)
  | timedOut (mono : Timespec) (us : Int)
      (hmono : mono ∈ (eventsOf history).flatMap DaemonEvent.monoReads)
      (hus : us ∈ (eventsOf history).flatMap DaemonEvent.usReads)
      (hannounced : v.announced.NotAfter mono)
      (hreceived : v.receipt.armed = true → v.receipt.receivedUs ≤ us)
      (h : v.current cfg mono us = false)

structure RevivalInv (cfg : Config) (history : List (Visit F n)) (v : SourceView) : Prop where
  announced : v.source.IsAnnounce → v.announced ∈ (eventsOf history).flatMap DaemonEvent.monoReads
  received : v.receipt.armed = true →
    ∃ r ∈ (eventsOf history).flatMap DaemonEvent.usReads, v.receipt.receivedUs ≤ r
  ended : v.valid = false → Ended cfg history v

section Inv

variable {cfg : Config} {history : List (Visit F n)} {x : Visit F n} {v v' : SourceView}

theorem mem_monoReads_snoc {t : Timespec} :
    t ∈ (eventsOf (history ++ [x])).flatMap DaemonEvent.monoReads ↔
      t ∈ (eventsOf history).flatMap DaemonEvent.monoReads ∨ t ∈ x.1.monoReads := by
  simp [eventsOf]

theorem mem_usReads_snoc {t : Int} :
    t ∈ (eventsOf (history ++ [x])).flatMap DaemonEvent.usReads ↔
      t ∈ (eventsOf history).flatMap DaemonEvent.usReads ∨ t ∈ x.1.usReads := by
  simp [eventsOf]

/-- While the flag stays cleared and the source stored, what has become of it stays so. -/
theorem Ended.snoc (h : Ended cfg history v) (hx : x.2.view.valid = false)
    (hstored : v'.stored = v.stored) : Ended cfg (history ++ [x]) v' := by
  have hsource : v'.source = v.source := congrArg (fun t => t.1) hstored
  cases h with
  | forgotten h =>
    apply Ended.forgotten
    rw [hsource]
    exact h
  | announced h =>
    apply Ended.announced
    unfold AnnouncedSince at h ⊢
    rw [hsource]
    exact h.snoc hx
  | incapable h =>
    apply Ended.incapable
    unfold IncapableSince at h ⊢
    rw [hstored]
    exact h.snoc hx
  | timedOut mono us hmono hus hannounced hreceived h =>
    have hwhen : v'.announced = v.announced := congrArg (fun t => t.2.1) hstored
    have hreceipt : v'.receipt = v.receipt := congrArg (fun t => t.2.2) hstored
    refine .timedOut mono us (mem_monoReads_snoc.mpr (.inl hmono))
      (mem_usReads_snoc.mpr (.inl hus)) ?_ ?_ ?_
    · rw [hwhen]
      exact hannounced
    · rw [hreceipt]
      exact hreceived
    · unfold SourceView.current at h ⊢
      rw [hsource, hwhen, hreceipt]
      exact h

/-- What was read stays read. -/
theorem RevivalInv.snoc (h : RevivalInv cfg history v)
    (hannounced : v'.source.IsAnnounce → v.source.IsAnnounce ∧ v'.announced = v.announced ∨
      v'.announced ∈ x.1.monoReads)
    (hreceipt : v'.receipt = v.receipt ∨ ∃ r ∈ x.1.usReads, v'.receipt.receivedUs ≤ r)
    (hended : v'.valid = false → Ended cfg (history ++ [x]) v') :
    RevivalInv cfg (history ++ [x]) v' := by
  refine ⟨fun htype => ?_, fun harmed => ?_, hended⟩
  · rw [mem_monoReads_snoc]
    rcases hannounced htype with ⟨hwas, hsame⟩ | hread
    · rw [hsame]
      exact .inl (h.announced hwas)
    · exact .inr hread
  · rcases hreceipt with hsame | ⟨r, hread, hle⟩
    · rw [hsame] at harmed ⊢
      obtain ⟨r, hread, hle⟩ := h.received harmed
      exact ⟨r, mem_usReads_snoc.mpr (.inl hread), hle⟩
    · exact ⟨r, mem_usReads_snoc.mpr (.inr hread), hle⟩

/-- Nothing that is stored changes. -/
theorem RevivalInv.stored (h : RevivalInv cfg history v) (hstored : v'.stored = v.stored)
    (hended : v'.valid = false → Ended cfg (history ++ [x]) v') :
    RevivalInv cfg (history ++ [x]) v' := by
  have hsource : v'.source = v.source := congrArg (fun t => t.1) hstored
  have hannounced : v'.announced = v.announced := congrArg (fun t => t.2.1) hstored
  have hreceipt : v'.receipt = v.receipt := congrArg (fun t => t.2.2) hstored
  refine h.snoc (fun htype => .inl ⟨?_, hannounced⟩) (.inl hreceipt) hended
  rw [← hsource]
  exact htype

end Inv

/-! ## What an event does to it -/

/-- Every event does one of these to the stored source and its flag. -/
inductive SourceChange (cfg : Config) (x : Visit F n) (v v' : SourceView) : Prop where
  | same (hvalid : v'.valid = v.valid) (hstored : v'.stored = v.stored)
  | observed (hvalid : v.valid = true) (hstill : v'.valid = true) (hsource : v'.source = v.source)
      (hannounced : v'.announced = v.announced)
      (hreceipt : v'.receipt = v.receipt ∨ ∃ r ∈ x.1.usReads, v'.receipt.receivedUs ≤ r)
  | accepted (hvalid : v'.valid = v.valid)
      (hhandled : ∃ frame, x.1 = .received frame ∧ frame.handled cfg x.2 = .announce v'.source)
      (hannounced : v'.announced ∈ x.1.monoReads)
      (hreceipt : v'.receipt = v.receipt ∨ ∃ r ∈ x.1.usReads, v'.receipt.receivedUs ≤ r)
  | forgotten (hvalid : v'.valid = false) (hsource : ¬ v'.source.IsAnnounce)
      (hreceipt : v'.receipt = v.receipt)
  | incapable (hvalid : v.valid = true) (hcleared : v'.valid = false)
      (hstored : v'.stored = v.stored) (hfinds : x.1.FindsIncapable cfg x.2)
  | judged (times : ValidityTimes) (hx : x.1 = .validity times)
      (hvalid : v'.valid = isSelectedSourceValid cfg x.2 times) (hstored : v'.stored = v.stored)

/-- A receipt that a Sync or a new source started was read from the clock. -/
theorem receiptStarted_read {v : SourceView} {receiptUs : Int} {receipt : PtpSyncReceipt}
    {reads : List Int} (h : ReceiptStarted v receiptUs receipt) (hread : receiptUs ∈ reads) :
    receipt = v.receipt ∨ ∃ r ∈ reads, receipt.receivedUs ≤ r := by
  rcases h with hsame | ⟨windowUs, hstarted⟩
  · exact .inl hsame
  · refine .inr ⟨receiptUs, hread, ?_⟩
    rw [hstarted]
    exact le_refl _

theorem receiptObserved_read {v : SourceView} {observedUs : Int} {receipt : PtpSyncReceipt}
    {reads : List Int} (h : ReceiptObserved v observedUs receipt) (hread : observedUs ∈ reads) :
    receipt = v.receipt ∨ ∃ r ∈ reads, receipt.receivedUs ≤ r := by
  rcases h with hsame | ⟨logarithm, hobserved⟩
  · exact .inl hsame
  · unfold ptpSyncReceiptObserve at hobserved
    rcases ptpSyncReceiptObserveWindow_cases v.receipt observedUs
      (ptpSyncReceiptInterval logarithm) observedUs with hrefused | ⟨-, htaken⟩
    · rw [hrefused] at hobserved
      exact .inl hobserved
    · rw [htaken] at hobserved
      refine .inr ⟨observedUs, hread, ?_⟩
      rw [hobserved]
      exact le_refl _

/-- A change of the profile. -/
theorem ProfileEffect.change {cfg : Config} {x : Visit F n} {v v' : SourceView}
    (h : ProfileEffect v v') : SourceChange cfg x v v' := by
  cases h with
  | kept heq =>
    subst heq
    exact .same rfl rfl
  | reset profile heq =>
    subst heq
    exact .forgotten rfl not_isAnnounce_default rfl

variable [CDouble F]

/-- A frame. -/
theorem received_change (cfg : Config) (s : PtpState F n) (frame : RxFrame n) :
    SourceChange cfg (.received frame, s) s.view (s.receive cfg frame).view := by
  have heffect := receive_effect cfg s frame
  generalize hhandled : frame.handled cfg s = handled at heffect
  generalize (s.receive cfg frame).view = v' at heffect ⊢
  cases heffect with
  | kept heq =>
    subst heq
    exact .same rfl rfl
  | cleared heq =>
    subst heq
    exact .same rfl rfl
  | dropped heq =>
    subst heq
    exact .forgotten rfl not_isAnnounce_default rfl
  | accepted msg receipt changed htype hreceipt hchanged heq =>
    subst heq
    apply SourceChange.accepted
    · rfl
    · exact ⟨frame, rfl, hhandled⟩
    · exact List.mem_cons_self
    · exact receiptStarted_read hreceipt List.mem_cons_self
  | waits msg hvalid hport htwo heq =>
    subst heq
    exact .same rfl rfl
  | stepped msg hvalid hport htwo hupdated =>
    cases hupdated with
    | trimmed heq =>
      subst heq
      exact .same rfl rfl
    | jumped heq =>
      subst heq
      exact .same rfl rfl
  | followed msg sync receipt timing hvalid hpending hfollows hreceipt htiming heq =>
    subst heq
    apply SourceChange.observed hvalid
    · exact hvalid
    · rfl
    · rfl
    · exact receiptObserved_read hreceipt (List.mem_cons_of_mem _ List.mem_cons_self)

/-- **What an event does to the stored source.** -/
theorem DaemonEvent.change (cfg : Config) (s : PtpState F n) (e : DaemonEvent F n)
    (he : ¬ e.IsInjection) : SourceChange cfg (e, s) s.view (e.apply cfg s).view := by
  cases e with
  | received frame => exact received_change cfg s frame
  | capability times =>
    unfold DaemonEvent.apply
    dsimp only
    rw [checkCapability_view]
    cases hlacks : s.lacksCapability cfg times with
    | false => exact .same rfl rfl
    | true =>
      rw [if_pos rfl]
      cases hvalid : s.view.valid with
      | false => exact .same hvalid.symm rfl
      | true => exact .incapable hvalid rfl rfl hlacks
  | validity times =>
    unfold DaemonEvent.apply
    dsimp only
    rw [revalidate_view]
    exact .judged times rfl rfl rfl
  | localSource answers =>
    unfold DaemonEvent.apply
    dsimp only
    rcases ptpPublishLocalSource_view cfg s answers with
      heq | ⟨-, heq⟩ | ⟨v₁, snapshot, -, hfilled, -, -, heq⟩
    · rw [heq]
      exact .same rfl rfl
    · rw [heq]
      exact .same rfl rfl
    · rw [heq, hfilled.frame]
      exact .same rfl rfl
  | gmFields =>
    unfold DaemonEvent.apply
    dsimp only
    rw [(ptpFillGmFields_view s).frame]
    exact .same rfl rfl
  | fallback nowUs dropping => exact (ptpCheckProfileFallback_view ..).change
  | armFallback => exact (ptpArmProfileFallback_view ..).change
  | setProfile profile => exact (ptpdSetProfile_view ..).change
  | injectSync p message times => exact absurd trivial he
  | injectSyncPair p remoteNs localNs times =>
    unfold DaemonEvent.apply
    dsimp only
    rcases ptpdInjectSyncPair_view cfg s p remoteNs localNs times with heq | heq | heq
    · rw [heq]
      exact .same rfl rfl
    · rw [heq]
      exact .same rfl rfl
    · rw [heq]
      exact .same rfl rfl
  | ftmObserved p identity domain logInterval receivedUs nowUs mono =>
    unfold DaemonEvent.apply
    dsimp only
    rcases ptpdFtmSourceObserved_view cfg s p identity domain logInterval receivedUs nowUs mono
      with heq | ⟨hvalid, receipt, hpast, heq⟩
    · rw [heq]
      exact .same rfl rfl
    · rw [heq]
      exact .observed hvalid hvalid rfl rfl (.inr ⟨nowUs, List.mem_cons_self, hpast⟩)
  | elsewhere other =>
    unfold DaemonEvent.apply
    dsimp only
    rw [other.view]
    exact .same rfl rfl

/-! ## The check -/

/-- The ways back. -/
def ComesBack (cfg : Config) (history : List (Visit F n)) (x : Visit F n) : Prop :=
  x.2.view.valid = false → (x.1.apply cfg x.2).view.valid = true →
    (∃ times, x.1 = .validity times) ∧
      (AnnouncedSince cfg history x.2.view ∨ IncapableSince cfg history x.2.view)

section Step

variable {cfg : Config} {history : List (Visit F n)} {s : PtpState F n}

omit [CDouble F] in
/-- A source that has timed out is not found valid again. -/
theorem RevivalInv.still_timedOut (h : RevivalInv cfg history s.view) (hgptp : s.isGptp = true)
    {times : ValidityTimes} (hforward : Forward (eventsOf history ++ [.validity times]))
    {mono : Timespec} {us : Int}
    (hmono : mono ∈ (eventsOf history).flatMap DaemonEvent.monoReads)
    (hus : us ∈ (eventsOf history).flatMap DaemonEvent.usReads)
    (hannounced : s.view.announced.NotAfter mono)
    (hreceived : s.view.receipt.armed = true → s.view.receipt.receivedUs ≤ us)
    (hout : s.view.current cfg mono us = false) : isSelectedSourceValid cfg s times = false := by
  by_contra hvalid
  rw [Bool.not_eq_false] at hvalid
  have hstart := h.announced (isSelectedSourceValid_isAnnounce hvalid)
  have hlater : s.view.current cfg times.mono times.receiptUs = false := by
    apply SourceView.current_later hout hannounced hreceived
    · refine ⟨hforward.of_snoc.normalized _ hstart, hforward.of_snoc.normalized _ hmono, ?_⟩
      apply hforward.normalized
      rw [List.flatMap_append]
      exact List.mem_append_right _ List.mem_cons_self
    · exact hforward.notAfter hmono List.mem_cons_self
    · exact hforward.le hus List.mem_cons_self
  rw [isSelectedSourceValid_gptp hgptp, hlater, Bool.and_false] at hvalid
  cases hvalid

omit [CDouble F] in
/-- What the check does not find valid is forgotten, incapable or timed out. -/
theorem RevivalInv.judged_ended (h : RevivalInv cfg history s.view) (hgptp : s.isGptp = true)
    (hvalid : s.view.valid = true) {times : ValidityTimes}
    (hforward : Forward (eventsOf history ++ [.validity times])) {v' : SourceView}
    (hstored : v'.stored = s.view.stored)
    (hlost : isSelectedSourceValid cfg s times = false) :
    Ended cfg (history ++ [(.validity times, s)]) v' := by
  have hsource : v'.source = s.view.source := congrArg (fun t => t.1) hstored
  have hannounced : v'.announced = s.view.announced := congrArg (fun t => t.2.1) hstored
  have hreceipt : v'.receipt = s.view.receipt := congrArg (fun t => t.2.2) hstored
  rw [isSelectedSourceValid_gptp hgptp] at hlost
  cases hlacks : s.lacksCapability cfg times.toCapabilityTimes with
  | true => exact .incapable (.now ⟨hvalid, hlacks, hstored.symm⟩)
  | false =>
    by_cases htype : s.view.source.IsAnnounce
    · have hannounce : s.isAnnounce = true := decide_eq_true htype
      rw [hlacks, hannounce] at hlost
      refine .timedOut times.mono times.receiptUs (mem_monoReads_snoc.mpr (.inr ?_))
        (mem_usReads_snoc.mpr (.inr ?_)) ?_ ?_ ?_
      · exact List.mem_cons_self
      · exact List.mem_cons_self
      · rw [hannounced]
        exact hforward.notAfter (h.announced htype) List.mem_cons_self
      · rw [hreceipt]
        intro harmed
        obtain ⟨r, hread, hle⟩ := h.received harmed
        exact hle.trans (hforward.le hread List.mem_cons_self)
      · unfold SourceView.current at hlost ⊢
        rw [hsource, hannounced, hreceipt]
        exact hlost
    · apply Ended.forgotten
      rw [hsource]
      exact htype

/-- **One event keeps the invariant**, and a source comes back in one of the two ways. -/
theorem RevivalInv.step (h : RevivalInv cfg history s.view) (hgptp : s.isGptp = true)
    {e : DaemonEvent F n} (he : ¬ e.IsInjection) (hforward : Forward (eventsOf history ++ [e])) :
    RevivalInv cfg (history ++ [(e, s)]) (e.apply cfg s).view ∧ ComesBack cfg history (e, s) := by
  have hchange := e.change cfg s he
  unfold ComesBack
  dsimp only
  generalize (e.apply cfg s).view = v' at hchange ⊢
  cases hchange with
  | same hvalid hstored =>
    refine ⟨h.stored hstored ?_, ?_⟩
    · intro hcleared
      rw [hvalid] at hcleared
      exact (h.ended hcleared).snoc hcleared hstored
    · intro hcleared hset
      rw [hvalid, hcleared] at hset
      cases hset
  | observed hvalid hstill hsource hannounced hreceipt =>
    refine ⟨h.snoc ?_ hreceipt ?_, ?_⟩
    · rw [hsource]
      exact fun htype => .inl ⟨htype, hannounced⟩
    · intro hcleared
      rw [hstill] at hcleared
      cases hcleared
    · intro hcleared
      rw [hvalid] at hcleared
      cases hcleared
  | accepted hvalid hhandled hannounced hreceipt =>
    refine ⟨h.snoc (fun _ => .inr hannounced) hreceipt ?_, ?_⟩
    · intro hcleared
      rw [hvalid] at hcleared
      exact .announced (.now ⟨hcleared, hhandled⟩)
    · intro hcleared hset
      rw [hvalid, hcleared] at hset
      cases hset
  | forgotten hcleared hsource hreceipt =>
    refine ⟨h.snoc (fun htype => absurd htype hsource) (.inl hreceipt) ?_, ?_⟩
    · exact fun _ => .forgotten hsource
    · intro _ hset
      rw [hcleared] at hset
      cases hset
  | incapable hvalid hcleared hstored hfinds =>
    refine ⟨h.stored hstored ?_, ?_⟩
    · exact fun _ => .incapable (.now ⟨hvalid, hfinds, hstored.symm⟩)
    · intro hwas
      rw [hvalid] at hwas
      cases hwas
  | judged times hx hvalid hstored =>
    have hcheck : e = .validity times := hx
    subst hcheck
    refine ⟨h.stored hstored ?_, ?_⟩
    · intro hcleared
      cases hwas : s.view.valid with
      | false => exact (h.ended hwas).snoc hwas hstored
      | true => exact h.judged_ended hgptp hwas hforward hstored (hvalid.symm.trans hcleared)
    · intro hcleared hset
      rw [hvalid] at hset
      refine ⟨⟨times, rfl⟩, ?_⟩
      cases h.ended hcleared with
      | forgotten hnone => exact absurd (isSelectedSourceValid_isAnnounce hset) hnone
      | announced hsince => exact .inl hsince
      | incapable hsince => exact .inr hsince
      | timedOut mono us hmono hus hannounced hreceived hout =>
        rw [h.still_timedOut hgptp hforward hmono hus hannounced hreceived hout] at hset
        cases hset

end Step

/-! ## Runs -/

/-- What a run keeps. -/
structure RevivalRun (cfg : Config) (history : List (Visit F n)) (s : PtpState F n) : Prop where
  inv : RevivalInv cfg history s.view
  back : Always (ComesBack cfg) history

/-- A daemon with nothing stored. -/
structure StartsEmpty (s : PtpState F n) : Prop where
  valid : s.view.valid = false
  source : ¬ s.view.source.IsAnnounce
  receipt : s.view.receipt.armed = false

/-- A run that stays in the gPTP profile, with clocks that do not run backward. -/
structure GptpRun (history : List (Visit F n)) : Prop where
  gptp : ∀ x ∈ history, x.2.isGptp = true
  noInjection : ∀ x ∈ history, ¬ x.1.IsInjection
  forward : Forward (eventsOf history)

omit [CDouble F] in
theorem GptpRun.of_snoc {history : List (Visit F n)} {x : Visit F n}
    (h : GptpRun (history ++ [x])) : GptpRun history := by
  obtain ⟨hgptp, hinjection, hforward⟩ := h
  refine ⟨fun y hy => hgptp y (List.mem_append_left _ hy),
    fun y hy => hinjection y (List.mem_append_left _ hy), ?_⟩
  unfold eventsOf at hforward ⊢
  rw [List.map_append] at hforward
  exact hforward.of_snoc

/-- **In every run a dropped source comes back in the validity check**, and only if it was
    announced again since, or was dropped for want of the capability and is still stored as it
    was. -/
theorem source_comesBack (cfg : Config) (s₀ : PtpState F n) (hstart : StartsEmpty s₀)
    (events : List (DaemonEvent F n)) (hrun : GptpRun (trace (daemonStep cfg) s₀ events)) :
    Always (ComesBack cfg) (trace (daemonStep cfg) s₀ events) := by
  have hkept : RevivalRun cfg (trace (daemonStep cfg) s₀ events)
      (run (daemonStep cfg) s₀ events) := by
    apply run_induction_while fun history => GptpRun history
    · exact fun history x h => h.of_snoc
    · obtain ⟨hvalid, hsource, hreceipt⟩ := hstart
      refine ⟨⟨fun htype => absurd htype hsource, fun harmed => ?_, fun _ => .forgotten hsource⟩,
        .nil⟩
      rw [hreceipt] at harmed
      cases harmed
    · intro history s e hgood h
      have hlast : (e, s) ∈ history ++ [(e, s)] := List.mem_append_right _ List.mem_cons_self
      have hforward : Forward (eventsOf history ++ [e]) := by
        have hall := hgood.forward
        unfold eventsOf at hall ⊢
        rw [List.map_append] at hall
        exact hall
      obtain ⟨hinv, hback⟩ :=
        h.inv.step (hgood.gptp _ hlast) (hgood.noInjection _ hlast) hforward
      exact ⟨hinv, h.back.snoc hback⟩
    · exact hrun
  exact hkept.back

/-! ## A source that lacked the capability -/

namespace Sample

/-- The neighbor is selected. -/
def followed : List (DaemonEvent ℚ 0) :=
  [.received (frameOf (neighborAnnounce 100) default), .validity default]

/-- The capability is lost and is back, and nothing is received. -/
def bounced : List (DaemonEvent ℚ 0) :=
  [.elsewhere (peerChanges false), .capability default, .elsewhere (peerChanges true),
    .capability default]

theorem bounced_gptpRun :
    GptpRun (trace (daemonStep config) alone (followed ++ bounced ++ [.validity default])) where
  gptp := by
    have hall : (trace (daemonStep config) alone
        (followed ++ bounced ++ [.validity default])).all (fun x => x.2.isGptp) = true := by
      decide +kernel
    exact fun x hx => List.all_eq_true.mp hall x hx
  noInjection := by
    intro x hx hinjection
    have hmem : x.1 ∈ (trace (daemonStep config) alone
        (followed ++ bounced ++ [.validity default])).map Prod.fst := List.mem_map_of_mem hx
    rw [trace_fst] at hmem
    simp only [followed, bounced, List.cons_append, List.nil_append, List.mem_cons,
      List.not_mem_nil, or_false] at hmem
    rcases hmem with h | h | h | h | h | h | h <;>
    · rw [h] at hinjection
      exact hinjection
  forward := by
    unfold eventsOf
    rw [trace_fst]
    exact ⟨by decide +kernel, by decide +kernel, by decide +kernel⟩

end Sample

/-- A source comes back in a step that accepts an Announce, or after one. -/
def ComesBackByAnnounce (cfg : Config) (history : List (Visit F n)) (x : Visit F n) : Prop :=
  x.2.view.valid = false → (x.1.apply cfg x.2).view.valid = true →
    (∃ frame msg, x.1 = .received frame ∧ frame.handled cfg x.2 = .announce msg) ∨
      AnnouncedSince cfg history x.2.view

/-- The neighbor is selected again without an Announce. -/
theorem not_source_comesBack :
    ¬ ∀ (cfg : Config) (s₀ : PtpState ℚ 0) (events : List (DaemonEvent ℚ 0)), StartsEmpty s₀ →
      GptpRun (trace (daemonStep cfg) s₀ events) →
      Always (ComesBackByAnnounce cfg) (trace (daemonStep cfg) s₀ events) := by
  intro hclaim
  have hback := hclaim Sample.config Sample.alone
    (Sample.followed ++ Sample.bounced ++ [.validity default])
    ⟨rfl, not_isAnnounce_default, rfl⟩ Sample.bounced_gptpRun
  rw [trace_snoc] at hback
  rcases hback _ _ [] rfl (by decide +kernel) (by decide +kernel) with ⟨frame, -, hframe, -⟩ | hsince
  · cases hframe
  · rw [trace_append] at hsince
    refine not_since_of_not_hold ?_ ?_ hsince
    · decide +kernel
    · rintro y hy past ⟨-, frame, hframe, -⟩
      have hmem : y.1 ∈ (trace (daemonStep Sample.config)
          (run (daemonStep Sample.config) Sample.alone Sample.followed) Sample.bounced).map Prod.fst :=
        List.mem_map_of_mem hy
      rw [trace_fst, hframe] at hmem
      simp [Sample.bounced] at hmem

/-- It comes back in the second validity check. -/
theorem source_comesBack_bounced :
    Always (ComesBack Sample.config) (trace (daemonStep Sample.config) Sample.alone
        (Sample.followed ++ Sample.bounced ++ [.validity default])) ∧
      (run (daemonStep Sample.config) Sample.alone
        (Sample.followed ++ Sample.bounced)).selectedSourceValid = false ∧
      (run (daemonStep Sample.config) Sample.alone
        (Sample.followed ++ Sample.bounced ++ [.validity default])).selectedSourceValid = true :=
  ⟨source_comesBack Sample.config Sample.alone ⟨rfl, not_isAnnounce_default, rfl⟩ _
    Sample.bounced_gptpRun, by decide +kernel, by decide +kernel⟩

end EspPtp
