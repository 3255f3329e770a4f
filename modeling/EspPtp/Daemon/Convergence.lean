import EspPtp.Daemon.Run
import EspPtp.Lib.Election

/-!
# The selection converges

Ports announce themselves, and the daemon follows one of them. `ptp_process_announce` only
stores: that the stored source is valid is found by the check at the end of the same pass,
and a wired port receives one frame a pass. A pass here is an Announce and that check, with
whatever else between and around them that leaves the selection alone.

The daemon is then a listener of an election. It shelves a source when it is not valid any
more but still stored, and an Announce is compared with what is stored, not with what the
source would announce now.
-/

namespace EspPtp

open Lib Lib.Election

variable {F : Type} {n : Nat}

/-! ## The announcements -/

/-- An Announce in the receive buffer, and its length. -/
structure Announcement where
  message : Bytes
  length : Nat
  deriving DecidableEq

namespace Announcement

def announce (a : Announcement) : PtpAnnounce := PtpAnnounce.read a.message

/-- The port that announces itself. -/
def port (a : Announcement) : PortIdentity := a.announce.header.sourcePort

/-- The Announce is not refused by a clock of this identity. -/
structure Heeded (own : PtpAnnounce) (a : Announcement) : Prop where
  type : a.announce.IsAnnounce
  path : (ptpPathTraceParse a.message a.length own.header.sourceidentity).isSome = true
  steps : (be16 a.announce.stepsremoved).toNat < 255
  clock : a.announce.header.sourceidentity ≠ own.header.sourceidentity

/-- It counts as received on a wired port. -/
theorem Heeded.inOrder {a : Announcement} {s : PtpState F n} (h : a.Heeded s.ownIdentity)
    (hwired : s.port0.medium = .ethHwts) : announceInOrder s a.message a.length = true := by
  have hneighbor : (announceNeighbor s.port0 a.announce).2 = true := by
    unfold announceNeighbor
    rw [if_neg (by simp [hwired])]
  have hrefused : announceRefused s a.announce = false := by
    unfold announceRefused
    rw [decide_eq_false (Nat.not_le.mpr h.steps), decide_eq_false h.clock]
    simp
  unfold announceInOrder
  dsimp only
  rw [h.path, show PtpAnnounce.read a.message = a.announce from rfl, hrefused, hneighbor]
  rfl

theorem Heeded.accepts_iff {a : Announcement} {s : PtpState F n} (h : a.Heeded s.ownIdentity)
    (hwired : s.port0.medium = .ethHwts) :
    announceAccepts s a.message a.length = true ↔
      announceRank a.announce < announceRank s.ownIdentity ∧
        (a.port = s.selectedSource.header.sourcePort ∨ s.selectedSourceValid = false ∨
          announceRank a.announce < announceRank s.selectedSource) := by
  unfold announceAccepts announceWins
  rw [h.inOrder hwired, Bool.true_and, Bool.and_eq_true, Bool.or_eq_true, Bool.or_eq_true,
    isBetterClock_iff, isBetterClock_iff, Bool.not_eq_true', or_assoc]
  exact and_congr Iff.rfl (or_congr decide_eq_true_iff Iff.rfl)

theorem Heeded.drops_iff {a : Announcement} {s : PtpState F n} (h : a.Heeded s.ownIdentity)
    (hwired : s.port0.medium = .ethHwts) :
    announceDrops s a.message a.length = true ↔
      ¬ announceRank a.announce < announceRank s.ownIdentity ∧
        a.port = s.selectedSource.header.sourcePort := by
  unfold announceDrops announceFails
  rw [h.inOrder hwired, Bool.true_and, Bool.and_eq_true, ← isBetterClock_iff, Bool.not_eq_true',
    Bool.not_eq_true]
  exact and_congr Iff.rfl decide_eq_true_iff

end Announcement

/-! ## Passes -/

/-- The selection is left alone. -/
structure SelectionSame (v v' : SourceView) : Prop where
  valid : v'.valid = v.valid
  source : v'.source = v.source
  ownIdentity : v'.ownIdentity = v.ownIdentity

variable [CDouble F]

/-- One of `candidates` announces itself, and the source is checked. Nothing times out that
    is selected or was announced just now, and no other port's source is found valid again. -/
inductive HeardPass (cfg : Config) (candidates : List Announcement) (a : Announcement)
    (s s' : PtpState F n) : Prop where
  | intro (s₁ s₂ : PtpState F n) (times : AnnounceTimes) (check : ValidityTimes)
      (hbefore : SelectionSame s.view s₁.view)
      (hwired : s₁.port0.medium = .ethHwts)
      (hbetween : SelectionSame (ptpProcessAnnounce cfg s₁ a.message a.length times).view s₂.view)
      (hcurrent : s₁.selectedSourceValid = true ∨ announceAccepts s₁ a.message a.length = true →
        s₂.isAnnounce = true → isSelectedSourceValid cfg s₂ check = true)
      (hforeign : s₁.selectedSourceValid = false →
        announceAccepts s₁ a.message a.length = false →
        isSelectedSourceValid cfg s₂ check = true →
        s₂.selectedSource.header.sourcePort ∈ candidates.map Announcement.port)
      (h : s' = revalidate cfg s₂ check)

/-- They announce themselves one after another, in this order. -/
inductive HeardRun (cfg : Config) (candidates : List Announcement) :
    PtpState F n → List Announcement → PtpState F n → Prop
  | nil (s : PtpState F n) : HeardRun cfg candidates s [] s
  | cons {s s₁ s₂ : PtpState F n} {a : Announcement} {rest : List Announcement}
      (h : HeardPass cfg candidates a s s₁) (hrest : HeardRun cfg candidates s₁ rest s₂) :
      HeardRun cfg candidates s (a :: rest) s₂

/-! ## The daemon as a listener -/

/-- The listener: a source that is not valid counts as far as it can become valid again. -/
def SourceView.listener (ports : List PortIdentity) (v : SourceView) : Listener PtpAnnounce :=
  if v.valid then .following v.source
  else if v.source.IsAnnounce ∧ v.source.header.sourcePort ∈ ports then .shelving v.source
  else .idle

/-- The listener's comparison. -/
def hearAnnounce (own : PtpAnnounce) (l : Listener PtpAnnounce) (msg : PtpAnnounce) :
    Listener PtpAnnounce :=
  hear announceRank (fun a => a.header.sourcePort) (announceRank own) l msg

section Hear

variable {ports : List PortIdentity} {v : SourceView} {own msg : PtpAnnounce}

omit [CDouble F] in
theorem listener_valid (h : v.valid = true) : v.listener ports = .following v.source := by
  unfold SourceView.listener
  rw [if_pos h]

omit [CDouble F] in
theorem listener_invalid (h : v.valid = false) :
    v.listener ports = .idle ∨ v.listener ports = .shelving v.source := by
  unfold SourceView.listener
  rw [if_neg (by simp [h])]
  split
  · exact .inr rfl
  · exact .inl rfl

theorem hearAnnounce_accepts (hbetter : announceRank msg < announceRank own)
    (hwins : msg.header.sourcePort = v.source.header.sourcePort ∨ v.valid = false ∨
      announceRank msg < announceRank v.source) :
    hearAnnounce own (v.listener ports) msg = .following msg := by
  unfold hearAnnounce hear
  cases hvalid : v.valid with
  | true =>
    rw [listener_valid hvalid]
    dsimp only
    rw [if_pos hbetter, if_pos]
    rcases hwins with hport | hnot | hless
    · exact .inl hport
    · rw [hvalid] at hnot
      cases hnot
    · exact .inr hless
  | false =>
    rcases listener_invalid hvalid with hlistener | hlistener
    · rw [hlistener]
      exact if_pos hbetter
    · rw [hlistener]
      exact if_pos hbetter

theorem hearAnnounce_drops (hworse : ¬ announceRank msg < announceRank own)
    (hport : msg.header.sourcePort = v.source.header.sourcePort) :
    hearAnnounce own (v.listener ports) msg = .idle := by
  unfold hearAnnounce hear
  cases hvalid : v.valid with
  | true =>
    rw [listener_valid hvalid]
    dsimp only
    rw [if_neg hworse, if_pos hport]
  | false =>
    rcases listener_invalid hvalid with hlistener | hlistener
    · rw [hlistener]
      exact if_neg hworse
    · rw [hlistener]
      dsimp only
      rw [if_neg hworse, if_pos hport]

theorem hearAnnounce_ignores
    (hloses : ¬ (announceRank msg < announceRank own ∧
      (msg.header.sourcePort = v.source.header.sourcePort ∨ v.valid = false ∨
        announceRank msg < announceRank v.source)))
    (hkeeps : ¬ (¬ announceRank msg < announceRank own ∧
      msg.header.sourcePort = v.source.header.sourcePort)) :
    hearAnnounce own (v.listener ports) msg = v.listener ports := by
  unfold hearAnnounce hear
  cases hvalid : v.valid with
  | true =>
    rw [listener_valid hvalid]
    dsimp only
    by_cases hbetter : announceRank msg < announceRank own
    · rw [if_pos hbetter, if_neg]
      rintro (hport | hless)
      · exact hloses ⟨hbetter, .inl hport⟩
      · exact hloses ⟨hbetter, .inr (.inr hless)⟩
    · rw [if_neg hbetter, if_neg fun hport => hkeeps ⟨hbetter, hport⟩]
  | false =>
    have hworse : ¬ announceRank msg < announceRank own :=
      fun hbetter => hloses ⟨hbetter, .inr (.inl hvalid)⟩
    rcases listener_invalid hvalid with hlistener | hlistener
    · rw [hlistener]
      exact if_neg hworse
    · rw [hlistener]
      dsimp only
      rw [if_neg hworse, if_neg fun hport => hkeeps ⟨hworse, hport⟩]

omit [CDouble F] in
/-- A source that is gone is followed no longer, and not waited for. -/
theorem listener_dropped {v' : SourceView} (hstored : v'.source = default)
    (hannounce : v'.valid = true → v'.source.IsAnnounce) : v'.listener ports = .idle := by
  have hzeroed : ¬ v'.source.IsAnnounce := by
    rw [hstored]
    exact not_isAnnounce_default
  unfold SourceView.listener
  rw [if_neg fun hvalid => hzeroed (hannounce hvalid), if_neg fun h => hzeroed h.1]

omit [CDouble F] in
/-- A source that stays is followed as before, or one that was shelved is taken up again. -/
theorem listener_kept {v' : SourceView} (hstored : v'.source = v.source)
    (hcurrent : v.valid = true → v'.valid = true)
    (hforeign : v.valid = false → v'.valid = true →
      v.source.IsAnnounce ∧ v.source.header.sourcePort ∈ ports) :
    Listener.Resumes (v.listener ports) (v'.listener ports) := by
  cases hvalid : v.valid with
  | true =>
    rw [listener_valid hvalid, listener_valid (hcurrent hvalid), hstored]
    exact .same _
  | false =>
    cases hfound : v'.valid with
    | true =>
      rw [listener_valid hfound, hstored]
      unfold SourceView.listener
      rw [hvalid, if_neg Bool.false_ne_true, if_pos (hforeign hvalid hfound)]
      exact .resumed _
    | false =>
      unfold SourceView.listener
      rw [hvalid, hfound, hstored]
      exact .same _

end Hear

/-! ## One pass -/

section Pass

variable {cfg : Config} {candidates : List Announcement} {a : Announcement} {s s' : PtpState F n}

/-- A source that is found valid is an Announce. -/
theorem HeardPass.isAnnounce (h : HeardPass cfg candidates a s s') (hvalid : s'.view.valid = true) :
    s'.view.source.IsAnnounce := by
  obtain ⟨s₁, s₂, times, check, -, -, -, -, -, rfl⟩ := h
  rw [revalidate_view] at hvalid ⊢
  exact isSelectedSourceValid_isAnnounce hvalid

theorem HeardPass.ownIdentity (h : HeardPass cfg candidates a s s') :
    s'.view.ownIdentity = s.view.ownIdentity := by
  obtain ⟨s₁, s₂, times, check, hbefore, -, hbetween, -, -, rfl⟩ := h
  have heffect := ptpProcessAnnounce_view cfg s₁ a.message a.length times
  rw [revalidate_view]
  apply hbetween.ownIdentity.trans
  rw [← hbefore.ownIdentity]
  cases haccepts : announceAccepts s₁ a.message a.length with
  | true =>
    obtain ⟨receipt, changed, -, -, hview⟩ := heffect.accepted haccepts
    rw [hview]
    rfl
  | false =>
    cases hdrops : announceDrops s₁ a.message a.length with
    | true =>
      rw [heffect.dropped hdrops]
      rfl
    | false => rw [heffect.ignored haccepts hdrops]

/-- **A pass is an announcement heard.** -/
theorem HeardPass.hears (h : HeardPass cfg candidates a s s') (hheeded : a.Heeded s.ownIdentity)
    (hannounce : s.view.valid = true → s.view.source.IsAnnounce) :
    Listener.Resumes
      (hearAnnounce s.ownIdentity (s.view.listener (candidates.map Announcement.port)) a.announce)
      (s'.view.listener (candidates.map Announcement.port)) := by
  obtain ⟨s₁, s₂, times, check, hbefore, hwired, hbetween, hcurrent, hforeign, rfl⟩ := h
  have hown : s₁.ownIdentity = s.ownIdentity := hbefore.ownIdentity
  have hvalid₁ : s₁.selectedSourceValid = s.view.valid := hbefore.valid
  have hsource₁ : s₁.selectedSource = s.view.source := hbefore.source
  rw [← hown] at hheeded
  have hwins := hheeded.accepts_iff hwired
  have hfails := hheeded.drops_iff hwired
  rw [hown, hvalid₁, hsource₁] at hwins
  rw [hown, hsource₁] at hfails
  have heffect := ptpProcessAnnounce_view cfg s₁ a.message a.length times
  rw [revalidate_view]
  cases haccepts : announceAccepts s₁ a.message a.length with
  | true =>
    obtain ⟨receipt, changed, -, -, hview⟩ := heffect.accepted haccepts
    have hstored : s₂.view.source = a.announce := by
      rw [hbetween.source, hview]
      rfl
    have hfound : isSelectedSourceValid cfg s₂ check = true := by
      apply hcurrent (.inr haccepts)
      apply decide_eq_true
      show s₂.view.source.IsAnnounce
      rw [hstored]
      exact hheeded.type
    obtain ⟨hbetter, hwhy⟩ := hwins.mp haccepts
    rw [hearAnnounce_accepts hbetter hwhy, listener_valid hfound]
    dsimp only
    rw [hstored]
    exact .same _
  | false =>
    have hloses := mt hwins.mpr (by simp [haccepts])
    cases hdrops : announceDrops s₁ a.message a.length with
    | true =>
      have hstored : s₂.view.source = default := by
        rw [hbetween.source, heffect.dropped hdrops]
        rfl
      obtain ⟨hworse, hport⟩ := hfails.mp hdrops
      rw [hearAnnounce_drops hworse hport, listener_dropped]
      · exact .same _
      · exact hstored
      · exact fun hfound => isSelectedSourceValid_isAnnounce hfound
    | false =>
      have hkeeps := mt hfails.mpr (by simp [hdrops])
      have hstored : s₂.view.source = s.view.source := by
        rw [hbetween.source, heffect.ignored haccepts hdrops, hbefore.source]
      rw [hearAnnounce_ignores hloses hkeeps]
      refine listener_kept hstored (fun hvalid => ?_) (fun hvalid hfound => ?_)
      · apply hcurrent (.inl (hvalid₁.trans hvalid))
        apply decide_eq_true
        show s₂.view.source.IsAnnounce
        rw [hstored]
        exact hannounce hvalid
      · have hknown := hforeign (hvalid₁.trans hvalid) haccepts hfound
        have htype := isSelectedSourceValid_isAnnounce hfound
        rw [show s₂.selectedSource = s.view.source from hstored] at hknown
        rw [hstored] at htype
        exact ⟨htype, hknown⟩

/-- **A run of passes is an election.** -/
theorem HeardRun.hearing {heard : List Announcement} (h : HeardRun cfg candidates s heard s')
    (hheeded : ∀ a ∈ heard, a.Heeded s.ownIdentity)
    (hannounce : s.view.valid = true → s.view.source.IsAnnounce) :
    Hearing announceRank (fun a => a.header.sourcePort) (announceRank s.ownIdentity)
      (s.view.listener (candidates.map Announcement.port)) (heard.map Announcement.announce)
      (s'.view.listener (candidates.map Announcement.port)) := by
  induction h with
  | nil s => exact .nil _
  | @cons s s₁ s₂ a rest hpass _ ih =>
    have hown : s₁.ownIdentity = s.ownIdentity := hpass.ownIdentity
    have hfirst := hpass.hears (hheeded a List.mem_cons_self) hannounce
    rw [hown] at ih
    exact .cons hfirst (ih (fun b hb => hheeded b (List.mem_cons_of_mem a hb)) hpass.isAnnounce)

end Pass

/-! ## Two rounds -/

/-- The best of the candidates is selected, if one is better than this clock. -/
structure SelectsBest (candidates : List Announcement) (own : PtpAnnounce) (v : SourceView) :
    Prop where
  valid : v.valid = true ↔ ∃ a ∈ candidates, isBetterClock a.announce own = true
  least : v.valid = true → ∃ a ∈ candidates, v.source = a.announce ∧
    ∀ b ∈ candidates, b ≠ a → isBetterClock a.announce b.announce = true

/-- `is_better_clock` is a strict order, and total on the Announces of different ports. -/
structure OrdersClocks : Prop where
  total : ∀ a b : PtpAnnounce, a.header.sourcePort ≠ b.header.sourcePort →
    (isBetterClock a b = true ↔ isBetterClock b a = false)
  irrefl : ∀ a : PtpAnnounce, isBetterClock a a = false
  trans : ∀ a b c : PtpAnnounce, isBetterClock a b = true → isBetterClock b c = true →
    isBetterClock a c = true

omit [CDouble F] in
theorem listener_following {ports : List PortIdentity} {v : SourceView} {champion : PtpAnnounce}
    (h : v.listener ports = .following champion) : v.valid = true ∧ v.source = champion := by
  unfold SourceView.listener at h
  split at h
  · rename_i hvalid
    cases h
    exact ⟨hvalid, rfl⟩
  · split at h
    · cases h
    · cases h

omit [CDouble F] in
/-- What is kept is of one of the ports. -/
theorem kept_listener {ports : List PortIdentity} {v : SourceView}
    (h : v.valid = true → v.source.header.sourcePort ∈ ports) {kept : PtpAnnounce}
    (hkept : kept ∈ (v.listener ports).kept) : kept.header.sourcePort ∈ ports := by
  unfold SourceView.listener at hkept
  split at hkept
  · rename_i hvalid
    cases hkept
    exact h hvalid
  · split at hkept
    · rename_i hshelved
      cases hkept
      exact hshelved.2
    · cases hkept

/-- **Two rounds of announcements, each followed by the daemon's check of the source, select
    the best**, whatever was selected or stored before, and in whatever order they come. -/
theorem announcements_converge (cfg : Config) (candidates : List Announcement)
    (s s' : PtpState F n) (first second : List Announcement)
    (hports : (candidates.map Announcement.port).Nodup)
    (hheeded : ∀ a ∈ candidates, a.Heeded s.ownIdentity)
    (hstart : s.view.valid = true → s.view.source.IsAnnounce ∧
      s.view.source.header.sourcePort ∈ candidates.map Announcement.port)
    (hfirst : first.Perm candidates) (hsecond : second.Perm candidates)
    (hrun : HeardRun cfg candidates s (first ++ second) s') :
    SelectsBest candidates s.ownIdentity s'.view ∧ OrdersClocks := by
  refine ⟨?_, ⟨fun a b => isBetterClock_total, isBetterClock_irrefl,
    fun a b c => isBetterClock_trans⟩⟩
  have hsame : ∀ a ∈ candidates, ∀ b ∈ candidates, a.port = b.port → a = b :=
    fun a ha b hb => List.inj_on_of_nodup_map hports ha hb
  have hheard : ∀ a ∈ first ++ second, a ∈ candidates := by
    intro a ha
    rcases List.mem_append.mp ha with hin | hin
    · exact hfirst.mem_iff.mp hin
    · exact hsecond.mem_iff.mp hin
  have hdistinct : ∀ a ∈ candidates.map Announcement.announce,
      ∀ b ∈ candidates.map Announcement.announce,
      a.header.sourcePort = b.header.sourcePort → a = b := by
    intro x hx y hy hport
    obtain ⟨a, ha, rfl⟩ := List.mem_map.mp hx
    obtain ⟨b, hb, rfl⟩ := List.mem_map.mp hy
    rw [hsame a ha b hb hport]
  have hkept : ∀ h ∈ (s.view.listener (candidates.map Announcement.port)).kept,
      ∃ m ∈ candidates.map Announcement.announce, m.header.sourcePort = h.header.sourcePort := by
    intro x hx
    obtain ⟨a, ha, hport⟩ := List.mem_map.mp (kept_listener (fun hvalid => (hstart hvalid).2) hx)
    exact ⟨a.announce, List.mem_map_of_mem ha, hport⟩
  have hhearing := hrun.hearing (fun a ha => hheeded a (hheard a ha)) fun hvalid => (hstart hvalid).1
  rw [List.map_append] at hhearing
  obtain ⟨hsettled, hlevel⟩ := hhearing.elects hdistinct hkept (hfirst.map _) (hsecond.map _)
  constructor
  · constructor
    · intro hvalid
      obtain ⟨hin, hbetter⟩ := hsettled s'.view.source (by rw [listener_valid hvalid]; rfl)
      obtain ⟨a, ha, hsource⟩ := List.mem_map.mp hin
      exact ⟨a, ha, (isBetterClock_iff ..).mpr (hsource ▸ hbetter)⟩
    · rintro ⟨a, ha, hbetter⟩
      obtain ⟨champion, hfollowing, -⟩ :=
        hlevel a.announce (List.mem_map_of_mem ha) ((isBetterClock_iff ..).mp hbetter)
      exact (listener_following hfollowing).1
  · intro hvalid
    obtain ⟨hin, hgood⟩ := hsettled s'.view.source (by rw [listener_valid hvalid]; rfl)
    obtain ⟨a, ha, hsource⟩ := List.mem_map.mp hin
    refine ⟨a, ha, hsource.symm, fun b hb hother => (isBetterClock_iff ..).mpr ?_⟩
    rw [← hsource] at hgood
    by_cases hbetter : announceRank b.announce < announceRank s.ownIdentity
    · obtain ⟨champion, hfollowing, hle⟩ := hlevel b.announce (List.mem_map_of_mem hb) hbetter
      rw [← (listener_following hfollowing).2, ← hsource] at hle
      apply lt_of_le_of_ne hle
      intro hrank
      exact hother (hsame b hb a ha (announceRank_sourcePort hrank).symm)
    · exact lt_of_lt_of_le hgood (not_lt.mp hbetter)

/-! ## Two neighbors -/

/-- A pass with nothing else in it. -/
def announcePass (cfg : Config) (s : PtpState F n) (a : Announcement) : PtpState F n :=
  revalidate cfg (ptpProcessAnnounce cfg s a.message a.length default) default

/-- If nothing but the Announces happens, the passes are a run. -/
theorem HeardRun.of_passes {cfg : Config} {candidates : List Announcement} {s : PtpState F n}
    {heard : List Announcement}
    (h : Lib.Admissible (announcePass cfg)
      (fun s a => s.port0.medium = .ethHwts ∧
        (announcePass cfg s a).selectedSourceValid = true ∧
        (announcePass cfg s a).selectedSource.header.sourcePort ∈
          candidates.map Announcement.port) s heard) :
    HeardRun cfg candidates s heard (heard.foldl (announcePass cfg) s) := by
  induction heard generalizing s with
  | nil => exact .nil s
  | cons a rest ih =>
    obtain ⟨⟨hwired, hvalid, hport⟩, hrest⟩ := h
    refine .cons ?_ (ih hrest)
    have hview := revalidate_view cfg (ptpProcessAnnounce cfg s a.message a.length default) default
    have hfound : isSelectedSourceValid cfg
        (ptpProcessAnnounce cfg s a.message a.length default) default = true :=
      (congrArg (fun v => v.valid) hview).symm.trans hvalid
    have hsource : (announcePass cfg s a).selectedSource =
        (ptpProcessAnnounce cfg s a.message a.length default).selectedSource :=
      congrArg (fun v => v.source) hview
    rw [hsource] at hport
    exact .intro s (ptpProcessAnnounce cfg s a.message a.length default) default default
      ⟨rfl, rfl, rfl⟩ hwired ⟨rfl, rfl, rfl⟩ (fun _ _ => hfound) (fun _ _ _ => hport) rfl

namespace Sample

/-- The Announce of port 1 of a clock, as a grandmaster of this priority. -/
def announcement (clock priority1 : UInt8) : Announcement where
  message := [0x1b, 0x12, 0, 64, 0, 0, 0, 8] ++ List.replicate 12 0 ++ List.replicate 8 clock ++
    [0, 1, 0, 1, 0, 0] ++ List.replicate 13 0 ++ [priority1, 0, 0, 0, 0, 0] ++
    List.replicate 8 clock ++ [0, 0, 0]
  length := 64

/-- Two of them that the daemon heeds. -/
def neighbors : List Announcement := [announcement 2 100, announcement 3 90]

theorem neighbors_heeded : ∀ a ∈ neighbors, a.Heeded alone.ownIdentity := by
  intro a ha
  simp only [neighbors, List.mem_cons, List.not_mem_nil, or_false] at ha
  rcases ha with rfl | rfl
  · exact ⟨by decide +kernel, by decide +kernel, by decide +kernel, by decide +kernel⟩
  · exact ⟨by decide +kernel, by decide +kernel, by decide +kernel, by decide +kernel⟩

end Sample

/-- Without the daemon's check no Announce makes a source valid. -/
theorem not_announcements_converge :
    ¬ ∀ (cfg : Config) (candidates : List Announcement) (s : PtpState ℚ 0)
      (first second : List Announcement),
      (candidates.map Announcement.port).Nodup → (∀ a ∈ candidates, a.Heeded s.ownIdentity) →
      s.port0.medium = .ethHwts → s.selectedSourceValid = false →
      first.Perm candidates → second.Perm candidates →
      SelectsBest candidates s.ownIdentity
        ((first ++ second).foldl
          (fun s a => ptpProcessAnnounce cfg s a.message a.length default) s).view := by
  intro hclaim
  have hbest := hclaim Sample.config Sample.neighbors Sample.alone Sample.neighbors
    Sample.neighbors (by decide +kernel) Sample.neighbors_heeded rfl rfl (.refl _) (.refl _)
  exact absurd (hbest.valid.mpr (by decide +kernel)) (by decide +kernel)

/-- The better one announces itself last, and in the second round first. -/
theorem announcements_converge_neighbors :
    (SelectsBest Sample.neighbors Sample.alone.ownIdentity
      ((Sample.neighbors ++ Sample.neighbors.reverse).foldl (announcePass Sample.config)
        Sample.alone).view ∧ OrdersClocks) ∧
      ((Sample.neighbors ++ Sample.neighbors.reverse).foldl (announcePass Sample.config)
        Sample.alone).selectedSource = (Sample.announcement 3 90).announce :=
  ⟨announcements_converge Sample.config Sample.neighbors Sample.alone _ Sample.neighbors
    Sample.neighbors.reverse (by decide +kernel) Sample.neighbors_heeded
    (fun hvalid => by cases hvalid) (.refl _) (List.reverse_perm _)
    (.of_passes (by decide +kernel)), by decide +kernel⟩

end EspPtp
