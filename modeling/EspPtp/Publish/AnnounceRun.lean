import EspPtp.Publish.AnnounceWorker

/-!
# What the Announce worker sends

A frame leaves long after the daemon made its Announce, and what is between is a mailbox, a
dozen reads and two locks. `FrameSound` is what nevertheless holds of every frame: the station
it goes to is, from the daemon's snapshot to the begin of this transmission, one association
in one slot, the slot whose port number the frame carries.

The invariant is about the item the worker has. Whatever became of the stations since it was
posted is a run of their registry, and the registry's numbers tell one association from
another (`Registry.Reaches.sameLifetime`).
-/

namespace EspPtp

open Lib

variable {n : Nat}

/-! ## What a visit does -/

namespace PublisherVisit

/-- The daemon posts this item. -/
def Posts (cfg : Config) (item : ApAnnounceItem n) (x : PublisherVisit n) : Prop :=
  ∃ p srcMac ptpMsg reads, x.1 = .announce p srcMac ptpMsg reads ∧
    (ptpWifiApSendAnnounce cfg (x.2.portOpen p) (x.2.peers p) p srcMac ptpMsg reads).1 = some item

def IsWorker (x : PublisherVisit n) : Prop := ∃ nowUs accepted, x.1 = .worker nowUs accepted

/-- The frame of this turn is handed to the radio. -/
def Transmits (turn : AnnounceTurn n) (token : UInt32) (advertised : Int) (sequence : UInt16)
    (x : PublisherVisit n) : Prop :=
  x.IsWorker ∧ x.2.worker = .sending turn token advertised sequence

/-- The station of a slot, and its association number. -/
def There (p : Fin n) (slot : Fin ptpWifiPeersMax) (peer : PtpWifiAssociationEntry)
    (x : PublisherVisit n) : Prop :=
  (x.2.peers p).lifetime slot = some (peer.mac, peer.association)

/-- The increments of a port's generation. -/
def advances (cfg : Config) (p : Fin n) (x : PublisherVisit n) : Nat :=
  match x.1 with
  | .peers q op => if q = p then (peersStep cfg (x.2.peers p) op).2.advances else 0
  | _ => 0

end PublisherVisit

/-- The increments of a port's generation in a history. -/
def portAdvances (cfg : Config) (history : List (PublisherVisit n)) (p : Fin n) : Nat :=
  (history.map fun x => x.advances cfg p).sum

theorem portAdvances_snoc (cfg : Config) (history : List (PublisherVisit n))
    (x : PublisherVisit n) (p : Fin n) :
    portAdvances cfg (history ++ [x]) p = portAdvances cfg history p + x.advances cfg p := by
  simp [portAdvances]

/-- A time within a second of the item. -/
def ApAnnounceItem.InTime (item : ApAnnounceItem n) (nowUs : Int) : Prop :=
  item.queuedUs ≤ nowUs ∧ nowUs - item.queuedUs < 1000000

/-- The schedule of the station lets this transmission begin. -/
structure Begins (cfg : Config) (turn : AnnounceTurn n) (token : UInt32) (advertised : Int)
    (sequence : UInt16) (x : PublisherVisit n) : Prop where
  isWorker : x.IsWorker
  begun : ∃ nowUs, x.2.worker = .beginning turn nowUs ∧ turn.item.InTime nowUs ∧
    (x.2.beginTurn cfg turn nowUs).2 = some (token, advertised, sequence)

/-- The station was there from the daemon's snapshot on, in one slot and under one number. -/
def ThereSincePosted (cfg : Config) (turn : AnnounceTurn n) (slot : Fin ptpWifiPeersMax)
    (history : List (PublisherVisit n)) : Prop :=
  Since
    (fun _ x => x.Posts cfg turn.item ∧ x.There turn.item.portIndex slot turn.peer)
    (fun x => x.There turn.item.portIndex slot turn.peer) history

/-- What led to a frame: its begin, after which the worker did nothing else, and before it the
    station's association. -/
def AnnounceBegunSince (cfg : Config) (turn : AnnounceTurn n) (token : UInt32) (advertised : Int)
    (sequence : UInt16) (slot : Fin ptpWifiPeersMax) (history : List (PublisherVisit n)) : Prop :=
  Since
    (fun before x => Begins cfg turn token advertised sequence x ∧
      x.There turn.item.portIndex slot turn.peer ∧ ThereSincePosted cfg turn slot before)
    (fun x => ¬ x.IsWorker) history

/-- The transmission of a turn in progress, after a history. -/
structure AnnounceUnderway (cfg : Config) (turn : AnnounceTurn n) (token : UInt32)
    (advertised : Int) (sequence : UInt16) (history : List (PublisherVisit n)) : Prop where
  station : turn.peer ∈ turn.item.peers.entries
  begun : ∃ slot : Fin ptpWifiPeersMax,
    turn.peer.portNumber = ptpWifiAssociationPort (turn.item.portIndex.val + 1) n slot ∧
      AnnounceBegunSince cfg turn token advertised sequence slot history

/-- What holds of every frame handed to the radio. -/
structure FrameSound (cfg : Config) (turn : AnnounceTurn n) (token : UInt32) (advertised : Int)
    (sequence : UInt16) (history : List (PublisherVisit n)) : Prop extends
    AnnounceUnderway cfg turn token advertised sequence history where
  destination : (turn.frame advertised sequence).take 6 = turn.peer.mac.toList
  /-- What is sent is the Announce that was posted, but for the three fields of the station. -/
  message : PtpAnnounce.read ((turn.frame advertised sequence).drop 14) =
    (PtpAnnounce.read turn.item.msg).forStation turn.peer.portNumber sequence advertised
  tlvs : (turn.frame advertised sequence).drop (14 + ptpAnnounceBodyLength) =
    turn.item.msg.drop ptpAnnounceBodyLength

/-! ## Where the worker may be -/

/-- The time a check has read is one within a second. -/
def AnnounceCheck.InTime (item : ApAnnounceItem n) : AnnounceCheck → Prop
  | .age => True
  | .link nowUs | .source nowUs => item.InTime nowUs

/-- The stations of a turn are those of its item. -/
def AnnounceTurn.Ok (turn : AnnounceTurn n) : Prop :=
  turn.peer ∈ turn.item.peers.entries ∧ ∀ peer ∈ turn.rest, peer ∈ turn.item.peers.entries

def AnnounceWorker.Ok : AnnounceWorker n → Prop
  | .waiting => True
  | .entering item check => check.InTime item
  | .checking turn check => turn.Ok ∧ check.InTime turn.item
  | .beginning turn nowUs => turn.Ok ∧ turn.item.InTime nowUs
  | .sending turn _ _ _ | .finishing turn _ _ => turn.Ok

/-- The item the worker has. -/
def AnnounceWorker.item? : AnnounceWorker n → Option (ApAnnounceItem n)
  | .waiting => none
  | .entering item _ => some item
  | .checking turn _ | .beginning turn _ | .sending turn _ _ _ | .finishing turn _ _ =>
    some turn.item

theorem AnnounceWorker.turnTo_ok {item : ApAnnounceItem n} (revision : UInt32)
    {stations : List PtpWifiAssociationEntry}
    (h : ∀ peer ∈ stations, peer ∈ item.peers.entries) :
    (AnnounceWorker.turnTo item revision stations).Ok := by
  cases stations with
  | nil => exact trivial
  | cons peer rest =>
    have hrest : ∀ other ∈ rest, other ∈ item.peers.entries := fun other hother =>
      h other (List.mem_cons_of_mem _ hother)
    exact ⟨⟨h peer List.mem_cons_self, hrest⟩, trivial⟩

theorem AnnounceWorker.turnTo_item (item : ApAnnounceItem n) (revision : UInt32)
    (stations : List PtpWifiAssociationEntry) :
    (AnnounceWorker.turnTo item revision stations).item? = none ∨
      (AnnounceWorker.turnTo item revision stations).item? = some item := by
  cases stations with
  | nil => exact .inl rfl
  | cons peer rest => exact .inr rfl

namespace AnnouncePublisher

variable (s : AnnouncePublisher n)

/-- What a read of the check answers. -/
theorem checkItem_cases (item : ApAnnounceItem n) (nowUs : Int) {check : AnnounceCheck}
    (h : check.InTime item) :
    (∀ next, s.checkItem item nowUs check = .next next → next.InTime item) ∧
      ∀ passed, s.checkItem item nowUs check = .passed passed → item.InTime passed := by
  cases check with
  | age =>
    simp only [checkItem]
    split
    · simp
    · rename_i hage
      simp only [CheckAnswer.next.injEq, reduceCtorEq, false_implies, implies_true, and_true]
      rintro next rfl
      show item.queuedUs ≤ nowUs ∧ nowUs - item.queuedUs < 1000000
      omega
  | link read =>
    simp only [checkItem]
    split
    · simp
    · simp only [CheckAnswer.next.injEq, reduceCtorEq, false_implies, implies_true, and_true]
      rintro next rfl
      exact h
  | source read =>
    simp only [checkItem]
    split
    · simp
    · simp only [CheckAnswer.passed.injEq, reduceCtorEq, false_implies, implies_true, true_and]
      rintro passed rfl
      exact h

/-- The worker goes from one place it may be to another. -/
theorem work_ok (cfg : Config) (nowUs : Int) (accepted : Bool) (h : s.worker.Ok) :
    (s.work cfg nowUs accepted).worker.Ok := by
  have hwork := s.work_cases cfg nowUs accepted
  generalize s.work cfg nowUs accepted = s' at hwork
  cases hwork with
  | idle _ _ => exact h
  | takes item _ _ => exact trivial
  | refuses _ _ _ _ => exact trivial
  | enters item check next hworker hcheck =>
    rw [hworker] at h
    exact (s.checkItem_cases item nowUs h).1 next hcheck
  | informs item _ _ _ _ => exact AnnounceWorker.turnTo_ok _ fun _ hpeer => hpeer
  | checks turn check next hworker hcheck =>
    rw [hworker] at h
    exact ⟨h.1, (s.checkItem_cases turn.item nowUs h.2).1 next hcheck⟩
  | passes turn check passed hworker hcheck =>
    rw [hworker] at h
    exact ⟨h.1, (s.checkItem_cases turn.item nowUs h.2).2 passed hcheck⟩
  | skips turn _ hworker _ =>
    rw [hworker] at h
    exact AnnounceWorker.turnTo_ok _ h.1.2
  | begins turn _ _ _ _ hworker _ =>
    rw [hworker] at h
    exact h.1
  | sends turn _ _ _ hworker =>
    rw [hworker] at h
    exact h
  | finishes turn _ _ hworker =>
    rw [hworker] at h
    exact AnnounceWorker.turnTo_ok _ h.2

/-- The worker has the item it had, or takes the one in the mailbox. -/
theorem work_item {cfg : Config} {nowUs : Int} {accepted : Bool} {item : ApAnnounceItem n}
    (h : (s.work cfg nowUs accepted).worker.item? = some item) :
    s.worker.item? = some item ∨
      s.worker = .waiting ∧ s.mbox = some item ∧ (s.work cfg nowUs accepted).mbox = none := by
  have hturn : ∀ {other : ApAnnounceItem n} {revision stations},
      (AnnounceWorker.turnTo other revision stations).item? = some item →
        some other = some item := by
    intro other revision stations hother
    rcases AnnounceWorker.turnTo_item other revision stations with hnone | hsame
    · rw [hnone] at hother
      cases hother
    · rw [← hsame, hother]
  have hwork := s.work_cases cfg nowUs accepted
  generalize s.work cfg nowUs accepted = s' at h hwork
  cases hwork with
  | idle _ _ => exact .inl h
  | takes _ hworker hmbox =>
    cases h
    exact .inr ⟨hworker, hmbox, rfl⟩
  | refuses _ _ _ _ => cases h
  | enters _ _ _ hworker _ =>
    rw [hworker]
    exact .inl h
  | informs _ _ _ hworker _ =>
    rw [hworker]
    exact .inl (hturn h)
  | checks _ _ _ hworker _ =>
    rw [hworker]
    exact .inl h
  | passes _ _ _ hworker _ =>
    rw [hworker]
    exact .inl h
  | skips _ _ hworker _ =>
    rw [hworker]
    exact .inl (hturn h)
  | begins _ _ _ _ _ hworker _ =>
    rw [hworker]
    exact .inl h
  | sends _ _ _ _ hworker =>
    rw [hworker]
    exact .inl h
  | finishes _ _ _ hworker =>
    rw [hworker]
    exact .inl (hturn h)

/-- The worker empties the mailbox, or leaves it. -/
theorem work_mbox (cfg : Config) (nowUs : Int) (accepted : Bool) :
    (s.work cfg nowUs accepted).mbox = none ∨ (s.work cfg nowUs accepted).mbox = s.mbox := by
  have hwork := s.work_cases cfg nowUs accepted
  generalize s.work cfg nowUs accepted = s' at hwork
  cases hwork with
  | takes _ _ _ => exact .inl rfl
  | _ => exact .inr rfl

theorem turnTo_ne_sending (item : ApAnnounceItem n) (revision : UInt32)
    (stations : List PtpWifiAssociationEntry) (turn : AnnounceTurn n) (token : UInt32)
    (advertised : Int) (sequence : UInt16) :
    AnnounceWorker.turnTo item revision stations ≠ .sending turn token advertised sequence := by
  cases stations <;> simp [AnnounceWorker.turnTo]

/-- A transmission comes from the begin of its turn only. -/
theorem work_sending {cfg : Config} {nowUs : Int} {accepted : Bool} {turn : AnnounceTurn n}
    {token : UInt32} {advertised : Int} {sequence : UInt16}
    (h : (s.work cfg nowUs accepted).worker = .sending turn token advertised sequence) :
    ∃ read, s.worker = .beginning turn read ∧
      (s.beginTurn cfg turn read).2 = some (token, advertised, sequence) := by
  have hwork := s.work_cases cfg nowUs accepted
  generalize s.work cfg nowUs accepted = s' at h hwork
  cases hwork with
  | idle hworker _ =>
    rw [hworker] at h
    cases h
  | begins turn read token advertised sequence hworker hbegun =>
    cases h
    exact ⟨read, hworker, hbegun⟩
  | informs _ _ _ _ _ => exact absurd h (turnTo_ne_sending _ _ _ _ _ _ _)
  | skips _ _ _ _ => exact absurd h (turnTo_ne_sending _ _ _ _ _ _ _)
  | finishes _ _ _ _ => exact absurd h (turnTo_ne_sending _ _ _ _ _ _ _)
  | _ => cases h

/-- What the worker does to a registry does not show in its lifetimes. -/
theorem work_registry (cfg : Config) (nowUs : Int) (accepted : Bool) (p : Fin n) :
    ((s.work cfg nowUs accepted).peers p).registry = (s.peers p).registry := by
  have hupdate : ∀ (q : Fin n) (peers : PtpWifiPeers), peers.registry = (s.peers q).registry →
      (Function.update s.peers q peers p).registry = (s.peers p).registry := by
    intro q peers hsame
    by_cases hp : p = q
    · subst hp
      rw [Function.update_self, hsame]
    · rw [Function.update_of_ne hp]
  have hbegin : ∀ turn read, (s.beginTurn cfg turn read).1.registry =
      (s.peers turn.item.portIndex).registry := by
    intro turn read
    have hkept := workStep_keeps cfg (s.peers turn.item.portIndex) turn.peer.mac
      turn.peer.association (.announceBegin (s.portOpen turn.item.portIndex)
        turn.peer.announceRevision turn.revision turn.item.initialInterval read)
    exact registry_congr hkept.1 hkept.2
  have hwork := s.work_cases cfg nowUs accepted
  generalize s.work cfg nowUs accepted = s' at hwork
  cases hwork with
  | skips turn read _ _ => exact hupdate _ _ (hbegin turn read)
  | begins turn read _ _ _ _ _ => exact hupdate _ _ (hbegin turn read)
  | finishes turn token taken _ =>
    have hkept := workStep_keeps cfg (s.peers turn.item.portIndex) turn.peer.mac
      turn.peer.association (.announceFinish (s.portOpen turn.item.portIndex) token taken nowUs)
    exact hupdate _ _ (registry_congr hkept.1 hkept.2)
  | _ => rfl

/-- A begin that is taken finds the association. -/
theorem beginTurn_there {cfg : Config} {turn : AnnounceTurn n} {read : Int}
    {begun : UInt32 × Int × UInt16} (h : (s.beginTurn cfg turn read).2 = some begun) :
    ∃ slot, (s.peers turn.item.portIndex).lifetime slot =
      some (turn.peer.mac, turn.peer.association) := by
  by_contra hnone
  have hended := onAssociation_ended (α := Option (UInt32 × Int × UInt16))
    (fun peer =>
      let answer := ptpAnnounceBegin peer.announce turn.item.initialInterval
        turn.peer.announceRevision turn.revision read
      ({ peer with announce := answer.1 }, answer.2)) none
    fun slot hslot => hnone ⟨slot, hslot⟩
  unfold beginTurn ptpdWifiAnnounceBegin at h
  split at h
  · cases h
  · rw [hended] at h
    cases h

end AnnouncePublisher

/-! ## The registries of a run -/

/-- The registries behave, and count their advances. -/
structure RegistriesSound (cfg : Config) (history : List (PublisherVisit n))
    (s : AnnouncePublisher n) : Prop where
  wellNumbered : ∀ p, (s.peers p).registry.WellNumbered
  counted : ∀ p, (s.peers p).registry.gen = portAdvances cfg history p

/-- One event, as far as the registry of a port goes. -/
theorem AnnouncePublisher.apply_reaches (s : AnnouncePublisher n) (cfg : Config)
    (hwell : ∀ p, (s.peers p).registry.WellNumbered) (e : PublisherEvent n) (p : Fin n)
    (hbound : (s.peers p).registry.gen + PublisherVisit.advances cfg p (e, s) < 2 ^ 32) :
    Registry.Reaches (s.peers p).registry ((s.apply cfg e).peers p).registry ∧
      ((s.apply cfg e).peers p).registry.gen =
        (s.peers p).registry.gen + PublisherVisit.advances cfg p (e, s) := by
  have hsame : ((s.apply cfg e).peers p).registry = (s.peers p).registry →
      PublisherVisit.advances cfg p (e, s) = 0 →
        Registry.Reaches (s.peers p).registry ((s.apply cfg e).peers p).registry ∧
          ((s.apply cfg e).peers p).registry.gen =
            (s.peers p).registry.gen + PublisherVisit.advances cfg p (e, s) := by
    intro hregistry hnone
    rw [hregistry, hnone]
    exact ⟨Relation.ReflTransGen.refl, rfl⟩
  cases e with
  | announce q srcMac ptpMsg reads =>
    refine hsame ?_ rfl
    unfold apply
    dsimp only
    split <;> rfl
  | worker nowUs accepted => exact hsame (s.work_registry cfg nowUs accepted p) rfl
  | peers q op =>
    -- Only an operation on the stations of this very port moves its registry.
    by_cases hq : q = p
    · subst hq
      have hadvances : PublisherVisit.advances cfg q (.peers q op, s) =
          (peersStep cfg (s.peers q) op).2.advances := if_pos rfl
      have hpeers : (s.apply cfg (.peers q op)).peers q = (peersStep cfg (s.peers q) op).1 :=
        Function.update_self ..
      rw [hadvances] at hbound ⊢
      rw [hpeers]
      have hevolves := peersStep_evolves cfg (hwell q) op hbound
      exact ⟨hevolves.reaches, hevolves.gen⟩
    · refine hsame ?_ (if_neg hq)
      show (Function.update s.peers q _ p).registry = _
      rw [Function.update_of_ne (Ne.symm hq)]
  | port q isOpen => exact hsame rfl rfl
  | link q => exact hsame rfl rfl
  | source generation => exact hsame rfl rfl

theorem RegistriesSound.snoc {cfg : Config} {history : List (PublisherVisit n)}
    {s : AnnouncePublisher n} (h : RegistriesSound cfg history s) (e : PublisherEvent n)
    (hbound : ∀ p, portAdvances cfg (history ++ [(e, s)]) p < 2 ^ 32) :
    RegistriesSound cfg (history ++ [(e, s)]) (s.apply cfg e) ∧
      ∀ p, Registry.Reaches (s.peers p).registry ((s.apply cfg e).peers p).registry := by
  have hsum : ∀ p, portAdvances cfg (history ++ [(e, s)]) p =
      (s.peers p).registry.gen + PublisherVisit.advances cfg p (e, s) := by
    intro p
    rw [portAdvances_snoc, h.counted p]
  have hreaches := fun p =>
    s.apply_reaches cfg h.wellNumbered e p (by rw [← hsum p]; exact hbound p)
  refine ⟨⟨fun p => (hreaches p).1.wellNumbered (h.wellNumbered p), fun p => ?_⟩,
    fun p => (hreaches p).1⟩
  rw [hsum p]
  exact (hreaches p).2

/-! ## The item that was posted -/

/-- The registry of a port, from a visit through others to a state. -/
structure Along (p : Fin n) (x : PublisherVisit n) (after : List (PublisherVisit n))
    (s : AnnouncePublisher n) : Prop where
  wellNumbered : (x.2.peers p).registry.WellNumbered
  reaches : Registry.Reaches (x.2.peers p).registry (s.peers p).registry
  between : ∀ y ∈ after, Registry.Reaches (x.2.peers p).registry (y.2.peers p).registry ∧
    Registry.Reaches (y.2.peers p).registry (s.peers p).registry

theorem Along.snoc {p : Fin n} {x : PublisherVisit n} {after : List (PublisherVisit n)}
    {s s' : AnnouncePublisher n} (h : Along p x after s)
    (hreaches : Registry.Reaches (s.peers p).registry (s'.peers p).registry)
    (e : PublisherEvent n) : Along p x (after ++ [(e, s)]) s' where
  wellNumbered := h.wellNumbered
  reaches := h.reaches.trans hreaches
  between := by
    intro y hy
    rcases List.mem_append.mp hy with hy | hy
    · exact ⟨(h.between y hy).1, (h.between y hy).2.trans hreaches⟩
    · rw [List.mem_singleton.mp hy]
      exact ⟨h.reaches, hreaches⟩

/-- The item was posted in the history. -/
def Posted (cfg : Config) (history : List (PublisherVisit n)) (s : AnnouncePublisher n)
    (item : ApAnnounceItem n) : Prop :=
  ∃ before x after, history = before ++ x :: after ∧ x.Posts cfg item ∧
    Along item.portIndex x after s

theorem Posted.snoc {cfg : Config} {history : List (PublisherVisit n)} {s s' : AnnouncePublisher n}
    {item : ApAnnounceItem n} (h : Posted cfg history s item)
    (hreaches : ∀ p, Registry.Reaches (s.peers p).registry (s'.peers p).registry)
    (e : PublisherEvent n) : Posted cfg (history ++ [(e, s)]) s' item := by
  obtain ⟨before, x, after, rfl, hposts, halong⟩ := h
  exact ⟨before, x, after ++ [(e, s)], by simp, hposts, halong.snoc (hreaches _) e⟩

/-- The stations of an item are those of its port when it was posted. -/
theorem PublisherVisit.Posts.there {cfg : Config} {item : ApAnnounceItem n} {x : PublisherVisit n}
    (h : x.Posts cfg item) {peer : PtpWifiAssociationEntry} (hpeer : peer ∈ item.peers.entries) :
    ∃ slot : Fin ptpWifiPeersMax, x.There item.portIndex slot peer ∧
      peer.portNumber = ptpWifiAssociationPort (item.portIndex.val + 1) n slot := by
  obtain ⟨p, srcMac, ptpMsg, reads, -, hitem⟩ := h
  unfold ptpWifiApSendAnnounce at hitem
  split at hitem
  · cases hitem
  · split at hitem
    · cases hitem
    · rename_i snapshot hsnapshot
      split at hitem
      · cases hitem
      · cases hitem
        unfold ptpdWifiAssociationSnapshot at hsnapshot
        split at hsnapshot
        · unfold ptpWifiPeersSnapshot at hsnapshot
          split at hsnapshot
          · cases hsnapshot
          · split at hsnapshot
            · cases hsnapshot
            · cases hsnapshot
              obtain ⟨slot, hslot, rfl⟩ := List.mem_map.mp hpeer
              have hassociated : ((x.2.peers p).entries slot).associated = true :=
                (List.mem_filter.mp hslot).2
              exact ⟨slot, if_pos hassociated, rfl⟩
        · cases hsnapshot

/-- A station of the item that is there now was there all along, in the slot of its port
    number. -/
theorem Posted.there {cfg : Config} {history : List (PublisherVisit n)} {s : AnnouncePublisher n}
    {turn : AnnounceTurn n} (h : Posted cfg history s turn.item)
    (hpeer : turn.peer ∈ turn.item.peers.entries) {now : Fin ptpWifiPeersMax}
    (hnow : (s.peers turn.item.portIndex).lifetime now =
      some (turn.peer.mac, turn.peer.association)) :
    ∃ slot : Fin ptpWifiPeersMax,
      turn.peer.portNumber = ptpWifiAssociationPort (turn.item.portIndex.val + 1) n slot ∧
        (s.peers turn.item.portIndex).lifetime slot =
          some (turn.peer.mac, turn.peer.association) ∧
        ThereSincePosted cfg turn slot history := by
  obtain ⟨before, x, after, rfl, hposts, halong⟩ := h
  obtain ⟨slot, hthere, hport⟩ := hposts.there hpeer
  -- A registry never gives an association out again, so the two entries are of one lifetime.
  have hsame := fun middle
      (hto : Registry.Reaches (x.2.peers turn.item.portIndex).registry middle)
      (hfrom : Registry.Reaches middle (s.peers turn.item.portIndex).registry) =>
    hto.sameLifetime halong.wellNumbered hfrom (registry_table hthere) (registry_table hnow)
  obtain ⟨rfl, -, -⟩ := hsame _ Relation.ReflTransGen.refl halong.reaches
  refine ⟨now, hport, hnow, before, x, after, rfl, ⟨hposts, hthere⟩, ?_⟩
  intro y hy
  obtain ⟨hto, hfrom⟩ := halong.between y hy
  exact registry_table_iff.mp (hsame _ hto hfrom).2.2

/-! ## The invariant -/

/-- What a history and the state it led to have in common. -/
structure PublisherInv (cfg : Config) (history : List (PublisherVisit n))
    (s : AnnouncePublisher n) : Prop where
  registries : RegistriesSound cfg history s
  ok : s.worker.Ok
  mbox : ∀ item, s.mbox = some item → Posted cfg history s item
  item : ∀ item, s.worker.item? = some item → Posted cfg history s item
  begun : ∀ turn token advertised sequence, s.worker = .sending turn token advertised sequence →
    AnnounceUnderway cfg turn token advertised sequence history

theorem PublisherInv.start {cfg : Config} {s₀ : AnnouncePublisher n} (h : s₀.Fresh) :
    PublisherInv cfg [] s₀ where
  registries :=
    ⟨fun p => by rw [h.peers p]; exact Registry.wellNumbered_empty,
      fun p => by rw [h.peers p]; rfl⟩
  ok := by
    rw [h.worker]
    exact trivial
  mbox := by simp [h.mbox]
  item := by simp [h.worker, AnnounceWorker.item?]
  begun := by simp [h.worker]

/-- An event of somebody else leaves the worker where it is. -/
theorem AnnouncePublisher.apply_worker (s : AnnouncePublisher n) (cfg : Config)
    {e : PublisherEvent n} (h : ∀ nowUs accepted, e ≠ .worker nowUs accepted) :
    (s.apply cfg e).worker = s.worker := by
  cases e with
  | announce p srcMac ptpMsg reads =>
    unfold apply
    dsimp only
    split <;> rfl
  | worker nowUs accepted => exact absurd rfl (h nowUs accepted)
  | _ => rfl

theorem AnnouncePublisher.apply_mbox (s : AnnouncePublisher n) {cfg : Config}
    {e : PublisherEvent n} {item : ApAnnounceItem n} (h : (s.apply cfg e).mbox = some item) :
    s.mbox = some item ∨ PublisherVisit.Posts cfg item (e, s) := by
  cases e with
  | announce p srcMac ptpMsg reads =>
    unfold apply at h
    dsimp only at h
    split at h
    · exact .inl h
    · rename_i other hother
      cases h
      exact .inr ⟨p, srcMac, ptpMsg, reads, rfl, hother⟩
  | worker nowUs accepted =>
    rcases s.work_mbox cfg nowUs accepted with hnone | hsame
    · have hmbox : (s.work cfg nowUs accepted).mbox = some item := h
      rw [hnone] at hmbox
      cases hmbox
    · exact .inl (hsame.symm.trans h)
  | _ => exact .inl h

theorem PublisherInv.step {cfg : Config} {history : List (PublisherVisit n)}
    {s : AnnouncePublisher n} (h : PublisherInv cfg history s) (e : PublisherEvent n)
    (hbound : ∀ p, portAdvances cfg (history ++ [(e, s)]) p < 2 ^ 32) :
    PublisherInv cfg (history ++ [(e, s)]) (s.apply cfg e) := by
  obtain ⟨hregistries, hreaches⟩ := h.registries.snoc e hbound
  by_cases hworker : PublisherVisit.IsWorker (e, s)
  · obtain ⟨nowUs, accepted, rfl⟩ := hworker
    refine ⟨hregistries, s.work_ok cfg nowUs accepted h.ok, ?_, ?_, ?_⟩
    · intro item hitem
      rcases s.apply_mbox hitem with hmbox | ⟨_, _, _, _, hother, -⟩
      · exact (h.mbox item hmbox).snoc hreaches _
      · cases hother
    · intro item hitem
      rcases s.work_item hitem with hsame | ⟨-, hmbox, -⟩
      · exact (h.item item hsame).snoc hreaches _
      · exact (h.mbox item hmbox).snoc hreaches _
    · intro turn token advertised sequence hsending
      -- The frame begins here: the station is there now, and so it was since the item was posted.
      obtain ⟨read, hbeginning, hbegun⟩ := s.work_sending hsending
      have hok := h.ok
      rw [hbeginning] at hok
      obtain ⟨now, hnow⟩ := s.beginTurn_there hbegun
      have hposted := h.item turn.item (by rw [hbeginning]; rfl)
      obtain ⟨slot, hport, hthere, hsince⟩ := hposted.there hok.1.1 hnow
      refine ⟨hok.1.1, slot, hport, Since.now ⟨?_, hthere, hsince⟩⟩
      exact ⟨⟨nowUs, accepted, rfl⟩, read, hbeginning, hok.2, hbegun⟩
  · have hkept := s.apply_worker cfg (e := e) fun nowUs accepted heq =>
      hworker ⟨nowUs, accepted, heq⟩
    refine ⟨hregistries, ?_, ?_, ?_, ?_⟩
    · rw [hkept]
      exact h.ok
    · intro item hitem
      rcases s.apply_mbox hitem with hmbox | hposts
      · exact (h.mbox item hmbox).snoc hreaches _
      · -- The event posts the item, and nothing has come after it.
        refine ⟨history, (e, s), [], rfl, hposts, h.registries.wellNumbered _, hreaches _, ?_⟩
        simp
    · rw [hkept]
      intro item hitem
      exact (h.item item hitem).snoc hreaches _
    · rw [hkept]
      intro turn token advertised sequence hsending
      obtain ⟨hpeer, slot, hport, hsince⟩ := h.begun turn token advertised sequence hsending
      exact ⟨hpeer, slot, hport, hsince.snoc hworker⟩

/-! ## The frames of a run -/

@[simp] theorem radioFrame_take (srcMac dstMac : MacAddr) (ptpMsg : Bytes) :
    (radioFrame srcMac dstMac ptpMsg).take 6 = dstMac.toList := by
  simp [radioFrame]

@[simp] theorem radioFrame_drop (srcMac dstMac : MacAddr) (ptpMsg : Bytes) (i : Nat) :
    (radioFrame srcMac dstMac ptpMsg).drop (14 + i) = ptpMsg.drop i := by
  unfold radioFrame
  rw [List.drop_append, List.drop_eq_nil_of_le (by simp)]
  simp

theorem announceFor_drop (msg : Bytes) (portNumber : Nat) (sequence : UInt16) (advertised : Int) :
    (announceFor msg portNumber sequence advertised).drop ptpAnnounceBodyLength =
      msg.drop ptpAnnounceBodyLength := by
  simp [announceFor, ptpAnnounceBodyLength, List.drop_set]

theorem PublisherVisit.Posts.length {cfg : Config} {item : ApAnnounceItem n} {x : PublisherVisit n}
    (h : x.Posts cfg item) : ptpAnnounceBodyLength ≤ item.msg.length := by
  obtain ⟨p, srcMac, ptpMsg, reads, -, hitem⟩ := h
  unfold ptpWifiApSendAnnounce at hitem
  split at hitem
  · cases hitem
  · split at hitem
    · cases hitem
    · split at hitem
      · cases hitem
      · cases hitem
        dsimp only
        omega

/-- What a run keeps. -/
structure PublisherRun (cfg : Config) (history : List (PublisherVisit n))
    (s : AnnouncePublisher n) : Prop where
  inv : PublisherInv cfg history s
  sound : Always
    (fun before x => ∀ turn token advertised sequence,
      x.Transmits turn token advertised sequence →
        FrameSound cfg turn token advertised sequence before) history

theorem PublisherInv.frame {cfg : Config} {history : List (PublisherVisit n)}
    {s : AnnouncePublisher n} (h : PublisherInv cfg history s) {turn : AnnounceTurn n}
    {token : UInt32} {advertised : Int} {sequence : UInt16}
    (hsending : s.worker = .sending turn token advertised sequence) :
    FrameSound cfg turn token advertised sequence history := by
  obtain ⟨before, x, after, -, hposts, -⟩ := h.item turn.item (by rw [hsending]; rfl)
  have hlength := hposts.length
  refine ⟨h.begun turn token advertised sequence hsending, radioFrame_take .., ?_, ?_⟩
  · show PtpAnnounce.read ((radioFrame _ _ _).drop (14 + 0)) = _
    rw [radioFrame_drop, List.drop_zero, read_announceFor (by
      unfold ptpAnnounceBodyLength at hlength
      omega)]
  · rw [AnnounceTurn.frame, radioFrame_drop, announceFor_drop]

theorem PublisherRun.step {cfg : Config} {history : List (PublisherVisit n)}
    {s : AnnouncePublisher n} (h : PublisherRun cfg history s) (e : PublisherEvent n)
    (hbound : ∀ p, portAdvances cfg (history ++ [(e, s)]) p < 2 ^ 32) :
    PublisherRun cfg (history ++ [(e, s)]) (s.apply cfg e) where
  inv := h.inv.step e hbound
  sound := by
    apply h.sound.snoc
    intro turn token advertised sequence htransmits
    exact h.inv.frame htransmits.2

/-- A fresh publisher of one port. -/
def Sample.publisher : AnnouncePublisher 1 where
  peers := fun _ => PtpWifiPeers.zero
  portOpen := fun _ => true
  linkGeneration := fun _ => 0
  timingGeneration := 0
  mbox := none
  information := fun _ => default
  worker := .waiting

theorem Sample.publisher_fresh : Sample.publisher.Fresh := ⟨fun _ => rfl, rfl, rfl, rfl⟩

/-- A station joins, an Announce is posted, and the worker sends it. -/
def Sample.announced : List (PublisherEvent 1) :=
  [.peers ⟨0, Nat.one_pos⟩ (.join Sample.station),
    .announce ⟨0, Nat.one_pos⟩ Sample.station (List.replicate 64 0) ⟨0, 0, 5⟩] ++
    List.replicate 9 (.worker 7 true)

namespace PublisherVisit

/-- A frame is handed to the radio. -/
def IsTransmission (x : PublisherVisit n) : Prop :=
  ∃ turn token advertised sequence, x.Transmits turn token advertised sequence

/-- The worker reads the link generation, and it is the item's. -/
def FindsLink (item : ApAnnounceItem n) (x : PublisherVisit n) : Prop :=
  x.IsWorker ∧ item.generation = x.2.linkGeneration item.portIndex ∧
    ∃ turn read, x.2.worker = .checking turn (.link read)

/-- The worker reads the timing generation, and it is the item's. -/
def FindsSource (item : ApAnnounceItem n) (x : PublisherVisit n) : Prop :=
  x.IsWorker ∧ item.sourceGeneration = x.2.timingGeneration ∧
    ∃ turn read, x.2.worker = .checking turn (.source read)

/-- The worker takes the item out of the mailbox. -/
def Takes (item : ApAnnounceItem n) (x : PublisherVisit n) : Prop :=
  x.IsWorker ∧ x.2.worker = .waiting ∧ x.2.mbox = some item

end PublisherVisit

/-- The link was found to be the item's, and no frame was sent since. -/
def LinkFound (item : ApAnnounceItem n) (history : List (PublisherVisit n)) : Prop :=
  Since (fun _ x => x.FindsLink item) (fun x => ¬ x.IsTransmission) history

/-- Both generations were found to be the item's, and no frame was sent since. -/
def CheckPassed (item : ApAnnounceItem n) (history : List (PublisherVisit n)) : Prop :=
  Since (fun before x => x.FindsSource item ∧ LinkFound item before)
    (fun x => ¬ x.IsTransmission) history

/-- The reads that are behind the worker. -/
def AnnounceWorker.Checked (history : List (PublisherVisit n)) : AnnounceWorker n → Prop
  | .checking turn (.source _) => LinkFound turn.item history
  | .beginning turn _ | .sending turn _ _ _ => CheckPassed turn.item history
  | _ => True

theorem AnnounceWorker.turnTo_checked (history : List (PublisherVisit n)) (item : ApAnnounceItem n)
    (revision : UInt32) (stations : List PtpWifiAssociationEntry) :
    (AnnounceWorker.turnTo item revision stations).Checked history := by
  cases stations <;> exact trivial

theorem AnnounceWorker.Checked.snoc {history : List (PublisherVisit n)} {worker : AnnounceWorker n}
    (h : worker.Checked history) {x : PublisherVisit n} (hx : ¬ x.IsTransmission) :
    worker.Checked (history ++ [x]) := by
  cases worker with
  | checking turn check =>
    cases check with
    | source read => exact Since.snoc h hx
    | _ => exact trivial
  | beginning turn read => exact Since.snoc h hx
  | sending turn token advertised sequence => exact Since.snoc h hx
  | _ => exact trivial

/-- The worker reads on, or is done with its reads. -/
theorem AnnouncePublisher.work_checked {cfg : Config} {history : List (PublisherVisit n)}
    {s : AnnouncePublisher n} (nowUs : Int) (accepted : Bool) (h : s.worker.Checked history) :
    (s.work cfg nowUs accepted).worker.Checked (history ++ [(.worker nowUs accepted, s)]) := by
  have hquiet : (∀ turn token advertised sequence,
      s.worker ≠ .sending turn token advertised sequence) →
        ¬ PublisherVisit.IsTransmission (.worker nowUs accepted, s) := by
    rintro hnone ⟨turn, token, advertised, sequence, -, hsending⟩
    exact hnone _ _ _ _ hsending
  have hwork := s.work_cases cfg nowUs accepted
  generalize s.work cfg nowUs accepted = s' at hwork
  cases hwork with
  | idle hworker _ => exact h.snoc (hquiet (by simp [hworker]))
  | checks turn check next hworker hcheck =>
    cases check with
    | age =>
      simp only [checkItem] at hcheck
      split at hcheck
      · cases hcheck
      · cases hcheck
        exact trivial
    | link read =>
      simp only [checkItem] at hcheck
      split at hcheck
      · cases hcheck
      · rename_i hlink
        cases hcheck
        exact Since.now ⟨⟨nowUs, accepted, rfl⟩, not_not.mp hlink, turn, read, hworker⟩
    | source read =>
      simp only [checkItem] at hcheck
      split at hcheck <;> cases hcheck
  | passes turn check passed hworker hcheck =>
    cases check with
    | age =>
      simp only [checkItem] at hcheck
      split at hcheck <;> cases hcheck
    | link read =>
      simp only [checkItem] at hcheck
      split at hcheck <;> cases hcheck
    | source read =>
      simp only [checkItem] at hcheck
      split at hcheck
      · cases hcheck
      · rename_i hsource
        rw [hworker] at h
        exact Since.now ⟨⟨⟨nowUs, accepted, rfl⟩, not_not.mp hsource, turn, read, hworker⟩, h⟩
  | begins turn read _ _ _ hworker _ =>
    have hpassed : CheckPassed turn.item history := by
      rw [hworker] at h
      exact h
    exact hpassed.snoc (hquiet (by simp [hworker]))
  | informs _ _ _ _ _ => exact AnnounceWorker.turnTo_checked _ _ _ _
  | skips _ _ _ _ => exact AnnounceWorker.turnTo_checked _ _ _ _
  | finishes _ _ _ _ => exact AnnounceWorker.turnTo_checked _ _ _ _
  | _ => exact trivial

/-- The mailbox holds what was posted last, and not taken since. -/
def MailboxNewest (cfg : Config) (history : List (PublisherVisit n))
    (item : ApAnnounceItem n) : Prop :=
  Since (fun _ x => x.Posts cfg item)
    (fun x => ∀ other, ¬ x.Posts cfg other ∧ ¬ x.Takes other) history

/-- What a frame and an item that is taken have behind them. -/
structure CheckInv (cfg : Config) (history : List (PublisherVisit n))
    (s : AnnouncePublisher n) : Prop where
  checked : s.worker.Checked history
  newest : ∀ item, s.mbox = some item → MailboxNewest cfg history item

theorem CheckInv.step {cfg : Config} {history : List (PublisherVisit n)}
    {s : AnnouncePublisher n} (h : CheckInv cfg history s) (e : PublisherEvent n) :
    CheckInv cfg (history ++ [(e, s)]) (s.apply cfg e) where
  checked := by
    by_cases hworker : PublisherVisit.IsWorker (e, s)
    · obtain ⟨nowUs, accepted, rfl⟩ := hworker
      exact s.work_checked nowUs accepted h.checked
    · rw [s.apply_worker cfg fun nowUs accepted heq => hworker ⟨nowUs, accepted, heq⟩]
      apply h.checked.snoc
      rintro ⟨_, _, _, _, hother, -⟩
      exact hworker hother
  newest := by
    intro item hitem
    by_cases hposts : PublisherVisit.Posts cfg item (e, s)
    · exact Since.now hposts
    · rcases s.apply_mbox hitem with hmbox | hnow
      · refine (h.newest item hmbox).snoc ?_
        intro other
        constructor
        · -- A post would have been of this item.
          rintro ⟨p, srcMac, ptpMsg, reads, rfl, hother⟩
          have hput : (s.apply cfg (.announce p srcMac ptpMsg reads)).mbox = some other := by
            unfold AnnouncePublisher.apply
            dsimp only
            rw [hother]
          rw [hput] at hitem
          cases hitem
          exact hposts ⟨p, srcMac, ptpMsg, reads, rfl, hother⟩
        · rintro ⟨⟨nowUs, accepted, rfl⟩, hwaiting, hother⟩
          have hempty : (s.work cfg nowUs accepted).mbox = none := by
            unfold AnnouncePublisher.work
            rw [hwaiting, hother]
          have hfull : (s.work cfg nowUs accepted).mbox = some item := hitem
          rw [hempty] at hfull
          cases hfull
      · exact absurd hnow hposts

theorem checkInv_run (cfg : Config) {s₀ : AnnouncePublisher n} (hfresh : s₀.Fresh)
    (events : List (PublisherEvent n)) :
    CheckInv cfg (trace (publisherStep cfg) s₀ events) (run (publisherStep cfg) s₀ events) := by
  apply run_induction
  · refine ⟨?_, ?_⟩
    · rw [hfresh.worker]
      exact trivial
    · simp [hfresh.mbox]
  · intro history s e h
    exact h.step e

/-- What holds of the frames of a run, beside what each is. -/
structure FramesCurrent (cfg : Config) (history : List (PublisherVisit n)) : Prop where
  /-- The worker takes the item posted last, and takes it once. -/
  newest : ∀ before x after item, history = before ++ x :: after → x.Takes item →
    MailboxNewest cfg before item
  checked : ∀ before x after turn token advertised sequence, history = before ++ x :: after →
    x.Transmits turn token advertised sequence → CheckPassed turn.item before
  /-- Between two frames both generations were found to be those of the second one's item. -/
  apart : ∀ before x middle y after turn token advertised sequence,
    history = before ++ x :: (middle ++ y :: after) → x.IsTransmission →
    y.Transmits turn token advertised sequence →
      (∃ z ∈ middle, z.FindsLink turn.item) ∧ ∃ z ∈ middle, z.FindsSource turn.item

theorem CheckPassed.after_transmission {item : ApAnnounceItem n}
    {before middle : List (PublisherVisit n)} {x : PublisherVisit n}
    (h : CheckPassed item (before ++ x :: middle)) (hx : x.IsTransmission) :
    (∃ z ∈ middle, z.FindsLink item) ∧ ∃ z ∈ middle, z.FindsSource item := by
  -- While a frame goes out the worker reads nothing, so both reads came after it.
  obtain ⟨turn, token, advertised, sequence, -, hsending⟩ := id hx
  obtain ⟨first, z, rest, rfl, hsource, hlink⟩ := h.started_after (not_not.mpr hx) (by
    rintro past ⟨⟨-, -, turn, read, hchecking⟩, -⟩
    rw [hsending] at hchecking
    cases hchecking)
  obtain ⟨first', w, rest', rfl, hw⟩ := hlink.started_after (not_not.mpr hx) (by
    rintro past ⟨-, -, turn, read, hchecking⟩
    rw [hsending] at hchecking
    cases hchecking)
  exact ⟨⟨w, by simp, hw⟩, z, by simp, hsource⟩

/-- **No frame of an Announce that is out of date, but for one that was past its check**: the
    worker takes the newest, and checks both generations anew before every frame. -/
theorem announceFrames_current (cfg : Config) (s₀ : AnnouncePublisher n) (hfresh : s₀.Fresh)
    (events : List (PublisherEvent n)) :
    FramesCurrent cfg (trace (publisherStep cfg) s₀ events) := by
  have hinv : ∀ {before x after}, trace (publisherStep cfg) s₀ events = before ++ x :: after →
      CheckInv cfg before x.2 := by
    intro before x after hsplit
    obtain ⟨first, rest, -, rfl, hx⟩ := trace_split hsplit
    rw [hx]
    exact checkInv_run cfg hfresh first
  have hchecked : ∀ {before x after turn token advertised sequence},
      trace (publisherStep cfg) s₀ events = before ++ x :: after →
        x.Transmits turn token advertised sequence → CheckPassed turn.item before := by
    intro before x after turn token advertised sequence hsplit htransmits
    have hdone := (hinv hsplit).checked
    rw [htransmits.2] at hdone
    exact hdone
  refine ⟨?_, ?_, ?_⟩
  · intro before x after item hsplit htakes
    exact (hinv hsplit).newest item htakes.2.2
  · intro before x after turn token advertised sequence hsplit htransmits
    exact hchecked hsplit htransmits
  · intro before x middle y after turn token advertised sequence hsplit hx hy
    have hsplit' : trace (publisherStep cfg) s₀ events = (before ++ x :: middle) ++ y :: after := by
      rw [hsplit]
      simp
    exact (hchecked hsplit' hy).after_transmission hx

theorem announceFrames_current_joined :
    FramesCurrent Sample.config
      (trace (publisherStep Sample.config) Sample.publisher Sample.announced) :=
  announceFrames_current _ _ Sample.publisher_fresh _

end EspPtp
