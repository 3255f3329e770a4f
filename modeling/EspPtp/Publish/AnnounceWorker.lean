import EspPtp.Publish.AnnounceItem
import EspPtp.Wifi.Lifetimes

/-!
# The Announce worker (`ap_announce_task`, `ap_send_announce_now`)

Three tasks meet here. The daemon puts an Announce and the stations of the moment into a
mailbox of one place, over whatever is still in it. The worker takes it out and goes through
the stations; before each it looks at the clock and at two generation numbers, asks the
station's schedule under the lock, transmits, and reports under the lock what became of it.
And the event loop changes stations, ports and links all the while.

`publisherStep` takes one critical section, one read of a number that others write, or one call
of the radio at a time, so any two of them may have any others between them.
-/

namespace EspPtp

open Lib

/-- The next read of the worker's check. -/
inductive AnnounceCheck where
  /-- The clock. -/
  | age
  /-- `ptp_wifi_link_generation`. -/
  | link (nowUs : Int)
  /-- `ptpd_timing_generation`. -/
  | source (nowUs : Int)

/-- A turn of the loop over the stations, and the stations behind. -/
structure AnnounceTurn (n : Nat) where
  item : ApAnnounceItem n
  revision : UInt32
  peer : PtpWifiAssociationEntry
  rest : List PtpWifiAssociationEntry

/-- Where the worker is. -/
inductive AnnounceWorker (n : Nat) where
  | waiting
  /-- In the check before the loop. -/
  | entering (item : ApAnnounceItem n) (check : AnnounceCheck)
  | checking (turn : AnnounceTurn n) (check : AnnounceCheck)
  | beginning (turn : AnnounceTurn n) (nowUs : Int)
  | sending (turn : AnnounceTurn n) (token : UInt32) (advertised : Int) (sequence : UInt16)
  | finishing (turn : AnnounceTurn n) (token : UInt32) (accepted : Bool)

/-- The loop of `ap_send_announce_now`, with these stations left. -/
def AnnounceWorker.turnTo {n : Nat} (item : ApAnnounceItem n) (revision : UInt32) :
    List PtpWifiAssociationEntry → AnnounceWorker n
  | [] => .waiting
  | peer :: rest => .checking ⟨item, revision, peer, rest⟩ .age

def AnnounceTurn.next {n : Nat} (turn : AnnounceTurn n) : AnnounceWorker n :=
  .turnTo turn.item turn.revision turn.rest

/-- The frame of a turn. -/
def AnnounceTurn.frame {n : Nat} (turn : AnnounceTurn n) (advertised : Int) (sequence : UInt16) :
    Bytes :=
  radioFrame turn.item.srcMac turn.peer.mac
    (announceFor turn.item.msg turn.peer.portNumber sequence advertised)

/-- What the three tasks share, and where the worker is. -/
structure AnnouncePublisher (n : Nat) where
  peers : Fin n → PtpWifiPeers
  portOpen : Fin n → Bool
  linkGeneration : Fin n → UInt32
  timingGeneration : UInt32
  mbox : Option (ApAnnounceItem n)
  information : Fin n → AnnounceInformation
  worker : AnnounceWorker n

inductive PublisherEvent (n : Nat) where
  /-- `ptp_wifi_ap_send_announce`, from its snapshot on. -/
  | announce (p : Fin n) (srcMac : MacAddr) (ptpMsg : Bytes) (reads : AnnounceReads)
  /-- The worker goes on, with the clock at `nowUs` if it looks, and the radio answering
      `accepted` if it is asked. -/
  | worker (nowUs : Int) (accepted : Bool)
  /-- Anybody else's operation on the stations of a port. -/
  | peers (p : Fin n) (op : PeersOp)
  | port (p : Fin n) (isOpen : Bool)
  /-- `++s_injected_generation`. -/
  | link (p : Fin n)
  /-- The daemon publishes a time source. -/
  | source (generation : UInt32)

inductive CheckAnswer where
  | failed
  | next (check : AnnounceCheck)
  | passed (nowUs : Int)

namespace AnnouncePublisher

variable {n : Nat} (s : AnnouncePublisher n)

/-- One read of the check. -/
def checkItem (item : ApAnnounceItem n) (nowUs : Int) : AnnounceCheck → CheckAnswer
  | .age =>
    if nowUs < item.queuedUs ∨ nowUs - item.queuedUs ≥ 1000000 then .failed
    else .next (.link nowUs)
  | .link nowUs =>
    if item.generation ≠ s.linkGeneration item.portIndex then .failed else .next (.source nowUs)
  | .source nowUs =>
    if item.sourceGeneration ≠ s.timingGeneration then .failed else .passed nowUs

/-- The section of `ptpd_wifi_announce_begin`. -/
def beginTurn (cfg : Config) (turn : AnnounceTurn n) (nowUs : Int) :
    PtpWifiPeers × Option (UInt32 × Int × UInt16) :=
  ptpdWifiAnnounceBegin cfg (s.portOpen turn.item.portIndex) (s.peers turn.item.portIndex)
    turn.peer.mac turn.peer.association turn.peer.announceRevision turn.revision
    turn.item.initialInterval nowUs

/-- The section of `ptpd_wifi_announce_finish`. -/
def finishTurn (cfg : Config) (turn : AnnounceTurn n) (token : UInt32) (accepted : Bool)
    (nowUs : Int) : PtpWifiPeers × Bool :=
  ptpdWifiAnnounceFinish cfg (s.portOpen turn.item.portIndex) (s.peers turn.item.portIndex)
    turn.peer.mac turn.peer.association token accepted nowUs

def withPeers (p : Fin n) (peers : PtpWifiPeers) : AnnouncePublisher n :=
  { s with peers := Function.update s.peers p peers }

/-- `ap_announce_task` and `ap_send_announce_now`, one section, read or call. -/
def work (cfg : Config) (nowUs : Int) (accepted : Bool) : AnnouncePublisher n :=
  match s.worker with
  | .waiting =>
    match s.mbox with
    | none => s
    | some item => { s with mbox := none, worker := .entering item .age }
  | .entering item check =>
    match s.checkItem item nowUs check with
    | .failed => { s with worker := .waiting }
    | .next check => { s with worker := .entering item check }
    | .passed _ =>
      -- Once for an item; all its stations are told the one revision.
      let informed := informationStep s.information (item.portIndex, item.msg)
      { s with
        information := informed.1
        worker := .turnTo item informed.2 item.peers.entries }
  | .checking turn check =>
    match s.checkItem turn.item nowUs check with
    -- The item is out of date, so the stations that are left get nothing of it.
    | .failed => { s with worker := .waiting }
    | .next check => { s with worker := .checking turn check }
    | .passed nowUs => { s with worker := .beginning turn nowUs }
  | .beginning turn nowUs =>
    let answer := s.beginTurn cfg turn nowUs
    { s.withPeers turn.item.portIndex answer.1 with
      worker :=
        match answer.2 with
        | none => turn.next
        | some (token, advertised, sequence) => .sending turn token advertised sequence }
  -- The frame goes to the radio outside of every section.
  | .sending turn token _ _ => { s with worker := .finishing turn token accepted }
  | .finishing turn token accepted =>
    let answer := s.finishTurn cfg turn token accepted nowUs
    { s.withPeers turn.item.portIndex answer.1 with worker := turn.next }

/-- The cases of `work`. -/
inductive Work (cfg : Config) (nowUs : Int) (accepted : Bool) : AnnouncePublisher n → Prop
  | idle (hworker : s.worker = .waiting) (hmbox : s.mbox = none) : Work cfg nowUs accepted s
  | takes (item : ApAnnounceItem n) (hworker : s.worker = .waiting) (hmbox : s.mbox = some item) :
    Work cfg nowUs accepted { s with mbox := none, worker := .entering item .age }
  | refuses (item : ApAnnounceItem n) (check : AnnounceCheck)
    (hworker : s.worker = .entering item check ∨
      ∃ turn, turn.item = item ∧ s.worker = .checking turn check)
    (hcheck : s.checkItem item nowUs check = .failed) :
    Work cfg nowUs accepted { s with worker := .waiting }
  | enters (item : ApAnnounceItem n) (check next : AnnounceCheck)
    (hworker : s.worker = .entering item check)
    (hcheck : s.checkItem item nowUs check = .next next) :
    Work cfg nowUs accepted { s with worker := .entering item next }
  | informs (item : ApAnnounceItem n) (check : AnnounceCheck) (passed : Int)
    (hworker : s.worker = .entering item check)
    (hcheck : s.checkItem item nowUs check = .passed passed) :
    Work cfg nowUs accepted
      { s with
        information := (informationStep s.information (item.portIndex, item.msg)).1
        worker :=
          .turnTo item (informationStep s.information (item.portIndex, item.msg)).2
            item.peers.entries }
  | checks (turn : AnnounceTurn n) (check next : AnnounceCheck)
    (hworker : s.worker = .checking turn check)
    (hcheck : s.checkItem turn.item nowUs check = .next next) :
    Work cfg nowUs accepted { s with worker := .checking turn next }
  | passes (turn : AnnounceTurn n) (check : AnnounceCheck) (passed : Int)
    (hworker : s.worker = .checking turn check)
    (hcheck : s.checkItem turn.item nowUs check = .passed passed) :
    Work cfg nowUs accepted { s with worker := .beginning turn passed }
  | skips (turn : AnnounceTurn n) (read : Int) (hworker : s.worker = .beginning turn read)
    (hnone : (s.beginTurn cfg turn read).2 = none) :
    Work cfg nowUs accepted
      { s.withPeers turn.item.portIndex (s.beginTurn cfg turn read).1 with worker := turn.next }
  | begins (turn : AnnounceTurn n) (read : Int) (token : UInt32) (advertised : Int)
    (sequence : UInt16) (hworker : s.worker = .beginning turn read)
    (hbegun : (s.beginTurn cfg turn read).2 = some (token, advertised, sequence)) :
    Work cfg nowUs accepted
      { s.withPeers turn.item.portIndex (s.beginTurn cfg turn read).1 with
        worker := .sending turn token advertised sequence }
  | sends (turn : AnnounceTurn n) (token : UInt32) (advertised : Int) (sequence : UInt16)
    (hworker : s.worker = .sending turn token advertised sequence) :
    Work cfg nowUs accepted { s with worker := .finishing turn token accepted }
  | finishes (turn : AnnounceTurn n) (token : UInt32) (taken : Bool)
    (hworker : s.worker = .finishing turn token taken) :
    Work cfg nowUs accepted
      { s.withPeers turn.item.portIndex (s.finishTurn cfg turn token taken nowUs).1 with
        worker := turn.next }

theorem work_cases (cfg : Config) (nowUs : Int) (accepted : Bool) :
    s.Work cfg nowUs accepted (s.work cfg nowUs accepted) := by
  unfold work
  split
  · rename_i hworker
    split
    · rename_i hmbox
      exact .idle hworker hmbox
    · rename_i item hmbox
      exact .takes item hworker hmbox
  · rename_i item check hworker
    split
    · rename_i hcheck
      exact .refuses item check (.inl hworker) hcheck
    · rename_i next hcheck
      exact .enters item check next hworker hcheck
    · rename_i passed hcheck
      exact .informs item check passed hworker hcheck
  · rename_i turn check hworker
    split
    · rename_i hcheck
      exact .refuses turn.item check (.inr ⟨turn, rfl, hworker⟩) hcheck
    · rename_i next hcheck
      exact .checks turn check next hworker hcheck
    · rename_i passed hcheck
      exact .passes turn check passed hworker hcheck
  · rename_i turn read hworker
    dsimp only
    split
    · rename_i hnone
      exact .skips turn read hworker hnone
    · rename_i token advertised sequence hbegun
      exact .begins turn read token advertised sequence hworker hbegun
  · rename_i turn token advertised sequence hworker
    exact .sends turn token advertised sequence hworker
  · rename_i turn token taken hworker
    exact .finishes turn token taken hworker

/-- One event. -/
def apply (cfg : Config) : PublisherEvent n → AnnouncePublisher n
  | .announce p srcMac ptpMsg reads =>
    match (ptpWifiApSendAnnounce cfg (s.portOpen p) (s.peers p) p srcMac ptpMsg reads).1 with
    | none => s
    | some item => { s with mbox := some item }
  | .worker nowUs accepted => s.work cfg nowUs accepted
  | .peers p op => s.withPeers p (peersStep cfg (s.peers p) op).1
  | .port p isOpen => { s with portOpen := Function.update s.portOpen p isOpen }
  | .link p =>
    { s with linkGeneration := Function.update s.linkGeneration p (s.linkGeneration p + 1) }
  | .source generation => { s with timingGeneration := generation }

/-- Before the first Announce: no stations, nothing announced, nothing to do. -/
structure Fresh : Prop where
  peers : ∀ p, s.peers p = PtpWifiPeers.zero
  mbox : s.mbox = none
  information : s.information = fun _ => default
  worker : s.worker = .waiting

end AnnouncePublisher

/-- An event, and the state it came in. -/
abbrev PublisherVisit (n : Nat) := PublisherEvent n × AnnouncePublisher n

/-- The machine. What a run answers is the state of each visit. -/
def publisherStep {n : Nat} (cfg : Config) (s : AnnouncePublisher n) (e : PublisherEvent n) :
    AnnouncePublisher n × AnnouncePublisher n :=
  (s.apply cfg e, s)

end EspPtp
