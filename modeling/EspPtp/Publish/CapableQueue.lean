import EspPtp.Publish.AnnounceItem
import EspPtp.Wifi.Lifetimes
import EspPtp.Wifi.Neighbor
import EspPtp.Wire.SignalingWrite

/-!
# Sending gPTP-capable indications over Wi-Fi (`ptp_wifi.c`, `ptp_periodic_send`)

The daemon begins a transmission on the schedule of a station, or of a station's access point,
writes the message and puts it into a queue, for the radio must not be waited for. A worker
takes the messages out one by one, looks whether each is still of today, hands it to the radio
and puts what became of it into a second queue. From there the daemon takes it back to the
schedule it was begun on, if the port is still on the link it was on.

Either queue may be full: then the daemon reports its own failure, and the worker loses its
report. Meanwhile the event loop changes stations and links. As for the Announce worker, a step
here is one critical section, one operation on a queue, one read of what others write, or one
call of the radio.
-/

namespace EspPtp

open Lib

variable {n : Nat}

/-! ## What is queued -/

/-- `ptp_wifi_capable_result_t`. -/
structure PtpWifiCapableResult (n : Nat) where
  portIndex : Fin n
  generation : UInt32
  association : UInt32
  token : UInt32
  destination : MacAddr
  accepted : Bool
  completedUs : Int
  deriving DecidableEq

/-- `wifi_capable_item_t`. -/
structure WifiCapableItem (n : Nat) where
  portIndex : Fin n
  ap : Bool
  result : PtpWifiCapableResult n
  generation : UInt32
  queuedUs : Int
  source : MacAddr
  message : Bytes
  deriving DecidableEq

/-- `WIFI_CAPABLE_QUEUE_DEPTH`, of both queues. -/
def wifiCapableQueueDepth (n : Nat) : Nat := 16 * n

/-- `wifi_capable_send_to`: the frame it hands to the radio. -/
def WifiCapableItem.frame (item : WifiCapableItem n) : Bytes :=
  radioFrame item.source item.result.destination item.message

/-- The interval in a message of the queue. -/
def WifiCapableItem.advertised (item : WifiCapableItem n) : Int :=
  (item.message.u8 54).toInt8.toInt

/-! ## The schedules of a port -/

/-- `wifi_mode` of a port, which is set up once, and what the port keeps of its associations in
    that mode. -/
inductive CapablePort where
  | ap (peers : PtpWifiPeers)
  | sta (neighbor : PtpWifiNeighbor)
  | other

/-- The place of a schedule: a slot of an access point's stations, or without a slot the access
    point of a station. -/
structure CapablePlace (n : Nat) where
  port : Fin n
  slot : Option (Fin ptpWifiPeersMax)
  deriving DecidableEq

namespace CapablePort

/-- The address and the association number of who is there. -/
def lifetime : CapablePort → Option (Fin ptpWifiPeersMax) → Option (MacAddr × UInt32)
  | .ap peers, some slot => peers.lifetime slot
  | .sta neighbor, none =>
    if neighbor.associated then some (neighbor.bssid, neighbor.association) else none
  | _, _ => none

def schedule : CapablePort → Option (Fin ptpWifiPeersMax) → PtpCapableSchedule
  | .ap peers, some slot => (peers.entries slot).transmit
  | .sta neighbor, none => neighbor.transmit
  | _, _ => default

/-- The address and the association number as a send copies them, of who is there or was. -/
def named : CapablePort → Option (Fin ptpWifiPeersMax) → MacAddr × UInt32
  | .ap peers, some slot => ((peers.entries slot).mac, (peers.entries slot).association)
  | .sta neighbor, none => (neighbor.bssid, neighbor.association)
  | _, _ => default

/-- `ptp_capable_schedule_begin` in the sections of `ptp_wifi_ap_capable_send` and
    `ptp_wifi_sta_capable_send`. -/
def begin (cfg : Config) (enabled : Bool) (nowUs : Int) :
    CapablePort → Option (Fin ptpWifiPeersMax) → CapablePort × UInt32
  | .ap peers, some slot =>
    let answer := peersCapableBegin cfg enabled peers slot nowUs
    (.ap answer.1, answer.2)
  | .sta neighbor, none =>
    let answer := ptpCapableScheduleBegin neighbor.transmit (enabled && neighbor.associated) nowUs
    (.sta { neighbor with transmit := answer.1 }, answer.2)
  | port, _ => (port, 0)

/-- `ptp_wifi_peers_sent` or `ptp_wifi_neighbor_sent`, as the mode has it. -/
def sent (destination : MacAddr) (association token : UInt32) (accepted : Bool) (nowUs : Int) :
    CapablePort → CapablePort × Bool
  | .ap peers =>
    let answer := ptpWifiPeersSent peers destination association token accepted nowUs
    (.ap answer.1, answer.2)
  | .sta neighbor =>
    let answer := ptpWifiNeighborSent neighbor destination association token accepted nowUs
    (.sta answer.1, answer.2)
  | .other => (.other, false)

end CapablePort

/-! ## A transmission -/

/-- What the daemon sets up once. -/
structure CapableNode (n : Nat) where
  cfg : Config
  /-- `own_identity.header.sourceidentity`. -/
  clock : ClockIdentity
  intfHwAddr : Fin n → MacAddr

/-- The `source_port` of a send: the number of the logical port of a station, or of the port. -/
def CapablePlace.sourcePort (node : CapableNode n) (place : CapablePlace n) : PortIdentity :=
  let number :=
    match place.slot with
    | some slot => ptpWifiAssociationPort (place.port.val + 1) n slot
    | none => place.port.val + 1
  ⟨node.clock, octets (number / 256).toUInt8 number.toUInt8⟩

/-- What a send copied in its section. -/
structure CapableWork (n : Nat) where
  place : CapablePlace n
  generation : UInt32
  nowUs : Int
  destination : MacAddr
  association : UInt32
  token : UInt32
  sequence : UInt16
  interval : Int
  deriving DecidableEq

namespace CapableWork

variable (node : CapableNode n) (work : CapableWork n)

/-- The call of `ptp_signaling_write_capable`. -/
def write : Bytes × Nat :=
  ptpSignalingWriteCapable (List.replicate ptpCapableMessageLength 0) ptpCapableMessageLength
    (work.place.sourcePort node) node.cfg.domain work.sequence (Int8.ofInt work.interval)

/-- The item `ptp_wifi_send_capable_peer` makes of it. -/
def item (queuedUs : Int) : WifiCapableItem n where
  portIndex := work.place.port
  ap := work.place.slot.isSome
  result :=
    { portIndex := work.place.port
      generation := work.generation
      association := work.association
      token := work.token
      destination := work.destination
      accepted := false
      completedUs := 0 }
  generation := work.generation
  queuedUs := queuedUs
  source := node.intfHwAddr work.place.port
  message := (work.write node).1

end CapableWork

/-- `ptp_wifi_send_capable_peer`, with its queues and its worker set up: the queue after it, if
    the item went in. -/
def ptpWifiSendCapablePeer (item : WifiCapableItem n) (length : Nat)
    (queue : List (WifiCapableItem n)) : Option (List (WifiCapableItem n)) :=
  if item.result.association = 0 ∨ item.result.token = 0 ∨ length ≠ ptpCapableMessageLength ∨
      wifiCapableQueueDepth n ≤ queue.length then none
  else some (queue ++ [item])

/-! ## The machine -/

/-- Where the daemon is. -/
inductive CapableDaemon (n : Nat) where
  | idle
  /-- In a send, with the link generation it read. -/
  | sampled (place : CapablePlace n) (generation : UInt32)
  | sending (work : CapableWork n)
  | refused (work : CapableWork n)
  /-- In `ptp_wifi_capable_completions`, before and after its look at the generation. -/
  | received (result : PtpWifiCapableResult n)
  | completing (result : PtpWifiCapableResult n)
  deriving DecidableEq

/-- Where the worker is. -/
inductive CapableWorker (n : Nat) where
  | waiting
  /-- In `wifi_capable_current`, before its reads of the clock and of the generation. -/
  | reading (item : WifiCapableItem n)
  | checking (item : WifiCapableItem n)
  | sending (item : WifiCapableItem n)
  | reporting (item : WifiCapableItem n) (accepted : Bool)
  deriving DecidableEq

structure CapableRadio (n : Nat) where
  ports : Fin n → CapablePort
  linkGeneration : Fin n → UInt32
  queue : List (WifiCapableItem n)
  results : List (PtpWifiCapableResult n)
  daemon : CapableDaemon n
  worker : CapableWorker n

/-- The operations that do not begin or complete a transmission. -/
def PeersOp.elsewhere : PeersOp → Bool
  | .capableBegin _ _ _ => false
  | .work _ _ (.sent _ _ _) => false
  | _ => true

/-- The other operations on what a station keeps of its access point. -/
inductive NeighborOp where
  | associate (bssid : Option MacAddr)
  | bind (association : UInt32) (sourceMac : MacAddr) (identity : PortIdentity)
  | interval (sourceMac : MacAddr) (association : UInt32) (message : PtpCapableMessage)
  | syncInterval (sourceMac : MacAddr) (association : UInt32) (message : PtpIntervalMessage)
  /-- Its part of `ptp_reset_for_profile`. -/
  | resetForProfile

def neighborStep (neighbor : PtpWifiNeighbor) : NeighborOp → PtpWifiNeighbor
  | .associate bssid => ptpWifiNeighborAssociate neighbor bssid
  | .bind association sourceMac identity =>
    (ptpWifiNeighborBind neighbor association sourceMac identity).1
  | .interval sourceMac association message =>
    (ptpWifiNeighborInterval neighbor sourceMac association message).1
  | .syncInterval sourceMac association message =>
    (ptpWifiNeighborSyncInterval neighbor sourceMac association message).1
  | .resetForProfile =>
    { neighbor with
      transmit := neighbor.transmit.restarted
      sync := ptpSyncIntervalReset neighbor.sync }

inductive CapableEvent (n : Nat) where
  /-- The daemon goes on, with the clock at `nowUs` if it looks. Between two pieces of work it
      takes a report out of the queue, or sends for a place, `enabled` being what
      `ptp_periodic_send` worked out of the port. -/
  | daemon (place : Option (CapablePlace n)) (enabled : Bool) (nowUs : Int)
  /-- The worker goes on, with the clock at `nowUs` if it looks, and the radio answering
      `accepted` if it is asked. -/
  | worker (nowUs : Int) (accepted : Bool)
  /-- Anybody else's operation on the stations of a port. -/
  | peers (p : Fin n) (op : { op : PeersOp // op.elsewhere = true })
  | neighbor (p : Fin n) (op : NeighborOp)
  /-- `++s_injected_generation`. -/
  | link (p : Fin n)

/-- Anybody else's operation on a port, if the port is of that mode. -/
def CapablePort.stations (cfg : Config) (op : PeersOp) : CapablePort → CapablePort
  | .ap peers => .ap (peersStep cfg peers op).1
  | port => port

def CapablePort.accessPoint (op : NeighborOp) : CapablePort → CapablePort
  | .sta neighbor => .sta (neighborStep neighbor op)
  | port => port

namespace CapableRadio

variable (s : CapableRadio n)

def withPort (p : Fin n) (port : CapablePort) : CapableRadio n :=
  { s with ports := Function.update s.ports p port }

/-- The section of a send, and what it copies when there is a token. -/
def beginSend (cfg : Config) (place : CapablePlace n) (generation : UInt32) (enabled : Bool)
    (nowUs : Int) : CapablePort × Option (CapableWork n) :=
  let answer := (s.ports place.port).begin cfg enabled nowUs place.slot
  let named := answer.1.named place.slot
  let schedule := answer.1.schedule place.slot
  (answer.1,
    if answer.2 = 0 then none
    else
      some
        { place := place
          generation := generation
          nowUs := nowUs
          destination := named.1
          association := named.2
          token := answer.2
          sequence := schedule.sequence
          interval := schedule.advertisedInterval })

/-- The section of a completion. -/
def complete (result : PtpWifiCapableResult n) : CapablePort × Bool :=
  (s.ports result.portIndex).sent result.destination result.association result.token
    result.accepted result.completedUs

/-- The section after a send that failed. -/
def abandon (work : CapableWork n) : CapablePort × Bool :=
  (s.ports work.place.port).sent work.destination work.association work.token false work.nowUs

/-- `ptp_wifi_ap_capable_send`, `ptp_wifi_sta_capable_send` and `ptp_wifi_capable_completions`,
    one section, read or operation on a queue. -/
def serve (node : CapableNode n) (place : Option (CapablePlace n)) (enabled : Bool)
    (nowUs : Int) : CapableRadio n :=
  match s.daemon with
  | .idle =>
    match place with
    -- The generation is read before the section, so a change in between shows later.
    | some place => { s with daemon := .sampled place (s.linkGeneration place.port) }
    | none =>
      match s.results with
      | [] => s
      | result :: results => { s with results := results, daemon := .received result }
  | .sampled place generation =>
    let answer := s.beginSend node.cfg place generation enabled nowUs
    { s.withPort place.port answer.1 with
      daemon :=
        match answer.2 with
        | none => .idle
        | some work => .sending work }
  | .sending work =>
    match ptpWifiSendCapablePeer (work.item node nowUs) (work.write node).2 s.queue with
    | none => { s with daemon := .refused work }
    | some queue => { s with queue := queue, daemon := .idle }
  -- The queue was full: the token is given back as of a frame that was not sent.
  | .refused work => { s.withPort work.place.port (s.abandon work).1 with daemon := .idle }
  | .received result =>
    if result.generation ≠ s.linkGeneration result.portIndex then { s with daemon := .idle }
    else { s with daemon := .completing result }
  | .completing result =>
    { s.withPort result.portIndex (s.complete result).1 with daemon := .idle }

/-- The cases of `serve`. -/
inductive Serve (node : CapableNode n) (enabled : Bool) (nowUs : Int) :
    CapableRadio n → Prop
  | idle (hdaemon : s.daemon = .idle) (hresults : s.results = []) : Serve node enabled nowUs s
  | samples (place : CapablePlace n) (hdaemon : s.daemon = .idle) :
    Serve node enabled nowUs { s with daemon := .sampled place (s.linkGeneration place.port) }
  | receives (result : PtpWifiCapableResult n) (results : List (PtpWifiCapableResult n))
    (hdaemon : s.daemon = .idle) (hresults : s.results = result :: results) :
    Serve node enabled nowUs { s with results := results, daemon := .received result }
  | skips (place : CapablePlace n) (generation : UInt32)
    (hdaemon : s.daemon = .sampled place generation)
    (hnone : (s.beginSend node.cfg place generation enabled nowUs).2 = none) :
    Serve node enabled nowUs
      { s.withPort place.port (s.beginSend node.cfg place generation enabled nowUs).1 with
        daemon := .idle }
  | begins (place : CapablePlace n) (generation : UInt32) (work : CapableWork n)
    (hdaemon : s.daemon = .sampled place generation)
    (hbegun : (s.beginSend node.cfg place generation enabled nowUs).2 = some work) :
    Serve node enabled nowUs
      { s.withPort place.port (s.beginSend node.cfg place generation enabled nowUs).1 with
        daemon := .sending work }
  | queues (work : CapableWork n) (queue : List (WifiCapableItem n))
    (hdaemon : s.daemon = .sending work)
    (hsent : ptpWifiSendCapablePeer (work.item node nowUs) (work.write node).2 s.queue =
      some queue) :
    Serve node enabled nowUs { s with queue := queue, daemon := .idle }
  | refuses (work : CapableWork n) (hdaemon : s.daemon = .sending work) :
    Serve node enabled nowUs { s with daemon := .refused work }
  | abandons (work : CapableWork n) (hdaemon : s.daemon = .refused work) :
    Serve node enabled nowUs { s.withPort work.place.port (s.abandon work).1 with daemon := .idle }
  | drops (result : PtpWifiCapableResult n) (hdaemon : s.daemon = .received result)
    (hlink : result.generation ≠ s.linkGeneration result.portIndex) :
    Serve node enabled nowUs { s with daemon := .idle }
  | keeps (result : PtpWifiCapableResult n) (hdaemon : s.daemon = .received result)
    (hlink : result.generation = s.linkGeneration result.portIndex) :
    Serve node enabled nowUs { s with daemon := .completing result }
  | completes (result : PtpWifiCapableResult n) (hdaemon : s.daemon = .completing result) :
    Serve node enabled nowUs
      { s.withPort result.portIndex (s.complete result).1 with daemon := .idle }

theorem serve_cases (node : CapableNode n) (place : Option (CapablePlace n)) (enabled : Bool)
    (nowUs : Int) : s.Serve node enabled nowUs (s.serve node place enabled nowUs) := by
  unfold serve
  split
  · rename_i hdaemon
    split
    · rename_i place
      exact .samples place hdaemon
    · split
      · rename_i hresults
        exact .idle hdaemon hresults
      · rename_i result results hresults
        exact .receives result results hdaemon hresults
  · rename_i place generation hdaemon
    dsimp only
    split
    · rename_i hnone
      exact .skips place generation hdaemon hnone
    · rename_i work hbegun
      exact .begins place generation work hdaemon hbegun
  · rename_i work hdaemon
    split
    · exact .refuses work hdaemon
    · rename_i queue hsent
      exact .queues work queue hdaemon hsent
  · rename_i work hdaemon
    exact .abandons work hdaemon
  · rename_i result hdaemon
    split
    · rename_i hlink
      exact .drops result hdaemon hlink
    · rename_i hlink
      exact .keeps result hdaemon (not_not.mp hlink)
  · rename_i result hdaemon
    exact .completes result hdaemon

/-- What the worker reports of an item. -/
def report (item : WifiCapableItem n) (accepted : Bool) (nowUs : Int) : PtpWifiCapableResult n :=
  { item.result with accepted := accepted, completedUs := nowUs }

/-- `wifi_capable_task`, one read, call or operation on a queue. -/
def work (nowUs : Int) (accepted : Bool) : CapableRadio n :=
  match s.worker with
  | .waiting =>
    match s.queue with
    | [] => s
    | item :: queue => { s with queue := queue, worker := .reading item }
  | .reading item =>
    if 0 ≤ nowUs - item.queuedUs ∧ nowUs - item.queuedUs < 1000000 then
      { s with worker := .checking item }
    else { s with worker := .reporting item false }
  | .checking item =>
    if item.generation = s.linkGeneration item.portIndex then { s with worker := .sending item }
    else { s with worker := .reporting item false }
  | .sending item => { s with worker := .reporting item accepted }
  | .reporting item accepted =>
    { s with
      results :=
        if wifiCapableQueueDepth n ≤ s.results.length then s.results
        else s.results ++ [report item accepted nowUs]
      worker := .waiting }

/-- The cases of `work`. -/
inductive Work (nowUs : Int) (accepted : Bool) : CapableRadio n → Prop
  | idle (hworker : s.worker = .waiting) (hqueue : s.queue = []) : Work nowUs accepted s
  | takes (item : WifiCapableItem n) (queue : List (WifiCapableItem n))
    (hworker : s.worker = .waiting) (hqueue : s.queue = item :: queue) :
    Work nowUs accepted { s with queue := queue, worker := .reading item }
  | reads (item : WifiCapableItem n) (hworker : s.worker = .reading item)
    (hage : 0 ≤ nowUs - item.queuedUs ∧ nowUs - item.queuedUs < 1000000) :
    Work nowUs accepted { s with worker := .checking item }
  | checks (item : WifiCapableItem n) (hworker : s.worker = .checking item)
    (hlink : item.generation = s.linkGeneration item.portIndex) :
    Work nowUs accepted { s with worker := .sending item }
  | retires (item : WifiCapableItem n)
    (hworker : s.worker = .reading item ∨ s.worker = .checking item) :
    Work nowUs accepted { s with worker := .reporting item false }
  | sends (item : WifiCapableItem n) (hworker : s.worker = .sending item) :
    Work nowUs accepted { s with worker := .reporting item accepted }
  | reports (item : WifiCapableItem n) (taken : Bool) (hworker : s.worker = .reporting item taken) :
    Work nowUs accepted
      { s with results := s.results ++ [report item taken nowUs], worker := .waiting }
  | loses (item : WifiCapableItem n) (taken : Bool) (hworker : s.worker = .reporting item taken) :
    Work nowUs accepted { s with worker := .waiting }

theorem work_cases (nowUs : Int) (accepted : Bool) :
    s.Work nowUs accepted (s.work nowUs accepted) := by
  unfold work
  split
  · rename_i hworker
    split
    · rename_i hqueue
      exact .idle hworker hqueue
    · rename_i item queue hqueue
      exact .takes item queue hworker hqueue
  · rename_i item hworker
    split
    · rename_i hage
      exact .reads item hworker hage
    · exact .retires item (.inl hworker)
  · rename_i item hworker
    split
    · rename_i hlink
      exact .checks item hworker hlink
    · exact .retires item (.inr hworker)
  · rename_i item hworker
    exact .sends item hworker
  · rename_i item taken hworker
    split
    · exact .loses item taken hworker
    · exact .reports item taken hworker

/-- One event. -/
def apply (node : CapableNode n) : CapableEvent n → CapableRadio n
  | .daemon place enabled nowUs => s.serve node place enabled nowUs
  | .worker nowUs accepted => s.work nowUs accepted
  | .peers p op => s.withPort p ((s.ports p).stations node.cfg op.val)
  | .neighbor p op => s.withPort p ((s.ports p).accessPoint op)
  | .link p =>
    { s with linkGeneration := Function.update s.linkGeneration p (s.linkGeneration p + 1) }

/-- A port before its first association. -/
def freshPort : CapablePort → Prop
  | .ap peers => peers = PtpWifiPeers.zero
  | .sta neighbor => neighbor = default
  | .other => True

/-- Before the first send. -/
structure Fresh : Prop where
  ports : ∀ p, freshPort (s.ports p)
  queue : s.queue = []
  results : s.results = []
  daemon : s.daemon = .idle
  worker : s.worker = .waiting

end CapableRadio

/-- An event, and the state it came in. -/
abbrev CapableVisit (n : Nat) := CapableEvent n × CapableRadio n

/-- The machine. What a run answers is the state of each visit. -/
def capableStep (node : CapableNode n) (s : CapableRadio n) (e : CapableEvent n) :
    CapableRadio n × CapableRadio n :=
  (s.apply node e, s)

end EspPtp
