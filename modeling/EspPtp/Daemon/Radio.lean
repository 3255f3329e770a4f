import EspPtp.Daemon.Injected
import EspPtp.Daemon.Signaling

/-!
# Received radio frames between three tasks

The radio's callback queues frames, event handlers and the radio's reports change
associations, and the daemon takes frames out of the queue and acts on the Signaling ones.
A step below is **one critical section** of one of them; the steps come in any order.

Two things take more than one section. An event handler first changes the association
under `s_peer_lock` and then, under `s_injected_lock`, increments the link generation of
the port; in between it waits in `pending`. The daemon checks a frame's generation when it
dequeues it, looks its sender up, and handles up to three requests, in phases.

What the code does not keep but a statement about runs has to speak of is in the ghosts:
how many link-generation increments and association numbers a port has seen, which
number an association has in that count, and how far both were when a frame was captured.
-/

namespace EspPtp

open Lib

/-- The counts of a port's run. -/
structure PortGhost where
  bumps : Nat
  numbers : Nat
  /-- For the association of a slot, which number of the count it was given. -/
  startedAt : Fin ptpWifiPeersMax → Nat

/-- A port's counts at the capture of a frame. -/
structure CaptureGhost where
  bumps : Nat
  numbers : Nat
  deriving DecidableEq

/-- An event handler before its increment of the link generation. -/
structure PendingBump (n : Nat) where
  port : Fin n
  /-- The link state it sets afterwards, if it is a link change. -/
  link : Option Bool
  /-- The stations its section began an association for, and the count after it. -/
  started : List MacAddr
  numbers : Nat
  deriving DecidableEq

/-- Where the daemon is with the frame in hand. -/
inductive DaemonPhase (n : Nat) where
  | idle
  | dequeued (frame : InjectedFrame n CaptureGhost)
  | admitted (frame : InjectedFrame n CaptureGhost) (length : Nat)
  | addressed (frame : InjectedFrame n CaptureGhost) (requests : SignalingRequests)
  | indicated (frame : InjectedFrame n CaptureGhost) (requests : SignalingRequests)
  | timed (frame : InjectedFrame n CaptureGhost) (requests : SignalingRequests)
  deriving DecidableEq

/-- The frame whose requests are being handled, with these. -/
def DaemonPhase.handling? {n : Nat} :
    DaemonPhase n → Option (InjectedFrame n CaptureGhost × SignalingRequests)
  | .addressed frame requests => some (frame, requests)
  | .indicated frame requests => some (frame, requests)
  | .timed frame requests => some (frame, requests)
  | _ => none

/-- The frame that is dequeued and not looked up. -/
def DaemonPhase.dequeued? {n : Nat} : DaemonPhase n → Option (InjectedFrame n CaptureGhost)
  | .dequeued frame => some frame
  | _ => none

/-- The frame in hand. -/
def DaemonPhase.frame? {n : Nat} : DaemonPhase n → Option (InjectedFrame n CaptureGhost)
  | .idle => none
  | .dequeued frame => some frame
  | .admitted frame _ => some frame
  | .addressed frame _ => some frame
  | .indicated frame _ => some frame
  | .timed frame _ => some frame

/-- What the three tasks share, where each of them is, and the ghosts. -/
structure RadioSystem (F : Type) (n : Nat) where
  gptp : Bool
  ports : Fin n → PtpPort F
  injected : Injected n CaptureGhost
  calls : List (InjectCall n CaptureGhost)
  pending : List (PendingBump n)
  daemon : DaemonPhase n
  rxAssociation : UInt32
  ghost : Fin n → PortGhost
  /-- Which number of the count `rxAssociation` is. -/
  rxNumber : Nat

inductive RadioStep (n : Nat) where
  /-- The two sections of `ptp_inject_received_frame_from`. -/
  | capture (port : Fin n) (message : Bytes) (sourceMac : Option MacAddr)
  | enqueue (call : Nat) (received : Timespec)
  /-- The sections of `ptp_wifi_event_handler`. -/
  | staConnected (port : Fin n) (bssid : Option MacAddr)
  | staDisconnected (port : Fin n)
  | apStaConnected (port : Fin n) (mac : MacAddr)
  | apStaDisconnected (port : Fin n) (mac : MacAddr)
  | apStop (port : Fin n)
  /-- The section of `ptp_set_port_link`. -/
  | setPortLink (port : Fin n) (up : Bool)
  /-- The sections of `ptpd_wifi_association_reconcile` and `…_unreported`. -/
  | reconcile (port : Fin n) (radioBoot radioGeneration : UInt32) (macs : List MacAddr)
  | unreported (port : Fin n)
  /-- The increment an event handler was waiting to make. -/
  | bump (index : Nat)
  /-- A change of profile, and the sections of `ptp_reset_for_profile`. -/
  | setProfile (gptp : Bool)
  | resetGenerations
  | resetPorts
  /-- The sections of the daemon. -/
  | dequeue
  | lookup
  | address
  | indication (nowUs : Int) (mono : Timespec)
  | timing
  | interval

/-- The sections of the daemon between the dequeue of a frame and its last request. -/
def RadioStep.handles {n : Nat} : RadioStep n → Bool
  | .lookup | .address | .indication _ _ | .timing | .interval => true
  | _ => false

def RadioStep.dequeues {n : Nat} : RadioStep n → Bool
  | .dequeue => true
  | _ => false

/-! ## Counting association numbers -/

/-- A number went by. -/
def PortGhost.advanced (g : PortGhost) : PortGhost := { g with numbers := g.numbers + 1 }

/-- The count over one join. -/
def PortGhost.joined (g : PortGhost) (peers : PtpWifiPeers) (mac : MacAddr) : PortGhost :=
  match (ptpWifiPeersJoin peers mac).2 with
  | none => g
  | some slot =>
    { g.advanced with startedAt := Function.update g.startedAt slot (g.numbers + 1) }

/-- The count over the joins of a reconciliation. -/
def PortGhost.joinedAll : PortGhost → PtpWifiPeers → List MacAddr → PortGhost
  | g, _, [] => g
  | g, peers, mac :: macs =>
    PortGhost.joinedAll (g.joined peers mac) (ptpWifiPeersJoin peers mac).1 macs

/-- The count over a reconciliation. -/
def PortGhost.reconciled (g : PortGhost) (peers : PtpWifiPeers)
    (radioBoot radioGeneration : UInt32) (macs : List MacAddr) : PortGhost :=
  match reconcileAnswer peers radioBoot radioGeneration macs with
  | some _ => g
  | none => g.advanced.joinedAll (reconcileKeep peers macs) macs

/-! ## The steps -/

variable {F : Type} {n : Nat}

namespace RadioSystem

variable (s : RadioSystem F n)

def withPort (p : Fin n) (port : PtpPort F) : RadioSystem F n :=
  { s with ports := Function.update s.ports p port }

/-- A section of an event handler on one port; with `bump`, the increment comes later. -/
def eventSection (p : Fin n) (port : PtpPort F) (g : PortGhost) (bump : Bool)
    (started : List MacAddr) (link : Option Bool) : RadioSystem F n :=
  { s.withPort p port with
    ghost := Function.update s.ghost p g
    pending :=
      if bump then s.pending ++ [⟨p, link, started, g.numbers⟩] else s.pending }

/-- The association of a station: which number it was given, whichever kind of port. -/
def numberOf (p : Fin n) (sender : Option MacAddr) : Nat :=
  if (s.ports p).wifiMode = .sta then (s.ghost p).numbers
  else
    match senderSlot (s.ports p) sender with
    | none => 0
    | some slot => (s.ghost p).startedAt slot

/-- The increment of the `index`-th waiting handler, and its link change. -/
def bump (index : Nat) : RadioSystem F n :=
  match s.pending[index]? with
  | none => s
  | some waiting =>
    let port := s.ports waiting.port
    let g := s.ghost waiting.port
    { s.withPort waiting.port { port with linkUp := waiting.link.getD port.linkUp } with
      injected := s.injected.bump waiting.port
      ghost := Function.update s.ghost waiting.port { g with bumps := g.bumps + 1 }
      pending := s.pending.eraseIdx index }

/-- The dequeue of the drain. -/
def dequeue : RadioSystem F n :=
  match s.daemon with
  | .idle =>
    let taken := s.injected.dequeue
    { s with
      injected := taken.1
      daemon :=
        match taken.2 with
        | some (frame, true) => .dequeued frame
        | _ => .idle }
  | _ => s

/-- The admission of `ptp_process_rx_packet`. Only Signaling goes on to act on an
    association. -/
def lookup (cfg : Config) : RadioSystem F n :=
  match s.daemon with
  | .dequeued frame =>
    match rxAdmission cfg s.gptp frame.message frame.length with
    | .admitted length =>
      let next : DaemonPhase n :=
        if frame.message.msgtype = .signaling then .admitted frame length else .idle
      match senderCheck cfg s.gptp (s.ports frame.portIndex) frame.sourceMac with
      | none => { s with daemon := next }
      | some (accepted, association) =>
        { s with
          rxAssociation := association
          rxNumber := s.numberOf frame.portIndex frame.sourceMac
          daemon := if accepted then next else .idle }
    | _ => { s with daemon := .idle }
  | _ => s

/-- The logical port, and the decoding for it. -/
def address (cfg : Config) (numbering : PortNumbering) : RadioSystem F n :=
  match s.daemon with
  | .admitted frame length =>
    let requests := do
      let localPort ← signalingLocalPort numbering frame.portIndex (s.ports frame.portIndex)
        frame.sourceMac s.rxAssociation
      signalingRequests cfg frame.message length localPort
    { s with
      daemon :=
        match requests with
        | none => .idle
        | some requests => .addressed frame requests }
  | _ => s

/-- A section that handles one request of the frame, if the frame carries it. -/
def handle {α : Type} (p : Fin n) (request : PtpSignaling α)
    (act : PtpPort F → α → PtpPort F) (next : DaemonPhase n) : RadioSystem F n :=
  match request with
  | .decoded value => { s.withPort p (act (s.ports p) value) with daemon := next }
  | _ => { s with daemon := next }

def indication (nowUs : Int) (mono : Timespec) : RadioSystem F n :=
  match s.daemon with
  | .addressed frame requests =>
    s.handle frame.portIndex requests.indication
      (fun port request =>
        handleIndication s.gptp port frame.sourceMac s.rxAssociation request nowUs mono)
      (.indicated frame requests)
  | _ => s

def timing (cfg : Config) : RadioSystem F n :=
  match s.daemon with
  | .indicated frame requests =>
    s.handle frame.portIndex requests.timingRequest
      (fun port request =>
        timingSection cfg s.gptp port frame.sourceMac s.rxAssociation request)
      (.timed frame requests)
  | _ => s

def interval : RadioSystem F n :=
  match s.daemon with
  | .timed frame requests =>
    s.handle frame.portIndex requests.intervalRequest
      (fun port request =>
        intervalSection s.gptp port frame.sourceMac s.rxAssociation request)
      .idle
  | _ => s

end RadioSystem

/-- One critical section. -/
def radioStep (cfg : Config) (numbering : PortNumbering) (s : RadioSystem F n) :
    RadioStep n → RadioSystem F n
  | .capture p message sourceMac =>
    let ghost : CaptureGhost := ⟨(s.ghost p).bumps, (s.ghost p).numbers⟩
    match s.injected.capture p message sourceMac ghost with
    | none => s
    | some call => { s with calls := s.calls ++ [call] }
  | .enqueue index received =>
    match s.calls[index]? with
    | none => s
    | some call =>
      { s with
        injected := (s.injected.enqueue call received).1
        calls := s.calls.eraseIdx index }
  | .staConnected p bssid =>
    let port := s.ports p
    if port.wifiMode = .sta then
      s.eventSection p
        { port with
          wifiNeighbor := ptpWifiNeighborAssociate port.wifiNeighbor bssid
          capableReceive := { port.capableReceive with valid := false } }
        (s.ghost p).advanced true bssid.toList none
    else s
  | .staDisconnected p =>
    let port := s.ports p
    if port.wifiMode = .sta then
      s.eventSection p
        { port with
          wifiNeighbor := ptpWifiNeighborAssociate port.wifiNeighbor none
          capableReceive := { port.capableReceive with valid := false } }
        (s.ghost p).advanced false [] none
    else s
  | .apStaConnected p mac =>
    let port := s.ports p
    if port.wifiMode = .ap then
      let joined := ptpWifiPeersJoin port.wifiPeers mac
      s.eventSection p { port with wifiPeers := joined.1 }
        ((s.ghost p).joined port.wifiPeers mac) true (if joined.2.isSome then [mac] else []) none
    else s
  | .apStaDisconnected p mac =>
    let port := s.ports p
    if port.wifiMode = .ap then
      s.eventSection p { port with wifiPeers := ptpWifiPeersLeave port.wifiPeers mac }
        (if (ptpWifiPeersFind port.wifiPeers mac).isSome then (s.ghost p).advanced
          else s.ghost p)
        true [] none
    else s
  | .apStop p =>
    let port := s.ports p
    if port.wifiMode = .ap then
      s.eventSection p { port with wifiPeers := ptpWifiPeersClear port.wifiPeers }
        (s.ghost p).advanced false [] none
    else s
  | .setPortLink p up =>
    let port := s.ports p
    if port.linkUp = up then s
    else
      s.eventSection p
        { port with
          peerExchange := ptpPeerInvalidate port.peerExchange
          capableReceive := { port.capableReceive with valid := false } }
        (s.ghost p) true [] (some up)
  | .reconcile p radioBoot radioGeneration macs =>
    let port := s.ports p
    if port.wifiOpen s.gptp .ap then
      let answer := ptpWifiPeersReconcile port.wifiPeers radioBoot radioGeneration macs
      let changed := answer.2 && decide (port.wifiPeers.generation ≠ answer.1.generation)
      s.eventSection p
        { port with
          wifiPeers := if answer.2 then { answer.1 with unreported := false } else answer.1 }
        ((s.ghost p).reconciled port.wifiPeers radioBoot radioGeneration macs) changed macs none
    else s
  | .unreported p =>
    let port := s.ports p
    if port.medium = .wifiFtm ∧ port.wifiMode = .ap ∧ port.wifiPeers.unreported = false then
      s.eventSection p { port with wifiPeers := { port.wifiPeers with unreported := true } }
        (s.ghost p) true [] none
    else s
  | .bump index => s.bump index
  | .setProfile gptp => { s with gptp := gptp }
  | .resetGenerations =>
    { s with
      injected := s.injected.bumpAll
      ghost := fun p => { s.ghost p with bumps := (s.ghost p).bumps + 1 } }
  | .resetPorts => { s with ports := fun p => resetPortForProfile (s.ports p) }
  | .dequeue => s.dequeue
  | .lookup => s.lookup cfg
  | .address => s.address cfg numbering
  | .indication nowUs mono => s.indication nowUs mono
  | .timing => s.timing cfg
  | .interval => s.interval

end EspPtp
