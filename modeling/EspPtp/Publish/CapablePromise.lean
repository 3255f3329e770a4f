import EspPtp.Publish.CapableRun
import EspPtp.Transmit.Soundness

/-!
# A slower pace is told first

A neighbor that is sent indications counts on their pace. When it has asked for a slower one it
is told so nine times at the old pace before it gets it (`ptp_capable_interval_sent`), and what
counts is what the radio took: the schedule only learns of a transmission through two queues and
by a token, while others begin and end around it.

`Told` is what connects the two ends: the messages that the schedule has counted are messages
the radio took since the interval was last changed, each with a token of its own.
-/

namespace EspPtp

open Lib

variable {n : Nat}

/-! ## What a neighbor is told -/

namespace CapableVisit

/-- The state a visit leaves. -/
def next (node : CapableNode n) (x : CapableVisit n) : CapableRadio n := x.2.apply node x.1

end CapableVisit

namespace CapableRadio

def lifetime (s : CapableRadio n) (place : CapablePlace n) : Option (MacAddr × UInt32) :=
  (s.ports place.port).lifetime place.slot

def schedule (s : CapableRadio n) (place : CapablePlace n) : PtpCapableSchedule :=
  (s.ports place.port).schedule place.slot

end CapableRadio

/-- Another interval is asked for at a place, or somebody else is there. -/
def CapableVisit.renews (node : CapableNode n) (place : CapablePlace n) (x : CapableVisit n) :
    Bool :=
  decide ((x.next node).lifetime place ≠ x.2.lifetime place ∨
    ((x.next node).schedule place).interval.logInterval ≠
      (x.2.schedule place).interval.logInterval)

/-- The association of a place. -/
structure PlaceName (n : Nat) where
  port : Fin n
  mac : MacAddr
  association : UInt32
  deriving DecidableEq

/-- Whom a report is about, or an item for. -/
def PtpWifiCapableResult.name (result : PtpWifiCapableResult n) : PlaceName n :=
  ⟨result.portIndex, result.destination, result.association⟩

/-- The token of an indication that the radio takes, if it is for this association and says
    this interval. -/
def CapableVisit.telling? (name : PlaceName n) (interval : Int) (x : CapableVisit n) :
    Option UInt32 :=
  match x.taken? with
  | some item =>
    if item.result.name = name ∧ item.advertised = interval then some item.result.token else none
  | none => none

/-- The radio takes an indication to this association that says this interval. -/
def CapableVisit.tells (name : PlaceName n) (interval : Int) (x : CapableVisit n) : Bool :=
  (x.telling? name interval).isSome

/-- The tokens of these indications, since the interval at the place was last changed. -/
def tellings (node : CapableNode n) (place : CapablePlace n) (name : PlaceName n) (interval : Int)
    (history : List (CapableVisit n)) : List UInt32 :=
  (lastSince (CapableVisit.renews node place) history).filterMap
    (CapableVisit.telling? name interval)

theorem tellings_length (node : CapableNode n) (place : CapablePlace n) (name : PlaceName n)
    (interval : Int) (history : List (CapableVisit n)) :
    (tellings node place name interval history).length =
      countSince (CapableVisit.renews node place) (CapableVisit.tells name interval) history := by
  rw [tellings, List.length_filterMap_eq_countP, countSince_eq]
  rfl

theorem tellings_snoc (node : CapableNode n) (place : CapablePlace n) (name : PlaceName n)
    (interval : Int) (history : List (CapableVisit n)) (x : CapableVisit n) :
    tellings node place name interval (history ++ [x]) =
      if x.renews node place then []
      else tellings node place name interval history ++ (x.telling? name interval).toList := by
  unfold tellings
  rw [lastSince_snoc]
  split
  · rfl
  · exact filterMap_snoc _ _ x

/-! ## The invariant -/

/-- What a schedule may count on: the messages it has counted are among the tellings, none of
    them under the token in flight; and the token in flight, if it comes back, is too. -/
structure Told (schedule : PtpCapableSchedule) (name : PlaceName n) (told : List UInt32)
    (carried : List (WifiCapableItem n)) (returned : List (PtpWifiCapableResult n)) : Prop where
  counted : schedule.interval.slowdownRemaining ≠ 0 →
    9 ≤ schedule.interval.slowdownRemaining + (told.filter (· ≠ schedule.pending)).length
  tokens : ∀ token ∈ told, token ≠ 0 ∧ token.toNat ≤ schedule.serial.toNat
  carried : ∀ item ∈ carried, item.result.name = name →
    item.result.token.toNat ≤ schedule.serial.toNat ∧
      (schedule.pending ≠ 0 → item.result.token = schedule.pending →
        item.advertised = schedule.interval.logInterval)
  returned : ∀ result ∈ returned, result.name = name →
    result.token.toNat ≤ schedule.serial.toNat ∧
      (schedule.pending ≠ 0 → result.token = schedule.pending → result.token ∈ told)

section Told

variable {schedule schedule' : PtpCapableSchedule} {name : PlaceName n} {told : List UInt32}
  {carried carried' : List (WifiCapableItem n)} {returned returned' : List (PtpWifiCapableResult n)}

/-- Less is on its way. -/
theorem Told.mono (h : Told schedule name told carried returned)
    (hcarried : ∀ item ∈ carried', item.result.name = name → item ∈ carried)
    (hreturned : ∀ result ∈ returned', result.name = name → result ∈ returned) :
    Told schedule name told carried' returned' where
  counted := h.counted
  tokens := h.tokens
  carried := fun item hitem hname => h.carried item (hcarried item hitem hname) hname
  returned := fun result hresult hname => h.returned result (hreturned result hresult hname) hname

/-- The token in flight is forgotten. -/
theorem Told.forget (h : Told schedule name told carried returned)
    (hserial : schedule'.serial = schedule.serial)
    (hremaining : schedule'.interval.slowdownRemaining ≠ 0 →
      schedule'.interval.slowdownRemaining = schedule.interval.slowdownRemaining)
    (hpending : schedule'.pending = 0) : Told schedule' name told carried returned where
  counted := by
    intro hslowing
    have hkept := hremaining hslowing
    have hcounted := h.counted (hkept ▸ hslowing)
    have hall : told.filter (· ≠ schedule'.pending) = told := by
      rw [List.filter_eq_self]
      intro token htoken
      rw [hpending]
      exact decide_eq_true (h.tokens token htoken).1
    have hfewer := List.length_filter_le (fun token => decide (token ≠ schedule.pending)) told
    rw [hall, hkept]
    omega
  tokens := by
    rw [hserial]
    exact h.tokens
  carried := by
    intro item hitem hname
    rw [hserial]
    exact ⟨(h.carried item hitem hname).1, fun hne => absurd hpending hne⟩
  returned := by
    intro result hresult hname
    rw [hserial]
    exact ⟨(h.returned result hresult hname).1, fun hne => absurd hpending hne⟩

/-- Another interval is asked for. -/
theorem Told.renewed
    (hcarried : ∀ item ∈ carried, item.result.name = name →
      item.result.token.toNat ≤ schedule.serial.toNat)
    (hreturned : ∀ result ∈ returned, result.name = name →
      result.token.toNat ≤ schedule.serial.toNat)
    (hremaining : schedule.interval.slowdownRemaining ≠ 0 →
      9 ≤ schedule.interval.slowdownRemaining)
    (hpending : schedule.pending = 0) : Told schedule name [] carried returned where
  counted := fun hslowing => Nat.le_add_right_of_le (hremaining hslowing)
  tokens := by simp
  carried := fun item hitem hname =>
    ⟨hcarried item hitem hname, fun hne => absurd hpending hne⟩
  returned := fun result hresult hname =>
    ⟨hreturned result hresult hname, fun hne => absurd hpending hne⟩

/-- The next token is handed out, to an item that says the interval in force. -/
theorem Told.begun (h : Told schedule name told carried returned)
    (hinterval : schedule'.interval = schedule.interval)
    (hserial : schedule'.serial.toNat = schedule.serial.toNat + 1)
    (hpending : schedule'.pending = schedule'.serial) {item : WifiCapableItem n}
    (htoken : item.result.token = schedule'.serial)
    (hadvertised : item.advertised = schedule.interval.logInterval) :
    Told schedule' name told (carried ++ [item]) returned where
  counted := by
    rw [hinterval]
    intro hslowing
    have hcounted := h.counted hslowing
    have hall : told.filter (· ≠ schedule'.pending) = told := by
      rw [List.filter_eq_self]
      intro token htold
      have hle := (h.tokens token htold).2
      refine decide_eq_true ?_
      rintro rfl
      rw [hpending] at hle
      omega
    have hfewer := List.length_filter_le (fun token => decide (token ≠ schedule.pending)) told
    rw [hall]
    omega
  tokens := by
    intro token htold
    have hle := h.tokens token htold
    exact ⟨hle.1, by omega⟩
  carried := by
    intro other hother hname
    rw [hinterval]
    rcases List.mem_append.mp hother with hold | hnew
    · have hle := (h.carried other hold hname).1
      refine ⟨by omega, fun _ hsame => ?_⟩
      rw [hpending] at hsame
      rw [hsame] at hle
      omega
    · rw [List.mem_singleton.mp hnew, htoken]
      exact ⟨Nat.le_refl _, fun _ _ => hadvertised⟩
  returned := by
    intro result hresult hname
    have hle := (h.returned result hresult hname).1
    refine ⟨by omega, fun _ hsame => ?_⟩
    rw [hpending] at hsame
    rw [hsame] at hle
    omega

/-- The token in flight comes back as a success, and is counted. -/
theorem Told.count (h : Told schedule name told carried returned)
    (hserial : schedule'.serial = schedule.serial)
    (hlog : schedule'.interval.logInterval = schedule.interval.logInterval)
    (hremaining : schedule'.interval.slowdownRemaining =
      schedule.interval.slowdownRemaining - 1)
    (hpending : schedule'.pending = 0) (hback : schedule.pending ∈ told) :
    Told schedule' name told carried returned := by
  have hall : told.filter (· ≠ schedule'.pending) = told := by
    rw [List.filter_eq_self]
    intro token htoken
    rw [hpending]
    exact decide_eq_true (h.tokens token htoken).1
  have hforget : Told { schedule' with interval := schedule.interval } name told carried
      returned := h.forget hserial (fun _ => rfl) hpending
  refine ⟨?_, hforget.tokens, ?_, hforget.returned⟩
  · intro hslowing
    have hcounted := h.counted (by omega)
    have hfewer : (told.filter (· ≠ schedule.pending)).length < told.length :=
      List.length_filter_lt_length_iff_exists.mpr ⟨schedule.pending, hback, by simp⟩
    rw [hall, hremaining]
    omega
  · intro item hitem hname
    rw [hlog]
    exact hforget.carried item hitem hname

/-- The radio takes an item. -/
theorem Told.taken (h : Told schedule name told carried returned) {item : WifiCapableItem n}
    (hitem : item ∈ carried) (htoken : item.result.token ≠ 0) {result : PtpWifiCapableResult n}
    (hresult : result.name = item.result.name ∧ result.token = item.result.token) :
    Told schedule name
      (told ++ if item.result.name = name ∧ item.advertised = schedule.interval.logInterval then
        [item.result.token] else []) carried (returned ++ [result]) where
  counted := by
    intro hslowing
    have hcounted := h.counted hslowing
    rw [List.filter_append, List.length_append]
    omega
  tokens := by
    intro token htold
    rcases List.mem_append.mp htold with hold | hnew
    · exact h.tokens token hold
    · split at hnew
      · rename_i hmatch
        rw [List.mem_singleton.mp hnew]
        exact ⟨htoken, (h.carried item hitem hmatch.1).1⟩
      · cases hnew
  carried := h.carried
  returned := by
    intro other hother hname
    rcases List.mem_append.mp hother with hold | hnew
    · have hback := h.returned other hold hname
      exact ⟨hback.1, fun hne hsame => List.mem_append_left _ (hback.2 hne hsame)⟩
    · rw [List.mem_singleton.mp hnew] at hname ⊢
      rw [hresult.1] at hname
      have htelling := h.carried item hitem hname
      rw [hresult.2]
      refine ⟨htelling.1, fun hne hsame => List.mem_append_right _ ?_⟩
      rw [if_pos ⟨hname, htelling.2 hne hsame⟩]
      exact List.mem_singleton_self _

/-- Only the interval, the last token and the one in flight matter. -/
theorem Told.congr (h : Told schedule name told carried returned)
    (hinterval : schedule'.interval = schedule.interval)
    (hserial : schedule'.serial = schedule.serial)
    (hpending : schedule'.pending = schedule.pending) :
    Told schedule' name told carried returned := by
  obtain ⟨hcounted, htokens, hcarried, hreturned⟩ := h
  rw [← hinterval, ← hpending] at hcounted
  rw [← hserial] at htokens hcarried hreturned
  rw [← hinterval, ← hpending] at hcarried
  rw [← hpending] at hreturned
  exact ⟨hcounted, htokens, hcarried, hreturned⟩

/-- A section of a completion. A success that is taken was on its way back. -/
theorem Told.finish (h : Told schedule name told carried returned) (hok : schedule.Ok)
    {token : UInt32} {accepted : Bool} {nowUs : Int}
    (hback : accepted = true → schedule.pending ≠ 0 → token = schedule.pending → token ∈ told) :
    Told (ptpCapableScheduleFinish schedule token accepted nowUs).1 name told carried returned := by
  have hspec := ptpCapableScheduleFinish_spec schedule token accepted nowUs
  generalize ptpCapableScheduleFinish schedule token accepted nowUs = answer at hspec ⊢
  cases hspec with
  | unknown _ => exact h
  | late _ _ =>
    have hforget : Told { schedule with pending := 0 } name told carried returned :=
      h.forget rfl (fun _ => rfl) rfl
    exact hforget
  | @taken interval nextUs hpending hne _ _ hinterval _ =>
    rw [hok.advertised (by rw [hpending]; exact hne), ptpCapableIntervalSent_own] at hinterval
    cases accepted with
    | false =>
      rw [hinterval]
      exact h.forget rfl (fun _ => rfl) rfl
    | true =>
      have hsuccess := hback rfl (by rw [hpending]; exact hne) hpending.symm
      rw [hinterval]
      exact h.count rfl rfl rfl rfl (hpending ▸ hsuccess)

end Told

/-! ## What a visit does to a place -/

inductive PlaceMove (node : CapableNode n) (s s' : CapableRadio n) (x : CapableVisit n)
    (place : CapablePlace n) : Prop
  | still (hlife : s'.lifetime place = s.lifetime place)
    (hschedule : s'.schedule place = s.schedule place)
    (hother : ∀ work, x.begun? node = some work → work.place ≠ place)
  | changes (hbegun : x.begun? node = none) (htaken : x.taken? = none)
    (hchange : PlaceChange (s.ports place.port).numbers (s.lifetime place) (s'.lifetime place)
      (s.schedule place) (s'.schedule place))
  | begins (token : UInt32) (htaken : x.taken? = none)
    (hlife : s'.lifetime place = s.lifetime place)
    (hbegin : CapableBegin (s.schedule place) (s'.schedule place, token))
    (hnone : token = 0 → x.begun? node = none)
    (hwork : token ≠ 0 → ∃ work, x.begun? node = some work ∧ work.place = place ∧
      work.token = token)
  | finishes (mac : MacAddr) (association token : UInt32) (accepted : Bool) (nowUs : Int)
    (hbegun : x.begun? node = none) (htaken : x.taken? = none)
    (hname : s.lifetime place = some (mac, association))
    (hlife : s'.lifetime place = s.lifetime place)
    (hschedule : s'.schedule place =
      (ptpCapableScheduleFinish (s.schedule place) token accepted nowUs).1)
    (hback : accepted = true → ∃ result ∈ s.returning,
      result.name = ⟨place.port, mac, association⟩ ∧ result.token = token)

section Moves

variable {node : CapableNode n} {s s' : CapableRadio n} {x : CapableVisit n}

/-- Another port leaves a place alone. -/
theorem update_place {p : Fin n} {port' : CapablePort}
    (hports : s'.ports = Function.update s.ports p port') {place : CapablePlace n}
    (hplace : place.port ≠ p) :
    s'.lifetime place = s.lifetime place ∧ s'.schedule place = s.schedule place := by
  unfold CapableRadio.lifetime CapableRadio.schedule
  rw [hports, Function.update_of_ne hplace]
  exact ⟨rfl, rfl⟩

/-- A section on one schedule leaves the other places alone. -/
theorem acts_place {p : Fin n} {port' : CapablePort} {slot : Option (Fin ptpWifiPeersMax)}
    {schedule' : PtpCapableSchedule} (hports : s'.ports = Function.update s.ports p port')
    (hacts : ActsOn slot schedule' (s.ports p) port') (place : CapablePlace n) :
    s'.lifetime place = s.lifetime place ∧
      ((place = ⟨p, slot⟩ ∧ s'.schedule place = schedule') ∨
        (place ≠ ⟨p, slot⟩ ∧ s'.schedule place = s.schedule place)) := by
  by_cases hport : place.port = p
  · obtain ⟨q, other⟩ := place
    dsimp only at hport
    subst hport
    unfold CapableRadio.lifetime CapableRadio.schedule
    dsimp only
    rw [hports, Function.update_self]
    refine ⟨congrFun hacts.lifetime other, ?_⟩
    by_cases hslot : other = slot
    · exact .inl ⟨by rw [hslot], by rw [hslot, hacts.here]⟩
    · exact .inr ⟨fun hplace => hslot (congrArg CapablePlace.slot hplace),
        hacts.elsewhere other hslot⟩
  · exact ⟨(update_place hports hport).1,
      .inr ⟨fun hplace => hport (congrArg CapablePlace.port hplace), (update_place hports hport).2⟩⟩

/-- The section of a completion, or after a send that failed. -/
theorem sent_place {p : Fin n} {destination : MacAddr} {association token : UInt32}
    {accepted : Bool} {nowUs : Int} (hbegun : x.begun? node = none) (htaken : x.taken? = none)
    (hports : s'.ports = Function.update s.ports p
      ((s.ports p).sent destination association token accepted nowUs).1)
    (hback : accepted = true → ∃ result ∈ s.returning,
      result.name = ⟨p, destination, association⟩ ∧ result.token = token)
    (place : CapablePlace n) : PlaceMove node s s' x place := by
  rcases (s.ports p).sent_acts destination association token accepted nowUs with
    ⟨slot, hname, hacts, -⟩ | hnothing
  · obtain ⟨hlife, ⟨rfl, hschedule⟩ | ⟨-, hschedule⟩⟩ := acts_place hports hacts place
    · exact .finishes destination association token accepted nowUs hbegun htaken hname hlife
        hschedule hback
    · exact .still hlife hschedule (by simp [hbegun])
  · rw [hnothing, Function.update_eq_self] at hports
    refine .still ?_ ?_ (by simp [hbegun])
    · unfold CapableRadio.lifetime
      rw [hports]
    · unfold CapableRadio.schedule
      rw [hports]

/-- The section of a send. -/
theorem begin_place {place' : CapablePlace n} {generation : UInt32} {enabled : Bool} {nowUs : Int}
    (htaken : x.taken? = none)
    (hports : s'.ports = Function.update s.ports place'.port
      (s.beginSend node.cfg place' generation enabled nowUs).1)
    (hbegun : x.begun? node = (s.beginSend node.cfg place' generation enabled nowUs).2)
    (place : CapablePlace n) : PlaceMove node s s' x place := by
  rcases (s.ports place'.port).begin_acts node.cfg enabled nowUs place'.slot with
    ⟨opened, hacts, hanswer⟩ | hnothing
  · obtain ⟨hlife, ⟨rfl, hschedule⟩ | ⟨hplace, hschedule⟩⟩ := acts_place hports hacts place
    · refine .begins (ptpCapableScheduleBegin (s.schedule place') opened nowUs).2 htaken hlife ?_
        ?_ ?_
      · rw [hschedule]
        exact ptpCapableScheduleBegin_spec _ opened nowUs
      · intro hzero
        have htoken := hanswer.trans hzero
        rw [hbegun]
        simp only [CapableRadio.beginSend]
        rw [if_pos htoken]
      · intro htoken
        have hissued : ((s.ports place'.port).begin node.cfg enabled nowUs place'.slot).2 ≠ 0 := by
          rw [hanswer]
          exact htoken
        rw [hbegun]
        simp only [CapableRadio.beginSend]
        rw [if_neg hissued]
        exact ⟨_, rfl, rfl, hanswer⟩
    · refine .still hlife hschedule ?_
      intro work hwork
      rw [hbegun] at hwork
      rw [(CapableRadio.beginSend_spec hwork).1]
      exact Ne.symm hplace
  · simp only [CapableRadio.beginSend, hnothing, Function.update_eq_self] at hports hbegun
    refine .still ?_ ?_ (by simp [hbegun])
    · unfold CapableRadio.lifetime
      rw [hports]
    · unfold CapableRadio.schedule
      rw [hports]

/-- Anybody else's operation on a port. -/
theorem evolves_place {p : Fin n} {port' : CapablePort} {k : Nat} (hbegun : x.begun? node = none)
    (htaken : x.taken? = none) (hports : s'.ports = Function.update s.ports p port')
    (hevolves : PortEvolves k (s.ports p) port') (place : CapablePlace n) :
    PlaceMove node s s' x place := by
  by_cases hport : place.port = p
  · subst hport
    refine .changes hbegun htaken ?_
    unfold CapableRadio.lifetime CapableRadio.schedule
    rw [hports, Function.update_self]
    exact hevolves.change place.slot
  · exact .still (update_place hports hport).1 (update_place hports hport).2 (by simp [hbegun])

theorem apply_place {history : List (CapableVisit n)} (h : CapablePorts node history s)
    (e : CapableEvent n)
    (hbound : ∀ p, numbersGiven node (history ++ [(e, s)]) p < 2 ^ 32 - 1)
    (place : CapablePlace n) : PlaceMove node s (s.apply node e) (e, s) place := by
  have hroom : ∀ p, (s.ports p).numbers + CapableVisit.given node p (e, s) < 2 ^ 32 - 1 := by
    intro p
    rw [h.numbers, ← numbersGiven_snoc]
    exact hbound p
  cases e with
  | daemon choice enabled nowUs =>
    have htaken : CapableVisit.taken? (CapableEvent.daemon choice enabled nowUs, s) = none := rfl
    have hserve := s.serve_cases node choice enabled nowUs
    simp only [CapableRadio.apply]
    generalize s.serve node choice enabled nowUs = s' at hserve ⊢
    cases hserve with
    | skips place' generation hdaemon hnone =>
      exact begin_place htaken rfl (by simp [CapableVisit.begun?, hdaemon]) place
    | begins place' generation work hdaemon hbegun =>
      exact begin_place htaken rfl (by simp [CapableVisit.begun?, hdaemon]) place
    | abandons work hdaemon =>
      exact sent_place (by simp [CapableVisit.begun?, hdaemon]) htaken rfl
        (fun hfalse => Bool.noConfusion hfalse) place
    | completes result hdaemon =>
      refine sent_place (by simp [CapableVisit.begun?, hdaemon]) htaken rfl ?_ place
      intro haccepted
      refine ⟨result.about, ?_, rfl, rfl⟩
      simp [CapableRadio.returning, hdaemon, CapableDaemon.uncredited, haccepted]
    | idle hdaemon _ | samples _ hdaemon | receives _ _ hdaemon _ | queues _ _ hdaemon _
    | refuses _ hdaemon | drops _ hdaemon _ | keeps _ hdaemon _ =>
      exact .still rfl rfl (by simp [CapableVisit.begun?, hdaemon])
  | worker nowUs accepted =>
    have hwork := s.work_cases nowUs accepted
    simp only [CapableRadio.apply]
    generalize s.work nowUs accepted = s' at hwork ⊢
    cases hwork <;> exact .still rfl rfl (by simp [CapableVisit.begun?])
  | peers p op =>
    refine evolves_place rfl rfl rfl ((s.ports p).stations_evolves node.cfg (h.numbered p)
      op.property ?_) place
    have hown : CapableVisit.given node p (CapableEvent.peers p op, s) =
        (s.ports p).stationAdvances node.cfg op.val := if_pos rfl
    have hp := hroom p
    omega
  | neighbor p op =>
    refine evolves_place rfl rfl rfl ((s.ports p).accessPoint_evolves (h.numbered p) op ?_) place
    have hp := hroom p
    omega
  | link p => exact .still rfl rfl (by simp [CapableVisit.begun?])

end Moves

/-- The invariant. -/
structure CapableLedger (node : CapableNode n) (history : List (CapableVisit n))
    (s : CapableRadio n) : Prop where
  serials : ∀ place, (s.schedule place).serial.toNat ≤ (begunWorks node history).length
  outgoing : ∀ item ∈ s.outgoing node, item.result.token ≠ 0 ∧
    item.result.association.toNat ≤ (s.ports item.result.portIndex).numbers
  returning : ∀ result ∈ s.returning,
    result.association.toNat ≤ (s.ports result.portIndex).numbers
  told : ∀ place mac association, s.lifetime place = some (mac, association) →
    Told (s.schedule place) ⟨place.port, mac, association⟩
      (tellings node place ⟨place.port, mac, association⟩
        (s.schedule place).interval.logInterval history) (s.outgoing node) s.returning

section Steps

variable {node : CapableNode n} {history : List (CapableVisit n)} {s s' : CapableRadio n}
  {x : CapableVisit n} {place : CapablePlace n} {name : PlaceName n} {interval : Int}

theorem telling?_none (h : x.taken? = none) : x.telling? name interval = none := by
  unfold CapableVisit.telling?
  rw [h]

/-- A visit that leaves the interval of a place, and takes nothing to the radio. -/
theorem tellings_still (hlife : (x.next node).lifetime place = x.2.lifetime place)
    (hlog : ((x.next node).schedule place).interval.logInterval =
      (x.2.schedule place).interval.logInterval) (htaken : x.taken? = none) :
    tellings node place name interval (history ++ [x]) =
      tellings node place name interval history := by
  have hrenews : x.renews node place = false := by
    simp [CapableVisit.renews, hlife, hlog]
  rw [tellings_snoc, hrenews, telling?_none htaken]
  simp

/-- One that changes it. -/
theorem tellings_renewed (h : (x.next node).lifetime place ≠ x.2.lifetime place ∨
    ((x.next node).schedule place).interval.logInterval ≠
      (x.2.schedule place).interval.logInterval) :
    tellings node place name interval (history ++ [x]) = [] := by
  have hrenews : x.renews node place = true := by
    simp only [CapableVisit.renews, decide_eq_true_eq]
    exact h
  rw [tellings_snoc, hrenews]
  rfl

/-- What is known of a transmission when it is begun. -/
theorem begun?_spec (hports : CapablePorts node history x.2) {work : CapableWork n}
    (h : x.begun? node = some work) :
    x.2.lifetime work.place = some (work.destination, work.association) ∧ work.token ≠ 0 ∧
      work.interval = (x.2.schedule work.place).interval.logInterval ∧
        -3 ≤ work.interval ∧ work.interval ≤ 24 := by
  obtain ⟨place, generation, enabled, nowUs, -, hsend⟩ := CapableVisit.begun?_some h
  obtain ⟨rfl, -, hthere⟩ := CapableRadio.beginSend_spec hsend
  refine ⟨hthere, ?_, beginSend_interval (hports.sound _ _) hsend⟩
  unfold CapableRadio.beginSend at hsend
  dsimp only at hsend
  split at hsend
  · cases hsend
  · rename_i htoken
    have hwork := (Option.some.inj hsend).symm
    rw [hwork]
    exact htoken

/-- Without a begin and a frame, the relays only lose. -/
theorem CapableMoves.loses (h : CapableMoves node s s' x) (hbegun : x.begun? node = none)
    (htaken : x.taken? = none) :
    s'.outgoing node ⊆ s.outgoing node ∧ s'.returning ⊆ s.returning := by
  cases h with
  | quiet _ _ _ hout hback => exact ⟨hout.subset, hback.subset⟩
  | begins work hsome => cases hbegun.symm.trans hsome
  | takes item _ hsome => cases htaken.symm.trans hsome
  | credits result _ _ _ hout hback =>
    rw [hout, hback]
    exact ⟨List.Subset.refl _, List.subset_cons_self _ _⟩

theorem ptpCapableScheduleFinish_serial (schedule : PtpCapableSchedule) (token : UInt32)
    (accepted : Bool) (nowUs : Int) :
    (ptpCapableScheduleFinish schedule token accepted nowUs).1.serial = schedule.serial ∧
      (ptpCapableScheduleFinish schedule token accepted nowUs).1.interval.logInterval =
        schedule.interval.logInterval := by
  have hspec := ptpCapableScheduleFinish_spec schedule token accepted nowUs
  generalize ptpCapableScheduleFinish schedule token accepted nowUs = answer at hspec ⊢
  cases hspec with
  | unknown _ => exact ⟨rfl, rfl⟩
  | late _ _ => exact ⟨rfl, rfl⟩
  | taken _ _ _ _ hinterval _ =>
    rw [hinterval]
    exact ⟨rfl, ptpCapableIntervalSent_logInterval _ _ _⟩

theorem PlaceChange.serial {numbers : Nat} {life life' : Option (MacAddr × UInt32)}
    {schedule schedule' : PtpCapableSchedule}
    (h : PlaceChange numbers life life' schedule schedule') :
    schedule'.serial = schedule.serial ∨ schedule'.serial = 0 := by
  cases h with
  | kept _ h => exact .inl (congrArg _ h)
  | requested _ request h =>
    rcases ptpCapableScheduleRequest_cases schedule request with hsame | ⟨next, -, heq⟩
    · exact .inl (by rw [h, hsame])
    · exact .inl (by rw [h, heq])
  | restarted _ h => exact .inl (by rw [h]; rfl)
  | started _ _ _ _ h => exact .inr (by rw [h]; rfl)
  | ended _ h => exact .inr (by rw [h]; rfl)

/-- The serial number of a schedule moves with the begins. -/
theorem CapableLedger.serials_step (h : CapableLedger node history s)
    (hmove : PlaceMove node s s' x place)
    (hbegins : (begunWorks node (history ++ [x])).length < 2 ^ 32 - 1) :
    (s'.schedule place).serial.toNat ≤ (begunWorks node (history ++ [x])).length := by
  have hold := h.serials place
  rw [begunWorks_snoc, List.length_append] at hbegins ⊢
  cases hmove with
  | still _ hschedule _ =>
    rw [hschedule]
    omega
  | changes _ _ hchange =>
    rcases hchange.serial with hsame | hzero
    · rw [hsame]
      omega
    · rw [hzero]
      exact Nat.zero_le _
  | begins token _ _ hbegin hnone hwork =>
    generalize s'.schedule place = schedule' at hbegin ⊢
    cases hbegin with
    | none _ _ hserial _ =>
      rw [hserial]
      omega
    | begun _ _ hserial _ _ _ =>
      obtain ⟨work, hbegun, -, -⟩ := hwork (nextNonzero_ne_zero _)
      rw [hbegun, Option.toList_some, List.length_singleton] at hbegins ⊢
      rw [hserial, nextNonzero_toNat (by omega)]
      omega
  | finishes _ _ token accepted nowUs _ _ _ _ hschedule _ =>
    rw [hschedule, (ptpCapableScheduleFinish_serial _ token accepted nowUs).1]
    omega

/-- An operation elsewhere. -/
theorem CapableLedger.told_change (h : CapableLedger node history s)
    (hports : CapablePorts node history s) (hx : x.2 = s) (hnext : x.next node = s')
    (htaken : x.taken? = none)
    (hchange : PlaceChange (s.ports place.port).numbers (s.lifetime place) (s'.lifetime place)
      (s.schedule place) (s'.schedule place)) {mac : MacAddr} {association : UInt32}
    (hlife : s'.lifetime place = some (mac, association)) :
    Told (s'.schedule place) ⟨place.port, mac, association⟩
      (tellings node place ⟨place.port, mac, association⟩
        (s'.schedule place).interval.logInterval (history ++ [x])) (s.outgoing node)
      s.returning := by
  subst hx hnext
  have hold : (x.next node).lifetime place = x.2.lifetime place →
      Told (x.2.schedule place) ⟨place.port, mac, association⟩
        (tellings node place ⟨place.port, mac, association⟩
          (x.2.schedule place).interval.logInterval history) (x.2.outgoing node)
        x.2.returning := fun hsame => h.told place mac association (hsame ▸ hlife)
  -- A new interval starts the count anew, with nothing in flight.
  have hrenewed : (x.next node).lifetime place = x.2.lifetime place →
      ((x.next node).schedule place).interval.logInterval ≠
        (x.2.schedule place).interval.logInterval →
      ((x.next node).schedule place).serial = (x.2.schedule place).serial →
      (((x.next node).schedule place).interval.slowdownRemaining ≠ 0 →
        9 ≤ ((x.next node).schedule place).interval.slowdownRemaining) →
      ((x.next node).schedule place).pending = 0 →
      Told ((x.next node).schedule place) ⟨place.port, mac, association⟩
        (tellings node place ⟨place.port, mac, association⟩
          ((x.next node).schedule place).interval.logInterval (history ++ [x]))
        (x.2.outgoing node) x.2.returning := by
    intro hsame hlog hserial hremaining hpending
    rw [tellings_renewed (.inr hlog)]
    refine .renewed ?_ ?_ hremaining hpending
    · intro item hitem hname
      rw [hserial]
      exact ((hold hsame).carried item hitem hname).1
    · intro result hresult hname
      rw [hserial]
      exact ((hold hsame).returned result hresult hname).1
  cases hchange with
  | kept hsame hschedule =>
    rw [tellings_still hsame (by rw [hschedule]) htaken, hschedule]
    exact hold hsame
  | requested hsame request hschedule =>
    rcases ptpCapableScheduleRequest_cases (x.2.schedule place) request with
      hkept | ⟨next, hne, heq⟩
    · rw [hkept] at hschedule
      rw [tellings_still hsame (by rw [hschedule]) htaken, hschedule]
      exact hold hsame
    · rw [heq] at hschedule
      refine hrenewed hsame (by rw [hschedule]; exact hne) (by rw [hschedule]) ?_
        (by rw [hschedule])
      rw [hschedule]
      dsimp only
      split
      · exact fun _ => Nat.le_refl 9
      · exact fun hzero => absurd rfl hzero
  | restarted hsame hschedule =>
    by_cases hlog : ((x.next node).schedule place).interval.logInterval =
        (x.2.schedule place).interval.logInterval
    · rw [tellings_still hsame hlog htaken, hlog]
      refine (hold hsame).forget (by rw [hschedule]; rfl) ?_ (by rw [hschedule]; rfl)
      rw [hschedule]
      exact fun hzero => absurd rfl hzero
    · refine hrenewed hsame hlog (by rw [hschedule]; rfl) ?_ (by rw [hschedule]; rfl)
      rw [hschedule]
      exact fun hzero => absurd rfl hzero
  | started mac' association' hstarted hnew hschedule =>
    rw [hlife] at hstarted
    cases hstarted
    have hother : (x.next node).lifetime place ≠ x.2.lifetime place := by
      intro hsame
      have hle := (hports.numbered place.port).le (hsame.symm.trans hlife)
      omega
    rw [tellings_renewed (.inl hother), hschedule]
    -- The association is a new one, so nothing on its way has its number.
    refine .renewed ?_ ?_ (fun hzero => absurd rfl hzero) rfl
    · intro item hitem hname
      have hle := (h.outgoing item hitem).2
      have hport : item.result.portIndex = place.port := congrArg PlaceName.port hname
      have hnumber : item.result.association = association := congrArg PlaceName.association hname
      rw [hport, hnumber] at hle
      omega
    · intro result hresult hname
      have hle := h.returning result hresult
      have hport : result.portIndex = place.port := congrArg PlaceName.port hname
      have hnumber : result.association = association := congrArg PlaceName.association hname
      rw [hport, hnumber] at hle
      omega
  | ended hgone _ =>
    rw [hlife] at hgone
    cases hgone

/-- A place that nothing happens at, while the relays move. -/
theorem CapableLedger.told_still (h : CapableLedger node history s)
    (hports : CapablePorts node history s) (hx : x.2 = s) (hnext : x.next node = s')
    (hmoves : CapableMoves node s s' x) (hlife : s'.lifetime place = s.lifetime place)
    (hschedule : s'.schedule place = s.schedule place)
    (hother : ∀ work, x.begun? node = some work → work.place ≠ place) {mac : MacAddr}
    {association : UInt32} (hthere : s.lifetime place = some (mac, association)) :
    Told (s.schedule place) ⟨place.port, mac, association⟩
      (tellings node place ⟨place.port, mac, association⟩
        (s.schedule place).interval.logInterval (history ++ [x])) (s'.outgoing node)
      s'.returning := by
  have hold := h.told place mac association hthere
  subst hx hnext
  have hlog : ((x.next node).schedule place).interval.logInterval =
      (x.2.schedule place).interval.logInterval := by rw [hschedule]
  cases hmoves with
  | quiet hbegun htaken _ hout hback =>
    rw [tellings_still hlife hlog htaken]
    exact hold.mono (fun _ hitem _ => hout.subset hitem) (fun _ hresult _ => hback.subset hresult)
  | begins work hbegun htaken _ hout hback =>
    rw [tellings_still hlife hlog htaken]
    refine hold.mono ?_ (fun _ hresult _ => hback ▸ hresult)
    intro item hitem hname
    rw [hout] at hitem
    rcases List.mem_append.mp hitem with hmem | hnew
    · exact hmem
    · -- A begin at another place is for another association.
      rw [List.mem_singleton.mp hnew] at hname
      have hwork := (begun?_spec hports hbegun).1
      have hport : work.place.port = place.port := congrArg PlaceName.port hname
      have hnumber : work.association = association := congrArg PlaceName.association hname
      unfold CapableRadio.lifetime at hwork hthere
      rw [hport, hnumber] at hwork
      have hslot := (hports.numbered place.port).inj hthere hwork
      refine absurd ?_ (hother work hbegun)
      cases hplace : work.place with
      | mk port slot =>
        rw [hplace] at hport hslot
        dsimp only at hport hslot
        rw [hport, hslot]
  | takes item hbegun htaken _ hout hback =>
    have hmem : item.unqueued ∈ x.2.outgoing node := by
      rw [hout]
      exact List.mem_cons_self
    have htoken := (h.outgoing item.unqueued hmem).1
    have hresult : item.result.about.name = item.unqueued.result.name ∧
        item.result.about.token = item.unqueued.result.token := ⟨rfl, rfl⟩
    have htold := hold.taken hmem htoken hresult
    have hrenews : x.renews node place = false := by
      simp [CapableVisit.renews, hlife, hlog]
    have htelling : (x.telling? ⟨place.port, mac, association⟩
        (x.2.schedule place).interval.logInterval).toList =
          if item.unqueued.result.name = ⟨place.port, mac, association⟩ ∧
              item.unqueued.advertised = (x.2.schedule place).interval.logInterval then
            [item.unqueued.result.token] else [] := by
      unfold CapableVisit.telling?
      rw [htaken]
      show (if item.result.name = ⟨place.port, mac, association⟩ ∧
          item.advertised = (x.2.schedule place).interval.logInterval then
            some item.result.token else none).toList = _
      split
      · rename_i hmatch
        exact (if_pos hmatch).symm
      · rename_i hmatch
        exact (if_neg hmatch).symm
    rw [tellings_snoc, hrenews, if_neg (by decide), htelling]
    refine htold.mono ?_ (fun _ hresult _ => hback ▸ hresult)
    intro other hother' _
    rw [hout]
    exact List.mem_cons_of_mem _ hother'
  | credits result hbegun htaken _ hout hback =>
    rw [tellings_still hlife hlog htaken, hout]
    refine hold.mono (fun _ hitem _ => hitem) ?_
    intro other hresult _
    rw [hback]
    exact List.mem_cons_of_mem _ hresult

/-- The place a transmission is begun at. -/
theorem CapableLedger.told_begin (h : CapableLedger node history s)
    (hports : CapablePorts node history s) (hx : x.2 = s) (hnext : x.next node = s')
    (hmoves : CapableMoves node s s' x) {token : UInt32} (htaken : x.taken? = none)
    (hlife : s'.lifetime place = s.lifetime place)
    (hbegin : CapableBegin (s.schedule place) (s'.schedule place, token))
    (hnone : token = 0 → x.begun? node = none)
    (hwork : token ≠ 0 → ∃ work, x.begun? node = some work ∧ work.place = place ∧
      work.token = token)
    (hbegins : (begunWorks node (history ++ [x])).length < 2 ^ 32 - 1) {mac : MacAddr}
    {association : UInt32} (hthere : s.lifetime place = some (mac, association)) :
    Told (s'.schedule place) ⟨place.port, mac, association⟩
      (tellings node place ⟨place.port, mac, association⟩
        (s'.schedule place).interval.logInterval (history ++ [x])) (s'.outgoing node)
      s'.returning := by
  have hold := h.told place mac association hthere
  have hserials := h.serials place
  subst hx hnext
  have hinterval : ((x.next node).schedule place).interval = (x.2.schedule place).interval := by
    generalize (x.next node).schedule place = schedule' at hbegin ⊢
    cases hbegin with
    | none _ hinterval _ _ => exact hinterval
    | begun _ hinterval _ _ _ _ => exact hinterval
  rw [tellings_still hlife (by rw [hinterval]) htaken, hinterval]
  generalize (x.next node).schedule place = schedule' at hbegin hinterval ⊢
  cases hbegin with
  | none _ _ hserial hpending =>
    -- There is no frame, but one that was pending may have been given up.
    obtain ⟨hout, hback⟩ := hmoves.loses (hnone rfl) htaken
    refine Told.mono ?_ (fun _ hitem _ => hout hitem) (fun _ hresult _ => hback hresult)
    rcases hpending with hzero | hsame
    · exact hold.forget hserial (fun _ => by rw [hinterval]) hzero
    · exact hold.congr hinterval hserial hsame
  | begun _ _ hserial hpending _ _ =>
    -- The serial does not wrap in a run that begins so few, so the token is a new one.
    obtain ⟨work, hbegun, rfl, htoken⟩ := hwork (nextNonzero_ne_zero _)
    obtain ⟨-, -, htelling, hrange⟩ := begun?_spec hports hbegun
    rw [begunWorks_snoc, hbegun, Option.toList_some, List.length_append, List.length_singleton]
      at hbegins
    have hnext : schedule'.serial.toNat = (x.2.schedule work.place).serial.toNat + 1 := by
      rw [hserial]
      exact nextNonzero_toNat (by omega)
    cases hmoves with
    | quiet hnothing => cases hbegun.symm.trans hnothing
    | takes _ hnothing => cases hbegun.symm.trans hnothing
    | credits _ hnothing => cases hbegun.symm.trans hnothing
    | begins work' hbegun' _ _ hout hback =>
      obtain rfl : work' = work := Option.some.inj (hbegun'.symm.trans hbegun)
      rw [hout, hback]
      refine hold.begun hinterval hnext hpending (htoken.trans hserial.symm) ?_
      rw [CapableWork.advertised_item node hrange]
      exact htelling

/-- The place a transmission is finished at. -/
theorem CapableLedger.told_finish (h : CapableLedger node history s)
    (hports : CapablePorts node history s) (hx : x.2 = s) (hnext : x.next node = s')
    (hmoves : CapableMoves node s s' x) {mac : MacAddr} {association token : UInt32}
    {accepted : Bool} {nowUs : Int} (hbegun : x.begun? node = none) (htaken : x.taken? = none)
    (hname : s.lifetime place = some (mac, association))
    (hlife : s'.lifetime place = s.lifetime place)
    (hschedule : s'.schedule place =
      (ptpCapableScheduleFinish (s.schedule place) token accepted nowUs).1)
    (hback : accepted = true → ∃ result ∈ s.returning,
      result.name = ⟨place.port, mac, association⟩ ∧ result.token = token) :
    Told (s'.schedule place) ⟨place.port, mac, association⟩
      (tellings node place ⟨place.port, mac, association⟩
        (s'.schedule place).interval.logInterval (history ++ [x])) (s'.outgoing node)
      s'.returning := by
  have hold := h.told place mac association hname
  subst hx hnext
  have hlog : ((x.next node).schedule place).interval.logInterval =
      (x.2.schedule place).interval.logInterval := by
    rw [hschedule]
    exact (ptpCapableScheduleFinish_serial _ token accepted nowUs).2
  obtain ⟨hout, hreturn⟩ := hmoves.loses hbegun htaken
  rw [tellings_still hlife hlog htaken, hlog, hschedule]
  refine Told.mono ?_ (fun _ hitem _ => hout hitem) (fun _ hresult _ => hreturn hresult)
  -- A success that counts has its report in the hands of the daemon, with this token.
  refine hold.finish (hports.sound place.port place.slot).ok ?_
  intro haccepted hne hsame
  obtain ⟨result, hresult, hnamed, htoken⟩ := hback haccepted
  have hcounts := (hold.returned result hresult hnamed).2 hne (htoken.trans hsame)
  rw [htoken] at hcounts
  exact hcounts

theorem CapableLedger.step (h : CapableLedger node history s)
    (hports : CapablePorts node history s) (e : CapableEvent n)
    (hbound : ∀ p, numbersGiven node (history ++ [(e, s)]) p < 2 ^ 32 - 1)
    (hbegins : (begunWorks node (history ++ [(e, s)])).length < 2 ^ 32 - 1) :
    CapableLedger node (history ++ [(e, s)]) (s.apply node e) := by
  have hmoves := apply_moves node s e
  have hplaces := apply_place hports e hbound
  have hgrows : ∀ p, (s.ports p).numbers ≤ ((s.apply node e).ports p).numbers := by
    intro p
    rw [(hports.step e hbound).numbers, numbersGiven_snoc, hports.numbers]
    exact Nat.le_add_right _ _
  refine ⟨?_, ?_, ?_, ?_⟩
  · intro place
    exact h.serials_step (hplaces place) hbegins
  · have hkept : ∀ item ∈ s.outgoing node, item.result.token ≠ 0 ∧
        item.result.association.toNat ≤
          ((s.apply node e).ports item.result.portIndex).numbers := by
      intro item hitem
      exact ⟨(h.outgoing item hitem).1, Nat.le_trans (h.outgoing item hitem).2 (hgrows _)⟩
    cases hmoves with
    | quiet _ _ _ hout _ => exact fun item hitem => hkept item (hout.subset hitem)
    | begins work hbegun _ _ hout _ =>
      intro item hitem
      rw [hout] at hitem
      rcases List.mem_append.mp hitem with hold | hnew
      · exact hkept item hold
      · obtain ⟨hthere, htoken, -, -⟩ := begun?_spec hports hbegun
        rw [List.mem_singleton.mp hnew]
        exact ⟨htoken, Nat.le_trans ((hports.numbered _).le hthere) (hgrows _)⟩
    | takes item _ _ _ hout _ =>
      intro other hother
      refine hkept other ?_
      rw [hout]
      exact List.mem_cons_of_mem _ hother
    | credits _ _ _ _ hout _ => exact fun item hitem => hkept item (hout ▸ hitem)
  · have hkept : ∀ result ∈ s.returning, result.association.toNat ≤
        ((s.apply node e).ports result.portIndex).numbers :=
      fun result hresult => Nat.le_trans (h.returning result hresult) (hgrows _)
    cases hmoves with
    | quiet _ _ _ _ hback => exact fun result hresult => hkept result (hback.subset hresult)
    | begins _ _ _ _ _ hback => exact fun result hresult => hkept result (hback ▸ hresult)
    | takes item _ _ _ hout hback =>
      intro result hresult
      rw [hback] at hresult
      rcases List.mem_append.mp hresult with hold | hnew
      · exact hkept result hold
      · have hmem : item.unqueued ∈ s.outgoing node := by
          rw [hout]
          exact List.mem_cons_self
        rw [List.mem_singleton.mp hnew]
        exact Nat.le_trans (h.outgoing _ hmem).2 (hgrows _)
    | credits _ _ _ _ _ hback =>
      intro result hresult
      refine hkept result ?_
      rw [hback]
      exact List.mem_cons_of_mem _ hresult
  · intro place mac association hthere
    cases hplaces place with
    | still hlife hschedule hother =>
      rw [hschedule]
      exact h.told_still (x := (e, s)) hports rfl rfl hmoves hlife hschedule hother (hlife ▸ hthere)
    | changes hbegun htaken hchange =>
      obtain ⟨hout, hback⟩ := hmoves.loses hbegun htaken
      exact (h.told_change hports rfl rfl htaken hchange hthere).mono
        (fun _ hitem _ => hout hitem) (fun _ hresult _ => hback hresult)
    | begins token htaken hlife hbegin hnone hwork =>
      exact h.told_begin (x := (e, s)) hports rfl rfl hmoves htaken hlife hbegin hnone hwork hbegins
        (hlife ▸ hthere)
    | finishes mac' association' token accepted nowUs hbegun htaken hname hlife hschedule hback =>
      rw [hlife, hname] at hthere
      cases hthere
      exact h.told_finish (x := (e, s)) hports rfl rfl hmoves hbegun htaken hname hlife hschedule
        hback

end Steps

/-! ## Runs -/

/-- The run stays below the numbers of associations and of transmissions there are. -/
structure CapableBounded (node : CapableNode n) (history : List (CapableVisit n)) : Prop where
  numbers : ∀ p, numbersGiven node history p < 2 ^ 32 - 1
  begins : (begunWorks node history).length < 2 ^ 32 - 1

theorem CapableBounded.of_append {node : CapableNode n} {history later : List (CapableVisit n)}
    (h : CapableBounded node (history ++ later)) : CapableBounded node history where
  numbers := by
    intro p
    have hp := h.numbers p
    rw [numbersGiven_append] at hp
    omega
  begins := by
    have hlength := h.begins
    rw [begunWorks, List.filterMap_append, List.length_append] at hlength
    exact Nat.lt_of_le_of_lt (Nat.le_add_right _ _) hlength

theorem CapableLedger.fresh {node : CapableNode n} {s₀ : CapableRadio n} (hfresh : s₀.Fresh) :
    CapableLedger node [] s₀ := by
  have hplace := fun place : CapablePlace n =>
    (freshPort_spec (hfresh.ports place.port)).2.2 place.slot
  refine ⟨?_, ?_, ?_, ?_⟩
  · intro place
    rw [CapableRadio.schedule, (hplace place).2]
    exact Nat.zero_le _
  · intro item hitem
    simp [CapableRadio.outgoing, hfresh.worker, hfresh.queue, hfresh.daemon, CapableWorker.unsent,
      CapableDaemon.unqueued] at hitem
  · intro result hresult
    simp [CapableRadio.returning, hfresh.worker, hfresh.results, hfresh.daemon,
      CapableWorker.unreported, CapableDaemon.uncredited] at hresult
  · intro place mac association hthere
    rw [CapableRadio.lifetime, (hplace place).1] at hthere
    cases hthere

theorem capableLedger {node : CapableNode n} {s₀ : CapableRadio n} (hfresh : s₀.Fresh)
    (events : List (CapableEvent n))
    (hbound : CapableBounded node (trace (capableStep node) s₀ events)) :
    CapablePorts node (trace (capableStep node) s₀ events) (run (capableStep node) s₀ events) ∧
      CapableLedger node (trace (capableStep node) s₀ events)
        (run (capableStep node) s₀ events) := by
  refine run_induction_while
    (P := fun history s => CapablePorts node history s ∧ CapableLedger node history s)
    (CapableBounded node) (fun _ _ h => h.of_append) ⟨.fresh hfresh, .fresh hfresh⟩ ?_ events hbound
  intro history s e hgood h
  exact ⟨h.1.step e hgood.numbers, h.2.step h.1 e hgood.numbers hgood.begins⟩

/-- A request never lengthens a period in effect. -/
theorem ptpCapableScheduleRequest_period_le {schedule : PtpCapableSchedule} (hs : schedule.Ok)
    (hsends : schedule.period ≠ 0) (request : Int) :
    (ptpCapableScheduleRequest schedule request).1.period ≤ schedule.period := by
  have hnext : (ptpCapableScheduleRequest schedule request).1.Ok :=
    capableCall_ok hs (.request request)
  rcases ptpCapableScheduleRequest_cases schedule request with hsame | ⟨next, -, heq⟩
  · rw [hsame]
  · rw [heq] at hnext ⊢
    rw [PtpCapableSchedule.period_eq hs.kept] at hsends hnext ⊢
    rw [PtpCapableSchedule.period_eq hnext.kept]
    exact Slowdown.request_effective_le (by decide) hsends

/-- **A neighbor is told of a slower pace nine times before it gets it.** In a visit that
    lengthens the period of somebody who stays, the schedule is started anew, or the radio has
    taken at least nine indications for this association that say the new interval, since that
    was asked for. -/
theorem slowdown_told (node : CapableNode n) {s₀ : CapableRadio n} (hfresh : s₀.Fresh)
    (events : List (CapableEvent n))
    (hbound : CapableBounded node (trace (capableStep node) s₀ events))
    (before after : List (CapableVisit n)) (x : CapableVisit n)
    (htrace : trace (capableStep node) s₀ events = before ++ x :: after)
    (place : CapablePlace n) (mac : MacAddr) (association : UInt32)
    (hthere : x.2.lifetime place = some (mac, association))
    (hstays : (x.next node).lifetime place = some (mac, association))
    (hsends : (x.2.schedule place).period ≠ 0)
    (hslower : (x.2.schedule place).period < ((x.next node).schedule place).period) :
    (x.next node).schedule place = (x.2.schedule place).restarted ∨
      ((x.next node).schedule place).period =
          ptpCapableIntervalUs (x.2.schedule place).interval.logInterval ∧
        9 ≤ countSince (CapableVisit.renews node place)
          (CapableVisit.tells ⟨place.port, mac, association⟩
            (x.2.schedule place).interval.logInterval) before := by
  obtain ⟨first, rest, rfl, rfl, hstate⟩ := trace_split htrace
  have hprefix : CapableBounded node
      (trace (capableStep node) s₀ first ++ [(x.1, run (capableStep node) s₀ first)]) := by
    have hx : x = (x.1, run (capableStep node) s₀ first) := Prod.ext rfl hstate
    rw [htrace, ← List.singleton_append, ← List.append_assoc, hx] at hbound
    exact hbound.of_append
  obtain ⟨hports, hledger⟩ := capableLedger hfresh first hprefix.of_append
  rw [show run (capableStep node) s₀ first = x.2 from hstate.symm] at hports hledger hprefix
  have hold := hledger.told place mac association hthere
  have hok : (x.2.schedule place).Ok := (hports.sound place.port place.slot).ok
  cases apply_place hports x.1 hprefix.numbers place with
  | still _ hschedule _ =>
    change (x.next node).schedule place = x.2.schedule place at hschedule
    rw [hschedule] at hslower
    exact absurd hslower (Int.lt_irrefl _)
  | changes _ _ hchange =>
    change PlaceChange _ _ ((x.next node).lifetime place) _ ((x.next node).schedule place)
      at hchange
    cases hchange with
    | kept _ hschedule =>
      rw [hschedule] at hslower
      exact absurd hslower (Int.lt_irrefl _)
    | requested _ request hschedule =>
      rw [hschedule] at hslower
      have hle := ptpCapableScheduleRequest_period_le hok hsends request
      exact absurd hslower (Int.not_lt.mpr hle)
    | restarted _ hschedule => exact .inl hschedule
    | started mac' association' hstarted hnew _ =>
      rw [hstays] at hstarted
      cases hstarted
      have hle := (hports.numbered place.port).le hthere
      omega
    | ended hgone _ =>
      rw [hstays] at hgone
      cases hgone
  | begins token _ _ hbegin _ _ =>
    change CapableBegin _ ((x.next node).schedule place, token) at hbegin
    have hsame : ((x.next node).schedule place).period = (x.2.schedule place).period := by
      unfold PtpCapableSchedule.period
      generalize (x.next node).schedule place = schedule' at hbegin ⊢
      cases hbegin with
      | none _ hinterval _ _ => rw [hinterval]
      | begun _ hinterval _ _ _ _ => rw [hinterval]
    rw [hsame] at hslower
    exact absurd hslower (Int.lt_irrefl _)
  | finishes mac' association' token accepted nowUs _ _ hname _ hschedule hback =>
    change (x.next node).schedule place = _ at hschedule
    rw [hthere] at hname
    cases hname
    refine .inr ?_
    rw [hschedule] at hslower ⊢
    have hspec := ptpCapableScheduleFinish_spec (x.2.schedule place) token accepted nowUs
    obtain ⟨htaken, rfl, hlast, hperiod, -⟩ := hspec.period_changed hok (ne_of_gt hslower)
    refine ⟨hperiod, ?_⟩
    -- The ninth is the one that comes back; the other eight have been counted.
    obtain ⟨hne, hpending⟩ : (x.2.schedule place).pending ≠ 0 ∧
        token = (x.2.schedule place).pending := by
      generalize ptpCapableScheduleFinish (x.2.schedule place) token true nowUs = answer
        at hspec htaken
      cases hspec with
      | unknown _ => cases htaken
      | late _ _ => cases htaken
      | taken hpending hne _ _ _ _ => exact ⟨by rw [hpending]; exact hne, hpending.symm⟩
    obtain ⟨result, hresult, hnamed, htoken⟩ := hback rfl
    have hcounts := (hold.returned result hresult hnamed).2 hne (htoken.trans hpending)
    change (x.2.schedule place).interval.slowdownRemaining = 1 at hlast
    have hcounted := hold.counted (by rw [hlast]; exact Nat.one_ne_zero)
    rw [htoken, hpending] at hcounts
    have hfewer : ((tellings node place ⟨place.port, mac, association⟩
        (x.2.schedule place).interval.logInterval (trace (capableStep node) s₀ first)).filter
          (· ≠ (x.2.schedule place).pending)).length <
        (tellings node place ⟨place.port, mac, association⟩
          (x.2.schedule place).interval.logInterval (trace (capableStep node) s₀ first)).length :=
      List.length_filter_lt_length_iff_exists.mpr
        ⟨(x.2.schedule place).pending, hcounts, by simp⟩
    rw [← tellings_length]
    rw [hlast] at hcounted
    omega

namespace Sample

/-- The access point asks for two seconds, and is told so nine times, the ninth up to the section
    that counts it. -/
def capableTold : List (CapableEvent 1) :=
  capableAsked ++
    ((List.range 8).flatMap fun k => capableSend (1000000 * k) ++ [.daemon none true 0]) ++
      capableSend 8000000

def capableNinth : CapableVisit 1 :=
  (.daemon none true 8000000, run (capableStep capableNode) capableRadio capableTold)

theorem capableNinth_last :
    trace (capableStep capableNode) capableRadio (capableTold ++ [capableNinth.1]) =
      trace (capableStep capableNode) capableRadio capableTold ++ [capableNinth] := by
  rw [trace_snoc]
  exact congrArg (trace (capableStep capableNode) capableRadio capableTold ++ [·]) (by
    rw [capableNinth, capableStep])

theorem capableTold_bounded :
    CapableBounded capableNode
      (trace (capableStep capableNode) capableRadio (capableTold ++ [capableNinth.1])) where
  numbers := by decide +kernel
  begins := by decide +kernel

end Sample

theorem slowdown_told_ninth :
    (Sample.capableNinth.next Sample.capableNode).schedule Sample.capablePlace =
        (Sample.capableNinth.2.schedule Sample.capablePlace).restarted ∨
      ((Sample.capableNinth.next Sample.capableNode).schedule Sample.capablePlace).period =
          ptpCapableIntervalUs
            (Sample.capableNinth.2.schedule Sample.capablePlace).interval.logInterval ∧
        9 ≤ countSince (CapableVisit.renews Sample.capableNode Sample.capablePlace)
          (CapableVisit.tells ⟨Sample.capablePlace.port, Sample.accessPoint, 1⟩
            (Sample.capableNinth.2.schedule Sample.capablePlace).interval.logInterval)
          (trace (capableStep Sample.capableNode) Sample.capableRadio Sample.capableTold) :=
  slowdown_told Sample.capableNode Sample.capableRadio_fresh
    (Sample.capableTold ++ [Sample.capableNinth.1]) Sample.capableTold_bounded
    (trace (capableStep Sample.capableNode) Sample.capableRadio Sample.capableTold) []
    Sample.capableNinth Sample.capableNinth_last Sample.capablePlace Sample.accessPoint 1
    (by decide +kernel) (by decide +kernel) (by decide +kernel) (by decide +kernel)

end EspPtp
