import EspPtp.Daemon.Announce
import EspPtp.Daemon.Servo

/-!
# Sync and Follow_Up (`ptp_process_sync`, `ptp_process_followup`)

A two-step Sync is kept until its Follow_Up brings the time it was sent at. With both the
local clock is updated, and in the gPTP profile the observation is published, under the
generation that was current when the handler looked — if it still is.
-/

namespace EspPtp

open Lib

variable {F : Type} [CDouble F] {n : Nat}

/-- What `ptp_process_sync` reads from outside. -/
structure SyncTimes where
  mono : Timespec
  receivedUs : Int
  clock : ClockAnswers
  deriving DecidableEq, Inhabited

/-- `PTP_FLAGS0_TWOSTEP` is set. -/
def PtpHeader.isTwoStep (h : PtpHeader) : Bool := decide (octet0 h.flags &&& 2 ≠ 0)

/-- `ptp_process_sync`. -/
def ptpProcessSync (cfg : Config) (s : PtpState F n) (msg : PtpSync) (times : SyncTimes) :
    PtpState F n :=
  if msg.header.sourcePort ≠ s.selectedSource.header.sourcePort then s
  else
    let s := s.withPort0
      { s.port0 with
        lastReceivedSync := times.mono
        twostepPending := false }
    if msg.header.isTwoStep then
      s.withPort0
        { s.port0 with
          twostepRxtime := s.port0.rxtime
          twostepPacket := msg
          twostepReceivedUs := times.receivedUs
          twostepPending := true }
    else
      (ptpUpdateLocalClock cfg s (ptpFormatToTimespec msg.origintimestamp) s.port0.rxtime
        times.clock).1

/-- The call of `ptp_update_local_clock` a Sync makes, if it makes one: a one-step Sync of the
    selected source. -/
def syncClockCall (s : PtpState F n) (msg : PtpSync) : Option ClockCall :=
  if msg.header.sourcePort ≠ s.selectedSource.header.sourcePort ∨ msg.header.isTwoStep then none
  else some ⟨ptpFormatToTimespec msg.origintimestamp, s.port0.rxtime⟩

/-- What `ptp_process_followup` reads from outside. -/
structure FollowupTimes where
  nowUs : Int
  clock : ClockAnswers
  observedUs : Int
  publishedUs : Int
  deriving DecidableEq, Inhabited

/-- `get_correction_ns`: 2⁻¹⁶ nanoseconds, signed. -/
def getCorrectionNs (correction : Vector UInt8 8) : Int :=
  let unsignedCorrection := (List.finRange 8).foldl
    (fun (acc : UInt64) i => acc ||| (correction[i].toUInt64 <<< UInt64.ofNat (56 - i.val * 8))) 0
  (unsignedCorrection.toInt64 >>> 16).toInt

/-- `gmtimebaseindicator` and what follows it in the information TLV. -/
def PtpFollowUp.gmFields (msg : PtpFollowUp) : GmFields :=
  Vector.ofFn fun i => msg.informationtlv[14 + i.val]

/-- `gmTimeBaseIndicator` of an information TLV. -/
def tlvTimeBaseIndicator (informationtlv : Vector UInt8 32) : Vector UInt8 2 :=
  octets informationtlv[14] informationtlv[15]

/-- Bytes 58 and 59 of a Follow_Up, its `gmTimeBaseIndicator`. -/
def PtpFollowUp.timeBaseIndicator (msg : PtpFollowUp) : Vector UInt8 2 :=
  tlvTimeBaseIndicator msg.informationtlv

/-- The Follow_Up of the Sync that is waiting, and usable. `message` is the buffer it was
    read from; the size checked is that of the structure. -/
def followupAccepted (s : PtpState F n) (message : Bytes) (nowUs : Int) : Bool :=
  let msg := PtpFollowUp.read message
  let port := s.port0
  let ageUs := nowUs - port.twostepReceivedUs
  port.twostepPending && decide (0 ≤ ageUs) && decide (ageUs ≤ 1000000) &&
    decide (msg.header.sourcePort = port.twostepPacket.header.sourcePort) &&
    decide (ptpGetSequence msg.header = ptpGetSequence port.twostepPacket.header) &&
    (!s.isGptp || (ptpTimingPayloadValid message 76 &&
      decide (ptpSyncReceiptInterval
        port.twostepPacket.header.logmessageinterval.toInt8.toInt ≠ 0)))

/-- The call of `ptp_update_local_clock` a Follow_Up makes, if it makes one. -/
def followupClockCall (s : PtpState F n) (message : Bytes) (nowUs : Int) : Option ClockCall :=
  if followupAccepted s message nowUs then
    some
      ⟨ptpFormatToTimespec (PtpFollowUp.read message).origintimestamp, s.port0.twostepRxtime⟩
  else none

/-- What is taken over from a Follow_Up before the clock is updated. -/
def followupTaken (s : PtpState F n) (msg : PtpFollowUp) : PtpState F n :=
  let s := s.withPort0 { s.port0 with twostepPending := false }
  if s.isGptp then
    { s with
      correctionNs := CDouble.ofInt (getCorrectionNs msg.header.correction)
      upstreamGmFields := msg.gmFields
      upstreamGmFieldsValid := true }
  else s

/-- The generation of a publication: one more where another source or time base was
    published before. -/
def publishedGeneration (current : PtpTimingSnapshot) (btc : ClockIdentity)
    (msg : PtpFollowUp) : UInt32 :=
  let generation := if current.generation = 0 then 1 else current.generation
  if current.receivedUs ≠ 0 ∧ (current.btcIdentity ≠ btc ∨
      current.followUp.timeBaseIndicator ≠ msg.timeBaseIndicator) then generation + 1
  else generation

/-- The snapshot a Follow_Up publishes. -/
def followupSnapshot (cfg : Config) (s : PtpState F n) (msg : PtpFollowUp) (publishedUs : Int) :
    PtpTimingSnapshot :=
  let referenceNs := timespecToNs (ptpFormatToTimespec msg.origintimestamp)
  let localReceiveNs := timespecToNs s.port0.twostepRxtime
  let correctionNs := CDouble.trunc s.correctionNs
  { generation := publishedGeneration s.timingSnapshot s.selectedSource.btcIdentity msg
    receivedUs := publishedUs
    referenceNs := referenceNs
    localReceiveNs := localReceiveNs
    offsetNs := referenceNs + correctionNs + s.port0.peerDelayNs - localReceiveNs
    correctionNs := correctionNs
    peerDelayNs := s.port0.peerDelayNs
    trimPpb := s.freqTrimPpb
    driftPpb := s.driftAcc
    btcIdentity := s.selectedSource.btcIdentity
    ownIdentity := s.ownIdentity.header.sourceidentity
    followUp := msg
    hardwareClock := !cfg.useSwClock
    valid := true }

/-- `ptp_process_followup` after the update of the local clock, with the generation it read
    before. Nobody else is modelled in between, so the generation it compares last is the one
    it has. -/
def followupPublish (cfg : Config) (s : PtpState F n) (message : Bytes)
    (previous : UInt32) (ok : Bool) (times : FollowupTimes) : PtpState F n :=
  let msg := PtpFollowUp.read message
  let observes := ok && s.isGptp && ptpTimingPayloadValid message 76
  let s :=
    if observes then
      s.withPort0
        { s.port0 with
          syncReceipt :=
            (ptpSyncReceiptObserve s.port0.syncReceipt times.observedUs
              s.port0.twostepPacket.header.logmessageinterval.toInt8.toInt times.observedUs).1 }
    else s
  if observes && decide (s.timingSnapshot.generation = previous) && s.selectedSourceValid then
    { s with timingSnapshot := followupSnapshot cfg s msg times.publishedUs }
  else s

/-- `ptp_process_followup`. -/
def ptpProcessFollowup (cfg : Config) (s : PtpState F n) (message : Bytes)
    (times : FollowupTimes) : PtpState F n :=
  let msg := PtpFollowUp.read message
  if !followupAccepted s message times.nowUs then s
  else
    let s := followupTaken s msg
    let previous := s.timingSnapshot.generation
    let updated := ptpUpdateLocalClock cfg s (ptpFormatToTimespec msg.origintimestamp)
      s.port0.twostepRxtime times.clock
    followupPublish cfg updated.1 message previous updated.2 times

end EspPtp
