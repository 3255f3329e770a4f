import EspPtp.Message
import Mathlib.Algebra.Group.Int.Defs
import Mathlib.Algebra.Group.Nat.Defs

/-!
# The configuration and the times of `ptp.c`

`Config` holds the `CONFIG_*` values the modelled functions read. A value the build fixes
is a field here and not a constant, so every result is about every build that the options
allow.
-/

namespace EspPtp

structure Config where
  /-- `CONFIG_ESP_PTP_DOMAIN`. -/
  domain : UInt8
  /-- `CONFIG_ESP_PTP_DELAYREQ_AVGCOUNT`. -/
  delayreqAvgcount : Nat
  /-- `CONFIG_ESP_PTP_MAX_PEER_DELAY_NS`. -/
  maxPeerDelayNs : Int
  /-- `CONFIG_SYSTEM_TIME64`. -/
  systemTime64 : Bool
  /-- `CONFIG_ESP_PTP_HAS_AP_VIA_COPROCESSOR`. -/
  hasApViaCoprocessor : Bool
  /-- `msec_to_log_period(CONFIG_ESP_PTP_ANNOUNCE_INTERVAL_MS)`. -/
  announceLogInterval : Int
  /-- `msec_to_log_period(CONFIG_ESP_PTP_SYNC_INTERVAL_MS)`. -/
  syncLogInterval : Int
  /-- `CONFIG_ESP_PTP_CLIENT`, `…_SERVER` and `…_GPTP_PROFILE`. -/
  client : Bool
  server : Bool
  gptpProfile : Bool
  /-- `CONFIG_ESP_PTP_AVB_LITE_ENDPOINT`. -/
  avbLiteEndpoint : Bool
  /-- `CONFIG_ESP_PTP_LITE_PRIORITY_TAG`. -/
  litePriorityTag : Bool
  /-- `CONFIG_ESP_PTP_UNICAST_DELAY_REQ`. -/
  unicastDelayReq : Bool
  /-- `CONFIG_ESP_PTP_SYNC_INTERVAL_MS` and `…_ANNOUNCE_INTERVAL_MS`. -/
  syncIntervalMs : Int
  announceIntervalMs : Int
  /-- `CONFIG_ESP_PTP_DELAYREQ_INTERVAL_MS` and `…_PDELAYREQ_INTERVAL_MS`. -/
  delayreqIntervalMs : Int
  pdelayreqIntervalMs : Int
  /-- `CONFIG_ESP_PTP_TIMEOUT_MS` and `…_SETTIME_THRESHOLD_MS`. -/
  timeoutMs : Int
  settimeThresholdMs : Int
  /-- `CONFIG_ESP_PTP_MAX_PATH_DELAY_NS`. -/
  maxPathDelayNs : Int
  /-- `CONFIG_ESP_PTP_PATH_DELAY_STABILITY_NS` and `…_PEER_DELAY_STABILITY_NS`. -/
  pathDelayStabilityNs : Int
  peerDelayStabilityNs : Int
  /-- The `logMessageInterval` of a Delay_Resp, from the request interval, and of a
      Pdelay_Resp, for which the source converts the logarithm 127 to milliseconds and back:
      out of the range of its integers, so whatever the platform makes of it. -/
  delayRespLogInterval : UInt8
  pdelayRespLogInterval : UInt8
  /-- `s_use_sw_clock`: the daemon's clock is the software one. -/
  useSwClock : Bool
  deriving DecidableEq

/-- The `#if` around the client's side of the dispatch: gPTP always acts as a client. -/
def Config.actsAsClient (cfg : Config) : Bool := cfg.client || cfg.gptpProfile

/-- The `#if` around the server's side: gPTP always responds to delay requests. -/
def Config.actsAsServer (cfg : Config) : Bool := cfg.server || cfg.gptpProfile

def int64Max : Int := 9223372036854775807
def int64Min : Int := -9223372036854775808
def nsecPerSec : Int := 1000000000

/-- `timespec_delta_ns`. -/
def timespecDeltaNs (cfg : Config) (ts1 ts2 : Timespec) : Int :=
  let deltaS := ts1.tvSec - ts2.tvSec
  if cfg.systemTime64 && decide (deltaS ≥ int64Max.tdiv nsecPerSec) then int64Max
  else if cfg.systemTime64 && decide (deltaS ≤ int64Min.tdiv nsecPerSec) then int64Min
  else deltaS * nsecPerSec + (ts1.tvNsec - ts2.tvNsec)

/-- `ptp_format_to_timespec`: six bytes of seconds, four of nanoseconds in a 32-bit
    `long`. -/
def ptpFormatToTimespec (timestamp : Vector UInt8 10) : Timespec where
  tvSec :=
    ((timestamp[0]!.toUInt64 <<< 40) ||| (timestamp[1]!.toUInt64 <<< 32) |||
      (timestamp[2]!.toUInt64 <<< 24) ||| (timestamp[3]!.toUInt64 <<< 16) |||
      (timestamp[4]!.toUInt64 <<< 8) ||| timestamp[5]!.toUInt64).toNat
  tvNsec :=
    ((timestamp[6]!.toUInt32 <<< 24) ||| (timestamp[7]!.toUInt32 <<< 16) |||
      (timestamp[8]!.toUInt32 <<< 8) ||| timestamp[9]!.toUInt32).toInt32.toInt

/-- `timespec_to_ns`. -/
def timespecToNs (ts : Timespec) : Int := ts.tvSec * nsecPerSec + ts.tvNsec

/-- `timespec_to_ms`, on the difference of two times. -/
def timespecToMs (ts : Timespec) : Int := ts.tvSec * 1000 + ts.tvNsec.tdiv 1000000

/-- `timespecsub`, with the borrow of the nanoseconds. -/
def timespecSub (a b : Timespec) : Timespec :=
  let sec := a.tvSec - b.tvSec
  let nsec := a.tvNsec - b.tvNsec
  if nsec < 0 then ⟨sec - 1, nsec + nsecPerSec⟩ else ⟨sec, nsec⟩

/-- `timespecadd`, with the carry. -/
def timespecAdd (a b : Timespec) : Timespec :=
  let sec := a.tvSec + b.tvSec
  let nsec := a.tvNsec + b.tvNsec
  if nsec ≥ nsecPerSec then ⟨sec + 1, nsec - nsecPerSec⟩ else ⟨sec, nsec⟩

/-- `timespec_to_ptp_format`; a byte is what the conversion to `uint8_t` keeps. -/
def timespecToPtpFormat (cfg : Config) (ts : Timespec) : Vector UInt8 10 :=
  let secByte (shift : Nat) : UInt8 := UInt8.ofInt (ts.tvSec / 2 ^ shift)
  let nsecByte (shift : Nat) : UInt8 := UInt8.ofInt (ts.tvNsec / 2 ^ shift)
  #v[if cfg.systemTime64 then secByte 40 else 0, if cfg.systemTime64 then secByte 32 else 0,
    secByte 24, secByte 16, secByte 8, secByte 0,
    nsecByte 24, nsecByte 16, nsecByte 8, nsecByte 0]

namespace Sample

/-- The configuration of the fixed runs. -/
def config : Config where
  domain := 0
  delayreqAvgcount := 100
  maxPeerDelayNs := 100000
  systemTime64 := true
  hasApViaCoprocessor := false
  announceLogInterval := 0
  syncLogInterval := -3
  client := true
  server := false
  gptpProfile := true
  avbLiteEndpoint := true
  litePriorityTag := true
  unicastDelayReq := false
  syncIntervalMs := 125
  announceIntervalMs := 1000
  delayreqIntervalMs := 1000
  pdelayreqIntervalMs := 1000
  timeoutMs := 60000
  settimeThresholdMs := 1000
  maxPathDelayNs := 100000
  pathDelayStabilityNs := 250
  peerDelayStabilityNs := 100
  delayRespLogInterval := 0
  pdelayRespLogInterval := 127
  useSwClock := false

end Sample

end EspPtp
