import EspPtp.Wire.Buffer

/-!
# Path Trace (`ptp_path_trace.h`)

The TLV in which an Announce lists the clocks it came through. `ptp_path_trace_t` is a
count and an array; here it is the list of the identities that count. What is written is a
list of bytes, the empty one where the source answers zero.
-/

namespace EspPtp

/-- `ptp_path_trace_t`. -/
abbrev PtpPathTrace := List ClockIdentity

/-- `PTP_PATH_TRACE_MAX_CLOCKS`. -/
def ptpPathTraceMaxClocks : Nat := 16

/-- `PTP_ANNOUNCE_BODY_LENGTH`. -/
def ptpAnnounceBodyLength : Nat := 64

/-- The loop of `ptp_path_trace_parse`: `path` is what was found so far. -/
def pathTraceLoop (message : Bytes) (length : Nat) (localIdentity : ClockIdentity)
    (offset : Nat) (path : Option PtpPathTrace) : Option PtpPathTrace :=
  if offset < length then
    if length - offset < 4 then none
    else
      let type := message.word offset
      let bytes := message.word (offset + 2)
      if bytes > length - (offset + 4) then none
      else if type = 8 then
        let identities :=
          (List.range (bytes / 8)).map fun index => message.field (offset + 4 + index * 8) 8
        if path.isSome ∨ bytes = 0 ∨ bytes % 8 ≠ 0 ∨ bytes / 8 > ptpPathTraceMaxClocks then none
        else if localIdentity ∈ identities then none
        else
          pathTraceLoop message length localIdentity (offset + 4 + bytes) (some identities)
      else pathTraceLoop message length localIdentity (offset + 4 + bytes) path
  else some (path.getD [])
termination_by length - offset

/-- `ptp_path_trace_parse`: without the TLV an empty path, and `none` for a malformed path or
    one through this clock. -/
def ptpPathTraceParse (message : Bytes) (received : Nat) (localIdentity : ClockIdentity) :
    Option PtpPathTrace :=
  if received < ptpAnnounceBodyLength then none
  else
    let length := message.word 2
    if length < ptpAnnounceBodyLength ∨ length > received then none
    else pathTraceLoop message length localIdentity ptpAnnounceBodyLength none

/-- `ptp_path_trace_parse` with its out parameter: what it answers, and the path after it. -/
def ptpPathTraceParseInto (message : Bytes) (received : Nat) (localIdentity : ClockIdentity)
    (path : PtpPathTrace) : Bool × PtpPathTrace :=
  match ptpPathTraceParse message received localIdentity with
  | none => (false, path)
  | some parsed => (true, parsed)

/-- `ptp_path_trace_write`: the TLV of the upstream path and this clock. -/
def ptpPathTraceWrite (capacity : Nat) (upstream : PtpPathTrace) (localIdentity : ClockIdentity) :
    Bytes :=
  if upstream.length ≥ ptpPathTraceMaxClocks then []
  else
    let bytes := (upstream.length + 1) * 8
    if capacity < bytes + 4 then []
    else if localIdentity ∈ upstream then []
    else
      [0, 8, (bytes / 256).toUInt8, bytes.toUInt8] ++ upstream.flatMap Vector.toList ++
        localIdentity.toList

end EspPtp
