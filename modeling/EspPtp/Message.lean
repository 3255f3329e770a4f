import Mathlib.Data.Vector.Defs

/-!
# The messages of `ptp.h`

The wire structures of the daemon, field for field. A C array `uint8_t f[n]` is a
`Vector UInt8 n`; multi-byte fields stay the big-endian byte arrays they are on the wire
and are decoded where the source decodes them (`ptpGetSequence` and the like), because
several comparisons of the source are `memcmp`s of these bytes and not of the numbers.

Where the source puts an eight-byte clock identity and a two-byte port number side by
side and compares the two with a pair of `memcmp`s, the pair is a `PortIdentity`.
-/

namespace EspPtp

/-- `uint8_t[8]`: a clock identity. -/
abbrev ClockIdentity := Vector UInt8 8

/-- `uint8_t[6]`: a link-layer address. -/
abbrev MacAddr := Vector UInt8 6

/-- The octets of a field of two. -/
abbrev octet0 (b : Vector UInt8 2) : UInt8 := b[0]

abbrev octet1 (b : Vector UInt8 2) : UInt8 := b[1]

/-- A field of two octets. -/
abbrev octets (first second : UInt8) : Vector UInt8 2 := #v[first, second]

/-- The octet of an address with the group bit. -/
abbrev macOctet0 (mac : MacAddr) : UInt8 := mac[0]

/-- What is compared byte by byte is compared. -/
instance : LawfulBEq ClockIdentity := inferInstanceAs (LawfulBEq (Vector UInt8 8))

instance : LawfulBEq MacAddr := inferInstanceAs (LawfulBEq (Vector UInt8 6))

/-- A clock identity and a port number, the ten bytes the source keeps together. -/
structure PortIdentity where
  clock : ClockIdentity
  port : Vector UInt8 2
  deriving DecidableEq, Inhabited, Repr

/-- `struct timespec`. -/
structure Timespec where
  tvSec : Int
  tvNsec : Int
  deriving DecidableEq, Inhabited, Repr

/-- `struct ptp_header_s`, the common header. -/
structure PtpHeader where
  messagetype : UInt8
  version : UInt8
  messagelength : Vector UInt8 2
  domain : UInt8
  reserved1 : UInt8
  flags : Vector UInt8 2
  correction : Vector UInt8 8
  reserved2 : Vector UInt8 4
  sourceidentity : ClockIdentity
  sourceportindex : Vector UInt8 2
  sequenceid : Vector UInt8 2
  controlfield : UInt8
  logmessageinterval : UInt8
  deriving DecidableEq, Inhabited, Repr

/-- The port a message comes from. -/
def PtpHeader.sourcePort (h : PtpHeader) : PortIdentity := ⟨h.sourceidentity, h.sourceportindex⟩

/-- Two bytes read as a big-endian number. -/
def be16 (b : Vector UInt8 2) : UInt16 := ((octet0 b).toUInt16 <<< 8) ||| (octet1 b).toUInt16

/-- `ptp_get_sequence`. -/
def ptpGetSequence (hdr : PtpHeader) : UInt16 := be16 hdr.sequenceid

/-- `struct ptp_announce_s` up to its Path Trace TLV, which the source parses apart. -/
structure PtpAnnounce where
  header : PtpHeader
  origintimestamp : Vector UInt8 10
  utcoffset : Vector UInt8 2
  reserved : UInt8
  btcPriority1 : UInt8
  btcQuality : Vector UInt8 4
  btcPriority2 : UInt8
  btcIdentity : ClockIdentity
  stepsremoved : Vector UInt8 2
  timesource : UInt8
  deriving DecidableEq, Inhabited, Repr

/-- `struct ptp_sync_s`. -/
structure PtpSync where
  header : PtpHeader
  origintimestamp : Vector UInt8 10
  deriving DecidableEq, Inhabited, Repr

/-- `struct ptp_follow_up_s`. -/
structure PtpFollowUp where
  header : PtpHeader
  origintimestamp : Vector UInt8 10
  informationtlv : Vector UInt8 32
  deriving DecidableEq, Inhabited, Repr

/-- `struct ptp_delay_req_s`. -/
structure PtpDelayReq where
  header : PtpHeader
  origintimestamp : Vector UInt8 10
  deriving DecidableEq, Inhabited, Repr

/-- `struct ptp_delay_resp_s`. -/
structure PtpDelayResp where
  header : PtpHeader
  receivetimestamp : Vector UInt8 10
  reqidentity : ClockIdentity
  reqportindex : Vector UInt8 2
  deriving DecidableEq, Inhabited, Repr

/-- `struct ptp_delay_resp_follow_up_s`. -/
structure PtpDelayRespFollowUp where
  header : PtpHeader
  origintimestamp : Vector UInt8 10
  reqidentity : ClockIdentity
  reqportindex : Vector UInt8 2
  deriving DecidableEq, Inhabited, Repr

/-- The port a peer-delay answer is addressed to. -/
def PtpDelayResp.requester (r : PtpDelayResp) : PortIdentity := ⟨r.reqidentity, r.reqportindex⟩

/-- The port a peer-delay follow-up is addressed to. -/
def PtpDelayRespFollowUp.requester (f : PtpDelayRespFollowUp) : PortIdentity :=
  ⟨f.reqidentity, f.reqportindex⟩

end EspPtp
