import EspPtp.Lib.Registry
import EspPtp.Peer.Soundness
import EspPtp.Peer.Confluence
import EspPtp.Peer.ClockStep
import EspPtp.Capable.Schedule
import EspPtp.Wifi.Lifetimes
import EspPtp.Wifi.Neighbor
import EspPtp.Wire.Signaling
import EspPtp.Wire.PathTrace
import EspPtp.Wire.LiteTlv
import EspPtp.Capable.Wired
import EspPtp.Daemon.Signaling
import EspPtp.Daemon.StaleFrames
import EspPtp.Lib.Memcmp
import EspPtp.Daemon.Ingress
import EspPtp.Daemon.Pairing
import EspPtp.Daemon.Publication
import EspPtp.Daemon.Generation
import EspPtp.Daemon.Convergence
import EspPtp.Daemon.Revival
import EspPtp.Daemon.InjectRun
import EspPtp.Daemon.AnnounceChain
import EspPtp.Wire.SignalingBounds
import EspPtp.Wire.SignalingWrite
import EspPtp.Daemon.PeerAgreement
import EspPtp.Daemon.Trailing
import EspPtp.Wifi.Mirror
import EspPtp.Wifi.Refusals
import EspPtp.Daemon.FtmSession
import EspPtp.Daemon.StaCapability
import EspPtp.Daemon.ProfileIntent
import EspPtp.Daemon.EndpointBeacon
import EspPtp.Daemon.PhaseChange
import EspPtp.Transmit.Pace
import EspPtp.Transmit.Wait
import EspPtp.Clock.Affine
import EspPtp.Clock.Software
import EspPtp.Clock.Discipline
import EspPtp.Clock.WiredBounds
import EspPtp.Lib.RunningMean
import EspPtp.Daemon.DelayAverage
import EspPtp.Daemon.ServoTrim
import EspPtp.Peer.Losses
import EspPtp.Daemon.LossFallback
import EspPtp.Peer.Outliers
import EspPtp.Wifi.Envelope
import EspPtp.Lib.BucketRing
import EspPtp.Wifi.FtmSuccess
import EspPtp.Wifi.PortNumbers
import EspPtp.Daemon.StatusPath
import EspPtp.Daemon.TimeDifference
import EspPtp.Daemon.ScaledNs
import EspPtp.Wire.LiteScan
import EspPtp.Clock.RateCorrection
import EspPtp.Clock.WiredOrder
import EspPtp.Peer.Traces
import EspPtp.Daemon.MajorSdoId
import EspPtp.Publish.AnnounceRevision
import EspPtp.Publish.CapablePromise
import EspPtp.Link.Exchange
import EspPtp.Beacon.Element
import EspPtp.Beacon.Lock
import EspPtp.Beacon.Delivery
import EspPtp.Beacon.Reset
