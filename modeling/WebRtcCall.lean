import WebRtcCall.Basic.StdMap
import WebRtcCall.Call.Types
import WebRtcCall.Call.State
import WebRtcCall.Call.Lifecycle
import WebRtcCall.Call.Run
import WebRtcCall.Call.Registry
import WebRtcCall.Call.Invariant
import WebRtcCall.Call.Sync
import WebRtcCall.Call.SyncOrder
import WebRtcCall.Call.Network
import WebRtcCall.Call.RoundTrip
import WebRtcCall.Call.Deliver
import WebRtcCall.Call.Concurrent
import WebRtcCall.Call.Suspended
import WebRtcCall.Call.EventLog
import WebRtcCall.Call.Teardown
import WebRtcCall.Call.Bitrate
import WebRtcCall.Call.Stats
import WebRtcCall.Receiver.Ingress
import WebRtcCall.Receiver.Collaborators
import WebRtcCall.Receiver.Bounds
import WebRtcCall.Receiver.Restoration
import WebRtcCall.Receiver.Bookkeeping
import WebRtcCall.Receiver.Rtcp
import WebRtcCall.Receiver.HeaderExtensions
import WebRtcCall.Receiver.Nesting
