import WebRtcCall.Basic.StdMap

/-!
# Identifiers, configurations and stream objects

The values `call.cc` exchanges with its clients and with the streams it indexes.

An SSRC is a `uint32_t`. A stream is known to the call only through the pointer
`Create*` returned; pointers are addresses (`Ptr`), and the objects behind them live in
the client-owned heap that `Call` carries next to its registry. Each object keeps the
fields of its `Config` that `call.cc` reads, and a record of the calls the call makes on
it that change what it does: the last `SignalNetworkState` argument, the last
`SetSyncChannel` channel, and, for a video send stream, the suspended RTP states handed
to its constructor.

`RtpState` is never looked into by `call.cc` (it is copied from
`VideoSendStream::GetRtpStates()` into `suspended_video_send_ssrcs_` and back into the
constructor), so it is modelled by an opaque value.
-/

namespace WebRtcCall

/-- A synchronization source identifier, `uint32_t`. -/
abbrev Ssrc := UInt32

/-- The address of a stream object, the value `new` returned for it. -/
abbrev Ptr := Nat

/-- `webrtc::RtpState`, opaque to `call.cc`. -/
abbrev RtpState := Nat

/-- `VideoSendStream::RtpStateMap`, a `std::map<uint32_t, RtpState>`. -/
abbrev RtpStateMap := StdMap Ssrc RtpState

/-- Modelled from the spec: `ByteReader<uint32_t>::ReadBigEndian(&packet[offset])`, the four
bytes from `offset` on, most significant first. -/
def readBigEndian32 (packet : List UInt8) (offset : Nat) : Ssrc :=
  ((packet.drop offset).take 4).foldl (fun acc b => acc * 256 + b.toUInt32) 0

/-- `webrtc::NetworkState`. -/
inductive NetworkState
  | kNetworkUp
  | kNetworkDown
  deriving DecidableEq, Repr

/-- `webrtc::MediaType`, the hint `DeliverPacket` is given. -/
inductive MediaType
  | any
  | audio
  | video
  | data
  deriving DecidableEq, Repr

/-- `PacketReceiver::DeliveryStatus`. -/
inductive DeliveryStatus
  | deliveryOk
  | deliveryUnknownSsrc
  | deliveryPacketError
  deriving DecidableEq, Repr

/-! ### Configurations -/

/-- `AudioSendStream::Config::Rtp`. -/
structure AudioSendStream.Config.Rtp where
  ssrc : Ssrc
  deriving DecidableEq, Repr

/-- `AudioSendStream::Config`. -/
structure AudioSendStream.Config where
  rtp : AudioSendStream.Config.Rtp
  deriving DecidableEq, Repr

/-- `AudioReceiveStream::Config::Rtp`. -/
structure AudioReceiveStream.Config.Rtp where
  remoteSsrc : Ssrc
  deriving DecidableEq, Repr

/-- `AudioReceiveStream::Config`. -/
structure AudioReceiveStream.Config where
  rtp : AudioReceiveStream.Config.Rtp
  voeChannelId : Int
  syncGroup : String
  deriving DecidableEq, Repr

/-- `VideoSendStream::Config::Rtp`: the simulcast SSRCs, in the order of the vector. -/
structure VideoSendStream.Config.Rtp where
  ssrcs : List Ssrc
  deriving DecidableEq, Repr

/-- `VideoSendStream::Config`. -/
structure VideoSendStream.Config where
  rtp : VideoSendStream.Config.Rtp
  deriving DecidableEq, Repr

/-- `VideoReceiveStream::Config::Rtp::Rtx`. -/
structure VideoReceiveStream.Config.Rtp.Rtx where
  ssrc : Ssrc
  payloadType : Int
  deriving DecidableEq, Repr

/-- `VideoReceiveStream::Config::Rtp`; `rtx` is the `RtxMap`, keyed by media payload type. -/
structure VideoReceiveStream.Config.Rtp where
  remoteSsrc : Ssrc
  rtx : StdMap Int VideoReceiveStream.Config.Rtp.Rtx

/-- `VideoReceiveStream::Config`. -/
structure VideoReceiveStream.Config where
  rtp : VideoReceiveStream.Config.Rtp
  syncGroup : String

/-- The SSRC `CreateVideoReceiveStream` indexes besides `remote_ssrc`: that of the first
entry of the RTX map, if the map is not empty. -/
def VideoReceiveStream.Config.rtxSsrc (config : VideoReceiveStream.Config) : Option Ssrc :=
  config.rtp.rtx.entries.head?.map (·.2.ssrc)

/-! ### Stream objects -/

/-- An `AudioSendStream` object. -/
structure AudioSendStream where
  config : AudioSendStream.Config
  /-- The argument of the last `SignalNetworkState` call on it. -/
  networkState : Option NetworkState := none

/-- An `AudioReceiveStream` object. -/
structure AudioReceiveStream where
  config : AudioReceiveStream.Config

/-- A `VideoSendStream` object. -/
structure VideoSendStream where
  config : VideoSendStream.Config
  /-- The `suspended_ssrcs` map its constructor was given. -/
  suspendedSsrcs : RtpStateMap
  networkState : Option NetworkState := none

/-- A `VideoReceiveStream` object. -/
structure VideoReceiveStream where
  config : VideoReceiveStream.Config
  networkState : Option NetworkState := none
  /-- The channel of the last `SetSyncChannel(voice_engine, channel)` call on it. -/
  syncChannel : Option Int := none

/-- `stream->SignalNetworkState(state)`. -/
def AudioSendStream.signalNetworkState (s : AudioSendStream) (state : NetworkState) :
    AudioSendStream := { s with networkState := some state }

/-- `stream->SignalNetworkState(state)`. -/
def VideoSendStream.signalNetworkState (s : VideoSendStream) (state : NetworkState) :
    VideoSendStream := { s with networkState := some state }

/-- `stream->SignalNetworkState(state)`. -/
def VideoReceiveStream.signalNetworkState (s : VideoReceiveStream) (state : NetworkState) :
    VideoReceiveStream := { s with networkState := some state }

/-- `stream->SetSyncChannel(voice_engine, channel)`. -/
def VideoReceiveStream.setSyncChannel (s : VideoReceiveStream) (channel : Int) :
    VideoReceiveStream := { s with syncChannel := some channel }

@[simp] theorem AudioSendStream.config_signalNetworkState (s : AudioSendStream) (n) :
    (s.signalNetworkState n).config = s.config := rfl

@[simp] theorem VideoSendStream.config_signalNetworkState (s : VideoSendStream) (n) :
    (s.signalNetworkState n).config = s.config := rfl

@[simp] theorem VideoSendStream.suspendedSsrcs_signalNetworkState (s : VideoSendStream) (n) :
    (s.signalNetworkState n).suspendedSsrcs = s.suspendedSsrcs := rfl

@[simp] theorem VideoReceiveStream.config_signalNetworkState (s : VideoReceiveStream) (n) :
    (s.signalNetworkState n).config = s.config := rfl

@[simp] theorem VideoReceiveStream.syncChannel_signalNetworkState (s : VideoReceiveStream) (n) :
    (s.signalNetworkState n).syncChannel = s.syncChannel := rfl

@[simp] theorem AudioSendStream.networkState_signalNetworkState (s : AudioSendStream) (n) :
    (s.signalNetworkState n).networkState = some n := rfl

@[simp] theorem VideoSendStream.networkState_signalNetworkState (s : VideoSendStream) (n) :
    (s.signalNetworkState n).networkState = some n := rfl

@[simp] theorem VideoReceiveStream.networkState_signalNetworkState (s : VideoReceiveStream) (n) :
    (s.signalNetworkState n).networkState = some n := rfl

/-! The new stream of a `Create*` made while the network is down is signalled
`kNetworkDown`; these say what that conditional call leaves alone. -/

@[simp] theorem AudioSendStream.config_ite (b : Bool) (s : AudioSendStream) (n) :
    (if b then s else s.signalNetworkState n).config = s.config := by split <;> rfl

@[simp] theorem VideoSendStream.config_ite (b : Bool) (s : VideoSendStream) (n) :
    (if b then s else s.signalNetworkState n).config = s.config := by split <;> rfl

@[simp] theorem VideoSendStream.suspendedSsrcs_ite (b : Bool) (s : VideoSendStream) (n) :
    (if b then s else s.signalNetworkState n).suspendedSsrcs = s.suspendedSsrcs := by
  split <;> rfl

@[simp] theorem VideoReceiveStream.config_ite (b : Bool) (s : VideoReceiveStream) (n) :
    (if b then s else s.signalNetworkState n).config = s.config := by split <;> rfl

@[simp] theorem VideoReceiveStream.syncChannel_ite (b : Bool) (s : VideoReceiveStream) (n) :
    (if b then s else s.signalNetworkState n).syncChannel = s.syncChannel := by split <;> rfl

@[simp] theorem VideoReceiveStream.config_setSyncChannel (s : VideoReceiveStream) (ch) :
    (s.setSyncChannel ch).config = s.config := rfl

@[simp] theorem VideoReceiveStream.networkState_setSyncChannel (s : VideoReceiveStream) (ch) :
    (s.setSyncChannel ch).networkState = s.networkState := rfl

/-! ### The event log -/

/-- A record written to `RtcEventLog`. -/
inductive RtcEvent
  | videoSendStreamConfig (config : VideoSendStream.Config)
  | videoReceiveStreamConfig (config : VideoReceiveStream.Config)
  | rtpHeader (incoming : Bool) (mediaType : MediaType) (packet : List UInt8)
  | rtcpPacket (incoming : Bool) (mediaType : MediaType) (packet : List UInt8)

end WebRtcCall
