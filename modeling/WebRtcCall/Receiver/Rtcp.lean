import WebRtcCall.Receiver.Ingress

/-!
# RTCP on a video receiver

`ViEReceiver::InsertRTCPPacket` hands an RTCP packet to every module of
`rtp_rtcp_simulcast_`, under `receive_cs_`, then to the base module `rtp_rtcp_`; when the base
module accepts it and knows a round-trip time to the remote SSRC and the remote NTP time, it
updates the remote NTP time estimator. The owner sets the base module with `SetRtpRtcpModule`
and the simulcast modules with `RegisterRtpRtcpModules`, which keeps every module of the vector
it is given but the first: the first one's place is the base module's. Of an empty vector it
computes `begin() + 1` past the end, which the model returns as an error.
-/

namespace WebRtcCall

/-- What a `ViEReceiver` holds of its RTP/RTCP modules, over a type `μ` of module addresses. -/
structure RtcpModules (μ : Type) where
  /-- `rtp_rtcp_`, `none` while it is `NULL`. -/
  rtpRtcp : Option μ
  /-- `rtp_rtcp_simulcast_`. -/
  rtpRtcpSimulcast : List μ

/-- The answers of the modules and of the RTP receiver that `InsertRTCPPacket` reads. -/
structure RtcpEnv (μ : Type) where
  /-- `RtpRtcp::IncomingRtcpPacket`. -/
  incomingRtcpPacket : μ → List UInt8 → Int
  /-- The round-trip time `RtpRtcp::RTT` writes for a remote SSRC, `0` if it has none. -/
  rtt : μ → Ssrc → Int
  /-- `RtpRtcp::RemoteNTP`: the NTP seconds and fraction and the RTP timestamp, `none` for a
  nonzero return. -/
  remoteNtp : μ → Option (UInt32 × UInt32 × UInt32)
  /-- `RtpReceiver::SSRC`. -/
  remoteSsrc : Ssrc

/-- A call `InsertRTCPPacket` makes. -/
inductive RtcpCall (μ : Type)
  /-- `RtpRtcp::IncomingRtcpPacket(rtcp_packet, rtcp_packet_length)` on a module. -/
  | incomingRtcpPacket (module : μ)
  /-- `RemoteNtpTimeEstimator::UpdateRtcpTimestamp(rtt, ntp_secs, ntp_frac, rtp_timestamp)`. -/
  | updateRtcpTimestamp (rtt : Int) (ntpSecs ntpFrac rtpTimestamp : UInt32)
  deriving DecidableEq, Repr

namespace ViEReceiver

variable {μ ρ φ : Type}

/-- `ViEReceiver::SetRtpRtcpModule(module)`. -/
def setRtpRtcpModule (m : RtcpModules μ) (module : μ) : RtcpModules μ :=
  { m with rtpRtcp := some module }

/-- `ViEReceiver::RegisterRtpRtcpModules(rtp_modules)`: the modules after the first. -/
def registerRtpRtcpModules (m : RtcpModules μ) (rtpModules : List μ) :
    Except String (RtcpModules μ) :=
  match rtpModules with
  | [] => .error "rtp_modules.begin() + 1 <= rtp_modules.end()"
  | _ :: rest => .ok { m with rtpRtcpSimulcast := rest }

/-- `ViEReceiver::InsertRTCPPacket` on the receiver `s`: its return value and the calls it
makes, in order. The `assert(rtp_rtcp_)` fails on a receiver with no base module. -/
def insertRTCPPacket (env : RtcpEnv μ) (s : ViEReceiver ρ φ) (m : RtcpModules μ)
    (rtcpPacket : List UInt8) : Except String (Int × List (RtcpCall μ)) :=
  if !s.receiving then .ok (-1, []) else
  let calls := m.rtpRtcpSimulcast.map .incomingRtcpPacket
  match m.rtpRtcp with
  | none => .error "rtp_rtcp_"
  | some base =>
    let calls := calls ++ [.incomingRtcpPacket base]
    let ret := env.incomingRtcpPacket base rtcpPacket
    if ret ≠ 0 then .ok (ret, calls) else
    let rtt := env.rtt base env.remoteSsrc
    if rtt = 0 then .ok (0, calls) else
    match env.remoteNtp base with
    | none => .ok (0, calls)
    | some (ntpSecs, ntpFrac, rtpTimestamp) =>
      .ok (0, calls ++ [.updateRtcpTimestamp rtt ntpSecs ntpFrac rtpTimestamp])

end ViEReceiver

end WebRtcCall
