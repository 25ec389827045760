import WebRtcCall.Call.Invariant

/-!
# Delivering a packet

`Call::DeliverPacket` and its two branches. The calls it makes on stream objects are what
it does (`Invocation`); what a stream answers is not in `call.cc` and is taken as an oracle
`reply`, and so is `RtpHeaderParser::IsRtcp`, the classifier of the header-parser
collaborator (`isRtcp`). A call of `DeliverPacket` returns a `Delivery`: the status, the
stream calls in the order made, and the call afterwards, in which only `event_log_` changed.

`route` is the router the registry is for, stated over the live stream objects alone: RTCP
for video to every live video receive stream and then every live video send stream, RTP to
the live stream whose SSRC it carries. The maps of the registry are an index that makes the
lookup fast; `deliverPacket_refines_route` says that in every state reachable by admissible
calls that give each video receive stream a fresh RTX SSRC, the index gives the answer the
search over the live streams gives (`find_audioReceiveSsrcs_eq`, `find_videoReceiveSsrcs_eq`)
and the stream sets are iterated in the order of the live streams
(`elems_videoReceiveStreams`), so that `DeliverPacket` makes exactly the calls `route` makes
and returns what it returns. That rests on `Call.Sound` and on the receive half of
`Call.Complete` only: a video send stream that names no SSRC is in `video_send_streams_`,
which is all `DeliverRtcp` reads of it. Without the fresh RTX SSRC a stream may take another
stream's entry and lose it again, and a packet for a live stream finds no stream
(`deliverPacket_refines_route_fails`).
-/

namespace WebRtcCall

/-- A call the network thread makes on a stream object: `DeliverPacket` with the packet it is
delivering, `GetStats` to read a round-trip time. -/
inductive Invocation
  /-- `AudioReceiveStream::DeliverRtp`. -/
  | audioReceiveDeliverRtp (p : Ptr)
  /-- `VideoReceiveStream::DeliverRtp`. -/
  | videoReceiveDeliverRtp (p : Ptr)
  /-- `VideoReceiveStream::DeliverRtcp`. -/
  | videoReceiveDeliverRtcp (p : Ptr)
  /-- `VideoSendStream::DeliverRtcp`. -/
  | videoSendDeliverRtcp (p : Ptr)
  /-- `VideoSendStream::GetRtt`. -/
  | videoSendGetRtt (p : Ptr)
  deriving DecidableEq, Repr

/-- What one call of `DeliverPacket` did. -/
structure Delivery where
  status : DeliveryStatus
  /-- The calls made on stream objects, in order. -/
  calls : List Invocation
  /-- The call afterwards: only `event_log_` differs. -/
  call : Call

/-- What a caller of `DeliverPacket` and the streams observe: the status and the calls. -/
def Delivery.observed (d : Delivery) : DeliveryStatus × List Invocation := (d.status, d.calls)

/-- `media_type == MediaType::ANY || media_type == kind`. -/
def MediaType.admits (mediaType kind : MediaType) : Bool :=
  mediaType == .any || mediaType == kind

namespace Call

/-- `event_log_->Log…(e)` for each `e` of `es` in turn. -/
def logEvents (c : Call) (es : List RtcEvent) : Call :=
  { c with eventLog := c.eventLog.map (· ++ es) }

@[simp] theorem logEvents_nil (c : Call) : c.logEvents [] = c := by
  cases c; simp [logEvents]

theorem logEvent_logEvents (c : Call) (e : RtcEvent) (es : List RtcEvent) :
    (c.logEvent e).logEvents es = c.logEvents (e :: es) := by
  simp [logEvent, logEvents, Option.map_map, Function.comp_def]

/-! ### `DeliverRtcp` -/

/-- One loop of `Call::DeliverRtcp` over a stream set: offer the packet to each stream in set
order, remember whether one accepted it, and log `event` for each that did. -/
def deliverRtcpLoop (reply : Invocation → Bool) (invoke : Ptr → Invocation) (event : RtcEvent) :
    List Ptr → Bool × List Invocation × Call → Bool × List Invocation × Call
  | [], acc => acc
  | stream :: streams, (delivered, calls, c) =>
    deliverRtcpLoop reply invoke event streams
      (if reply (invoke stream) then (true, calls ++ [invoke stream], c.logEvent event)
      else (delivered, calls ++ [invoke stream], c))

/-- The loop calls every stream once, in order, and logs once per acceptance. -/
theorem deliverRtcpLoop_eq (reply : Invocation → Bool) (invoke : Ptr → Invocation)
    (event : RtcEvent) : ∀ (streams : List Ptr) (delivered : Bool) (calls : List Invocation)
    (c : Call), deliverRtcpLoop reply invoke event streams (delivered, calls, c) =
      (delivered || streams.any (reply ∘ invoke), calls ++ streams.map invoke,
        c.logEvents (List.replicate (streams.countP (reply ∘ invoke)) event))
  | [], _, _, c => by simp [deliverRtcpLoop]
  | stream :: streams, delivered, calls, c => by
    rw [deliverRtcpLoop]
    by_cases h : reply (invoke stream)
    · rw [if_pos h, deliverRtcpLoop_eq, logEvent_logEvents]
      simp [h, List.countP_cons_of_pos, List.replicate_succ]
    · rw [if_neg h, deliverRtcpLoop_eq]
      simp [h, List.countP_cons_of_neg]

/-- `Call::DeliverRtcp(media_type, packet, length)`: for video, offer the packet to every video
receive stream and then to every video send stream; `DELIVERY_OK` iff one accepted it. -/
def deliverRtcp (c : Call) (reply : Invocation → Bool) (mediaType : MediaType)
    (packet : List UInt8) : Delivery :=
  let acc : Bool × List Invocation × Call := (false, [], c)
  let acc := if mediaType.admits .video then
      deliverRtcpLoop reply .videoReceiveDeliverRtcp (.rtcpPacket true mediaType packet)
        c.videoReceiveStreams.elems acc
    else acc
  let acc := if mediaType.admits .video then
      deliverRtcpLoop reply .videoSendDeliverRtcp (.rtcpPacket false mediaType packet)
        c.videoSendStreams.elems acc
    else acc
  ⟨if acc.1 then .deliveryOk else .deliveryPacketError, acc.2.1, acc.2.2⟩

/-! ### `DeliverRtp` -/

/-- `it->second->DeliverRtp(packet, length, packet_time)` and what `DeliverRtp` does with the
answer: `DELIVERY_OK` and a log record if the stream accepted the packet. -/
def deliverRtpTo (c : Call) (reply : Invocation → Bool) (i : Invocation) (event : RtcEvent) :
    Delivery :=
  let status := if reply i then DeliveryStatus.deliveryOk else .deliveryPacketError
  ⟨status, [i], if status = .deliveryOk then c.logEvent event else c⟩

/-- `Call::DeliverRtp(media_type, packet, length, packet_time)`: reject a packet shorter than an
RTP header, then look its SSRC up among the audio receive streams and then among the video
receive streams, as far as `media_type` admits them. -/
def deliverRtp (c : Call) (reply : Invocation → Bool) (mediaType : MediaType)
    (packet : List UInt8) : Delivery :=
  if packet.length < 12 then ⟨.deliveryPacketError, [], c⟩
  else
    let ssrc := readBigEndian32 packet 8
    let event := RtcEvent.rtpHeader true mediaType packet
    match (if mediaType.admits .audio then c.audioReceiveSsrcs.find ssrc else none),
      (if mediaType.admits .video then c.videoReceiveSsrcs.find ssrc else none) with
    | some stream, _ => c.deliverRtpTo reply (.audioReceiveDeliverRtp stream) event
    | none, some stream => c.deliverRtpTo reply (.videoReceiveDeliverRtp stream) event
    | none, none => ⟨.deliveryUnknownSsrc, [], c⟩

/-- `Call::DeliverPacket(media_type, packet, length, packet_time)`. -/
def deliverPacket (c : Call) (isRtcp : List UInt8 → Bool) (reply : Invocation → Bool)
    (mediaType : MediaType) (packet : List UInt8) : Delivery :=
  if isRtcp packet then c.deliverRtcp reply mediaType packet
  else c.deliverRtp reply mediaType packet

end Call

/-! ### The abstract router -/

/-- The live stream objects of a call, which is all the router reads. -/
structure LiveStreams where
  audioReceives : StdMap Ptr AudioReceiveStream
  videoReceives : StdMap Ptr VideoReceiveStream
  videoSends : StdMap Ptr VideoSendStream

/-- The live streams of `c`. -/
def Call.liveStreams (c : Call) : LiveStreams := ⟨c.audioReceives, c.videoReceives, c.videoSends⟩

/-- The video receive stream with `config` takes the packets with SSRC `s`: `s` is its
`remote_ssrc` or the ssrc of its first RTX entry. -/
def VideoReceiveStream.Config.AnswersTo (config : VideoReceiveStream.Config) (s : Ssrc) : Prop :=
  config.rtp.remoteSsrc = s ∨ config.rtxSsrc = some s

instance (config : VideoReceiveStream.Config) (s : Ssrc) : Decidable (config.AnswersTo s) :=
  inferInstanceAs (Decidable (_ ∨ _))

/-- The router over the live streams: RTCP for video goes to every live video receive stream
and then every live video send stream, in address order, and is `DELIVERY_OK` iff one accepts
it; an RTP packet of at least 12 bytes goes to the live audio receive stream whose
`remote_ssrc` is its SSRC, else to the live video receive stream that answers to it, and is
`DELIVERY_OK` iff that stream accepts it; nothing else is delivered. -/
def route (l : LiveStreams) (isRtcp : List UInt8 → Bool) (reply : Invocation → Bool)
    (mediaType : MediaType) (packet : List UInt8) : DeliveryStatus × List Invocation :=
  if isRtcp packet then
    if mediaType.admits .video then
      let calls := l.videoReceives.keys.map .videoReceiveDeliverRtcp ++
        l.videoSends.keys.map .videoSendDeliverRtcp
      (if calls.any reply then .deliveryOk else .deliveryPacketError, calls)
    else (.deliveryPacketError, [])
  else if packet.length < 12 then (.deliveryPacketError, [])
  else
    let s := readBigEndian32 packet 8
    let audio := if mediaType.admits .audio then
        (l.audioReceives.entries.find? fun e => e.2.config.rtp.remoteSsrc = s).map
          fun e => Invocation.audioReceiveDeliverRtp e.1
      else none
    let video := if mediaType.admits .video then
        (l.videoReceives.entries.find? fun e => e.2.config.AnswersTo s).map
          fun e => Invocation.videoReceiveDeliverRtp e.1
      else none
    match audio.or video with
    | some i => (if reply i then .deliveryOk else .deliveryPacketError, [i])
    | none => (.deliveryUnknownSsrc, [])

/-! ### The index is the search over the live streams -/

section Index

variable {α : Type} {idx : StdMap Ssrc Ptr} {m : StdMap Ptr α}

/-- An index that holds, at a key, only a live object answering to the key, and holds every
live object at every key it answers to, gives what the search over the live objects gives. -/
theorem find_eq_find?_entries {R : α → Ssrc → Prop} [∀ a k, Decidable (R a k)] {k : Ssrc}
    (hidx : ∀ p, idx.find k = some p → ∃ a, m.find p = some a ∧ R a k)
    (hlive : ∀ p a, m.find p = some a → R a k → idx.find k = some p) :
    idx.find k = (m.entries.find? fun e => R e.2 k).map (·.1) := by
  cases hf : m.entries.find? fun e => R e.2 k with
  | some e =>
    exact hlive e.1 e.2 ((StdMap.mem_entries_iff m).1 (List.mem_of_find?_eq_some hf))
      (by simpa using List.find?_some hf)
  | none =>
    cases hi : idx.find k with
    | none => rfl
    | some p =>
      obtain ⟨a, ha, hR⟩ := hidx p hi
      have := List.find?_eq_none.1 hf (p, a) ((StdMap.mem_entries_iff m).2 ha)
      exact absurd hR (by simpa using this)

end Index

namespace Call

variable {c : Call}

theorem find_audioReceiveSsrcs_eq (hs : c.Sound) (s : Ssrc) :
    c.audioReceiveSsrcs.find s =
      (c.audioReceives.entries.find? fun e => e.2.config.rtp.remoteSsrc = s).map (·.1) :=
  find_eq_find?_entries (R := fun (a : AudioReceiveStream) s => a.config.rtp.remoteSsrc = s)
    (fun p hp => (StdMap.project_eq_some _ _ _).1 (hs.audioReceive_find s p hp))
    fun p _ ha hR => hs.audioReceive_live p s (hR ▸ StdMap.project_of_find ha)

theorem find_videoReceiveSsrcs_eq (hs : c.Sound) (hc : c.ReceiveComplete) (s : Ssrc) :
    c.videoReceiveSsrcs.find s =
      (c.videoReceives.entries.find? fun e => e.2.config.AnswersTo s).map (·.1) :=
  find_eq_find?_entries (R := fun (a : VideoReceiveStream) s => a.config.AnswersTo s)
    (fun p hp => by
      obtain ⟨config, hcfg, hk⟩ := hs.videoReceive_find s p hp
      obtain ⟨a, ha, rfl⟩ := (StdMap.project_eq_some _ _ _).1 hcfg
      exact ⟨a, ha, hk.imp Eq.symm id⟩)
    fun p a ha hR => by
      obtain ⟨hremote, hrtx⟩ := hc.videoReceive_live p _ (StdMap.project_of_find ha)
      rcases hR with rfl | hR
      · exact hremote
      · exact hrtx s hR

theorem elems_videoReceiveStreams (hs : c.Sound) :
    c.videoReceiveStreams.elems = c.videoReceives.keys :=
  StdSet.elems_eq_keys hs.videoReceiveStreams_mem

theorem elems_videoSendStreams (hs : c.Sound) : c.videoSendStreams.elems = c.videoSends.keys :=
  StdSet.elems_eq_keys hs.videoSendStreams_mem

/-! ### Refinement -/

theorem deliverRtcp_observed (hs : c.Sound) (reply : Invocation → Bool) (mediaType : MediaType)
    (packet : List UInt8) : (c.deliverRtcp reply mediaType packet).observed =
      route c.liveStreams (fun _ => true) reply mediaType packet := by
  by_cases hv : mediaType.admits .video
  · simp [deliverRtcp, route, Delivery.observed, hv, deliverRtcpLoop_eq, liveStreams,
      elems_videoReceiveStreams hs, elems_videoSendStreams hs, Function.comp_def]
  · simp [deliverRtcp, route, Delivery.observed, hv]

theorem deliverRtpTo_observed (reply : Invocation → Bool) (i : Invocation) (event : RtcEvent) :
    (c.deliverRtpTo reply i event).observed =
      (if reply i then .deliveryOk else .deliveryPacketError, [i]) := rfl

theorem deliverRtp_observed (hs : c.Sound) (hc : c.ReceiveComplete) (reply : Invocation → Bool)
    (mediaType : MediaType) (packet : List UInt8) : (c.deliverRtp reply mediaType packet).observed =
      route c.liveStreams (fun _ => false) reply mediaType packet := by
  unfold deliverRtp route
  simp only [Bool.false_eq_true, if_false]
  by_cases hlen : packet.length < 12
  · simp only [if_pos hlen]; rfl
  · simp only [if_neg hlen]
    rw [find_audioReceiveSsrcs_eq hs, find_videoReceiveSsrcs_eq hs hc]
    simp only [liveStreams]
    generalize List.find? (fun e => decide (e.2.config.rtp.remoteSsrc = readBigEndian32 packet 8))
      c.audioReceives.entries = a
    generalize List.find? (fun e => decide (e.2.config.AnswersTo (readBigEndian32 packet 8)))
      c.videoReceives.entries = v
    cases mediaType.admits .audio <;> cases mediaType.admits .video <;> cases a <;> cases v <;> rfl

end Call

/-- In every state reachable by calls with fresh addresses, live streams for `Destroy*` and a
fresh RTX SSRC for every new video receive stream, `DeliverPacket` makes exactly the stream
calls of the router over the live streams, in the same order, and returns the same status. -/
theorem deliverPacket_refines_route {c : Call} (h : Reachable Op.RtxAdmissible c)
    (isRtcp : List UInt8 → Bool) (reply : Invocation → Bool) (mediaType : MediaType)
    (packet : List UInt8) :
    (c.deliverPacket isRtcp reply mediaType packet).observed =
      route c.liveStreams isRtcp reply mediaType packet := by
  have hs := (h.mono fun _ _ h => h.1).sound
  unfold Call.deliverPacket
  by_cases hr : isRtcp packet
  · -- RTCP: the stream sets are the live streams
    rw [if_pos hr, Call.deliverRtcp_observed hs]
    simp [route, hr]
  · -- RTP: the indices are the search over the live streams
    rw [if_neg hr, Call.deliverRtp_observed hs h.receiveComplete]
    simp [route, hr]

/-- A video send stream that names no SSRC and a video receive stream with remote SSRC 10 and
RTX SSRC 11: an RTCP packet for video goes to the receive stream and then to the send stream,
and an RTP packet for SSRC 11 to the receive stream. -/
theorem deliverPacket_refines_route_rtx :
    ∃ c, Reachable Op.RtxAdmissible c ∧
      (c.deliverPacket (fun _ => true) (fun _ => false) .video []).observed =
        (.deliveryPacketError, [.videoReceiveDeliverRtcp 0, .videoSendDeliverRtcp 1]) ∧
      (c.deliverPacket (fun _ => false) (fun _ => true) .video
        [0, 0, 0, 0, 0, 0, 0, 0, 0, 0, 0, 11]).observed = (.deliveryOk, [.videoReceiveDeliverRtp 0]) := by
  obtain ⟨c, h, hrtcp, hrtp⟩ : ∃ c, Reachable Op.RtxAdmissible c ∧
      route c.liveStreams (fun _ => true) (fun _ => false) .video [] =
        (.deliveryPacketError, [.videoReceiveDeliverRtcp 0, .videoSendDeliverRtcp 1]) ∧
      route c.liveStreams (fun _ => false) (fun _ => true) .video
        [0, 0, 0, 0, 0, 0, 0, 0, 0, 0, 0, 11] = (.deliveryOk, [.videoReceiveDeliverRtp 0]) :=
    Reachable.of_runAllowed false false
      [.createVideoSendStream ⟨⟨[]⟩⟩ 1,
        .createVideoReceiveStream ⟨⟨10, (∅ : StdMap Int _).insert 96 ⟨11, 97⟩⟩, ""⟩ 0]
      (by decide)
  exact ⟨c, h, (deliverPacket_refines_route h _ _ _ _).trans hrtcp,
    (deliverPacket_refines_route h _ _ _ _).trans hrtp⟩

/-- Without the configurations `call.cc` relies on the refinement fails: a stream whose RTX
SSRC is the remote SSRC of a live stream takes that stream's entry, and its `Destroy` erases
it, so that an RTP packet for the live stream finds no stream. -/
theorem deliverPacket_refines_route_fails :
    ¬ ∀ c : Call, Reachable Op.Admissible c → ∀ (isRtcp : List UInt8 → Bool)
      (reply : Invocation → Bool) (mediaType : MediaType) (packet : List UInt8),
      (c.deliverPacket isRtcp reply mediaType packet).observed =
        route c.liveStreams isRtcp reply mediaType packet := by
  intro h
  let first : VideoReceiveStream.Config := ⟨⟨1, ∅⟩, ""⟩
  let second : VideoReceiveStream.Config := ⟨⟨2, (∅ : StdMap Int _).insert 0 ⟨1, 0⟩⟩, ""⟩
  obtain ⟨c₁, h₁⟩ : ∃ c, (Call.init false false).apply (.createVideoReceiveStream first 0) =
      .ok c :=
    ⟨_, Call.createVideoReceiveStream_eq_ok.2 ⟨rfl, rfl⟩⟩
  have e₁ := (Call.createVideoReceiveStream_eq_ok.1 h₁).2
  obtain ⟨c₂, h₂⟩ : ∃ c, c₁.apply (.createVideoReceiveStream second 1) = .ok c := by
    rw [e₁]; exact ⟨_, Call.createVideoReceiveStream_eq_ok.2 ⟨rfl, rfl⟩⟩
  have e₂ := (Call.createVideoReceiveStream_eq_ok.1 h₂).2
  have hop₃ : Op.Admissible c₂ (.destroyVideoReceiveStream 1) := by
    show (c₂.videoReceives.find 1).isSome; rw [e₂, e₁]; decide
  obtain ⟨s, hs⟩ := Option.isSome_iff_exists.1 hop₃
  obtain ⟨c₃, h₃⟩ : ∃ c, c₂.apply (.destroyVideoReceiveStream 1) = .ok c :=
    ⟨_, Call.destroyVideoReceiveStream_eq_ok.2 ⟨by rw [e₂, e₁]; decide, s, hs, rfl⟩⟩
  have hop₁ : Op.Admissible (Call.init false false) (.createVideoReceiveStream first 0) := rfl
  have hop₂ : Op.Admissible c₁ (.createVideoReceiveStream second 1) := by rw [e₁]; rfl
  have hneq := h c₃ ⟨false, false, _, ((Run.nil.snoc hop₁ h₁).snoc hop₂ h₂).snoc hop₃ h₃⟩
    (fun _ => false) (fun _ => true) .video [0, 0, 0, 0, 0, 0, 0, 0, 0, 0, 0, 1]
  obtain ⟨-, s', hs', rfl⟩ := Call.destroyVideoReceiveStream_eq_ok.1 h₃
  have hgroup : s'.config.syncGroup = "" := by
    have hg : (c₂.videoReceives.find 1).map (·.config.syncGroup) = some "" := by
      rw [e₂, e₁]; decide
    rw [hs'] at hg
    exact Option.some.inj hg
  rw [hgroup, e₂, e₁] at hneq
  exact absurd hneq (by decide)

end WebRtcCall
