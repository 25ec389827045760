import WebRtcCall.Call.Deliver

/-!
# What a delivery writes to the event log

A call of `DeliverPacket` changes nothing in the call but `event_log_`, to which it appends
a list of records, and the list is empty unless the status is `DELIVERY_OK`
(`deliverPacket_event_log`). The two branches log differently.

`DeliverRtp` hands the packet to at most one stream and logs once, with
`LogRtpHeader(true, …)`, iff that stream accepts it. `DeliverRtcp` logs inside its two
loops: one `LogRtcpPacket(true, …)` for each video receive stream that accepts the packet,
then one `LogRtcpPacket(false, …)` for each video send stream that does (`rtcpRecords`).
So an RTCP packet is logged as many times as streams accept it, and the records of the
send streams are not marked incoming, although the packet came in from the network. In a
state reached by well-configured calls, with one video receive stream and one video send
stream, an RTCP packet both accept is logged twice, the second time as not incoming
(`deliverPacket_event_log_fails`).
-/

namespace WebRtcCall

/-- The `incoming` argument of a packet record; a configuration record is not incoming. -/
def RtcEvent.incoming : RtcEvent → Bool
  | .rtpHeader incoming _ _ | .rtcpPacket incoming _ _ => incoming
  | .videoSendStreamConfig _ | .videoReceiveStreamConfig _ => false

namespace Call

theorem logEvents_logEvents (c : Call) (es es' : List RtcEvent) :
    (c.logEvents es).logEvents es' = c.logEvents (es ++ es') := by
  simp [logEvents, Option.map_map, Function.comp_def]

/-- The records `DeliverRtcp` writes: for video, one marked incoming for each stream of
`video_receive_streams_` that accepts the packet, then one marked not incoming for each
stream of `video_send_streams_` that accepts it. -/
def rtcpRecords (c : Call) (reply : Invocation → Bool) (mediaType : MediaType)
    (packet : List UInt8) : List RtcEvent :=
  if mediaType.admits .video then
    List.replicate (c.videoReceiveStreams.elems.countP (reply ∘ .videoReceiveDeliverRtcp))
        (.rtcpPacket true mediaType packet) ++
      List.replicate (c.videoSendStreams.elems.countP (reply ∘ .videoSendDeliverRtcp))
        (.rtcpPacket false mediaType packet)
  else []

variable (c : Call) (reply : Invocation → Bool) (mediaType : MediaType) (packet : List UInt8)

theorem deliverRtcp_call :
    (c.deliverRtcp reply mediaType packet).call =
      c.logEvents (c.rtcpRecords reply mediaType packet) := by
  by_cases hv : mediaType.admits .video <;>
    simp [deliverRtcp, rtcpRecords, hv, deliverRtcpLoop_eq, logEvents_logEvents]

theorem deliverRtcp_status :
    (c.deliverRtcp reply mediaType packet).status = .deliveryOk ↔
      c.rtcpRecords reply mediaType packet ≠ [] := by
  by_cases hv : mediaType.admits .video <;>
    simp [deliverRtcp, rtcpRecords, hv, deliverRtcpLoop_eq, List.countP_eq_zero]

theorem deliverRtpTo_call (i : Invocation) (event : RtcEvent) :
    (c.deliverRtpTo reply i event).call = c.logEvents
      (if (c.deliverRtpTo reply i event).status = .deliveryOk then [event] else []) := by
  by_cases hi : reply i <;> simp [deliverRtpTo, hi, logEvent, logEvents]

theorem deliverRtp_call :
    (c.deliverRtp reply mediaType packet).call = c.logEvents
      (if (c.deliverRtp reply mediaType packet).status = .deliveryOk
        then [.rtpHeader true mediaType packet] else []) := by
  generalize hd : c.deliverRtp reply mediaType packet = d
  unfold deliverRtp at hd
  dsimp only at hd
  -- each branch either delivers to one stream or returns without a record
  repeat' split at hd
  all_goals subst hd; first | exact deliverRtpTo_call c reply _ _ | simp

end Call

/-- **What a delivery logs.** For every call, every answer of the streams and of
`RtpHeaderParser::IsRtcp`, every media type and every packet, `DeliverPacket` changes only
`event_log_`, to which it appends records, some iff it returns `DELIVERY_OK`. For RTP they
are at most one, `LogRtpHeader(true, media_type, packet)`; for RTCP they are those of
`rtcpRecords`: one per accepting stream, marked incoming for the video receive streams and
not incoming for the video send streams. -/
theorem deliverPacket_event_log (c : Call) (isRtcp : List UInt8 → Bool)
    (reply : Invocation → Bool) (mediaType : MediaType) (packet : List UInt8) :
    ∃ records, (c.deliverPacket isRtcp reply mediaType packet).call = c.logEvents records ∧
      ((c.deliverPacket isRtcp reply mediaType packet).status = .deliveryOk ↔ records ≠ []) ∧
      (isRtcp packet = true → records = c.rtcpRecords reply mediaType packet) ∧
      (isRtcp packet = false →
        records.length ≤ 1 ∧ ∀ e ∈ records, e = .rtpHeader true mediaType packet) := by
  unfold Call.deliverPacket
  cases hr : isRtcp packet
  · -- RTP: the record of the one stream that accepted the packet, if it did
    refine ⟨_, Call.deliverRtp_call c reply mediaType packet, ?_, nofun, fun _ => ?_⟩ <;>
      split <;> simp_all
  · -- RTCP: the records of the accepting streams, in the order they were asked
    exact ⟨_, Call.deliverRtcp_call c reply mediaType packet,
      Call.deliverRtcp_status c reply mediaType packet, fun _ => rfl, nofun⟩

/-- In a call with an event log, a video receive stream and a video send stream, an RTCP
packet both streams accept is logged twice, and the second record is not marked incoming. -/
theorem deliverPacket_event_log_fails :
    ¬ ∀ c : Call, Reachable Op.WellAdmissible c → ∀ (isRtcp : List UInt8 → Bool)
      (reply : Invocation → Bool) (mediaType : MediaType) (packet : List UInt8)
      (log : List RtcEvent), c.eventLog = some log → ∃ records,
        (c.deliverPacket isRtcp reply mediaType packet).call.eventLog = some (log ++ records) ∧
        records.length ≤ 1 ∧
        ((c.deliverPacket isRtcp reply mediaType packet).status = .deliveryOk ↔
          records ≠ []) ∧
        ∀ e ∈ records, e.incoming = true := by
  intro h
  obtain ⟨c₁, h₁⟩ : ∃ c, (Call.init true true).apply
      (.createVideoReceiveStream ⟨⟨1, ∅⟩, ""⟩ 0) = .ok c :=
    ⟨_, Call.createVideoReceiveStream_eq_ok.2 ⟨rfl, rfl⟩⟩
  have e₁ := (Call.createVideoReceiveStream_eq_ok.1 h₁).2
  obtain ⟨c₂, h₂⟩ : ∃ c, c₁.apply (.createVideoSendStream ⟨⟨[2]⟩⟩ 1) = .ok c := by
    rw [e₁]; exact ⟨_, Call.createVideoSendStream_eq_ok.2 ⟨by decide, by decide, rfl⟩⟩
  have e₂ := (Call.createVideoSendStream_eq_ok.1 h₂).2.2
  have hop₁ : Op.WellAdmissible (Call.init true true)
      (.createVideoReceiveStream ⟨⟨1, ∅⟩, ""⟩ 0) :=
    ⟨rfl, fun _ _ => rfl⟩
  have hop₂ : Op.WellAdmissible c₁ (.createVideoSendStream ⟨⟨[2]⟩⟩ 1) := by
    rw [e₁]; exact ⟨rfl, List.cons_ne_nil _ _⟩
  obtain ⟨records, hlog, hlen, -⟩ :=
    h c₂ ⟨true, true, _, (Run.nil.snoc hop₁ h₁).snoc hop₂ h₂⟩ (fun _ => true) (fun _ => true)
      .video [] _ (by rw [e₂, e₁]; rfl)
  rw [Call.deliverPacket, if_pos rfl, Call.deliverRtcp_call, e₂, e₁] at hlog
  have hrec : records = [.rtcpPacket true .video [], .rtcpPacket false .video []] :=
    (List.append_cancel_left (Option.some.inj hlog)).symm
  rw [hrec] at hlen
  exact absurd hlen (by decide)

end WebRtcCall
