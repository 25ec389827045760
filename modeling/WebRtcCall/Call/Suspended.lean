import WebRtcCall.Call.Run

/-!
# Suspended RTP states

`DestroyVideoSendStream` copies the snapshot `GetRtpStates()` of the stream it destroys into
`suspended_video_send_ssrcs_`, entry by entry, and `CreateVideoSendStream` hands that map to the
new stream, so that a stream reusing an SSRC resumes its sequence numbers and timestamps.
Nothing else writes the map (`find_suspendedVideoSendSsrcs_apply`).

`latestState` says what the map is for: at an SSRC, the state in the most recent snapshot that
has it, and nothing if no snapshot has it. Along every run the map is exactly that, over the
snapshots of the run's `DestroyVideoSendStream` calls, and it is what every
`CreateVideoSendStream` hands on (`suspended_video_send_ssrcs_latest`): a later snapshot
overrides an earlier one at the SSRCs they share, and an SSRC absent from it keeps its state.
-/

namespace WebRtcCall

/-- The snapshot a `DestroyVideoSendStream` call is given. -/
def Op.rtpSnapshot : Op → Option RtpStateMap
  | .destroyVideoSendStream _ rtpState => some rtpState
  | _ => none

/-- What `suspended_video_send_ssrcs_` is for, after the snapshots `snapshots`, oldest first: at
`ssrc`, the state in the most recent snapshot that has `ssrc`, and none if no snapshot has it. -/
def latestState (snapshots : List RtpStateMap) (ssrc : Ssrc) : Option RtpState :=
  (snapshots.reverse.find? fun m => (m.find ssrc).isSome).bind (·.find ssrc)

/-- One more snapshot overrides the earlier ones at the SSRCs it has. -/
theorem latestState_append (snapshots : List RtpStateMap) (snapshot : RtpStateMap)
    (ssrc : Ssrc) :
    latestState (snapshots ++ [snapshot]) ssrc =
      (snapshot.find ssrc).or (latestState snapshots ssrc) := by
  cases h : snapshot.find ssrc <;> simp [latestState, h]

namespace Call

theorem find_mergeRtpStates (suspended rtpState : RtpStateMap) (ssrc : Ssrc) :
    (mergeRtpStates suspended rtpState).find ssrc =
      (rtpState.find ssrc).or (suspended.find ssrc) :=
  StdMap.find_foldl_insert ssrc rtpState.entries suspended rtpState.sorted

/-- Only `DestroyVideoSendStream` writes `suspended_video_send_ssrcs_`, and it merges its
snapshot in. -/
theorem find_suspendedVideoSendSsrcs_apply {c c' : Call} {op : Op} (h : c.apply op = .ok c')
    (ssrc : Ssrc) :
    c'.suspendedVideoSendSsrcs.find ssrc =
      (op.rtpSnapshot.bind (·.find ssrc)).or (c.suspendedVideoSendSsrcs.find ssrc) := by
  cases op with
  | destroyVideoSendStream p rtpState =>
    -- the snapshot is merged in, its entries first
    obtain ⟨-, rfl⟩ := destroyVideoSendStream_eq_ok.1 h
    exact find_mergeRtpStates _ _ _
  -- every other call has no snapshot and leaves the map alone
  | createAudioSendStream => obtain ⟨-, rfl⟩ := createAudioSendStream_eq_ok.1 h; rfl
  | destroyAudioSendStream => obtain ⟨_, -, -, rfl⟩ := destroyAudioSendStream_eq_ok.1 h; rfl
  | createAudioReceiveStream =>
    obtain ⟨-, rfl⟩ := createAudioReceiveStream_eq_ok.1 h; simp [Op.rtpSnapshot]
  | destroyAudioReceiveStream =>
    obtain ⟨_, -, -, rfl⟩ := destroyAudioReceiveStream_eq_ok.1 h
    dsimp only
    split <;> simp [Op.rtpSnapshot, deleteAudioReceiveStream]
  | createVideoSendStream => obtain ⟨-, -, rfl⟩ := createVideoSendStream_eq_ok.1 h; rfl
  | createVideoReceiveStream =>
    obtain ⟨-, rfl⟩ := createVideoReceiveStream_eq_ok.1 h; simp [Op.rtpSnapshot, logEvent]
  | destroyVideoReceiveStream =>
    obtain ⟨-, _, -, rfl⟩ := destroyVideoReceiveStream_eq_ok.1 h
    simp [Op.rtpSnapshot, deleteVideoReceiveStream]
  | signalNetworkState => cases h; rfl

/-- `CreateVideoSendStream` hands `suspended_video_send_ssrcs_` to the stream it creates. -/
theorem suspendedSsrcs_createVideoSendStream {c c' : Call} {config : VideoSendStream.Config}
    {p : Ptr} (h : c.apply (.createVideoSendStream config p) = .ok c') :
    ∃ s, c'.videoSends.find p = some s ∧ s.suspendedSsrcs = c.suspendedVideoSendSsrcs := by
  obtain ⟨-, -, rfl⟩ := createVideoSendStream_eq_ok.1 h
  by_cases hn : c.networkEnabled <;> simp [logEvent, hn]

end Call

/-- **Suspended states are the latest snapshots.** After every run of a call, whatever calls it
was allowed, `suspended_video_send_ssrcs_` has at each SSRC the state from the most recent
`DestroyVideoSendStream` snapshot that has the SSRC, and no entry if none has it; and a
`CreateVideoSendStream` made then hands exactly this map to the stream it creates. -/
theorem suspended_video_send_ssrcs_latest {Allowed : Call → Op → Prop} {v e : Bool}
    {ops : List Op} {c : Call} (h : Run Allowed (Call.init v e) ops c) :
    (∀ ssrc, c.suspendedVideoSendSsrcs.find ssrc =
      latestState (ops.filterMap Op.rtpSnapshot) ssrc) ∧
    ∀ config p c', c.apply (.createVideoSendStream config p) = .ok c' →
      ∃ s, c'.videoSends.find p = some s ∧ s.suspendedSsrcs = c.suspendedVideoSendSsrcs := by
  refine ⟨fun ssrc => ?_, fun _ _ _ => Call.suspendedSsrcs_createVideoSendStream⟩
  induction h with
  | nil => rfl
  | @snoc ops c c' op _ _ happ ih =>
    -- the last call's snapshot, if any, is the latest one
    rw [Call.find_suspendedVideoSendSsrcs_apply happ, ih, List.filterMap_append]
    cases hop : op.rtpSnapshot <;> simp [hop, latestState_append]

/-- A stream on SSRC 1 destroyed with the state 7 for SSRC 1 leaves that state behind, and the
stream created after it on SSRC 1 is handed it to resume from. -/
theorem suspended_video_send_ssrcs_resumed :
    ∃ c c', Run Op.Admissible (Call.init false false)
        [.createVideoSendStream ⟨⟨[1]⟩⟩ 0, .destroyVideoSendStream 0 ((∅ : RtpStateMap).insert 1 7)]
        c ∧
      c.suspendedVideoSendSsrcs.find 1 = some 7 ∧
      c.apply (.createVideoSendStream ⟨⟨[1]⟩⟩ 1) = .ok c' ∧
      ∃ s, c'.videoSends.find 1 = some s ∧ s.suspendedSsrcs.find 1 = some 7 := by
  have hrun : Run Op.Admissible (Call.init false false) ([] ++ [.createVideoSendStream ⟨⟨[1]⟩⟩ 0]
      ++ [.destroyVideoSendStream 0 ((∅ : RtpStateMap).insert 1 7)]) _ :=
    (Run.nil.snoc (by exact rfl) (by exact rfl)).snoc (by exact rfl) (by exact rfl)
  have happ := (suspended_video_send_ssrcs_latest hrun).2 ⟨⟨[1]⟩⟩ 1 _ rfl
  have hlatest : _ = some 7 := ((suspended_video_send_ssrcs_latest hrun).1 1).trans rfl
  obtain ⟨s, hs, hss⟩ := happ
  exact ⟨_, _, hrun, hlatest, rfl, s, hs, hss ▸ hlatest⟩

end WebRtcCall
