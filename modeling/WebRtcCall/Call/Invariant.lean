import WebRtcCall.Call.Registry

/-!
# The registry invariant

`RegistryInv` is the registry invariant as the specification states it: each live stream
is the value at each SSRC its configuration names, the video stream sets are exactly
the values of the video indices, and no index, set or `sync_stream_mapping_` holds a
destroyed stream.

It does not hold after every run of admissible calls (`registry_invariant_fails`): a
video send configuration with no SSRC passes every `RTC_DCHECK` of
`CreateVideoSendStream`, puts its stream into `video_send_streams_` and into no entry
of `video_send_ssrcs_`, and its `DestroyVideoSendStream` then fails
`RTC_CHECK(send_stream_impl != nullptr)`. It does hold after every run of
well-admissible calls (`registry_invariant`), where `Call.Complete` supplies the half
that `Call.Sound` lacks.
-/

namespace WebRtcCall

/-- The calls that create or destroy a video send stream. -/
def Op.IsVideoSend : Op → Prop
  | .createVideoSendStream .. | .destroyVideoSendStream .. => True
  | _ => False

/-- The calls that create or destroy a video receive stream. -/
def Op.IsVideoReceive : Op → Prop
  | .createVideoReceiveStream .. | .destroyVideoReceiveStream _ => True
  | _ => False

namespace Call

/-- Every live video receive stream is indexed under its `remote_ssrc` and under the SSRC of
its first RTX entry: the half of `Complete` that `DeliverPacket` reads. -/
structure ReceiveComplete (c : Call) : Prop where
  videoReceive_live : ∀ p config, c.videoReceives.project (·.config) p = some config →
    c.videoReceiveSsrcs.find config.rtp.remoteSsrc = some p ∧
      ∀ rtx ∈ config.rtxSsrc, c.videoReceiveSsrcs.find rtx = some p

/-- Every live video send stream has at least one SSRC and is indexed under each. -/
structure SendComplete (c : Call) : Prop where
  videoSend_live : ∀ p config, c.videoSends.project (·.config) p = some config →
    config.rtp.ssrcs ≠ [] ∧ ∀ k ∈ config.rtp.ssrcs, c.videoSendSsrcs.find k = some p

/-- Every live video stream is indexed under every SSRC its configuration names, and a
live video send stream has at least one. -/
structure Complete (c : Call) extends ReceiveComplete c, SendComplete c : Prop

theorem complete_init (v e : Bool) : (init v e).Complete where
  videoSend_live := by simp [init]
  videoReceive_live := by simp [init]

variable {c c' : Call}

/-- `ReceiveComplete` reads the video receive index and the receive configurations only. -/
theorem ReceiveComplete.of_video_eq (hc : c.ReceiveComplete)
    (hr : ∀ p, c'.videoReceives.project (·.config) p = c.videoReceives.project (·.config) p)
    (hrs : c'.videoReceiveSsrcs = c.videoReceiveSsrcs) : c'.ReceiveComplete where
  videoReceive_live := by simp only [hr, hrs]; exact hc.videoReceive_live

/-- `SendComplete` reads the video send index and the send configurations only. -/
theorem SendComplete.of_video_eq (hc : c.SendComplete)
    (hs : ∀ p, c'.videoSends.project (·.config) p = c.videoSends.project (·.config) p)
    (hss : c'.videoSendSsrcs = c.videoSendSsrcs) : c'.SendComplete where
  videoSend_live := by simp only [hs, hss]; exact hc.videoSend_live

/-- An index entry is kept by erasing another stream's entries. -/
theorem find_eraseValue_of_ne {m : StdMap Ssrc Ptr} {k : Ssrc} {p q : Ptr}
    (h : m.find k = some q) (hq : q ≠ p) : (m.eraseValue p).find k = some q := by
  simp [h, hq]

/-! ### What each call leaves of the video registry -/

/-- Every call but the video send ones leaves the send configurations and the send index as
they were. -/
theorem videoSendFrame_apply {op : Op} (hop : ¬ op.IsVideoSend) (h : c.apply op = .ok c') :
    (∀ p, c'.videoSends.project (·.config) p = c.videoSends.project (·.config) p) ∧
      c'.videoSendSsrcs = c.videoSendSsrcs := by
  cases op with
  | createVideoSendStream | destroyVideoSendStream => exact absurd trivial hop
  -- every other call writes other fields, through `ConfigureSync` at most the sync channels
  | createAudioSendStream =>
    obtain ⟨-, rfl⟩ := createAudioSendStream_eq_ok.1 h; exact ⟨fun _ => rfl, rfl⟩
  | destroyAudioSendStream =>
    obtain ⟨_, -, -, rfl⟩ := destroyAudioSendStream_eq_ok.1 h; exact ⟨fun _ => rfl, rfl⟩
  | createAudioReceiveStream =>
    obtain ⟨-, rfl⟩ := createAudioReceiveStream_eq_ok.1 h; exact ⟨by simp, by simp⟩
  | destroyAudioReceiveStream =>
    obtain ⟨_, -, -, rfl⟩ := destroyAudioReceiveStream_eq_ok.1 h
    dsimp only
    split_ifs <;> exact ⟨by simp [deleteAudioReceiveStream], by simp [deleteAudioReceiveStream]⟩
  | createVideoReceiveStream =>
    obtain ⟨-, rfl⟩ := createVideoReceiveStream_eq_ok.1 h
    exact ⟨by simp [logEvent], by simp [logEvent]⟩
  | destroyVideoReceiveStream =>
    obtain ⟨-, _, -, rfl⟩ := destroyVideoReceiveStream_eq_ok.1 h
    exact ⟨by simp [deleteVideoReceiveStream], by simp [deleteVideoReceiveStream]⟩
  | signalNetworkState =>
    cases h
    exact ⟨by simp (disch := simp) [signalNetworkState, StdMap.project_modifyAll], rfl⟩

/-- Every call but the video receive ones leaves the receive configurations and the receive
index as they were. -/
theorem videoReceiveFrame_apply {op : Op} (hop : ¬ op.IsVideoReceive) (h : c.apply op = .ok c') :
    (∀ p, c'.videoReceives.project (·.config) p = c.videoReceives.project (·.config) p) ∧
      c'.videoReceiveSsrcs = c.videoReceiveSsrcs := by
  cases op with
  | createVideoReceiveStream | destroyVideoReceiveStream => exact absurd trivial hop
  -- every other call writes other fields, through `ConfigureSync` at most the sync channels
  | createAudioSendStream =>
    obtain ⟨-, rfl⟩ := createAudioSendStream_eq_ok.1 h; exact ⟨fun _ => rfl, rfl⟩
  | destroyAudioSendStream =>
    obtain ⟨_, -, -, rfl⟩ := destroyAudioSendStream_eq_ok.1 h; exact ⟨fun _ => rfl, rfl⟩
  | createAudioReceiveStream =>
    obtain ⟨-, rfl⟩ := createAudioReceiveStream_eq_ok.1 h; exact ⟨by simp, by simp⟩
  | destroyAudioReceiveStream =>
    obtain ⟨_, -, -, rfl⟩ := destroyAudioReceiveStream_eq_ok.1 h
    dsimp only
    split_ifs <;> exact ⟨by simp [deleteAudioReceiveStream], by simp [deleteAudioReceiveStream]⟩
  | createVideoSendStream =>
    obtain ⟨-, -, rfl⟩ := createVideoSendStream_eq_ok.1 h; exact ⟨fun _ => rfl, rfl⟩
  | destroyVideoSendStream =>
    obtain ⟨-, rfl⟩ := destroyVideoSendStream_eq_ok.1 h; exact ⟨fun _ => rfl, rfl⟩
  | signalNetworkState =>
    cases h
    exact ⟨by simp (disch := simp) [signalNetworkState, StdMap.project_modifyAll], rfl⟩

/-! ### The send half -/

theorem sendComplete_createVideoSendStream {config : VideoSendStream.Config} {p : Ptr}
    (hc : c.SendComplete) (hne : config.rtp.ssrcs ≠ [])
    (h : c.createVideoSendStream config p = .ok c') : c'.SendComplete := by
  obtain ⟨m, hm, rfl⟩ := except_map_eq_ok.1 h
  obtain ⟨-, hfresh, rfl⟩ := insertSendSsrcs_eq_ok hm
  refine ⟨fun q cfg hq => ?_⟩
  simp (disch := simp) only [logEvent, newVideoSendStream, find_foldl_insert,
    StdMap.project_modify, StdMap.project_insert] at hq ⊢
  split_ifs at hq with hqp
  · -- the new stream is indexed under each of its SSRCs
    cases hq; exact ⟨hne, fun k hk => by simp [hk, hqp]⟩
  · -- another stream keeps its entries: none of its SSRCs is a new one
    obtain ⟨hne', hks⟩ := hc.videoSend_live q cfg hq
    refine ⟨hne', fun k hk => ?_⟩
    have hk' := hks k hk
    have hnew : k ∉ config.rtp.ssrcs := fun hmem => by
      simpa using (hfresh k hmem).symm.trans hk'
    rw [if_neg hnew]
    exact hk'

theorem sendComplete_destroyVideoSendStream {p : Ptr} {rtpState : RtpStateMap}
    (hc : c.SendComplete) (h : c.destroyVideoSendStream p rtpState = .ok c') : c'.SendComplete := by
  obtain ⟨c₁, h₁, rfl⟩ := except_map_eq_ok.1 h
  simp only [unregisterVideoSendStream] at h₁
  split at h₁ <;> cases h₁
  refine ⟨fun q cfg hq => ?_⟩
  simp only [deleteVideoSendStream, StdMap.project_erase] at hq
  -- only the destroyed stream's entries are erased
  split_ifs at hq with hqp
  obtain ⟨hne, hks⟩ := hc.videoSend_live q cfg hq
  exact ⟨hne, fun k hk => find_eraseValue_of_ne (hks k hk) hqp⟩

/-- Every call that succeeds keeps `SendComplete` if a video send stream it creates names an
SSRC. -/
theorem sendComplete_apply {op : Op} (hc : c.SendComplete)
    (hne : ∀ config p, op = .createVideoSendStream config p → config.rtp.ssrcs ≠ [])
    (h : c.apply op = .ok c') : c'.SendComplete := by
  cases op with
  | createVideoSendStream => exact sendComplete_createVideoSendStream hc (hne _ _ rfl) h
  | destroyVideoSendStream => exact sendComplete_destroyVideoSendStream hc h
  | _ =>
    -- no other call touches the send half
    obtain ⟨hs, hss⟩ := videoSendFrame_apply id h
    exact hc.of_video_eq hs hss

/-! ### The receive half -/

theorem receiveComplete_createVideoReceiveStream {config : VideoReceiveStream.Config} {p : Ptr}
    (hc : c.ReceiveComplete) (hrtx : ∀ rtx ∈ config.rtxSsrc, c.videoReceiveSsrcs.find rtx = none)
    (h : c.createVideoReceiveStream config p = .ok c') : c'.ReceiveComplete := by
  simp only [createVideoReceiveStream, registerVideoReceiveStream, newVideoReceiveStream] at h
  by_cases hk : c.videoReceiveSsrcs.find config.rtp.remoteSsrc = none
  swap; · rw [if_neg hk] at h; cases h
  rw [if_pos hk, Except.ok.injEq] at h; subst h
  refine ⟨fun q cfg hq => ?_⟩
  simp (disch := simp) only [logEvent, StdMap.project_modify,
    project_videoReceives_configureSync, StdMap.project_insert] at hq
  simp only [logEvent, videoReceiveSsrcs_configureSync, find_insertReceiveSsrcs]
  split_ifs at hq with hqp
  · -- the new stream is indexed under its `remote_ssrc` and its RTX SSRC
    cases hq; subst hqp
    exact ⟨by simp, fun r hr => by simp [hr]⟩
  · obtain ⟨hr, hx⟩ := hc.videoReceive_live q cfg hq
    -- the SSRCs of another live stream are indexed, so the new ones are not among them
    have other : ∀ k, c.videoReceiveSsrcs.find k = some q →
        ¬(k = config.rtp.remoteSsrc ∨ k ∈ config.rtxSsrc) := by
      rintro k hk' (rfl | hx')
      · simp [hk] at hk'
      · simp [hrtx k hx'] at hk'
    exact ⟨by rw [if_neg (other _ hr)]; exact hr,
      fun r hr' => by rw [if_neg (other _ (hx r hr'))]; exact hx r hr'⟩

theorem receiveComplete_destroyVideoReceiveStream {p : Ptr} (hc : c.ReceiveComplete)
    (h : c.destroyVideoReceiveStream p = .ok c') : c'.ReceiveComplete := by
  obtain ⟨c₁, h₁, rfl⟩ := except_map_eq_ok.1 h
  simp only [unregisterVideoReceiveStream] at h₁
  split at h₁; swap; · cases h₁
  split at h₁; · cases h₁
  cases h₁
  refine ⟨fun q cfg hq => ?_⟩
  simp only [deleteVideoReceiveStream, StdMap.project_erase, videoReceiveSsrcs_configureSync,
    project_videoReceives_configureSync _ _ (·.config) fun _ _ => rfl] at hq ⊢
  -- only the destroyed stream's entries are erased
  split_ifs at hq with hqp
  obtain ⟨hr, hx⟩ := hc.videoReceive_live q cfg hq
  exact ⟨find_eraseValue_of_ne hr hqp, fun r hr' => find_eraseValue_of_ne (hx r hr') hqp⟩

/-- Every call that succeeds keeps `ReceiveComplete` if a video receive stream it creates has
a fresh RTX SSRC; what video send streams it creates does not matter. -/
theorem receiveComplete_apply {op : Op} (hc : c.ReceiveComplete) (hop : op.RtxFresh c)
    (h : c.apply op = .ok c') : c'.ReceiveComplete := by
  cases op with
  | createVideoReceiveStream => exact receiveComplete_createVideoReceiveStream hc hop h
  | destroyVideoReceiveStream => exact receiveComplete_destroyVideoReceiveStream hc h
  | _ =>
    -- no other call touches the receive half
    obtain ⟨hr, hrs⟩ := videoReceiveFrame_apply id h
    exact hc.of_video_eq hr hrs

/-- Every well-admissible call that succeeds keeps `Complete`: each half is kept by the
configuration condition on its own kind of stream. -/
theorem complete_apply {op : Op} (hc : c.Complete) (hop : op.WellAdmissible c)
    (h : c.apply op = .ok c') : c'.Complete where
  toReceiveComplete := receiveComplete_apply hc.toReceiveComplete hop.rtxAdmissible.2 h
  toSendComplete := sendComplete_apply hc.toSendComplete (fun _ _ e => by subst e; exact hop.2) h

/-! ### The registry invariant -/

/-- The registry invariant of `internal::Call`: each live stream is the value at the SSRCs
its configuration names, the video stream sets are the values of the video indices, and
no index, set or `sync_stream_mapping_` holds a destroyed stream. -/
structure RegistryInv (c : Call) : Prop where
  audioSend_indexed : ∀ p s, c.audioSends.find p = some s →
    c.audioSendSsrcs.find s.config.rtp.ssrc = some p
  audioReceive_indexed : ∀ p s, c.audioReceives.find p = some s →
    c.audioReceiveSsrcs.find s.config.rtp.remoteSsrc = some p
  videoSend_indexed : ∀ p s, c.videoSends.find p = some s →
    ∀ k ∈ s.config.rtp.ssrcs, c.videoSendSsrcs.find k = some p
  videoSendStreams_eq : ∀ p, p ∈ c.videoSendStreams ↔ p ∈ c.videoSendSsrcs.values
  videoReceive_indexed : ∀ p s, c.videoReceives.find p = some s →
    c.videoReceiveSsrcs.find s.config.rtp.remoteSsrc = some p ∧
      ∀ rtx ∈ s.config.rtxSsrc, c.videoReceiveSsrcs.find rtx = some p
  videoReceiveStreams_eq : ∀ p, p ∈ c.videoReceiveStreams ↔ p ∈ c.videoReceiveSsrcs.values
  audioSendSsrcs_live : ∀ p ∈ c.audioSendSsrcs.values, (c.audioSends.find p).isSome
  audioReceiveSsrcs_live : ∀ p ∈ c.audioReceiveSsrcs.values, (c.audioReceives.find p).isSome
  videoSendSsrcs_live : ∀ p ∈ c.videoSendSsrcs.values, (c.videoSends.find p).isSome
  videoSendStreams_live : ∀ p ∈ c.videoSendStreams, (c.videoSends.find p).isSome
  videoReceiveSsrcs_live : ∀ p ∈ c.videoReceiveSsrcs.values, (c.videoReceives.find p).isSome
  videoReceiveStreams_live : ∀ p ∈ c.videoReceiveStreams, (c.videoReceives.find p).isSome
  syncStreamMapping_live : ∀ p ∈ c.syncStreamMapping.values, (c.audioReceives.find p).isSome

/-- A live video stream is a value of its index: through its first SSRC for a send stream,
through its `remote_ssrc` for a receive stream. -/
theorem Complete.mem_videoSendSsrcs (hc : c.Complete) {p : Ptr}
    (hp : (c.videoSends.find p).isSome) : p ∈ c.videoSendSsrcs.values := by
  obtain ⟨s, hs⟩ := Option.isSome_iff_exists.1 hp
  obtain ⟨hne, hks⟩ := hc.videoSend_live p _ (StdMap.project_of_find hs)
  obtain ⟨k, hk⟩ := List.exists_mem_of_ne_nil _ hne
  exact (StdMap.mem_values_iff _).2 ⟨k, hks k hk⟩

theorem Complete.mem_videoReceiveSsrcs (hc : c.Complete) {p : Ptr}
    (hp : (c.videoReceives.find p).isSome) : p ∈ c.videoReceiveSsrcs.values := by
  obtain ⟨s, hs⟩ := Option.isSome_iff_exists.1 hp
  exact (StdMap.mem_values_iff _).2 ⟨_, (hc.videoReceive_live p _ (StdMap.project_of_find hs)).1⟩

/-- `Sound` and `Complete` together are the registry invariant. -/
theorem Sound.registryInv (hs : c.Sound) (hc : c.Complete) : c.RegistryInv where
  audioSend_indexed _ _ h := hs.audioSend_live _ _ (StdMap.project_of_find h)
  audioReceive_indexed _ _ h := hs.audioReceive_live _ _ (StdMap.project_of_find h)
  videoSend_indexed _ _ h := (hc.videoSend_live _ _ (StdMap.project_of_find h)).2
  videoSendStreams_eq p := by
    rw [hs.videoSendStreams_mem]
    refine ⟨hc.mem_videoSendSsrcs, fun hp => ?_⟩
    obtain ⟨k, hk⟩ := (StdMap.mem_values_iff _).1 hp
    obtain ⟨_, hcfg, -⟩ := hs.videoSend_find k p hk
    exact StdMap.isSome_find_of_project hcfg
  videoReceive_indexed _ _ h := hc.videoReceive_live _ _ (StdMap.project_of_find h)
  videoReceiveStreams_eq p := by
    rw [hs.videoReceiveStreams_mem]
    refine ⟨hc.mem_videoReceiveSsrcs, fun hp => ?_⟩
    obtain ⟨k, hk⟩ := (StdMap.mem_values_iff _).1 hp
    obtain ⟨_, hcfg, -⟩ := hs.videoReceive_find k p hk
    exact StdMap.isSome_find_of_project hcfg
  audioSendSsrcs_live p hp := by
    obtain ⟨k, hk⟩ := (StdMap.mem_values_iff _).1 hp
    exact StdMap.isSome_find_of_project (hs.audioSend_find k p hk)
  audioReceiveSsrcs_live p hp := by
    obtain ⟨k, hk⟩ := (StdMap.mem_values_iff _).1 hp
    exact StdMap.isSome_find_of_project (hs.audioReceive_find k p hk)
  videoSendSsrcs_live p hp := by
    obtain ⟨k, hk⟩ := (StdMap.mem_values_iff _).1 hp
    obtain ⟨_, hcfg, -⟩ := hs.videoSend_find k p hk
    exact StdMap.isSome_find_of_project hcfg
  videoSendStreams_live p hp := (hs.videoSendStreams_mem p).1 hp
  videoReceiveSsrcs_live p hp := by
    obtain ⟨k, hk⟩ := (StdMap.mem_values_iff _).1 hp
    obtain ⟨_, hcfg, -⟩ := hs.videoReceive_find k p hk
    exact StdMap.isSome_find_of_project hcfg
  videoReceiveStreams_live p hp := (hs.videoReceiveStreams_mem p).1 hp
  syncStreamMapping_live p hp := by
    obtain ⟨g, hg⟩ := (StdMap.mem_values_iff _).1 hp
    exact StdMap.isSome_find_of_project (hs.syncStream_find g p hg)

/-- Every `Destroy*` given a live stream passes its `RTC_CHECK`s. -/
def DestroysSucceed (c : Call) : Prop :=
  ∀ op : Op, op.IsDestroy → op.Admissible c → ∃ c', c.apply op = .ok c'

theorem destroysSucceed_of_complete (hs : c.Sound) (hc : c.Complete) : c.DestroysSucceed := by
  intro op hd hop
  cases op <;> simp only [Op.IsDestroy] at hd <;> simp only [Op.Admissible] at hop
  case destroyAudioSendStream p =>
    -- a live audio stream is indexed under its SSRC, by soundness
    obtain ⟨s, hs'⟩ := Option.isSome_iff_exists.1 hop
    simp [apply, destroyAudioSendStream, unregisterAudioSendStream, hs',
      hs.audioSend_live p _ (StdMap.project_of_find hs'), Except.map]
  case destroyAudioReceiveStream p =>
    obtain ⟨s, hs'⟩ := Option.isSome_iff_exists.1 hop
    simp [apply, destroyAudioReceiveStream, unregisterAudioReceiveStream, hs',
      hs.audioReceive_live p _ (StdMap.project_of_find hs'), Except.map]
  case destroyVideoSendStream p _ =>
    -- a live video stream is a value of its index, by completeness
    simp [apply, destroyVideoSendStream, unregisterVideoSendStream, hc.mem_videoSendSsrcs hop,
      Except.map]
  case destroyVideoReceiveStream p =>
    obtain ⟨s, hs'⟩ := Option.isSome_iff_exists.1 hop
    simp [apply, destroyVideoReceiveStream, unregisterVideoReceiveStream, hs',
      hc.mem_videoReceiveSsrcs hop, Except.map]

end Call

theorem Reachable.complete {c : Call} (h : Reachable Op.WellAdmissible c) : c.Complete :=
  h.induction_on Call.complete_init fun _ _ _ hc hop h => Call.complete_apply hc hop h

theorem Reachable.receiveComplete {c : Call} (h : Reachable Op.RtxAdmissible c) :
    c.ReceiveComplete :=
  h.induction_on (fun v e => (Call.complete_init v e).toReceiveComplete)
    fun _ _ _ hc hop h => Call.receiveComplete_apply hc hop.2 h

/-- After every run of well-admissible calls the registry invariant holds, and every
`Destroy*` of a live stream passes its `RTC_CHECK`s. -/
theorem registry_invariant {c : Call} (h : Reachable Op.WellAdmissible c) :
    c.RegistryInv ∧ c.DestroysSucceed :=
  ⟨h.admissible.sound.registryInv h.complete,
    Call.destroysSucceed_of_complete h.admissible.sound h.complete⟩

/-- A stream of each kind, the video receive stream with an RTX SSRC, and then the audio send
stream destroyed: the indices hold the three live streams under every SSRC they name, and
nothing else. -/
theorem registry_invariant_three_streams :
    ∃ c, Reachable Op.WellAdmissible c ∧
      (c.audioSendSsrcs.keys = [] ∧ c.audioReceiveSsrcs.keys = [2] ∧
        c.videoSendSsrcs.keys = [3, 4] ∧ c.videoReceiveSsrcs.keys = [5, 6] ∧
        c.videoReceiveStreams.elems = [3]) ∧
      (c.RegistryInv ∧ c.DestroysSucceed) := by
  obtain ⟨c, h, hc⟩ : ∃ c, Reachable Op.WellAdmissible c ∧
      (c.audioSendSsrcs.keys = [] ∧ c.audioReceiveSsrcs.keys = [2] ∧
        c.videoSendSsrcs.keys = [3, 4] ∧ c.videoReceiveSsrcs.keys = [5, 6] ∧
        c.videoReceiveStreams.elems = [3]) :=
    Reachable.of_runAllowed true true
      [.createAudioSendStream ⟨⟨1⟩⟩ 0, .createAudioReceiveStream ⟨⟨2⟩, 7, "av"⟩ 1,
        .createVideoSendStream ⟨⟨[3, 4]⟩⟩ 2,
        .createVideoReceiveStream ⟨⟨5, (∅ : StdMap Int _).insert 96 ⟨6, 97⟩⟩, "av"⟩ 3,
        .destroyAudioSendStream 0] (by decide)
  exact ⟨c, h, hc, registry_invariant h⟩

/-- Neither configuration assumption can be dropped. A video send stream created with no
SSRC is in `video_send_streams_` but is no value of `video_send_ssrcs_`. In a run with no
video send stream at all, a receive stream whose RTX SSRC is the `remote_ssrc` of another
one takes that SSRC over, and the other stream is no longer indexed at its `remote_ssrc`. -/
theorem registry_invariant_fails :
    (¬ ∀ c : Call, Reachable Op.Admissible c → c.RegistryInv ∧ c.DestroysSucceed) ∧
    ¬ ∀ c : Call, Reachable (fun c op => op.Admissible c ∧
        ∀ config p, op ≠ .createVideoSendStream config p) c →
      c.RegistryInv ∧ c.DestroysSucceed := by
  constructor
  · intro h
    obtain ⟨c, hc⟩ : ∃ c, (Call.init false false).apply (.createVideoSendStream ⟨⟨[]⟩⟩ 0) =
        .ok c :=
      ⟨_, Call.createVideoSendStream_eq_ok.2 ⟨.nil, nofun, rfl⟩⟩
    have hop : Op.Admissible (Call.init false false) (.createVideoSendStream ⟨⟨[]⟩⟩ 0) := rfl
    have hmem := ((h c ⟨false, false, _, Run.nil.snoc hop hc⟩).1.videoSendStreams_eq 0).1
    obtain ⟨-, -, rfl⟩ := Call.createVideoSendStream_eq_ok.1 hc
    exact absurd (hmem (by decide)) (by decide)
  · intro h
    let first : VideoReceiveStream.Config := ⟨⟨1, ∅⟩, ""⟩
    let second : VideoReceiveStream.Config := ⟨⟨2, (∅ : StdMap Int _).insert 0 ⟨1, 0⟩⟩, ""⟩
    obtain ⟨c₁, h₁⟩ : ∃ c, (Call.init false false).apply (.createVideoReceiveStream first 0) =
        .ok c :=
      ⟨_, Call.createVideoReceiveStream_eq_ok.2 ⟨rfl, rfl⟩⟩
    have hop₁ : Op.Admissible (Call.init false false) (.createVideoReceiveStream first 0) ∧
        ∀ config p, Op.createVideoReceiveStream first 0 ≠ .createVideoSendStream config p :=
      ⟨rfl, fun _ _ => nofun⟩
    have h₁' := Call.createVideoReceiveStream_eq_ok.1 h₁
    obtain ⟨c₂, h₂⟩ : ∃ c, c₁.apply (.createVideoReceiveStream second 1) = .ok c := by
      rw [h₁'.2]; exact ⟨_, Call.createVideoReceiveStream_eq_ok.2 ⟨rfl, rfl⟩⟩
    have hop₂ : Op.Admissible c₁ (.createVideoReceiveStream second 1) ∧
        ∀ config p, Op.createVideoReceiveStream second 1 ≠ .createVideoSendStream config p :=
      ⟨by rw [h₁'.2]; rfl, fun _ _ => nofun⟩
    have inv := (h c₂ ⟨false, false, _, (Run.nil.snoc hop₁ h₁).snoc hop₂ h₂⟩).1
    obtain ⟨-, rfl⟩ := Call.createVideoReceiveStream_eq_ok.1 h₂
    rw [h₁'.2] at inv
    exact absurd (inv.videoReceive_indexed 0 _ rfl).1 (by decide)

end WebRtcCall
