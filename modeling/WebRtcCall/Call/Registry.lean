import WebRtcCall.Call.Run

/-!
# The stream registry

What `internal::Call`'s indices and sets say about the live streams.

`Call.Sound` holds after every run of admissible calls: every entry of every index and
set names a live stream, under a key the stream's configuration names, and the stream
sets hold exactly the live video streams. It is what keeps a `Destroy*` from leaving a
dangling pointer behind (every entry that names the stream is erased before `delete`).

`Call.Complete` is the converse for video streams: every live video send stream is
indexed under each of its SSRCs, and there is at least one; every live video receive
stream under its `remote_ssrc` and its RTX SSRC. It holds after every run of
well-admissible calls, and it fails after a video send stream with no SSRCs or an RTX
SSRC that collides with an indexed one, since `CreateVideoSendStream` and
`CreateVideoReceiveStream` check neither.

`RegistryInv` is the registry invariant in the words of the specification;
`registry_invariant` derives it, and the success of every `Destroy*`, from the two.
-/

namespace WebRtcCall

namespace Call

/-- Every entry of the registry names a live stream under a key the stream's
configuration names, and the stream sets are the live video streams. -/
structure Sound (c : Call) : Prop where
  audioSend_find : ∀ k p, c.audioSendSsrcs.find k = some p →
    c.audioSends.project (·.config.rtp.ssrc) p = some k
  audioSend_live : ∀ p k, c.audioSends.project (·.config.rtp.ssrc) p = some k →
    c.audioSendSsrcs.find k = some p
  audioReceive_find : ∀ k p, c.audioReceiveSsrcs.find k = some p →
    c.audioReceives.project (·.config.rtp.remoteSsrc) p = some k
  audioReceive_live : ∀ p k, c.audioReceives.project (·.config.rtp.remoteSsrc) p = some k →
    c.audioReceiveSsrcs.find k = some p
  syncStream_find : ∀ g p, c.syncStreamMapping.find g = some p → c.audioSyncGroup p = some g
  videoSend_find : ∀ k p, c.videoSendSsrcs.find k = some p →
    ∃ config, c.videoSends.project (·.config) p = some config ∧ k ∈ config.rtp.ssrcs
  videoSendStreams_mem : ∀ p, p ∈ c.videoSendStreams ↔ (c.videoSends.find p).isSome
  videoReceive_find : ∀ k p, c.videoReceiveSsrcs.find k = some p →
    ∃ config, c.videoReceives.project (·.config) p = some config ∧
      (k = config.rtp.remoteSsrc ∨ k ∈ config.rtxSsrc)
  videoReceiveStreams_mem : ∀ p, p ∈ c.videoReceiveStreams ↔ (c.videoReceives.find p).isSome

theorem sound_init (v e : Bool) : (init v e).Sound where
  audioSend_find := by simp [init]
  audioSend_live := by simp [init]
  audioReceive_find := by simp [init]
  audioReceive_live := by simp [init]
  syncStream_find := by simp [init]
  videoSend_find := by simp [init]
  videoSendStreams_mem := by simp [init]
  videoReceive_find := by simp [init]
  videoReceiveStreams_mem := by simp [init]

variable {c c' : Call}

/-- A live object is not at a fresh address. -/
theorem ne_of_project_of_find_none {α β : Type} {m : StdMap Ptr α} {π : α → β} {p q : Ptr}
    {b : β} (hp : m.find p = none) (hq : m.project π q = some b) : q ≠ p := by
  rintro rfl; simp [StdMap.project, hp] at hq

/-- `ConfigureSync` keeps every entry of `sync_stream_mapping_` in its own group. -/
theorem syncStream_find_configureSync (g : String)
    (h : ∀ g p, c.syncStreamMapping.find g = some p → c.audioSyncGroup p = some g) :
    ∀ g' p, (c.configureSync g).syncStreamMapping.find g' = some p →
      (c.configureSync g).audioSyncGroup p = some g' := by
  intro g' p hp
  simp only [audioSyncGroup, audioReceives_configureSync] at h ⊢
  rcases find_syncStreamMapping_configureSync c g hp with hp | ⟨rfl, hp⟩
  · exact h g' p hp
  · exact (findSyncAudioStream_spec c g' hp).2

theorem sound_configureSync (g : String) (hc : c.Sound) : (c.configureSync g).Sound where
  audioSend_find := by simpa using hc.audioSend_find
  audioSend_live := by simpa using hc.audioSend_live
  audioReceive_find := by simpa using hc.audioReceive_find
  audioReceive_live := by simpa using hc.audioReceive_live
  syncStream_find := syncStream_find_configureSync g hc.syncStream_find
  videoSend_find := by simpa using hc.videoSend_find
  videoSendStreams_mem := by simpa using hc.videoSendStreams_mem
  videoReceive_find := by simpa using hc.videoReceive_find
  videoReceiveStreams_mem := by simpa using hc.videoReceiveStreams_mem

theorem sound_createAudioSendStream {config : AudioSendStream.Config} {p : Ptr}
    (hc : c.Sound) (hp : c.audioSends.find p = none)
    (h : c.createAudioSendStream config p = .ok c') : c'.Sound := by
  simp only [createAudioSendStream, registerAudioSendStream, newAudioSendStream] at h
  by_cases hk : c.audioSendSsrcs.find config.rtp.ssrc = none
  swap; · rw [if_neg hk] at h; cases h
  rw [if_pos hk, Except.ok.injEq] at h; subst h
  refine { hc with audioSend_find := fun k q hq => ?_, audioSend_live := fun q k hq => ?_ } <;>
    simp (disch := simp) only [StdMap.find_insert, StdMap.project_insert,
      StdMap.project_modify] at hq ⊢
  · -- an index entry: the new one names the new stream, an old one a stream not at `p`
    split_ifs at hq with hkq
    · cases hq; simp [hkq]
    · have hq' := hc.audioSend_find k q hq
      simp [ne_of_project_of_find_none hp hq', hq']
  · -- a live stream: the new one is at its SSRC, an old one at an SSRC that is not new
    split_ifs at hq with hqp
    · cases hq; simp [hqp]
    · have : k ≠ config.rtp.ssrc := by rintro rfl; simp_all [hc.audioSend_live q _ hq]
      simp [this, hc.audioSend_live q k hq]

theorem sound_destroyAudioSendStream {p : Ptr} (hc : c.Sound)
    (h : c.destroyAudioSendStream p = .ok c') : c'.Sound := by
  obtain ⟨c₁, h₁, rfl⟩ := except_map_eq_ok.1 h
  simp only [unregisterAudioSendStream] at h₁
  split at h₁; · cases h₁
  next s hs =>
  split at h₁ <;> cases h₁
  have hsp : c.audioSendSsrcs.find s.config.rtp.ssrc = some p :=
    hc.audioSend_live p _ (by simp [StdMap.project, hs])
  refine { hc with audioSend_find := fun k q hq => ?_, audioSend_live := fun q k hq => ?_ } <;>
    simp only [deleteAudioSendStream, StdMap.find_erase, StdMap.project_erase] at hq ⊢
  · -- an entry left in the index is not the destroyed stream's
    split_ifs at hq with hk
    have hq' := hc.audioSend_find k q hq
    have : q ≠ p := by rintro rfl; simp [StdMap.project, hs] at hq'; exact hk hq'.symm
    simp [this, hq']
  · -- a stream left live keeps its entry, which is not the erased one
    split_ifs at hq with hqp
    have hk := hc.audioSend_live q k hq
    have : k ≠ s.config.rtp.ssrc := by rintro rfl; rw [hsp] at hk; exact hqp (by cases hk; rfl)
    simp [this, hk]

theorem sound_createAudioReceiveStream {config : AudioReceiveStream.Config} {p : Ptr}
    (hc : c.Sound) (hp : c.audioReceives.find p = none)
    (h : c.createAudioReceiveStream config p = .ok c') : c'.Sound := by
  simp only [createAudioReceiveStream, registerAudioReceiveStream, newAudioReceiveStream] at h
  by_cases hk : c.audioReceiveSsrcs.find config.rtp.remoteSsrc = none
  swap; · rw [if_neg hk] at h; cases h
  rw [if_pos hk, Except.ok.injEq] at h; subst h
  refine sound_configureSync _ { hc with
    audioReceive_find := fun k q hq => ?_, audioReceive_live := fun q k hq => ?_,
    syncStream_find := fun g q hq => ?_ } <;>
    simp only [audioSyncGroup, StdMap.find_insert, StdMap.project_insert] at hq ⊢
  · -- an index entry: the new one names the new stream, an old one a stream not at `p`
    split_ifs at hq with hkq
    · cases hq; simp [hkq]
    · have hq' := hc.audioReceive_find k q hq
      simp [ne_of_project_of_find_none hp hq', hq']
  · -- a live stream: the new one is at its SSRC, an old one at an SSRC that is not new
    split_ifs at hq with hqp
    · cases hq; simp [hqp]
    · have : k ≠ config.rtp.remoteSsrc := by rintro rfl; simp_all [hc.audioReceive_live q _ hq]
      simp [this, hc.audioReceive_live q k hq]
  · -- an old anchor is not at the fresh address, so it keeps its group
    have hq' := hc.syncStream_find g q hq
    simp only [audioSyncGroup] at hq'
    simp [ne_of_project_of_find_none hp hq', hq']

theorem sound_destroyAudioReceiveStream {p : Ptr} (hc : c.Sound)
    (h : c.destroyAudioReceiveStream p = .ok c') : c'.Sound := by
  obtain ⟨c₁, h₁, rfl⟩ := except_map_eq_ok.1 h
  simp only [unregisterAudioReceiveStream] at h₁
  split at h₁; · cases h₁
  next s hs =>
  have hsp : c.audioReceiveSsrcs.find s.config.rtp.remoteSsrc = some p :=
    hc.audioReceive_live p _ (by simp [StdMap.project, hs])
  rw [if_pos (by simp [hsp]), Except.ok.injEq] at h₁
  set r := s.config.rtp.remoteSsrc
  set g := s.config.syncGroup
  -- what `unregister` leaves, whether or not the stream was its group's anchor
  have e : c₁.audioReceiveSsrcs = c.audioReceiveSsrcs.erase r ∧
      c₁.audioReceives = c.audioReceives ∧ c₁.audioSendSsrcs = c.audioSendSsrcs ∧
      c₁.audioSends = c.audioSends ∧ c₁.videoSendSsrcs = c.videoSendSsrcs ∧
      c₁.videoSends = c.videoSends ∧ c₁.videoSendStreams = c.videoSendStreams ∧
      c₁.videoReceiveSsrcs = c.videoReceiveSsrcs ∧
      c₁.videoReceiveStreams = c.videoReceiveStreams := by
    subst h₁; split_ifs <;> simp
  have ev : ∀ {β : Type} (π : VideoReceiveStream → β), (∀ s ch, π (s.setSyncChannel ch) = π s) →
      ∀ q, c₁.videoReceives.project π q = c.videoReceives.project π q := by
    intro β π hπ q; subst h₁; split_ifs <;> simp [hπ]
  -- nothing left in the index is the stream
  have gone : ∀ k q, (c.audioReceiveSsrcs.erase r).find k = some q →
      q ≠ p ∧ c.audioReceives.project (·.config.rtp.remoteSsrc) q = some k := by
    intro k q hq
    rw [StdMap.find_erase] at hq; split_ifs at hq with hk
    have hq' := hc.audioReceive_find k q hq
    exact ⟨by rintro rfl; simp [StdMap.project, hs] at hq'; exact hk hq'.symm, hq'⟩
  have hmap : ∀ g' q, c₁.syncStreamMapping.find g' = some q →
      q ≠ p ∧ c.audioSyncGroup q = some g' := by
    intro g' q hq
    subst h₁
    split_ifs at hq with hanchor
    · -- the stream anchored its group: the new anchor is elected among the other streams
      have hg := syncStream_find_configureSync g (c := { c with
          audioReceiveSsrcs := c.audioReceiveSsrcs.erase r
          syncStreamMapping := c.syncStreamMapping.erase g })
        (fun g q hq => by
          simp only [StdMap.find_erase] at hq; split_ifs at hq
          exact hc.syncStream_find g q hq) g' q hq
      simp only [audioSyncGroup, audioReceives_configureSync] at hg
      refine ⟨?_, hg⟩
      rcases find_syncStreamMapping_configureSync _ _ hq with hq | ⟨-, hq⟩
      · simp only [StdMap.find_erase] at hq; split_ifs at hq with hg'
        rintro rfl; simp [StdMap.project, hs] at hg; exact hg' hg.symm
      · obtain ⟨k, hk⟩ := (StdMap.mem_values_iff _).1 (findSyncAudioStream_spec _ _ hq).1
        exact (gone k q hk).1
    · -- the stream anchored nothing, so every anchor is another stream
      have hq' := hc.syncStream_find g' q hq
      refine ⟨?_, hq'⟩
      rintro rfl; simp [audioSyncGroup, StdMap.project, hs] at hq'
      subst hq'; exact hanchor hq
  obtain ⟨e₁, e₂, e₃, e₄, e₅, e₆, e₇, e₈, e₉⟩ := e
  -- the audio send and video fields are as before; the audio receive ones lose the stream
  constructor <;> simp only [deleteAudioReceiveStream, e₁, e₂, e₃, e₄, e₅, e₆, e₇, e₈, e₉]
  · exact hc.audioSend_find
  · exact hc.audioSend_live
  · intro k q hq
    obtain ⟨hqp, hq'⟩ := gone k q hq
    simp [hqp, hq']
  · intro q k hq
    simp only [StdMap.project_erase] at hq
    split_ifs at hq with hqp
    have hk := hc.audioReceive_live q k hq
    have : k ≠ r := by rintro rfl; rw [hsp] at hk; exact hqp (by cases hk; rfl)
    simp [this, hk]
  · intro g' q hq
    obtain ⟨hqp, hq'⟩ := hmap g' q hq
    simpa [audioSyncGroup, hqp] using hq'
  · exact hc.videoSend_find
  · exact hc.videoSendStreams_mem
  · simpa [ev] using hc.videoReceive_find
  · intro q
    rw [hc.videoReceiveStreams_mem, ← StdMap.isSome_project c₁.videoReceives (fun _ => ()),
      ev (fun _ => ()) fun _ _ => rfl, StdMap.isSome_project]

theorem sound_createVideoSendStream {config : VideoSendStream.Config} {p : Ptr}
    (hc : c.Sound) (hp : c.videoSends.find p = none)
    (h : c.createVideoSendStream config p = .ok c') : c'.Sound := by
  obtain ⟨m, hm, rfl⟩ := except_map_eq_ok.1 h
  obtain ⟨-, -, rfl⟩ := insertSendSsrcs_eq_ok hm
  refine { hc with videoSend_find := fun k q hq => ?_, videoSendStreams_mem := fun q => ?_ }
  · -- an index entry: a new SSRC names the new stream, an old one a stream not at `p`
    simp (disch := simp) only [logEvent, newVideoSendStream, find_foldl_insert,
      StdMap.project_modify, StdMap.project_insert] at hq ⊢
    split_ifs at hq with hk
    · cases hq; simpa using hk
    · obtain ⟨cfg, hq', hk'⟩ := hc.videoSend_find k q hq
      exact ⟨cfg, by simp [ne_of_project_of_find_none hp hq', hq'], hk'⟩
  · -- `video_send_streams_` and the objects both gain `p`
    simp only [logEvent, newVideoSendStream, StdSet.mem_insert, StdMap.isSome_find_modify,
      StdMap.find_insert, hc.videoSendStreams_mem]
    split_ifs <;> simp_all

theorem sound_destroyVideoSendStream {p : Ptr} {rtpState : RtpStateMap} (hc : c.Sound)
    (h : c.destroyVideoSendStream p rtpState = .ok c') : c'.Sound := by
  obtain ⟨c₁, h₁, rfl⟩ := except_map_eq_ok.1 h
  simp only [unregisterVideoSendStream] at h₁
  split at h₁ <;> cases h₁
  refine { hc with videoSend_find := fun k q hq => ?_, videoSendStreams_mem := fun q => ?_ }
  · -- the entries left name streams other than `p`
    simp only [deleteVideoSendStream, StdMap.find_eraseValue, Option.filter_eq_some,
      StdMap.project_erase] at hq ⊢
    obtain ⟨hq, hqp⟩ := hq
    rw [if_neg (by simpa using hqp)]
    exact hc.videoSend_find k q hq
  · -- `video_send_streams_` and the objects both lose `p`
    simp only [deleteVideoSendStream, StdSet.mem_erase, StdMap.find_erase,
      hc.videoSendStreams_mem]
    split_ifs <;> simp_all

theorem sound_createVideoReceiveStream {config : VideoReceiveStream.Config} {p : Ptr}
    (hc : c.Sound) (hp : c.videoReceives.find p = none)
    (h : c.createVideoReceiveStream config p = .ok c') : c'.Sound := by
  simp only [createVideoReceiveStream, registerVideoReceiveStream, newVideoReceiveStream] at h
  by_cases hk : c.videoReceiveSsrcs.find config.rtp.remoteSsrc = none
  swap; · rw [if_neg hk] at h; cases h
  rw [if_pos hk, Except.ok.injEq] at h; subst h
  -- the registered call is sound; `ConfigureSync` and the network signal keep it so
  have h₁ := sound_configureSync config.syncGroup (c := { c with
    videoReceives := c.videoReceives.insert p { config }
    videoReceiveSsrcs := insertReceiveSsrcs c.videoReceiveSsrcs config p
    videoReceiveStreams := c.videoReceiveStreams.insert p })
    { hc with
      videoReceive_find := fun k q hq => by
        simp only [find_insertReceiveSsrcs, StdMap.project_insert] at hq ⊢
        split_ifs at hq with hkq
        · cases hq; simpa using hkq
        · obtain ⟨cfg, hq', hk'⟩ := hc.videoReceive_find k q hq
          exact ⟨cfg, by simp [ne_of_project_of_find_none hp hq', hq'], hk'⟩
      videoReceiveStreams_mem := fun q => by
        simp only [StdSet.mem_insert, StdMap.find_insert, hc.videoReceiveStreams_mem]
        split_ifs <;> simp_all }
  exact { h₁ with
    videoReceive_find := by
      simpa (disch := simp) only [logEvent, StdMap.project_modify] using h₁.videoReceive_find
    videoReceiveStreams_mem := by
      simpa only [logEvent, StdMap.isSome_find_modify] using h₁.videoReceiveStreams_mem }

theorem sound_destroyVideoReceiveStream {p : Ptr} (hc : c.Sound)
    (h : c.destroyVideoReceiveStream p = .ok c') : c'.Sound := by
  obtain ⟨c₁, h₁, rfl⟩ := except_map_eq_ok.1 h
  simp only [unregisterVideoReceiveStream] at h₁
  split at h₁; swap; · cases h₁
  split at h₁; · cases h₁
  next s hs =>
  cases h₁
  set c₀ : Call := { c with
    videoReceiveSsrcs := c.videoReceiveSsrcs.eraseValue p
    videoReceiveStreams := c.videoReceiveStreams.erase p }
  have hmap := syncStream_find_configureSync (c := c₀) s.config.syncGroup hc.syncStream_find
  constructor <;> simp only [deleteVideoReceiveStream, audioSendSsrcs_configureSync,
    audioSends_configureSync, audioReceiveSsrcs_configureSync, audioReceives_configureSync,
    videoSendSsrcs_configureSync, videoSends_configureSync, videoSendStreams_configureSync,
    videoReceiveSsrcs_configureSync, videoReceiveStreams_configureSync]
  · exact hc.audioSend_find
  · exact hc.audioSend_live
  · exact hc.audioReceive_find
  · exact hc.audioReceive_live
  · intro g q hq; simpa [audioSyncGroup] using hmap g q hq
  · exact hc.videoSend_find
  · exact hc.videoSendStreams_mem
  · -- the entries left in the index name streams other than `p`
    intro k q hq
    simp only [c₀, StdMap.find_eraseValue, Option.filter_eq_some] at hq
    obtain ⟨hq, hqp⟩ := hq
    obtain ⟨cfg, hq', hk⟩ := hc.videoReceive_find k q hq
    refine ⟨cfg, ?_, hk⟩
    rw [StdMap.project_erase, if_neg (by simpa using hqp),
      project_videoReceives_configureSync _ _ (·.config) fun _ _ => rfl]
    exact hq'
  · -- `video_receive_streams_` and the objects both lose `p`
    intro q
    simp only [c₀, StdSet.mem_erase, hc.videoReceiveStreams_mem, StdMap.find_erase]
    split_ifs with hq
    · simp [hq]
    · simp [hq]

theorem sound_signalNetworkState {state : NetworkState} (hc : c.Sound) :
    (c.signalNetworkState state).Sound := by
  constructor <;> simp (disch := simp) only [signalNetworkState, StdMap.project_modifyAll,
    StdMap.isSome_find_modifyAll, audioSyncGroup]
  exacts [hc.audioSend_find, hc.audioSend_live, hc.audioReceive_find, hc.audioReceive_live,
    hc.syncStream_find, hc.videoSend_find, hc.videoSendStreams_mem, hc.videoReceive_find,
    hc.videoReceiveStreams_mem]

/-- Every admissible call that succeeds keeps the registry sound. -/
theorem sound_apply {op : Op} (hc : c.Sound) (hop : op.Admissible c)
    (h : c.apply op = .ok c') : c'.Sound := by
  cases op with
  | createAudioSendStream => exact sound_createAudioSendStream hc hop h
  | destroyAudioSendStream => exact sound_destroyAudioSendStream hc h
  | createAudioReceiveStream => exact sound_createAudioReceiveStream hc hop h
  | destroyAudioReceiveStream => exact sound_destroyAudioReceiveStream hc h
  | createVideoSendStream => exact sound_createVideoSendStream hc hop h
  | destroyVideoSendStream => exact sound_destroyVideoSendStream hc h
  | createVideoReceiveStream => exact sound_createVideoReceiveStream hc hop h
  | destroyVideoReceiveStream => exact sound_destroyVideoReceiveStream hc h
  | signalNetworkState => cases h; exact sound_signalNetworkState hc

end Call

theorem Reachable.sound {c : Call} (h : Reachable Op.Admissible c) : c.Sound :=
  h.induction_on Call.sound_init fun _ _ _ hc hop h => Call.sound_apply hc hop h

end WebRtcCall
