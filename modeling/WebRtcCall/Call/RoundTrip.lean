import WebRtcCall.Call.Sync

/-!
# Creating and destroying a stream

A `Create*` followed at once by the matching `Destroy*` leaves the registry as it found it:
the seven containers of `Call.registry`, and the channel of the last `SetSyncChannel` of
every other video receive stream (`create_destroy_restores`). The new stream's index entries
go in and out again. A new audio receive stream may become the anchor of its sync group and
stop being it, and a new video receive stream may become the first of its group and make way
again; `ConfigureSync` then recomputes the channels from the restored registry, and the sync
invariant says that they are the channels the streams held before
(`syncChannel_eq_of_syncInv`).

It needs the configurations `call.cc` relies on. A video send stream with no SSRC is in no
entry of `video_send_ssrcs_`, so its `DestroyVideoSendStream` fails
`RTC_CHECK(send_stream_impl != nullptr)`; an RTX SSRC that is already a key of
`video_receive_ssrcs_` is taken over by the new stream and erased with it
(`create_destroy_fails`).
-/

namespace WebRtcCall

namespace Call

/-- The containers of the registry: `audio_send_ssrcs_`, `audio_receive_ssrcs_`,
`video_send_ssrcs_`, `video_send_streams_`, `video_receive_ssrcs_`, `video_receive_streams_`
and `sync_stream_mapping_`. -/
def registry (c : Call) : StdMap Ssrc Ptr × StdMap Ssrc Ptr × StdMap Ssrc Ptr × StdSet Ptr ×
    StdMap Ssrc Ptr × StdSet Ptr × StdMap String Ptr :=
  (c.audioSendSsrcs, c.audioReceiveSsrcs, c.videoSendSsrcs, c.videoSendStreams,
    c.videoReceiveSsrcs, c.videoReceiveStreams, c.syncStreamMapping)

/-- `c₂` has the registry of `c`, and every video receive stream but `created` has the channel
of its last `SetSyncChannel` in `c`. -/
def Restores (c c₂ : Call) (created : Option Ptr) : Prop :=
  c₂.registry = c.registry ∧ ∀ v, some v ≠ created →
    c₂.videoReceives.project (·.syncChannel) v = c.videoReceives.project (·.syncChannel) v

/-- The video receive stream `v` is in a non-empty group of a call with a voice engine: the
streams `ConfigureSync` may give a channel. -/
def SyncActive (c : Call) (v : Ptr) : Prop :=
  c.voiceEngine = true ∧ ∃ g, g ≠ "" ∧ c.videoSyncGroup v = some g

/-! ### Channels follow from the registry -/

section Channels

variable {c c₂ : Call}

/-- Two states with the sync invariant that agree on the data it reads agree on the channel
of every video receive stream of a non-empty group. -/
theorem syncChannel_eq_of_syncInv (hi : c.SyncInv) (hi₂ : c₂.SyncInv)
    (hm : c₂.syncStreamMapping = c.syncStreamMapping) (ha : c₂.audioReceives = c.audioReceives)
    (hs : c₂.videoReceiveStreams = c.videoReceiveStreams)
    (hv : ∀ v, c₂.videoReceives.project (·.config) v = c.videoReceives.project (·.config) v)
    {v : Ptr} {g : String} (hg : g ≠ "") (hgv : c.videoSyncGroup v = some g) :
    c₂.videoReceives.project (·.syncChannel) v = c.videoReceives.project (·.syncChannel) v := by
  have hgroup : ∀ w, c₂.videoSyncGroup w = c.videoSyncGroup w := fun w => by
    have := congrArg (Option.map (·.syncGroup)) (hv w)
    simpa [StdMap.project, Option.map_map, Function.comp_def, videoSyncGroup] using this
  have hexp : c₂.expectedSyncChannel g v = c.expectedSyncChannel g v := by
    simp only [expectedSyncChannel, syncAnchor, firstSyncedVideoStream, hm, ha, hs, hgroup]
  obtain ⟨s, hs', hsg⟩ := (StdMap.project_eq_some _ _ _).1 hgv
  obtain ⟨s₂, hs₂, hsg₂⟩ := (StdMap.project_eq_some _ _ _).1 ((hgroup v).trans hgv)
  rw [StdMap.project_of_find hs', StdMap.project_of_find hs₂,
    (hi₂ g hg).syncChannel v s₂ hs₂ hsg₂, (hi g hg).syncChannel v s hs' hsg, hexp]

/-- A round trip restores the channels when it restores the registry, the audio receive
streams and the configurations of the video receive streams, and leaves the streams that no
`ConfigureSync` may reach alone. -/
theorem restores_of_syncInv {created : Option Ptr} (hi : c.voiceEngine = true → c.SyncInv)
    (hi₂ : c.voiceEngine = true → c₂.SyncInv) (hreg : c₂.registry = c.registry)
    (ha : c₂.audioReceives = c.audioReceives)
    (hcfg : ∀ v, c₂.videoReceives.project (·.config) v = c.videoReceives.project (·.config) v)
    (hun : ∀ v, some v ≠ created → ¬c.SyncActive v →
      c₂.videoReceives.find v = c.videoReceives.find v) :
    c.Restores c₂ created := by
  refine ⟨hreg, fun v hv => ?_⟩
  by_cases hact : c.SyncActive v
  · obtain ⟨hve, g, hg, hgv⟩ := hact
    simp only [registry, Prod.mk.injEq] at hreg
    exact syncChannel_eq_of_syncInv (hi hve) (hi₂ hve) hreg.2.2.2.2.2.2 ha hreg.2.2.2.2.2.1 hcfg
      hg hgv
  · rw [StdMap.project, hun v hv hact]; rfl

end Channels

/-! ### The four round trips -/

section RoundTrip

variable {c c₁ : Call} {p : Ptr}

theorem roundTrip_audioSendStream {config : AudioSendStream.Config}
    (h₁ : c.createAudioSendStream config p = .ok c₁) :
    ∃ c₂, c₁.destroyAudioSendStream p = .ok c₂ ∧ c.Restores c₂ none := by
  obtain ⟨hk, rfl⟩ := createAudioSendStream_eq_ok.1 h₁
  have hfind := StdMap.find_modify_insert c.audioSends p p { config }
    fun s => if c.networkEnabled then s else s.signalNetworkState .kNetworkDown
  rw [if_pos rfl] at hfind
  refine ⟨_, destroyAudioSendStream_eq_ok.2 ⟨_, hfind, by simp, rfl⟩, ?_, fun _ _ => rfl⟩
  simp [registry, StdMap.erase_insert_of_find_none hk]

theorem Sound.not_mem_videoSendSsrcs (hs : c.Sound) (hp : c.videoSends.find p = none) :
    p ∉ c.videoSendSsrcs.values := fun h => by
  obtain ⟨k, hk⟩ := (StdMap.mem_values_iff _).1 h
  obtain ⟨_, hcfg, -⟩ := hs.videoSend_find k p hk
  simp [StdMap.project, hp] at hcfg

theorem Sound.not_mem_videoReceiveSsrcs (hs : c.Sound) (hp : c.videoReceives.find p = none) :
    p ∉ c.videoReceiveSsrcs.values := fun h => by
  obtain ⟨k, hk⟩ := (StdMap.mem_values_iff _).1 h
  obtain ⟨_, hcfg, -⟩ := hs.videoReceive_find k p hk
  simp [StdMap.project, hp] at hcfg

theorem roundTrip_videoSendStream (hs : c.Sound) {config : VideoSendStream.Config}
    (hp : c.videoSends.find p = none) (hne : config.rtp.ssrcs ≠ []) (rtpState : RtpStateMap)
    (h₁ : c.createVideoSendStream config p = .ok c₁) :
    ∃ c₂, c₁.destroyVideoSendStream p rtpState = .ok c₂ ∧ c.Restores c₂ none := by
  obtain ⟨-, hfresh, rfl⟩ := createVideoSendStream_eq_ok.1 h₁
  obtain ⟨k, hk⟩ := List.exists_mem_of_ne_nil _ hne
  refine ⟨_, destroyVideoSendStream_eq_ok.2 ⟨(StdMap.mem_values_iff _).2
    ⟨k, by simp [logEvent, find_foldl_insert, hk]⟩, rfl⟩, ?_, fun _ _ => rfl⟩
  -- the new entries are the only ones holding `p`
  have hssrcs : (config.rtp.ssrcs.foldl (fun m k => m.insert k p) c.videoSendSsrcs).eraseValue p =
      c.videoSendSsrcs := StdMap.ext_find fun k => by
    rw [StdMap.find_eraseValue, find_foldl_insert]
    split_ifs with hk
    · simp [hfresh k hk]
    · rw [← StdMap.find_eraseValue, StdMap.eraseValue_of_not_mem (hs.not_mem_videoSendSsrcs hp)]
  have hset : p ∉ c.videoSendStreams := fun h => by
    simpa [hp] using (hs.videoSendStreams_mem p).1 h
  simp [registry, logEvent, hssrcs, StdSet.erase_insert_of_not_mem hset]

/-! The entry `ConfigureSync` leaves for a group -/

theorem syncStreamMapping_configureSync_eq {g : String} (hve : c.voiceEngine = true)
    (hg : g ≠ "") : (c.configureSync g).syncStreamMapping =
      match (c.syncStreamMapping.find g).or (c.findSyncAudioStream g) with
      | some a => c.syncStreamMapping.insert g a
      | none => c.syncStreamMapping :=
  congrArg Call.syncStreamMapping (configureSync_of_active hve hg)

theorem findSyncAudioStream_eq_none {g : String}
    (h : ∀ q ∈ c.audioReceiveSsrcs.values, c.audioSyncGroup q ≠ some g) :
    c.findSyncAudioStream g = none :=
  List.find?_eq_none.2 fun q hq => by simpa using h q hq

/-- `ConfigureSync(g)` on a state whose index and groups of indexed audio streams are those of
a state with the invariants leaves the entries of `sync_stream_mapping_` as they are there. -/
theorem syncStreamMapping_configureSync_of_frame (hi : c.voiceEngine = true → c.SyncInv)
    (c₀ : Call) {g : String} (hve : c₀.voiceEngine = c.voiceEngine)
    (hm : c₀.syncStreamMapping = c.syncStreamMapping)
    (hars : c₀.audioReceiveSsrcs = c.audioReceiveSsrcs)
    (hgrp : ∀ q ∈ c.audioReceiveSsrcs.values, c₀.audioSyncGroup q = c.audioSyncGroup q) :
    (c₀.configureSync g).syncStreamMapping = c.syncStreamMapping := by
  by_cases hact : c₀.voiceEngine = true ∧ g ≠ ""
  · rw [syncStreamMapping_configureSync_eq hact.1 hact.2, hm]
    cases hmg : c.syncStreamMapping.find g with
    | some a => exact StdMap.insert_of_find_eq hmg
    | none =>
      have hnone : ¬∃ q, c.audioSyncGroup q = some g := by
        rw [← (hi (hve ▸ hact.1) g hact.2).mapped_iff, hmg]; exact Bool.false_ne_true
      rw [Option.none_or, findSyncAudioStream_eq_none fun q hq hgq =>
        hnone ⟨q, (hgrp q (hars ▸ hq)) ▸ hgq⟩]
  · rw [configureSync_of_inactive hact, hm]

theorem findSyncAudioStream_eq_some_of_unique {g : String} (hp : p ∈ c.audioReceiveSsrcs.values)
    (hg : c.audioSyncGroup p = some g)
    (huniq : ∀ q ∈ c.audioReceiveSsrcs.values, c.audioSyncGroup q = some g → q = p) :
    c.findSyncAudioStream g = some p := by
  cases hf : c.findSyncAudioStream g with
  | none => exact absurd hg (by simpa using List.find?_eq_none.1 hf p hp)
  | some q =>
    obtain ⟨hq, hgq⟩ := findSyncAudioStream_spec c g hf
    rw [huniq q hq hgq]

theorem Sound.not_mem_audioReceiveSsrcs (hs : c.Sound) (hp : c.audioReceives.find p = none) :
    p ∉ c.audioReceiveSsrcs.values := fun h => by
  obtain ⟨k, hk⟩ := (StdMap.mem_values_iff _).1 h
  simpa [StdMap.project, hp] using hs.audioReceive_find k p hk

/-- A new audio receive stream of a group with no audio stream becomes its anchor, and its
`DestroyAudioReceiveStream` erases the entry again; in a group that has an anchor it stays
out of `sync_stream_mapping_`. -/
theorem roundTrip_audioReceiveStream (hs : c.Sound) (hi : c.voiceEngine = true → c.SyncInv)
    {config : AudioReceiveStream.Config} (hp : c.audioReceives.find p = none)
    (h₁ : c.createAudioReceiveStream config p = .ok c₁)
    (hi₂ : ∀ c₂, c₁.destroyAudioReceiveStream p = .ok c₂ → c.voiceEngine = true → c₂.SyncInv) :
    ∃ c₂, c₁.destroyAudioReceiveStream p = .ok c₂ ∧ c.Restores c₂ none := by
  obtain ⟨hk, hc₁⟩ := createAudioReceiveStream_eq_ok.1 h₁
  set c₀ : Call := { c with
    audioReceiveSsrcs := c.audioReceiveSsrcs.insert config.rtp.remoteSsrc p
    audioReceives := c.audioReceives.insert p { config } } with hc₀
  obtain ⟨c₂, h₂⟩ : ∃ c₂, c₁.destroyAudioReceiveStream p = .ok c₂ :=
    ⟨_, destroyAudioReceiveStream_eq_ok.2 ⟨{ config }, by simp [hc₁, c₀], by simp [hc₁, c₀], rfl⟩⟩
  refine ⟨c₂, h₂, ?_⟩
  obtain ⟨s, hs₁, -, hc₂⟩ := destroyAudioReceiveStream_eq_ok.1 h₂
  obtain rfl : s = { config } := by simpa [hc₁, c₀] using hs₁.symm
  subst hc₁
  have hanchor : ∀ g, c.syncStreamMapping.find g ≠ some p := fun g h => by
    simpa [hp] using hs.anchor_live h
  have hgroup : ∀ q ∈ c.audioReceiveSsrcs.values, c₀.audioSyncGroup q = c.audioSyncGroup q :=
    fun q hq => by
      have hqp : q ≠ p := fun h => hs.not_mem_audioReceiveSsrcs hp (h ▸ hq)
      simp [c₀, audioSyncGroup, hqp]
  have hmap : c₂.syncStreamMapping = c.syncStreamMapping := by
    subst hc₂
    by_cases hact : c.voiceEngine = true ∧ config.syncGroup ≠ ""
    · have hact₀ : c₀.voiceEngine = true ∧ config.syncGroup ≠ "" := hact
      cases hmg : c.syncStreamMapping.find config.syncGroup with
      | some a =>
        -- the group keeps its anchor
        have hm₁ : (c₀.configureSync config.syncGroup).syncStreamMapping = c.syncStreamMapping := by
          rw [syncStreamMapping_configureSync_eq hact₀.1 hact₀.2]
          simp only [c₀, hmg, Option.or_some, StdMap.insert_of_find_eq hmg]
        have hap : a ≠ p := fun h => hanchor _ (h ▸ hmg)
        simp [deleteAudioReceiveStream, hm₁, hmg, hap]
      | none =>
        -- the new stream becomes the anchor and stops being it
        have hnone : ∀ q ∈ c.audioReceiveSsrcs.values, c.audioSyncGroup q ≠ some config.syncGroup :=
          fun q _ hq => by
            have := (hi hact.1 _ hact.2).mapped_iff.2 ⟨q, hq⟩
            rw [hmg] at this; exact Bool.false_ne_true this
        have hfind : c₀.findSyncAudioStream config.syncGroup = some p := by
          refine findSyncAudioStream_eq_some_of_unique
            ((StdMap.mem_values_iff _).2 ⟨config.rtp.remoteSsrc, by simp [c₀]⟩) (by simp [c₀, audioSyncGroup])
            fun q hq hgq => ?_
          obtain ⟨k, hk'⟩ := (StdMap.mem_values_iff _).1 hq
          by_contra hqp
          have hq' : q ∈ c.audioReceiveSsrcs.values := (StdMap.mem_values_iff _).2 ⟨k, by
            simp only [c₀, StdMap.find_insert] at hk'
            split_ifs at hk'
            · exact absurd (Option.some_inj.1 hk').symm hqp
            · exact hk'⟩
          exact hnone q hq' ((hgroup q hq').symm.trans hgq)
        have hm₁ : (c₀.configureSync config.syncGroup).syncStreamMapping =
            c.syncStreamMapping.insert config.syncGroup p := by
          rw [syncStreamMapping_configureSync_eq hact₀.1 hact₀.2]
          simp only [c₀, hmg, Option.none_or, hfind]
        simp only [deleteAudioReceiveStream, hm₁, StdMap.find_insert, ↓reduceIte,
          StdMap.erase_insert_of_find_none hmg]
        refine syncStreamMapping_configureSync_of_frame hi _ ?_ ?_ ?_ fun q hq => ?_
        · simp [c₀]
        · rfl
        · simp [c₀, StdMap.erase_insert_of_find_none hk]
        · simpa using hgroup q hq
    · rw [configureSync_of_inactive (c := c₀) hact]
      simp [deleteAudioReceiveStream, c₀, hanchor]
  have haudio : c₂.audioReceives = c.audioReceives := by
    subst hc₂; dsimp only; split_ifs <;> simp [deleteAudioReceiveStream, c₀, StdMap.erase_insert_of_find_none hp]
  refine restores_of_syncInv hi (hi₂ _ h₂) ?_ haudio (fun v => ?_) (fun v _ hact => ?_)
  · simp only [registry, hmap, Prod.mk.injEq, and_true]
    subst hc₂; dsimp only
    split_ifs <;> simp [deleteAudioReceiveStream, c₀, StdMap.erase_insert_of_find_none hk]
  · subst hc₂; dsimp only; split_ifs <;> simp (disch := simp) [deleteAudioReceiveStream, c₀]
  · -- no `ConfigureSync` reaches a stream outside the non-empty groups
    have hfree : ∀ c' : Call, c'.voiceEngine = c.voiceEngine →
        c'.videoSyncGroup v = c.videoSyncGroup v → ∀ g,
        (c'.configureSync g).videoReceives.find v = c'.videoReceives.find v :=
      fun c' hve hgv g => find_videoReceives_configureSync_of_not_active fun ⟨hve', hg, hgv'⟩ =>
        hact ⟨hve ▸ hve', g, hg, hgv ▸ hgv'⟩
    subst hc₂; dsimp only [deleteAudioReceiveStream]
    split_ifs
    · rw [hfree _ ?_ ?_, hfree c₀ rfl rfl]
      · simp [c₀]
      · exact videoSyncGroup_configureSync (c := c₀) (g := config.syncGroup) v
    · exact hfree c₀ rfl rfl _

theorem roundTrip_videoReceiveStream (hs : c.Sound) (hi : c.voiceEngine = true → c.SyncInv)
    {config : VideoReceiveStream.Config} (hp : c.videoReceives.find p = none)
    (hrtx : ∀ rtx ∈ config.rtxSsrc, c.videoReceiveSsrcs.find rtx = none)
    (h₁ : c.createVideoReceiveStream config p = .ok c₁)
    (hi₂ : ∀ c₂, c₁.destroyVideoReceiveStream p = .ok c₂ → c.voiceEngine = true → c₂.SyncInv) :
    ∃ c₂, c₁.destroyVideoReceiveStream p = .ok c₂ ∧ c.Restores c₂ (some p) := by
  obtain ⟨hk, hc₁⟩ := createVideoReceiveStream_eq_ok.1 h₁
  have hlive : (c₁.videoReceives.find p).isSome := by subst hc₁; simp [logEvent]
  obtain ⟨s, hs₁⟩ := Option.isSome_iff_exists.1 hlive
  obtain ⟨c₂, h₂⟩ : ∃ c₂, c₁.destroyVideoReceiveStream p = .ok c₂ :=
    ⟨_, destroyVideoReceiveStream_eq_ok.2 ⟨(StdMap.mem_values_iff _).2
      ⟨config.rtp.remoteSsrc, by subst hc₁; simp [logEvent, find_insertReceiveSsrcs]⟩, s, hs₁, rfl⟩⟩
  refine ⟨c₂, h₂, ?_⟩
  obtain ⟨-, s, -, rfl⟩ := destroyVideoReceiveStream_eq_ok.1 h₂
  subst hc₁
  have hssrcs : (insertReceiveSsrcs c.videoReceiveSsrcs config p).eraseValue p =
      c.videoReceiveSsrcs := StdMap.ext_find fun k => by
    rw [StdMap.find_eraseValue, find_insertReceiveSsrcs]
    split_ifs with hk'
    · rcases hk' with rfl | hk'
      · simp [hk]
      · simp [hrtx k hk']
    · rw [← StdMap.find_eraseValue,
        StdMap.eraseValue_of_not_mem (hs.not_mem_videoReceiveSsrcs hp)]
  have hset : p ∉ c.videoReceiveStreams := fun h => by
    simpa [hp] using (hs.videoReceiveStreams_mem p).1 h
  refine restores_of_syncInv hi (hi₂ _ h₂) ?_ (by simp [deleteVideoReceiveStream, logEvent])
    (fun v => ?_) (fun v hv hact => ?_)
  · have hm := syncStreamMapping_configureSync_of_frame hi { c with
      videoReceiveSsrcs := insertReceiveSsrcs c.videoReceiveSsrcs config p
      videoReceiveStreams := c.videoReceiveStreams.insert p
      videoReceives := c.videoReceives.insert p { config } } (g := config.syncGroup)
      rfl rfl rfl fun _ _ => rfl
    simp only [registry, deleteVideoReceiveStream, logEvent, audioSendSsrcs_configureSync,
      audioReceiveSsrcs_configureSync, videoSendSsrcs_configureSync,
      videoSendStreams_configureSync, videoReceiveSsrcs_configureSync,
      videoReceiveStreams_configureSync, hssrcs, StdSet.erase_insert_of_not_mem hset,
      Prod.mk.injEq, true_and]
    exact syncStreamMapping_configureSync_of_frame hi _ (by simp) (by simpa using hm) (by simp)
      fun _ _ => by simp [audioSyncGroup]
  · by_cases hvp : v = p
    · subst hvp; simp [deleteVideoReceiveStream, StdMap.project, hp]
    · simp (disch := simp) [deleteVideoReceiveStream, logEvent, hvp]
  · have hvp : v ≠ p := fun h => hv (congrArg some h)
    have hgrp : ∀ g, c.voiceEngine = true → g ≠ "" → c.videoSyncGroup v ≠ some g :=
      fun g hve hg hgv => hact ⟨hve, g, hg, hgv⟩
    simp only [deleteVideoReceiveStream, StdMap.find_erase, if_neg hvp]
    rw [find_videoReceives_configureSync_of_not_active fun ⟨hve, hg, hgv⟩ =>
      hgrp _ (by simpa using hve) hg (by simpa [videoSyncGroup, logEvent, hvp] using hgv)]
    simp only [logEvent, StdMap.find_modify, if_neg hvp]
    rw [find_videoReceives_configureSync_of_not_active fun ⟨hve, hg, hgv⟩ =>
      hgrp _ hve hg (by simpa [videoSyncGroup, hvp] using hgv)]
    simp [hvp]

end RoundTrip

end Call

namespace Op

/-- The `Destroy*` that undoes a `Create*`: of the stream at the same address, with the RTP
states a video send stream reports to `DestroyVideoSendStream`. -/
def destroyOf (rtpState : RtpStateMap) : Op → Option Op
  | .createAudioSendStream _ p => some (.destroyAudioSendStream p)
  | .createAudioReceiveStream _ p => some (.destroyAudioReceiveStream p)
  | .createVideoSendStream _ p => some (.destroyVideoSendStream p rtpState)
  | .createVideoReceiveStream _ p => some (.destroyVideoReceiveStream p)
  | _ => none

/-- The video receive stream a `Create*` adds, if any. -/
def createdVideoReceiveStream : Op → Option Ptr
  | .createVideoReceiveStream _ p => some p
  | _ => none

end Op

/-- After every run of admissible calls, a `Create*` with a fresh address and a configuration
`call.cc` relies on is undone by its `Destroy*`: the `Destroy*` succeeds and leaves the
registry and the channel of every other video receive stream as they were. -/
theorem create_destroy_restores {c c₁ : Call} {op d : Op} {rtpState : RtpStateMap}
    (h : Reachable Op.Admissible c) (hop : op.WellAdmissible c)
    (hd : op.destroyOf rtpState = some d) (h₁ : c.apply op = .ok c₁) :
    ∃ c₂, c₁.apply d = .ok c₂ ∧ c.Restores c₂ op.createdVideoReceiveStream := by
  obtain ⟨hs, hi⟩ := h.sound_syncInv
  have hi₂ : ∀ c₂, c₁.apply d = .ok c₂ → d.Admissible c₁ → c.voiceEngine = true → c₂.SyncInv :=
    fun c₂ h₂ hd hve => ((h.step hop.1 h₁).step hd h₂).sound_syncInv.2 (by
      rw [Call.voiceEngine_apply h₂, Call.voiceEngine_apply h₁, hve])
  cases op with
  | createAudioSendStream config p => cases hd; exact Call.roundTrip_audioSendStream h₁
  | createAudioReceiveStream config p =>
    cases hd
    have hlive : (c₁.audioReceives.find p).isSome := by
      rw [(Call.createAudioReceiveStream_eq_ok.1 h₁).2]; simp
    exact Call.roundTrip_audioReceiveStream hs hi hop.1 h₁ fun c₂ h₂ => hi₂ c₂ h₂ hlive
  | createVideoSendStream config p =>
    cases hd; exact Call.roundTrip_videoSendStream hs hop.1 hop.2 rtpState h₁
  | createVideoReceiveStream config p =>
    cases hd
    have hlive : (c₁.videoReceives.find p).isSome := by
      rw [(Call.createVideoReceiveStream_eq_ok.1 h₁).2]; simp [Call.logEvent]
    exact Call.roundTrip_videoReceiveStream hs hi hop.1 hop.2 h₁ fun c₂ h₂ => hi₂ c₂ h₂ hlive
  | destroyAudioSendStream | destroyAudioReceiveStream | destroyVideoSendStream
  | destroyVideoReceiveStream | signalNetworkState => cases hd

/-- With a voice engine, a video receive stream of group `"av"` without an anchor holds
channel `-1`. An audio receive stream created in the group becomes its anchor and binds the
video stream to its channel `7`; destroying it at once restores the registry and gives the
video stream back its `-1`. -/
theorem create_destroy_restores_anchor :
    ∃ c c₁, Reachable Op.Admissible c ∧
      c.videoReceives.project (·.syncChannel) 1 = some (some (-1)) ∧
      c.apply (.createAudioReceiveStream ⟨⟨1⟩, 7, "av"⟩ 0) = .ok c₁ ∧
      c₁.syncStreamMapping.find "av" = some 0 ∧
      c₁.videoReceives.project (·.syncChannel) 1 = some (some 7) ∧
      ∃ c₂, c₁.apply (.destroyAudioReceiveStream 0) = .ok c₂ ∧ c.Restores c₂ none := by
  obtain ⟨c, c₁, h₀, h₁, hop, hc, hve, hkeys, hch, hga, hv, hfirst⟩ : ∃ c c₁,
      (Call.init true false).apply (.createVideoReceiveStream ⟨⟨2, ∅⟩, "av"⟩ 1) = .ok c ∧
      c.apply (.createAudioReceiveStream ⟨⟨1⟩, 7, "av"⟩ 0) = .ok c₁ ∧
      Op.WellAdmissible c (.createAudioReceiveStream ⟨⟨1⟩, 7, "av"⟩ 0) ∧
      c.videoReceives.project (·.syncChannel) 1 = some (some (-1)) ∧
      (c₁.voiceEngine = true ∧ c₁.audioReceives.keys = [0] ∧
        c₁.audioReceives.project (·.config.voeChannelId) 0 = some 7 ∧
        c₁.audioSyncGroup 0 = some "av" ∧ c₁.videoSyncGroup 1 = some "av" ∧
        c₁.firstSyncedVideoStream "av" = some 1) :=
    ⟨_, _, rfl, rfl, by decide, by decide, by decide⟩
  have h : Reachable Op.Admissible c := ⟨true, false, _, Run.nil.snoc (by decide) h₀⟩
  obtain ⟨hs₁, hi₁⟩ := (h.step hop.1 h₁).sound_syncInv
  -- the new audio stream is the only one of the group, so it is the anchor
  have hmap : c₁.syncStreamMapping.find "av" = some 0 :=
    (hi₁ hve).find_syncStreamMapping_of_unique hs₁.syncStream_find (by decide) hga fun _ =>
      Call.eq_of_audioSyncGroup hkeys
  refine ⟨c, c₁, h, hc, h₁, hmap, ?_, create_destroy_restores h hop
    (rfl : Op.destroyOf ∅ (.createAudioReceiveStream ⟨⟨1⟩, 7, "av"⟩ 0) = _) h₁⟩
  rw [(hi₁ hve).project_syncChannel (by decide) hmap hch hv, if_pos hfirst]

/-- Without the configurations `call.cc` relies on the law fails, for each of the two: a video
send stream with no SSRC cannot be destroyed, and a video receive stream whose RTX SSRC is the
remote SSRC of another stream takes the other stream's entry with it. -/
theorem create_destroy_fails :
    (¬ ∀ (c c₁ : Call) (op d : Op) (rtpState : RtpStateMap), Reachable Op.Admissible c →
      op.Admissible c → (∀ config p, op ≠ .createVideoReceiveStream config p) →
      op.destroyOf rtpState = some d → c.apply op = .ok c₁ →
      ∃ c₂, c₁.apply d = .ok c₂ ∧ c.Restores c₂ op.createdVideoReceiveStream) ∧
    ¬ ∀ (c c₁ : Call) (op d : Op) (rtpState : RtpStateMap), Reachable Op.Admissible c →
      op.Admissible c → (∀ config p, op ≠ .createVideoSendStream config p) →
      op.destroyOf rtpState = some d → c.apply op = .ok c₁ →
      ∃ c₂, c₁.apply d = .ok c₂ ∧ c.Restores c₂ op.createdVideoReceiveStream := by
  constructor
  · intro h
    obtain ⟨c₁, h₁⟩ : ∃ c, (Call.init false false).apply (.createVideoSendStream ⟨⟨[]⟩⟩ 0) =
        .ok c :=
      ⟨_, Call.createVideoSendStream_eq_ok.2 ⟨.nil, nofun, rfl⟩⟩
    obtain ⟨c₂, h₂, -⟩ := h _ _ (.createVideoSendStream ⟨⟨[]⟩⟩ 0) (.destroyVideoSendStream 0 ∅) ∅ ⟨false, false, [], .nil⟩ rfl
      (fun _ _ => nofun) rfl h₁
    have hmem := (Call.destroyVideoSendStream_eq_ok.1 h₂).1
    obtain ⟨-, -, rfl⟩ := Call.createVideoSendStream_eq_ok.1 h₁
    exact absurd hmem (by decide)
  · intro h
    let first : VideoReceiveStream.Config := ⟨⟨1, ∅⟩, ""⟩
    let second : VideoReceiveStream.Config := ⟨⟨2, (∅ : StdMap Int _).insert 0 ⟨1, 0⟩⟩, ""⟩
    obtain ⟨c, h₀⟩ : ∃ c, (Call.init false false).apply (.createVideoReceiveStream first 0) =
        .ok c :=
      ⟨_, Call.createVideoReceiveStream_eq_ok.2 ⟨rfl, rfl⟩⟩
    have hc := Call.createVideoReceiveStream_eq_ok.1 h₀
    have hop : Op.Admissible (Call.init false false) (.createVideoReceiveStream first 0) := rfl
    obtain ⟨c₁, h₁⟩ : ∃ c₁, c.apply (.createVideoReceiveStream second 1) = .ok c₁ := by
      rw [hc.2]; exact ⟨_, Call.createVideoReceiveStream_eq_ok.2 ⟨rfl, rfl⟩⟩
    obtain ⟨c₂, h₂, hr⟩ := h _ _ (.createVideoReceiveStream second 1) (.destroyVideoReceiveStream 1) ∅
      ⟨false, false, _, Run.nil.snoc hop h₀⟩
      (by rw [hc.2]; rfl) (fun _ _ => nofun) rfl h₁
    have hssrcs := congrArg (fun r => r.2.2.2.2.1.find 1) hr.1
    obtain ⟨-, s, -, rfl⟩ := Call.destroyVideoReceiveStream_eq_ok.1 h₂
    obtain ⟨-, rfl⟩ := Call.createVideoReceiveStream_eq_ok.1 h₁
    rw [hc.2] at hssrcs
    exact absurd hssrcs (by simp [Call.registry, Call.deleteVideoReceiveStream, Call.logEvent]; decide)

end WebRtcCall
