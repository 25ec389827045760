import WebRtcCall.Call.Registry

/-!
# Audio/video synchronisation

With a voice engine, every non-empty sync group `g` is in one of two states. Either no
live audio receive stream belongs to it and `sync_stream_mapping_` has no entry for it, or
the entry names a live audio receive stream of the group, its anchor. Among the live video
receive streams of the group, the first one in `video_receive_streams_` order was last
given the anchor's `voe_channel_id` by `SetSyncChannel` (or `-1` without an anchor), and
every other one `-1` (`GroupInv`).

`ConfigureSync(g)` re-establishes the video half for its own group
(`syncChannel_configureSync`), and every call leaves the data of the other groups alone
(`GroupInv.transfer`). The audio half rests on `Call.Sound`: the scan of
`audio_receive_ssrcs_` sees exactly the live audio receive streams.
-/

namespace WebRtcCall

theorem List.find?_congr_mem {α : Type} {p q : α → Bool} :
    ∀ {l : List α}, (∀ x ∈ l, p x = q x) → l.find? p = l.find? q
  | [], _ => rfl
  | x :: xs, h => by
    rw [List.find?_cons, List.find?_cons, h x (.head _),
      List.find?_congr_mem fun y hy => h y (.tail _ hy)]

namespace StdSet

variable {κ : Type} [LinearOrder κ]

theorem find?_elems_insert {P : κ → Bool} {a : κ} (ha : P a = false) (s : StdSet κ) :
    (s.insert a).elems.find? P = s.elems.find? P := by
  show ((StdMap.insertEntry a () s.entries).map Prod.fst).find? P = (s.entries.map Prod.fst).find? P
  induction s.entries with
  | nil => simp [StdMap.insertEntry, ha]
  | cons e es ih =>
    simp only [StdMap.insertEntry]
    split_ifs with h₁ h₂
    · simp [ha]
    · simp [ha, h₂]
    · simp only [List.map_cons, List.find?_cons, ih]

theorem find?_elems_erase {P : κ → Bool} {a : κ} (ha : P a = false) (s : StdSet κ) :
    (s.erase a).elems.find? P = s.elems.find? P := by
  show ((s.entries.filter (·.1 ≠ a)).map Prod.fst).find? P = (s.entries.map Prod.fst).find? P
  rw [List.find?_map, List.find?_filter, List.find?_map]
  congr 1
  refine List.find?_congr_mem fun x _ => ?_
  by_cases h : x.1 = a <;> simp [h, ha]

end StdSet

namespace Call

/-! ### The video loop of `ConfigureSync` -/

theorem syncChannelFor_of_ne_one {ch : Option Int} {n : Nat} (hn : n ≠ 1) :
    syncChannelFor ch n = -1 := by
  cases ch <;> simp [syncChannelFor, hn]

theorem find_syncVideoStreams_of_not_mem (g : String) (ch : Option Int) :
    ∀ (n : Nat) (vs : List Ptr) (objs : StdMap Ptr VideoReceiveStream) (v : Ptr), v ∉ vs →
      (syncVideoStreams g ch n vs objs).find v = objs.find v
  | _, [], _, _, _ => rfl
  | n, w :: ws, objs, v, hv => by
    have hvw : v ≠ w := fun h => hv (h ▸ .head _)
    have hws : v ∉ ws := fun h => hv (.tail _ h)
    rw [syncVideoStreams]
    split
    · rw [find_syncVideoStreams_of_not_mem g ch _ ws _ v hws, StdMap.find_modify, if_neg hvw]
    · exact find_syncVideoStreams_of_not_mem g ch n ws objs v hws

/-- The loop gives the first stream of the group it meets the channel `syncChannelFor ch 1`
when it has met none before (`n = 0`), and every other stream of the group `-1`. -/
theorem find_syncVideoStreams_of_mem (g : String) (ch : Option Int) :
    ∀ (n : Nat) (vs : List Ptr) (objs : StdMap Ptr VideoReceiveStream) (v : Ptr), vs.Nodup →
      v ∈ vs → objs.project (·.config.syncGroup) v = some g →
      (syncVideoStreams g ch n vs objs).find v = (objs.find v).map (·.setSyncChannel
        (if n = 0 ∧ vs.find? (fun w => objs.project (·.config.syncGroup) w = some g) = some v
          then syncChannelFor ch 1 else -1))
  | _, [], _, _, _, hv, _ => absurd hv (List.not_mem_nil _)
  | n, w :: ws, objs, v, hnd, hv, hg => by
    obtain ⟨hw, hnd⟩ := List.nodup_cons.1 hnd
    rw [syncVideoStreams]
    split
    · next hwg =>
      rw [List.find?_cons_of_pos _ (by simpa using hwg)]
      by_cases hvw : v = w
      · subst hvw
        rw [find_syncVideoStreams_of_not_mem g ch _ ws _ v hw, StdMap.find_modify, if_pos rfl]
        rcases Nat.eq_zero_or_pos n with rfl | hn
        · simp
        · simp [Nat.pos_iff_ne_zero.1 hn, syncChannelFor_of_ne_one (n := n + 1) (by omega)]
      · have hv' : v ∈ ws := (List.mem_cons.1 hv).resolve_left hvw
        rw [find_syncVideoStreams_of_mem g ch _ ws _ v hnd hv'
          (by simpa (disch := simp) only [StdMap.project_modify] using hg),
          StdMap.find_modify, if_neg hvw]
        simp [Ne.symm hvw]
    · next hwg =>
      have hvw : v ≠ w := by rintro rfl; exact hwg hg
      rw [List.find?_cons_of_neg _ (by simpa using hwg),
        find_syncVideoStreams_of_mem g ch n ws objs v hnd
          ((List.mem_cons.1 hv).resolve_left hvw) hg]

/-! ### `ConfigureSync` on its own group -/

/-- The first live video receive stream of group `g` in `video_receive_streams_` order. -/
def firstSyncedVideoStream (c : Call) (g : String) : Option Ptr :=
  c.videoReceiveStreams.elems.find? fun v => c.videoSyncGroup v = some g

/-- The audio receive stream `sync_stream_mapping_[g]`. -/
def syncAnchor (c : Call) (g : String) : Option AudioReceiveStream :=
  (c.syncStreamMapping.find g).bind c.audioReceives.find

/-- The channel of the last `SetSyncChannel` that the invariant expects at the video stream
`v` of group `g`: the anchor's `voe_channel_id` for the first stream of the group, `-1`
for every other one and for all of them when the group has no anchor. -/
def expectedSyncChannel (c : Call) (g : String) (v : Ptr) : Int :=
  match c.syncAnchor g with
  | some a => if c.firstSyncedVideoStream g = some v then a.config.voeChannelId else -1
  | none => -1

section ConfigureSync

variable {c : Call} {g : String}

theorem configureSync_of_active (hv : c.voiceEngine = true) (hg : g ≠ "") :
    c.configureSync g =
      let syncAudioStream := (c.syncStreamMapping.find g).or (c.findSyncAudioStream g)
      { c with
        syncStreamMapping := match syncAudioStream with
          | some a => c.syncStreamMapping.insert g a
          | none => c.syncStreamMapping
        videoReceives := syncVideoStreams g
          (syncAudioStream.bind fun a => (c.audioReceives.find a).map (·.config.voeChannelId))
          0 c.videoReceiveStreams.elems c.videoReceives } := by
  have hempty : g.isEmpty = false := Bool.eq_false_iff.2 fun h => hg ((String.isEmpty_iff g).1 h)
  have : (!c.voiceEngine || g.isEmpty) = false := by rw [hv, hempty]; rfl
  unfold configureSync
  rw [if_neg (by simp [this])]
  cases c.syncStreamMapping.find g <;> rfl

theorem configureSync_of_inactive (h : ¬(c.voiceEngine = true ∧ g ≠ "")) :
    c.configureSync g = c := by
  have : (!c.voiceEngine || g.isEmpty) = true := by
    by_cases hv : c.voiceEngine = true
    · obtain rfl : g = "" := by simpa [hv] using h
      simp [hv]; rfl
    · simp [hv]
  unfold configureSync
  rw [if_pos this]

/-- `ConfigureSync(g)` leaves every video stream alone unless it is active and the stream is
in `g`. -/
theorem find_videoReceives_configureSync_of_not_active {v : Ptr}
    (h : ¬(c.voiceEngine = true ∧ g ≠ "" ∧ c.videoSyncGroup v = some g)) :
    (c.configureSync g).videoReceives.find v = c.videoReceives.find v := by
  by_cases ha : c.voiceEngine = true ∧ g ≠ ""
  · unfold configureSync; split
    · rfl
    · exact find_syncVideoStreams_of_ne g _ 0 _ _ v fun hv => h ⟨ha.1, ha.2, hv⟩
  · rw [configureSync_of_inactive ha]

/-- `ConfigureSync(g)` keeps the anchor of `g` if there is one and otherwise elects the first
audio receive stream of `g` in `audio_receive_ssrcs_` order. -/
theorem find_syncStreamMapping_configureSync_self (hv : c.voiceEngine = true) (hg : g ≠ "") :
    (c.configureSync g).syncStreamMapping.find g =
      (c.syncStreamMapping.find g).or (c.findSyncAudioStream g) := by
  rw [configureSync_of_active hv hg]
  dsimp only
  cases h : (c.syncStreamMapping.find g).or (c.findSyncAudioStream g) with
  | none => simp only [Option.or_eq_none] at h; exact h.1
  | some a => simp

theorem find_syncStreamMapping_configureSync_of_ne {g' : String} (hg' : g' ≠ g) :
    (c.configureSync g).syncStreamMapping.find g' = c.syncStreamMapping.find g' := by
  unfold configureSync; split
  · rfl
  · dsimp only; split <;> simp [hg']

theorem find_videoReceives_configureSync_of_ne {v : Ptr} (hgv : c.videoSyncGroup v ≠ some g) :
    (c.configureSync g).videoReceives.find v = c.videoReceives.find v := by
  unfold configureSync; split
  · rfl
  · exact find_syncVideoStreams_of_ne g _ 0 _ _ v hgv

@[simp] theorem videoSyncGroup_configureSync (v : Ptr) :
    (c.configureSync g).videoSyncGroup v = c.videoSyncGroup v :=
  project_videoReceives_configureSync c g (·.config.syncGroup) (fun _ _ => rfl) v

@[simp] theorem audioSyncGroup_configureSync (p : Ptr) :
    (c.configureSync g).audioSyncGroup p = c.audioSyncGroup p := by
  simp only [audioSyncGroup, audioReceives_configureSync]

@[simp] theorem firstSyncedVideoStream_configureSync (g' : String) :
    (c.configureSync g).firstSyncedVideoStream g' = c.firstSyncedVideoStream g' := by
  simp only [firstSyncedVideoStream, videoSyncGroup_configureSync,
    videoReceiveStreams_configureSync]

/-- `ConfigureSync(g)` gives every video stream of `g` in `video_receive_streams_` the
channel the invariant expects after it. -/
theorem syncChannel_configureSync (hv : c.voiceEngine = true) (hg : g ≠ "") {v : Ptr}
    (hmem : v ∈ c.videoReceiveStreams) (hgv : c.videoSyncGroup v = some g) :
    (c.configureSync g).videoReceives.find v =
      (c.videoReceives.find v).map (·.setSyncChannel ((c.configureSync g).expectedSyncChannel g v)) := by
  have hfirst := firstSyncedVideoStream_configureSync (c := c) (g := g) g
  have hanchor : (c.configureSync g).syncAnchor g =
      ((c.syncStreamMapping.find g).or (c.findSyncAudioStream g)).bind c.audioReceives.find := by
    rw [syncAnchor, find_syncStreamMapping_configureSync_self hv hg, audioReceives_configureSync]
  rw [expectedSyncChannel, hanchor, hfirst, configureSync_of_active hv hg]
  dsimp only
  rw [find_syncVideoStreams_of_mem g _ 0 _ _ v (StdSet.sorted_elems _).nodup hmem hgv]
  congr 2
  unfold firstSyncedVideoStream videoSyncGroup
  cases (c.syncStreamMapping.find g).or (c.findSyncAudioStream g) with
  | none => simp [syncChannelFor]
  | some a => cases h : c.audioReceives.find a <;> simp [h, syncChannelFor]

end ConfigureSync

/-! ### The invariant -/

/-- The sync invariant of the group `g`. -/
structure GroupInv (c : Call) (g : String) : Prop where
  mapped_iff : (c.syncStreamMapping.find g).isSome ↔ ∃ p, c.audioSyncGroup p = some g
  syncChannel : ∀ v s, c.videoReceives.find v = some s → s.config.syncGroup = g →
    s.syncChannel = some (c.expectedSyncChannel g v)

/-- The sync invariant: every non-empty sync group satisfies `GroupInv`. -/
def SyncInv (c : Call) : Prop := ∀ g, g ≠ "" → c.GroupInv g

section Transfer

variable {c c' : Call} {g : String}

/-- `GroupInv g` reads the entry of `g`, its anchor, whether `g` has an audio stream, the
first video stream of `g` and the channels of the video streams of `g`; a call that keeps
these keeps the invariant of `g`. -/
theorem GroupInv.transfer (h : c.GroupInv g)
    (hmap : (c'.syncStreamMapping.find g).isSome = (c.syncStreamMapping.find g).isSome)
    (hex : (∃ p, c'.audioSyncGroup p = some g) ↔ ∃ p, c.audioSyncGroup p = some g)
    (hanchor : c'.syncAnchor g = c.syncAnchor g)
    (hfirst : c'.firstSyncedVideoStream g = c.firstSyncedVideoStream g)
    (hvideo : ∀ v s, c'.videoReceives.find v = some s → s.config.syncGroup = g →
      ∃ s₀, c.videoReceives.find v = some s₀ ∧ s₀.config.syncGroup = g ∧
        s₀.syncChannel = s.syncChannel) :
    c'.GroupInv g where
  mapped_iff := by rw [hmap, hex]; exact h.mapped_iff
  syncChannel v s hv hg := by
    obtain ⟨s₀, h₀, hg₀, hch⟩ := hvideo v s hv hg
    rw [← hch, h.syncChannel v s₀ h₀ hg₀, expectedSyncChannel, expectedSyncChannel, hanchor,
      hfirst]

/-- The sync data of a video receive stream: its group and its channel. -/
def syncView (s : VideoReceiveStream) : String × Option Int := (s.config.syncGroup, s.syncChannel)

/-- A call that changes none of the sync data keeps the invariant. -/
theorem GroupInv.of_frame (h : c.GroupInv g) (hm : c'.syncStreamMapping = c.syncStreamMapping)
    (ha : c'.audioReceives = c.audioReceives)
    (hv : ∀ v, c'.videoReceives.project syncView v = c.videoReceives.project syncView v)
    (hs : c'.videoReceiveStreams = c.videoReceiveStreams) : c'.GroupInv g := by
  have hgroup : ∀ v, c'.videoSyncGroup v = c.videoSyncGroup v := fun v => by
    have := congrArg (Option.map Prod.fst) (hv v)
    simpa [StdMap.project, Option.map_map, Function.comp_def, syncView] using this
  refine h.transfer (by rw [hm]) (by simp only [audioSyncGroup, ha])
    (by simp only [syncAnchor, hm, ha]) (by simp only [firstSyncedVideoStream, hs, hgroup])
    fun v s hv' hg => ?_
  have hp : c.videoReceives.project syncView v = some (syncView s) := by
    rw [← hv, StdMap.project, hv']; rfl
  obtain ⟨s₀, h₀, he⟩ := (StdMap.project_eq_some _ _ _).1 hp
  simp only [syncView, Prod.mk.injEq] at he
  exact ⟨s₀, h₀, he.1.trans hg, he.2⟩

end Transfer

/-! ### `ConfigureSync` re-establishes the invariant -/

section Reconfigure

variable {c : Call} {g : String}

/-- `ConfigureSync(g)` leaves no other group's data changed. -/
theorem GroupInv.configureSync_of_ne {g' : String} (h : c.GroupInv g') (hg : g' ≠ g) :
    (c.configureSync g).GroupInv g' :=
  h.transfer (by rw [find_syncStreamMapping_configureSync_of_ne hg])
    (by simp only [audioSyncGroup, audioReceives_configureSync])
    (by simp only [syncAnchor, find_syncStreamMapping_configureSync_of_ne hg,
      audioReceives_configureSync])
    (firstSyncedVideoStream_configureSync g')
    fun v s hv hgv => by
      have hne : c.videoSyncGroup v ≠ some g := by
        rw [← videoSyncGroup_configureSync (g := g), videoSyncGroup, StdMap.project, hv]
        simpa [hgv] using hg
      exact ⟨s, by rwa [← find_videoReceives_configureSync_of_ne hne], hgv, rfl⟩

/-- After `ConfigureSync(g)` the entry of `g`, if any, is an audio stream of `g` that counts,
and there is one iff some audio stream of `g` counts, provided that the streams of `g` that
count are indexed, that every indexed stream counts and that the old entry counts. -/
theorem syncStreamMapping_configureSync (hve : c.voiceEngine = true) (hg : g ≠ "")
    (Live : Ptr → Prop)
    (hindexed : ∀ q, Live q → c.audioSyncGroup q = some g → q ∈ c.audioReceiveSsrcs.values)
    (hlive : ∀ q ∈ c.audioReceiveSsrcs.values, Live q)
    (hold : ∀ a, c.syncStreamMapping.find g = some a → Live a ∧ c.audioSyncGroup a = some g) :
    (∀ a, (c.configureSync g).syncStreamMapping.find g = some a →
      Live a ∧ c.audioSyncGroup a = some g) ∧
    (((c.configureSync g).syncStreamMapping.find g).isSome ↔
      ∃ q, Live q ∧ c.audioSyncGroup q = some g) := by
  rw [find_syncStreamMapping_configureSync_self hve hg]
  have anchor : ∀ a, (c.syncStreamMapping.find g).or (c.findSyncAudioStream g) = some a →
      Live a ∧ c.audioSyncGroup a = some g := fun a ha => by
    cases hm : c.syncStreamMapping.find g with
    | some a' => rw [hm, Option.or_some] at ha; cases ha; exact hold _ hm
    | none =>
      rw [hm, Option.none_or] at ha
      obtain ⟨hmem, hga⟩ := findSyncAudioStream_spec c g ha
      exact ⟨hlive a hmem, hga⟩
  refine ⟨anchor, fun h => ?_, fun ⟨q, hq, hgq⟩ => ?_⟩
  · obtain ⟨a, ha⟩ := Option.isSome_iff_exists.1 h
    exact ⟨a, anchor a ha⟩
  · cases hm : c.syncStreamMapping.find g with
    | some => rfl
    | none =>
      rw [Option.none_or]
      exact List.find?_isSome.2 ⟨q, hindexed q hq hgq, by simpa using hgq⟩

/-- After `ConfigureSync(g)` every live video stream of `g` holds the expected channel,
provided that every live video stream is in `video_receive_streams_`. -/
theorem syncChannel_of_configureSync (hve : c.voiceEngine = true) (hg : g ≠ "")
    (hset : ∀ v, (c.videoReceives.find v).isSome → v ∈ c.videoReceiveStreams) :
    ∀ v s, (c.configureSync g).videoReceives.find v = some s → s.config.syncGroup = g →
      s.syncChannel = some ((c.configureSync g).expectedSyncChannel g v) := by
  intro v s hv hgv
  have hgv' : c.videoSyncGroup v = some g := by
    rw [← videoSyncGroup_configureSync (g := g), videoSyncGroup, StdMap.project, hv, ← hgv]; rfl
  have hlive : (c.videoReceives.find v).isSome := by
    rw [← isSome_find_videoReceives_configureSync c g, hv]; rfl
  rw [syncChannel_configureSync hve hg (hset v hlive) hgv'] at hv
  obtain ⟨s₀, -, rfl⟩ := Option.map_eq_some'.1 hv
  rfl

end Reconfigure

/-! ### Every call keeps the invariant -/

section Preservation

variable {c c' : Call}

theorem live_of_audioSyncGroup {q : Ptr} {g : String} (h : c.audioSyncGroup q = some g) :
    (c.audioReceives.find q).isSome :=
  StdMap.isSome_find_of_project h

/-- The anchor of a group is a live audio receive stream. -/
theorem Sound.anchor_live (hs : c.Sound) {g : String} {a : Ptr}
    (h : c.syncStreamMapping.find g = some a) : (c.audioReceives.find a).isSome :=
  live_of_audioSyncGroup (hs.syncStream_find g a h)

theorem exists_live_audioSyncGroup {g : String} :
    (∃ q, (c.audioReceives.find q).isSome ∧ c.audioSyncGroup q = some g) ↔
      ∃ q, c.audioSyncGroup q = some g :=
  ⟨fun ⟨q, _, hq⟩ => ⟨q, hq⟩, fun ⟨q, hq⟩ => ⟨q, live_of_audioSyncGroup hq, hq⟩⟩

theorem syncInv_createAudioReceiveStream {config : AudioReceiveStream.Config} {p : Ptr}
    (hve : c.voiceEngine = true) (hs : c.Sound) (hi : c.SyncInv)
    (hp : c.audioReceives.find p = none) (h : c.createAudioReceiveStream config p = .ok c') :
    c'.SyncInv := by
  obtain ⟨hr, rfl⟩ := createAudioReceiveStream_eq_ok.1 h
  set c₀ : Call := { c with
    audioReceiveSsrcs := c.audioReceiveSsrcs.insert config.rtp.remoteSsrc p
    audioReceives := c.audioReceives.insert p { config } } with hc₀
  have group : ∀ q, c₀.audioSyncGroup q =
      if q = p then some config.syncGroup else c.audioSyncGroup q := fun q => by
    simp [hc₀, audioSyncGroup]
  have anchor_ne : ∀ g a, c.syncStreamMapping.find g = some a → a ≠ p := by
    rintro g a ha rfl
    simpa [hp] using hs.anchor_live ha
  intro g hg
  by_cases hgg : g = config.syncGroup
  · -- the new stream's group: `ConfigureSync` elects its anchor over the grown index
    subst hgg
    have live₀ : ∀ q, (c₀.audioReceives.find q).isSome ↔ q = p ∨ (c.audioReceives.find q).isSome := by
      intro q; by_cases hq : q = p <;> simp [hc₀, hq]
    have indexed : ∀ q, (c₀.audioReceives.find q).isSome →
        c₀.audioSyncGroup q = some config.syncGroup → q ∈ c₀.audioReceiveSsrcs.values := by
      intro q hq _
      rcases (live₀ q).1 hq with rfl | hq
      · exact (StdMap.mem_values_iff _).2 ⟨config.rtp.remoteSsrc, by simp [hc₀]⟩
      · obtain ⟨s, hs'⟩ := Option.isSome_iff_exists.1 hq
        have hk := hs.audioReceive_live q _ (StdMap.project_of_find hs')
        have hne : s.config.rtp.remoteSsrc ≠ config.rtp.remoteSsrc := by
          rintro heq; rw [heq, hr] at hk; cases hk
        exact (StdMap.mem_values_iff _).2 ⟨s.config.rtp.remoteSsrc, by simp [hc₀, hne, hk]⟩
    have live : ∀ q ∈ c₀.audioReceiveSsrcs.values, (c₀.audioReceives.find q).isSome := by
      intro q hq
      obtain ⟨k, hk⟩ := (StdMap.mem_values_iff _).1 hq
      simp only [hc₀, StdMap.find_insert] at hk
      split_ifs at hk
      · cases hk; exact (live₀ _).2 (.inl rfl)
      · exact (live₀ q).2 (.inr (StdMap.isSome_find_of_project (hs.audioReceive_find k q hk)))
    have old : ∀ a, c₀.syncStreamMapping.find config.syncGroup = some a →
        (c₀.audioReceives.find a).isSome ∧ c₀.audioSyncGroup a = some config.syncGroup := by
      intro a ha
      have hga := hs.syncStream_find _ a ha
      rw [group, if_neg (anchor_ne _ a ha)]
      exact ⟨(live₀ a).2 (.inr (live_of_audioSyncGroup hga)), hga⟩
    obtain ⟨-, hmapped⟩ := syncStreamMapping_configureSync (c := c₀) hve hg _ indexed live old
    exact ⟨hmapped.trans (exists_live_audioSyncGroup.trans
        (by simp only [audioSyncGroup_configureSync])),
      syncChannel_of_configureSync hve hg fun v hv => (hs.videoReceiveStreams_mem v).2 hv⟩
  · -- another group: the new stream is not in it and anchors nothing
    have h₀ : c₀.GroupInv g := (hi g hg).transfer rfl
      (by
        have hpg : c.audioSyncGroup p = none := by simp [audioSyncGroup, StdMap.project, hp]
        simp only [group]
        exact exists_congr fun q => by split_ifs with hq <;> simp [Ne.symm hgg, hq, hpg])
      (by
        simp only [syncAnchor]
        cases ha : c.syncStreamMapping.find g with
        | none => rfl
        | some a => simp [hc₀, anchor_ne g a ha])
      rfl fun v s hv hg => ⟨s, hv, hg, rfl⟩
    exact h₀.configureSync_of_ne hgg

/-- Deleting an audio receive stream that is not the anchor of `g` keeps the invariant of
`g` when `g` keeps an audio stream or had none. -/
theorem GroupInv.deleteNonAnchor {g : String} {p : Ptr} (h : c.GroupInv g)
    (hanchor : c.syncStreamMapping.find g ≠ some p)
    (hex : (∃ q, c.audioSyncGroup q = some g) → ∃ q, q ≠ p ∧ c.audioSyncGroup q = some g) :
    (c.deleteAudioReceiveStream p).GroupInv g := by
  have group : ∀ q, (c.deleteAudioReceiveStream p).audioSyncGroup q =
      if q = p then none else c.audioSyncGroup q := fun q => by
    simp [deleteAudioReceiveStream, audioSyncGroup]
  refine h.transfer rfl ⟨fun ⟨q, hq⟩ => ⟨q, ?_⟩, fun hq => ?_⟩ ?_ rfl
    fun v s hv hg => ⟨s, hv, hg, rfl⟩
  · -- an audio stream of `g` after the deletion was one before
    rw [group] at hq; split_ifs at hq; exact hq
  · -- `g` keeps an audio stream other than `p`
    obtain ⟨q, hqp, hq⟩ := hex hq
    exact ⟨q, by rw [group, if_neg hqp, hq]⟩
  · -- the anchor is not `p`, so the deletion leaves it
    simp only [syncAnchor, deleteAudioReceiveStream]
    cases ha : c.syncStreamMapping.find g with
    | none => rfl
    | some a =>
      have hap : a ≠ p := fun hap => hanchor (hap ▸ ha)
      simp [hap]

/-- When `p` anchored `g` and has left the index and the entry of `g`, `ConfigureSync(g)`
followed by the deletion of `p` re-establishes the invariant of `g`. -/
theorem GroupInv.reanchor {g : String} {p : Ptr} (hve : c.voiceEngine = true) (hg : g ≠ "")
    (hmap : c.syncStreamMapping.find g = none)
    (hindexed : ∀ q, q ≠ p → (c.audioReceives.find q).isSome → c.audioSyncGroup q = some g →
      q ∈ c.audioReceiveSsrcs.values)
    (hvalues : ∀ q ∈ c.audioReceiveSsrcs.values, q ≠ p ∧ (c.audioReceives.find q).isSome)
    (hset : ∀ v, (c.videoReceives.find v).isSome → v ∈ c.videoReceiveStreams) :
    ((c.configureSync g).deleteAudioReceiveStream p).GroupInv g := by
  obtain ⟨hanchor, hmapped⟩ := syncStreamMapping_configureSync hve hg
    (fun q => q ≠ p ∧ (c.audioReceives.find q).isSome)
    (fun q hq hgq => hindexed q hq.1 hq.2 hgq) hvalues (by simp [hmap])
  have group : ∀ q, ((c.configureSync g).deleteAudioReceiveStream p).audioSyncGroup q =
      if q = p then none else c.audioSyncGroup q := fun q => by
    simp [deleteAudioReceiveStream, audioSyncGroup]
  constructor
  · -- the new entry exists iff an audio stream other than `p` is left in `g`
    refine hmapped.trans ⟨fun ⟨q, ⟨hqp, _⟩, hq⟩ => ⟨q, by rw [group, if_neg hqp, hq]⟩,
      fun ⟨q, hq⟩ => ?_⟩
    rw [group] at hq
    split_ifs at hq with hqp
    exact ⟨q, ⟨hqp, live_of_audioSyncGroup hq⟩, hq⟩
  · -- `ConfigureSync` gave every video stream the new anchor's channel, which the deletion keeps
    intro v s hv hgv
    rw [syncChannel_of_configureSync hve hg hset v s hv hgv]
    simp only [expectedSyncChannel, syncAnchor, deleteAudioReceiveStream,
      firstSyncedVideoStream, videoSyncGroup]
    cases ha : (c.configureSync g).syncStreamMapping.find g with
    | none => rfl
    | some a => simp [(hanchor a ha).1.1]

theorem syncInv_destroyAudioReceiveStream {p : Ptr} (hve : c.voiceEngine = true)
    (hs : c.Sound) (hi : c.SyncInv) (h : c.destroyAudioReceiveStream p = .ok c') :
    c'.SyncInv := by
  obtain ⟨s, hp, -, rfl⟩ := destroyAudioReceiveStream_eq_ok.1 h
  have hidx : c.audioReceiveSsrcs.find s.config.rtp.remoteSsrc = some p :=
    hs.audioReceive_live p _ (StdMap.project_of_find hp)
  have hgp : c.audioSyncGroup p = some s.config.syncGroup := StdMap.project_of_find hp
  -- the anchor of a group other than `p`'s is not `p`
  have anchor_ne : ∀ g, g ≠ s.config.syncGroup → c.syncStreamMapping.find g ≠ some p :=
    fun g hg ha => hg (Option.some.inj ((hs.syncStream_find g p ha).symm.trans hgp))
  have other : ∀ g, g ≠ s.config.syncGroup →
      (∃ q, c.audioSyncGroup q = some g) → ∃ q, q ≠ p ∧ c.audioSyncGroup q = some g :=
    fun g hg ⟨q, hq⟩ => ⟨q, by rintro rfl; exact hg (Option.some.inj (hq.symm.trans hgp)), hq⟩
  intro g hg
  dsimp only
  split_ifs with hanchor
  · -- `p` anchors its group, for which `ConfigureSync` elects a new anchor
    by_cases hgg : g = s.config.syncGroup
    · subst hgg
      refine GroupInv.reanchor hve hg (by simp) (fun q hqp hq _ => ?_) (fun q hq => ?_)
        fun v hv => (hs.videoReceiveStreams_mem v).2 hv
      · -- another live audio stream keeps its SSRC entry
        obtain ⟨s', hs'⟩ := Option.isSome_iff_exists.1 hq
        have hk := hs.audioReceive_live q _ (StdMap.project_of_find hs')
        have hne : s'.config.rtp.remoteSsrc ≠ s.config.rtp.remoteSsrc := by
          rintro heq; rw [heq, hidx] at hk; exact hqp (Option.some.inj hk).symm
        exact (StdMap.mem_values_iff _).2 ⟨s'.config.rtp.remoteSsrc, by simp [hne, hk]⟩
      · -- the entries left in the index are live streams other than `p`
        obtain ⟨k, hk⟩ := (StdMap.mem_values_iff _).1 hq
        simp only [StdMap.find_erase] at hk
        split_ifs at hk with hkr
        have hq' := hs.audioReceive_find k q hk
        refine ⟨?_, StdMap.isSome_find_of_project hq'⟩
        rintro rfl
        rw [StdMap.project_of_find hp] at hq'
        exact hkr (Option.some.inj hq').symm
    · -- another group keeps its entry and its anchor, which is not `p`
      have h₃ : GroupInv { c with
          audioReceiveSsrcs := c.audioReceiveSsrcs.erase s.config.rtp.remoteSsrc
          syncStreamMapping := c.syncStreamMapping.erase s.config.syncGroup } g :=
        (hi g hg).transfer (by simp [hgg]) Iff.rfl (by simp [syncAnchor, hgg]) rfl
          fun v s hv hg => ⟨s, hv, hg, rfl⟩
      refine (h₃.configureSync_of_ne hgg).deleteNonAnchor ?_ ?_
      · rw [find_syncStreamMapping_configureSync_of_ne hgg]
        simpa [hgg] using anchor_ne g hgg
      · simpa only [audioSyncGroup_configureSync] using other g hgg
  · -- `p` is not the anchor of its group, which keeps its anchor
    have h₀ : GroupInv { c with
        audioReceiveSsrcs := c.audioReceiveSsrcs.erase s.config.rtp.remoteSsrc } g :=
      ⟨(hi g hg).1, (hi g hg).2⟩
    by_cases hgg : g = s.config.syncGroup
    · subst hgg
      refine h₀.deleteNonAnchor hanchor fun _ => ?_
      obtain ⟨a, ha⟩ := Option.isSome_iff_exists.1 ((hi _ hg).mapped_iff.2 ⟨p, hgp⟩)
      exact ⟨a, fun hap => hanchor (hap ▸ ha), hs.syncStream_find _ a ha⟩
    · exact h₀.deleteNonAnchor (anchor_ne g hgg) (other g hgg)

/-- `ConfigureSync(g)` on a state whose audio side is that of a sound state maps `g` iff `g`
has an audio stream. -/
theorem Sound.mapped_iff_configureSync (hs : c.Sound) {c₀ : Call} {g : String}
    (hve : c₀.voiceEngine = true) (hg : g ≠ "") (hm : c₀.syncStreamMapping = c.syncStreamMapping)
    (ha : c₀.audioReceives = c.audioReceives) (hars : c₀.audioReceiveSsrcs = c.audioReceiveSsrcs) :
    ((c₀.configureSync g).syncStreamMapping.find g).isSome ↔
      ∃ q, (c₀.configureSync g).audioSyncGroup q = some g := by
  have group : ∀ q, c₀.audioSyncGroup q = c.audioSyncGroup q := fun q => by
    simp only [audioSyncGroup, ha]
  obtain ⟨-, hmapped⟩ := syncStreamMapping_configureSync hve hg
    (fun q => (c₀.audioReceives.find q).isSome)
    (fun q hq _ => by
      obtain ⟨s, hs'⟩ := Option.isSome_iff_exists.1 hq
      rw [ha] at hs'
      exact hars ▸ (StdMap.mem_values_iff _).2 ⟨_, hs.audioReceive_live q _ (StdMap.project_of_find hs')⟩)
    (fun q hq => by
      obtain ⟨k, hk⟩ := (StdMap.mem_values_iff _).1 (hars ▸ hq)
      exact ha ▸ StdMap.isSome_find_of_project (hs.audioReceive_find k q hk))
    (fun a h => by
      rw [hm] at h
      exact ⟨ha ▸ hs.anchor_live h, (group a).trans (hs.syncStream_find _ a h)⟩)
  simpa only [audioSyncGroup_configureSync, exists_live_audioSyncGroup] using hmapped

theorem firstSyncedVideoStream_deleteVideoReceiveStream {g : String} {p : Ptr}
    (hp : p ∉ c.videoReceiveStreams) :
    (c.deleteVideoReceiveStream p).firstSyncedVideoStream g = c.firstSyncedVideoStream g :=
  List.find?_congr_mem fun v hv => by
    have hvp : v ≠ p := by rintro rfl; exact hp hv
    simp [deleteVideoReceiveStream, videoSyncGroup, hvp]

/-- Deleting a video receive stream that is not in `video_receive_streams_` keeps the
invariant. -/
theorem GroupInv.deleteVideo {g : String} {p : Ptr} (h : c.GroupInv g)
    (hp : p ∉ c.videoReceiveStreams) : (c.deleteVideoReceiveStream p).GroupInv g :=
  h.transfer rfl Iff.rfl rfl (firstSyncedVideoStream_deleteVideoReceiveStream hp)
    fun v s hv hg => by
      simp only [deleteVideoReceiveStream, StdMap.find_erase] at hv
      split_ifs at hv
      exact ⟨s, hv, hg, rfl⟩

theorem syncInv_createVideoReceiveStream {config : VideoReceiveStream.Config} {p : Ptr}
    (hve : c.voiceEngine = true) (hs : c.Sound) (hi : c.SyncInv)
    (hp : c.videoReceives.find p = none) (h : c.createVideoReceiveStream config p = .ok c') :
    c'.SyncInv := by
  obtain ⟨-, rfl⟩ := createVideoReceiveStream_eq_ok.1 h
  intro g hg
  dsimp only
  set c₀ : Call := { c with
    videoReceiveSsrcs := insertReceiveSsrcs c.videoReceiveSsrcs config p
    videoReceiveStreams := c.videoReceiveStreams.insert p
    videoReceives := c.videoReceives.insert p { config } } with hc₀
  suffices h₁ : (c₀.configureSync config.syncGroup).GroupInv g by
    refine h₁.of_frame rfl rfl (fun v => ?_) rfl
    simp (disch := simp [syncView]) only [logEvent, StdMap.project_modify]
  by_cases hgg : g = config.syncGroup
  · -- the new stream's group: `ConfigureSync` recomputes every channel of it
    subst hgg
    refine ⟨hs.mapped_iff_configureSync hve hg rfl rfl rfl,
      syncChannel_of_configureSync hve hg fun v hv => ?_⟩
    by_cases hvp : v = p
    · simp [hc₀, hvp]
    · simp only [hc₀, StdMap.find_insert, if_neg hvp] at hv
      simp [hc₀, hvp, (hs.videoReceiveStreams_mem v).2 hv]
  · -- another group: its first video stream and its channels are unchanged
    have group : ∀ v, c₀.videoSyncGroup v =
        if v = p then some config.syncGroup else c.videoSyncGroup v := fun v => by
      simp [hc₀, videoSyncGroup]
    have hpg : c.videoSyncGroup p = none := by simp [videoSyncGroup, StdMap.project, hp]
    have h₀ : c₀.GroupInv g := (hi g hg).transfer rfl Iff.rfl rfl
      (by
        have hpred : (fun v => decide (c₀.videoSyncGroup v = some g)) =
            fun v => decide (c.videoSyncGroup v = some g) := funext fun v => by
          rw [group]; split_ifs with hvp <;> simp [hvp, hpg, Ne.symm hgg]
        simp only [firstSyncedVideoStream, hpred]
        exact StdSet.find?_elems_insert (P := fun v => c.videoSyncGroup v = some g) (by simp [hpg]) _)
      fun v s hv hgv => by
        simp only [hc₀, StdMap.find_insert] at hv
        split_ifs at hv with hvp
        · cases hv; exact absurd hgv.symm hgg
        · exact ⟨s, hv, hgv, rfl⟩
    exact h₀.configureSync_of_ne hgg

theorem syncInv_destroyVideoReceiveStream {p : Ptr} (hve : c.voiceEngine = true)
    (hs : c.Sound) (hi : c.SyncInv) (h : c.destroyVideoReceiveStream p = .ok c') :
    c'.SyncInv := by
  obtain ⟨-, s, hp, rfl⟩ := destroyVideoReceiveStream_eq_ok.1 h
  intro g hg
  set c₀ : Call := { c with
    videoReceiveSsrcs := c.videoReceiveSsrcs.eraseValue p
    videoReceiveStreams := c.videoReceiveStreams.erase p } with hc₀
  have hnot : p ∉ c₀.videoReceiveStreams := by simp [hc₀]
  have hgp : c.videoSyncGroup p = some s.config.syncGroup := StdMap.project_of_find hp
  by_cases hgg : g = s.config.syncGroup
  · -- the destroyed stream's group: `ConfigureSync` recomputes its channels without it
    subst hgg
    constructor
    · exact hs.mapped_iff_configureSync hve hg rfl rfl rfl
    · intro v s' hv hgv
      have hvp : v ≠ p := by rintro rfl; simp [deleteVideoReceiveStream] at hv
      simp only [deleteVideoReceiveStream, StdMap.find_erase, if_neg hvp] at hv
      have hlive : (c.videoReceives.find v).isSome := by
        rw [← isSome_find_videoReceives_configureSync c₀ s.config.syncGroup, hv]; rfl
      have hmem : v ∈ c₀.videoReceiveStreams := by
        simp [hc₀, hvp, (hs.videoReceiveStreams_mem v).2 hlive]
      have hgv' : c₀.videoSyncGroup v = some s.config.syncGroup := by
        rw [← videoSyncGroup_configureSync (g := s.config.syncGroup), videoSyncGroup,
          StdMap.project, hv, ← hgv]; rfl
      rw [syncChannel_configureSync (c := c₀) hve hg hmem hgv'] at hv
      obtain ⟨s₀, -, rfl⟩ := Option.map_eq_some'.1 hv
      have hnot' : p ∉ (c₀.configureSync s.config.syncGroup).videoReceiveStreams := by
        rwa [videoReceiveStreams_configureSync]
      simp only [expectedSyncChannel, syncAnchor,
        firstSyncedVideoStream_deleteVideoReceiveStream hnot']
      rfl
  · -- another group: the destroyed stream was not in it
    have h₀ : c₀.GroupInv g := (hi g hg).transfer rfl Iff.rfl rfl
      (by
        exact StdSet.find?_elems_erase (P := fun v => c.videoSyncGroup v = some g)
          (by simp [hgp, Ne.symm hgg]) _)
      fun v s hv hg => ⟨s, hv, hg, rfl⟩
    exact (h₀.configureSync_of_ne hgg).deleteVideo (by simp [hnot])

theorem voiceEngine_apply {op : Op} (h : c.apply op = .ok c') : c'.voiceEngine = c.voiceEngine := by
  cases op with
  | createAudioSendStream => obtain ⟨-, rfl⟩ := createAudioSendStream_eq_ok.1 h; rfl
  | destroyAudioSendStream => obtain ⟨_, -, -, rfl⟩ := destroyAudioSendStream_eq_ok.1 h; rfl
  | createAudioReceiveStream =>
    obtain ⟨-, rfl⟩ := createAudioReceiveStream_eq_ok.1 h; exact voiceEngine_configureSync _ _
  | destroyAudioReceiveStream =>
    obtain ⟨_, -, -, rfl⟩ := destroyAudioReceiveStream_eq_ok.1 h
    dsimp only; split_ifs <;> simp [deleteAudioReceiveStream]
  | createVideoSendStream => obtain ⟨-, -, rfl⟩ := createVideoSendStream_eq_ok.1 h; rfl
  | destroyVideoSendStream => obtain ⟨-, rfl⟩ := destroyVideoSendStream_eq_ok.1 h; rfl
  | createVideoReceiveStream =>
    obtain ⟨-, rfl⟩ := createVideoReceiveStream_eq_ok.1 h; exact voiceEngine_configureSync _ _
  | destroyVideoReceiveStream =>
    obtain ⟨-, _, -, rfl⟩ := destroyVideoReceiveStream_eq_ok.1 h; exact voiceEngine_configureSync _ _
  | signalNetworkState => cases h; rfl

theorem syncInv_init (v e : Bool) : (init v e).SyncInv := fun _ _ => by
  constructor <;> simp [init, audioSyncGroup]

/-- Every admissible call that succeeds keeps the sync invariant. The send streams and
`SignalNetworkState` change none of its data. -/
theorem syncInv_apply {op : Op} (hve : c.voiceEngine = true) (hs : c.Sound) (hi : c.SyncInv)
    (hop : op.Admissible c) (h : c.apply op = .ok c') : c'.SyncInv := by
  cases op with
  -- the receive streams change the invariant's data, each by its own lemma
  | createAudioReceiveStream => exact syncInv_createAudioReceiveStream hve hs hi hop h
  | destroyAudioReceiveStream => exact syncInv_destroyAudioReceiveStream hve hs hi h
  | createVideoReceiveStream => exact syncInv_createVideoReceiveStream hve hs hi hop h
  | destroyVideoReceiveStream => exact syncInv_destroyVideoReceiveStream hve hs hi h
  -- the other calls leave it alone
  | createAudioSendStream =>
    obtain ⟨-, rfl⟩ := createAudioSendStream_eq_ok.1 h
    exact fun g hg => (hi g hg).of_frame rfl rfl (fun _ => rfl) rfl
  | destroyAudioSendStream =>
    obtain ⟨_, -, -, rfl⟩ := destroyAudioSendStream_eq_ok.1 h
    exact fun g hg => (hi g hg).of_frame rfl rfl (fun _ => rfl) rfl
  | createVideoSendStream =>
    obtain ⟨-, -, rfl⟩ := createVideoSendStream_eq_ok.1 h
    exact fun g hg => (hi g hg).of_frame rfl rfl (fun _ => rfl) rfl
  | destroyVideoSendStream =>
    obtain ⟨-, rfl⟩ := destroyVideoSendStream_eq_ok.1 h
    exact fun g hg => (hi g hg).of_frame rfl rfl (fun _ => rfl) rfl
  | signalNetworkState =>
    cases h
    exact fun g hg => (hi g hg).of_frame rfl rfl (fun _ => by
      simp (disch := simp [syncView]) only [signalNetworkState, StdMap.project_modifyAll]) rfl

/-- A video stream last given a channel other than `-1` is the first of its group and was
given the channel of the group's live anchor: at most one A/V pair of a group is bound, and
never to a destroyed or non-anchor audio stream. -/
def BoundToAnchor (c : Call) : Prop :=
  ∀ g, g ≠ "" → ∀ v s ch, c.videoReceives.find v = some s → s.config.syncGroup = g →
    s.syncChannel = some ch → ch ≠ -1 →
      c.firstSyncedVideoStream g = some v ∧ ∃ a sa, c.syncStreamMapping.find g = some a ∧
        c.audioReceives.find a = some sa ∧ sa.config.voeChannelId = ch

theorem SyncInv.boundToAnchor (hi : c.SyncInv) : c.BoundToAnchor := by
  intro g hg v s ch hv hgv hch hne
  rw [(hi g hg).syncChannel v s hv hgv, Option.some_inj] at hch
  unfold expectedSyncChannel syncAnchor at hch
  cases ha : c.syncStreamMapping.find g with
  | none => simp [ha] at hch; exact absurd hch.symm hne
  | some a =>
    cases hsa : c.audioReceives.find a with
    | none => simp [ha, hsa] at hch; exact absurd hch.symm hne
    | some sa =>
      simp only [ha, hsa, Option.some_bind] at hch
      split_ifs at hch with hfirst
      · exact ⟨hfirst, a, sa, rfl, hsa, hch⟩
      · exact absurd hch.symm hne

/-- A group with a single live audio receive stream is anchored at it. -/
theorem SyncInv.find_syncStreamMapping_of_unique (hi : c.SyncInv)
    (hmap : ∀ g a, c.syncStreamMapping.find g = some a → c.audioSyncGroup a = some g)
    {g : String} (hg : g ≠ "") {a : Ptr} (ha : c.audioSyncGroup a = some g)
    (huniq : ∀ p, c.audioSyncGroup p = some g → p = a) :
    c.syncStreamMapping.find g = some a := by
  obtain ⟨a', ha'⟩ := Option.isSome_iff_exists.1 ((hi g hg).mapped_iff.2 ⟨a, ha⟩)
  rw [ha', huniq a' (hmap g a' ha')]

/-- In a call whose only live audio receive stream is `a`, every audio stream of a group is
`a`. -/
theorem eq_of_audioSyncGroup {a p : Ptr} {g : String} (hkeys : c.audioReceives.keys = [a])
    (hp : c.audioSyncGroup p = some g) : p = a := by
  simpa [hkeys] using (StdMap.mem_keys_iff _).2 (StdMap.isSome_find_of_project hp)

/-- The channel of a video stream of an anchored group: the anchor's `voe_channel_id` for the
first stream of the group, `-1` for the others. -/
theorem SyncInv.project_syncChannel (hi : c.SyncInv) {g : String} (hg : g ≠ "") {a : Ptr}
    {ch : Int} (hmap : c.syncStreamMapping.find g = some a)
    (ha : c.audioReceives.project (·.config.voeChannelId) a = some ch) {v : Ptr}
    (hv : c.videoSyncGroup v = some g) :
    c.videoReceives.project (·.syncChannel) v =
      some (some (if c.firstSyncedVideoStream g = some v then ch else -1)) := by
  obtain ⟨s, hs, hsg⟩ := (StdMap.project_eq_some ..).1 hv
  obtain ⟨sa, hsa, rfl⟩ := (StdMap.project_eq_some ..).1 ha
  rw [StdMap.project_of_find hs, (hi g hg).syncChannel v s hs hsg, expectedSyncChannel, syncAnchor,
    hmap, Option.some_bind, hsa]

end Preservation

end Call

theorem Reachable.sound_syncInv {c : Call} (h : Reachable Op.Admissible c) :
    c.Sound ∧ (c.voiceEngine = true → c.SyncInv) :=
  h.induction_on (P := fun c => c.Sound ∧ (c.voiceEngine = true → c.SyncInv))
    (fun v e => ⟨Call.sound_init v e, fun _ => Call.syncInv_init v e⟩)
    fun _ _ _ hc hop happ => ⟨Call.sound_apply hc.1 hop happ, fun hve =>
      Call.syncInv_apply ((Call.voiceEngine_apply happ).symm.trans hve) hc.1
        (hc.2 ((Call.voiceEngine_apply happ).symm.trans hve)) hop happ⟩

/-- With a voice engine, after every run of admissible calls every non-empty sync group
satisfies the sync invariant, the entry of a group is a live audio receive stream of that
group, and a bound video stream is the first of its group and bound to the group's anchor. -/
theorem sync_invariant {c : Call} (h : Reachable Op.Admissible c) (hve : c.voiceEngine = true) :
    c.SyncInv ∧ (∀ g a, c.syncStreamMapping.find g = some a → c.audioSyncGroup a = some g) ∧
      c.BoundToAnchor :=
  have hc := h.sound_syncInv
  ⟨hc.2 hve, hc.1.syncStream_find, (hc.2 hve).boundToAnchor⟩

/-- With a voice engine: an audio receive stream of group "av" with channel 7, then two video
receive streams of the group. The audio stream is the group's anchor, the first video stream is
bound to channel 7, and the second holds `-1`. -/
theorem sync_invariant_anchored :
    ∃ c, Reachable Op.Admissible c ∧
      (c.voiceEngine = true ∧ c.audioReceives.keys = [0] ∧
        c.audioReceives.project (·.config.voeChannelId) 0 = some 7 ∧
        c.audioSyncGroup 0 = some "av" ∧ c.videoSyncGroup 1 = some "av" ∧
        c.videoSyncGroup 2 = some "av" ∧ c.firstSyncedVideoStream "av" = some 1) ∧
      (c.SyncInv ∧ (∀ g a, c.syncStreamMapping.find g = some a → c.audioSyncGroup a = some g) ∧
        c.BoundToAnchor) ∧
      c.syncStreamMapping.find "av" = some 0 ∧
      c.videoReceives.project (·.syncChannel) 1 = some (some 7) ∧
      c.videoReceives.project (·.syncChannel) 2 = some (some (-1)) := by
  obtain ⟨c, h, hc⟩ : ∃ c, Reachable Op.Admissible c ∧
      (c.voiceEngine = true ∧ c.audioReceives.keys = [0] ∧
        c.audioReceives.project (·.config.voeChannelId) 0 = some 7 ∧
        c.audioSyncGroup 0 = some "av" ∧ c.videoSyncGroup 1 = some "av" ∧
        c.videoSyncGroup 2 = some "av" ∧ c.firstSyncedVideoStream "av" = some 1) :=
    Reachable.of_runAllowed true false
      [.createAudioReceiveStream ⟨⟨1⟩, 7, "av"⟩ 0, .createVideoReceiveStream ⟨⟨2, ∅⟩, "av"⟩ 1,
        .createVideoReceiveStream ⟨⟨3, ∅⟩, "av"⟩ 2] (by decide)
  obtain ⟨hve, hkeys, hch, hga, hv₁, hv₂, hfirst⟩ := hc
  have hinv := sync_invariant h hve
  -- the audio stream is the only one of the group, so it is the anchor
  have hmap : c.syncStreamMapping.find "av" = some 0 :=
    hinv.1.find_syncStreamMapping_of_unique hinv.2.1 (by decide) hga fun _ =>
      Call.eq_of_audioSyncGroup hkeys
  refine ⟨c, h, ⟨hve, hkeys, hch, hga, hv₁, hv₂, hfirst⟩, hinv, hmap, ?_, ?_⟩
  · rw [hinv.1.project_syncChannel (by decide) hmap hch hv₁, if_pos hfirst]
  · rw [hinv.1.project_syncChannel (by decide) hmap hch hv₂, hfirst, if_neg (by decide)]

end WebRtcCall
