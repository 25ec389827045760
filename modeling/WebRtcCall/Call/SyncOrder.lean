import WebRtcCall.Call.Sync

/-!
# The order of `ConfigureSync` calls

Every `Create*` and `Destroy*` of a receive stream calls `ConfigureSync` for the stream's sync
group. Whatever the state of the call, a group configured twice is configured once
(`configureSync_idempotent`), and two groups configured in either order give the same call
(`configureSync_comm`). So the registry and the stream objects after a series of
`ConfigureSync` calls depend only on the set of groups configured, not on the order or on how
often.

Both rest on what one call does, said at every key (`find_syncStreamMapping_configureSync_eq`,
`find_videoReceives_configureSync_eq`): it elects the anchor of its own group and gives the
video streams of that group their channels, and the channel a stream gets depends only on the
anchor, the audio streams and the streams of the group, which no `ConfigureSync` of another
group changes.
-/

namespace WebRtcCall

namespace Call

/-- Everything of a call that `ConfigureSync` does not write. -/
def syncFrame (c : Call) : Call := { c with syncStreamMapping := ∅, videoReceives := ∅ }

/-- Two calls with the same frame are equal once `sync_stream_mapping_` and the video receive
stream objects agree at every key. -/
theorem ext_syncFrame {c c' : Call} (h : c.syncFrame = c'.syncFrame)
    (hm : ∀ g, c.syncStreamMapping.find g = c'.syncStreamMapping.find g)
    (hv : ∀ v, c.videoReceives.find v = c'.videoReceives.find v) : c = c' := by
  obtain ⟨⟩ := c; obtain ⟨⟩ := c'
  cases h
  congr 1
  exacts [StdMap.ext_find hm, StdMap.ext_find hv]

variable (c : Call) (g : String)

@[simp] theorem syncFrame_configureSync : (c.configureSync g).syncFrame = c.syncFrame := by
  unfold configureSync; split <;> rfl

@[simp] theorem findSyncAudioStream_configureSync (g' : String) :
    (c.configureSync g).findSyncAudioStream g' = c.findSyncAudioStream g' := by
  simp only [findSyncAudioStream, audioReceiveSsrcs_configureSync, audioSyncGroup_configureSync]

/-- `ConfigureSync(g)` runs its body: there is a voice engine and `g` is not empty. -/
def SyncGroupActive (c : Call) (g : String) : Prop := c.voiceEngine = true ∧ g ≠ ""

instance : Decidable (c.SyncGroupActive g) := inferInstanceAs (Decidable (_ ∧ _))

@[simp] theorem syncGroupActive_configureSync (g' : String) :
    (c.configureSync g).SyncGroupActive g' ↔ c.SyncGroupActive g' := by
  simp only [SyncGroupActive, voiceEngine_configureSync]

/-- The entry `ConfigureSync(g)` leaves at each group: the anchor it elects at `g`, the old
entry elsewhere. -/
theorem find_syncStreamMapping_configureSync_eq (g' : String) :
    (c.configureSync g).syncStreamMapping.find g' =
      if c.SyncGroupActive g ∧ g' = g then (c.syncStreamMapping.find g).or (c.findSyncAudioStream g)
      else c.syncStreamMapping.find g' := by
  by_cases hg' : g' = g
  · subst hg'
    by_cases ha : c.SyncGroupActive g'
    · rw [if_pos ⟨ha, rfl⟩, find_syncStreamMapping_configureSync_self ha.1 ha.2]
    · rw [if_neg (ha ·.1), configureSync_of_inactive ha]
  · rw [if_neg (hg' ·.2), find_syncStreamMapping_configureSync_of_ne hg']

/-- The video receive stream object `ConfigureSync(g)` leaves at each address: a stream of `g`
in `video_receive_streams_` with the channel the invariant expects, every other one as it
was. -/
theorem find_videoReceives_configureSync_eq (v : Ptr) :
    (c.configureSync g).videoReceives.find v =
      if c.SyncGroupActive g ∧ v ∈ c.videoReceiveStreams ∧ c.videoSyncGroup v = some g then
        (c.videoReceives.find v).map (·.setSyncChannel ((c.configureSync g).expectedSyncChannel g v))
      else c.videoReceives.find v := by
  by_cases ha : c.SyncGroupActive g
  swap; · rw [if_neg (ha ·.1), configureSync_of_inactive ha]
  by_cases hgv : c.videoSyncGroup v = some g
  swap; · rw [if_neg (hgv ·.2.2), find_videoReceives_configureSync_of_ne hgv]
  by_cases hmem : v ∈ c.videoReceiveStreams
  · rw [if_pos ⟨ha, hmem, hgv⟩, syncChannel_configureSync ha.1 ha.2 hmem hgv]
  · rw [if_neg (hmem ·.2.1), configureSync_of_active ha.1 ha.2]
    exact find_syncVideoStreams_of_not_mem g _ 0 _ _ v hmem

/-- The channel the invariant expects reads only the entry of the group, the audio streams and
the first video stream of the group. -/
theorem expectedSyncChannel_congr {c c' : Call} {g : String} (v : Ptr)
    (hm : c'.syncStreamMapping.find g = c.syncStreamMapping.find g)
    (ha : c'.audioReceives = c.audioReceives)
    (hf : c'.firstSyncedVideoStream g = c.firstSyncedVideoStream g) :
    c'.expectedSyncChannel g v = c.expectedSyncChannel g v := by
  simp only [expectedSyncChannel, syncAnchor, hm, ha, hf]

end Call

theorem VideoReceiveStream.setSyncChannel_setSyncChannel (s : VideoReceiveStream) (ch ch' : Int) :
    (s.setSyncChannel ch).setSyncChannel ch' = s.setSyncChannel ch' := rfl

/-- **`ConfigureSync` is idempotent.** For every call and every sync group, configuring the
group a second time changes nothing: the anchor it elected stays elected, and every video
stream of the group already holds the channel it would be given. -/
theorem configureSync_idempotent (c : Call) (g : String) :
    (c.configureSync g).configureSync g = c.configureSync g := by
  have hm : ∀ g', ((c.configureSync g).configureSync g).syncStreamMapping.find g' =
      (c.configureSync g).syncStreamMapping.find g' := fun g' => by
    simp only [Call.find_syncStreamMapping_configureSync_eq, Call.syncGroupActive_configureSync,
      Call.findSyncAudioStream_configureSync]
    by_cases h : c.SyncGroupActive g ∧ g' = g
    · simp only [if_pos h, if_pos (And.intro h.1 trivial), Option.or_assoc, Option.or_self]
    · simp only [if_neg h]
  refine Call.ext_syncFrame (by simp) hm fun v => ?_
  rw [Call.find_videoReceives_configureSync_eq (c.configureSync g),
    Call.find_videoReceives_configureSync_eq c]
  simp only [Call.syncGroupActive_configureSync, Call.videoReceiveStreams_configureSync,
    Call.videoSyncGroup_configureSync]
  split_ifs
  · rw [Option.map_map]
    congr 2
    funext s
    rw [Function.comp_apply, VideoReceiveStream.setSyncChannel_setSyncChannel,
      Call.expectedSyncChannel_congr v (hm g) (by simp) (by simp)]
  · rfl

/-- **`ConfigureSync` of two groups commute.** For every call and every two sync groups,
configuring them in either order gives the same call: each elects the anchor of its own group
and sets the channels of its own streams from data the other does not write. -/
theorem configureSync_comm (c : Call) (g g' : String) :
    (c.configureSync g).configureSync g' = (c.configureSync g').configureSync g := by
  by_cases hgg : g = g'
  · rw [hgg]
  -- the entry of a group is the one its own `ConfigureSync` leaves, in either order
  have hself : ∀ {g g'}, g ≠ g' → ((c.configureSync g').configureSync g).syncStreamMapping.find g =
      (c.configureSync g).syncStreamMapping.find g := fun hne => by
    simp [Call.find_syncStreamMapping_configureSync_eq _ _ _, hne]
  have hm : ∀ h, ((c.configureSync g).configureSync g').syncStreamMapping.find h =
      ((c.configureSync g').configureSync g).syncStreamMapping.find h := fun h => by
    by_cases hg : h = g
    · subst hg
      rw [Call.find_syncStreamMapping_configureSync_of_ne hgg, hself hgg]
    by_cases hg' : h = g'
    · subst hg'
      rw [hself (Ne.symm hgg), Call.find_syncStreamMapping_configureSync_of_ne (Ne.symm hgg)]
    simp only [Call.find_syncStreamMapping_configureSync_of_ne hg,
      Call.find_syncStreamMapping_configureSync_of_ne hg']
  refine Call.ext_syncFrame (by simp) hm fun v => ?_
  simp only [Call.find_videoReceives_configureSync_eq, Call.syncGroupActive_configureSync,
    Call.videoReceiveStreams_configureSync, Call.videoSyncGroup_configureSync]
  -- a stream is in at most one of the two groups
  by_cases hv : c.videoSyncGroup v = some g
  · have hv' : c.videoSyncGroup v ≠ some g' := by rw [hv]; simpa using hgg
    simp only [hv', and_false, if_false]
    split_ifs
    · rw [Call.expectedSyncChannel_congr v (hself hgg) (by simp) (by simp)]
    · rfl
  · simp only [hv, and_false, if_false]
    split_ifs
    · rw [Call.expectedSyncChannel_congr v (hself (Ne.symm hgg)) (by simp) (by simp)]
    · rfl

end WebRtcCall
