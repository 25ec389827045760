import WebRtcCall.Call.Types

/-!
# The state of `internal::Call`

The fields of `internal::Call` that the stream registry, the sync resolver, the network
broadcaster and the packet router read and write, followed by the stream objects the
registry points at. The objects are owned by the client that created them; they are part
of the state so that the calls `call.cc` makes on them (`SignalNetworkState`,
`SetSyncChannel`) and the objects `delete` releases are observable.

`event_log_` is either absent (`none`) or the list of records written to it so far.

`Call.init` is the constructor `Call::Call(config)` as far as the registry goes:
`network_enabled_` starts `true`, every container starts empty, and the event log is
the voice engine's, so there is none without a voice engine.
-/

namespace WebRtcCall

/-- The registry of `internal::Call` and the stream objects it points at. -/
structure Call where
  /-- `config_.voice_engine != nullptr`. -/
  voiceEngine : Bool
  /-- `event_log_`: `none` when it is `nullptr`, else the records written so far. -/
  eventLog : Option (List RtcEvent)
  networkEnabled : Bool
  audioReceiveSsrcs : StdMap Ssrc Ptr
  videoReceiveSsrcs : StdMap Ssrc Ptr
  videoReceiveStreams : StdSet Ptr
  syncStreamMapping : StdMap String Ptr
  audioSendSsrcs : StdMap Ssrc Ptr
  videoSendSsrcs : StdMap Ssrc Ptr
  videoSendStreams : StdSet Ptr
  suspendedVideoSendSsrcs : RtpStateMap
  /-- The live `AudioSendStream` objects, by address. -/
  audioSends : StdMap Ptr AudioSendStream
  /-- The live `AudioReceiveStream` objects, by address. -/
  audioReceives : StdMap Ptr AudioReceiveStream
  /-- The live `VideoSendStream` objects, by address. -/
  videoSends : StdMap Ptr VideoSendStream
  /-- The live `VideoReceiveStream` objects, by address. -/
  videoReceives : StdMap Ptr VideoReceiveStream

namespace Call

/-- `Call::Call(config)`: `voiceEngine` says whether `config.voice_engine` is set, and
`voeEventLog` whether its `VoECodec` hands out an event log. -/
def init (voiceEngine voeEventLog : Bool) : Call where
  voiceEngine := voiceEngine
  eventLog := if voiceEngine && voeEventLog then some [] else none
  networkEnabled := true
  audioReceiveSsrcs := ∅
  videoReceiveSsrcs := ∅
  videoReceiveStreams := ∅
  syncStreamMapping := ∅
  audioSendSsrcs := ∅
  videoSendSsrcs := ∅
  videoSendStreams := ∅
  suspendedVideoSendSsrcs := ∅
  audioSends := ∅
  audioReceives := ∅
  videoSends := ∅
  videoReceives := ∅

/-- `event_log_->Log…(…)`, a no-op when there is no event log. -/
def logEvent (c : Call) (e : RtcEvent) : Call :=
  { c with eventLog := c.eventLog.map (· ++ [e]) }

/-! ### `ConfigureSync` -/

/-- `config().sync_group` of the audio receive stream at `p`. -/
def audioSyncGroup (c : Call) (p : Ptr) : Option String :=
  c.audioReceives.project (·.config.syncGroup) p

/-- `config().sync_group` of the video receive stream at `p`. -/
def videoSyncGroup (c : Call) (p : Ptr) : Option String :=
  c.videoReceives.project (·.config.syncGroup) p

/-- The scan of `audio_receive_ssrcs_` in `ConfigureSync`: the first stream, in SSRC
order, whose sync group is `syncGroup`. The loop logs a warning and breaks at a second
one, which does not change the stream it found. -/
def findSyncAudioStream (c : Call) (syncGroup : String) : Option Ptr :=
  c.audioReceiveSsrcs.values.find? fun p => c.audioSyncGroup p = some syncGroup

/-- The channel the loop of `ConfigureSync` gives the `numSyncedStreams`-th stream of the
group: the audio stream's `voe_channel_id` to the first one, `-1` to every other one and
to all of them when the group has no audio stream. -/
def syncChannelFor (channel : Option Int) (numSyncedStreams : Nat) : Int :=
  match channel with
  | some ch => if numSyncedStreams = 1 then ch else -1
  | none => -1

/-- The loop of `ConfigureSync` over `video_receive_streams_`. `numSyncedStreams` counts
the streams of the group met so far. -/
def syncVideoStreams (syncGroup : String) (channel : Option Int) :
    Nat → List Ptr → StdMap Ptr VideoReceiveStream → StdMap Ptr VideoReceiveStream
  | _, [], objs => objs
  | numSyncedStreams, v :: vs, objs =>
    if objs.project (·.config.syncGroup) v = some syncGroup then
      syncVideoStreams syncGroup channel (numSyncedStreams + 1) vs
        (objs.modify v (·.setSyncChannel (syncChannelFor channel (numSyncedStreams + 1))))
    else syncVideoStreams syncGroup channel numSyncedStreams vs objs

/-- `Call::ConfigureSync(sync_group)`. -/
def configureSync (c : Call) (syncGroup : String) : Call :=
  if !c.voiceEngine || syncGroup.isEmpty then c
  else
    let syncAudioStream : Option Ptr :=
      match c.syncStreamMapping.find syncGroup with
      | some p => some p
      | none => c.findSyncAudioStream syncGroup
    let channel := syncAudioStream.bind fun a =>
      (c.audioReceives.find a).map (·.config.voeChannelId)
    { c with
      syncStreamMapping := match syncAudioStream with
        | some a => c.syncStreamMapping.insert syncGroup a
        | none => c.syncStreamMapping
      videoReceives :=
        syncVideoStreams syncGroup channel 0 c.videoReceiveStreams.elems c.videoReceives }

/-! ### Frame lemmas for `ConfigureSync` -/

section Frame

variable (c : Call) (g : String)

@[simp] theorem voiceEngine_configureSync : (c.configureSync g).voiceEngine = c.voiceEngine := by
  unfold configureSync; split <;> rfl

@[simp] theorem eventLog_configureSync : (c.configureSync g).eventLog = c.eventLog := by
  unfold configureSync; split <;> rfl

@[simp] theorem audioReceiveSsrcs_configureSync : (c.configureSync g).audioReceiveSsrcs = c.audioReceiveSsrcs := by
  unfold configureSync; split <;> rfl

@[simp] theorem videoReceiveSsrcs_configureSync : (c.configureSync g).videoReceiveSsrcs = c.videoReceiveSsrcs := by
  unfold configureSync; split <;> rfl

@[simp] theorem videoReceiveStreams_configureSync : (c.configureSync g).videoReceiveStreams = c.videoReceiveStreams := by
  unfold configureSync; split <;> rfl

@[simp] theorem audioSendSsrcs_configureSync : (c.configureSync g).audioSendSsrcs = c.audioSendSsrcs := by
  unfold configureSync; split <;> rfl

@[simp] theorem videoSendSsrcs_configureSync : (c.configureSync g).videoSendSsrcs = c.videoSendSsrcs := by
  unfold configureSync; split <;> rfl

@[simp] theorem videoSendStreams_configureSync : (c.configureSync g).videoSendStreams = c.videoSendStreams := by
  unfold configureSync; split <;> rfl

@[simp] theorem suspendedVideoSendSsrcs_configureSync : (c.configureSync g).suspendedVideoSendSsrcs = c.suspendedVideoSendSsrcs := by
  unfold configureSync; split <;> rfl

@[simp] theorem audioSends_configureSync : (c.configureSync g).audioSends = c.audioSends := by
  unfold configureSync; split <;> rfl

@[simp] theorem audioReceives_configureSync : (c.configureSync g).audioReceives = c.audioReceives := by
  unfold configureSync; split <;> rfl

@[simp] theorem videoSends_configureSync : (c.configureSync g).videoSends = c.videoSends := by
  unfold configureSync; split <;> rfl

/-- The video loop changes nothing that `SetSyncChannel` leaves alone. -/
@[simp] theorem project_syncVideoStreams {β : Type} (π : VideoReceiveStream → β)
    (hπ : ∀ s ch, π (s.setSyncChannel ch) = π s) (g : String) (ch : Option Int) :
    ∀ (n : Nat) (vs : List Ptr) (objs : StdMap Ptr VideoReceiveStream) (p : Ptr),
      (syncVideoStreams g ch n vs objs).project π p = objs.project π p
  | _, [], _, _ => rfl
  | n, v :: vs, objs, p => by
    rw [syncVideoStreams]
    split
    · rw [project_syncVideoStreams π hπ, StdMap.project_modify _ _ _ _ fun s => hπ s _]
    · exact project_syncVideoStreams π hπ g ch n vs objs p

@[simp] theorem isSome_find_syncVideoStreams (g : String) (ch : Option Int) (n : Nat)
    (vs : List Ptr) (objs : StdMap Ptr VideoReceiveStream) (p : Ptr) :
    ((syncVideoStreams g ch n vs objs).find p).isSome = (objs.find p).isSome := by
  rw [← StdMap.isSome_project _ (fun _ => ()), ← StdMap.isSome_project objs (fun _ => ()),
    project_syncVideoStreams (fun _ => ()) (fun _ _ => rfl)]

/-- A stream outside the group keeps its `syncChannel`. -/
theorem find_syncVideoStreams_of_ne (g : String) (ch : Option Int) :
    ∀ (n : Nat) (vs : List Ptr) (objs : StdMap Ptr VideoReceiveStream) (p : Ptr),
      objs.project (·.config.syncGroup) p ≠ some g →
      (syncVideoStreams g ch n vs objs).find p = objs.find p
  | _, [], _, _, _ => rfl
  | n, v :: vs, objs, p, hp => by
    rw [syncVideoStreams]
    split
    · next hv =>
      have hpv : p ≠ v := by rintro rfl; exact hp hv
      rw [find_syncVideoStreams_of_ne g ch _ vs _ p (by simpa using hp), StdMap.find_modify,
        if_neg hpv]
    · exact find_syncVideoStreams_of_ne g ch n vs objs p hp

@[simp] theorem project_videoReceives_configureSync {β : Type} (π : VideoReceiveStream → β)
    (hπ : ∀ s ch, π (s.setSyncChannel ch) = π s) (p : Ptr) :
    (c.configureSync g).videoReceives.project π p = c.videoReceives.project π p := by
  unfold configureSync; split
  · rfl
  · exact project_syncVideoStreams π hπ g _ 0 _ _ p

@[simp] theorem isSome_find_videoReceives_configureSync (p : Ptr) :
    ((c.configureSync g).videoReceives.find p).isSome = (c.videoReceives.find p).isSome := by
  rw [← StdMap.isSome_project _ (fun _ => ()), ← StdMap.isSome_project c.videoReceives (fun _ => ()),
    project_videoReceives_configureSync _ _ (fun _ => ()) (fun _ _ => rfl)]

/-- The audio stream `ConfigureSync` finds is indexed and in the group. -/
theorem findSyncAudioStream_spec {a : Ptr} (h : c.findSyncAudioStream g = some a) :
    a ∈ c.audioReceiveSsrcs.values ∧ c.audioSyncGroup a = some g := by
  have := List.find?_some h
  exact ⟨List.mem_of_find?_eq_some h, by simpa using this⟩

/-- `ConfigureSync` changes the entry of its own group only, to the stream it found. -/
theorem find_syncStreamMapping_configureSync {g' : String} {a : Ptr}
    (h : (c.configureSync g).syncStreamMapping.find g' = some a) :
    c.syncStreamMapping.find g' = some a ∨ (g' = g ∧ c.findSyncAudioStream g = some a) := by
  unfold configureSync at h; split at h
  · exact .inl h
  · dsimp only at h
    split at h
    · next a' ha' =>
      rw [StdMap.find_insert] at h
      split_ifs at h with hg
      · cases h; subst hg
        split at ha'
        · exact .inl (by simp_all)
        · exact .inr ⟨rfl, ha'⟩
      · exact .inl h
    · exact .inl h

end Frame

end Call

end WebRtcCall
