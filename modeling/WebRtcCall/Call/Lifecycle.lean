import WebRtcCall.Call.State

/-!
# Stream lifecycle and network state

`Call::Create*`, `Call::Destroy*` and `Call::SignalNetworkState`, each split where the
source takes or releases a lock:

* a `Create*` is `new*` (the constructor, outside every lock) followed by `register*`
  (the section under `network_enabled_crit_` and the write lock, including the network
  signal and the event log record);
* a `Destroy*` is `unregister*` (the section under the write lock) followed by
  `delete*`; `DestroyVideoSendStream` merges the stream's `GetRtpStates()` snapshot into
  `suspended_video_send_ssrcs_` in between.

A failed `RTC_CHECK` or `RTC_DCHECK` ends the call with the text of the check
(`Except.error`); every `Create*` that passes its `RTC_DCHECK`s is an `Except.ok`. A
pointer is dereferenced only when the object is live; the dereference of a deleted
object, which the caller's contract excludes, is an error as well.

Each operation comes with its inversion lemma (`*_eq_ok`): what a successful call
requires and the state it leaves.
-/

namespace WebRtcCall

namespace StdMap

variable {κ α : Type} [LinearOrder κ]

/-- `for (k : ks) m[k]->f()`: apply `f` through every pointer of `ks`, in order. -/
def modifyAll (m : StdMap κ α) (ks : List κ) (f : α → α) : StdMap κ α :=
  ks.foldl (fun m k => m.modify k f) m

@[simp] theorem project_modifyAll {β : Type} (m : StdMap κ α) (ks : List κ) {f : α → α}
    (π : α → β) (hπ : ∀ a, π (f a) = π a) (k : κ) :
    (m.modifyAll ks f).project π k = m.project π k := by
  induction ks generalizing m with
  | nil => rfl
  | cons k' ks ih => simp only [modifyAll, List.foldl_cons] at ih ⊢; rw [ih, project_modify _ _ _ _ hπ]

@[simp] theorem isSome_find_modifyAll (m : StdMap κ α) (ks : List κ) (f : α → α) (k : κ) :
    ((m.modifyAll ks f).find k).isSome = (m.find k).isSome := by
  induction ks generalizing m with
  | nil => rfl
  | cons k' ks ih => simp only [modifyAll, List.foldl_cons] at ih ⊢; rw [ih, isSome_find_modify]

end StdMap

theorem except_map_eq_ok {ε α β : Type} {f : α → β} {x : Except ε α} {b : β} :
    x.map f = .ok b ↔ ∃ a, x = .ok a ∧ f a = b := by
  cases x <;> simp [Except.map]

@[simp] theorem except_ok_bind {ε α β : Type} (a : α) (f : α → Except ε β) :
    (Except.ok a >>= f) = f a := rfl

namespace Call

/-- The stand-in result of dereferencing a pointer whose object was deleted. -/
def danglingPointer : String := "use of a deleted stream"

/-- `RTC_CHECK(condition)` or `RTC_DCHECK(condition)`, failing with the text of the
condition. -/
def rtcCheck (condition : Bool) (text : String) : Except String Unit :=
  if condition then .ok () else .error text

theorem rtcCheck_eq_ok {condition : Bool} {text : String} :
    rtcCheck condition text = .ok () ↔ condition = true := by
  cases condition <;> simp [rtcCheck]

theorem rtcCheck_bind_eq_ok {α : Type} {condition : Bool} {text : String}
    {f : Unit → Except String α} {a : α} :
    (rtcCheck condition text >>= f) = .ok a ↔ condition = true ∧ f () = .ok a := by
  cases condition <;> simp [rtcCheck, bind, Except.bind]

/-! ### Audio send streams -/

/-- `new AudioSendStream(config)`, placed at `p`. -/
def newAudioSendStream (c : Call) (config : AudioSendStream.Config) (p : Ptr) : Call :=
  { c with audioSends := c.audioSends.insert p { config } }

/-- The locked section of `Call::CreateAudioSendStream`. -/
def registerAudioSendStream (c : Call) (config : AudioSendStream.Config) (p : Ptr) :
    Except String Call :=
  if c.audioSendSsrcs.find config.rtp.ssrc = none then
    .ok { c with
      audioSendSsrcs := c.audioSendSsrcs.insert config.rtp.ssrc p
      audioSends := c.audioSends.modify p fun s =>
        if c.networkEnabled then s else s.signalNetworkState .kNetworkDown }
  else .error "audio_send_ssrcs_.find(config.rtp.ssrc) == audio_send_ssrcs_.end()"

/-- `Call::CreateAudioSendStream(config)`, `new` returning `p`. -/
def createAudioSendStream (c : Call) (config : AudioSendStream.Config) (p : Ptr) :
    Except String Call :=
  (c.newAudioSendStream config p).registerAudioSendStream config p

/-- The locked section of `Call::DestroyAudioSendStream`: erase `config().rtp.ssrc`. -/
def unregisterAudioSendStream (c : Call) (p : Ptr) : Except String Call :=
  match c.audioSends.find p with
  | none => .error danglingPointer
  | some s =>
    if (c.audioSendSsrcs.find s.config.rtp.ssrc).isSome then
      .ok { c with audioSendSsrcs := c.audioSendSsrcs.erase s.config.rtp.ssrc }
    else .error "num_deleted == 1"

/-- `delete audio_send_stream`. -/
def deleteAudioSendStream (c : Call) (p : Ptr) : Call :=
  { c with audioSends := c.audioSends.erase p }

/-- `Call::DestroyAudioSendStream(send_stream)`. -/
def destroyAudioSendStream (c : Call) (p : Ptr) : Except String Call :=
  (c.unregisterAudioSendStream p).map (·.deleteAudioSendStream p)

/-! ### Audio receive streams -/

/-- `new AudioReceiveStream(…, config, …)`, placed at `p`. -/
def newAudioReceiveStream (c : Call) (config : AudioReceiveStream.Config) (p : Ptr) : Call :=
  { c with audioReceives := c.audioReceives.insert p { config } }

/-- The locked section of `Call::CreateAudioReceiveStream`. -/
def registerAudioReceiveStream (c : Call) (config : AudioReceiveStream.Config) (p : Ptr) :
    Except String Call :=
  if c.audioReceiveSsrcs.find config.rtp.remoteSsrc = none then
    .ok ({ c with audioReceiveSsrcs := c.audioReceiveSsrcs.insert config.rtp.remoteSsrc p }
      |>.configureSync config.syncGroup)
  else .error "audio_receive_ssrcs_.find(config.rtp.remote_ssrc) == audio_receive_ssrcs_.end()"

/-- `Call::CreateAudioReceiveStream(config)`, `new` returning `p`. -/
def createAudioReceiveStream (c : Call) (config : AudioReceiveStream.Config) (p : Ptr) :
    Except String Call :=
  (c.newAudioReceiveStream config p).registerAudioReceiveStream config p

/-- The locked section of `Call::DestroyAudioReceiveStream`: erase `config().rtp.remote_ssrc`
and, when the stream is the anchor of its sync group, the group's entry, then resolve the
group again. -/
def unregisterAudioReceiveStream (c : Call) (p : Ptr) : Except String Call :=
  match c.audioReceives.find p with
  | none => .error danglingPointer
  | some s =>
    if (c.audioReceiveSsrcs.find s.config.rtp.remoteSsrc).isSome then
      let c := { c with audioReceiveSsrcs := c.audioReceiveSsrcs.erase s.config.rtp.remoteSsrc }
      .ok <| if c.syncStreamMapping.find s.config.syncGroup = some p then
          ({ c with syncStreamMapping := c.syncStreamMapping.erase s.config.syncGroup }
            |>.configureSync s.config.syncGroup)
        else c
    else .error "num_deleted == 1"

/-- `delete audio_receive_stream`. -/
def deleteAudioReceiveStream (c : Call) (p : Ptr) : Call :=
  { c with audioReceives := c.audioReceives.erase p }

/-- `Call::DestroyAudioReceiveStream(receive_stream)`. -/
def destroyAudioReceiveStream (c : Call) (p : Ptr) : Except String Call :=
  (c.unregisterAudioReceiveStream p).map (·.deleteAudioReceiveStream p)

/-! ### Video send streams -/

/-- `new VideoSendStream(…, config, encoder_config, suspended_video_send_ssrcs_)`, placed
at `p`. -/
def newVideoSendStream (c : Call) (config : VideoSendStream.Config) (p : Ptr) : Call :=
  { c with videoSends := c.videoSends.insert p { config, suspendedSsrcs := c.suspendedVideoSendSsrcs } }

/-- The loop `for (uint32_t ssrc : config.rtp.ssrcs)` of `CreateVideoSendStream`. -/
def insertSendSsrcs (p : Ptr) : List Ssrc → StdMap Ssrc Ptr → Except String (StdMap Ssrc Ptr)
  | [], m => .ok m
  | ssrc :: ssrcs, m =>
    if m.find ssrc = none then insertSendSsrcs p ssrcs (m.insert ssrc p)
    else .error "video_send_ssrcs_.find(ssrc) == video_send_ssrcs_.end()"

/-- When the SSRC loop of `CreateVideoSendStream` succeeds, the SSRCs were distinct and
none was indexed, and each of them is now indexed at `p`. -/
theorem insertSendSsrcs_eq_ok {p : Ptr} :
    ∀ {ssrcs : List Ssrc} {m m' : StdMap Ssrc Ptr}, insertSendSsrcs p ssrcs m = .ok m' →
      ssrcs.Nodup ∧ (∀ k ∈ ssrcs, m.find k = none) ∧ m' = ssrcs.foldl (fun m k => m.insert k p) m
  | [], m, m', h => by cases h; simp
  | k :: ks, m, m', h => by
    rw [insertSendSsrcs] at h
    split at h
    · -- `k` was not indexed; the rest of the loop, which finds `k` indexed, passed too
      next hk =>
      obtain ⟨hnd, hks, rfl⟩ := insertSendSsrcs_eq_ok h
      refine ⟨List.nodup_cons.2 ⟨fun hm => by simpa using hks k hm, hnd⟩, ?_, rfl⟩
      rintro j (_ | ⟨_, hj⟩)
      · exact hk
      · have := hks j hj; rw [StdMap.find_insert] at this; split_ifs at this; exact this
    · -- `k` was indexed: the `RTC_DCHECK` fails
      cases h

theorem insertSendSsrcs_of_fresh {p : Ptr} :
    ∀ {ssrcs : List Ssrc} {m : StdMap Ssrc Ptr}, ssrcs.Nodup → (∀ k ∈ ssrcs, m.find k = none) →
      insertSendSsrcs p ssrcs m = .ok (ssrcs.foldl (fun m k => m.insert k p) m)
  | [], _, _, _ => rfl
  | k :: ks, m, hnd, hks => by
    rw [insertSendSsrcs, if_pos (hks k (.head _))]
    refine insertSendSsrcs_of_fresh (List.nodup_cons.1 hnd).2 fun j hj => ?_
    rw [StdMap.find_insert, if_neg fun (h : j = k) => (List.nodup_cons.1 hnd).1 (h ▸ hj)]
    exact hks j (.tail _ hj)

theorem find_foldl_insert (p : Ptr) :
    ∀ (ssrcs : List Ssrc) (m : StdMap Ssrc Ptr) (k : Ssrc),
      (ssrcs.foldl (fun m k => m.insert k p) m).find k = if k ∈ ssrcs then some p else m.find k
  | [], _, _ => by simp
  | j :: js, m, k => by
    rw [List.foldl_cons, find_foldl_insert p js, StdMap.find_insert]
    by_cases h₁ : k ∈ js <;> by_cases h₂ : k = j <;> simp [h₁, h₂]

/-- The locked section of `Call::CreateVideoSendStream`. -/
def registerVideoSendStream (c : Call) (config : VideoSendStream.Config) (p : Ptr) :
    Except String Call :=
  (insertSendSsrcs p config.rtp.ssrcs c.videoSendSsrcs).map fun ssrcs =>
    { c with
      videoSendSsrcs := ssrcs
      videoSendStreams := c.videoSendStreams.insert p
      videoSends := c.videoSends.modify p fun s =>
        if c.networkEnabled then s else s.signalNetworkState .kNetworkDown }
    |>.logEvent (.videoSendStreamConfig config)

/-- `Call::CreateVideoSendStream(config, encoder_config)`, `new` returning `p`. -/
def createVideoSendStream (c : Call) (config : VideoSendStream.Config) (p : Ptr) :
    Except String Call :=
  (c.newVideoSendStream config p).registerVideoSendStream config p

/-- The locked section of `Call::DestroyVideoSendStream`: the loop erasing every SSRC that
points at the stream, and the erase from `video_send_streams_`. `send_stream_impl` is set
exactly when some entry pointed at the stream; otherwise nothing is erased and
`RTC_CHECK(send_stream_impl != nullptr)` fails. -/
def unregisterVideoSendStream (c : Call) (p : Ptr) : Except String Call :=
  if p ∈ c.videoSendSsrcs.values then
    .ok { c with
      videoSendSsrcs := c.videoSendSsrcs.eraseValue p
      videoSendStreams := c.videoSendStreams.erase p }
  else .error "send_stream_impl != nullptr"

/-- The loop copying `GetRtpStates()` into `suspended_video_send_ssrcs_`. -/
def mergeRtpStates (suspended rtpState : RtpStateMap) : RtpStateMap :=
  rtpState.entries.foldl (fun m e => m.insert e.1 e.2) suspended

/-- `delete send_stream_impl`. -/
def deleteVideoSendStream (c : Call) (p : Ptr) : Call :=
  { c with videoSends := c.videoSends.erase p }

/-- `Call::DestroyVideoSendStream(send_stream)`; `rtpState` is what the stream's
`GetRtpStates()` returned. -/
def destroyVideoSendStream (c : Call) (p : Ptr) (rtpState : RtpStateMap) : Except String Call :=
  (c.unregisterVideoSendStream p).map fun c =>
    { c with suspendedVideoSendSsrcs := mergeRtpStates c.suspendedVideoSendSsrcs rtpState }
    |>.deleteVideoSendStream p

/-! ### Video receive streams -/

/-- `new VideoReceiveStream(…, config, …)`, placed at `p`. -/
def newVideoReceiveStream (c : Call) (config : VideoReceiveStream.Config) (p : Ptr) : Call :=
  { c with videoReceives := c.videoReceives.insert p { config } }

/-- `video_receive_ssrcs_` after `CreateVideoReceiveStream` indexed `p` at `remote_ssrc`
and at the SSRC of the first RTX entry. -/
def insertReceiveSsrcs (m : StdMap Ssrc Ptr) (config : VideoReceiveStream.Config) (p : Ptr) :
    StdMap Ssrc Ptr :=
  let m := m.insert config.rtp.remoteSsrc p
  match config.rtxSsrc with
  | some rtx => m.insert rtx p
  | none => m

theorem find_insertReceiveSsrcs (m : StdMap Ssrc Ptr) (config : VideoReceiveStream.Config)
    (p : Ptr) (k : Ssrc) : (insertReceiveSsrcs m config p).find k =
      if k = config.rtp.remoteSsrc ∨ k ∈ config.rtxSsrc then some p else m.find k := by
  unfold insertReceiveSsrcs
  split <;> simp_all only [StdMap.find_insert, Option.mem_def, reduceCtorEq, or_false]
  split_ifs <;> simp_all

/-- The locked section of `Call::CreateVideoReceiveStream`. -/
def registerVideoReceiveStream (c : Call) (config : VideoReceiveStream.Config) (p : Ptr) :
    Except String Call :=
  if c.videoReceiveSsrcs.find config.rtp.remoteSsrc = none then
    let c := { c with
      videoReceiveSsrcs := insertReceiveSsrcs c.videoReceiveSsrcs config p
      videoReceiveStreams := c.videoReceiveStreams.insert p } |>.configureSync config.syncGroup
    .ok <| { c with
      videoReceives := c.videoReceives.modify p fun s =>
        if c.networkEnabled then s else s.signalNetworkState .kNetworkDown }
      |>.logEvent (.videoReceiveStreamConfig config)
  else
    .error "video_receive_ssrcs_.find(config.rtp.remote_ssrc) == video_receive_ssrcs_.end()"

/-- `Call::CreateVideoReceiveStream(config)`, `new` returning `p`. -/
def createVideoReceiveStream (c : Call) (config : VideoReceiveStream.Config) (p : Ptr) :
    Except String Call :=
  (c.newVideoReceiveStream config p).registerVideoReceiveStream config p

/-- The locked section of `Call::DestroyVideoReceiveStream`: erase every SSRC pointing at
the stream and the stream from the set, check that some SSRC did, and resolve the
stream's sync group again. -/
def unregisterVideoReceiveStream (c : Call) (p : Ptr) : Except String Call :=
  if p ∈ c.videoReceiveSsrcs.values then
    match c.videoReceives.find p with
    | none => .error danglingPointer
    | some s =>
      .ok ({ c with
        videoReceiveSsrcs := c.videoReceiveSsrcs.eraseValue p
        videoReceiveStreams := c.videoReceiveStreams.erase p }
        |>.configureSync s.config.syncGroup)
  else .error "receive_stream_impl != nullptr"

/-- `delete receive_stream_impl`. -/
def deleteVideoReceiveStream (c : Call) (p : Ptr) : Call :=
  { c with videoReceives := c.videoReceives.erase p }

/-- `Call::DestroyVideoReceiveStream(receive_stream)`. -/
def destroyVideoReceiveStream (c : Call) (p : Ptr) : Except String Call :=
  (c.unregisterVideoReceiveStream p).map (·.deleteVideoReceiveStream p)

/-! ### Network state -/

/-- `Call::SignalNetworkState(state)`: record the state, then signal it through every entry
of `audio_send_ssrcs_`, `video_send_ssrcs_` and `video_receive_ssrcs_`. -/
def signalNetworkState (c : Call) (state : NetworkState) : Call :=
  { c with
    networkEnabled := decide (state = .kNetworkUp)
    audioSends := c.audioSends.modifyAll c.audioSendSsrcs.values (·.signalNetworkState state)
    videoSends := c.videoSends.modifyAll c.videoSendSsrcs.values (·.signalNetworkState state)
    videoReceives :=
      c.videoReceives.modifyAll c.videoReceiveSsrcs.values (·.signalNetworkState state) }

/-! ### Inversion lemmas

What a successful call requires and the state it leaves, stated once so that the
invariants below never unfold an operation again. -/

section Inversion

variable {c c' : Call} {p : Ptr}

theorem createAudioSendStream_eq_ok {config : AudioSendStream.Config} :
    c.createAudioSendStream config p = .ok c' ↔
      c.audioSendSsrcs.find config.rtp.ssrc = none ∧
      c' = { c with
        audioSendSsrcs := c.audioSendSsrcs.insert config.rtp.ssrc p
        audioSends := (c.audioSends.insert p { config }).modify p fun s =>
          if c.networkEnabled then s else s.signalNetworkState .kNetworkDown } := by
  simp only [createAudioSendStream, registerAudioSendStream, newAudioSendStream]
  split
  · next h => simp only [h, Except.ok.injEq, true_and]; exact eq_comm
  · next h => simp [h]

theorem destroyAudioSendStream_eq_ok :
    c.destroyAudioSendStream p = .ok c' ↔
      ∃ s, c.audioSends.find p = some s ∧ (c.audioSendSsrcs.find s.config.rtp.ssrc).isSome ∧
        c' = { c with
          audioSendSsrcs := c.audioSendSsrcs.erase s.config.rtp.ssrc
          audioSends := c.audioSends.erase p } := by
  simp only [destroyAudioSendStream, except_map_eq_ok, unregisterAudioSendStream]
  cases hp : c.audioSends.find p with
  | none => simp
  | some s =>
    by_cases hk : (c.audioSendSsrcs.find s.config.rtp.ssrc).isSome
    · simp only [hk, if_true, Except.ok.injEq, exists_eq_left', Option.some.injEq,
        exists_eq_left, true_and, deleteAudioSendStream]
      exact eq_comm
    · simp [hk]

theorem createAudioReceiveStream_eq_ok {config : AudioReceiveStream.Config} :
    c.createAudioReceiveStream config p = .ok c' ↔
      c.audioReceiveSsrcs.find config.rtp.remoteSsrc = none ∧
      c' = ({ c with
        audioReceiveSsrcs := c.audioReceiveSsrcs.insert config.rtp.remoteSsrc p
        audioReceives := c.audioReceives.insert p { config } }).configureSync config.syncGroup := by
  simp only [createAudioReceiveStream, registerAudioReceiveStream, newAudioReceiveStream]
  split
  · next h => simp only [h, Except.ok.injEq, true_and]; exact eq_comm
  · next h => simp [h]

theorem destroyAudioReceiveStream_eq_ok :
    c.destroyAudioReceiveStream p = .ok c' ↔
      ∃ s, c.audioReceives.find p = some s ∧
        (c.audioReceiveSsrcs.find s.config.rtp.remoteSsrc).isSome ∧
        c' = (let c := { c with
            audioReceiveSsrcs := c.audioReceiveSsrcs.erase s.config.rtp.remoteSsrc }
          if c.syncStreamMapping.find s.config.syncGroup = some p then
            ({ c with syncStreamMapping := c.syncStreamMapping.erase s.config.syncGroup }
              |>.configureSync s.config.syncGroup)
          else c).deleteAudioReceiveStream p := by
  simp only [destroyAudioReceiveStream, except_map_eq_ok, unregisterAudioReceiveStream]
  cases hp : c.audioReceives.find p with
  | none => simp
  | some s =>
    by_cases hk : (c.audioReceiveSsrcs.find s.config.rtp.remoteSsrc).isSome
    · simp only [hk, if_true, Except.ok.injEq, exists_eq_left', Option.some.injEq,
        exists_eq_left, true_and]
      exact eq_comm
    · simp [hk]

theorem createVideoSendStream_eq_ok {config : VideoSendStream.Config} :
    c.createVideoSendStream config p = .ok c' ↔
      config.rtp.ssrcs.Nodup ∧ (∀ k ∈ config.rtp.ssrcs, c.videoSendSsrcs.find k = none) ∧
      c' = ({ c with
        videoSendSsrcs := config.rtp.ssrcs.foldl (fun m k => m.insert k p) c.videoSendSsrcs
        videoSendStreams := c.videoSendStreams.insert p
        videoSends := (c.videoSends.insert p
            { config, suspendedSsrcs := c.suspendedVideoSendSsrcs }).modify p fun s =>
          if c.networkEnabled then s else s.signalNetworkState .kNetworkDown }
        |>.logEvent (.videoSendStreamConfig config)) := by
  simp only [createVideoSendStream, registerVideoSendStream, except_map_eq_ok]
  constructor
  · rintro ⟨m, hm, rfl⟩
    obtain ⟨hnd, hks, rfl⟩ := insertSendSsrcs_eq_ok hm
    exact ⟨hnd, hks, rfl⟩
  · rintro ⟨hnd, hks, rfl⟩
    exact ⟨_, insertSendSsrcs_of_fresh hnd hks, rfl⟩

theorem destroyVideoSendStream_eq_ok {rtpState : RtpStateMap} :
    c.destroyVideoSendStream p rtpState = .ok c' ↔
      p ∈ c.videoSendSsrcs.values ∧
      c' = { c with
        videoSendSsrcs := c.videoSendSsrcs.eraseValue p
        videoSendStreams := c.videoSendStreams.erase p
        suspendedVideoSendSsrcs := mergeRtpStates c.suspendedVideoSendSsrcs rtpState
        videoSends := c.videoSends.erase p } := by
  simp only [destroyVideoSendStream, except_map_eq_ok, unregisterVideoSendStream]
  split
  · next h => simp only [h, Except.ok.injEq, exists_eq_left', true_and, deleteVideoSendStream]
              exact eq_comm
  · next h => simp [h]

theorem createVideoReceiveStream_eq_ok {config : VideoReceiveStream.Config} :
    c.createVideoReceiveStream config p = .ok c' ↔
      c.videoReceiveSsrcs.find config.rtp.remoteSsrc = none ∧
      c' = (let c := ({ c with
            videoReceiveSsrcs := insertReceiveSsrcs c.videoReceiveSsrcs config p
            videoReceiveStreams := c.videoReceiveStreams.insert p
            videoReceives := c.videoReceives.insert p { config } }).configureSync config.syncGroup
        { c with
          videoReceives := c.videoReceives.modify p fun s =>
            if c.networkEnabled then s else s.signalNetworkState .kNetworkDown }
        |>.logEvent (.videoReceiveStreamConfig config)) := by
  simp only [createVideoReceiveStream, registerVideoReceiveStream, newVideoReceiveStream]
  split
  · next h => simp only [h, Except.ok.injEq, true_and]; exact eq_comm
  · next h => simp [h]

theorem destroyVideoReceiveStream_eq_ok :
    c.destroyVideoReceiveStream p = .ok c' ↔
      p ∈ c.videoReceiveSsrcs.values ∧ ∃ s, c.videoReceives.find p = some s ∧
        c' = (({ c with
          videoReceiveSsrcs := c.videoReceiveSsrcs.eraseValue p
          videoReceiveStreams := c.videoReceiveStreams.erase p }).configureSync
            s.config.syncGroup).deleteVideoReceiveStream p := by
  simp only [destroyVideoReceiveStream, except_map_eq_ok, unregisterVideoReceiveStream]
  by_cases hv : p ∈ c.videoReceiveSsrcs.values
  · cases hp : c.videoReceives.find p with
    | none => simp [hv]
    | some s =>
      simp only [hv, if_true, Except.ok.injEq, exists_eq_left', Option.some.injEq,
        exists_eq_left, true_and]
      exact eq_comm
  · simp [hv]

end Inversion

end Call

end WebRtcCall
