import WebRtcCall.Call.Invariant

/-!
# Tearing a call down

`Call::~Call()` checks with `RTC_CHECK` that the client destroyed every stream it created:
the six containers of the registry must be empty (`Call.destruct`). What the client owns are
the stream objects, and the registry only indexes them, so the two facts below say that the
destructor checks the client's side of the contract, and that the client can always keep it:

* `destruct_eq_ok_iff`: in every state reachable by admissible calls, the checks of `~Call`
  pass exactly when no stream object is live;
* `destroy_all_streams`: from every state reachable by the calls `call.cc` relies on,
  destroying the live streams one at a time, in any order, passes every `RTC_CHECK` of the
  `Destroy*` calls and leaves a call whose destructor's checks pass.

The second rests on what one `Destroy*` does to the live streams
(`live_apply_of_destroyed`): it releases its own stream and no other.
-/

namespace WebRtcCall

/-- A stream object of a call, by kind and address. -/
inductive StreamRef
  | audioSend (p : Ptr)
  | audioReceive (p : Ptr)
  | videoSend (p : Ptr)
  | videoReceive (p : Ptr)
  deriving DecidableEq, Repr

/-- The stream object is live in `c`: created and not yet deleted. -/
def StreamRef.live (c : Call) : StreamRef → Bool
  | .audioSend p => (c.audioSends.find p).isSome
  | .audioReceive p => (c.audioReceives.find p).isSome
  | .videoSend p => (c.videoSends.find p).isSome
  | .videoReceive p => (c.videoReceives.find p).isSome

/-- The stream a `Destroy*` call is given. -/
def Op.destroyed : Op → Option StreamRef
  | .destroyAudioSendStream p => some (.audioSend p)
  | .destroyAudioReceiveStream p => some (.audioReceive p)
  | .destroyVideoSendStream p _ => some (.videoSend p)
  | .destroyVideoReceiveStream p => some (.videoReceive p)
  | _ => none

/-- A `Destroy*` may be called exactly on a live stream. -/
theorem Op.admissible_iff_live {c : Call} {op : Op} {r : StreamRef}
    (hr : op.destroyed = some r) : op.Admissible c ↔ r.live c = true := by
  cases op <;> cases hr <;> exact Iff.rfl

namespace Call

/-- `Call::~Call()`: the `RTC_CHECK`s that every container of the registry is empty. -/
def destruct (c : Call) : Except String Unit := do
  rtcCheck c.audioSendSsrcs.entries.isEmpty "audio_send_ssrcs_.empty()"
  rtcCheck c.videoSendSsrcs.entries.isEmpty "video_send_ssrcs_.empty()"
  rtcCheck c.videoSendStreams.elems.isEmpty "video_send_streams_.empty()"
  rtcCheck c.audioReceiveSsrcs.entries.isEmpty "audio_receive_ssrcs_.empty()"
  rtcCheck c.videoReceiveSsrcs.entries.isEmpty "video_receive_ssrcs_.empty()"
  rtcCheck c.videoReceiveStreams.elems.isEmpty "video_receive_streams_.empty()"

/-- The checks of `~Call` pass iff the six containers are empty. -/
theorem destruct_eq_ok (c : Call) :
    c.destruct = .ok () ↔
      (∀ k, c.audioSendSsrcs.find k = none) ∧ (∀ k, c.videoSendSsrcs.find k = none) ∧
      (∀ p, p ∉ c.videoSendStreams) ∧ (∀ k, c.audioReceiveSsrcs.find k = none) ∧
      (∀ k, c.videoReceiveSsrcs.find k = none) ∧ (∀ p, p ∉ c.videoReceiveStreams) := by
  simp only [destruct, rtcCheck_bind_eq_ok, rtcCheck_eq_ok, List.isEmpty_iff,
    StdMap.entries_eq_nil_iff, StdSet.elems_eq_nil_iff]

/-- In a sound registry the checks of `~Call` pass iff no stream object is live: every entry
of a container is a live stream, and every live stream is in a container. -/
theorem destruct_eq_ok_of_sound {c : Call} (hs : c.Sound) :
    c.destruct = .ok () ↔ ∀ r : StreamRef, r.live c = false := by
  rw [destruct_eq_ok]
  constructor
  · -- a live stream would be an entry of one of the containers
    rintro ⟨has, -, hvs, har, -, hvr⟩ r
    cases r with
    | audioSend p =>
      cases hp : c.audioSends.find p with
      | none => simp [StreamRef.live, hp]
      | some s =>
        have := hs.audioSend_live p _ (StdMap.project_of_find hp)
        rw [has] at this; cases this
    | audioReceive p =>
      cases hp : c.audioReceives.find p with
      | none => simp [StreamRef.live, hp]
      | some s =>
        have := hs.audioReceive_live p _ (StdMap.project_of_find hp)
        rw [har] at this; cases this
    | videoSend p => exact Bool.eq_false_iff.2 fun h => hvs p ((hs.videoSendStreams_mem p).2 h)
    | videoReceive p =>
      exact Bool.eq_false_iff.2 fun h => hvr p ((hs.videoReceiveStreams_mem p).2 h)
  · intro h
    -- an entry of a container would be a live stream
    have hlive : ∀ {α β : Type} (m : StdMap Ptr α) (π : α → β) (p : Ptr) (b : β),
        m.project π p = some b → (m.find p).isSome :=
      fun _ _ _ _ => StdMap.isSome_find_of_project
    refine ⟨fun k => ?_, fun k => ?_, fun p hp => ?_, fun k => ?_, fun k => ?_, fun p hp => ?_⟩
    · cases hk : c.audioSendSsrcs.find k with
      | none => rfl
      | some p =>
        simpa [StreamRef.live, hlive _ _ _ _ (hs.audioSend_find k p hk)] using h (.audioSend p)
    · cases hk : c.videoSendSsrcs.find k with
      | none => rfl
      | some p =>
        obtain ⟨_, hcfg, -⟩ := hs.videoSend_find k p hk
        simpa [StreamRef.live, hlive _ _ _ _ hcfg] using h (.videoSend p)
    · simpa [StreamRef.live, (hs.videoSendStreams_mem p).1 hp] using h (.videoSend p)
    · cases hk : c.audioReceiveSsrcs.find k with
      | none => rfl
      | some p =>
        simpa [StreamRef.live, hlive _ _ _ _ (hs.audioReceive_find k p hk)] using
          h (.audioReceive p)
    · cases hk : c.videoReceiveSsrcs.find k with
      | none => rfl
      | some p =>
        obtain ⟨_, hcfg, -⟩ := hs.videoReceive_find k p hk
        simpa [StreamRef.live, hlive _ _ _ _ hcfg] using h (.videoReceive p)
    · simpa [StreamRef.live, (hs.videoReceiveStreams_mem p).1 hp] using h (.videoReceive p)

/-- One `Destroy*` releases its own stream and leaves every other stream live or not as it
was. -/
theorem live_apply_of_destroyed {c c' : Call} {op : Op} {r : StreamRef}
    (hr : op.destroyed = some r) (h : c.apply op = .ok c') (r' : StreamRef) :
    r'.live c' = true ↔ r'.live c = true ∧ r' ≠ r := by
  -- each `Destroy*` erases its own stream's object and no other
  cases op <;> cases hr
  case destroyAudioSendStream p =>
    obtain ⟨_, -, -, rfl⟩ := destroyAudioSendStream_eq_ok.1 h
    cases r' <;> simp [StreamRef.live, StdMap.find_erase, apply_ite, and_comm]
  case destroyAudioReceiveStream p =>
    obtain ⟨_, -, -, rfl⟩ := destroyAudioReceiveStream_eq_ok.1 h
    -- re-electing the group's anchor, if it was one, deletes no stream object
    cases r' <;> dsimp only <;> split_ifs <;>
      simp [StreamRef.live, deleteAudioReceiveStream, StdMap.find_erase, apply_ite, and_comm]
  case destroyVideoSendStream p _ =>
    obtain ⟨-, rfl⟩ := destroyVideoSendStream_eq_ok.1 h
    cases r' <;> simp [StreamRef.live, StdMap.find_erase, apply_ite, and_comm]
  case destroyVideoReceiveStream p =>
    obtain ⟨-, _, -, rfl⟩ := destroyVideoReceiveStream_eq_ok.1 h
    cases r' <;>
      simp [StreamRef.live, deleteVideoReceiveStream, StdMap.find_erase, apply_ite, and_comm]

end Call

/-- **`~Call` checks that no stream is live.** In every state reachable by admissible calls,
the `RTC_CHECK`s of `Call::~Call()` that its six containers are empty pass exactly when the
client has deleted every stream object it created. -/
theorem destruct_eq_ok_iff {c : Call} (h : Reachable Op.Admissible c) :
    c.destruct = .ok () ↔ ∀ r : StreamRef, r.live c = false :=
  Call.destruct_eq_ok_of_sound h.sound

/-- The outcome of a call, compared by constructor and payload, so that which check of a call
fails can be decided. -/
instance instDecidableEqExcept {ε α : Type} [DecidableEq ε] [DecidableEq α] :
    DecidableEq (Except ε α)
  | .error a, .error b => decidable_of_iff (a = b) (by simp)
  | .ok a, .ok b => decidable_of_iff (a = b) (by simp)
  | .error _, .ok _ => isFalse nofun
  | .ok _, .error _ => isFalse nofun

/-- A call holding an audio send stream and a video receive stream with an RTX SSRC fails the
first check of `~Call`. -/
theorem destruct_eq_ok_iff_two_streams :
    ∃ c, Reachable Op.Admissible c ∧
      ((StreamRef.audioSend 0).live c = true ∧ (StreamRef.videoReceive 1).live c = true ∧
        c.destruct = .error "audio_send_ssrcs_.empty()") ∧
      (c.destruct = .ok () ↔ ∀ r : StreamRef, r.live c = false) := by
  obtain ⟨c, h, hc⟩ : ∃ c, Reachable Op.Admissible c ∧
      ((StreamRef.audioSend 0).live c = true ∧ (StreamRef.videoReceive 1).live c = true ∧
        c.destruct = .error "audio_send_ssrcs_.empty()") :=
    Reachable.of_runAllowed true true [.createAudioSendStream ⟨⟨1⟩⟩ 0,
      .createVideoReceiveStream ⟨⟨2, (∅ : StdMap Int _).insert 96 ⟨3, 97⟩⟩, ""⟩ 1] (by decide)
  exact ⟨c, h, hc, destruct_eq_ok_iff h⟩

/-- **Any teardown order works.** From every state reachable by the calls `call.cc` relies on,
a sequence of `Destroy*` calls that names every live stream exactly once, in any order, is a
run of well-admissible calls, each passing its `RTC_CHECK`s, and it ends in a call whose
destructor's `RTC_CHECK`s pass. -/
theorem destroy_all_streams {c : Call} (h : Reachable Op.WellAdmissible c) {ops : List Op}
    (hdestroy : ∀ op ∈ ops, (op.destroyed).isSome)
    (hnodup : (ops.filterMap Op.destroyed).Nodup)
    (hall : ∀ r, r ∈ ops.filterMap Op.destroyed ↔ r.live c = true) :
    ∃ c', Run Op.WellAdmissible c ops c' ∧ c'.destruct = .ok () := by
  induction ops generalizing c with
  | nil =>
    -- no stream is live, so the destructor's checks pass
    refine ⟨c, .nil, (Call.destruct_eq_ok_of_sound h.admissible.sound).2 fun r => ?_⟩
    simpa using (hall r).not
  | cons op ops ih =>
    -- the first call destroys a live stream and passes its checks; the rest name the others
    obtain ⟨r, hr⟩ := Option.isSome_iff_exists.1 (hdestroy op (.head _))
    rw [List.filterMap_cons_some hr] at hnodup hall
    obtain ⟨hr_tail, hnodup⟩ := List.nodup_cons.1 hnodup
    have hop : op.WellAdmissible c :=
      ⟨(Op.admissible_iff_live hr).2 ((hall r).1 (.head _)),
        by cases op <;> cases hr <;> trivial⟩
    have hd : op.IsDestroy := by cases op <;> cases hr <;> trivial
    obtain ⟨c₁, happ⟩ :=
      Call.destroysSucceed_of_complete h.admissible.sound h.complete op hd hop.1
    obtain ⟨c', hrun, hc'⟩ := ih (h.step hop happ) (fun op' h' => hdestroy op' (.tail _ h'))
      hnodup fun r' => by
        rw [Call.live_apply_of_destroyed hr happ r', ← hall r', List.mem_cons]
        exact ⟨fun h' => ⟨.inr h', fun e => hr_tail (e ▸ h')⟩,
          fun ⟨h', hne⟩ => h'.resolve_left hne⟩
    exact ⟨c', hrun.cons hop happ, hc'⟩

/-- A call with an audio send stream, a video send stream and a video receive stream with an
RTX SSRC, created in that order, is torn down by destroying them in another order. -/
theorem destroy_all_streams_out_of_order :
    ∃ c, Reachable Op.WellAdmissible c ∧
      (c.audioSends.keys = [0] ∧ c.audioReceives.keys = [] ∧ c.videoSends.keys = [1] ∧
        c.videoReceives.keys = [2] ∧ c.videoReceiveSsrcs.keys = [3, 4]) ∧
      ∃ c', Run Op.WellAdmissible c
          [.destroyVideoSendStream 1 ∅, .destroyVideoReceiveStream 2, .destroyAudioSendStream 0]
          c' ∧ c'.destruct = .ok () := by
  obtain ⟨c, h, hc⟩ : ∃ c, Reachable Op.WellAdmissible c ∧
      (c.audioSends.keys = [0] ∧ c.audioReceives.keys = [] ∧ c.videoSends.keys = [1] ∧
        c.videoReceives.keys = [2] ∧ c.videoReceiveSsrcs.keys = [3, 4]) :=
    Reachable.of_runAllowed true true [.createAudioSendStream ⟨⟨1⟩⟩ 0,
      .createVideoSendStream ⟨⟨[2]⟩⟩ 1,
      .createVideoReceiveStream ⟨⟨3, (∅ : StdMap Int _).insert 96 ⟨4, 97⟩⟩, ""⟩ 2] (by decide)
  refine ⟨c, h, hc, destroy_all_streams h (by decide) (by decide) fun r => ?_⟩
  obtain ⟨has, har, hvs, hvr, -⟩ := hc
  -- the live streams are the keys of the four stream maps
  cases r <;> simp [Op.destroyed, StreamRef.live, ← StdMap.mem_keys_iff, has, har, hvs, hvr]

end WebRtcCall
