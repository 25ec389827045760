import WebRtcCall.Call.Lifecycle

/-!
# Runs of the configuration thread

The configuration thread drives the call through `Create*`, `Destroy*` and
`SignalNetworkState`. An `Op` is one such call, with the values the environment chooses:
the address `new` returns to a `Create*`, and the snapshot `GetRtpStates()` returns to a
`DestroyVideoSendStream`.

`Op.Admissible` is the caller's side of the contract, which every theorem about runs
assumes: `new` returns an address no live object of that kind has, and a `Destroy*` is
given a stream its `Create*` returned and that is not yet destroyed. A run only goes on
through calls that succeed (`Call.apply … = .ok`), so a `Create*` in a run has passed its
`RTC_DCHECK`s and every call in it has passed its `RTC_CHECK`s.

`Op.WellConfigured` is what `call.cc` does not check but its registry relies on: a video
send configuration names at least one SSRC, and the RTX SSRC of a video receive
configuration is not already indexed. `Op.RtxFresh` is the second half alone, all that
`DeliverPacket` relies on.

`Run Allowed c₀ ops c` says that the calls `ops` lead from `c₀` to `c`, each allowed
where it is made; `Reachable Allowed c` that some run from a freshly constructed call
leads to `c`. Every invariant below is proved once per operation (`*_apply`) and carried
along runs by `Run.induction_on`. A concrete run is checked by evaluating it
(`Call.runAllowed`, `Reachable.of_runAllowed`).
-/

namespace WebRtcCall

/-- A call of the configuration thread. -/
inductive Op
  | createAudioSendStream (config : AudioSendStream.Config) (p : Ptr)
  | destroyAudioSendStream (p : Ptr)
  | createAudioReceiveStream (config : AudioReceiveStream.Config) (p : Ptr)
  | destroyAudioReceiveStream (p : Ptr)
  | createVideoSendStream (config : VideoSendStream.Config) (p : Ptr)
  | destroyVideoSendStream (p : Ptr) (rtpState : RtpStateMap)
  | createVideoReceiveStream (config : VideoReceiveStream.Config) (p : Ptr)
  | destroyVideoReceiveStream (p : Ptr)
  | signalNetworkState (state : NetworkState)

namespace Call

/-- Make the call `op`. -/
def apply (c : Call) : Op → Except String Call
  | .createAudioSendStream config p => c.createAudioSendStream config p
  | .destroyAudioSendStream p => c.destroyAudioSendStream p
  | .createAudioReceiveStream config p => c.createAudioReceiveStream config p
  | .destroyAudioReceiveStream p => c.destroyAudioReceiveStream p
  | .createVideoSendStream config p => c.createVideoSendStream config p
  | .destroyVideoSendStream p rtpState => c.destroyVideoSendStream p rtpState
  | .createVideoReceiveStream config p => c.createVideoReceiveStream config p
  | .destroyVideoReceiveStream p => c.destroyVideoReceiveStream p
  | .signalNetworkState state => .ok (c.signalNetworkState state)

end Call

namespace Op

/-- The caller's contract: fresh addresses for new streams, live streams for `Destroy*`. -/
def Admissible (c : Call) : Op → Prop
  | .createAudioSendStream _ p => c.audioSends.find p = none
  | .destroyAudioSendStream p => (c.audioSends.find p).isSome
  | .createAudioReceiveStream _ p => c.audioReceives.find p = none
  | .destroyAudioReceiveStream p => (c.audioReceives.find p).isSome
  | .createVideoSendStream _ p => c.videoSends.find p = none
  | .destroyVideoSendStream p _ => (c.videoSends.find p).isSome
  | .createVideoReceiveStream _ p => c.videoReceives.find p = none
  | .destroyVideoReceiveStream p => (c.videoReceives.find p).isSome
  | .signalNetworkState _ => True

/-- The configurations `call.cc` relies on without checking them. -/
def WellConfigured (c : Call) : Op → Prop
  | .createVideoSendStream config _ => config.rtp.ssrcs ≠ []
  | .createVideoReceiveStream config _ =>
    ∀ rtx ∈ config.rtxSsrc, c.videoReceiveSsrcs.find rtx = none
  | _ => True

/-- An admissible call with a well-formed configuration. -/
def WellAdmissible (c : Call) (op : Op) : Prop := op.Admissible c ∧ op.WellConfigured c

/-- The RTX SSRC of a new video receive stream is not already indexed. -/
def RtxFresh (c : Call) : Op → Prop
  | .createVideoReceiveStream config _ =>
    ∀ rtx ∈ config.rtxSsrc, c.videoReceiveSsrcs.find rtx = none
  | _ => True

/-- An admissible call whose video receive configuration, if it has one, has a fresh RTX SSRC;
video send configurations may name no SSRC. -/
def RtxAdmissible (c : Call) (op : Op) : Prop := op.Admissible c ∧ op.RtxFresh c

theorem WellAdmissible.rtxAdmissible {c : Call} {op : Op} (h : op.WellAdmissible c) :
    op.RtxAdmissible c :=
  ⟨h.1, by cases op <;> first | exact h.2 | trivial⟩

instance (c : Call) (op : Op) : Decidable (op.Admissible c) :=
  match op with
  | .createAudioSendStream _ p => Option.decidableEqNone (o := c.audioSends.find p)
  | .destroyAudioSendStream _ => instDecidableEqBool _ _
  | .createAudioReceiveStream _ p => Option.decidableEqNone (o := c.audioReceives.find p)
  | .destroyAudioReceiveStream _ => instDecidableEqBool _ _
  | .createVideoSendStream _ p => Option.decidableEqNone (o := c.videoSends.find p)
  | .destroyVideoSendStream _ _ => instDecidableEqBool _ _
  | .createVideoReceiveStream _ p => Option.decidableEqNone (o := c.videoReceives.find p)
  | .destroyVideoReceiveStream _ => instDecidableEqBool _ _
  | .signalNetworkState _ => instDecidableTrue

instance (c : Call) (op : Op) : Decidable (op.WellConfigured c) :=
  match op with
  | .createVideoSendStream config _ => inferInstanceAs (Decidable (config.rtp.ssrcs ≠ []))
  | .createVideoReceiveStream config _ => inferInstanceAs
    (Decidable (∀ rtx ∈ config.rtxSsrc, c.videoReceiveSsrcs.find rtx = none))
  | .createAudioSendStream .. | .destroyAudioSendStream _ | .createAudioReceiveStream ..
  | .destroyAudioReceiveStream _ | .destroyVideoSendStream .. | .destroyVideoReceiveStream _
  | .signalNetworkState _ => instDecidableTrue

instance (c : Call) (op : Op) : Decidable (op.RtxFresh c) :=
  match op with
  | .createVideoReceiveStream config _ => inferInstanceAs
    (Decidable (∀ rtx ∈ config.rtxSsrc, c.videoReceiveSsrcs.find rtx = none))
  | .createAudioSendStream .. | .destroyAudioSendStream _ | .createAudioReceiveStream ..
  | .destroyAudioReceiveStream _ | .createVideoSendStream .. | .destroyVideoSendStream ..
  | .destroyVideoReceiveStream _ | .signalNetworkState _ => instDecidableTrue

instance (c : Call) (op : Op) : Decidable (op.WellAdmissible c) := instDecidableAnd

instance (c : Call) (op : Op) : Decidable (op.RtxAdmissible c) := instDecidableAnd

/-- The `Destroy*` calls. -/
def IsDestroy : Op → Prop
  | .destroyAudioSendStream _ | .destroyAudioReceiveStream _
  | .destroyVideoSendStream _ _ | .destroyVideoReceiveStream _ => True
  | _ => False

end Op

/-- The calls `ops` lead from `c₀` to `c`, each one allowed where it is made and each one
succeeding. -/
inductive Run (Allowed : Call → Op → Prop) (c₀ : Call) : List Op → Call → Prop
  | nil : Run Allowed c₀ [] c₀
  | snoc {ops : List Op} {c c' : Call} {op : Op} :
      Run Allowed c₀ ops c → Allowed c op → c.apply op = .ok c' → Run Allowed c₀ (ops ++ [op]) c'

/-- `c` is the state of some call constructed by `Call::Call` after a run of allowed calls. -/
def Reachable (Allowed : Call → Op → Prop) (c : Call) : Prop :=
  ∃ voiceEngine voeEventLog ops, Run Allowed (Call.init voiceEngine voeEventLog) ops c

namespace Run

variable {Allowed Allowed' : Call → Op → Prop}

/-- An invariant that holds of the initial state and that every allowed, successful call
preserves holds at the end of every run. -/
theorem induction_on {P : Call → Prop} {c₀ c : Call} {ops : List Op}
    (h : Run Allowed c₀ ops c) (h₀ : P c₀)
    (step : ∀ c op c', P c → Allowed c op → c.apply op = .ok c' → P c') : P c := by
  induction h with
  | nil => exact h₀
  | snoc _ hop happ ih => exact step _ _ _ ih hop happ

/-- A run from the state an allowed, successful call leads to extends that call. -/
theorem cons {c₀ c₁ c : Call} {op : Op} {ops : List Op} (hop : Allowed c₀ op)
    (happ : c₀.apply op = .ok c₁) (h : Run Allowed c₁ ops c) : Run Allowed c₀ (op :: ops) c := by
  induction h with
  | nil => exact Run.nil.snoc hop happ
  | snoc _ hop' happ' ih => exact ih.snoc hop' happ'

theorem mono (h : Run Allowed c₀ ops c) (hA : ∀ c op, Allowed c op → Allowed' c op) :
    Run Allowed' c₀ ops c := by
  induction h with
  | nil => exact .nil
  | snoc _ hop happ ih => exact ih.snoc (hA _ _ hop) happ

end Run

theorem Reachable.induction_on {Allowed : Call → Op → Prop} {P : Call → Prop} {c : Call}
    (h : Reachable Allowed c) (h₀ : ∀ v e, P (Call.init v e))
    (step : ∀ c op c', P c → Allowed c op → c.apply op = .ok c' → P c') : P c := by
  obtain ⟨v, e, ops, h⟩ := h
  exact h.induction_on (h₀ v e) step

theorem Reachable.step {Allowed : Call → Op → Prop} {c c' : Call} {op : Op}
    (h : Reachable Allowed c) (hop : Allowed c op) (happ : c.apply op = .ok c') :
    Reachable Allowed c' := by
  obtain ⟨v, e, ops, h⟩ := h
  exact ⟨v, e, _, h.snoc hop happ⟩

theorem Reachable.mono {Allowed Allowed' : Call → Op → Prop} {c : Call}
    (h : Reachable Allowed c) (hA : ∀ c op, Allowed c op → Allowed' c op) : Reachable Allowed' c :=
  let ⟨v, e, ops, h⟩ := h
  ⟨v, e, ops, h.mono hA⟩

/-- A run of well-admissible calls is a run of admissible calls. -/
theorem Reachable.admissible {c : Call} (h : Reachable Op.WellAdmissible c) :
    Reachable Op.Admissible c :=
  h.mono fun _ _ h => h.1

/-! ### Checking a concrete run -/

namespace Call

/-- Make the calls `ops` in turn, each only where `allowed` accepts it: the state after the
last, or `none` as soon as one is not allowed or fails. -/
def runAllowed (allowed : Call → Op → Bool) : Call → List Op → Option Call
  | c, [] => some c
  | c, op :: ops =>
    if allowed c op then
      match c.apply op with
      | .ok c' => runAllowed allowed c' ops
      | .error _ => none
    else none

end Call

section RunAllowed

variable {Allowed : Call → Op → Prop} [∀ c op, Decidable (Allowed c op)]

/-- A run the evaluation accepts is a run. -/
theorem Run.of_runAllowed : ∀ {c₀ c : Call} {ops : List Op},
    Call.runAllowed (fun c op => decide (Allowed c op)) c₀ ops = some c → Run Allowed c₀ ops c
  | _, _, [], h => by cases h; exact .nil
  | c₀, _, op :: ops, h => by
    simp only [Call.runAllowed] at h
    by_cases hop : Allowed c₀ op
    · -- an allowed call that succeeds starts the rest of the run
      rw [if_pos (decide_eq_true hop)] at h
      split at h
      · exact Run.cons hop ‹_› (Run.of_runAllowed h)
      · cases h
    · -- a call that is not allowed stops the evaluation
      rw [if_neg (by simpa using hop)] at h
      cases h

/-- A run from a freshly constructed call that the evaluation accepts, and whose last state it
finds satisfying `P`, reaches a state satisfying `P`. -/
theorem Reachable.of_runAllowed {P : Call → Prop} [DecidablePred P] (v e : Bool) (ops : List Op)
    (h : (Call.runAllowed (fun c op => decide (Allowed c op)) (Call.init v e) ops).map
      (fun c => decide (P c)) = some true) :
    ∃ c, Reachable Allowed c ∧ P c := by
  cases hr : Call.runAllowed (fun c op => decide (Allowed c op)) (Call.init v e) ops with
  | none => simp [hr] at h
  | some c =>
    simp only [hr, Option.map_some', Option.some.injEq, decide_eq_true_eq] at h
    exact ⟨c, ⟨v, e, ops, Run.of_runAllowed hr⟩, h⟩

end RunAllowed

end WebRtcCall
