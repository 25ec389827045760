import Mathlib.Logic.Relation
import WebRtcCall.Call.Deliver

/-!
# The network thread and the configuration thread

`internal::Call` is used by two threads at once: the configuration thread runs
`Create*`, `Destroy*` and `SignalNetworkState`, and the network thread runs `DeliverPacket`
and `GetStats`. Both share the registry, guarded by the reader/writer locks
`receive_crit_` and `send_crit_` (`RwLock`). Each call is split where it takes or releases
a lock, and a `System` step is one thread running one of these pieces:

* a `Create*` or `Destroy*` is the part before the lock (`Op.alloc`, the `new`), taking the
  write lock of `Op.lock`, the locked section (`Op.locked`), releasing the lock, and the part
  after it (`Op.free`, the `delete`); for a `Create*` the last part and for a `Destroy*` the
  first part do nothing, and the pieces compose to the sequential call (`Op.apply_eq`);
* `SignalNetworkState` sets `network_enabled_` and then signals the send streams under the
  read lock of `send_crit_` and the video receive streams under that of `receive_crit_`;
* on the network thread a call is a list of sections (`NetOp.sections`), each a read lock and
  the lookup made under it; the lookup runs when the lock is taken, and the streams it found
  are called one step at a time before the lock is released.

`network_thread_safe` is the law the locks are for: in every reachable state, every stream the
network thread has looked up and not yet called is in the container it was looked up in and
has not been deleted. The configuration thread's state is always a stage of an operation run
from a state the sequential model reaches (`CfgPc.Stage`), so the containers hold live
streams only (`NetSafe`); a locked section changes only the containers of its own lock
(`held_apply_of_lock_ne`), which the network thread cannot be reading; and the lookups of
`DeliverPacket` are those of the sequential model (`calls_deliverPacket`).
-/

namespace WebRtcCall

/-- `receive_crit_` and `send_crit_`. -/
inductive Lock
  | receive
  | send
  deriving DecidableEq, Repr

/-- A reader/writer lock: whether a writer holds it and how many readers do. -/
structure RwLock where
  writer : Bool
  readers : Nat

namespace RwLock

/-- The lock nobody holds. -/
def free : RwLock := ⟨false, 0⟩

/-- `ReadLockScoped`: waits while a writer holds the lock. -/
def acquireRead (l : RwLock) : Option RwLock :=
  if l.writer then none else some ⟨false, l.readers + 1⟩

/-- The end of a `ReadLockScoped`. -/
def releaseRead (l : RwLock) : RwLock := ⟨l.writer, l.readers - 1⟩

/-- `WriteLockScoped`: waits while anyone holds the lock. -/
def acquireWrite (l : RwLock) : Option RwLock :=
  if l.writer || l.readers != 0 then none else some ⟨true, 0⟩

/-- The end of a `WriteLockScoped`. -/
def releaseWrite (l : RwLock) : RwLock := ⟨false, l.readers⟩

theorem acquireRead_eq_some {l l' : RwLock} (h : l.acquireRead = some l') :
    l.writer = false ∧ l' = ⟨false, l.readers + 1⟩ := by
  unfold acquireRead at h
  split at h <;> simp_all

theorem acquireWrite_eq_some {l l' : RwLock} (h : l.acquireWrite = some l') :
    l.writer = false ∧ l.readers = 0 ∧ l' = ⟨true, 0⟩ := by
  unfold acquireWrite at h
  split at h <;> simp_all

end RwLock

/-! ### The pieces of the configuration thread's calls -/

namespace Op

/-- The lock a `Create*` or `Destroy*` writes under. -/
def lock : Op → Lock
  | .createAudioSendStream .. | .destroyAudioSendStream .. | .createVideoSendStream ..
  | .destroyVideoSendStream .. => .send
  | .createAudioReceiveStream .. | .destroyAudioReceiveStream .. | .createVideoReceiveStream ..
  | .destroyVideoReceiveStream .. | .signalNetworkState .. => .receive

/-- The part of a `Create*` before its lock: `new`. -/
def alloc : Op → Call → Call
  | .createAudioSendStream config p, c => c.newAudioSendStream config p
  | .createAudioReceiveStream config p, c => c.newAudioReceiveStream config p
  | .createVideoSendStream config p, c => c.newVideoSendStream config p
  | .createVideoReceiveStream config p, c => c.newVideoReceiveStream config p
  | _, c => c

/-- The section under the write lock. `SignalNetworkState`, which takes no write lock, is
its sequential model here; the configuration thread runs it in sections of its own. -/
def locked : Op → Call → Except String Call
  | .createAudioSendStream config p, c => c.registerAudioSendStream config p
  | .destroyAudioSendStream p, c => c.unregisterAudioSendStream p
  | .createAudioReceiveStream config p, c => c.registerAudioReceiveStream config p
  | .destroyAudioReceiveStream p, c => c.unregisterAudioReceiveStream p
  | .createVideoSendStream config p, c => c.registerVideoSendStream config p
  | .destroyVideoSendStream p _, c => c.unregisterVideoSendStream p
  | .createVideoReceiveStream config p, c => c.registerVideoReceiveStream config p
  | .destroyVideoReceiveStream p, c => c.unregisterVideoReceiveStream p
  | .signalNetworkState state, c => .ok (c.signalNetworkState state)

/-- The part of a `Destroy*` after its lock: `delete`, and before it, for a video send stream,
the merge of its `GetRtpStates()` into `suspended_video_send_ssrcs_`. -/
def free : Op → Call → Call
  | .destroyAudioSendStream p, c => c.deleteAudioSendStream p
  | .destroyAudioReceiveStream p, c => c.deleteAudioReceiveStream p
  | .destroyVideoSendStream p rtpState, c =>
    { c with suspendedVideoSendSsrcs := Call.mergeRtpStates c.suspendedVideoSendSsrcs rtpState }
      |>.deleteVideoSendStream p
  | .destroyVideoReceiveStream p, c => c.deleteVideoReceiveStream p
  | _, c => c

theorem except_map_self (x : Except String Call) : x.map (fun c => c) = x := by
  cases x <;> rfl

/-- The pieces compose to the sequential call. -/
theorem apply_eq (op : Op) (c : Call) : c.apply op = (op.locked (op.alloc c)).map op.free := by
  cases op <;> first | rfl | exact (except_map_self _).symm

end Op

namespace Call

/-- `network_enabled_ = state == kNetworkUp`, the part of `SignalNetworkState` before its
locks. -/
def enableNetwork (c : Call) (state : NetworkState) : Call :=
  { c with networkEnabled := decide (state = .kNetworkUp) }

/-- The loops of `SignalNetworkState` under the read lock `l`: the audio and video send
streams under `send_crit_`, the video receive streams under `receive_crit_`. -/
def signalStreams (c : Call) (state : NetworkState) : Lock → Call
  | .send => { c with
      audioSends := c.audioSends.modifyAll c.audioSendSsrcs.values (·.signalNetworkState state)
      videoSends := c.videoSends.modifyAll c.videoSendSsrcs.values (·.signalNetworkState state) }
  | .receive => { c with
      videoReceives :=
        c.videoReceives.modifyAll c.videoReceiveSsrcs.values (·.signalNetworkState state) }

/-- The sections of `SignalNetworkState` compose to the sequential call. -/
theorem signalStreams_enableNetwork (c : Call) (state : NetworkState) :
    (((c.enableNetwork state).signalStreams state .send).signalStreams state .receive) =
      c.signalNetworkState state := rfl

end Call

/-! ### What the network thread calls -/

namespace Invocation

/-- The lock the container of the stream is read under. -/
def lock : Invocation → Lock
  | .audioReceiveDeliverRtp _ | .videoReceiveDeliverRtp _ | .videoReceiveDeliverRtcp _ => .receive
  | .videoSendDeliverRtcp _ | .videoSendGetRtt _ => .send

/-- The stream is in the container it is looked up in: `audio_receive_ssrcs_` and
`video_receive_ssrcs_` for `DeliverRtp`, `video_receive_streams_` and `video_send_streams_`
for `DeliverRtcp`, `video_send_ssrcs_` for `GetRtt`. -/
def Held (c : Call) : Invocation → Prop
  | .audioReceiveDeliverRtp p => p ∈ c.audioReceiveSsrcs.values
  | .videoReceiveDeliverRtp p => p ∈ c.videoReceiveSsrcs.values
  | .videoReceiveDeliverRtcp p => p ∈ c.videoReceiveStreams
  | .videoSendDeliverRtcp p => p ∈ c.videoSendStreams
  | .videoSendGetRtt p => p ∈ c.videoSendSsrcs.values

/-- The stream has not been deleted. -/
def Live (c : Call) : Invocation → Prop
  | .audioReceiveDeliverRtp p => (c.audioReceives.find p).isSome
  | .videoReceiveDeliverRtp p | .videoReceiveDeliverRtcp p => (c.videoReceives.find p).isSome
  | .videoSendDeliverRtcp p | .videoSendGetRtt p => (c.videoSends.find p).isSome

end Invocation

/-- Every stream in a container the network thread reads is live. -/
def NetSafe (c : Call) : Prop := ∀ i : Invocation, i.Held c → i.Live c

/-- The calls the network thread makes. `isRtcp` is what `RtpHeaderParser::IsRtcp` said of
the packet. -/
inductive NetOp
  | deliverPacket (isRtcp : Bool) (mediaType : MediaType) (packet : List UInt8)
  | getStats

/-- A section of a call on the network thread: the lock it reads under and the streams it
looks up there, in the order it calls them. -/
abbrev Section := Lock × (Call → List Invocation)

namespace Call

/-- The stream `Call::DeliverRtp` looks up for the SSRC `ssrc` under `receive_crit_`. -/
def rtpTarget (c : Call) (mediaType : MediaType) (ssrc : Ssrc) : List Invocation :=
  match (if mediaType.admits .audio then c.audioReceiveSsrcs.find ssrc else none),
    (if mediaType.admits .video then c.videoReceiveSsrcs.find ssrc else none) with
  | some stream, _ => [.audioReceiveDeliverRtp stream]
  | none, some stream => [.videoReceiveDeliverRtp stream]
  | none, none => []

end Call

/-- The sections of `DeliverRtcp`, `DeliverRtp` and `GetStats`. -/
def NetOp.sections : NetOp → List Section
  | .deliverPacket true mediaType _ =>
    if mediaType.admits .video then
      [(.receive, fun c => c.videoReceiveStreams.elems.map .videoReceiveDeliverRtcp),
        (.send, fun c => c.videoSendStreams.elems.map .videoSendDeliverRtcp)]
    else []
  | .deliverPacket false mediaType packet =>
    if packet.length < 12 then []
    else [(.receive, fun c => c.rtpTarget mediaType (readBigEndian32 packet 8))]
  | .getStats => [(.send, fun c => c.videoSendSsrcs.values.map .videoSendGetRtt)]

/-- Run at one state, the sections of `DeliverPacket` make the calls of the sequential model. -/
theorem calls_deliverPacket (c : Call) (isRtcp : List UInt8 → Bool) (reply : Invocation → Bool)
    (mediaType : MediaType) (packet : List UInt8) :
    ((NetOp.deliverPacket (isRtcp packet) mediaType packet).sections.map (·.2 c)).flatten =
      (c.deliverPacket isRtcp reply mediaType packet).calls := by
  unfold Call.deliverPacket
  cases hr : isRtcp packet
  · by_cases hlen : packet.length < 12
    · simp [NetOp.sections, Call.deliverRtp, hlen]
    · simp only [NetOp.sections, Call.deliverRtp, hlen, if_false, Bool.false_eq_true,
        List.map_cons, List.map_nil, List.flatten_cons, List.flatten_nil, List.append_nil,
        Call.rtpTarget]
      generalize (if mediaType.admits .audio then c.audioReceiveSsrcs.find (readBigEndian32 packet 8)
        else none) = a
      generalize (if mediaType.admits .video then c.videoReceiveSsrcs.find (readBigEndian32 packet 8)
        else none) = v
      cases a <;> cases v <;> rfl
  · by_cases hv : mediaType.admits .video <;>
      simp [NetOp.sections, Call.deliverRtcp, hv, Call.deliverRtcpLoop_eq]

theorem Call.held_of_mem_rtpTarget {c : Call} {mediaType : MediaType} {ssrc : Ssrc}
    {i : Invocation} (hi : i ∈ c.rtpTarget mediaType ssrc) : i.lock = .receive ∧ i.Held c := by
  have mem : ∀ {m : StdMap Ssrc Ptr} {b : Bool} {p : Ptr},
      (if b then m.find ssrc else none) = some p → p ∈ m.values :=
    fun h => (StdMap.mem_values_iff _).2 ⟨ssrc, by split at h <;> simp_all⟩
  unfold Call.rtpTarget at hi
  split at hi <;> simp only [List.mem_singleton, List.not_mem_nil] at hi <;> subst hi <;>
    exact ⟨rfl, mem ‹_›⟩

/-- Every stream a section looks up is in its container, which is read under the section's
lock. -/
theorem NetOp.held_of_mem_sections {op : NetOp} {sec : Section} (hsec : sec ∈ op.sections)
    (c : Call) {i : Invocation} (hi : i ∈ sec.2 c) : i.lock = sec.1 ∧ i.Held c := by
  cases op with
  | deliverPacket isRtcp mediaType packet =>
    cases isRtcp
    · by_cases hlen : packet.length < 12
      · simp [sections, hlen] at hsec
      · simp only [sections, hlen, if_false, Bool.false_eq_true, List.mem_singleton] at hsec
        subst hsec
        exact Call.held_of_mem_rtpTarget hi
    · by_cases hv : mediaType.admits .video
      · simp only [sections, hv, if_true, List.mem_cons, List.mem_singleton,
          List.not_mem_nil, or_false] at hsec
        rcases hsec with rfl | rfl <;> obtain ⟨p, hp, rfl⟩ := List.mem_map.1 hi <;>
          exact ⟨rfl, hp⟩
      · simp [sections, hv] at hsec
  | getStats =>
    simp only [sections, List.mem_singleton] at hsec
    subst hsec
    obtain ⟨p, hp, rfl⟩ := List.mem_map.1 hi
    exact ⟨rfl, hp⟩


/-! ### The two threads -/

/-- Where a section of `SignalNetworkState` is. -/
inductive Phase
  /-- Before its read lock. -/
  | pending
  /-- Holding the lock, before the loop. -/
  | locked
  /-- Holding the lock, after the loop. -/
  | signalled
  deriving DecidableEq

/-- The configuration thread's program counter. -/
inductive CfgPc
  | idle
  /-- A `Create*` or `Destroy*` whose part before the lock has run. -/
  | allocated (op : Op)
  /-- Holding the write lock of `op.lock`, before the locked section. -/
  | locked (op : Op)
  /-- The locked section has run; the write lock is still held. -/
  | unlocking (op : Op)
  /-- The write lock released; the part after it is next. -/
  | released (op : Op)
  /-- `SignalNetworkState(state)` at its section under the read lock `l`. -/
  | signal (state : NetworkState) (l : Lock) (phase : Phase)

namespace CfgPc

/-- The configuration thread holds `l` for writing. -/
def writes : CfgPc → Lock → Bool
  | .locked op, l | .unlocking op, l => decide (op.lock = l)
  | _, _ => false

/-- The configuration thread holds `l` for reading. -/
def reads : CfgPc → Lock → Bool
  | .signal _ l' .locked, l | .signal _ l' .signalled, l => decide (l' = l)
  | _, _ => false

end CfgPc

/-- The network thread's program counter: the sections still to run, and the running one's
lock, held for reading, with the calls still to make. -/
structure NetPc where
  sections : List Section
  current : Option (Lock × List Invocation)

namespace NetPc

/-- The network thread between calls. -/
def idle : NetPc := ⟨[], none⟩

/-- The network thread holds `l` for reading. -/
def reads (n : NetPc) (l : Lock) : Bool :=
  match n.current with
  | some (l', _) => decide (l' = l)
  | none => false

/-- The streams the network thread has looked up and not called yet. -/
def pending (n : NetPc) : List Invocation :=
  match n.current with
  | some (_, is) => is
  | none => []

end NetPc

/-- `internal::Call` with its two threads. -/
structure System where
  call : Call
  receiveCrit : RwLock
  sendCrit : RwLock
  cfg : CfgPc
  net : NetPc

namespace System

/-- The lock `l`. -/
def crit (s : System) : Lock → RwLock
  | .receive => s.receiveCrit
  | .send => s.sendCrit

/-- `s` with the lock `l` in the state `rw`. -/
def setCrit (s : System) : Lock → RwLock → System
  | .receive, rw => { s with receiveCrit := rw }
  | .send, rw => { s with sendCrit := rw }

@[simp] theorem crit_setCrit (s : System) (l l' : Lock) (rw : RwLock) :
    (s.setCrit l rw).crit l' = if l' = l then rw else s.crit l' := by
  cases l <;> cases l' <;> rfl

@[simp] theorem crit_mk (s : System) (c : Call) (pc : CfgPc) (n : NetPc) (l : Lock) :
    (System.mk c s.receiveCrit s.sendCrit pc n).crit l = s.crit l := by
  cases l <;> rfl

@[simp] theorem call_setCrit (s : System) (l : Lock) (rw : RwLock) :
    (s.setCrit l rw).call = s.call := by
  cases l <;> rfl

@[simp] theorem cfg_setCrit (s : System) (l : Lock) (rw : RwLock) :
    (s.setCrit l rw).cfg = s.cfg := by
  cases l <;> rfl

@[simp] theorem net_setCrit (s : System) (l : Lock) (rw : RwLock) :
    (s.setCrit l rw).net = s.net := by
  cases l <;> rfl

/-- `Call::Call(config)`, with both locks free and both threads between calls. -/
def init (voiceEngine voeEventLog : Bool) : System :=
  ⟨Call.init voiceEngine voeEventLog, .free, .free, .idle, .idle⟩

end System

/-- Where `SignalNetworkState(state)` goes after its section under `l`. -/
def CfgPc.afterSignal (state : NetworkState) : Lock → CfgPc
  | .send => .signal state .receive .pending
  | .receive => .idle

/-- One step of one of the two threads. -/
inductive Step : System → System → Prop
  /-- The configuration thread starts a `Create*` or `Destroy*` its caller may make, with the
  part before the lock. -/
  | start {s : System} {op : Op} (hc : s.cfg = .idle) (hop : op.Admissible s.call)
      (hsig : ∀ state, op ≠ .signalNetworkState state) :
      Step s { s with call := op.alloc s.call, cfg := .allocated op }
  /-- It takes the write lock. -/
  | acquireWrite {s : System} {op : Op} {rw : RwLock} (hc : s.cfg = .allocated op)
      (hrw : (s.crit op.lock).acquireWrite = some rw) :
      Step s ({ s with cfg := .locked op }.setCrit op.lock rw)
  /-- It runs the locked section; a failed check ends the process. -/
  | locked {s : System} {op : Op} {c : Call} (hc : s.cfg = .locked op)
      (h : op.locked s.call = .ok c) :
      Step s { s with call := c, cfg := .unlocking op }
  /-- It releases the write lock. -/
  | releaseWrite {s : System} {op : Op} (hc : s.cfg = .unlocking op) :
      Step s ({ s with cfg := .released op }.setCrit op.lock (s.crit op.lock).releaseWrite)
  /-- It runs the part after the lock. -/
  | free {s : System} {op : Op} (hc : s.cfg = .released op) :
      Step s { s with call := op.free s.call, cfg := .idle }
  /-- It starts `SignalNetworkState(state)`. -/
  | signal {s : System} {state : NetworkState} (hc : s.cfg = .idle) :
      Step s { s with call := s.call.enableNetwork state, cfg := .signal state .send .pending }
  /-- It takes the read lock of a section of `SignalNetworkState`. -/
  | signalAcquire {s : System} {state : NetworkState} {l : Lock} {rw : RwLock}
      (hc : s.cfg = .signal state l .pending) (hrw : (s.crit l).acquireRead = some rw) :
      Step s ({ s with cfg := .signal state l .locked }.setCrit l rw)
  /-- It signals the streams of the section. -/
  | signalStreams {s : System} {state : NetworkState} {l : Lock}
      (hc : s.cfg = .signal state l .locked) :
      Step s { s with call := s.call.signalStreams state l, cfg := .signal state l .signalled }
  /-- It releases the read lock and goes on to the next section, if there is one. -/
  | signalRelease {s : System} {state : NetworkState} {l : Lock}
      (hc : s.cfg = .signal state l .signalled) :
      Step s ({ s with cfg := .afterSignal state l }.setCrit l (s.crit l).releaseRead)
  /-- The network thread starts a call. -/
  | netStart {s : System} (op : NetOp) (hn : s.net = .idle) :
      Step s { s with net := ⟨op.sections, none⟩ }
  /-- It takes the read lock of its next section and looks the streams up. -/
  | netAcquire {s : System} {l : Lock} {lookup : Call → List Invocation} {rest : List Section}
      {rw : RwLock} (hn : s.net = ⟨(l, lookup) :: rest, none⟩)
      (hrw : (s.crit l).acquireRead = some rw) :
      Step s ({ s with net := ⟨rest, some (l, lookup s.call)⟩ }.setCrit l rw)
  /-- It calls the next stream it looked up. -/
  | netInvoke {s : System} {l : Lock} {i : Invocation} {is : List Invocation}
      (hn : s.net.current = some (l, i :: is)) :
      Step s { s with net := { s.net with current := some (l, is) } }
  /-- It releases the read lock. -/
  | netRelease {s : System} {l : Lock} (hn : s.net.current = some (l, [])) :
      Step s ({ s with net := { s.net with current := none } }.setCrit l (s.crit l).releaseRead)

/-- `s` is reached from a call constructed by `Call::Call` by some interleaving of steps. -/
def System.Reachable (s : System) : Prop :=
  ∃ voiceEngine voeEventLog, Relation.ReflTransGen Step (System.init voiceEngine voeEventLog) s

/-! ### The containers hold live streams at every stage -/

section Stages

variable {c c' : Call} {i : Invocation}

theorem held_alloc (op : Op) : i.Held (op.alloc c) ↔ i.Held c := by
  cases op <;> cases i <;> exact Iff.rfl

theorem held_free (op : Op) : i.Held (op.free c) ↔ i.Held c := by
  cases op <;> cases i <;> exact Iff.rfl

theorem held_enableNetwork (state : NetworkState) : i.Held (c.enableNetwork state) ↔ i.Held c := by
  cases i <;> exact Iff.rfl

theorem held_signalStreams (state : NetworkState) (l : Lock) :
    i.Held (c.signalStreams state l) ↔ i.Held c := by
  cases l <;> cases i <;> exact Iff.rfl

theorem live_alloc (op : Op) (h : i.Live c) : i.Live (op.alloc c) := by
  cases op <;> try exact h
  all_goals cases i <;>
    simp_all [Op.alloc, Invocation.Live, Call.newAudioSendStream, Call.newAudioReceiveStream,
      Call.newVideoSendStream, Call.newVideoReceiveStream, apply_ite]

theorem live_of_live_free (op : Op) (h : i.Live (op.free c)) : i.Live c := by
  cases op <;> try exact h
  all_goals cases i <;>
    simp_all [Op.free, Invocation.Live, Call.deleteAudioSendStream, Call.deleteAudioReceiveStream,
      Call.deleteVideoSendStream, Call.deleteVideoReceiveStream, apply_ite]

theorem live_enableNetwork (state : NetworkState) : i.Live (c.enableNetwork state) ↔ i.Live c := by
  cases i <;> exact Iff.rfl

theorem live_signalStreams (state : NetworkState) (l : Lock) :
    i.Live (c.signalStreams state l) ↔ i.Live c := by
  cases l <;> cases i <;> simp [Call.signalStreams, Invocation.Live]

theorem Call.Sound.netSafe (hs : c.Sound) : NetSafe c := fun i hi => by
  cases i with
  | audioReceiveDeliverRtp p =>
    obtain ⟨k, hk⟩ := (StdMap.mem_values_iff _).1 hi
    exact StdMap.isSome_find_of_project (hs.audioReceive_find k p hk)
  | videoReceiveDeliverRtp p =>
    obtain ⟨k, hk⟩ := (StdMap.mem_values_iff _).1 hi
    obtain ⟨_, hcfg, -⟩ := hs.videoReceive_find k p hk
    exact StdMap.isSome_find_of_project hcfg
  | videoReceiveDeliverRtcp p => exact (hs.videoReceiveStreams_mem p).1 hi
  | videoSendDeliverRtcp p => exact (hs.videoSendStreams_mem p).1 hi
  | videoSendGetRtt p =>
    obtain ⟨k, hk⟩ := (StdMap.mem_values_iff _).1 hi
    obtain ⟨_, hcfg, -⟩ := hs.videoSend_find k p hk
    exact StdMap.isSome_find_of_project hcfg

/-- A call changes only the containers of the lock it writes under. -/
theorem held_apply_of_lock_ne {op : Op} (h : c.apply op = .ok c') (hi : i.lock ≠ op.lock) :
    i.Held c' ↔ i.Held c := by
  -- the containers of the other lock are the same terms, or the same after `ConfigureSync`
  cases op with
  | createAudioSendStream =>
    obtain ⟨-, rfl⟩ := Call.createAudioSendStream_eq_ok.1 h
    cases i <;> first | exact absurd rfl hi | exact Iff.rfl
  | destroyAudioSendStream =>
    obtain ⟨_, -, -, rfl⟩ := Call.destroyAudioSendStream_eq_ok.1 h
    cases i <;> first | exact absurd rfl hi | exact Iff.rfl
  | createAudioReceiveStream =>
    obtain ⟨-, rfl⟩ := Call.createAudioReceiveStream_eq_ok.1 h
    cases i <;> first | exact absurd rfl hi | simp [Invocation.Held]
  | destroyAudioReceiveStream =>
    obtain ⟨_, -, -, rfl⟩ := Call.destroyAudioReceiveStream_eq_ok.1 h
    cases i <;> first | exact absurd rfl hi |
      dsimp only [Call.deleteAudioReceiveStream]; split_ifs <;> simp [Invocation.Held]
  | createVideoSendStream =>
    obtain ⟨-, -, rfl⟩ := Call.createVideoSendStream_eq_ok.1 h
    cases i <;> first | exact absurd rfl hi | exact Iff.rfl
  | destroyVideoSendStream =>
    obtain ⟨-, rfl⟩ := Call.destroyVideoSendStream_eq_ok.1 h
    cases i <;> first | exact absurd rfl hi | exact Iff.rfl
  | createVideoReceiveStream =>
    obtain ⟨-, rfl⟩ := Call.createVideoReceiveStream_eq_ok.1 h
    cases i <;> first | exact absurd rfl hi | simp [Invocation.Held, Call.logEvent]
  | destroyVideoReceiveStream =>
    obtain ⟨-, _, -, rfl⟩ := Call.destroyVideoReceiveStream_eq_ok.1 h
    cases i <;> first | exact absurd rfl hi | simp [Invocation.Held, Call.deleteVideoReceiveStream]
  | signalNetworkState => cases h; cases i <;> exact Iff.rfl

/-- The call the configuration thread has produced: a stage of the operation it runs from the
state `c₀` it started from. -/
def CfgPc.Stage : CfgPc → Call → Call → Prop
  | .idle, c₀, c => c = c₀
  | .allocated op, c₀, c | .locked op, c₀, c => op.Admissible c₀ ∧ c = op.alloc c₀
  | .unlocking op, c₀, c | .released op, c₀, c =>
    op.Admissible c₀ ∧ op.locked (op.alloc c₀) = .ok c
  | .signal state .send .pending, c₀, c | .signal state .send .locked, c₀, c =>
    c = c₀.enableNetwork state
  | .signal state .send .signalled, c₀, c | .signal state .receive .pending, c₀, c
  | .signal state .receive .locked, c₀, c =>
    c = (c₀.enableNetwork state).signalStreams state .send
  | .signal state .receive .signalled, c₀, c => c = c₀.signalNetworkState state

/-- At every stage of an operation run from a state the sequential model reaches, the
containers the network thread reads hold live streams only. -/
theorem CfgPc.Stage.netSafe {pc : CfgPc} {c₀ : Call} (h₀ : Reachable Op.Admissible c₀)
    (h : pc.Stage c₀ c) : NetSafe c := by
  have hs := h₀.sound
  cases pc with
  | idle => cases h; exact hs.netSafe
  | allocated op | locked op =>
    obtain ⟨-, rfl⟩ := h
    exact fun i hi => live_alloc op (hs.netSafe i ((held_alloc op).1 hi))
  | unlocking op | released op =>
    obtain ⟨hop, h⟩ := h
    have happ : c₀.apply op = .ok (op.free c) := by rw [Op.apply_eq, h]; rfl
    exact fun i hi => live_of_live_free op
      ((Call.sound_apply hs hop happ).netSafe i ((held_free op).2 hi))
  | signal state l phase =>
    have hsig : ∀ c₁, NetSafe c₁ → ∀ l, NetSafe (c₁.signalStreams state l) := fun _ h₁ l i hi =>
      (live_signalStreams state l).2 (h₁ i ((held_signalStreams state l).1 hi))
    have hen : NetSafe (c₀.enableNetwork state) := fun i hi =>
      (live_enableNetwork state).2 (hs.netSafe i ((held_enableNetwork state).1 hi))
    cases l <;> cases phase <;> (cases h; first | exact hen | exact hsig _ hen _ |
      exact Call.signalStreams_enableNetwork c₀ state ▸ hsig _ (hsig _ hen .send) .receive)

end Stages

/-! ### The invariant of the two threads -/

namespace System

variable {s s' : System}

/-- Each lock records exactly the threads that hold it, and the network thread reads no lock
the configuration thread writes under. -/
def CritInv (s : System) : Prop :=
  (∀ l, (s.crit l).writer = s.cfg.writes l ∧
    (s.crit l).readers = (s.net.reads l).toNat + (s.cfg.reads l).toNat) ∧
  ∀ l, s.cfg.writes l = true → s.net.reads l = false

/-- What holds in every reachable state. -/
structure Inv (s : System) : Prop where
  /-- The configuration thread is at a stage of an operation run from a reachable state. -/
  stage : ∃ c₀, WebRtcCall.Reachable Op.Admissible c₀ ∧ s.cfg.Stage c₀ s.call
  crit : s.CritInv
  /-- The streams the network thread has looked up are in their containers, which are read
  under the lock it holds. -/
  current : ∀ l is, s.net.current = some (l, is) → ∀ i ∈ is, i.lock = l ∧ i.Held s.call
  /-- Its sections to come look streams up in containers read under their locks. -/
  sections : ∀ sec ∈ s.net.sections, ∀ c i, i ∈ sec.2 c → i.lock = sec.1 ∧ i.Held c

theorem inv_init (v e : Bool) : (init v e).Inv where
  stage := ⟨_, ⟨v, e, [], .nil⟩, rfl⟩
  crit := ⟨fun l => by cases l <;> exact ⟨rfl, rfl⟩, fun l h => by cases l <;> cases h⟩
  current _ _ h := by cases h
  sections _ h := by cases h

theorem Inv.stage_step (hi : s.Inv) (h : Step s s') :
    ∃ c₀, WebRtcCall.Reachable Op.Admissible c₀ ∧ s'.cfg.Stage c₀ s'.call := by
  obtain ⟨c₀, h₀, hst⟩ := hi.stage
  cases h with
  | start hc hop =>
    rw [hc] at hst
    exact ⟨s.call, (show s.call = c₀ from hst) ▸ h₀, hop, rfl⟩
  | acquireWrite hc => rw [hc] at hst; exact ⟨c₀, h₀, by simpa using hst⟩
  | locked hc hbody =>
    rw [hc] at hst
    obtain ⟨hop, hcall⟩ := hst
    exact ⟨c₀, h₀, hop, hcall ▸ hbody⟩
  | releaseWrite hc => rw [hc] at hst; exact ⟨c₀, h₀, by simpa using hst⟩
  | free hc =>
    rw [hc] at hst
    obtain ⟨hop, hbody⟩ := hst
    exact ⟨_, h₀.step hop (by rw [Op.apply_eq, hbody]; rfl), rfl⟩
  | signal hc =>
    rw [hc] at hst
    exact ⟨c₀, h₀, congrArg (Call.enableNetwork · _) hst⟩
  | signalAcquire hc =>
    rw [hc] at hst
    cases ‹Lock› <;> exact ⟨c₀, h₀, by simpa using hst⟩
  | signalStreams hc =>
    rw [hc] at hst
    cases ‹Lock› <;> exact ⟨c₀, h₀, by dsimp only [CfgPc.Stage]; rw [hst]; try rfl⟩
  | signalRelease hc =>
    rw [hc] at hst
    cases ‹Lock›
    · exact ⟨_, h₀.step (show Op.Admissible _ (.signalNetworkState _) from trivial) rfl,
        by simpa using hst⟩
    · exact ⟨c₀, h₀, by simpa using hst⟩
  | netStart | netAcquire | netInvoke | netRelease => exact ⟨c₀, h₀, by simpa using hst⟩

/-- A step that leaves the locks and who holds them alone keeps the lock invariant. -/
theorem CritInv.of_frame (hi : s.CritInv) (hcrit : ∀ l, s'.crit l = s.crit l)
    (hw : ∀ l, s'.cfg.writes l = s.cfg.writes l) (hr : ∀ l, s'.cfg.reads l = s.cfg.reads l)
    (hn : ∀ l, s'.net.reads l = s.net.reads l) : s'.CritInv :=
  ⟨fun l => by rw [hcrit, hw, hr, hn]; exact hi.1 l, fun l => by rw [hw, hn]; exact hi.2 l⟩

theorem CritInv.step (hi : s.CritInv) (h : Step s s') : s'.CritInv := by
  have ⟨hcrit, hex⟩ := hi
  cases h with
  | start hc | locked hc | free hc | signal hc | signalStreams hc =>
    refine hi.of_frame (fun _ => rfl) ?_ ?_ fun _ => rfl <;>
      simp [hc, CfgPc.writes, CfgPc.reads]
  | @acquireWrite op rw hc hrw =>
    obtain ⟨-, hr0, rfl⟩ := RwLock.acquireWrite_eq_some hrw
    have hnet : s.net.reads op.lock = false := by
      have := (hcrit op.lock).2
      rw [hr0, hc] at this
      cases hb : s.net.reads op.lock
      · rfl
      · simp [hb, CfgPc.reads] at this
    refine ⟨fun l => ?_, fun l _ => ?_⟩ <;> by_cases hl : l = op.lock
    · subst hl; simp [CfgPc.writes, CfgPc.reads, hnet]
    · have := hcrit l; simp_all [CfgPc.writes, CfgPc.reads, Ne.symm hl]
    · subst hl; simpa using hnet
    · simp_all [CfgPc.writes, Ne.symm hl]
  | @releaseWrite op hc =>
    refine ⟨fun l => ?_, fun l h => by simp [CfgPc.writes] at h⟩
    have := hcrit l
    clear hcrit hex
    by_cases hl : l = op.lock
    · subst hl; simp_all [RwLock.releaseWrite, CfgPc.writes, CfgPc.reads]
    · simp_all [CfgPc.writes, CfgPc.reads, Ne.symm hl]
  | @signalAcquire state l' rw hc hrw =>
    obtain ⟨-, rfl⟩ := RwLock.acquireRead_eq_some hrw
    refine ⟨fun l => ?_, fun l h => by simp [CfgPc.writes] at h⟩
    have := hcrit l
    clear hcrit hex
    by_cases hl : l = l'
    · subst hl; simp_all [CfgPc.writes, CfgPc.reads]
    · simp_all [CfgPc.writes, CfgPc.reads, Ne.symm hl]
  | @signalRelease state l' hc =>
    refine ⟨fun l => ?_, fun l h => by cases l' <;> simp [CfgPc.afterSignal, CfgPc.writes] at h⟩
    have := hcrit l
    clear hcrit hex
    cases l <;> cases l' <;>
      simp_all [RwLock.releaseRead, CfgPc.afterSignal, CfgPc.writes, CfgPc.reads]
  | netStart op hn =>
    refine hi.of_frame (fun _ => rfl) (fun _ => rfl) (fun _ => rfl) fun _ => ?_
    simp [hn, NetPc.reads, NetPc.idle]
  | @netAcquire l' lookup rest rw hn hrw =>
    obtain ⟨hw0, rfl⟩ := RwLock.acquireRead_eq_some hrw
    have hnet : s.net.reads l' = false := by simp [hn, NetPc.reads]
    refine ⟨fun l => ?_, fun l h => ?_⟩ <;> have := hcrit l <;> by_cases hl : l = l'
    · subst hl; simp_all [NetPc.reads, Nat.add_comm]
    · simp_all [NetPc.reads, Ne.symm hl]
    · subst hl; simp_all
    · simp [NetPc.reads, Ne.symm hl]
  | netInvoke hn =>
    refine hi.of_frame (fun _ => rfl) (fun _ => rfl) (fun _ => rfl) fun _ => ?_
    simp [hn, NetPc.reads]
  | @netRelease l' hn =>
    refine ⟨fun l => ?_, fun l _ => by simp [NetPc.reads]⟩
    have := hcrit l
    clear hcrit hex
    by_cases hl : l = l'
    · subst hl; simp_all [RwLock.releaseRead, NetPc.reads]
    · simp_all [NetPc.reads, Ne.symm hl]

theorem Inv.current_step (hi : s.Inv) (h : Step s s') :
    ∀ l is, s'.net.current = some (l, is) → ∀ i ∈ is, i.lock = l ∧ i.Held s'.call := by
  intro l is hcur i hmem
  cases h with
  | start => exact (hi.current l is hcur i hmem).imp_right (held_alloc _).2
  | acquireWrite | releaseWrite | signalAcquire | signalRelease =>
    simpa using hi.current l is (by simpa using hcur) i hmem
  | @locked op c hc hbody =>
    obtain ⟨hl, hheld⟩ := hi.current l is hcur i hmem
    have hne : l ≠ op.lock := fun heq => by
      have := hi.crit.2 op.lock (by simp [hc, CfgPc.writes])
      rw [NetPc.reads, show s.net.current = some (l, is) from hcur] at this
      simp [heq] at this
    obtain ⟨c₀, -, hst⟩ := hi.stage
    rw [hc] at hst
    obtain ⟨-, hcall⟩ := hst
    have happ : c₀.apply op = .ok (op.free c) := by rw [Op.apply_eq, ← hcall, hbody]; rfl
    exact ⟨hl, (held_free op).1 ((held_apply_of_lock_ne happ (hl ▸ hne)).2
      ((held_alloc op).1 (hcall ▸ hheld)))⟩
  | free => exact (hi.current l is hcur i hmem).imp_right (held_free _).2
  | signal => exact (hi.current l is hcur i hmem).imp_right (held_enableNetwork _).2
  | signalStreams => exact (hi.current l is hcur i hmem).imp_right (held_signalStreams _ _).2
  | netStart => cases hcur
  | @netAcquire l' lookup rest rw hn =>
    simp only [net_setCrit, Option.some.injEq, Prod.mk.injEq, call_setCrit] at hcur ⊢
    obtain ⟨rfl, rfl⟩ := hcur
    exact hi.sections (l', lookup) (by simp [hn]) _ i hmem
  | netInvoke hn =>
    simp only [Option.some.injEq, Prod.mk.injEq] at hcur
    obtain ⟨rfl, rfl⟩ := hcur
    exact hi.current _ _ hn i (List.mem_cons_of_mem _ hmem)
  | netRelease => simp at hcur

theorem Inv.sections_step (hi : s.Inv) (h : Step s s') :
    ∀ sec ∈ s'.net.sections, ∀ c i, i ∈ sec.2 c → i.lock = sec.1 ∧ i.Held c := by
  cases h with
  | netStart op => exact fun sec hsec => NetOp.held_of_mem_sections hsec
  | netAcquire hn =>
    intro sec hsec
    simp only [net_setCrit] at hsec
    exact hi.sections sec (by rw [hn]; exact List.mem_cons_of_mem _ hsec)
  | acquireWrite | releaseWrite | signalAcquire | signalRelease | netRelease =>
    simpa only [net_setCrit] using hi.sections
  | _ => exact hi.sections

theorem Inv.step (hi : s.Inv) (h : Step s s') : s'.Inv :=
  ⟨hi.stage_step h, hi.crit.step h, hi.current_step h, hi.sections_step h⟩

theorem Reachable.inv (h : s.Reachable) : s.Inv := by
  obtain ⟨v, e, h⟩ := h
  induction h with
  | refl => exact inv_init v e
  | tail _ hstep ih => exact ih.step hstep

end System

/-- **The network thread never calls a deleted stream.** In every state the two threads
reach, every stream the network thread has looked up and not called yet is in the registry
container it was looked up in and has not been deleted. A lookup and the calls it leads to lie
in one read-locked section, so this holds in every state from the lookup to the call: no step
of the configuration thread in between deletes the stream, and at the step that calls it, it
is in its container. -/
theorem network_thread_safe {s : System} (h : s.Reachable) :
    ∀ i ∈ s.net.pending, i.Held s.call ∧ i.Live s.call := by
  have hi := h.inv
  obtain ⟨c₀, h₀, hst⟩ := hi.stage
  intro i hmem
  unfold NetPc.pending at hmem
  split at hmem
  · have hheld := (hi.current _ _ ‹_› i hmem).2
    exact ⟨hheld, hst.netSafe h₀ i hheld⟩
  · cases hmem

/-- After a video receive stream is created at address 0, an RTCP packet for video makes the
network thread look it up under `receive_crit_`; until the call, the stream stays in
`video_receive_streams_` and live. -/
theorem network_thread_safe_rtcp :
    ∃ s : System, s.Reachable ∧ s.net.pending = [.videoReceiveDeliverRtcp 0] ∧
      (Invocation.videoReceiveDeliverRtcp 0).Held s.call ∧
      (Invocation.videoReceiveDeliverRtcp 0).Live s.call := by
  obtain ⟨c, hc⟩ : ∃ c, (Op.createVideoReceiveStream ⟨⟨1, ∅⟩, ""⟩ 0).locked
      ((Op.createVideoReceiveStream ⟨⟨1, ∅⟩, ""⟩ 0).alloc (Call.init false false)) = .ok c :=
    ⟨_, Call.createVideoReceiveStream_eq_ok.2 ⟨rfl, rfl⟩⟩
  have h₁ := Step.start (s := System.init false false) rfl
    (show Op.Admissible (Call.init false false) (.createVideoReceiveStream ⟨⟨1, ∅⟩, ""⟩ 0) from rfl)
    fun _ => nofun
  have h₂ := Step.acquireWrite (s := { System.init false false with
    call := (Op.createVideoReceiveStream ⟨⟨1, ∅⟩, ""⟩ 0).alloc (Call.init false false)
    cfg := .allocated (.createVideoReceiveStream ⟨⟨1, ∅⟩, ""⟩ 0) }) rfl rfl
  have h₃ := Step.locked (s := { System.init false false with
    call := (Op.createVideoReceiveStream ⟨⟨1, ∅⟩, ""⟩ 0).alloc (Call.init false false)
    cfg := .locked (.createVideoReceiveStream ⟨⟨1, ∅⟩, ""⟩ 0), receiveCrit := ⟨true, 0⟩ }) rfl hc
  have h₄ := Step.releaseWrite (s := { System.init false false with
    call := c, cfg := .unlocking (.createVideoReceiveStream ⟨⟨1, ∅⟩, ""⟩ 0),
    receiveCrit := ⟨true, 0⟩ }) rfl
  have h₅ := Step.free (s := { System.init false false with
    call := c, cfg := .released (.createVideoReceiveStream ⟨⟨1, ∅⟩, ""⟩ 0) }) rfl
  have h₆ := Step.netStart (s := { System.init false false with call := c })
    (.deliverPacket true .video []) rfl
  have h₇ := Step.netAcquire (s := { System.init false false with
    call := c, net := ⟨(NetOp.deliverPacket true .video []).sections, none⟩ }) rfl rfl
  have hreach : System.Reachable _ := ⟨false, false,
    (((((((Relation.ReflTransGen.refl.tail h₁).tail h₂).tail h₃).tail h₄).tail h₅).tail h₆).tail
      h₇)⟩
  obtain ⟨-, rfl⟩ := Call.createVideoReceiveStream_eq_ok.1 hc
  refine ⟨_, hreach, ?_, network_thread_safe hreach _ ?_⟩ <;>
    simp only [NetPc.pending, System.net_setCrit] <;> decide

end WebRtcCall
