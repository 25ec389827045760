import WebRtcCall.Receiver.Restoration

/-!
# What `InsertRTPPacket` does around `ReceivePacket`

`InsertRTPPacket` keeps books on the packets it takes from the network. Before `ReceivePacket`
it logs the header at most every `kPacketLogIntervalMs` (`last_packet_log_ms_`) and hands the
packet to the bandwidth estimator (`RemoteBitrateEstimator::IncomingPacket`); then it gives the
header the clock of video (`payload_type_frequency`), and after `ReceivePacket` hands the packet
to the receive statistics (`ReceiveStatistics::IncomingPacket`). `ReceivePacket` and the
activations it calls back do none of this: no step they take touches `last_packet_log_ms_` or
calls either collaborator, so neither sees a packet the FEC receiver recovers or the RTX branch
restores; and `OnRecoveredPacket` gives each packet it parses the clock of video itself.

The steps the receive path takes below `InsertRTPPacket` are few: it records one of its own
events, replaces the FEC receiver's state, and writes `restored_packet_` and its flag. A
relation that each of them keeps is kept by every activation of `ReceivePacket`, at every depth
(`KeptBelowInsert.receivePacket`); both results are instances.

* `statistics_of_network_packets`: in every reachable receiver, whatever its collaborators,
  the bandwidth estimator and the receive statistics were called only outside every
  `OnRecoveredPacket` activation, and equally often.
* `headers_video_clocked`: in every reachable receiver, every header handed to a collaborator
  other than the bandwidth estimator carries the clock of video.
-/

namespace WebRtcCall

/-- The event is one of the two calls `InsertRTPPacket` makes around `ReceivePacket`. -/
def Event.isStatistics : Event → Bool
  | .bitrateEstimate .. | .incomingPacket .. => true
  | _ => false

/-- `RemoteBitrateEstimator::IncomingPacket`. -/
def Event.isBitrateEstimate : Event → Bool
  | .bitrateEstimate .. => true
  | _ => false

/-- `ReceiveStatistics::IncomingPacket`. -/
def Event.isIncomingPacket : Event → Bool
  | .incomingPacket .. => true
  | _ => false

/-- The RTP header the event hands to a collaborator, if any. -/
def Event.header? : Event → Option RTPHeader
  | .bitrateEstimate _ _ header | .incomingRtpPacket header _ _ | .fecPacketReceived header _
  | .fecNotification header | .incomingPacket header _ _ => some header
  | _ => none

/-- The header the event hands on, if any, carries the 90 kHz clock of video. -/
def Event.videoClocked (e : Event) : Bool :=
  e.header?.all (·.payloadTypeFrequency == ViEReceiver.kVideoPayloadTypeFrequency)

theorem Event.videoClocked_of_header? {e : Event} {header : RTPHeader}
    (he : e.header? = some header)
    (hfreq : header.payloadTypeFrequency = ViEReceiver.kVideoPayloadTypeFrequency) :
    e.videoClocked = true := by
  simp [videoClocked, he, hfreq]

theorem Event.isBitrateEstimate_eq_false {e : Event} (h : e.isStatistics = false) :
    e.isBitrateEstimate = false := by
  cases e <;> simp_all [isStatistics, isBitrateEstimate]

theorem Event.isIncomingPacket_eq_false {e : Event} (h : e.isStatistics = false) :
    e.isIncomingPacket = false := by
  cases e <;> simp_all [isStatistics, isIncomingPacket]

namespace ViEReceiver

variable {ρ φ : Type}

/-! ### The steps of the receive path -/

/-- A preorder on receivers that every step the receive path takes below `InsertRTPPacket`
keeps: recording one of its own events, which is no call of the bandwidth estimator or the
receive statistics and hands on only headers with the clock of video, replacing the FEC
receiver's state, and writing `restored_packet_` and `restored_packet_in_use_`. -/
structure KeptBelowInsert (R : ViEReceiver ρ φ → ViEReceiver ρ φ → Prop) : Prop where
  refl : ∀ s, R s s
  trans : ∀ {s₁ s₂ s₃}, R s₁ s₂ → R s₂ s₃ → R s₁ s₃
  record : ∀ s stack (event : Event), event.isStatistics = false → event.videoClocked = true →
    R s (s.record stack event)
  fec : ∀ (s : ViEReceiver ρ φ) fec, R s { s with fec := fec }
  restored : ∀ (s : ViEReceiver ρ φ) restored inUse,
    R s { s with restoredPacket := restored, restoredPacketInUse := inUse }

theorem rel_ite {R : ViEReceiver ρ φ → ViEReceiver ρ φ → Prop} {c : Prop} [Decidable c]
    {s a b : ViEReceiver ρ φ} (ha : R s a) (hb : R s b) : R s (if c then a else b) := by
  split <;> assumption

section Kept

variable (env : Env ρ φ) {R : ViEReceiver ρ φ → ViEReceiver ρ φ → Prop} (hR : KeptBelowInsert R)
include hR

theorem KeptBelowInsert.notifyReceiverOfFecPacket (stack : List Source) {header : RTPHeader}
    (hfreq : header.payloadTypeFrequency = kVideoPayloadTypeFrequency) (s : ViEReceiver ρ φ) :
    R s (notifyReceiverOfFecPacket env stack header s) := by
  unfold ViEReceiver.notifyReceiverOfFecPacket; dsimp only
  -- the notification is the one step; the other branches return at once
  split_ifs
  · exact hR.refl s
  · exact hR.record _ _ _ rfl (Event.videoClocked_of_header? rfl hfreq)
  · exact hR.refl s

/-- `ParseAndHandleEncapsulatingHeader` keeps `R` if the activations it calls back do. -/
theorem KeptBelowInsert.parseAndHandleEncapsulatingHeader
    {onRecoveredPacket : Source → List UInt8 → ViEReceiver ρ φ → Option (Bool × ViEReceiver ρ φ)}
    (hback : ∀ source rtpPacket s r s', onRecoveredPacket source rtpPacket s = some (r, s') →
      R s s')
    {stack : List Source} {packet : List UInt8} {header : RTPHeader} {s s' : ViEReceiver ρ φ}
    {r : Bool} (hfreq : header.payloadTypeFrequency = kVideoPayloadTypeFrequency)
    (h : parseAndHandleEncapsulatingHeader env onRecoveredPacket stack packet header s =
      some (r, s')) :
    R s s' := by
  unfold ViEReceiver.parseAndHandleEncapsulatingHeader at h
  by_cases hred : env.isRed s.registry header
  · rw [if_pos hred] at h
    dsimp only at h
    -- RED: the read, the FEC notification and `AddReceivedRedPacket`, then the packets handed back
    have hread := hR.record s stack (.read header.headerLength packet.length) rfl rfl
    have hfec := hR.trans (hR.trans hread (hR.record _ stack
      (.fecPacketReceived header packet.length) rfl (Event.videoClocked_of_header? rfl hfreq)))
      (hR.notifyReceiverOfFecPacket env stack hfreq _)
    split at h
    · -- the FEC receiver refused the packet
      cases h
      exact hR.trans (rel_ite hfec hread) (hR.record _ _ _ (by rfl) (by rfl))
    · -- the recovered packets are handed back one by one
      refine hR.trans ?_ (handBack_keeps hR.refl hR.trans (hback .recovered) _ _ _ _ h)
      exact hR.trans (hR.trans (rel_ite hfec hread) (hR.record _ _ _ (by rfl) (by rfl)))
        (hR.fec _ _)
  rw [if_neg hred] at h
  split_ifs at h
  all_goals try (cases h; exact hR.refl s)
  -- RTX: `RestoreOriginalPacket`, then the restored packet handed back with the flag set
  dsimp only at h
  have hrestore := hR.record s stack (.restoreOriginalPacket packet.length) rfl rfl
  split at h
  · -- the packet could not be restored
    cases h; exact hrestore
  · split at h
    · cases h
    · -- the restored packet's activation keeps `R`, and so does clearing the flag
      next hrestored =>
      cases h
      exact hR.trans (hR.trans hrestore (hR.restored _ _ _))
        (hR.trans (hback _ _ _ _ _ hrestored) (hR.restored _ _ false))

/-- Every activation of `ReceivePacket`, and every activation it calls back, at every depth,
keeps `R`. -/
theorem KeptBelowInsert.receivePacket :
    ∀ fuel stack packet header inOrder (s s' : ViEReceiver ρ φ) r,
      header.payloadTypeFrequency = kVideoPayloadTypeFrequency →
      receivePacket env fuel stack packet header inOrder s = some (r, s') → R s s'
  | 0, _, _, _, _, _, _, _, _, h => by cases h
  | fuel + 1, stack, packet, header, inOrder, s, s', r, hfreq, h => by
    simp only [ViEReceiver.receivePacket] at h
    have hsub := hR.record s stack (.sizeSub packet.length header.headerLength) rfl rfl
    split_ifs at h
    · -- an encapsulated packet
      refine hR.parseAndHandleEncapsulatingHeader env (fun source rtpPacket s r s' h => ?_) hfreq h
      -- `OnRecoveredPacket` gives the packet it parses the clock of video
      rcases onRecoveredPacket_cases env h with rfl | ⟨_, _, _, h⟩
      · exact hR.refl _
      · exact KeptBelowInsert.receivePacket fuel _ _ _ _ _ _ _ rfl h
    · -- a plain packet handed to the RTP receiver
      cases h
      exact hR.trans hsub (hR.record _ _ _ rfl (Event.videoClocked_of_header? rfl hfreq))
    · -- a payload type with no specifics
      cases h; exact hsub

end Kept

variable (env : Env ρ φ)

/-- What `InsertRTPPacket` can do: return at the gate or the parse leaving the receiver as it
was, or run its prologue and one `ReceivePacket` activation, and then call the receive
statistics. -/
theorem insertRTPPacket_eq_some {fuel : Nat} {rtpPacket : List UInt8} {packetTime : PacketTime}
    {nowMs : Int} {s s' : ViEReceiver ρ φ} {ret : Int}
    (h : insertRTPPacket env fuel rtpPacket packetTime nowMs s = some (ret, s')) :
    s' = s ∨ ∃ header ok s₂ retransmitted,
      receivePacket env fuel [] rtpPacket
        { header with payloadTypeFrequency := kVideoPayloadTypeFrequency }
        (isPacketInOrder env { header with payloadTypeFrequency := kVideoPayloadTypeFrequency })
        (insertRTPPacketPrologue env rtpPacket header packetTime nowMs s) = some (ok, s₂) ∧
      s' = s₂.record [] (.incomingPacket
        { header with payloadTypeFrequency := kVideoPayloadTypeFrequency } rtpPacket.length
        retransmitted) := by
  unfold insertRTPPacket at h
  by_cases hreceiving : (!s.receiving) = true
  · rw [if_pos hreceiving] at h; cases h; exact .inl rfl
  rw [if_neg hreceiving] at h
  split at h
  · cases h; exact .inl rfl
  obtain ⟨⟨ok, s₂⟩, hreceive, h⟩ := Option.map_eq_some'.1 h
  cases h
  exact .inr ⟨_, ok, s₂, _, hreceive, rfl⟩

/-! ### The bandwidth estimator and the receive statistics -/

/-- A run from `s` to `s'` puts entries satisfying `P` in front of the trace of `s`, and
removes none. -/
def Extends (P : Entry → Prop) (s s' : ViEReceiver ρ φ) : Prop :=
  ∃ added, s'.trace = added ++ s.trace ∧ ∀ e ∈ added, P e

/-- The receive path below `InsertRTPPacket` only puts entries in front of the trace; none of
them is a call of the bandwidth estimator or of the receive statistics, and each hands on only
headers with the clock of video. -/
theorem keptBelowInsert_extends :
    KeptBelowInsert (Extends (ρ := ρ) (φ := φ) fun e =>
      e.event.isStatistics = false ∧ e.event.videoClocked = true) where
  refl _ := ⟨[], rfl, nofun⟩
  trans := fun ⟨a₁, h₁, p₁⟩ ⟨a₂, h₂, p₂⟩ =>
    ⟨a₂ ++ a₁, by rw [h₂, h₁, List.append_assoc],
      fun e he => (List.mem_append.1 he).elim (p₂ e) (p₁ e)⟩
  record _ stack event h hv := ⟨[⟨stack, event⟩], rfl, by simpa using And.intro h hv⟩
  fec _ _ := ⟨[], rfl, nofun⟩
  restored _ _ _ := ⟨[], rfl, nofun⟩

theorem trace_insertRTPPacketPrologue (rtpPacket : List UInt8) (header : RTPHeader)
    (packetTime : PacketTime) (nowMs : Int) (s : ViEReceiver ρ φ) :
    ∃ arrivalTimeMs payloadLength,
      (insertRTPPacketPrologue env rtpPacket header packetTime nowMs s).trace =
        ⟨[], .bitrateEstimate arrivalTimeMs payloadLength header⟩ ::
          ⟨[], .sizeSub rtpPacket.length header.headerLength⟩ :: s.trace := by
  unfold insertRTPPacketPrologue; dsimp only
  split <;> exact ⟨_, _, rfl⟩

/-- What `InsertRTPPacket` does to the trace: nothing, at the gate or the parse, or it puts in
front the prologue's subtraction and call of the bandwidth estimator with the parsed header,
then the entries of `ReceivePacket`, none of them a statistics call and each handing on only
headers with the clock of video, and last the call of the receive statistics, with the header
given that clock. -/
theorem trace_insertRTPPacket {fuel : Nat} {rtpPacket : List UInt8} {packetTime : PacketTime}
    {nowMs : Int} {s s' : ViEReceiver ρ φ} {ret : Int}
    (h : insertRTPPacket env fuel rtpPacket packetTime nowMs s = some (ret, s')) :
    s' = s ∨ ∃ header added arrivalTimeMs payloadLength retransmitted,
      s'.trace = ⟨[], .incomingPacket { header with payloadTypeFrequency := kVideoPayloadTypeFrequency }
          rtpPacket.length retransmitted⟩ :: (added ++
        ⟨[], .bitrateEstimate arrivalTimeMs payloadLength header⟩ ::
          ⟨[], .sizeSub rtpPacket.length header.headerLength⟩ :: s.trace) ∧
      ∀ e ∈ added, e.event.isStatistics = false ∧ e.event.videoClocked = true := by
  rcases insertRTPPacket_eq_some env h with rfl | ⟨header, _, _, retransmitted, hreceive, rfl⟩
  · exact .inl rfl
  obtain ⟨added, htrace, hadded⟩ :=
    keptBelowInsert_extends.receivePacket env _ _ _ _ _ _ _ _ rfl hreceive
  obtain ⟨arrivalTimeMs, payloadLength, hprologue⟩ :=
    trace_insertRTPPacketPrologue env rtpPacket header packetTime nowMs s
  exact .inr ⟨header, added, arrivalTimeMs, payloadLength, retransmitted,
    by rw [trace_record, htrace, hprologue], hadded⟩

end ViEReceiver

/-- The calls of the bandwidth estimator and of the receive statistics in a trace are all
outside every `OnRecoveredPacket` activation, and equally many. -/
def StatisticsInv (trace : List Entry) : Prop :=
  (∀ e ∈ trace, e.event.isStatistics = true → e.stack = []) ∧
    trace.countP (·.event.isIncomingPacket) = trace.countP (·.event.isBitrateEstimate)

/-- One `InsertRTPPacket` keeps the invariant: it calls the bandwidth estimator and the
receive statistics once each at top level, and what `ReceivePacket` adds between them is
neither. -/
theorem StatisticsInv.insert {trace added : List Entry} (h : StatisticsInv trace)
    (hadded : ∀ e ∈ added, e.event.isStatistics = false) (header header' : RTPHeader)
    (length payloadLength minuend subtrahend : Nat) (retransmitted : Bool) (arrivalTimeMs : Int) :
    StatisticsInv (⟨[], .incomingPacket header length retransmitted⟩ :: (added ++
      ⟨[], .bitrateEstimate arrivalTimeMs payloadLength header'⟩ ::
        ⟨[], .sizeSub minuend subtrahend⟩ :: trace)) := by
  have hinc : added.countP (·.event.isIncomingPacket) = 0 :=
    List.countP_eq_zero.2 fun e he => by simp [Event.isIncomingPacket_eq_false (hadded e he)]
  have hest : added.countP (·.event.isBitrateEstimate) = 0 :=
    List.countP_eq_zero.2 fun e he => by simp [Event.isBitrateEstimate_eq_false (hadded e he)]
  refine ⟨fun e he hs => ?_, ?_⟩
  · -- the two new statistics calls are at top level, and the entries between them are none
    simp only [List.mem_cons, List.mem_append] at he
    rcases he with rfl | he | rfl | rfl | he
    · rfl
    · rw [hadded e he] at hs; cases hs
    · rfl
    · cases hs
    · exact h.1 e he hs
  · -- one call of each is added
    simp only [List.countP_cons, List.countP_append, hinc, hest, h.2]
    simp [Event.isIncomingPacket, Event.isBitrateEstimate]

theorem ViEReceiver.insertRTPPacket_statisticsInv {ρ φ : Type} (env : ViEReceiver.Env ρ φ)
    {fuel : Nat} {rtpPacket : List UInt8} {packetTime : PacketTime} {nowMs : Int}
    {s s' : ViEReceiver ρ φ} {ret : Int}
    (h : insertRTPPacket env fuel rtpPacket packetTime nowMs s = some (ret, s'))
    (hinv : StatisticsInv s.trace) : StatisticsInv s'.trace := by
  rcases trace_insertRTPPacket env h with rfl | ⟨_, _, _, _, _, htrace, hadded⟩
  · exact hinv
  rw [htrace]
  exact hinv.insert (fun e he => (hadded e he).1) _ _ _ _ _ _ _ _

/-- **Statistics count packets from the network, once.** In every reachable receiver, whatever
its collaborators, `RemoteBitrateEstimator::IncomingPacket` and
`ReceiveStatistics::IncomingPacket` were called only by `InsertRTPPacket` itself, outside every
`OnRecoveredPacket` activation, so never for a packet the FEC receiver recovered or the RTX
branch restored; and they were called equally often. -/
theorem statistics_of_network_packets {ρ φ : Type} (env : ViEReceiver.Env ρ φ)
    {s : ViEReceiver ρ φ} (h : ViEReceiver.Reachable env s) : StatisticsInv s.trace :=
  ViEReceiver.Reachable.flag_trace env (fun _ trace => StatisticsInv trace) ⟨nofun, rfl⟩
    (fun _ _ _ _ _ _ _ hinv hins => ViEReceiver.insertRTPPacket_statisticsInv env hins hinv) h

/-- The RTX packet `rtxPacket` is counted once, although its restored packet runs through
`ReceivePacket` a second time. -/
theorem statistics_of_network_packets_rtx :
    ∃ s, ViEReceiver.Reachable .configured s ∧
      s.trace.countP (·.event.isIncomingPacket) = 1 ∧ StatisticsInv s.trace :=
  have h : ViEReceiver.Reachable .configured _ :=
    .step 2 (.insertRTPPacket rtxPacket ⟨-1⟩ 0) (.step 0 .startReceive (.init () []) rfl) rfl
  ⟨_, h, by decide, statistics_of_network_packets .configured h⟩

/-! ### The clock of video -/

/-- Every header in the trace that went to a collaborator other than the bandwidth estimator
carries the clock of video. -/
def VideoClockInv (trace : List Entry) : Prop :=
  ∀ e ∈ trace, e.event.isBitrateEstimate = false → e.event.videoClocked = true

/-- One `InsertRTPPacket` keeps the invariant: the receive statistics get the header with the
clock of video, and what `ReceivePacket` adds hands on only such headers. -/
theorem VideoClockInv.insert {trace added : List Entry} (h : VideoClockInv trace)
    (hadded : ∀ e ∈ added, e.event.videoClocked = true) (header header' : RTPHeader)
    (length payloadLength minuend subtrahend : Nat) (retransmitted : Bool) (arrivalTimeMs : Int) :
    VideoClockInv (⟨[], .incomingPacket
        { header with payloadTypeFrequency := ViEReceiver.kVideoPayloadTypeFrequency } length
        retransmitted⟩ :: (added ++
      ⟨[], .bitrateEstimate arrivalTimeMs payloadLength header'⟩ ::
        ⟨[], .sizeSub minuend subtrahend⟩ :: trace)) := by
  intro e he hb
  simp only [List.mem_cons, List.mem_append] at he
  rcases he with rfl | he | rfl | rfl | he
  · exact Event.videoClocked_of_header? rfl rfl
  · exact hadded e he
  · cases hb
  · rfl
  · exact h e he hb

/-- **Every packet is handed on with the clock of video.** In every reachable receiver,
whatever its collaborators, every RTP header the receive path handed to the RTP receiver
(`IncomingRtpPacket`), to the receive statistics (`FecPacketReceived`, `IncomingPacket`) and
to the video coding module (the FEC notification) has `payload_type_frequency` set to
`kVideoPayloadTypeFrequency`: for packets from the network, and for the packets FEC recovers
and RTX restores, at every depth, which `OnRecoveredPacket` parses afresh. Only the bandwidth
estimator, which `InsertRTPPacket` calls before it sets the field, gets the header as parsed. -/
theorem headers_video_clocked {ρ φ : Type} (env : ViEReceiver.Env ρ φ) {s : ViEReceiver ρ φ}
    (h : ViEReceiver.Reachable env s) :
    ∀ e ∈ s.trace, e.event.isBitrateEstimate = false → e.event.videoClocked = true :=
  ViEReceiver.Reachable.flag_trace env (fun _ trace => VideoClockInv trace) nofun
    (fun _ _ _ _ _ _ _ hinv hins => by
      rcases ViEReceiver.trace_insertRTPPacket env hins with rfl | ⟨_, _, _, _, _, htrace, hadded⟩
      · exact hinv
      rw [htrace]
      exact hinv.insert (fun e he => (hadded e he).2) _ _ _ _ _ _ _ _) h

/-- The RTX packet `rtxPacket`, whose restored packet goes through `ReceivePacket` a second
time, inside `OnRecoveredPacket`, and reaches the RTP receiver. -/
theorem headers_video_clocked_rtx :
    ∃ s, ViEReceiver.Reachable .configured s ∧
      s.trace.any (fun e => !e.stack.isEmpty && e.event.header?.isSome) = true ∧
      ∀ e ∈ s.trace, e.event.isBitrateEstimate = false → e.event.videoClocked = true :=
  have h : ViEReceiver.Reachable .configured _ :=
    .step 2 (.insertRTPPacket rtxPacket ⟨-1⟩ 0) (.step 0 .startReceive (.init () []) rfl) rfl
  ⟨_, h, by decide, headers_video_clocked .configured h⟩

end WebRtcCall
