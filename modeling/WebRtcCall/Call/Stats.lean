import WebRtcCall.Call.Invariant

/-!
# `GetStats`

`Call::GetStats` copies three answers of the congestion controller into `Stats`, and sets
`rtt_ms` in a loop over `video_send_ssrcs_`: each stream answers `GetRtt()`, and a positive
answer overwrites the field. So the field keeps the value it is constructed with when no
stream answers a positive round-trip time, and otherwise holds the answer of the stream at
the greatest SSRC among those that answer one (`rttLoop_spec`).

* `getStats_rtt_ms`: in every state reachable by admissible calls, `rtt_ms` is the
  constructed value and no stream answered a positive time, or it is the positive answer of a
  live video send stream at an SSRC the stream sends on, and every stream at a greater SSRC
  answered no positive time.
-/

namespace WebRtcCall

/-- What `Call::GetStats` asks of the congestion controller and of the video send streams. -/
structure StatsAnswers where
  /-- `BitrateController::AvailableBandwidth`. -/
  availableBandwidth : UInt32
  /-- `RemoteBitrateEstimator::LatestEstimate`: the receive bandwidth. -/
  latestEstimate : UInt32
  /-- `CongestionController::GetPacerQueuingDelayMs`. -/
  pacerQueuingDelayMs : Int
  /-- `VideoSendStream::GetRtt` of the stream at each address. -/
  getRtt : Ptr → Int

/-- `Call::Stats`, with the types of the values `GetStats` assigns to its fields. -/
structure Stats where
  sendBandwidthBps : UInt32
  recvBandwidthBps : UInt32
  pacerDelayMs : Int
  rttMs : Int
  deriving DecidableEq, Repr

namespace Call

/-- The loop of `GetStats` over the streams of `video_send_ssrcs_`: a positive `GetRtt()`
overwrites `rtt_ms`. -/
def rttLoop (getRtt : Ptr → Int) (rttMs : Int) : List Ptr → Int
  | [] => rttMs
  | p :: ps => rttLoop getRtt (if getRtt p > 0 then getRtt p else rttMs) ps

/-- `Call::GetStats()`, from `stats`, the value `Stats()` constructs (its initialisers are
not part of this source). -/
def getStats (c : Call) (answers : StatsAnswers) (stats : Stats) : Stats :=
  { stats with
    sendBandwidthBps := answers.availableBandwidth
    recvBandwidthBps := answers.latestEstimate
    pacerDelayMs := answers.pacerQueuingDelayMs
    rttMs := rttLoop answers.getRtt stats.rttMs c.videoSendSsrcs.values }

/-- Over entries in increasing key order, the loop ends with the value it starts from when no
stream answers a positive time, and otherwise with the answer of the stream at the greatest
key among those that answer one. -/
theorem rttLoop_spec (getRtt : Ptr → Int) :
    ∀ (l : List (Ssrc × Ptr)) (rttMs : Int), l.Sorted (·.1 < ·.1) →
      (rttLoop getRtt rttMs (l.map Prod.snd) = rttMs ∧ ∀ e ∈ l, getRtt e.2 ≤ 0) ∨
      ∃ e ∈ l, 0 < getRtt e.2 ∧ rttLoop getRtt rttMs (l.map Prod.snd) = getRtt e.2 ∧
        ∀ e' ∈ l, e.1 < e'.1 → getRtt e'.2 ≤ 0
  | [], _, _ => .inl ⟨rfl, nofun⟩
  | x :: xs, rttMs, hl => by
    obtain ⟨hx, hxs⟩ := List.sorted_cons.1 hl
    simp only [List.map_cons, rttLoop, List.mem_cons, forall_eq_or_imp, exists_eq_or_imp]
    generalize hacc : (if getRtt x.2 > 0 then getRtt x.2 else rttMs) = acc
    rcases rttLoop_spec getRtt xs acc hxs with ⟨hrtt, hall⟩ | ⟨e, he, hpos, hrtt, hlater⟩
    · by_cases hp : getRtt x.2 > 0
      · -- `x` is the last stream with a positive answer
        rw [if_pos hp] at hacc; subst hacc
        exact .inr (.inl ⟨hp, hrtt, (absurd · (lt_irrefl _)), fun e' he' _ => hall e' he'⟩)
      · rw [if_neg hp] at hacc; subst hacc
        exact .inl ⟨hrtt, not_lt.1 hp, hall⟩
    · -- a later stream answered, and `x` comes before it
      exact .inr (.inr ⟨e, he, hpos, hrtt, fun hlt => absurd (hx e he) (not_lt.2 hlt.le),
        hlater⟩)

end Call

/-- **`rtt_ms` is the last positive round-trip time.** In every state reachable by admissible
calls, for all answers of the streams and of the congestion controller, the `rtt_ms` of
`GetStats` is the value `Stats()` gives it when no stream of `video_send_ssrcs_` answers a
positive `GetRtt()`; otherwise it is the positive answer of a live video send stream, at an
SSRC it sends on, and no stream at a greater SSRC answered a positive one. -/
theorem getStats_rtt_ms {c : Call} (h : Reachable Op.Admissible c) (answers : StatsAnswers)
    (stats : Stats) :
    ((c.getStats answers stats).rttMs = stats.rttMs ∧
        ∀ k p, c.videoSendSsrcs.find k = some p → answers.getRtt p ≤ 0) ∨
      ∃ k p, c.videoSendSsrcs.find k = some p ∧ 0 < answers.getRtt p ∧
        (c.getStats answers stats).rttMs = answers.getRtt p ∧
        (∃ config, c.videoSends.project (·.config) p = some config ∧ k ∈ config.rtp.ssrcs) ∧
        ∀ k' p', k < k' → c.videoSendSsrcs.find k' = some p' → answers.getRtt p' ≤ 0 := by
  rcases Call.rttLoop_spec answers.getRtt c.videoSendSsrcs.entries stats.rttMs
      c.videoSendSsrcs.sorted with ⟨hrtt, hall⟩ | ⟨⟨k, p⟩, he, hpos, hrtt, hlater⟩
  · exact .inl ⟨hrtt, fun k p hk => hall (k, p) ((StdMap.mem_entries_iff _).2 hk)⟩
  · have hk := (StdMap.mem_entries_iff _).1 he
    exact .inr ⟨k, p, hk, hpos, hrtt, h.sound.videoSend_find k p hk,
      fun k' p' hk' hp' => hlater (k', p') ((StdMap.mem_entries_iff _).2 hp') hk'⟩

/-- Two video send streams, the one at address `1` sending on SSRC `2` and answering 50 ms,
the one at address `3` sending on SSRC `5` and answering 30 ms: `rtt_ms` is the answer of the
stream at the greater SSRC, not the greater answer. -/
theorem getStats_rtt_ms_two_streams :
    ∃ c : Call, Reachable Op.Admissible c ∧ c.videoSendSsrcs.entries = [(2, 1), (5, 3)] ∧
      (c.getStats ⟨0, 0, 0, fun p => if p = 1 then 50 else 30⟩ ⟨0, 0, 0, -1⟩).rttMs = 30 ∧
      ∃ config, c.videoSends.project (·.config) 3 = some config ∧ 5 ∈ config.rtp.ssrcs := by
  obtain ⟨c, h, hc⟩ : ∃ c, Reachable Op.Admissible c ∧
      c.videoSendSsrcs.entries = [(2, 1), (5, 3)] :=
    Reachable.of_runAllowed true true
      [.createVideoSendStream ⟨⟨[5]⟩⟩ 3, .createVideoSendStream ⟨⟨[2]⟩⟩ 1] (by decide)
  have hfind : ∀ k p, c.videoSendSsrcs.find k = some p ↔ (k = 2 ∧ p = 1) ∨ (k = 5 ∧ p = 3) :=
    fun k p => by rw [← StdMap.mem_entries_iff, hc]; simp
  refine ⟨c, h, hc, ?_⟩
  rcases getStats_rtt_ms h ⟨0, 0, 0, fun p => if p = 1 then 50 else 30⟩ ⟨0, 0, 0, -1⟩ with
    ⟨-, hall⟩ | ⟨k, p, hk, -, hrtt, hcfg, hlater⟩
  · -- the stream at SSRC `2` answers a positive time
    exact absurd (hall 2 1 ((hfind 2 1).2 (.inl ⟨rfl, rfl⟩))) (by decide)
  · rcases (hfind k p).1 hk with ⟨rfl, rfl⟩ | ⟨rfl, rfl⟩
    · -- the stream at SSRC `5` answers after it
      exact absurd (hlater 5 3 (by decide) ((hfind 5 3).2 (.inr ⟨rfl, rfl⟩))) (by decide)
    · exact ⟨hrtt, hcfg⟩

end WebRtcCall
