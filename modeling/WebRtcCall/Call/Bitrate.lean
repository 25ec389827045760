import Mathlib.Data.List.Chain
import WebRtcCall.Call.Lifecycle

/-!
# The bitrate governor

`Call::Call` checks the bitrate configuration it is given and hands it to
`CongestionController::SetBweBitrates`. `Call::SetBitrateConfig` checks a new configuration,
and stores it in `config_.bitrate_config` and hands it on, unless it asks for nothing new: the
same minimum and maximum, and the same start or a start that is not positive (the early return
"to avoid encoder reconfigurations", `nothingNewToSet`). The calls of `SetBweBitrates` are
kept, newest first (`BitrateState.bweCalls`).

Over every run from a constructed call, the controller was last given
`config_.bitrate_config`, and no two successive calls of `SetBweBitrates` carry the same
bitrates (`bitrate_governor_invariant`). It rests on `nothingNewToSet_self`: a configuration
asks for nothing new over itself, so every call the governor lets through differs from the
stored one.
`SetBitrateConfig` checks less than the constructor: not the start against the minimum, nor
the maximum against the start.
-/

namespace WebRtcCall

/-- `Call::Config::BitrateConfig`, in bits per second; a maximum of `-1` is no maximum. -/
structure BitrateConfig where
  minBitrateBps : Int
  startBitrateBps : Int
  maxBitrateBps : Int
  deriving DecidableEq, Repr

/-- What the bitrate configuration of a `Call` reaches: `config_.bitrate_config`, and the
bitrates of the calls `congestion_controller_->SetBweBitrates(min, start, max)` made so far,
newest first. -/
structure BitrateState where
  bitrateConfig : BitrateConfig
  bweCalls : List BitrateConfig
  deriving DecidableEq, Repr

namespace BitrateState

/-- `Call::Call(config)`: the `RTC_DCHECK`s on `config.bitrate_config`, then
`SetBweBitrates` with it. -/
def init (bitrateConfig : BitrateConfig) : Except String BitrateState := do
  Call.rtcCheck (0 ≤ bitrateConfig.minBitrateBps) "config.bitrate_config.min_bitrate_bps >= 0"
  Call.rtcCheck (bitrateConfig.minBitrateBps ≤ bitrateConfig.startBitrateBps)
    "config.bitrate_config.start_bitrate_bps >= config.bitrate_config.min_bitrate_bps"
  if bitrateConfig.maxBitrateBps ≠ -1 then
    Call.rtcCheck (bitrateConfig.startBitrateBps ≤ bitrateConfig.maxBitrateBps)
      "config.bitrate_config.max_bitrate_bps >= config.bitrate_config.start_bitrate_bps"
  pure ⟨bitrateConfig, [bitrateConfig]⟩

/-- The condition of the early return of `Call::SetBitrateConfig`: `bitrateConfig` asks for
nothing new over the stored `current`. -/
def nothingNewToSet (current bitrateConfig : BitrateConfig) : Bool :=
  current.minBitrateBps == bitrateConfig.minBitrateBps &&
    (bitrateConfig.startBitrateBps ≤ 0 ||
      current.startBitrateBps == bitrateConfig.startBitrateBps) &&
    current.maxBitrateBps == bitrateConfig.maxBitrateBps

/-- `Call::SetBitrateConfig(bitrate_config)`. -/
def setBitrateConfig (s : BitrateState) (bitrateConfig : BitrateConfig) :
    Except String BitrateState := do
  Call.rtcCheck (0 ≤ bitrateConfig.minBitrateBps) "bitrate_config.min_bitrate_bps >= 0"
  if bitrateConfig.maxBitrateBps ≠ -1 then
    Call.rtcCheck (0 < bitrateConfig.maxBitrateBps) "bitrate_config.max_bitrate_bps > 0"
  if nothingNewToSet s.bitrateConfig bitrateConfig then pure s
  else pure ⟨bitrateConfig, bitrateConfig :: s.bweCalls⟩

theorem nothingNewToSet_self (b : BitrateConfig) : nothingNewToSet b b = true := by
  simp [nothingNewToSet]

theorem init_eq_ok {b : BitrateConfig} {s : BitrateState} :
    init b = .ok s ↔
      (0 ≤ b.minBitrateBps ∧ b.minBitrateBps ≤ b.startBitrateBps ∧
        (b.maxBitrateBps ≠ -1 → b.startBitrateBps ≤ b.maxBitrateBps)) ∧ s = ⟨b, [b]⟩ := by
  unfold init
  by_cases hmax : b.maxBitrateBps ≠ -1 <;>
    simp [hmax, Call.rtcCheck_bind_eq_ok, Call.rtcCheck_eq_ok, pure, Except.pure, @eq_comm _ s, and_assoc]

/-- What `SetBitrateConfig` can do: pass its `RTC_DCHECK`s and then return early or store and
hand on the new configuration. -/
theorem setBitrateConfig_eq_ok {s s' : BitrateState} {b : BitrateConfig} :
    s.setBitrateConfig b = .ok s' ↔
      (0 ≤ b.minBitrateBps ∧ (b.maxBitrateBps ≠ -1 → 0 < b.maxBitrateBps)) ∧
        s' = if nothingNewToSet s.bitrateConfig b then s else ⟨b, b :: s.bweCalls⟩ := by
  unfold setBitrateConfig
  by_cases hmax : b.maxBitrateBps ≠ -1 <;> by_cases hnew : nothingNewToSet s.bitrateConfig b <;>
    simp [hmax, hnew, Call.rtcCheck_bind_eq_ok, Call.rtcCheck_eq_ok, pure, Except.pure,
      @eq_comm _ s', and_assoc]

/-- The states a constructed call reaches by calls of `SetBitrateConfig`. -/
inductive Reachable : BitrateState → Prop
  | init {b : BitrateConfig} {s : BitrateState} : init b = .ok s → Reachable s
  | step {s s' : BitrateState} {b : BitrateConfig} :
      Reachable s → s.setBitrateConfig b = .ok s' → Reachable s'

/-- The controller was last given the stored configuration, and no two successive calls of
`SetBweBitrates` carry the same bitrates. -/
def Mirrors (s : BitrateState) : Prop :=
  s.bweCalls.head? = some s.bitrateConfig ∧ s.bweCalls.Chain' (· ≠ ·)

theorem Mirrors.setBitrateConfig {s s' : BitrateState} {b : BitrateConfig} (h : s.Mirrors)
    (hset : s.setBitrateConfig b = .ok s') : s'.Mirrors := by
  obtain ⟨-, rfl⟩ := setBitrateConfig_eq_ok.1 hset
  by_cases hnew : nothingNewToSet s.bitrateConfig b
  · rwa [if_pos hnew]
  rw [if_neg hnew]
  obtain ⟨hhead, hchain⟩ := h
  have hne : b ≠ s.bitrateConfig := fun e => hnew (e ▸ nothingNewToSet_self b)
  refine ⟨rfl, List.chain'_cons'.2 ⟨fun c hc => ?_, hchain⟩⟩
  rw [hhead, Option.mem_some_iff] at hc
  exact hc ▸ hne

end BitrateState

/-- **The controller mirrors the stored configuration.** In every state a constructed call
reaches by calls of `SetBitrateConfig`, the last call of `SetBweBitrates` carried
`config_.bitrate_config`, and no two successive calls carried the same bitrates: a call the
early return does not stop always reconfigures the controller. -/
theorem bitrate_governor_invariant {s : BitrateState} (h : s.Reachable) : s.Mirrors := by
  induction h with
  | init hinit =>
    obtain ⟨-, rfl⟩ := BitrateState.init_eq_ok.1 hinit
    exact ⟨rfl, List.chain'_singleton _⟩
  | step _ hset ih => exact ih.setBitrateConfig hset

/-- The constructor's configuration, then a new minimum with a start that is not positive:
the controller is reconfigured once more, and mirrors the stored configuration. -/
theorem bitrate_governor_invariant_two_calls :
    ∃ s, BitrateState.Reachable s ∧ s.bweCalls.length = 2 ∧ s.Mirrors := by
  obtain ⟨s₀, h₀⟩ : ∃ s, BitrateState.init ⟨100000, 300000, 1000000⟩ = .ok s :=
    ⟨_, BitrateState.init_eq_ok.2 ⟨by decide, rfl⟩⟩
  obtain ⟨s₁, h₁⟩ : ∃ s, s₀.setBitrateConfig ⟨50000, -1, 1000000⟩ = .ok s :=
    ⟨_, BitrateState.setBitrateConfig_eq_ok.2 ⟨by decide, rfl⟩⟩
  have hs : BitrateState.Reachable s₁ := .step (.init h₀) h₁
  refine ⟨s₁, hs, ?_, bitrate_governor_invariant hs⟩
  obtain ⟨-, rfl⟩ := BitrateState.init_eq_ok.1 h₀
  obtain ⟨-, rfl⟩ := BitrateState.setBitrateConfig_eq_ok.1 h₁
  decide

end WebRtcCall
