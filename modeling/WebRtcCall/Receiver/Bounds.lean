import WebRtcCall.Receiver.Collaborators

/-!
# The bytes the receive path reads

The receive path hands the buffer to its collaborators and reads one byte of it itself:
`packet[header.headerLength]`, in the RED branch of `ParseAndHandleEncapsulatingHeader`, to see
whether the block is ULPFEC. It also subtracts the header's length from the buffer's length, in
`InsertRTPPacket` and in `ReceivePacket`.

Whenever the header parser keeps its contract (`Env.ParserContract`: a header it accepts fits in
the packet with its padding), every activation works on a buffer whose header fits in it,
including the restored and the recovered buffers, which `OnRecoveredPacket` parses again. So no
subtraction wraps, and the byte read lies at most one past the end of its buffer
(`reachable_withinBuffer`). One past the end is reached: a RED packet that is all header, which
the parser accepts, makes the RED branch read the byte after the buffer
(`insertRTPPacket_reads_past_red_header`).
-/

namespace WebRtcCall

/-- The contract of `RtpHeaderParser::Parse` that the receive path relies on: a header it
accepts fits in the packet with its padding. -/
def ViEReceiver.Env.ParserContract {ρ φ : Type} (env : ViEReceiver.Env ρ φ) : Prop :=
  ∀ packet header, env.parse packet = some header →
    header.headerLength + header.paddingLength ≤ packet.length

/-- The byte an event reads lies at most one past the end of its buffer, and the `size_t`
subtraction it makes does not wrap. -/
def Event.WithinBuffer : Event → Prop
  | .read index length => index ≤ length
  | .sizeSub minuend subtrahend => subtrahend ≤ minuend
  | _ => True

/-- A RTP packet that is all header: twelve bytes of version 2 with payload type 116, which
`Env.configured` takes as RED, from SSRC 1. -/
def emptyRedPacket : List UInt8 := [0x80, 116, 0, 0, 0, 0, 0, 0, 0, 0, 0, 1]

/-- What an activation records itself is within its buffer when the header fits in it. -/
theorem Entry.Local.withinBuffer {stack : List Source} {packet : List UInt8}
    {header : RTPHeader} {e : Entry} (hfits : header.headerLength ≤ packet.length)
    (h : e.Local stack packet header) : e.event.WithinBuffer := by
  obtain ⟨_, event⟩ := e
  obtain ⟨-, h⟩ := h
  cases event <;> simp only [Event.OnBuffer, Event.WithinBuffer] at h ⊢ <;> omega

namespace ViEReceiver

variable {ρ φ : Type} (env : Env ρ φ)

/-- Every activation of `ReceivePacket` on a buffer its header fits in, and every activation it
calls back, reads and subtracts within their buffers. -/
theorem receivePacket_withinBuffer (hparse : env.ParserContract) :
    ∀ fuel stack packet header inOrder (s s' : ViEReceiver ρ φ) r,
      header.headerLength ≤ packet.length →
      receivePacket env fuel stack packet header inOrder s = some (r, s') →
      AddsOnly (fun e => e.event.WithinBuffer) s s'
  | 0, _, _, _, _, _, _, _, _, h => by cases h
  | fuel + 1, stack, packet, header, inOrder, s, s', r, hfits, h => by
    have hback : ∀ source rtpPacket (s : ViEReceiver ρ φ) r s',
        onRecoveredPacket env (receivePacket env fuel (source :: stack)) rtpPacket s =
          some (r, s') → AddsOnly (fun e => e.event.WithinBuffer) s s' := by
      intro source rtpPacket s r s' h
      -- a packet the parser accepts fits its header, by the parser's contract
      rcases onRecoveredPacket_cases env h with rfl | ⟨header', _, hparsed, h⟩
      · exact .refl _
      · have := hparse _ _ hparsed
        exact receivePacket_withinBuffer hparse fuel _ _ _ _ _ _ _ (by simp; omega) h
    rcases receivePacket_succ_cases env h with h | ⟨-, hlocal⟩
    · rcases parseAndHandleEncapsulatingHeader_cases env h with
        ⟨s₁, hs', -, hlocal⟩ | ⟨-, -, hs'⟩ | rfl
      · -- RED
        have h₁ := hlocal.mono fun e he => he.withinBuffer hfits
        rcases hs' with rfl | ⟨packets, hs'⟩
        · exact h₁
        · exact h₁.trans (handBack_keeps .refl (fun h₁ h₂ => h₁.trans h₂) (hback .recovered) _ _ _ _ hs')
      · -- RTX
        have h₁ : AddsOnly (fun e => e.event.WithinBuffer) s
            (s.record stack (.restoreOriginalPacket packet.length)) :=
          AddsOnly.record (.refl s) trivial
        rcases hs' with rfl | ⟨restored, s₂, hs₂, rfl⟩
        · exact h₁
        · exact h₁.trans ((AddsOnly.of_trace_eq rfl).trans
            ((hback .restored _ _ _ _ hs₂).trans (.of_trace_eq rfl)))
      · -- every other return leaves the receiver as it was
        exact .refl _
    · -- a packet that is not encapsulated: its own subtraction, with the header in the buffer
      exact hlocal.mono fun e he => he.withinBuffer hfits

theorem insertRTPPacket_withinBuffer (hparse : env.ParserContract) {fuel : Nat}
    {rtpPacket : List UInt8} {packetTime : PacketTime} {nowMs : Int} {s s' : ViEReceiver ρ φ}
    {ret : Int} (h : insertRTPPacket env fuel rtpPacket packetTime nowMs s = some (ret, s')) :
    AddsOnly (fun e => e.event.WithinBuffer) s s' := by
  rcases insertRTPPacket_cases env h with rfl | ⟨header, _, _, _, hparsed, h₂, -, h₃⟩
  · -- not receiving, or the parser refused the packet
    exact .refl _
  · have hfits : header.headerLength ≤ rtpPacket.length := by
      have := hparse _ _ hparsed; omega
    have hlocal : ∀ {s s' : ViEReceiver ρ φ}, AddsOnly (Entry.Local [] rtpPacket header) s s' →
        AddsOnly (fun e => e.event.WithinBuffer) s s' :=
      fun h => h.mono fun e he => he.withinBuffer hfits
    exact (hlocal (addsOnly_insertRTPPacketPrologue env _ _ _ _ _)).trans
      ((receivePacket_withinBuffer env hparse _ _ _ _ _ _ _ _ (by exact hfits) h₂).trans (hlocal h₃))

/-- **No wrap, and at most one past the end.** In every receiver reached by calls whose header
parser keeps its contract, every `size_t` subtraction the receive path has made does not wrap,
and every byte it has read lies at most one past the end of its buffer, at every depth of
restored and recovered packets. -/
theorem reachable_withinBuffer (hparse : env.ParserContract) {s : ViEReceiver ρ φ}
    (h : Reachable env s) : ∀ e ∈ s.trace, e.event.WithinBuffer :=
  Reachable.flag_trace env (fun _ trace => ∀ e ∈ trace, e.event.WithinBuffer)
    (by simp) (fun _ _ _ _ _ _ _ hs hins => (insertRTPPacket_withinBuffer env hparse hins).forall_mem hs) h

end ViEReceiver

/-- The parser of `Env.configured` keeps its contract, so every read and subtraction of the
RED packet that is all header stays within its buffer; its read of byte 12 of the 12-byte
buffer is the one past the end. -/
theorem reachable_withinBuffer_red :
    ViEReceiver.Env.configured.ParserContract ∧ ∃ s, ViEReceiver.Reachable .configured s ∧
      (⟨[], .read 12 12⟩ : Entry) ∈ s.trace ∧ ∀ e ∈ s.trace, e.event.WithinBuffer :=
  have hp : ViEReceiver.Env.configured.ParserContract := fun _ _ => parseRtpHeader_fits
  have h : ViEReceiver.Reachable .configured _ :=
    .step 2 (.insertRTPPacket emptyRedPacket ⟨-1⟩ 0) (.step 0 .startReceive (.init () []) rfl) rfl
  ⟨hp, _, h, by decide, ViEReceiver.reachable_withinBuffer .configured hp h⟩

/-- The RED branch reads one past the end: `InsertRTPPacket` of `emptyRedPacket`, which the
parser accepts with a header that ends at the buffer's end, reads byte 12 of the 12-byte
buffer. -/
theorem insertRTPPacket_reads_past_red_header :
    ViEReceiver.Env.configured.ParserContract ∧
      ∃ s, ViEReceiver.Reachable .configured s ∧ (⟨[], .read 12 12⟩ : Entry) ∈ s.trace :=
  ⟨fun _ _ => parseRtpHeader_fits, _,
    .step 2 (.insertRTPPacket emptyRedPacket ⟨-1⟩ 0) (.step 0 .startReceive (.init () []) rfl) rfl,
    by decide⟩

end WebRtcCall
