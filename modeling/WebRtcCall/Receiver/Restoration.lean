import WebRtcCall.Receiver.Collaborators

/-!
# One RTX restoration at a time

The RTX branch of `ParseAndHandleEncapsulatingHeader` restores the original packet into the
scratch buffer `restored_packet_` and hands it to `OnRecoveredPacket`, with
`restored_packet_in_use_` set for as long as that activation runs. An RTX packet met inside
it, at any depth, finds the flag set and is dropped before `RestoreOriginalPacket` could write
the buffer the enclosing activation is reading.

The ghost stack of each trace entry names the sources of the enclosing `OnRecoveredPacket`
activations. In every activation the flag says whether one of them is on `restored_packet_`,
and every activation returns with the flag it was entered with, on every path: the RTX branch
clears the flag it set, and nothing else writes it. So in every reachable receiver the flag is
clear, at most one enclosing activation is on `restored_packet_`, and `RestoreOriginalPacket`
is called inside none of them, with a length that fits the buffer
(`restored_packet_exclusive`).
-/

namespace WebRtcCall

/-- What the RTX restoration guarantees of one entry of the trace: it happens inside at most
one activation on `restored_packet_`, and a call to `RestoreOriginalPacket` happens inside none,
with a length that fits the buffer of `size` bytes. -/
def Entry.RestoresExclusively (size : Nat) (e : Entry) : Prop :=
  e.stack.count .restored ≤ 1 ∧
    ∀ length, e.event = .restoreOriginalPacket length → .restored ∉ e.stack ∧ length ≤ size

/-- What an activation records outside the RTX branch keeps the guarantee, when at most one
enclosing activation is on `restored_packet_`. -/
theorem Entry.Local.restoresExclusively {stack : List Source} {packet : List UInt8}
    {header : RTPHeader} {e : Entry} (size : Nat) (hstack : stack.count .restored ≤ 1)
    (h : e.Local stack packet header) : e.RestoresExclusively size := by
  obtain ⟨rfl, hevent⟩ := h
  refine ⟨hstack, fun length he => ?_⟩
  rw [he] at hevent
  exact hevent.elim

namespace ViEReceiver

variable {ρ φ : Type} (env : Env ρ φ)

/-- The relation an activation in `stack` keeps between the receiver before and after: entered
with the flag saying whether an enclosing activation is on `restored_packet_`, it returns with
the same flag, and records only entries with the guarantee. -/
def KeepsRestoration (stack : List Source) (s s' : ViEReceiver ρ φ) : Prop :=
  s.restoredPacketInUse = decide (.restored ∈ stack) →
    s'.restoredPacketInUse = s.restoredPacketInUse ∧
      AddsOnly (Entry.RestoresExclusively env.restoredPacketSize) s s'

theorem KeepsRestoration.refl (stack : List Source) (s : ViEReceiver ρ φ) :
    KeepsRestoration env stack s s :=
  fun _ => ⟨rfl, .refl s⟩

theorem KeepsRestoration.trans {stack : List Source} {s₁ s₂ s₃ : ViEReceiver ρ φ}
    (h₁ : KeepsRestoration env stack s₁ s₂) (h₂ : KeepsRestoration env stack s₂ s₃) :
    KeepsRestoration env stack s₁ s₃ := fun hs₁ =>
  have ⟨hflag₁, hadd₁⟩ := h₁ hs₁
  have ⟨hflag₂, hadd₂⟩ := h₂ (hflag₁.trans hs₁)
  ⟨hflag₂.trans hflag₁, hadd₁.trans hadd₂⟩

/-- Every activation of `ReceivePacket` in activations of which at most one is on
`restored_packet_` keeps the restoration guarantee, and so does every activation it calls
back. -/
theorem receivePacket_keepsRestoration :
    ∀ fuel stack packet header inOrder (s s' : ViEReceiver ρ φ) r,
      stack.count .restored ≤ 1 →
      receivePacket env fuel stack packet header inOrder s = some (r, s') →
      KeepsRestoration env stack s s'
  | 0, _, _, _, _, _, _, _, _, h => by cases h
  | fuel + 1, stack, packet, header, inOrder, s, s', r, hstack, h => by
    have hback : ∀ source, (source :: stack).count .restored ≤ 1 → ∀ rtpPacket s r s',
        onRecoveredPacket env (receivePacket env fuel (source :: stack)) rtpPacket s =
          some (r, s') → KeepsRestoration env (source :: stack) s s' := by
      intro source hstack' rtpPacket s r s' h
      -- a packet the parser refuses changes nothing; one it accepts is received one level down
      rcases onRecoveredPacket_cases env h with rfl | ⟨_, _, _, h⟩
      · exact .refl env _ _
      · exact receivePacket_keepsRestoration fuel _ _ _ _ _ _ _ hstack' h
    intro hflag
    rcases receivePacket_succ_cases env h with h | ⟨hflag', hlocal⟩
    · rcases parseAndHandleEncapsulatingHeader_cases env h with
        ⟨s₁, hs', hflag₁, hlocal⟩ | ⟨hfree, hsize, hs'⟩ | rfl
      · -- RED: the packets handed back run in `.recovered :: stack`, which says the same
        have h₁ : KeepsRestoration env stack s s₁ := fun _ =>
          ⟨hflag₁, hlocal.mono fun e he => he.restoresExclusively _ hstack⟩
        rcases hs' with rfl | ⟨packets, hs'⟩
        · exact h₁ hflag
        · have hrec : (Source.recovered :: stack).count .restored ≤ 1 := by simpa using hstack
          have h₂ := handBack_keeps (KeepsRestoration.refl env _) (KeepsRestoration.trans env)
            (hback .recovered hrec) _ _ _ _ hs'
          exact h₁.trans env (fun hs₁ => h₂ (by simpa using hs₁)) hflag
      · -- RTX: the flag is clear, so no enclosing activation is on `restored_packet_`
        have hnot : Source.restored ∉ stack := by simpa [hfree] using hflag
        have h₁ : AddsOnly (Entry.RestoresExclusively env.restoredPacketSize) s
            (s.record stack (.restoreOriginalPacket packet.length)) :=
          AddsOnly.record (.refl s) ⟨hstack, fun _ he => by cases he; exact ⟨hnot, hsize⟩⟩
        rcases hs' with rfl | ⟨restored, s₂, hs₂, rfl⟩
        · exact ⟨rfl, h₁⟩
        · have hres : (Source.restored :: stack).count .restored ≤ 1 := by
            simp [List.count_eq_zero_of_not_mem hnot]
          obtain ⟨hflag₂, h₂⟩ := hback .restored hres _ _ _ _ hs₂ (by simp)
          exact ⟨hfree.symm, h₁.trans ((AddsOnly.of_trace_eq rfl).trans
            (h₂.trans (.of_trace_eq rfl)))⟩
      · -- every other return leaves the receiver as it was
        exact ⟨rfl, .refl _⟩
    · -- a packet that is not encapsulated: the activation records its own entries only
      exact ⟨hflag', hlocal.mono fun e he => he.restoresExclusively _ hstack⟩

theorem insertRTPPacket_keepsRestoration {fuel : Nat} {rtpPacket : List UInt8}
    {packetTime : PacketTime} {nowMs : Int} {s s' : ViEReceiver ρ φ} {ret : Int}
    (h : insertRTPPacket env fuel rtpPacket packetTime nowMs s = some (ret, s')) :
    KeepsRestoration env [] s s' := by
  rcases insertRTPPacket_cases env h with rfl | ⟨_, _, _, _, _, h₂, hflag₃, h₃⟩
  · -- not receiving, or the parser refused the packet
    exact .refl env _ _
  · -- the prologue, `ReceivePacket` at the top, and the epilogue each keep the guarantee
    intro hflag
    have hlocal : ∀ {header} {s s' : ViEReceiver ρ φ},
        AddsOnly (Entry.Local [] rtpPacket header) s s' →
        AddsOnly (Entry.RestoresExclusively env.restoredPacketSize) s s' :=
      fun h => h.mono fun e he => he.restoresExclusively _ (by simp)
    obtain ⟨hflag₂, h₂⟩ := receivePacket_keepsRestoration env _ _ _ _ _ _ _ _ (by simp) h₂
      (by simpa using hflag)
    exact ⟨hflag₃.trans (hflag₂.trans (by simp)),
      (hlocal (addsOnly_insertRTPPacketPrologue env _ _ _ _ _)).trans (h₂.trans (hlocal h₃))⟩

/-- **One RTX restoration at a time.** In every reachable receiver, whatever its collaborators,
`restored_packet_in_use_` is clear, so `InsertRTPPacket` has cleared it on every path it
returned by; every entry of the trace happened inside at most one `OnRecoveredPacket`
activation on `restored_packet_`; and every call to `RestoreOriginalPacket` happened inside
none of them, with a length that fits `restored_packet_`. -/
theorem restored_packet_exclusive {s : ViEReceiver ρ φ} (h : Reachable env s) :
    s.restoredPacketInUse = false ∧
      ∀ e ∈ s.trace, e.RestoresExclusively env.restoredPacketSize :=
  Reachable.flag_trace env
    (fun flag trace => flag = false ∧ ∀ e ∈ trace, e.RestoresExclusively env.restoredPacketSize)
    ⟨rfl, by simp⟩
    (fun _ _ _ _ _ _ _ ⟨hflag, hs⟩ hins =>
      have ⟨hflag', hadd⟩ := insertRTPPacket_keepsRestoration env hins (by simpa using hflag)
      ⟨hflag'.trans hflag, hadd.forall_mem hs⟩) h

end ViEReceiver

/-- An RTX packet for `Env.configured`: SSRC 2, sequence number 7, and after the header the
original sequence number 5 and a one-byte payload. -/
def rtxPacket : List UInt8 := [0x80, 96, 0, 7, 0, 0, 0, 0, 0, 0, 0, 2, 0, 5, 42]

theorem restored_packet_exclusive_rtx :
    ∃ s, ViEReceiver.Reachable .configured s ∧
      (⟨[], .restoreOriginalPacket 15⟩ : Entry) ∈ s.trace ∧
      s.restoredPacketInUse = false ∧ ∀ e ∈ s.trace, e.RestoresExclusively 1500 :=
  have h : ViEReceiver.Reachable .configured _ :=
    .step 2 (.insertRTPPacket rtxPacket ⟨-1⟩ 0) (.step 0 .startReceive (.init () []) rfl) rfl
  ⟨_, h, by decide, ViEReceiver.restored_packet_exclusive .configured h⟩

end WebRtcCall
