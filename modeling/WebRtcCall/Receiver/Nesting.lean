import WebRtcCall.Receiver.Bounds

/-!
# RED inside RED

The RTX branch of `ParseAndHandleEncapsulatingHeader` drops an RTX packet met inside a restored
one. The RED branch has no such guard: every packet the FEC receiver hands back goes through
`OnRecoveredPacket` to `ReceivePacket`, which takes it to the RED branch again whenever the
registry calls it RED. A FEC receiver that extracts the media packet a RED packet carries hands
back a RED packet when the block's payload type is RED's.

`nestedRedPacket n` is a RED packet whose payload is `n` block headers that each name RED, and
each level strips one of them (`receivePacket_nestedRedPacket_succ`). So `InsertRTPPacket` of it
calls `AddReceivedRedPacket` inside `n` nested `OnRecoveredPacket` activations on packets the
FEC receiver handed back (`red_nesting_unbounded`): a packet that reached `ReceivePacket`
through the FEC receiver's call back is passed to `AddReceivedRedPacket` again, and the depth
grows with the packet's length, bounded by no constant. The innermost level is
`emptyRedPacket`, whose RED branch reads one past its end.
-/

namespace WebRtcCall

open ViEReceiver

/-- A RED packet for `Env.configured` whose payload is `n` RED block headers, each naming RED
again: `emptyRedPacket` followed by `n` bytes 116. -/
def nestedRedPacket (n : Nat) : List UInt8 :=
  0x80 :: 116 :: 0 :: 0 :: 0 :: 0 :: 0 :: 0 :: 0 :: 0 :: 0 :: 1 :: List.replicate n 116

/-- The header of every `nestedRedPacket`, with the video clock the receive path sets. -/
def nestedRedHeader : RTPHeader :=
  { ssrc := 1, payloadType := 116, sequenceNumber := 0, headerLength := 12, paddingLength := 0,
    payloadTypeFrequency := kVideoPayloadTypeFrequency }

theorem parseRtpHeader_nestedRedPacket (n : Nat) :
    parseRtpHeader (nestedRedPacket n) =
      some { nestedRedHeader with payloadTypeFrequency := 0 } := by
  simp [parseRtpHeader, nestedRedPacket, nestedRedHeader, readBigEndian32, UInt8.size]
  decide

/-- One level of the nesting: the RED branch hands the packet with one block header less back,
and the activation returns what the activation on it returns. -/
theorem receivePacket_nestedRedPacket_succ (fuel n : Nat) (stack : List Source) (inOrder : Bool)
    (s : ViEReceiver Unit (List (List UInt8))) (hfec : s.fec = []) :
    receivePacket .configured (fuel + 1) stack (nestedRedPacket (n + 1)) nestedRedHeader inOrder s =
      receivePacket .configured fuel (.recovered :: stack) (nestedRedPacket n) nestedRedHeader
        (isPacketInOrder .configured nestedRedHeader)
        { (s.record stack (.read 12 (nestedRedPacket (n + 1)).length)).record stack
            (.addReceivedRedPacket (nestedRedPacket (n + 1)).length) with fec := [] } := by
  simp [receivePacket, parseAndHandleEncapsulatingHeader, hfec, nestedRedPacket, nestedRedHeader,
    FecReceiver.addReceivedRedPacket, FecReceiver.processReceivedFec, List.replicate_succ,
    withPayloadType, handBack_singleton, onRecoveredPacket, parseRtpHeader, readBigEndian32,
    UInt8.size]
  rfl

/-- The activation on `nestedRedPacket n` calls `AddReceivedRedPacket` `n` levels down, and
fails there, on the packet that is all header. -/
theorem receivePacket_nestedRedPacket (n : Nat) : ∀ (stack : List Source) (inOrder : Bool)
    (s : ViEReceiver Unit (List (List UInt8))), s.fec = [] →
    ∃ s', receivePacket .configured (n + 1) stack (nestedRedPacket n) nestedRedHeader inOrder s =
        some (false, s') ∧
      (⟨List.replicate n .recovered ++ stack, .addReceivedRedPacket 12⟩ : Entry) ∈ s'.trace := by
  induction n with
  | zero =>
    intro stack inOrder s hfec
    simp [receivePacket, parseAndHandleEncapsulatingHeader, nestedRedHeader, nestedRedPacket,
      FecReceiver.addReceivedRedPacket, hfec]
  | succ n ih =>
    intro stack inOrder s hfec
    rw [receivePacket_nestedRedPacket_succ _ _ _ _ _ hfec]
    exact (ih _ _ _ (by rfl)).imp fun s' ⟨hs', hmem⟩ =>
      ⟨hs', by simpa [List.replicate_succ'] using hmem⟩

/-- **RED nests without bound.** For every `n`, a receiver reached by `StartReceive` and one
`InsertRTPPacket` has called `AddReceivedRedPacket` inside `n` nested `OnRecoveredPacket`
activations on packets the FEC receiver handed back. -/
theorem red_nesting_unbounded (n : Nat) :
    ∃ s, ViEReceiver.Reachable .configured s ∧
      (⟨List.replicate n .recovered, .addReceivedRedPacket 12⟩ : Entry) ∈ s.trace := by
  obtain ⟨s', hs', hmem⟩ :=
    receivePacket_nestedRedPacket n [] (isPacketInOrder .configured nestedRedHeader)
    (insertRTPPacketPrologue .configured (nestedRedPacket n)
      { nestedRedHeader with payloadTypeFrequency := 0 } ⟨-1⟩ 0
      { init () [] with receiving := true }) rfl
  obtain ⟨_, h⟩ := @insertRTPPacket_of_receivePacket _ _ .configured _ (nestedRedPacket n) _ _ _ _
    { nestedRedHeader with payloadTypeFrequency := 0 } _ rfl
    (by simpa using parseRtpHeader_nestedRedPacket n) hs'
  exact ⟨_, .step (n + 1) (.insertRTPPacket _ _ _) (.step 0 .startReceive (.init () []) rfl) h,
    List.mem_cons_of_mem _ (by simpa using hmem)⟩

end WebRtcCall
