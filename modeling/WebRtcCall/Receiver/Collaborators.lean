import WebRtcCall.Receiver.Ingress

/-!
# A receiver's collaborators

One choice of `ViEReceiver.Env`, with collaborators written after what the spec says of them:
an RTP header parser for headers without extension, a FEC receiver that extracts the media
packet a single-block RED packet carries, and the RTX restoration of the payload registry.
`ViEReceiver.Env.configured` puts them together for a receiver of SSRC 1 that takes payload
type 100, RED on 116 with ULPFEC on 117, and RTX on SSRC 2.

The theorems about the receive path hold for every choice of collaborators that keeps the
contracts they name. This choice keeps the parser's (`parseRtpHeader_fits`), and it is the one
the receive path's defects are shown on.
-/

namespace WebRtcCall

/-- Modelled from the spec: `RtpHeaderParser::Parse` of an RTP header without extension: at
least twelve bytes, version 2, `4 · CC` bytes of contributing sources after the fixed twelve,
and, with the padding bit set, as many bytes of padding at the end as the last byte says. A
header that does not fit in the packet with its padding is refused. -/
def parseRtpHeader (packet : List UInt8) : Option RTPHeader :=
  match packet with
  | b0 :: b1 :: s0 :: s1 :: _ :: _ :: _ :: _ :: _ :: _ :: _ :: _ :: _ =>
    let headerLength := 12 + 4 * (b0.toNat % 16)
    let paddingLength := if b0.toNat / 32 % 2 = 1 then (packet.getLastD 0).toNat else 0
    if b0.toNat / 64 = 2 ∧ b0.toNat / 16 % 2 = 0 ∧ headerLength + paddingLength ≤ packet.length
    then some
      { ssrc := readBigEndian32 packet 8
        payloadType := b1 % 128
        sequenceNumber := s0.toUInt16 * 256 + s1.toUInt16
        headerLength := headerLength
        paddingLength := paddingLength
        payloadTypeFrequency := 0 }
    else none
  | _ => none

/-- A header the parser accepts fits in the packet with its padding. -/
theorem parseRtpHeader_fits {packet : List UInt8} {header : RTPHeader}
    (h : parseRtpHeader packet = some header) :
    header.headerLength + header.paddingLength ≤ packet.length := by
  unfold parseRtpHeader at h
  split at h
  · -- the parser accepts only after checking the length against header and padding
    dsimp only at h
    split_ifs at h <;> cases h
    all_goals exact ‹_ ∧ _ ∧ _›.2.2
  · -- a packet shorter than the fixed header is refused
    cases h

/-- The header bytes `header` with the payload type replaced and the marker bit kept. -/
def withPayloadType (header : List UInt8) (payloadType : UInt8) : List UInt8 :=
  match header with
  | b0 :: b1 :: rest => b0 :: (b1 / 128 * 128 + payloadType) :: rest
  | header => header

/-- Modelled from the spec: `FecReceiver::AddReceivedRedPacket` of a FEC receiver that extracts
the media packet a RED packet with a single block carries (the RTP header with the block's
payload type, then the block) and keeps it for `ProcessReceivedFec`. A block of the ULPFEC
payload type protects other packets and recovers none here; a RED packet with no block, or
with more than one, is refused. -/
def FecReceiver.addReceivedRedPacket (pending : List (List UInt8)) (header : RTPHeader)
    (packet : List UInt8) (ulpfecPt : Int) : Option (List (List UInt8)) :=
  match packet.drop header.headerLength with
  | [] => none
  | blockHeader :: block =>
    if 128 ≤ blockHeader.toNat then none
    else if (blockHeader.toNat : Int) = ulpfecPt then some pending
    else some (pending ++ [withPayloadType (packet.take header.headerLength) blockHeader ++ block])

/-- Modelled from the spec: `FecReceiver::ProcessReceivedFec` hands back every packet it keeps. -/
def FecReceiver.processReceivedFec (pending : List (List UInt8)) :
    List (List UInt8) × List (List UInt8) :=
  (pending, [])

/-- Modelled from the spec: `RTPPayloadRegistry::RestoreOriginalPacket`. The RTX header, two
bytes after the RTP header with the original sequence number, is removed, and the original
sequence number, the primary SSRC and the primary payload type are written back into the
header. A packet too short for the RTX header is refused. -/
def RTPPayloadRegistry.restoreOriginalPacket (primaryPayloadType : UInt8) (packet : List UInt8)
    (originalSsrc : Ssrc) (header : RTPHeader) : Option (List UInt8) :=
  match packet with
  | b0 :: b1 :: _ :: _ :: t0 :: t1 :: t2 :: t3 :: _ :: _ :: _ :: _ :: _ =>
    if packet.length < header.headerLength + 2 + header.paddingLength then none
    else some (b0 :: (b1 / 128 * 128 + primaryPayloadType) ::
      packet.getD header.headerLength 0 :: packet.getD (header.headerLength + 1) 0 ::
      t0 :: t1 :: t2 :: t3 ::
      (originalSsrc.toNat / 2 ^ 24).toUInt8 :: (originalSsrc.toNat / 2 ^ 16).toUInt8 ::
      (originalSsrc.toNat / 2 ^ 8).toUInt8 :: originalSsrc.toNat.toUInt8 ::
      ((packet.take header.headerLength).drop 12 ++ packet.drop (header.headerLength + 2)))
  | _ => none

/-- Modelled from the spec: the collaborators of a receiver of SSRC 1 that takes payload type
100, RED on 116 with ULPFEC on 117, and RTX on SSRC 2, with a scratch buffer of 1500 bytes.
The registry's configuration is fixed, so its state is trivial; the FEC receiver's state is
the packets it has yet to hand back. -/
@[simps]
def ViEReceiver.Env.configured : ViEReceiver.Env Unit (List (List UInt8)) where
  parse := parseRtpHeader
  isEncapsulated _ header := header.payloadType == 116 || header.ssrc == 2
  isRed _ header := header.payloadType == 116
  isRtx _ header := header.ssrc == 2
  rtxEnabled _ := true
  ulpfecPayloadType _ := 117
  lastReceivedMediaPayloadType _ := 100
  getPayloadSpecifics _ payloadType := payloadType == 100
  setIncomingPayloadType registry _ := registry
  restoreOriginalPacket _ := RTPPayloadRegistry.restoreOriginalPacket 100
  addReceivedRedPacket := FecReceiver.addReceivedRedPacket
  processReceivedFec := FecReceiver.processReceivedFec
  getStatistician _ := none
  minRtt := 0
  remoteSsrc := 1
  incomingRtpPacket _ _ _ _ := true
  restoredPacketSize := 1500

end WebRtcCall
