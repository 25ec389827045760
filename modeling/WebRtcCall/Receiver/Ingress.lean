import WebRtcCall.Call.Types

/-!
# The receive path of a video receive stream

`ViEReceiver::InsertRTPPacket` and the functions it recurses through: `ReceivePacket`,
`ParseAndHandleEncapsulatingHeader` and `OnRecoveredPacket`. A RED packet goes to the FEC
receiver, which hands the media packets it extracts and the packets it recovers back through
`OnRecoveredPacket`; an RTX packet is restored into the scratch buffer `restored_packet_` and
handed back the same way. Both re-enter `ReceivePacket`.

The collaborators whose code is not in `vie_receiver.cc` (the RTP header parser, the payload
registry, the FEC receiver, the receive statistics and the RTP receiver) are the fields of
`ViEReceiver.Env`, over a registry state `ρ` and a FEC receiver state `φ`. Every theorem about
the receive path holds for every choice of them, under the contracts it names.

Each of the four functions is its own definition. The two that call back take the activation
they call as an argument, and `receivePacket` ties the knot on an explicit fuel, one unit per
activation: nothing in the receiver bounds how often a FEC receiver hands packets back.

What the receive path does to its collaborators is recorded in `ViEReceiver.trace`, newest
first, together with the byte reads and the `size_t` subtractions it makes itself. Each entry
carries a ghost: the sources of the enclosing `OnRecoveredPacket` activations, innermost first.
No code reads it; the nesting properties are stated over it.

`receive_cs_` serialises the receive path against the other threads of the receiver
(`StartReceive`, `StopReceive`, `InsertRTCPPacket`); the RTX branch holds it across its call
back, on the same thread. A run here is one thread's, and the lock is left out.
-/

namespace WebRtcCall

/-- The fields of `RTPHeader` that the receive path reads or sets. -/
structure RTPHeader where
  ssrc : Ssrc
  payloadType : UInt8
  sequenceNumber : UInt16
  headerLength : Nat
  paddingLength : Nat
  payloadTypeFrequency : Int
  deriving DecidableEq, Repr

/-- `PacketTime`: the arrival time the transport measured, in microseconds, `-1` if none. -/
structure PacketTime where
  timestamp : Int
  deriving DecidableEq, Repr

/-- The `StreamStatistician` of one SSRC, as the receive path queries it. -/
structure StreamStatistician where
  isPacketInOrder : UInt16 → Bool
  isRetransmitOfOldPacket : RTPHeader → Int → Bool

/-- Modelled from the spec: the collaborators of a `ViEReceiver`, whose code is not part of
this source, over a payload registry state `ρ` and a FEC receiver state `φ`. -/
structure ViEReceiver.Env (ρ φ : Type) where
  /-- `RtpHeaderParser::Parse`. -/
  parse : List UInt8 → Option RTPHeader
  /-- `RTPPayloadRegistry::IsEncapsulated`. -/
  isEncapsulated : ρ → RTPHeader → Bool
  /-- `RTPPayloadRegistry::IsRed`. -/
  isRed : ρ → RTPHeader → Bool
  /-- `RTPPayloadRegistry::IsRtx`. -/
  isRtx : ρ → RTPHeader → Bool
  /-- `RTPPayloadRegistry::RtxEnabled`. -/
  rtxEnabled : ρ → Bool
  /-- `RTPPayloadRegistry::ulpfec_payload_type`, `-1` when FEC is off. -/
  ulpfecPayloadType : ρ → Int
  /-- `RTPPayloadRegistry::last_received_media_payload_type`, negative if there is none. -/
  lastReceivedMediaPayloadType : ρ → Int
  /-- `RTPPayloadRegistry::GetPayloadSpecifics`: whether the payload type is registered. -/
  getPayloadSpecifics : ρ → Int → Bool
  /-- `RTPPayloadRegistry::SetIncomingPayloadType`. -/
  setIncomingPayloadType : ρ → RTPHeader → ρ
  /-- `RTPPayloadRegistry::RestoreOriginalPacket`: the restored packet, from the RTX packet,
  the primary SSRC and the RTX header; `none` for an invalid one. -/
  restoreOriginalPacket : ρ → List UInt8 → Ssrc → RTPHeader → Option (List UInt8)
  /-- `FecReceiver::AddReceivedRedPacket`: `none` for a nonzero return. -/
  addReceivedRedPacket : φ → RTPHeader → List UInt8 → Int → Option φ
  /-- `FecReceiver::ProcessReceivedFec`: the packets it hands back through
  `OnRecoveredPacket`, in order, and its state once it has taken them. -/
  processReceivedFec : φ → List (List UInt8) × φ
  /-- `ReceiveStatistics::GetStatistician`. -/
  getStatistician : Ssrc → Option StreamStatistician
  /-- The minimum round-trip time `RtpRtcp::RTT` reports. -/
  minRtt : Int
  /-- `RtpReceiver::SSRC`. -/
  remoteSsrc : Ssrc
  /-- `RtpReceiver::IncomingRtpPacket`: its answer to a payload of the given length. -/
  incomingRtpPacket : RTPHeader → List UInt8 → Nat → Bool → Bool
  /-- `sizeof(restored_packet_)`. -/
  restoredPacketSize : Nat

/-- Where the buffer an `OnRecoveredPacket` activation parses comes from. -/
inductive Source
  /-- `restored_packet_`, written by `RestoreOriginalPacket` in the RTX branch. -/
  | restored
  /-- A packet the FEC receiver hands back from `ProcessReceivedFec`. -/
  | recovered
  deriving DecidableEq, Repr

/-- What the receive path does, in the order done. -/
inductive Event
  /-- `packet[index]`, read by the receive path itself from a buffer of the given length. -/
  | read (index length : Nat)
  /-- The `size_t` subtraction `minuend - subtrahend`. -/
  | sizeSub (minuend subtrahend : Nat)
  /-- `RemoteBitrateEstimator::IncomingPacket(arrival_time_ms, payload_length, header, true)`. -/
  | bitrateEstimate (arrivalTimeMs : Int) (payloadLength : Nat) (header : RTPHeader)
  /-- `RtpReceiver::IncomingRtpPacket(header, payload, payload_length, …, in_order)`. -/
  | incomingRtpPacket (header : RTPHeader) (payloadLength : Nat) (inOrder : Bool)
  /-- `ReceiveStatistics::FecPacketReceived(header, packet_length)`. -/
  | fecPacketReceived (header : RTPHeader) (length : Nat)
  /-- `OnReceivedPayloadData(NULL, 0, &rtp_header)`, from `NotifyReceiverOfFecPacket`. -/
  | fecNotification (header : RTPHeader)
  /-- `FecReceiver::AddReceivedRedPacket(header, packet, packet_length, ulpfec_pt)`. -/
  | addReceivedRedPacket (length : Nat)
  /-- `RTPPayloadRegistry::RestoreOriginalPacket(restored_packet_, packet, &packet_length, …)`. -/
  | restoreOriginalPacket (length : Nat)
  /-- `ReceiveStatistics::IncomingPacket(header, rtp_packet_length, retransmitted)`. -/
  | incomingPacket (header : RTPHeader) (length : Nat) (retransmitted : Bool)
  deriving DecidableEq, Repr

/-- One entry of the trace: an event and, as a ghost, the sources of the `OnRecoveredPacket`
activations it happens in, innermost first. -/
structure Entry where
  stack : List Source
  event : Event
  deriving DecidableEq, Repr

/-- An event an activation on `packet` with `header` makes outside the RTX branch: the byte
it reads and the subtraction it makes are at the end of the header, and the FEC receiver gets
the whole buffer. -/
def Event.OnBuffer (packet : List UInt8) (header : RTPHeader) : Event → Prop
  | .read index length => index = header.headerLength ∧ length = packet.length
  | .sizeSub minuend subtrahend => minuend = packet.length ∧ subtrahend = header.headerLength
  | .addReceivedRedPacket length => length = packet.length
  | .restoreOriginalPacket _ => False
  | _ => True

/-- An entry that an activation on `packet` with `header`, in the activations `stack`, records
outside the RTX branch. -/
def Entry.Local (stack : List Source) (packet : List UInt8) (header : RTPHeader) (e : Entry) :
    Prop :=
  e.stack = stack ∧ e.event.OnBuffer packet header

/-- The fields of a `ViEReceiver` that the receive path reads or writes, and the trace. -/
structure ViEReceiver (ρ φ : Type) where
  registry : ρ
  fec : φ
  receiving : Bool
  restoredPacketInUse : Bool
  restoredPacket : List UInt8
  lastPacketLogMs : Int
  trace : List Entry

namespace ViEReceiver

variable {ρ φ : Type}

/-- The constructor's state, over the registry and FEC receiver it creates. -/
def init (registry : ρ) (fec : φ) : ViEReceiver ρ φ where
  registry := registry
  fec := fec
  receiving := false
  restoredPacketInUse := false
  restoredPacket := []
  lastPacketLogMs := -1
  trace := []

/-- Record an event at the given nesting. -/
def record (s : ViEReceiver ρ φ) (stack : List Source) (event : Event) : ViEReceiver ρ φ :=
  { s with trace := ⟨stack, event⟩ :: s.trace }

@[simp] theorem trace_record (s : ViEReceiver ρ φ) (stack : List Source) (event : Event) :
    (s.record stack event).trace = ⟨stack, event⟩ :: s.trace := rfl

@[simp] theorem restoredPacketInUse_record (s : ViEReceiver ρ φ) (stack : List Source)
    (event : Event) : (s.record stack event).restoredPacketInUse = s.restoredPacketInUse := rfl

@[simp] theorem registry_record (s : ViEReceiver ρ φ) (stack : List Source) (event : Event) :
    (s.record stack event).registry = s.registry := rfl

@[simp] theorem fec_record (s : ViEReceiver ρ φ) (stack : List Source) (event : Event) :
    (s.record stack event).fec = s.fec := rfl

/-- What a run from `s` to `s'` adds to the trace satisfies `P`. -/
def AddsOnly (P : Entry → Prop) (s s' : ViEReceiver ρ φ) : Prop :=
  ∀ e ∈ s'.trace, e ∈ s.trace ∨ P e

namespace AddsOnly

variable {P : Entry → Prop} {s₁ s₂ s₃ : ViEReceiver ρ φ}

theorem refl (s : ViEReceiver ρ φ) : AddsOnly P s s := fun _ he => .inl he

theorem trans (h₁ : AddsOnly P s₁ s₂) (h₂ : AddsOnly P s₂ s₃) : AddsOnly P s₁ s₃ :=
  fun e he => (h₂ e he).elim (h₁ e) .inr

theorem of_trace_eq (h : s₂.trace = s₁.trace) : AddsOnly P s₁ s₂ := fun _ he => .inl (h ▸ he)

theorem record {stack : List Source} {event : Event} (h : AddsOnly P s₁ s₂)
    (he : P ⟨stack, event⟩) : AddsOnly P s₁ (s₂.record stack event) := by
  intro e he'
  rcases List.mem_cons.1 he' with rfl | he'
  · exact .inr he
  · exact h e he'

theorem ite {c : Prop} [Decidable c] {a b : ViEReceiver ρ φ} (ha : AddsOnly P s₁ a)
    (hb : AddsOnly P s₁ b) : AddsOnly P s₁ (if c then a else b) := by
  split <;> assumption

theorem mono {Q : Entry → Prop} (hPQ : ∀ e, P e → Q e) (h : AddsOnly P s₁ s₂) :
    AddsOnly Q s₁ s₂ :=
  fun e he => (h e he).imp_right (hPQ e)

/-- What every entry of `s₁` satisfies and a run adds satisfies holds of every entry of `s₂`. -/
theorem forall_mem (h : AddsOnly P s₁ s₂) (h₁ : ∀ e ∈ s₁.trace, P e) : ∀ e ∈ s₂.trace, P e :=
  fun e he => (h e he).elim (h₁ e) id

end AddsOnly

/-- `kPacketLogIntervalMs`. -/
def kPacketLogIntervalMs : Int := 10000

/-- Modelled from the spec: `kVideoPayloadTypeFrequency`, the 90 kHz RTP clock of video. -/
def kVideoPayloadTypeFrequency : Int := 90000

/-- `minuend - subtrahend` on `size_t`, which wraps below zero. -/
def sizeSub (minuend subtrahend : Nat) : Nat := (minuend.toUInt64 - subtrahend.toUInt64).toNat

variable (env : Env ρ φ)

/-- `ViEReceiver::IsPacketInOrder`. -/
def isPacketInOrder (header : RTPHeader) : Bool :=
  match env.getStatistician header.ssrc with
  | none => false
  | some statistician => statistician.isPacketInOrder header.sequenceNumber

/-- `ViEReceiver::IsPacketRetransmitted`, over the registry state it reads. -/
def isPacketRetransmitted (registry : ρ) (header : RTPHeader) (inOrder : Bool) : Bool :=
  if env.rtxEnabled registry then false
  else match env.getStatistician header.ssrc with
    | none => false
    | some statistician => !inOrder && statistician.isRetransmitOfOldPacket header env.minRtt

/-- `ViEReceiver::NotifyReceiverOfFecPacket`: an empty media packet of the last media payload
type goes to the video coding module, so that it does not NACK the FEC packet. -/
def notifyReceiverOfFecPacket (stack : List Source) (header : RTPHeader) (s : ViEReceiver ρ φ) :
    ViEReceiver ρ φ :=
  let lastMediaPayloadType := env.lastReceivedMediaPayloadType s.registry
  if lastMediaPayloadType < 0 then s
  else if env.getPayloadSpecifics s.registry lastMediaPayloadType then
    s.record stack (.fecNotification
      { header with payloadType := lastMediaPayloadType.toNat.toUInt8, paddingLength := 0 })
  else s

@[simp] theorem restoredPacketInUse_notifyReceiverOfFecPacket (stack : List Source)
    (header : RTPHeader) (s : ViEReceiver ρ φ) :
    (notifyReceiverOfFecPacket env stack header s).restoredPacketInUse = s.restoredPacketInUse := by
  unfold notifyReceiverOfFecPacket; dsimp only; split_ifs <;> rfl

theorem addsOnly_notifyReceiverOfFecPacket {stack : List Source} {packet : List UInt8}
    {header header' : RTPHeader} {s₀ s : ViEReceiver ρ φ}
    (h : AddsOnly (Entry.Local stack packet header) s₀ s) :
    AddsOnly (Entry.Local stack packet header) s₀ (notifyReceiverOfFecPacket env stack header' s) := by
  unfold notifyReceiverOfFecPacket; dsimp only
  split_ifs
  · exact h
  · exact h.record ⟨rfl, trivial⟩
  · exact h

/-- `FecReceiver::ProcessReceivedFec` calling back: each packet it hands back goes through
`OnRecoveredPacket`, and the first that fails ends the processing with `-1`. -/
def handBack (onRecoveredPacket : List UInt8 → ViEReceiver ρ φ → Option (Bool × ViEReceiver ρ φ)) :
    List (List UInt8) → ViEReceiver ρ φ → Option (Bool × ViEReceiver ρ φ)
  | [], s => some (true, s)
  | packet :: packets, s =>
    match onRecoveredPacket packet s with
    | some (true, s) => handBack onRecoveredPacket packets s
    | r => r

theorem handBack_singleton
    (onRecoveredPacket : List UInt8 → ViEReceiver ρ φ → Option (Bool × ViEReceiver ρ φ))
    (packet : List UInt8) (s : ViEReceiver ρ φ) :
    handBack onRecoveredPacket [packet] s = onRecoveredPacket packet s := by
  simp only [handBack]
  split <;> simp_all

/-- A relation between the states before and after that every packet handed back keeps, if
it is a preorder, is kept by the whole processing. -/
theorem handBack_keeps {R : ViEReceiver ρ φ → ViEReceiver ρ φ → Prop}
    {onRecoveredPacket : List UInt8 → ViEReceiver ρ φ → Option (Bool × ViEReceiver ρ φ)}
    (hrefl : ∀ s, R s s) (htrans : ∀ {s₁ s₂ s₃}, R s₁ s₂ → R s₂ s₃ → R s₁ s₃)
    (hf : ∀ packet s r s', onRecoveredPacket packet s = some (r, s') → R s s') :
    ∀ packets s r s', handBack onRecoveredPacket packets s = some (r, s') → R s s'
  | [], s, _, _, h => by cases h; exact hrefl s
  | packet :: packets, s, r, s', h => by
    unfold handBack at h
    split at h
    · exact htrans (hf _ _ _ _ ‹_›) (handBack_keeps hrefl htrans hf packets _ r s' h)
    · exact hf _ _ _ _ h

/-- `ViEReceiver::ParseAndHandleEncapsulatingHeader`, given the `OnRecoveredPacket` activation
on a buffer of each source. A byte past the end of the buffer is no byte of it: the model
compares it unequal to the ULPFEC payload type, where the code reads what lies beyond. -/
def parseAndHandleEncapsulatingHeader
    (onRecoveredPacket : Source → List UInt8 → ViEReceiver ρ φ → Option (Bool × ViEReceiver ρ φ))
    (stack : List Source) (packet : List UInt8) (header : RTPHeader) (s : ViEReceiver ρ φ) :
    Option (Bool × ViEReceiver ρ φ) :=
  if env.isRed s.registry header then
    let ulpfecPt := env.ulpfecPayloadType s.registry
    let s := s.record stack (.read header.headerLength packet.length)
    let s := if packet[header.headerLength]?.map (fun b => (b.toNat : Int)) = some ulpfecPt then
        notifyReceiverOfFecPacket env stack header
          (s.record stack (.fecPacketReceived header packet.length))
      else s
    let s := s.record stack (.addReceivedRedPacket packet.length)
    match env.addReceivedRedPacket s.fec header packet ulpfecPt with
    | none => some (false, s)
    | some fec =>
      handBack (onRecoveredPacket .recovered) (env.processReceivedFec fec).1
        { s with fec := (env.processReceivedFec fec).2 }
  else if env.isRtx s.registry header then
    if header.headerLength + header.paddingLength = packet.length then some (true, s)
    else if packet.length < header.headerLength then some (false, s)
    else if env.restoredPacketSize < packet.length then some (false, s)
    else if s.restoredPacketInUse then some (false, s)
    else
      let s := s.record stack (.restoreOriginalPacket packet.length)
      match env.restoreOriginalPacket s.registry packet env.remoteSsrc header with
      | none => some (false, s)
      | some restored =>
        match onRecoveredPacket .restored restored
            { s with restoredPacket := restored, restoredPacketInUse := true } with
        | none => none
        | some (ret, s) => some (ret, { s with restoredPacketInUse := false })
  else some (false, s)

/-- What `ParseAndHandleEncapsulatingHeader` can do: a RED packet records its own entries and
may hand packets back; an RTX packet that passes the checks while no restoration is in use
records the call to `RestoreOriginalPacket` and may hand the restored packet back with the flag
set, clearing it after; every other return leaves the receiver as it was. -/
theorem parseAndHandleEncapsulatingHeader_cases
    {onRecoveredPacket : Source → List UInt8 → ViEReceiver ρ φ → Option (Bool × ViEReceiver ρ φ)}
    {stack : List Source} {packet : List UInt8} {header : RTPHeader} {s s' : ViEReceiver ρ φ}
    {r : Bool}
    (h : parseAndHandleEncapsulatingHeader env onRecoveredPacket stack packet header s =
      some (r, s')) :
    (∃ s₁, (s' = s₁ ∨ ∃ packets, handBack (onRecoveredPacket .recovered) packets s₁ = some (r, s')) ∧
      s₁.restoredPacketInUse = s.restoredPacketInUse ∧
      AddsOnly (Entry.Local stack packet header) s s₁) ∨
    (s.restoredPacketInUse = false ∧ packet.length ≤ env.restoredPacketSize ∧
      (s' = s.record stack (.restoreOriginalPacket packet.length) ∨
        ∃ restored s₂, onRecoveredPacket .restored restored
            { s.record stack (.restoreOriginalPacket packet.length) with
              restoredPacket := restored, restoredPacketInUse := true } = some (r, s₂) ∧
          s' = { s₂ with restoredPacketInUse := false })) ∨
    s' = s := by
  unfold parseAndHandleEncapsulatingHeader at h
  by_cases hred : env.isRed s.registry header
  · rw [if_pos hred] at h
    dsimp only at h
    have hread : AddsOnly (Entry.Local stack packet header) s
        (s.record stack (.read header.headerLength packet.length)) :=
      AddsOnly.record (.refl s) ⟨rfl, rfl, rfl⟩
    have hfec : AddsOnly (Entry.Local stack packet header) s
        (notifyReceiverOfFecPacket env stack header
          ((s.record stack (.read header.headerLength packet.length)).record stack
            (.fecPacketReceived header packet.length))) :=
      addsOnly_notifyReceiverOfFecPacket env (hread.record ⟨rfl, trivial⟩)
    split at h
    · cases h
      exact .inl ⟨_, .inl rfl, by split <;> simp, (hfec.ite hread).record ⟨rfl, rfl⟩⟩
    · exact .inl ⟨_, .inr ⟨_, h⟩, by split <;> simp, (hfec.ite hread).record ⟨rfl, rfl⟩⟩
  rw [if_neg hred] at h
  -- the returns before `RestoreOriginalPacket` leave the receiver as it was
  by_cases hrtx : env.isRtx s.registry header
  swap; · rw [if_neg hrtx] at h; cases h; exact .inr (.inr rfl)
  by_cases hkeep : header.headerLength + header.paddingLength = packet.length
  · rw [if_pos hrtx, if_pos hkeep] at h; cases h; exact .inr (.inr rfl)
  by_cases hshort : packet.length < header.headerLength
  · rw [if_pos hrtx, if_neg hkeep, if_pos hshort] at h; cases h; exact .inr (.inr rfl)
  by_cases hlong : env.restoredPacketSize < packet.length
  · rw [if_pos hrtx, if_neg hkeep, if_neg hshort, if_pos hlong] at h; cases h
    exact .inr (.inr rfl)
  by_cases hinuse : s.restoredPacketInUse
  · rw [if_pos hrtx, if_neg hkeep, if_neg hshort, if_neg hlong, if_pos hinuse] at h; cases h
    exact .inr (.inr rfl)
  rw [if_pos hrtx, if_neg hkeep, if_neg hshort, if_neg hlong, if_neg hinuse] at h
  refine .inr (.inl ⟨by simpa using hinuse, by omega, ?_⟩)
  dsimp only at h
  split at h
  · cases h; exact .inl rfl
  · split at h
    · cases h
    · cases h; exact .inr ⟨_, _, ‹_›, rfl⟩

/-- `ViEReceiver::OnRecoveredPacket`, given the `ReceivePacket` activation it calls. -/
def onRecoveredPacket
    (receivePacket : List UInt8 → RTPHeader → Bool → ViEReceiver ρ φ →
      Option (Bool × ViEReceiver ρ φ))
    (rtpPacket : List UInt8) (s : ViEReceiver ρ φ) : Option (Bool × ViEReceiver ρ φ) :=
  match env.parse rtpPacket with
  | none => some (false, s)
  | some header =>
    let header := { header with payloadTypeFrequency := kVideoPayloadTypeFrequency }
    receivePacket rtpPacket header (isPacketInOrder env header) s

theorem onRecoveredPacket_cases
    {receivePacket : List UInt8 → RTPHeader → Bool → ViEReceiver ρ φ →
      Option (Bool × ViEReceiver ρ φ)}
    {rtpPacket : List UInt8} {s s' : ViEReceiver ρ φ} {r : Bool}
    (h : onRecoveredPacket env receivePacket rtpPacket s = some (r, s')) :
    s' = s ∨ ∃ header inOrder, env.parse rtpPacket = some header ∧
      receivePacket rtpPacket { header with payloadTypeFrequency := kVideoPayloadTypeFrequency }
        inOrder s = some (r, s') := by
  unfold onRecoveredPacket at h
  split at h
  · cases h; exact .inl rfl
  · exact .inr ⟨_, _, ‹_›, h⟩

/-- `ViEReceiver::ReceivePacket`, with `fuel` activations to spend, in the activations `stack`
of `OnRecoveredPacket`. -/
def receivePacket : Nat → List Source → List UInt8 → RTPHeader → Bool → ViEReceiver ρ φ →
    Option (Bool × ViEReceiver ρ φ)
  | 0, _, _, _, _, _ => none
  | fuel + 1, stack, packet, header, inOrder, s =>
    if env.isEncapsulated s.registry header then
      parseAndHandleEncapsulatingHeader env
        (fun source => onRecoveredPacket env (receivePacket fuel (source :: stack)))
        stack packet header s
    else
      let payloadLength := sizeSub packet.length header.headerLength
      let s := s.record stack (.sizeSub packet.length header.headerLength)
      if env.getPayloadSpecifics s.registry header.payloadType.toNat then
        some (env.incomingRtpPacket header (packet.drop header.headerLength) payloadLength inOrder,
          s.record stack (.incomingRtpPacket header payloadLength inOrder))
      else some (false, s)

theorem receivePacket_succ_cases {fuel : Nat} {stack : List Source} {packet : List UInt8}
    {header : RTPHeader} {inOrder : Bool} {s s' : ViEReceiver ρ φ} {r : Bool}
    (h : receivePacket env (fuel + 1) stack packet header inOrder s = some (r, s')) :
    parseAndHandleEncapsulatingHeader env
        (fun source => onRecoveredPacket env (receivePacket env fuel (source :: stack)))
        stack packet header s = some (r, s') ∨
      s'.restoredPacketInUse = s.restoredPacketInUse ∧
        AddsOnly (Entry.Local stack packet header) s s' := by
  have hsub : AddsOnly (Entry.Local stack packet header) s
      (s.record stack (.sizeSub packet.length header.headerLength)) :=
    AddsOnly.record (.refl s) ⟨rfl, rfl, rfl⟩
  simp only [receivePacket] at h
  split_ifs at h
  · exact .inl h
  · cases h; exact .inr ⟨rfl, hsub.record ⟨rfl, trivial⟩⟩
  · cases h; exact .inr ⟨rfl, hsub⟩

/-- What `ViEReceiver::InsertRTPPacket` does before `ReceivePacket`, once the header of
`rtpPacket` has parsed as `header`: the payload length, the arrival time, the periodic log of
the header, the bandwidth estimator and the registry's incoming payload type. -/
def insertRTPPacketPrologue (rtpPacket : List UInt8) (header : RTPHeader)
    (packetTime : PacketTime) (nowMs : Int) (s : ViEReceiver ρ φ) : ViEReceiver ρ φ :=
  let payloadLength := sizeSub rtpPacket.length header.headerLength
  let s := s.record [] (.sizeSub rtpPacket.length header.headerLength)
  let arrivalTimeMs :=
    if packetTime.timestamp ≠ -1 then (packetTime.timestamp + 500).tdiv 1000 else nowMs
  let s := if nowMs - s.lastPacketLogMs > kPacketLogIntervalMs
    then { s with lastPacketLogMs := nowMs } else s
  let s := s.record [] (.bitrateEstimate arrivalTimeMs payloadLength header)
  let header := { header with payloadTypeFrequency := kVideoPayloadTypeFrequency }
  { s with registry := env.setIncomingPayloadType s.registry header }

@[simp] theorem fec_insertRTPPacketPrologue (rtpPacket : List UInt8) (header : RTPHeader)
    (packetTime : PacketTime) (nowMs : Int) (s : ViEReceiver ρ φ) :
    (insertRTPPacketPrologue env rtpPacket header packetTime nowMs s).fec = s.fec := by
  unfold insertRTPPacketPrologue; dsimp only; split <;> rfl

@[simp] theorem restoredPacketInUse_insertRTPPacketPrologue (rtpPacket : List UInt8)
    (header : RTPHeader) (packetTime : PacketTime) (nowMs : Int) (s : ViEReceiver ρ φ) :
    (insertRTPPacketPrologue env rtpPacket header packetTime nowMs s).restoredPacketInUse =
      s.restoredPacketInUse := by
  unfold insertRTPPacketPrologue; dsimp only; split <;> rfl

theorem addsOnly_insertRTPPacketPrologue (rtpPacket : List UInt8) (header : RTPHeader)
    (packetTime : PacketTime) (nowMs : Int) (s : ViEReceiver ρ φ) :
    AddsOnly (Entry.Local [] rtpPacket header) s
      (insertRTPPacketPrologue env rtpPacket header packetTime nowMs s) := by
  have hsub : AddsOnly (Entry.Local [] rtpPacket header) s
      (s.record [] (.sizeSub rtpPacket.length header.headerLength)) :=
    AddsOnly.record (.refl s) ⟨rfl, rfl, rfl⟩
  exact hsub.trans (AddsOnly.record (.of_trace_eq (by split <;> rfl)) ⟨rfl, trivial⟩)

/-- `ViEReceiver::InsertRTPPacket` at the clock reading `nowMs`: `0` or `-1`. -/
def insertRTPPacket (fuel : Nat) (rtpPacket : List UInt8) (packetTime : PacketTime)
    (nowMs : Int) (s : ViEReceiver ρ φ) : Option (Int × ViEReceiver ρ φ) :=
  if !s.receiving then some (-1, s) else
  match env.parse rtpPacket with
  | none => some (-1, s)
  | some header =>
    let s := insertRTPPacketPrologue env rtpPacket header packetTime nowMs s
    let header := { header with payloadTypeFrequency := kVideoPayloadTypeFrequency }
    let inOrder := isPacketInOrder env header
    (receivePacket env fuel [] rtpPacket header inOrder s).map fun (ok, s) =>
      (if ok then 0 else -1, s.record []
        (.incomingPacket header rtpPacket.length (isPacketRetransmitted env s.registry header inOrder)))

/-- What `InsertRTPPacket` can do: return at the gate or the parse leaving the receiver as it
was, or run its prologue and one `ReceivePacket` activation on the packet, and record the
statistics after. -/
theorem insertRTPPacket_cases {fuel : Nat} {rtpPacket : List UInt8} {packetTime : PacketTime}
    {nowMs : Int} {s s' : ViEReceiver ρ φ} {ret : Int}
    (h : insertRTPPacket env fuel rtpPacket packetTime nowMs s = some (ret, s')) :
    s' = s ∨ ∃ header inOrder r s₂, env.parse rtpPacket = some header ∧
      receivePacket env fuel [] rtpPacket
        { header with payloadTypeFrequency := kVideoPayloadTypeFrequency } inOrder
        (insertRTPPacketPrologue env rtpPacket header packetTime nowMs s) = some (r, s₂) ∧
      s'.restoredPacketInUse = s₂.restoredPacketInUse ∧
      AddsOnly (Entry.Local [] rtpPacket header) s₂ s' := by
  unfold insertRTPPacket at h
  by_cases hreceiving : (!s.receiving) = true
  · rw [if_pos hreceiving] at h; cases h; exact .inl rfl
  rw [if_neg hreceiving] at h
  split at h
  · cases h; exact .inl rfl
  obtain ⟨⟨ok, s₂⟩, hreceive, h⟩ := Option.map_eq_some'.1 h
  cases h
  exact .inr ⟨_, _, ok, s₂, ‹_›, hreceive, rfl, AddsOnly.record (.refl s₂) ⟨rfl, trivial⟩⟩

/-- `InsertRTPPacket` of a packet the parser accepts, on a receiver that is receiving, returns
what its `ReceivePacket` activation returns, and records one entry after it. -/
theorem insertRTPPacket_of_receivePacket {fuel : Nat} {rtpPacket : List UInt8}
    {packetTime : PacketTime} {nowMs : Int} {s s₂ : ViEReceiver ρ φ} {header : RTPHeader}
    {r : Bool} (hreceiving : s.receiving = true) (hparse : env.parse rtpPacket = some header)
    (h : receivePacket env fuel [] rtpPacket
      { header with payloadTypeFrequency := kVideoPayloadTypeFrequency }
      (isPacketInOrder env { header with payloadTypeFrequency := kVideoPayloadTypeFrequency })
      (insertRTPPacketPrologue env rtpPacket header packetTime nowMs s) = some (r, s₂)) :
    ∃ entry, insertRTPPacket env fuel rtpPacket packetTime nowMs s =
      some (if r then 0 else -1, s₂.record [] entry) := by
  simp only [insertRTPPacket, hreceiving, hparse, Bool.not_true, Bool.false_eq_true, if_false, h,
    Option.map_some']
  exact ⟨_, rfl⟩

/-! ### Runs of a receiver -/

/-- The calls a `ViEReceiver` takes that touch the receive path's state. -/
inductive Op (ρ : Type)
  | startReceive
  | stopReceive
  /-- `SetReceiveCodec`, `SetRtxPayloadType`, `SetRtxSsrc`, …: calls that change only the
  payload registry. -/
  | configureRegistry (update : ρ → ρ)
  | insertRTPPacket (rtpPacket : List UInt8) (packetTime : PacketTime) (nowMs : Int)

/-- One call, with `fuel` for the receive path: its return value and the receiver after. -/
def apply (fuel : Nat) : Op ρ → ViEReceiver ρ φ → Option (Int × ViEReceiver ρ φ)
  | .startReceive, s => some (0, { s with receiving := true })
  | .stopReceive, s => some (0, { s with receiving := false })
  | .configureRegistry update, s => some (0, { s with registry := update s.registry })
  | .insertRTPPacket rtpPacket packetTime nowMs, s =>
    insertRTPPacket env fuel rtpPacket packetTime nowMs s

/-- The receivers a run of calls reaches from the constructor's state. -/
inductive Reachable : ViEReceiver ρ φ → Prop
  | init (registry : ρ) (fec : φ) : Reachable (init registry fec)
  | step {s s' : ViEReceiver ρ φ} {ret : Int} (fuel : Nat) (op : Op ρ) :
      Reachable s → apply env fuel op s = some (ret, s') → Reachable s'

theorem apply_cases {fuel : Nat} {op : Op ρ} {s s' : ViEReceiver ρ φ} {ret : Int}
    (h : apply env fuel op s = some (ret, s')) :
    s'.restoredPacketInUse = s.restoredPacketInUse ∧ s'.trace = s.trace ∨
      ∃ rtpPacket packetTime nowMs,
        insertRTPPacket env fuel rtpPacket packetTime nowMs s = some (ret, s') := by
  cases op with
  | insertRTPPacket rtpPacket packetTime nowMs => exact .inr ⟨_, _, _, h⟩
  | _ => cases h; exact .inl ⟨rfl, rfl⟩

/-- An invariant of the restoration flag and the trace that the constructor's state has and
every `InsertRTPPacket` keeps holds in every reachable receiver. -/
theorem Reachable.flag_trace (I : Bool → List Entry → Prop) (hinit : I false [])
    (hinsert : ∀ fuel rtpPacket packetTime nowMs (s s' : ViEReceiver ρ φ) ret,
      I s.restoredPacketInUse s.trace →
      insertRTPPacket env fuel rtpPacket packetTime nowMs s = some (ret, s') →
      I s'.restoredPacketInUse s'.trace)
    {s : ViEReceiver ρ φ} (h : Reachable env s) : I s.restoredPacketInUse s.trace := by
  induction h with
  | init => exact hinit
  | step fuel op _ hstep ih =>
    rcases apply_cases env hstep with ⟨hflag, htrace⟩ | ⟨_, _, _, hins⟩
    · rwa [hflag, htrace]
    · exact hinsert _ _ _ _ _ _ _ ih hins

end ViEReceiver

end WebRtcCall
