import WebRtcCall.Receiver.Ingress

/-!
# Registering header extensions

A `ViEReceiver` has four methods that register a header extension with its header parser
`rtp_header_parser_`, or deregister it. Three of them also keep a flag of the receiver:
`SetReceiveAbsoluteSendTimeStatus`, `SetReceiveVideoRotationStatus` and
`SetReceiveTransportSequenceNumber` set `receiving_ast_enabled_`, `receiving_cvo_enabled_` and
`receiving_tsn_enabled_` once the parser has accepted the registration, and clear them before
deregistering, whatever the parser answers then. They share one body
(`setReceiveFlaggedStatus`). `SetReceiveTimestampOffsetStatus` registers and deregisters the
same way, but keeps no flag.

The parser's code is not part of this source: it is any state machine (`HeaderParser`).

* `extension_flag_since_enable`: for every parser, from every state and over every sequence of
  calls of the four methods, the flag of an extension is set at the end exactly when a call
  enabling that extension was accepted and no call disabling it came after, or the flag was
  set at the start and no call disabled the extension. Calls for the other extensions, and the
  timestamp offset calls in particular, never touch it.
-/

namespace WebRtcCall

/-- `RTPExtensionType`, for the extensions a `ViEReceiver` registers. -/
inductive RTPExtensionType
  | transmissionTimeOffset
  | absoluteSendTime
  | videoRotation
  | transportSequenceNumber
  deriving DecidableEq, Repr

/-- The header parser `rtp_header_parser_`, over a type `π` of its states, as far as
registering header extensions goes. -/
structure HeaderParser (π : Type) where
  /-- `RtpHeaderParser::RegisterRtpHeaderExtension(type, id)`. -/
  registerRtpHeaderExtension : π → RTPExtensionType → Int → Bool × π
  /-- `RtpHeaderParser::DeregisterRtpHeaderExtension(type)`. -/
  deregisterRtpHeaderExtension : π → RTPExtensionType → Bool × π

/-- The flags of a `ViEReceiver` that record an accepted header extension. -/
structure ExtensionFlags where
  receivingAstEnabled : Bool
  receivingCvoEnabled : Bool
  receivingTsnEnabled : Bool
  deriving DecidableEq, Repr

namespace ExtensionFlags

/-- The flags as the constructor initialises them. -/
def init : ExtensionFlags := ⟨false, false, false⟩

/-- The flag of an extension, `none` for the transmission time offset, which has none. -/
def flag? (f : ExtensionFlags) : RTPExtensionType → Option Bool
  | .transmissionTimeOffset => none
  | .absoluteSendTime => some f.receivingAstEnabled
  | .videoRotation => some f.receivingCvoEnabled
  | .transportSequenceNumber => some f.receivingTsnEnabled

/-- `receiving_…_enabled_ = b` for the flag of an extension. -/
def set (f : ExtensionFlags) : RTPExtensionType → Bool → ExtensionFlags
  | .transmissionTimeOffset, _ => f
  | .absoluteSendTime, b => { f with receivingAstEnabled := b }
  | .videoRotation, b => { f with receivingCvoEnabled := b }
  | .transportSequenceNumber, b => { f with receivingTsnEnabled := b }

theorem flag?_set (f : ExtensionFlags) (type : RTPExtensionType) (b : Bool)
    {t : RTPExtensionType} (ht : t ≠ .transmissionTimeOffset) :
    (f.set type b).flag? t = if type = t then some b else f.flag? t := by
  cases type <;> cases t <;> first | exact absurd rfl ht | rfl

end ExtensionFlags

/-- What the four methods read and write: the flags and the state of the header parser. -/
structure ExtensionSettings (π : Type) where
  flags : ExtensionFlags
  parser : π

namespace ViEReceiver

variable {π : Type} (hp : HeaderParser π)

/-- The body `SetReceiveAbsoluteSendTimeStatus`, `SetReceiveVideoRotationStatus` and
`SetReceiveTransportSequenceNumber` share, for the extension `type`: set its flag once the
parser accepted the registration; clear it, then deregister. -/
def setReceiveFlaggedStatus (type : RTPExtensionType) (enable : Bool) (id : Int)
    (s : ExtensionSettings π) : Bool × ExtensionSettings π :=
  if enable then
    let r := hp.registerRtpHeaderExtension s.parser type id
    if r.1 then (true, ⟨s.flags.set type true, r.2⟩) else (false, ⟨s.flags, r.2⟩)
  else
    let flags := s.flags.set type false
    let r := hp.deregisterRtpHeaderExtension s.parser type
    (r.1, ⟨flags, r.2⟩)

/-- `ViEReceiver::SetReceiveTimestampOffsetStatus(enable, id)`: the parser's answer, and no
flag. -/
def setReceiveTimestampOffsetStatus (enable : Bool) (id : Int) (s : ExtensionSettings π) :
    Bool × ExtensionSettings π :=
  if enable then
    let r := hp.registerRtpHeaderExtension s.parser .transmissionTimeOffset id
    (r.1, { s with parser := r.2 })
  else
    let r := hp.deregisterRtpHeaderExtension s.parser .transmissionTimeOffset
    (r.1, { s with parser := r.2 })

/-- `ViEReceiver::SetReceiveAbsoluteSendTimeStatus(enable, id)`. -/
def setReceiveAbsoluteSendTimeStatus : Bool → Int → ExtensionSettings π → Bool × ExtensionSettings π :=
  setReceiveFlaggedStatus hp .absoluteSendTime

/-- `ViEReceiver::SetReceiveVideoRotationStatus(enable, id)`. -/
def setReceiveVideoRotationStatus : Bool → Int → ExtensionSettings π → Bool × ExtensionSettings π :=
  setReceiveFlaggedStatus hp .videoRotation

/-- `ViEReceiver::SetReceiveTransportSequenceNumber(enable, id)`. -/
def setReceiveTransportSequenceNumber :
    Bool → Int → ExtensionSettings π → Bool × ExtensionSettings π :=
  setReceiveFlaggedStatus hp .transportSequenceNumber

end ViEReceiver

/-- A call of one of the four methods: the extension it is for, `enable` and `id`. -/
structure ExtensionCall where
  type : RTPExtensionType
  enable : Bool
  id : Int
  deriving DecidableEq, Repr

namespace ExtensionCall

/-- The call, which returned `ok`, enabled `t` and was accepted. -/
def Enables (t : RTPExtensionType) (e : ExtensionCall × Bool) : Prop :=
  e.1.type = t ∧ e.1.enable = true ∧ e.2 = true

/-- The call disabled `t`. -/
def Disables (t : RTPExtensionType) (e : ExtensionCall × Bool) : Prop :=
  e.1.type = t ∧ e.1.enable = false

instance (t : RTPExtensionType) (e : ExtensionCall × Bool) : Decidable (Enables t e) :=
  inferInstanceAs (Decidable (_ ∧ _))

instance (t : RTPExtensionType) (e : ExtensionCall × Bool) : Decidable (Disables t e) :=
  inferInstanceAs (Decidable (_ ∧ _))

end ExtensionCall

namespace ViEReceiver

variable {π : Type} (hp : HeaderParser π)

/-- The method of the call's extension. -/
def setReceiveExtensionStatus (call : ExtensionCall) :
    ExtensionSettings π → Bool × ExtensionSettings π :=
  match call.type with
  | .transmissionTimeOffset => setReceiveTimestampOffsetStatus hp call.enable call.id
  | .absoluteSendTime => setReceiveAbsoluteSendTimeStatus hp call.enable call.id
  | .videoRotation => setReceiveVideoRotationStatus hp call.enable call.id
  | .transportSequenceNumber => setReceiveTransportSequenceNumber hp call.enable call.id

/-- The calls made in turn, each with what it returned. -/
def runExtensionCalls :
    List ExtensionCall → ExtensionSettings π → List (ExtensionCall × Bool) × ExtensionSettings π
  | [], s => ([], s)
  | call :: calls, s =>
    let r := setReceiveExtensionStatus hp call s
    let rest := runExtensionCalls calls r.2
    ((call, r.1) :: rest.1, rest.2)

/-- What the shared body does to a flag: an accepted enable of its extension sets it, a
disable of its extension clears it, and every other call leaves it. -/
theorem flag?_setReceiveFlaggedStatus (type : RTPExtensionType) (enable : Bool) (id : Int)
    (s : ExtensionSettings π) {t : RTPExtensionType} (ht : t ≠ .transmissionTimeOffset) :
    (setReceiveFlaggedStatus hp type enable id s).2.flags.flag? t =
      if ExtensionCall.Enables t (⟨type, enable, id⟩, (setReceiveFlaggedStatus hp type enable id s).1)
        then some true
      else if ExtensionCall.Disables t (⟨type, enable, id⟩, false) then some false
      else s.flags.flag? t := by
  unfold setReceiveFlaggedStatus
  cases enable
  · -- a disable clears the flag, whatever the parser answers
    simp [ExtensionCall.Enables, ExtensionCall.Disables, ExtensionFlags.flag?_set _ _ _ ht]
  · by_cases hr : (hp.registerRtpHeaderExtension s.parser type id).1 = true
    · simp [ExtensionCall.Enables, ExtensionCall.Disables, hr, ExtensionFlags.flag?_set _ _ _ ht]
    · simp [ExtensionCall.Enables, ExtensionCall.Disables, hr]

/-- The step: a call of any of the four methods does to a flag what the shared body does; a
timestamp offset call, whose method keeps no flag, leaves every flag. -/
theorem flag?_setReceiveExtensionStatus (call : ExtensionCall) (s : ExtensionSettings π)
    {t : RTPExtensionType} (ht : t ≠ .transmissionTimeOffset) :
    (setReceiveExtensionStatus hp call s).2.flags.flag? t =
      if ExtensionCall.Enables t (call, (setReceiveExtensionStatus hp call s).1) then some true
      else if ExtensionCall.Disables t (call, false) then some false
      else s.flags.flag? t := by
  obtain ⟨type, enable, id⟩ := call
  cases type
  case transmissionTimeOffset =>
    have hne : RTPExtensionType.transmissionTimeOffset ≠ t := (ht ·.symm)
    simp only [ExtensionCall.Enables, ExtensionCall.Disables, hne, false_and, if_false]
    simp only [setReceiveExtensionStatus, setReceiveTimestampOffsetStatus]
    split <;> rfl
  all_goals exact flag?_setReceiveFlaggedStatus hp _ enable id s ht

end ViEReceiver

section Since

variable {α : Type} (P Q : α → Prop)

/-- `P` held of an element of `l`, and `Q` of no element after it. -/
def Since (l : List α) : Prop :=
  ∃ l₁ a l₂, l = l₁ ++ a :: l₂ ∧ P a ∧ ∀ b ∈ l₂, ¬ Q b

theorem since_nil : ¬ Since P Q [] := fun ⟨l₁, _, _, h, _⟩ => by simp at h

theorem since_cons (a : α) (l : List α) :
    Since P Q (a :: l) ↔ Since P Q l ∨ (P a ∧ ∀ b ∈ l, ¬ Q b) := by
  constructor
  · rintro ⟨l₁, b, l₂, h, hb, hl₂⟩
    rcases List.cons_eq_append_iff.1 h with ⟨rfl, h⟩ | ⟨l₁', rfl, rfl⟩
    · cases h; exact .inr ⟨hb, hl₂⟩
    · exact .inl ⟨l₁', b, l₂, rfl, hb, hl₂⟩
  · rintro (⟨l₁, b, l₂, rfl, hb, hl₂⟩ | ⟨ha, hl⟩)
    · exact ⟨a :: l₁, b, l₂, rfl, hb, hl₂⟩
    · exact ⟨[], a, l, rfl, ha, hl⟩

end Since

/-- **A flag records the last accepted enable.** For every header parser, from every state and
over every sequence of calls of the four `SetReceive*` methods, the flag of an extension that
has one is set at the end exactly when an accepted call enabled the extension and no call
disabled it afterwards, or the flag was set at the start and no call disabled the extension.
What the parser answers to a disable does not matter, and calls for other extensions,
the timestamp offset calls among them, never change the flag. -/
theorem extension_flag_since_enable {π : Type} (hp : HeaderParser π) (calls : List ExtensionCall)
    (s : ExtensionSettings π) {t : RTPExtensionType} (ht : t ≠ .transmissionTimeOffset) :
    (ViEReceiver.runExtensionCalls hp calls s).2.flags.flag? t = some true ↔
      Since (ExtensionCall.Enables t) (ExtensionCall.Disables t)
          (ViEReceiver.runExtensionCalls hp calls s).1 ∨
        (s.flags.flag? t = some true ∧
          ∀ e ∈ (ViEReceiver.runExtensionCalls hp calls s).1, ¬ ExtensionCall.Disables t e) := by
  induction calls generalizing s with
  | nil => simp [ViEReceiver.runExtensionCalls, since_nil]
  | cons call calls ih =>
    simp only [ViEReceiver.runExtensionCalls, since_cons, List.mem_cons, forall_eq_or_imp]
    rw [ih, ViEReceiver.flag?_setReceiveExtensionStatus hp call s ht]
    -- the call enables `t`, disables it, or leaves its flag
    have hdis : ∀ b, ExtensionCall.Disables t (call, b) ↔ ExtensionCall.Disables t (call, false) :=
      fun _ => Iff.rfl
    split_ifs with hen hdis'
    · have : ¬ ExtensionCall.Disables t (call, (ViEReceiver.setReceiveExtensionStatus hp call s).1) :=
        fun h => Bool.false_ne_true (h.2.symm.trans hen.2.1)
      simp only [hen, this, true_and, not_false_eq_true]
      tauto
    · simp only [hen, (hdis _).2 hdis', Option.some.injEq, Bool.false_eq_true, false_and, or_false,
        not_true_eq_false, and_false]
    · simp only [hen, (hdis _).not.2 hdis', not_false_eq_true, false_and, or_false, true_and]

/-- A receiver whose parser accepts ids 1 to 14 registers absolute send times under id 3,
fails to register them again under id 20, and disables video rotation: the flag of absolute
send times stays set, and the first call is the accepted enable that set it. -/
theorem extension_flag_since_enable_ast :
    (.absoluteSendTime : RTPExtensionType) ≠ .transmissionTimeOffset ∧
      ∃ r, ViEReceiver.runExtensionCalls
          ⟨fun p _ id => (decide (1 ≤ id ∧ id ≤ 14), p), fun p _ => (true, p)⟩
          [⟨.absoluteSendTime, true, 3⟩, ⟨.absoluteSendTime, true, 20⟩, ⟨.videoRotation, false, 0⟩]
          (⟨ExtensionFlags.init, ()⟩ : ExtensionSettings Unit) = r ∧
        r.1.map Prod.snd = [true, false, true] ∧ r.2.flags.flag? .absoluteSendTime = some true ∧
        Since (ExtensionCall.Enables .absoluteSendTime) (ExtensionCall.Disables .absoluteSendTime)
          r.1 := by
  have ht : (.absoluteSendTime : RTPExtensionType) ≠ .transmissionTimeOffset := nofun
  refine ⟨ht, _, rfl, by decide, by decide, ?_⟩
  -- the flag was clear at the start, so an accepted enable set it
  exact ((extension_flag_since_enable _ _ _ ht).1 (by decide)).resolve_right (by decide)

end WebRtcCall
