import DoubleRatchet.Proofs.Message.Refusing
import DoubleRatchet.Proofs.Suite.Plain

namespace DoubleRatchet

/-!
# Octets are read or refused in three ways

Octets come from anywhere, and what is wrong with them can lie at any depth: in the
version octet, in the fields, in a key or an identity, or in a message inside.  Whoever
reads them tells only three cases apart, since a message that is invalid for one session
may be valid for another, while a version that is not spoken is not spoken anywhere.
The depth does not show in the kind of the fault.

What is read, on the other hand, needs no second look: the version is one that is
spoken, and what the version requires is there.
-/

/-- The versions that octets of a kind announce: in front, and for a first message also in front
of the message inside. -/
def MessageKind.Announces (kind : MessageKind) (bytes : Bytes) (version : UInt8) : Prop :=
  Message.announced? bytes = some version ∨
    kind = .preKeyWhisper ∧ ∃ inside, PreKeyWhisperMessage.embedded? bytes = some inside ∧
      Message.announced? inside = some version

/-- A message of a version that is spoken, with what that version requires. -/
def Envelope.Whole : Envelope -> Prop
  | whisper message => Message.Spoken message.version
  | preKeyWhisper message =>
    Message.Spoken message.message.version ∧
      (message.version = oldestVersion ∧ message.preKeyId.isSome ∨
        message.version = currentVersion ∧ message.signedPreKeyId.isSome)
  | keyExchange message =>
    message.version = oldestVersion ∨
      message.version = currentVersion ∧ message.baseKeySignature.isSome

theorem PreKeyWhisperMessage.Fits.whole {message : PreKeyWhisperMessage} (fits : message.Fits) :
    (Envelope.preKeyWhisper message).Whole := by
  refine ⟨WhisperMessage.spoken_of_ofBytes fits.inner, ?_⟩
  have complete := fits.complete
  unfold Complete namesPreKey at complete
  rcases fits.spoken with older | newer
  · rw [older, if_pos (by decide)] at complete
    exact .inl ⟨older, complete⟩
  · rw [newer, if_neg (by decide)] at complete
    exact .inr ⟨newer, complete⟩

theorem KeyExchangeMessage.Fits.whole {message : KeyExchangeMessage} (fits : message.Fits) :
    (Envelope.keyExchange message).Whole := by
  rcases fits.spoken with older | newer
  · exact .inl older
  · exact .inr ⟨newer, fits.signed (UInt8.le_of_eq newer.symm)⟩

/-- Octets of every kind are read as a message of that kind, which is whole, or are refused:
as invalid, or with a version that is not spoken and that they announce. -/
theorem octets_read_or_refused (kind : MessageKind) (bytes : Bytes) :
    match Envelope.ofBytes kind bytes with
    | .ok envelope => envelope.kind = kind ∧ envelope.Whole
    | .error fault => Message.Refusal (kind.Announces bytes) fault := by
  have fails : Message.Fails (kind.Announces bytes) (Envelope.ofBytes kind bytes) := by
    cases kind with
    | whisper => exact ((WhisperMessage.fails_ofBytes bytes).mono fun _ => .inl).map _
    | preKeyWhisper =>
      exact ((PreKeyWhisperMessage.fails_ofBytes bytes).mono
        fun _ => .imp_right fun inside => ⟨rfl, inside⟩).map _
    | keyExchange => exact ((KeyExchangeMessage.fails_ofBytes bytes).mono fun _ => .inl).map _
  cases reads : Envelope.ofBytes kind bytes with
  | error fault => exact fails fault reads
  | ok envelope =>
    cases kind with
    | whisper =>
      obtain ⟨message, read, rfl⟩ := Message.map_eq_ok.mp reads
      exact ⟨rfl, WhisperMessage.spoken_of_ofBytes read⟩
    | preKeyWhisper =>
      obtain ⟨message, read, rfl⟩ := Message.map_eq_ok.mp reads
      exact ⟨rfl, (PreKeyWhisperMessage.fits_of_ofBytes read).1.whole⟩
    | keyExchange =>
      obtain ⟨message, read, rfl⟩ := Message.map_eq_ok.mp reads
      exact ⟨rfl, (KeyExchangeMessage.fits_of_ofBytes read).whole⟩

namespace Scene

attribute [local instance] plainSuite

/-- Alice's first message around a message of another version. -/
def wrapping (octet : UInt8) : PreKeyWhisperMessage :=
  { firstMessage with
    message := { firstMessage.message with toBytes := octet :: List.replicate 8 0 } }

example : Envelope.ofBytes .preKeyWhisper (wrapping 0x13).toBytes = .error (.legacyVersion 1) := by
  decide +kernel

end Scene
end DoubleRatchet
