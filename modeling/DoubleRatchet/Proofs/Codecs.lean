import DoubleRatchet.Proofs.Message.Fitting
import DoubleRatchet.Proofs.Suite.Plain

namespace DoubleRatchet

/-!
# The codecs are inverse to each other

A message that is written and read is the same message.  The other direction cannot
hold for octets, because a body has many spellings: fields may come in any order,
repeat, or be unknown.  It holds for messages: whatever spelling was read, the message
is read again from the spelling that this library gives it.  Only sealed messages keep
their octets, on their own and inside a handshake, since a tag covers the spelling.
-/

/-- Every message that is made here is read back, and its tag is found right; every
message that fits its format is read back; and every message that is read, from whatever
spelling, is read again from the spelling it is given here.  Sealed messages keep their
spelling. -/
theorem messages_read_back [Suite] :
    (∀ (version : UInt8) (macKey : Octets 32) (ratchetKey : PublicKey)
      (counter previousCounter : UInt32) (body : Bytes) (sender receiver : IdentityKey),
      Message.Spoken version → body.length < 2 ^ 63 →
      let message := WhisperMessage.create version macKey ratchetKey counter previousCounter body
        sender receiver
      WhisperMessage.ofBytes message.toBytes = .ok message ∧
        message.checkTag macKey sender receiver = .ok ()) ∧
    (∀ message : PreKeyWhisperMessage, Message.Spoken message.version → message.Complete →
      message.message.Made → PreKeyWhisperMessage.ofBytes message.toBytes = .ok message) ∧
    (∀ message : KeyExchangeMessage, message.Fits →
      KeyExchangeMessage.ofBytes message.toBytes = .ok message) ∧
    (∀ bytes message, WhisperMessage.ofBytes bytes = .ok message →
      message.toBytes = bytes ∧ WhisperMessage.ofBytes message.toBytes = .ok message) ∧
    (∀ bytes message, PreKeyWhisperMessage.ofBytes bytes = .ok message →
      PreKeyWhisperMessage.ofBytes message.toBytes = .ok message ∧
        PreKeyWhisperMessage.embedded? bytes = some message.message.toBytes ∧
        PreKeyWhisperMessage.embedded? message.toBytes = some message.message.toBytes) ∧
    (∀ bytes message, KeyExchangeMessage.ofBytes bytes = .ok message →
      KeyExchangeMessage.ofBytes message.toBytes = .ok message) := by
  refine ⟨?_, ?_, ?_, ?_, ?_, ?_⟩
  · intro version macKey ratchetKey counter previousCounter body sender receiver spoken short
    refine ⟨WhisperMessage.ofBytes_create spoken short, ?_⟩
    rw [WhisperMessage.checkTag, if_pos WhisperMessage.verifies_create]
  · intro message spoken complete made
    exact PreKeyWhisperMessage.ofBytes_toBytes spoken complete made.length_toBytes
      made.ofBytes_toBytes
  · exact fun message fits => fits.ofBytes_toBytes
  · intro bytes message reads
    have kept := WhisperMessage.toBytes_of_ofBytes reads
    exact ⟨kept, kept.symm ▸ reads⟩
  · intro bytes message reads
    obtain ⟨fits, embeds⟩ := PreKeyWhisperMessage.fits_of_ofBytes reads
    have again := PreKeyWhisperMessage.ofBytes_toBytes fits.spoken fits.complete fits.short
      fits.inner
    exact ⟨again, embeds, (PreKeyWhisperMessage.fits_of_ofBytes again).2⟩
  · intro bytes message reads
    exact (KeyExchangeMessage.fits_of_ofBytes reads).ofBytes_toBytes

namespace Scene

attribute [local instance] plainSuite

/-- The opening of a key exchange, with a signature and a payload. -/
def signedCrossing : KeyExchangeMessage :=
  { crossing with baseKeySignature := some [1, 2, 3], identityUpdate := some [4] }

/-- Bob's late message, Alice's first one and a signed exchange come back from their octets,
and come back again when they have been read. -/
theorem letters_read_back :
    WhisperMessage.ofBytes late.toBytes = .ok late ∧
      late.checkTag lateChain.chainKey.messageKeys.macKey bob.identity alice.identity = .ok () ∧
      PreKeyWhisperMessage.ofBytes firstMessage.toBytes = .ok firstMessage ∧
      PreKeyWhisperMessage.embedded? firstMessage.toBytes = some firstMessage.message.toBytes ∧
      KeyExchangeMessage.ofBytes signedCrossing.toBytes = .ok signedCrossing := by
  obtain ⟨sealed, first, exchange, sealedAgain, firstAgain, exchangeAgain⟩ :=
    messages_read_back
  obtain ⟨lateReads, tagged⟩ := sealed oldestVersion lateChain.chainKey.messageKeys.macKey
    lateChain.ratchetKey 0 0 [0x6c, 0x61, 0x74, 0x65] bob.identity alice.identity (.inl rfl)
    (by decide)
  have inside : firstMessage.message.Made :=
    ⟨_, _, _, _, _, _, _, _, .inr rfl, by decide, rfl⟩
  have firstReads := first firstMessage (.inr rfl) rfl inside
  have exchangeReads := exchange signedCrossing
    ⟨.inr rfl, fun _ => rfl, by decide, by decide, by rintro _ ⟨⟩; decide, by rintro _ ⟨⟩; decide⟩
  exact ⟨(sealedAgain _ _ lateReads).2, tagged, (firstAgain _ _ firstReads).1,
    (firstAgain _ _ firstReads).2.1, exchangeAgain _ _ exchangeReads⟩

end Scene
end DoubleRatchet
