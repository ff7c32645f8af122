import Mathlib.Algebra.Group.Nat.Defs
import DoubleRatchet.Proofs.Engine.Seeding
import DoubleRatchet.Proofs.Engine.Transporting
import DoubleRatchet.Proofs.Engine.Vouching

namespace DoubleRatchet

/-!
# A suite without secrets

A statement about all suites says nothing if no suite satisfies its hypotheses.
The plain suite satisfies those that are used here, and is simple enough that whole
runs of the engine can be computed: a key pair is a string and itself, agreement is
exclusive or, derivation writes its inputs one after another, and a sealed text is
the text.  It protects nothing.
-/

/-- The suite in which everything is public. -/
@[reducible] def plainSuite : Suite where
  publicValue secret := secret
  agree secret other := secret.xor other
  mac key message := .fill 32 (message ++ key)
  derive length salt input label := .fill length (input ++ salt ++ label)
  seal? _ _ text := if text.length < 2 ^ 16 then some text else none
  unseal? _ _ sealedText := some sealedText
  verifyingKey _ := .base
  sign _ _ := default
  verify _ _ _ := true

theorem plainSuite_agreementSymmetric : plainSuite.AgreementSymmetric := by
  intro first second
  apply Octets.ext
  change first.toList.zipWith (· ^^^ ·) second.toList = second.toList.zipWith (· ^^^ ·) first.toList
  rw [List.zipWith_comm]
  congr 1
  funext left right
  exact UInt8.xor_comm right left

theorem plainSuite_sealingFaithful : plainSuite.SealingFaithful := by
  intro key nonce text sealedText done
  change (if text.length < 2 ^ 16 then some text else none) = some sealedText at done
  split at done
  · cases done
    rfl
  · cases done

theorem plainSuite_sealingBounded : plainSuite.SealingBounded := by
  intro key nonce text sealedText done
  change (if text.length < 2 ^ 16 then some text else none) = some sealedText at done
  split at done
  · cases done
    omega
  · cases done

theorem plainSuite_signingFaithful : plainSuite.SigningFaithful :=
  fun _ _ => rfl

/-- The plain suite with other digests, which show the key.  Derivation repeats the last 32
octets of its input, so that chains of different agreements have different tags. -/
@[reducible] def tellingSuite : Suite :=
  { plainSuite with
    mac := fun key _ => .fill 32 key
    derive := fun length _ input _ =>
      .fill length (List.replicate 3 (input.drop (input.length - 32))).flatten }

/-! ## A scene

Two parties under the plain suite, one of which has published a signed pre-key.
The other has opened a session from it and seals a first message.  Facts about all
runs are shown to speak of something by this one. -/

namespace Scene

attribute [local instance] plainSuite

/-- The party that opens the session. -/
def alice : IdentityKeyPair :=
  ⟨.replicate 32 1, ⟨.replicate 32 2⟩⟩

/-- The party that has published a pre-key. -/
def bob : IdentityKeyPair :=
  ⟨.replicate 32 3, ⟨.replicate 32 4⟩⟩

/-- Where Bob finds Alice. -/
def aliceAddress : Address :=
  ⟨"alice", 1⟩

/-- Where Alice finds Bob. -/
def bobAddress : Address :=
  ⟨"bob", 1⟩

/-- Bob's signed pre-key. -/
def signedPreKey : SignedPreKey :=
  ⟨1, 0, .ofPrivate ⟨.replicate 32 5⟩, []⟩

/-- Alice's draws: the number of the draw, repeated. -/
def aliceDraws (place : Nat) : Octets 32 :=
  .replicate 32 (UInt8.ofNat (16 + place))

/-- Bob's draws. -/
def bobDraws (place : Nat) : Octets 32 :=
  .replicate 32 (UInt8.ofNat (128 + place))

/-- Bob before anyone has written to him. -/
def bobHost : Host :=
  .start ((Store.ofIdentity bob 8).storeSignedPreKey 1 signedPreKey) bobDraws

/-- Alice's state after she has opened the session. -/
def aliceState : SessionState :=
  Establishment.bundleState (Store.ofIdentity alice 7)
    (Bundle.ofKeys 8 1 bob (some signedPreKey) none)
    ⟨currentVersion, signedPreKey.pair.publicKey, none⟩
    (.drawnAt aliceDraws 0) (.drawnAt aliceDraws 1)

/-- The first message that Alice seals. -/
def firstMessage : PreKeyWhisperMessage where
  version := currentVersion
  registrationId := 7
  preKeyId := none
  signedPreKeyId := some 1
  baseKey := (KeyPair.drawnAt aliceDraws 0).publicKey
  identity := alice.identity
  message := aliceState.sealedMessage (aliceState.sender.getD default) alice.identity bob.identity
    [0x68, 0x69]

/-- Bob opens it. -/
theorem first_message_opens : ∃ text after,
    bobHost.perform (Transport.decrypt aliceAddress .standard (.preKeyWhisper firstMessage)) =
      (.ok text, after) :=
  exists_eq_ok (by decide +kernel)

/-! ## An older session and a crossing exchange -/

/-- Bob's one-time pre-key. -/
def preKey : PreKey :=
  ⟨1, .ofPrivate ⟨.replicate 32 6⟩⟩

/-- The bundle of the older version that Bob has published. -/
def olderBundle : Bundle :=
  .ofKeys 8 1 bob none (some preKey)

/-- What the bundle offers. -/
def olderOffer : Establishment.Offer :=
  ⟨oldestVersion, preKey.pair.publicKey, none⟩

/-- Alice's state after she has opened a session of the older version. -/
def olderState : SessionState :=
  Establishment.bundleState (Store.ofIdentity alice 7) olderBundle olderOffer
    (.drawnAt aliceDraws 0) (.drawnAt aliceDraws 1)

/-- The first message that Alice seals in it, with the pre-key named by an id. -/
def olderMessage (id : UInt32) : PreKeyWhisperMessage where
  version := oldestVersion
  registrationId := 7
  preKeyId := some id
  signedPreKeyId := none
  baseKey := (KeyPair.drawnAt aliceDraws 0).publicKey
  identity := alice.identity
  message := olderState.sealedMessage (olderState.sender.getD default) alice.identity bob.identity
    [0x68, 0x69]

/-- Bob with the pre-key under that id. -/
def olderHost (id : UInt32) : Host :=
  .start ((Store.ofIdentity bob 8).storePreKey id preKey) bobDraws

/-- Bob's state for the handshake of that message. -/
def olderAnswer : SessionState :=
  Establishment.responderState (olderHost 1).store (olderMessage 1) preKey.pair none

theorem olderAnswer_takes (ours : KeyPair) :
    ∃ text taken, olderAnswer.Takes .standard ours (olderMessage 1).message text taken := by
  have opened : (olderAnswer.openMessage .standard aliceAddress (olderMessage 1).message
      (.start bobDraws)).1.toOption.isSome = true := by
    decide +kernel
  obtain ⟨⟨text, taken⟩, later, gives⟩ := exists_eq_ok opened
  obtain ⟨other, takes⟩ := (SessionState.takes_of_openMessage gives).1.redrawn ours
  exact ⟨text, other, takes⟩

/-- Bob takes the handshake as long as he has the pre-key, whatever he knows of Alice. -/
theorem bob_answers {host : Host} (permissive : host.Permissive)
    (identity_eq : host.store.identity = bob) (registration_eq : host.store.registrationId = 8)
    {id : UInt32} (loaded : host.store.loadPreKey id = .ok preKey) {record : SessionRecord}
    (load : host.store.loadSession aliceAddress = .ok record)
    (trusted : host.store.trusts "alice" alice.identity = true) :
    ∃ text taken after draws, host.perform (Transport.decrypt aliceAddress .standard
        (.preKeyWhisper (olderMessage id))) = (.ok text, after) ∧
      olderAnswer.Takes .standard host.trace.nextPair (olderMessage 1).message text taken ∧
      host.Becomes ((Transport.settle host.store "alice" alice.identity
        ((some id).filter fun id => id ≠ lastResortId)).storeSession aliceAddress
          { record.promote olderAnswer 40 with current := taken }) draws after := by
  have answer : Establishment.responderState host.store (olderMessage id) preKey.pair none =
      olderAnswer := by
    simp only [Establishment.responderState, identity_eq, registration_eq]
    rfl
  have accepts : Establishment.Accepted host.store aliceAddress .standard record (olderMessage id)
      _ _ := .unsigned rfl rfl loaded
  rw [answer] at accepts
  obtain ⟨text, taken, takes⟩ := olderAnswer_takes host.trace.nextPair
  have known : taken.remoteIdentity = some alice.identity := takes.keeps_identities.2.2
  have sender : host.store.trusts aliceAddress.name (olderMessage id).identity = true := trusted
  obtain ⟨after, gives, becomes⟩ := Transport.perform_decryptPreKeyWhisper permissive load sender
    accepts takes known trusted
  exact ⟨text, taken, after, _, gives, takes, becomes⟩

/-- Bob's record of Alice after he has taken her handshake, on top of another one. -/
def answered (record : SessionRecord) (taken : SessionState) : SessionRecord :=
  ({ record.promote olderAnswer 40 with current := taken } : SessionRecord).settled

theorem below_olderMessage (id : UInt32) :
    (Envelope.preKeyWhisper (olderMessage id)).BelowLast := by
  intro message held
  cases held
  have first : (0 : UInt32) < lastCounter := by decide
  exact first

/-- Bob, to whom Alice is unknown, takes her handshake with the pre-key that he has. -/
theorem bob_meets (id : UInt32) :
    ∃ text taken after draws, (olderHost id).perform (Transport.decrypt aliceAddress .standard
        (.preKeyWhisper (olderMessage id))) = (.ok text, after) ∧
      olderAnswer.Takes .standard (olderHost id).trace.nextPair (olderMessage 1).message text
        taken ∧
      (olderHost id).Becomes ((Transport.settle (olderHost id).store "alice" alice.identity
        ((some id).filter fun id => id ≠ lastResortId)).storeSession aliceAddress
          (answered .new taken)) draws after ∧
      after.store.loadSession aliceAddress = .ok (answered .new taken) ∧
      after.store.trusts "alice" alice.identity = true := by
  have permissive : (olderHost id).Permissive := Host.permissive_start _ _
  obtain ⟨text, taken, after, draws, gives, takes, becomes⟩ :=
    bob_answers permissive rfl rfl (Store.loadPreKey_storePreKey_self ..)
      (Store.loadSession_of_empty rfl _) (Store.trusts_of_unpinned rfl _)
  refine ⟨text, taken, after, draws, gives, takes, becomes, ?_, ?_⟩
  · rw [becomes.store_eq]
    exact Store.loadSession_storeSession_self ..
  · rw [becomes.store_eq]
    exact Store.trusts_pin ..

/-- Bob stores a pre-key and opens the first message that Alice has sealed for it. -/
def meeting : List Deed :=
  [.tends (.storePreKey 1 preKey),
    .asks (.decrypt aliceAddress .standard (fun _ => .ok ()) (.preKeyWhisper (olderMessage 1)))]

/-- What Alice leaves pending when she then opens a key exchange. -/
def waiting (sequence : UInt32) : PendingExchange :=
  ⟨sequence, .drawnAt aliceDraws 3, .drawnAt aliceDraws 4⟩

/-- The key exchange that Bob has opened on his side.  His base key is the higher one. -/
def crossing : KeyExchangeMessage where
  version := currentVersion
  sequence := 9
  flags := KeyExchangeMessage.initiateFlag
  baseKey := (KeyPair.drawnAt bobDraws 0).publicKey
  baseKeySignature := none
  ratchetKey := (KeyPair.drawnAt bobDraws 1).publicKey
  identity := bob.identity
  identityUpdate := none

/-- Alice's state after she has answered it, in the role of the responder. -/
def answering : SessionState :=
  { Negotiation.responder currentVersion (Establishment.exchangeKeys alice (.drawnAt aliceDraws 3)
      (.drawnAt aliceDraws 4) crossing).asResponder with
    localRegistrationId := 7 }

/-- The chain of the older session that Bob sends on. -/
def lateChain : ReceiverChain :=
  olderState.receivers.headD default

/-- A message of the older session that Bob has sealed before. -/
def late : WhisperMessage :=
  .create oldestVersion lateChain.chainKey.messageKeys.macKey lateChain.ratchetKey 0 0
    [0x6c, 0x61, 0x74, 0x65] bob.identity alice.identity

end Scene
end DoubleRatchet
