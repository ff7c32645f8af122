import DoubleRatchet.Proofs.Session.Agreement
import DoubleRatchet.Proofs.Suite.Plain

namespace DoubleRatchet

/-!
# Both sides of a negotiation derive the same keys

Whichever way a session is negotiated, its two parties end up in states that are joined: the
first chain of the responder is the one that the initiator receives on, and the root of the
responder is one step of the agreement ratchet below that of the initiator.  This is so in
every version, with a one-time pre-key and without, and for either outcome of the comparison
that gives out the roles of a key exchange.
-/

namespace Negotiation

variable [Suite]

/-- Parties that know each other's public keys derive the same keys, whether their roles are
given or are decided by their base keys.  Where the base keys decide, exactly one of the two
parties initiates. -/
theorem both_sides_agree (symmetric : Suite.AgreementSymmetric ‹Suite›) (version : UInt8) :
    (∀ (initiating : InitiatorKeys) (responding : ResponderKeys) (fresh : KeyPair),
      Counterparts initiating responding → fresh.Matched →
        SessionState.Joined ⟨version, initiating.identity.identity, responding.identity.identity⟩
          responding.ratchetKey (initiator version initiating fresh)
          (responder version responding)) ∧
      ∀ (ours theirs : ExchangeKeys) (trace later : Trace),
        Facing ours theirs → ours.baseKey.publicKey ≠ theirs.baseKey.publicKey →
          (isInitiator ours.baseKey.publicKey ours.theirBaseKey = true ∧
            isInitiator theirs.baseKey.publicKey theirs.theirBaseKey = false ∧
            SessionState.Joined ⟨version, ours.identity.identity, theirs.identity.identity⟩
              theirs.ratchetKey (Negotiation.symmetric version ours trace).1
              (Negotiation.symmetric version theirs later).1) ∨
          (isInitiator ours.baseKey.publicKey ours.theirBaseKey = false ∧
            isInitiator theirs.baseKey.publicKey theirs.theirBaseKey = true ∧
            SessionState.Joined ⟨version, theirs.identity.identity, ours.identity.identity⟩
              ours.ratchetKey (Negotiation.symmetric version theirs later).1
              (Negotiation.symmetric version ours trace).1) := by
  constructor
  · intro initiating responding fresh counterparts matched
    exact counterparts.joined symmetric version matched
  · intro ours theirs trace later facing different
    have roles := facing.isInitiator_eq different
    cases role : isInitiator ours.baseKey.publicKey ours.theirBaseKey with
    | true =>
      rw [role] at roles
      exact .inl ⟨rfl, roles, facing.joined symmetric version trace later role roles⟩
    | false =>
      rw [role] at roles
      exact .inr ⟨rfl, roles, facing.symm.joined symmetric version later trace roles role⟩

end Negotiation

namespace Scene

attribute [local instance] plainSuite

/-- What Alice knows when she opens a session from a bundle that has a one-time pre-key. -/
def bundleKeys : Negotiation.InitiatorKeys where
  identity := alice
  baseKey := .drawnAt aliceDraws 0
  theirIdentity := bob.identity
  theirSignedPreKey := signedPreKey.pair.publicKey
  theirOneTimePreKey := some preKey.pair.publicKey
  theirRatchetKey := signedPreKey.pair.publicKey

/-- What Bob knows when he takes her handshake. -/
def handshakeKeys : Negotiation.ResponderKeys where
  identity := bob
  signedPreKey := signedPreKey.pair
  oneTimePreKey := some preKey.pair
  ratchetKey := signedPreKey.pair
  theirIdentity := alice.identity
  theirBaseKey := (KeyPair.drawnAt aliceDraws 0).publicKey

theorem handshakeKeys_counterparts : Negotiation.Counterparts bundleKeys handshakeKeys where
  initiator_eq := rfl
  responder_eq := rfl
  baseKey_eq := rfl
  signedPreKey_eq := rfl
  oneTimePreKey_eq := rfl
  ratchetKey_eq := rfl
  baseKey_matched := rfl
  signedPreKey_matched := rfl
  oneTimePreKey_matched := by
    rintro pair same
    cases same
    rfl
  ratchetKey_matched := rfl

/-- What Alice brings into a key exchange with Bob. -/
def aliceKeys : Negotiation.ExchangeKeys where
  identity := alice
  baseKey := .drawnAt aliceDraws 3
  ratchetKey := .drawnAt aliceDraws 4
  theirIdentity := bob.identity
  theirBaseKey := (KeyPair.drawnAt bobDraws 0).publicKey
  theirRatchetKey := (KeyPair.drawnAt bobDraws 1).publicKey

/-- What Bob brings into it. -/
def bobKeys : Negotiation.ExchangeKeys where
  identity := bob
  baseKey := .drawnAt bobDraws 0
  ratchetKey := .drawnAt bobDraws 1
  theirIdentity := alice.identity
  theirBaseKey := (KeyPair.drawnAt aliceDraws 3).publicKey
  theirRatchetKey := (KeyPair.drawnAt aliceDraws 4).publicKey

theorem aliceKeys_facing : Negotiation.Facing aliceKeys bobKeys := by
  constructor <;> rfl

/-- Alice and Bob derive the same keys from a bundle, and in a key exchange in which Bob has
the higher base key. -/
theorem alice_and_bob_agree :
    plainSuite.AgreementSymmetric ∧
      SessionState.Joined ⟨currentVersion, alice.identity, bob.identity⟩ signedPreKey.pair
        (Negotiation.initiator currentVersion bundleKeys (.drawnAt aliceDraws 1))
        (Negotiation.responder currentVersion handshakeKeys) ∧
      SessionState.Joined ⟨currentVersion, bob.identity, alice.identity⟩ (.drawnAt aliceDraws 4)
        (Negotiation.symmetric currentVersion bobKeys (.start bobDraws)).1
        (Negotiation.symmetric currentVersion aliceKeys (.start aliceDraws)).1 := by
  have sides := Negotiation.both_sides_agree plainSuite_agreementSymmetric currentVersion
  have higher : Negotiation.isInitiator aliceKeys.baseKey.publicKey aliceKeys.theirBaseKey =
      false := by
    decide
  refine ⟨plainSuite_agreementSymmetric,
    sides.1 bundleKeys handshakeKeys _ handshakeKeys_counterparts rfl, ?_⟩
  rcases sides.2 aliceKeys bobKeys (.start aliceDraws) (.start bobDraws) aliceKeys_facing
    (by decide) with ⟨role, _, _⟩ | ⟨_, _, joined⟩
  · exact absurd (role.symm.trans higher) (by decide)
  · exact joined

end Scene
end DoubleRatchet
