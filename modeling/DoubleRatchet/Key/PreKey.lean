import DoubleRatchet.Key.Identity

namespace DoubleRatchet

/-!
# Pre-keys and bundles

A party publishes keys before anyone asks for a session: a signed pre-key that
lasts for a while and one-time pre-keys that are each used for one session.
The public halves of one of each, with the identity that signed, form the
bundle from which another party opens a session.  A bundle without a signed
pre-key belongs to the older version of the handshake.

Ids of one-time pre-keys are numbers of 24 bits.  The highest of them marks
the last resort, a pre-key that is handed out when no other is left and is
therefore never used up.
-/

/-- The id of the pre-key of last resort. -/
def lastResortId : UInt32 :=
  0xFFFFFF

/-- A one-time pre-key. -/
structure PreKey where
  id : UInt32
  pair : KeyPair
  deriving DecidableEq, Inhabited

/-- The id at place `place` of a batch that starts at `start`: ids run through
the numbers from one up to the one below the last resort, and then start over.
The sum before the remainder is one of 32-bit words. -/
def PreKey.idAt (start : UInt32) (place : UInt32) : UInt32 :=
  ((if start = 0 then 0 else start - 1) + place) % (lastResortId - 1) + 1

/-- A signed pre-key with the time of its generation in milliseconds. -/
structure SignedPreKey where
  id : UInt32
  timestamp : UInt64
  pair : KeyPair
  signature : Bytes
  deriving DecidableEq, Inhabited

/-- Whether the signature over the encoded public key is one of this identity. -/
def SignedPreKey.verifies [Suite] (key : SignedPreKey) (identity : IdentityKey) : Bool :=
  identity.verifies key.pair.publicKey.toBytes key.signature

/-- The public half of a signed pre-key. -/
structure SignedPreKeyOffer where
  id : UInt32
  publicKey : PublicKey
  signature : Bytes
  deriving DecidableEq, Inhabited

/-- The public half of a one-time pre-key. -/
structure PreKeyOffer where
  id : UInt32
  publicKey : PublicKey
  deriving DecidableEq, Inhabited

/-- The public keys from which another party opens a session. -/
structure Bundle where
  registrationId : UInt32
  deviceId : UInt32
  preKey : Option PreKeyOffer
  signedPreKey : Option SignedPreKeyOffer
  identity : IdentityKey
  deriving DecidableEq

namespace Bundle

/-- The bundle of a party's own keys. -/
def ofKeys [Suite] (registrationId deviceId : UInt32) (identity : IdentityKeyPair)
    (signedPreKey : Option SignedPreKey) (preKey : Option PreKey) : Bundle where
  registrationId := registrationId
  deviceId := deviceId
  preKey := preKey.map fun key => ⟨key.id, key.pair.publicKey⟩
  signedPreKey := signedPreKey.map fun key => ⟨key.id, key.pair.publicKey, key.signature⟩
  identity := identity.identity

/-- Whether there is a signed pre-key and its signature is one of the identity. -/
def verifies [Suite] (bundle : Bundle) : Bool :=
  bundle.signedPreKey.any fun key =>
    bundle.identity.verifies key.publicKey.toBytes key.signature

end Bundle
end DoubleRatchet
