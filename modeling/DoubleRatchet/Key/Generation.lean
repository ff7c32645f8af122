import DoubleRatchet.Key.PreKey
import DoubleRatchet.Trace

namespace DoubleRatchet

/-!
# Fresh keys and numbers

Each function here draws what it needs in a fixed order, which makes the
number of draws of an operation part of its meaning.
-/

variable [Suite]

/-- A fresh key pair, from one draw. -/
def KeyPair.generate : Drawing KeyPair := do
  return .ofPrivate ⟨← Trace.draw⟩

/-- A fresh identity: the signing seed is drawn before the agreement secret. -/
def IdentityKeyPair.generate : Drawing IdentityKeyPair := do
  let signingSeed ← Trace.draw
  let agreementSecret ← Trace.draw
  return ⟨signingSeed, ⟨agreementSecret⟩⟩

namespace PreKey

/-- A fresh pre-key with an id. -/
def generate (id : UInt32) : Drawing PreKey := do
  return ⟨id, ← KeyPair.generate⟩

/-- `count` fresh pre-keys, from the one at `place` of a batch on. -/
def generateFrom (start : UInt32) : (count : Nat) -> (place : UInt32) -> Drawing (List PreKey)
  | 0, _ => return []
  | count + 1, place => do
    let key ← generate (idAt start place)
    let rest ← generateFrom start count (place + 1)
    return key :: rest

/-- A batch of fresh pre-keys. -/
def generateBatch (start count : UInt32) : Drawing (List PreKey) :=
  generateFrom start count.toNat 0

/-- The pre-key of last resort. -/
def generateLastResort : Drawing PreKey :=
  generate lastResortId

end PreKey

/-- A fresh signed pre-key with an id and a time. -/
def SignedPreKey.generate (id : UInt32) (timestamp : UInt64) (identity : IdentityKeyPair) :
    Drawing SignedPreKey := do
  let pair ← KeyPair.generate
  return ⟨id, timestamp, pair, identity.sign pair.publicKey.toBytes⟩

omit [Suite] in
/-- A random registration id: 14 bits, or 31 bits in the extended range. -/
def generateRegistrationId (extended : Bool) : Drawing UInt32 :=
  Trace.drawNumber 1 (if extended then 2147483646 else 16380)

omit [Suite] in
/-- A random sequence number for a key exchange. -/
def generateSequence : Drawing UInt32 :=
  Trace.drawNumber 1 65534

end DoubleRatchet
