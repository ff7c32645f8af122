import DoubleRatchet.Key.Pair
import DoubleRatchet.Ratchet.Chain

namespace DoubleRatchet

/-!
# The agreement ratchet

The root key takes in a fresh agreement and yields the next root key and a new
chain.  Both parties make the same step from opposite ends: the one with its
new secret and the other's public key, the other the reverse.
-/

/-- The state from which new chains are made. -/
structure RootKey where
  key : Octets 32
  deriving DecidableEq, Inhabited

namespace RootKey

/-- A root key as it is shown in diagnostics, which is without anything of it. -/
def description (_ : RootKey) : String :=
  "RootKey(..)"

/-- Key material for a root and a chain, cut in two. -/
def split (material : Octets 64) : RootKey × ChainKey :=
  let halves := Octets.halves (n := 32) material
  (⟨halves.1⟩, ⟨halves.2, 0⟩)

variable [Suite]

/-- One step: the agreement of our pair with their key, under the root key. -/
def createChain (root : RootKey) (theirs : PublicKey) (ours : KeyPair) : RootKey × ChainKey :=
  split (Suite.derive 64 root.key.toList (ours.agree theirs).toList
    (Bytes.ofAscii "WhisperRatchet"))

/-- The root and the first chain of a session, from the agreements of a handshake. -/
def initial (secrets : Bytes) : RootKey × ChainKey :=
  split (Suite.derive 64 [] secrets (Bytes.ofAscii "WhisperText"))

end RootKey
end DoubleRatchet
