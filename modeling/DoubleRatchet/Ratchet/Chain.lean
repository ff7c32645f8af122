import DoubleRatchet.Suite

namespace DoubleRatchet

/-!
# The symmetric ratchet

A chain key yields the keys of one message and its own successor, each through
a keyed digest that cannot be undone.  The index counts how often the chain
has moved.  Moving on and deriving keys are independent: deriving leaves the
chain where it is.
-/

/-- The octets of a text in ASCII. -/
def Bytes.ofAscii (text : String) : Bytes :=
  text.toList.map fun c => UInt8.ofNat c.toNat

/-- The keys of one message. -/
structure MessageKeys where
  cipherKey : Octets 32
  macKey : Octets 32
  iv : Octets 16
  counter : UInt32
  deriving DecidableEq, Inhabited

/-- The state of a chain. -/
structure ChainKey where
  key : Octets 32
  index : UInt32
  deriving DecidableEq, Inhabited

namespace MessageKeys

/-- The keys as they are shown in diagnostics, without secrets. -/
def description (keys : MessageKeys) : String :=
  "MessageKeys \x7b counter: " ++ toString keys.counter ++ ", .. \x7d"

/-- The nonce: the first twelve octets of the initialisation vector. -/
def nonce (keys : MessageKeys) : Octets 12 :=
  keys.iv.first 12

variable [Suite]

/-- A text sealed under these keys, unless it is too long. -/
def seal? (keys : MessageKeys) (text : Bytes) : Option Bytes :=
  Suite.seal? keys.cipherKey keys.nonce text

/-- The text that was sealed under these keys, unless the string is not genuine. -/
def unseal? (keys : MessageKeys) (sealedText : Bytes) : Option Bytes :=
  Suite.unseal? keys.cipherKey keys.nonce sealedText

end MessageKeys

namespace ChainKey

/-- The chain as it is shown in diagnostics, without its key. -/
def description (chain : ChainKey) : String :=
  "ChainKey \x7b index: " ++ toString chain.index ++ ", .. \x7d"

variable [Suite]

/-- The keys of the message at the index of the chain. -/
def messageKeys (chain : ChainKey) : MessageKeys :=
  let material :=
    Suite.derive 80 [] (Suite.mac chain.key.toList [0x01]).toList
      (Bytes.ofAscii "WhisperMessageKeys")
  { cipherKey := material.first 32
    macKey := material.slice 32 32
    iv := material.slice 64 16
    counter := chain.index }

/-- The chain after one more message. -/
def next (chain : ChainKey) : ChainKey where
  key := Suite.mac chain.key.toList [0x02]
  index := chain.index + 1

/-- The chain after `count` more messages. -/
def advance (chain : ChainKey) : (count : Nat) -> ChainKey
  | 0 => chain
  | count + 1 => chain.next.advance count

end ChainKey
end DoubleRatchet
