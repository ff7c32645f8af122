import DoubleRatchet.Log.Event
import DoubleRatchet.Ratchet.Root
import DoubleRatchet.Ratchet.Skipped

namespace DoubleRatchet

/-!
# The chains of a session

A session sends on one chain and receives on several, one for each ratchet key
of the other party that it has seen.  A receiver chain serves the keys of a
counter: ahead of its index it moves on and files what it passes, below it
looks into the cache, and keys that are neither ahead nor in the cache were
served before or given up.

`ReceiverChain.serve` is the whole of that rule.  A refusal leaves the chain
as it was.
-/

/-- The chain on which a party sends, with the ratchet pair it was made from. -/
structure SenderChain where
  ratchetKey : KeyPair
  chainKey : ChainKey
  deriving DecidableEq, Inhabited

/-- A chain on which a party receives, for one ratchet key of the other. -/
structure ReceiverChain where
  ratchetKey : PublicKey
  chainKey : ChainKey
  skipped : SkippedKeys
  deriving DecidableEq, Inhabited

/-- The keys of a message, the chain that has served them, and what this made
worth reporting. -/
structure Served where
  keys : MessageKeys
  chain : ReceiverChain
  events : List Event

namespace ReceiverChain

variable [Suite]

/-- Moves the chain on by `count` messages, files their keys and lists the
counters that this pushes out of the cache. -/
def skip (capacity : Nat) : (count : Nat) -> ReceiverChain -> ReceiverChain × List UInt32
  | 0, chain => (chain, [])
  | count + 1, chain =>
    let filed := chain.skipped.file chain.chainKey.messageKeys
    let (reached, later) := skip capacity count
      { chain with chainKey := chain.chainKey.next, skipped := filed.trim capacity }
    (reached, filed.surplus capacity ++ later)

/-- The keys of the message at the index of the chain, and the chain past it. -/
def serveNext (chain : ReceiverChain) : MessageKeys × ReceiverChain :=
  (chain.chainKey.messageKeys, { chain with chainKey := chain.chainKey.next })

/-- Serves the keys of a counter, or says why not. -/
def serve (forwardJumps capacity : Nat) (counter : UInt32) (chain : ReceiverChain) :
    Except Fault Served :=
  if counter < chain.chainKey.index then
    match chain.skipped.take? counter with
    | some (keys, skipped) => .ok ⟨keys, { chain with skipped }, []⟩
    | none => .error (.duplicate chain.chainKey.index counter)
  else
    let jump := counter.toNat - chain.chainKey.index.toNat
    if forwardJumps < jump then .error (.invalid (.tooFarAhead counter jump))
    else
      let (reached, gone) := skip capacity jump chain
      let (keys, past) := reached.serveNext
      .ok ⟨keys, past,
        gone.map .skippedKeyEvicted ++ if 0 < jump then [.keysSkipped jump] else []⟩

omit [Suite] in
/-- The list with `chain` in the place of the first chain for its ratchet key. -/
def replaceIn (chain : ReceiverChain) : List ReceiverChain -> List ReceiverChain
  | [] => []
  | first :: rest =>
    if first.ratchetKey = chain.ratchetKey then chain :: rest else first :: chain.replaceIn rest

end ReceiverChain
end DoubleRatchet
