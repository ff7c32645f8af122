import DoubleRatchet.Proofs.Ratchet.Selection
import DoubleRatchet.Proofs.Session.Decider
import DoubleRatchet.Proofs.Session.Hearing
import DoubleRatchet.Proofs.Suite.Plain

namespace DoubleRatchet

/-!
# Behind the last counter

The index of a chain is a word, and moving on past the last counter is not refused.  It takes
the chain back to index zero, with its cache as it is.  Nothing is below that index.  So the
chain has used up no counter, the one that it has just served included, and it is out of order
as soon as anything is left in its cache.

What is proved of chains in order is therefore proved up to the last counter, and no further.
-/

namespace SkippedKeys

variable {cache : SkippedKeys}

end SkippedKeys

namespace ReceiverChain

variable [Suite] {chain : ReceiverChain} {forwardJumps capacity : Nat} {served : Served}

end ReceiverChain

namespace SessionState

variable [Suite] {limits : Limits} {ours : KeyPair} {state taken : SessionState}
  {message : WhisperMessage} {text : Bytes}

end SessionState

namespace Scene

attribute [local instance] plainSuite

/-! ## The last message of a chain -/

/-- Limits that let a chain move on from its second message to its last one. -/
def farLimits : Limits :=
  { Limits.standard with forwardJumps := 2 ^ 32 - 2 }

/-- The chain on which Alice sends. -/
def aliceSender : SenderChain :=
  aliceState.sender.getD default

/-- What Alice seals after that many other messages. -/
def messageAfter (count : Nat) : WhisperMessage :=
  aliceState.sealedMessage { aliceSender with chainKey := aliceSender.chainKey.advance count }
    alice.identity bob.identity [0x68, 0x69]

/-- Bob has a chain for Alice's, or opens one, that has come some way along it. -/
structure Hears (ours : KeyPair) (hearing chained : SessionState) (chain : ReceiverChain)
    (reached : Nat) : Prop where
  established : hearing.established = true
  version_eq : hearing.version = currentVersion
  own : hearing.localIdentity = some bob.identity
  remote : hearing.remoteIdentity = some alice.identity
  stands : hearing.Chained farLimits ours aliceSender.ratchetKey.publicKey chained
  found : chained.receiver? aliceSender.ratchetKey.publicKey = some chain
  advanced : chain.chainKey = aliceSender.chainKey.advance reached

section Hearing

variable {ours : KeyPair} {hearing chained : SessionState} {chain : ReceiverChain}
  {reached count : Nat}

/-- He opens what is further on, and then his chain has come as far. -/
theorem Hears.opens (hears : Hears ours hearing chained chain reached) (further : reached ≤ count)
    (fits : count < 2 ^ 32) (near : count - reached ≤ farLimits.forwardJumps) :
    ∃ served, hearing.Opens farLimits ours (messageAfter count) [0x68, 0x69] chained chain served
        bob.identity alice.identity ∧
      ∀ other, Hears other (chained.taken served.chain) (chained.taken served.chain) served.chain
        (count + 1) := by
  have start : aliceSender.chainKey.index.toNat = 0 := rfl
  obtain ⟨served, serves, keys_eq, moved⟩ := ReceiverChain.serve_of_advanced hears.advanced further
    (by omega) near farLimits.messageKeys
  have opens : hearing.Opens farLimits ours (messageAfter count) [0x68, 0x69] chained chain served
      bob.identity alice.identity :=
    SessionState.opens_of_sealed plainSuite_sealingFaithful hears.established
      hears.version_eq.symm hears.own hears.remote hears.stands hears.found serves keys_eq rfl
  have takes : hearing.Takes farLimits ours (messageAfter count) [0x68, 0x69]
      (chained.taken served.chain) := ⟨_, _, _, _, _, opens, rfl⟩
  have found := opens.receiver?_taken.2
  refine ⟨served, opens, fun other => ?_⟩
  exact {
    established := takes.established
    version_eq := takes.version_eq
    own := takes.keeps_identities.2.1.trans hears.own
    remote := takes.keeps_identities.2.2.trans hears.remote
    stands := .known (congrArg Option.isSome found)
    found
    advanced := moved }

end Hearing

end Scene
end DoubleRatchet
