import DoubleRatchet.Proofs.Engine.Blame
import DoubleRatchet.Proofs.Message.Fitting
import DoubleRatchet.Proofs.Turning

namespace DoubleRatchet

/-!
# Records stay sound, and nothing is laid on them

A store that starts without sessions only ever gives out sound records, whatever the engine is
asked and in whatever order.  Every state with a session has all of its parts, every state
without one is bare, and archives, chains and caches are within the limits.  The engine may
therefore ask a state for a part without a thought for what should happen if it is missing: no
request fails for that, and `Fault.invalidState` comes back only for a text that the cipher
cannot seal, or from the callback of the host.

Two things have to be said about what comes from outside.  The limits leave room for one receiver
chain, since a negotiation opens one whatever they are.  And a key exchange is one that was read
or that some engine has made, since its version becomes the version of the session: all other
messages may be anything.
-/

section Records

variable [Suite]

namespace KeyExchangeMessage

/-- The message was read from its octets, or made by the engine of some host. -/
inductive Genuine : KeyExchangeMessage -> Prop where
  | read {bytes : Bytes} {message : KeyExchangeMessage} (reads : ofBytes bytes = .ok message) :
      Genuine message
  | initiated {host after : Host} {address : Address} {message : KeyExchangeMessage}
      (permissive : host.Permissive)
      (gives : host.perform (Establishment.initiate address) = (.ok message, after)) :
      Genuine message
  | answered {host after : Host} {address : Address} {limits : Limits}
      {message answer : KeyExchangeMessage} (permissive : host.Permissive)
      (genuine : Genuine message)
      (gives : host.perform (Establishment.processExchange address limits message) =
        (.ok (some answer), after)) :
      Genuine answer

/-- A genuine message is of a version that is spoken. -/
theorem Genuine.spoken {message : KeyExchangeMessage} (genuine : message.Genuine) :
    Message.Spoken message.version := by
  induction genuine with
  | read reads => exact (fits_of_ofBytes reads).spoken
  | initiated permissive gives =>
    obtain ⟨_, _, _, _, rfl, _⟩ := Establishment.initiate_eq_ok permissive gives
    exact .inr rfl
  | answered permissive _ gives ih =>
    obtain ⟨_, _, _, exchanged, _⟩ := Establishment.processExchange_eq_ok permissive gives
    cases exchanged
    exact ih

end KeyExchangeMessage

namespace Operation

variable {limits : Limits} {operation : Operation}

/-- The key exchange that the operation takes, if it takes one, is genuine. -/
def Genuine : Operation -> Prop
  | processExchange _ _ message => message.Genuine
  | _ => True

theorem Genuine.spoken (genuine : operation.Genuine) {version : UInt8}
    (speaks : operation.Speaks version) : Message.Spoken version := by
  cases operation with
  | processExchange address chosen message =>
    cases speaks
    exact KeyExchangeMessage.Genuine.spoken genuine
  | processBundle => exact speaks
  | initiate => exact speaks
  | encrypt => exact speaks
  | decrypt => exact speaks
  | endSession => exact speaks

/-- The operation takes no message on the last counter. -/
def BelowLast : Operation -> Prop
  | decrypt _ _ _ message => message.BelowLast
  | _ => True

end Operation

/-- Every chain keeps only keys of counters below its index. -/
def SessionRecord.InOrder (record : SessionRecord) : Prop :=
  ∀ state ∈ record.states, ∀ chain ∈ state.receivers, chain.InOrder

theorem SessionRecord.Guarded.inOrder {limits : Limits} {record : SessionRecord}
    (guarded : record.Guarded limits) : record.InOrder :=
  fun state member => (guarded.produced state member).orderly.inOrder

namespace Host

variable {host : Host} {limits : Limits} {deeds : List Deed}

end Host

end Records

namespace Scene

attribute [local instance] plainSuite

end Scene
end DoubleRatchet
