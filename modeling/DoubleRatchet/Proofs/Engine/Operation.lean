import DoubleRatchet.Proofs.Engine.Perform

namespace DoubleRatchet

/-!
# The operations of the engine as data

A statement about runs needs one type for everything that a host may ask of the
engine.  An `Operation` is such a request with all its arguments, and a `Reply`
is what the request gives where it succeeds.  The callback of a decryption is an
argument like any other: it is any function from a plaintext to a refusal or an
acceptance, and plain decryption is the one whose callback accepts everything.
-/

/-- The sealed message that an envelope holds, bare or inside a first message. -/
def Envelope.sealed? : Envelope -> Option WhisperMessage
  | whisper message => some message
  | preKeyWhisper message => some message.message
  | keyExchange _ => none

/-- A request to the engine. -/
inductive Operation where
  /-- Opens a session from a published bundle. -/
  | processBundle (address : Address) (limits : Limits) (bundle : Bundle)
  /-- Opens a key exchange. -/
  | initiate (address : Address)
  /-- Takes a leg of a key exchange. -/
  | processExchange (address : Address) (limits : Limits) (message : KeyExchangeMessage)
  /-- Seals a text. -/
  | encrypt (address : Address) (text : Bytes)
  /-- Opens a message, and offers the plaintext to a callback first. -/
  | decrypt (address : Address) (limits : Limits) (callback : Bytes -> Except Fault Unit)
    (message : Envelope)
  /-- Forgets every session with a name. -/
  | endSession (address : Address)

/-- What a request gives. -/
inductive Reply where
  /-- Nothing but the change of the store. -/
  | done
  /-- The opening leg of a key exchange. -/
  | opening (message : KeyExchangeMessage)
  /-- The answer to a leg of a key exchange, if it asks for one. -/
  | answer (message : Option KeyExchangeMessage)
  /-- A sealed message. -/
  | emitted (envelope : Envelope)
  /-- The text of a sealed message. -/
  | plaintext (text : Bytes)

namespace Operation

variable [Suite]

/-- Serves a request. -/
def run : Operation -> Engine Reply
  | processBundle address limits bundle => do
    Establishment.processBundle address limits bundle
    return .done
  | initiate address => return .opening (← Establishment.initiate address)
  | processExchange address limits message =>
    return .answer (← Establishment.processExchange address limits message)
  | encrypt address text => return .emitted (← Transport.encrypt address text)
  | decrypt address limits callback message =>
    return .plaintext (← Transport.decryptWith address limits callback message)
  | endSession address => do
    Transport.endSession address
    return .done

end Operation
end DoubleRatchet
