import DoubleRatchet.Message.KeyExchange
import DoubleRatchet.Message.PreKeyWhisper

namespace DoubleRatchet

/-!
# Messages of every kind

A transport carries the octets of a message and the number of its kind side by
side.  Reading starts from the number.
-/

/-- The kinds of messages. -/
inductive MessageKind where
  | whisper
  | preKeyWhisper
  | keyExchange
  deriving DecidableEq

namespace MessageKind

/-- The number of a kind. -/
def toNumber : MessageKind -> UInt8
  | whisper => 2
  | preKeyWhisper => 3
  | keyExchange => 4

/-- The kind of a number. -/
def ofNumber (number : UInt8) : Except Fault MessageKind :=
  if number = 2 then .ok whisper
  else if number = 3 then .ok preKeyWhisper
  else if number = 4 then .ok keyExchange
  else .error (.invalid (.unknownType number))

theorem ofNumber_toNumber (kind : MessageKind) : ofNumber kind.toNumber = .ok kind := by
  cases kind <;> rfl

end MessageKind

/-- A message of any kind. -/
inductive Envelope where
  | whisper (message : WhisperMessage)
  | preKeyWhisper (message : PreKeyWhisperMessage)
  | keyExchange (message : KeyExchangeMessage)
  deriving DecidableEq

namespace Envelope

/-- The kind of a message. -/
def kind : Envelope -> MessageKind
  | whisper _ => .whisper
  | preKeyWhisper _ => .preKeyWhisper
  | keyExchange _ => .keyExchange

/-- The octets of a message. -/
def toBytes : Envelope -> Bytes
  | whisper message => message.toBytes
  | preKeyWhisper message => message.toBytes
  | keyExchange message => message.toBytes

/-- Reads a message of a known kind. -/
def ofBytes (kind : MessageKind) (bytes : Bytes) : Except Fault Envelope :=
  match kind with
  | .whisper => (WhisperMessage.ofBytes bytes).map whisper
  | .preKeyWhisper => (PreKeyWhisperMessage.ofBytes bytes).map preKeyWhisper
  | .keyExchange => (KeyExchangeMessage.ofBytes bytes).map keyExchange

end Envelope
end DoubleRatchet
