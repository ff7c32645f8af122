import DoubleRatchet.Octets.Hex

namespace DoubleRatchet

/-!
# What can be wrong with a key

Reading a key and checking the signature over one fail for different reasons,
and all of them reach a caller as one kind of fault.  The reasons are listed
here without their wording, except that `message` gives it.
-/

/-- A reason to refuse key material. -/
inductive KeyFault where
  /-- No octets where a public key is expected. -/
  | empty
  /-- A public key of the known type with a wrong total number of octets. -/
  | wrongLength (octets : Nat)
  /-- A public key whose first octet is no known type. -/
  | unknownType (type : UInt8)
  /-- An identity of a wrong total number of octets. -/
  | identityLength (octets : Nat)
  /-- An identity pair of a wrong total number of octets. -/
  | identityPairLength (octets : Nat)
  /-- An identity whose verifying half is no point of the curve. -/
  | notAPoint
  /-- A bundle whose signed pre-key carries no valid signature. -/
  | unsignedBundle
  /-- A bundle without any pre-key. -/
  | emptyBundle
  /-- A key exchange whose base key carries no valid signature. -/
  | unsignedExchange
  deriving DecidableEq

namespace KeyFault

/-- The wording of a reason. -/
def message : KeyFault -> String
  | empty => "empty public key"
  | wrongLength octets => s!"bad public key length {octets}"
  | unknownType type => "unknown key type 0x" ++ Hex.text [type]
  | identityLength octets => s!"bad identity key length {octets}"
  | identityPairLength octets => s!"bad identity key pair length {octets}"
  | notAPoint =>
    "identity verifying key: signature error: Cannot decompress Edwards point"
  | unsignedBundle => "signature on signed pre-key does not verify"
  | emptyBundle => "bundle has neither a signed nor a one-time pre-key"
  | unsignedExchange => "key exchange base key signature does not verify"

end KeyFault
end DoubleRatchet
