import DoubleRatchet.Fault
import DoubleRatchet.Session.State

namespace DoubleRatchet
namespace Message

/-!
# What all messages have in common

A message starts with one octet for two versions: the high half is the version
of the message, the low half the newest version that its sender speaks.  Only
the high half is looked at.  Keys and identities inside a message are read as
anywhere else, but what is wrong with them is a fault of the message.
-/

/-- The octet of a message version.  The version is cut to four bits. -/
def versionOctet (version : UInt8) : UInt8 :=
  version <<< 4 ||| currentVersion

/-- Splits the version off, if it is one that is spoken. -/
def splitVersion : Bytes -> Except Fault (UInt8 × Bytes)
  | [] => .error (.invalid .empty)
  | octet :: body =>
    let version := octet >>> 4
    if version < oldestVersion then .error (.legacyVersion version)
    else if currentVersion < version then .error (.unknownVersion version)
    else .ok (version, body)

/-- Reads a public key of a message. -/
def readKey (bytes : Bytes) : Except Fault PublicKey :=
  (PublicKey.ofBytes bytes).mapError fun fault => .invalid (.badKey fault)

/-- Reads an identity of a message. -/
def readIdentity (bytes : Bytes) : Except Fault IdentityKey :=
  (IdentityKey.ofBytes bytes).mapError fun fault => .invalid (.badIdentity fault)

/-- The value of a reader that gives no reasons. -/
def orMalformed {α : Type} : Option α -> Except Fault α
  | some value => .ok value
  | none => .error (.invalid .malformed)

end Message
end DoubleRatchet
