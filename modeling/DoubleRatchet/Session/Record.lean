import DoubleRatchet.Session.State

namespace DoubleRatchet

/-!
# Session records

The record of a device holds the current state and the archive of the states
before it, newest first.  A new handshake does not end the old session at
once: messages of the old one may still be under way, and the archive lets
them be read.

A state enters the archive only if it was established, so the archive never
fills with states that nothing can be read with.
-/

/-- All sessions with one device. -/
structure SessionRecord where
  current : SessionState
  /-- The archived states, newest first. -/
  previous : List SessionState
  /-- Whether the record was never stored. -/
  fresh : Bool
  deriving DecidableEq

namespace SessionRecord

/-- The record of a device without sessions. -/
def new : SessionRecord :=
  ⟨.empty, [], true⟩

instance : Inhabited SessionRecord := ⟨new⟩

/-- The record of one state. -/
def ofState (state : SessionState) : SessionRecord :=
  ⟨state, [], false⟩

/-- The states, the current one first, then the archive from the newest on. -/
def states (record : SessionRecord) : List SessionState :=
  record.current :: record.previous

/-- Whether some state was negotiated from a base key under a version. -/
def hasSession (record : SessionRecord) (version : UInt8) (baseKey : PublicKey) : Bool :=
  record.states.any fun state =>
    state.version = version && state.initiatorBaseKey = some baseKey

/-- Makes a state current and archives the one before it, if that was established.
The archive keeps the newest states within the bound. -/
def promote (record : SessionRecord) (state : SessionState) (bound : Nat) : SessionRecord :=
  { record with
    current := state
    previous :=
      if record.current.established then (record.current :: record.previous).take bound
      else record.previous }

/-- What is reported when a state is promoted: one event for each state that
leaves the archive. -/
def evictedByPromoting (record : SessionRecord) (bound : Nat) : List Event :=
  if record.current.established then
    List.replicate (record.previous.length + 1 - bound) .archivedStateEvicted
  else []

/-- Archives the current state and starts from an empty one. -/
def archiveCurrent (record : SessionRecord) (bound : Nat) : SessionRecord :=
  record.promote .empty bound

/-- The record without the archived state at a place. -/
def removePrevious (record : SessionRecord) (place : Nat) : SessionRecord :=
  { record with previous := record.previous.eraseIdx place }

end SessionRecord
end DoubleRatchet
