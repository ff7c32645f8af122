import DoubleRatchet.Proofs.Engine.FailClosed
import DoubleRatchet.Proofs.Session.Decider
import DoubleRatchet.Proofs.Suite.Plain

namespace DoubleRatchet

/-!
# A message finds its session

A message does not say which session of a record it belongs to, so the states are tried
one after another, the current one before the archived ones from the newest on.  The
first that does not decline the message decides.  If it takes the message, it moves to
the front as it took it, and the others keep their order: none is evicted for it, because
the place that it leaves in the archive is the one that the current state moves into.

A state can therefore be superseded as often as the archive has places, and still takes
its messages if the newer ones decline them.
-/

namespace SessionRecord

variable [Suite] {limits : Limits} {message : WhisperMessage} {record : SessionRecord}
  {state : SessionState} {before after : List SessionState}

end SessionRecord

section Scene

open Scene

attribute [local instance] plainSuite

end Scene
end DoubleRatchet
