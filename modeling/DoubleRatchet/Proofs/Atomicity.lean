import DoubleRatchet.Proofs.Suite.Plain

namespace DoubleRatchet

/-!
# What fails has changed nothing

An operation may fail late.  By then a handshake may have been taken, the agreement ratchet may
have moved, keys may have been served from a cache and states may have left the archive, and the
text may have been shown to the host.  All of that has happened to a copy of the record.  The
store is written behind the last question that can be answered by a failure, so nothing of it is
seen there.
-/

/-- Whatever an operation of the engine is asked, with whatever store: where it
fails, the pins, the pre-keys and the documents of all sessions are as they were. -/
theorem Operation.store_eq_of_failed [Suite] {host after : Host} {operation : Operation}
    {fault : Fault} (permissive : host.Permissive)
    (failed : host.perform operation.run = (.error fault, after)) :
    after.store = host.store :=
  (untouched_of_failed permissive failed).store_eq

namespace Scene

attribute [local instance] plainSuite

/-- Bob opens the first message of Alice, and the host may refuse its text. -/
def meets (callback : Bytes -> Except Fault Unit) (message : PreKeyWhisperMessage) : Operation :=
  .decrypt aliceAddress .standard callback (.preKeyWhisper message)

/-- The first message with another octet at the end of its tag. -/
def mistagged : PreKeyWhisperMessage :=
  let embedded := (olderMessage 1).message
  { olderMessage 1 with
    message := { embedded with toBytes := embedded.toBytes.dropLast ++ [0] } }

/-- Bob has the pre-key for the handshake, has drawn a pair for the step of the ratchet and has
opened the text when the host refuses it; or he finds behind that step that the tag is not right.
He still has the pre-key, has pinned nobody and has no session. -/
theorem late_failures_change_nothing :
    (∃ after, (olderHost 1).perform (meets (fun _ => .error .document) (olderMessage 1)).run =
        (.error .document, after) ∧
      after.offered = some [0x68, 0x69] ∧ after.trace.drawn = 1 ∧
      after.store = (olderHost 1).store) ∧
    ∃ after, (olderHost 1).perform (meets (fun _ => .ok ()) mistagged).run =
        (.error (.invalid .noValidSession), after) ∧
      after.trace.drawn = 1 ∧ after.store = (olderHost 1).store := by
  have permissive : (olderHost 1).Permissive := Host.permissive_start _ _
  constructor
  · let refused := (olderHost 1).perform (meets (fun _ => .error .document) (olderMessage 1)).run
    have late : (fun _ => ()) <$> refused.1 = .error .document ∧
        refused.2.offered = some [0x68, 0x69] ∧ refused.2.trace.drawn = 1 := by
      decide +kernel
    obtain ⟨fails, behind⟩ := late
    obtain ⟨after, failed⟩ := exists_eq_error fails
    rw [failed] at behind
    exact ⟨after, failed, behind.1, behind.2, Operation.store_eq_of_failed permissive failed⟩
  · let refused := (olderHost 1).perform (meets (fun _ => .ok ()) mistagged).run
    have late : (fun _ => ()) <$> refused.1 = .error (.invalid .noValidSession) ∧
        refused.2.trace.drawn = 1 := by
      decide +kernel
    obtain ⟨fails, behind⟩ := late
    obtain ⟨after, failed⟩ := exists_eq_error fails
    rw [failed] at behind
    exact ⟨after, failed, behind, Operation.store_eq_of_failed permissive failed⟩

end Scene
end DoubleRatchet
