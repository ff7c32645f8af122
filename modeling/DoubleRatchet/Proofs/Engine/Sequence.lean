import DoubleRatchet.Trace

namespace DoubleRatchet

/-!
# Sequences of operations

The engine is a stack of two effects, and no proof should have to look inside
that stack.  A sequence of two operations can be taken apart in either direction:
it gives a value exactly when both parts do, and it fails exactly when one of
them does.  The second fact is the one that makes an analysis of failures
possible at all, since it also says in which world the failure leaves the caller.

Operations on a trace and operations on a host are sequenced alike, so the facts
are stated for any world.
-/

variable {World α β : Type} {world later : World}
  {operation : ExceptT Fault (StateM World) α} {next : α -> ExceptT Fault (StateM World) β}

/-- A sequence runs its second part on what the first one gave. -/
theorem sequence_eq (operation : ExceptT Fault (StateM World) α)
    (next : α -> ExceptT Fault (StateM World) β) (world : World) :
    (operation >>= next) world =
      match operation world with
      | (.ok value, later) => next value later
      | (.error fault, later) => (.error fault, later) := by
  change (match operation world with
    | (result, later) => ExceptT.bindCont next result later) = _
  rcases operation world with ⟨_ | _, _⟩
  · rfl
  · rfl

/-- A sequence gives a value exactly when both of its parts do. -/
theorem sequence_eq_ok {result : β} :
    (operation >>= next) world = (.ok result, later) ↔
      ∃ value middle, operation world = (.ok value, middle) ∧
        next value middle = (.ok result, later) := by
  rw [sequence_eq]
  rcases operation world with ⟨_ | value, middle⟩
  · constructor
    · intro impossible
      cases impossible
    · rintro ⟨_, _, impossible, _⟩
      cases impossible
  · constructor
    · intro gives
      exact ⟨value, middle, rfl, gives⟩
    · rintro ⟨_, _, first, second⟩
      cases first
      exact second

/-- A sequence fails exactly when one of its parts does. -/
theorem sequence_eq_error {fault : Fault} :
    (operation >>= next) world = (.error fault, later) ↔
      operation world = (.error fault, later) ∨
        ∃ value middle, operation world = (.ok value, middle) ∧
          next value middle = (.error fault, later) := by
  rw [sequence_eq]
  rcases operation world with ⟨first | value, middle⟩
  · constructor
    · intro fails
      cases fails
      exact .inl rfl
    · rintro (fails | ⟨_, _, impossible, _⟩)
      · cases fails
        rfl
      · cases impossible
  · constructor
    · intro fails
      exact .inr ⟨value, middle, rfl, fails⟩
    · rintro (first | ⟨_, _, first, second⟩)
      · cases first
      · cases first
        exact second

/-- A sequence whose first part is known to give a value. -/
theorem sequence_of_ok {value : α} (gives : operation world = (.ok value, later))
    (next : α -> ExceptT Fault (StateM World) β) :
    (operation >>= next) world = next value later := by
  rw [sequence_eq, gives]

/-- A sequence whose first part is known to fail. -/
theorem sequence_of_error {fault : Fault} (fails : operation world = (.error fault, later))
    (next : α -> ExceptT Fault (StateM World) β) :
    (operation >>= next) world = (.error fault, later) := by
  rw [sequence_eq, fails]

/-- An outcome that holds a value is one of success. -/
theorem exists_eq_ok {World α : Type} {outcome : Except Fault α × World}
    (holds : outcome.1.toOption.isSome = true) :
    ∃ value later, outcome = (.ok value, later) := by
  rcases outcome with ⟨_ | value, later⟩
  · cases holds
  · exact ⟨value, later, rfl⟩

theorem exists_eq_error {World α : Type} {outcome : Except Fault α × World} {fault : Fault}
    (fails : (fun _ => ()) <$> outcome.1 = .error fault) :
    ∃ later, outcome = (.error fault, later) := by
  rcases outcome with ⟨other | _, later⟩
  · cases fails
    exact ⟨later, rfl⟩
  · cases fails

end DoubleRatchet
