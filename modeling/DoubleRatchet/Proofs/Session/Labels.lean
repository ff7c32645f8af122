import Mathlib.Data.List.Forall2
import DoubleRatchet.Proofs.Session.Decider

namespace DoubleRatchet
namespace SessionRecord

/-!
# Labels of states

What a state has gone through is not written down in the state.  It is kept in labels here,
one for each state of a record and in the order of the states.  The library knows no labels,
so they are moved where it moves states: a state that is promoted comes with a label, the
archive keeps as many labels as states, and a state that is brought forward takes its label
along.  A relation between labels and states that holds of all of them then goes on to hold.
-/

variable {α : Type}

/-- The labels after a state with a label of its own was promoted. -/
def promoteLabel (record : SessionRecord) (bound : Nat) (label : α) (labels : List α) : List α :=
  label :: if record.current.established then labels.take bound else labels.tail

/-- The labels after the state at a place was brought forward, with a change to its label. -/
def bringLabelForward (record : SessionRecord) (bound : Nat) (change : α -> α) (place : Nat)
    (labels : List α) : List α :=
  match place, labels[place]? with
  | _, none => labels
  | 0, some label => change label :: labels.tail
  | place + 1, some label =>
    record.promoteLabel bound (change label) (labels.eraseIdx (place + 1))

variable {holds : α -> SessionState -> Prop} {record : SessionRecord} {labels : List α}
  {state taken : SessionState} {place : Nat}

theorem states_promote (record : SessionRecord) (state : SessionState) (bound : Nat) :
    (record.promote state bound).states = record.promoteLabel bound state record.states := by
  unfold promote promoteLabel states
  split
  · rfl
  · rfl

theorem forall₂_eraseIdx {labels : List α} {states : List SessionState}
    (all : List.Forall₂ holds labels states) (place : Nat) :
    List.Forall₂ holds (labels.eraseIdx place) (states.eraseIdx place) := by
  rw [List.eraseIdx_eq_take_drop_succ, List.eraseIdx_eq_take_drop_succ]
  exact List.rel_append (List.forall₂_take place all) (List.forall₂_drop (place + 1) all)

theorem forall₂_promoteLabel {states : List SessionState} {label : α}
    (all : List.Forall₂ holds labels states) (new : holds label state) (bound : Nat) :
    List.Forall₂ holds (record.promoteLabel bound label labels)
      (record.promoteLabel bound state states) := by
  unfold promoteLabel
  apply List.Forall₂.cons new
  split
  · exact List.forall₂_take bound all
  · rw [← List.drop_one, ← List.drop_one]
    exact List.forall₂_drop 1 all

/-- A promoted state comes with its label. -/
theorem forall₂_promote {label : α} (all : List.Forall₂ holds labels record.states)
    (new : holds label state) (bound : Nat) :
    List.Forall₂ holds (record.promoteLabel bound label labels)
      (record.promote state bound).states := by
  rw [states_promote]
  exact forall₂_promoteLabel all new bound

/-- The current state changes, and its label with it. -/
theorem forall₂_change {change : α -> α} (all : List.Forall₂ holds labels record.states)
    (changed : ∀ label, holds label record.current → holds (change label) state) :
    List.Forall₂ holds (labels.modifyHead change)
      ({ record with current := state } : SessionRecord).states := by
  cases all with
  | cons front archive => exact .cons (changed _ front) archive

/-- The current state changes under its label. -/
theorem forall₂_replace (all : List.Forall₂ holds labels record.states)
    (kept : ∀ label, holds label record.current → holds label state) :
    List.Forall₂ holds labels ({ record with current := state } : SessionRecord).states := by
  cases all with
  | cons front archive => exact .cons (kept _ front) archive

/-- A state that is brought forward takes its label along. -/
theorem forall₂_bringForward {change : α -> α} (all : List.Forall₂ holds labels record.states)
    (found : record.states[place]? = some state)
    (changed : ∀ label, holds label state → holds (change label) taken) (bound : Nat) :
    List.Forall₂ holds (record.bringLabelForward bound change place labels)
      (record.bringForward bound taken place).states := by
  obtain ⟨inside, rfl⟩ := List.getElem?_eq_some_iff.mp found
  have within : place < labels.length := all.length_eq ▸ inside
  have labelled : labels[place]? = some labels[place] := List.getElem?_eq_getElem within
  have here := changed _ (all.get within inside)
  cases place with
  | zero =>
    cases all with
    | cons front archive => exact .cons here archive
  | succ place =>
    unfold bringLabelForward
    rw [labelled]
    change List.Forall₂ holds (record.promoteLabel bound _ _)
      ((record.removePrevious place).promote taken bound).states
    rw [states_promote]
    exact forall₂_promoteLabel (forall₂_eraseIdx all (place + 1)) here bound

end SessionRecord
end DoubleRatchet
