import Mathlib.Data.List.Permutation
import DoubleRatchet.Proofs.Engine.Crossing

namespace DoubleRatchet
namespace Crossing

/-!
# An answer that overtakes the opening of its sender

Of the six orders in which the legs of a crossing can arrive, all but two are in order.  In
these two, the answer of one side comes to the other one ahead of its opening.  The receiver
completes its own exchange then and waits for nothing any longer, so that it answers the late
opening from fresh pairs, and puts what it negotiates from them in front.  Its answer is
refused as stale, since the side that it goes to has negotiated long ago.
-/

/-- The order in which an answer to a side overtakes the opening of its sender. -/
def overtaking (late : Side) : List Leg :=
  [.opening late, .answer late.across, .opening late.across, .answer late]

theorem arrives_overtaking (late : Side) : Arrives (overtaking late) where
  once := by
    cases late <;> decide
  caused := by
    intro side
    cases late <;> cases side <;> decide

/-- Legs arrive in order, or an answer to one side overtakes the opening of its sender. -/
theorem Arrives.inOrder_or_overtaking {order : List Leg} (arrives : Arrives order) :
    InOrder order ∨ ∃ late, order = overtaking late := by
  have known : ∀ order ∈ Leg.all.permutations',
      order.idxOf (.opening .far) < order.idxOf (.answer .near) →
      order.idxOf (.opening .near) < order.idxOf (.answer .far) →
      (order.idxOf (.opening .near) < order.idxOf (.answer .near) ∧
        order.idxOf (.opening .far) < order.idxOf (.answer .far)) ∨
      order = overtaking .near ∨ order = overtaking .far := by
    decide
  rcases known order (List.mem_permutations'.mpr arrives.once) (arrives.caused .near)
    (arrives.caused .far) with ⟨near, far⟩ | same | same
  · refine .inl fun side => ?_
    cases side with
    | near => exact near
    | far => exact far
  · exact .inr ⟨.near, same⟩
  · exact .inr ⟨.far, same⟩

section Course

variable [Suite] {crossing : Crossing} {record : Side -> SessionRecord}

/-- The first draw that a side has left once an answer has completed its exchange. -/
def spare (crossing : Crossing) (sequence : Side -> UInt32) (side : Side) : Nat :=
  crossing.place side + 2 + Establishment.exchangeDraws (crossing.pendingOf sequence side).baseKey
    (crossing.openingOf sequence side.across)

/-- The state that a side negotiates from an opening for which it has only fresh pairs left. -/
def strayState (crossing : Crossing) (sequence : Side -> UInt32) (side : Side) : SessionState :=
  crossing.negotiated side (crossing.openingOf sequence side.across)
    (.drawnAt (crossing.host side).trace.entropy (crossing.spare sequence side))
    (.drawnAt (crossing.host side).trace.entropy (crossing.spare sequence side + 1))
    (.drawnAt (crossing.host side).trace.entropy (crossing.spare sequence side + 2))

/-- The record of a side that has negotiated from what was pending on both. -/
def agreedRecord (crossing : Crossing) (sequence : Side -> UInt32) (side : Side)
    (record : SessionRecord) : SessionRecord :=
  ((crossing.opened sequence side record).settled.promote (crossing.agreedState sequence side
    (.drawnAt (crossing.host side).trace.entropy (crossing.place side + 2)))
      (crossing.limits side).archivedStates).settled

/-- The record of a side that has negotiated once more. -/
def strayRecord (crossing : Crossing) (sequence : Side -> UInt32) (side : Side)
    (record : SessionRecord) : SessionRecord :=
  ((crossing.agreedRecord sequence side record).promote (crossing.strayState sequence side)
    (crossing.limits side).archivedStates).settled

/-- A side completes its exchange with what it would have answered the opening from. -/
theorem negotiated_answerOf (crossing : Crossing) (sequence : Side -> UInt32) (side : Side)
    (fresh : KeyPair) :
    crossing.negotiated side (crossing.answerOf sequence side.across)
      (crossing.pendingOf sequence side).baseKey (crossing.pendingOf sequence side).ratchetKey
      fresh = crossing.agreedState sequence side fresh :=
  rfl

/-- The answer to the late side has come, and the opening of its sender has not.  Both have
negotiated from what was pending by now. -/
structure Midway (crossing : Crossing) (sequence : Side -> UInt32) (late : Side)
    (record : Side -> SessionRecord) (progress : Progress) : Prop where
  opening_eq : ∀ side, progress.opening side = some (crossing.openingOf sequence side)
  answer_eq : progress.answer late.across = some (crossing.answerOf sequence late.across)
  shows : ∀ side, crossing.Shows side (progress.host side)
    (crossing.agreedRecord sequence side (record side))
  entropy_eq : (progress.host late).trace.entropy = (crossing.host late).trace.entropy
  drawn_eq : (progress.host late).trace.drawn = crossing.spare sequence late

theorem Ready.midway (signing : Suite.SigningFaithful ‹Suite›) (ready : crossing.Ready)
    (load : ∀ side, (crossing.host side).store.loadSession (crossing.address side) =
      .ok (record side)) (late : Side) :
    ∃ sequence : Side -> UInt32,
      (∀ side, crossing.begun.opening side = some (crossing.openingOf sequence side)) ∧
      crossing.Midway sequence late record
        (crossing.after [.opening late, .answer late.across]) := by
  obtain ⟨sequence, start⟩ := ready.begun load
  choose opened entropy_eq drawn_eq shows using start
  have pair : ∀ side, (crossing.begun.host side).trace.nextPair =
      .drawnAt (crossing.host side).trace.entropy (crossing.place side + 2) := by
    intro side
    rw [← entropy_eq, ← drawn_eq]
    rfl
  -- The opening of the late side is answered from what is pending.
  obtain ⟨agreed, answers, agrees⟩ := (shows late.across).answers_pending
    (crossing.genuine_openingOf signing sequence late)
    (crossing.isInitiate_openingOf sequence late) rfl
  have first : Reaches late late.across agreed _ crossing.begun
      (crossing.deliver crossing.begun (.opening late)) :=
    reaches_deliver (.opening late) rfl (opened late) answers
  -- The answer completes the exchange of the late side.
  have genuine := crossing.genuine_answerOf signing sequence late.across
  rw [late.across_across] at genuine
  obtain ⟨answering, response, _⟩ := crossing.flags_answerOf sequence late.across
  obtain ⟨settled, completes, continues, settles⟩ :=
    (shows late).completes genuine answering response rfl
      (congrArg sequence late.across_across.symm)
  rw [← first.host_kept] at completes
  have carried : (crossing.deliver crossing.begun (.opening late)).answer late.across =
      some (crossing.answerOf sequence late.across) := by
    rw [first.answer_eq]
    unfold answerOf
    rw [late.across_across]
    rfl
  have second : Reaches late.across late settled _ _
      (crossing.after [.opening late, .answer late.across]) :=
    reaches_deliver (.answer late.across) late.across_across carried completes
  refine ⟨sequence, opened, ?_, ?_, ?_, ?_, ?_⟩
  · intro side
    rw [second.opening_eq, first.opening_eq]
    exact opened side
  · rw [second.answer_kept]
    exact carried
  · intro side
    rcases side.eq_or_across late with rfl | rfl
    · rw [second.host_eq]
      rw [negotiated_answerOf, pair] at settles
      exact settles
    · rw [second.host_kept, first.host_eq]
      rw [pair] at agrees
      unfold agreedRecord agreedState
      rw [late.across_across]
      exact agrees
  · rw [second.host_eq, continues.entropy_eq]
    exact entropy_eq late
  · rw [second.host_eq, continues.drawn_eq, drawn_eq]
    rfl

/-- Where an answer to a side overtakes the opening of its sender, the sender ends with what
both had pending in front, and the side with a negotiation of its own. -/
theorem Ready.overtaken (signing : Suite.SigningFaithful ‹Suite›) (ready : crossing.Ready)
    (load : ∀ side, (crossing.host side).store.loadSession (crossing.address side) =
      .ok (record side)) (late : Side) :
    ∃ sequence : Side -> UInt32,
      (∀ side, crossing.begun.opening side = some (crossing.openingOf sequence side)) ∧
      (∀ side, ((crossing.after (overtaking late)).answer side).isSome = true) ∧
      crossing.Shows late.across ((crossing.after (overtaking late)).host late.across)
        (crossing.agreedRecord sequence late.across (record late.across)) ∧
      crossing.Shows late ((crossing.after (overtaking late)).host late)
        (crossing.strayRecord sequence late (record late)) := by
  obtain ⟨sequence, opened, midway⟩ := ready.midway signing load late
  have course : crossing.after (overtaking late) =
      crossing.deliver (crossing.deliver (crossing.after [.opening late, .answer late.across])
        (.opening late.across)) (.answer late) := rfl
  rw [course]
  generalize crossing.after [.opening late, .answer late.across] = middle at midway
  -- The late side has nothing pending, and answers the opening from fresh pairs.
  have genuine := crossing.genuine_openingOf signing sequence late.across
  rw [late.across_across] at genuine
  obtain ⟨stray, answers, strays⟩ := (midway.shows late).answers_fresh genuine
    (crossing.isInitiate_openingOf sequence late.across) (Establishment.idle_exchangeState ..).1
  have third : Reaches late.across late stray _ middle
      (crossing.deliver middle (.opening late.across)) :=
    reaches_deliver (.opening late.across) late.across_across (midway.opening_eq _) answers
  -- The answer is stale, and changes nothing.
  have flags : KeyExchangeMessage.responseFlag &&& KeyExchangeMessage.initiateFlag = 0 ∧
      KeyExchangeMessage.responseFlag &&& KeyExchangeMessage.responseFlag ≠ 0 := by
    decide
  obtain ⟨settled, gives, kept⟩ := (midway.shows late.across).passes_over
    (genuine_exchangeMessage signing crossing late ..) (decide_eq_false (not_not_intro flags.1))
    (decide_eq_true flags.2) (Establishment.idle_exchangeState ..).1
  rw [← third.host_kept] at gives
  have fourth : Reaches late late.across settled _ _
      (crossing.deliver (crossing.deliver middle (.opening late.across)) (.answer late)) :=
    reaches_deliver (.answer late) rfl third.answer_eq gives
  refine ⟨sequence, opened, ?_, ?_, ?_⟩
  · intro side
    rcases side.eq_or_across late with rfl | rfl
    · rw [fourth.answer_kept, third.answer_eq]
      rfl
    · rw [fourth.answer_eq, third.answer_kept, midway.answer_eq]
      exact Option.isSome_or.trans (Bool.or_true _)
  · rw [fourth.host_eq]
    exact kept
  · rw [fourth.host_kept, third.host_eq]
    unfold strayRecord strayState
    rw [← midway.entropy_eq, ← midway.drawn_eq]
    exact strays

end Course
end Crossing
end DoubleRatchet
