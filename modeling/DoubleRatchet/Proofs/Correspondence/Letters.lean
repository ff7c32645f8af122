import Mathlib.Data.List.Dedup
import DoubleRatchet.Proofs.Engine.Run
import DoubleRatchet.Proofs.Ratchet.Tracking

namespace DoubleRatchet

/-!
# Two parties and the letters between them

A correspondence is a run on each of two hosts, with the letters that are under way and
those that have arrived.  Writing a letter seals a text, and a letter that is delivered
is read from its octets and opened by the other party.  A letter that is delivered is no
longer under way, so none arrives twice, and nothing forces any of them to arrive.

The bounds of a session speak of what has arrived: how far a counter is ahead on its
chain, how many lower counters of the chain were passed over, and how many chains were
begun after it.  All three are read off the letters, and none off the state of a host.
-/

/-- The two parties of a session. -/
inductive Party where
  /-- The party that opens the session from a bundle. -/
  | initiator
  /-- The party whose bundle it is. -/
  | responder
  deriving DecidableEq

namespace Party

/-- The party at the other end. -/
def other : Party -> Party
  | initiator => responder
  | responder => initiator

theorem other_other (party : Party) : party.other.other = party := by
  cases party <;> rfl

theorem other_ne (party : Party) : party.other ≠ party := by
  cases party <;> decide

theorem eq_or_other (party one : Party) : party = one ∨ party = one.other := by
  cases party <;> cases one <;> decide

end Party

/-- A sealed message on its way, with the text that it was made from. -/
structure Letter where
  sender : Party
  text : Bytes
  envelope : Envelope
  position : Position
  deriving DecidableEq

namespace Letter

/-- The letter as it is read at the other end. -/
def read (letter : Letter) : Except Fault Envelope :=
  Envelope.ofBytes letter.envelope.kind letter.envelope.toBytes

end Letter

/-- The letters that a reply puts under way. -/
def Reply.letters (sender : Party) (text : Bytes) : Reply -> List Letter
  | emitted envelope =>
    envelope.sealed?.toList.map fun message =>
      ⟨sender, text, envelope, message.ratchetKey, message.counter⟩
  | _ => []

/-- How the parties find each other, and the bounds that each of them respects. -/
structure Setting where
  /-- Where a party finds the other one. -/
  address : Party -> Address
  limits : Party -> Limits

/-- The runs of both parties and the letters between them. -/
structure Correspondence where
  run : Party -> Run
  underway : List Letter
  /-- The letters that have arrived, newest first. -/
  arrived : List Letter

namespace Correspondence

/-! ## Writing and delivering -/

section Suite

variable [Suite]

/-- A party seals a text.  Where that succeeds, a letter is under way. -/
def write (setting : Setting) (letters : Correspondence) (party : Party) (text : Bytes) :
    Correspondence :=
  let operation := Operation.encrypt (setting.address party) text
  let result := ((letters.run party).host.perform operation.run).1
  { letters with
    run := Function.update letters.run party ((letters.run party).next operation)
    underway := letters.underway ++ result.toOption.toList.flatMap (Reply.letters party text) }

/-- A letter reaches the other party, which opens it. -/
def deliver (setting : Setting) (letters : Correspondence) (letter : Letter) : Correspondence :=
  let party := letter.sender.other
  { run := match letter.read with
      | .ok envelope => Function.update letters.run party ((letters.run party).next
          (.decrypt (setting.address party) (setting.limits party) (fun _ => .ok ()) envelope))
      | .error _ => letters.run
    underway := letters.underway.erase letter
    arrived := letter :: letters.arrived }

end Suite

/-! ## What has arrived -/

/-- The counters that have arrived from a sender on a ratchet key, newest first. -/
def counters (letters : Correspondence) (sender : Party) (key : PublicKey) : List Nat :=
  (letters.arrived.filter fun letter => letter.sender = sender ∧ letter.position.1 = key).map
    fun letter => letter.position.2.toNat

/-- The ratchet keys of a sender, the one that was heard of last first. -/
def heard (letters : Correspondence) (sender : Party) : List PublicKey :=
  ((letters.arrived.filter fun letter => letter.sender = sender).map (·.position.1)).dedup

/-- The ratchet keys of a sender that were heard of after the given one. -/
def newer (letters : Correspondence) (sender : Party) (key : PublicKey) : List PublicKey :=
  if key ∈ letters.heard sender then (letters.heard sender).takeWhile fun other => other ≠ key
  else []

/-- The bounds of the receiver admit the letter. -/
structure Admits (setting : Setting) (letters : Correspondence) (letter : Letter) : Prop where
  /-- The counter is not too far ahead on its chain. -/
  near : letter.position.2.toNat ≤
    Counters.reach (letters.counters letter.sender letter.position.1) +
      (setting.limits letter.sender.other).forwardJumps
  /-- With the letter, not too many lower counters of the chain are outstanding. -/
  room : Counters.outstanding (letter.position.2.toNat ::
      letters.counters letter.sender letter.position.1) ≤
    (setting.limits letter.sender.other).messageKeys
  /-- Not too many chains were begun after that of the letter. -/
  recent : (letters.newer letter.sender letter.position.1).length <
    (setting.limits letter.sender.other).receiverChains

/-- The correspondences that a first one leads to, by writing any texts and delivering
letters in any order that the bounds admit. -/
inductive Leads [Suite] (setting : Setting) (first : Correspondence) : Correspondence -> Prop where
  | refl : Leads setting first first
  | write {letters : Correspondence} (before : Leads setting first letters) (party : Party)
      (text : Bytes) : Leads setting first (letters.write setting party text)
  | deliver {letters : Correspondence} {letter : Letter} (before : Leads setting first letters)
      (underway : letter ∈ letters.underway) (admits : letters.Admits setting letter) :
      Leads setting first (letters.deliver setting letter)

/-! ## How the letters change what has arrived -/

variable [Suite] {setting : Setting} {letters : Correspondence} {letter : Letter} {sender : Party}
  {key : PublicKey}

/-- The party that has written a letter is not touched by it. -/
theorem run_deliver_sender :
    (letters.deliver setting letter).run letter.sender = letters.run letter.sender := by
  unfold deliver
  dsimp only
  cases letter.read with
  | error fault => rfl
  | ok envelope => exact Function.update_of_ne (Party.other_ne letter.sender).symm _ _

theorem run_deliver_other {envelope : Envelope} (read : letter.read = .ok envelope) :
    (letters.deliver setting letter).run letter.sender.other =
      (letters.run letter.sender.other).next (.decrypt (setting.address letter.sender.other)
        (setting.limits letter.sender.other) (fun _ => .ok ()) envelope) := by
  unfold deliver
  dsimp only
  rw [read]
  exact Function.update_self _ _ _

/-- A letter that arrives is one of those that were there before. -/
theorem perm_deliver (member : letter ∈ letters.underway) :
    ((letters.deliver setting letter).underway ++ (letters.deliver setting letter).arrived).Perm
      (letters.underway ++ letters.arrived) := by
  have moved : (letters.underway.erase letter ++ letter :: letters.arrived).Perm
      (letter :: (letters.underway.erase letter ++ letters.arrived)) := List.perm_middle
  have taken : letters.underway.Perm (letter :: letters.underway.erase letter) :=
    List.perm_cons_erase member
  exact moved.trans (taken.symm.append_right letters.arrived)

theorem counters_deliver_self : (letters.deliver setting letter).counters letter.sender
      letter.position.1 =
    letter.position.2.toNat :: letters.counters letter.sender letter.position.1 := by
  unfold counters deliver
  rw [List.filter_cons, if_pos (decide_eq_true ⟨rfl, rfl⟩)]
  rfl

theorem counters_deliver_of_ne (apart : letter.sender ≠ sender ∨ letter.position.1 ≠ key) :
    (letters.deliver setting letter).counters sender key = letters.counters sender key := by
  have elsewhere : ¬ decide (letter.sender = sender ∧ letter.position.1 = key) = true := by
    rw [decide_eq_true_eq]
    rintro ⟨party, chain⟩
    rcases apart with different | different
    · exact different party
    · exact different chain
  unfold counters deliver
  rw [List.filter_cons, if_neg elsewhere]

/-- What the receiver has written is not touched by a letter that reaches it. -/
theorem counters_deliver_other : (letters.deliver setting letter).counters letter.sender.other =
    letters.counters letter.sender.other := by
  funext key
  exact counters_deliver_of_ne (.inl (Party.other_ne letter.sender).symm)

theorem heard_deliver_of_ne (apart : letter.sender ≠ sender) :
    (letters.deliver setting letter).heard sender = letters.heard sender := by
  have elsewhere : ¬ decide (letter.sender = sender) = true := by
    rw [decide_eq_true_eq]
    exact apart
  unfold heard deliver
  rw [List.filter_cons, if_neg elsewhere]

/-- A sender is heard on its key, which comes first if it was not heard before. -/
theorem heard_deliver_self : (letters.deliver setting letter).heard letter.sender =
    if letter.position.1 ∈ letters.heard letter.sender then letters.heard letter.sender
    else letter.position.1 :: letters.heard letter.sender := by
  unfold heard deliver
  rw [List.filter_cons, if_pos (decide_eq_true rfl), List.map_cons]
  by_cases member : letter.position.1 ∈
      (letters.arrived.filter fun other => other.sender = letter.sender).map (·.position.1)
  · rw [List.dedup_cons_of_mem member, if_pos (List.mem_dedup.mpr member)]
  · rw [List.dedup_cons_of_notMem member, if_neg fun heard => member (List.mem_dedup.mp heard)]

end Correspondence
end DoubleRatchet
