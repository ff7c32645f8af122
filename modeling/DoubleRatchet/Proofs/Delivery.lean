import DoubleRatchet.Proofs.Correspondence.Arrival
import DoubleRatchet.Proofs.Suite.Plain

namespace DoubleRatchet

/-!
# Every letter is opened

Two parties meet, write to each other and receive what the network delivers, in any order
and with any losses.  As long as the bounds of the receiver admit what arrives, each letter
is read as it was written, and opened to the text that it was made from.

What is taken for granted is of three kinds.  The suite keeps its promises: agreements are
symmetric, and what is sealed is unsealed again and not longer than a field can hold.  The
pairs that the parties draw differ from each other, and the responder does not draw its
published pre-key once more.  And no chain comes to its last counter, where the index of
the chain starts over.
-/

namespace Meeting

variable {meeting : Meeting} {letters : Correspondence}

/-- What a later correspondence has drawn once only, an earlier one has. -/
theorem Regular.of_later {later : Correspondence} (regular : meeting.Regular later)
    (drawn : ∀ party, (letters.run party).drawn.Sublist (later.run party).drawn)
    (written : (letters.underway ++ letters.arrived).Subset (later.underway ++ later.arrived)) :
    meeting.Regular letters where
  drawn := fun party => (drawn party).nodup (regular.drawn party)
  published := fun member => regular.published ((drawn .responder).subset member)
  below := fun letter member => regular.below letter (written member)

variable [Suite]

theorem Regular.of_write {party : Party} {text : Bytes}
    (regular : meeting.Regular (letters.write meeting.setting party text)) :
    meeting.Regular letters := by
  apply regular.of_later
  · intro one
    change (letters.run one).drawn.Sublist (Function.update letters.run party _ one).drawn
    by_cases same : one = party
    · subst same
      rw [Function.update_self]
      exact List.sublist_append_left _ _
    · rw [Function.update_of_ne same]
  · apply List.Sublist.subset
    exact (List.sublist_append_left _ _).append_right letters.arrived

theorem Regular.of_deliver {letter : Letter} (member : letter ∈ letters.underway)
    (regular : meeting.Regular (letters.deliver meeting.setting letter)) :
    meeting.Regular letters := by
  apply regular.of_later
  · intro party
    unfold Correspondence.deliver
    dsimp only
    cases letter.read with
    | error fault => exact .refl _
    | ok envelope =>
      by_cases same : party = letter.sender.other
      · subst same
        change List.Sublist _ (Function.update letters.run _ _ _).drawn
        rw [Function.update_self]
        exact List.sublist_append_left _ _
      · change List.Sublist _ (Function.update letters.run _ _ _).drawn
        rw [Function.update_of_ne same]
  · exact (Correspondence.perm_deliver member).symm.subset

/-- Every correspondence that begins with the meeting is on its course. -/
theorem Prepared.holds (symmetric : Suite.AgreementSymmetric ‹Suite›)
    (faithful : Suite.SealingFaithful ‹Suite›) (bounded : Suite.SealingBounded ‹Suite›)
    (prepared : meeting.Prepared)
    (leads : Correspondence.Leads meeting.setting meeting.first letters)
    (regular : meeting.Regular letters) : ∃ top count, meeting.Holds letters top count := by
  induction leads with
  | refl => exact ⟨1, _, prepared.holds_first symmetric⟩
  | write before party text ih =>
    obtain ⟨top, count, holds⟩ := ih regular.of_write
    obtain ⟨more, next⟩ := holds.write prepared regular.of_write regular
    exact ⟨top, more, next⟩
  | deliver before member admits ih =>
    have earlier := regular.of_deliver member
    obtain ⟨top, count, holds⟩ := ih earlier
    exact (holds.deliver symmetric faithful bounded prepared earlier member admits).2.2

end Meeting

/-- Whatever the parties write and in whatever order it arrives, a letter under way that the
bounds of its receiver admit is read as it was written, and opens to the text that it was
made from. -/
theorem every_letter_opens [Suite] (symmetric : Suite.AgreementSymmetric ‹Suite›)
    (faithful : Suite.SealingFaithful ‹Suite›) (bounded : Suite.SealingBounded ‹Suite›)
    {meeting : Meeting} (prepared : meeting.Prepared) {letters : Correspondence}
    (leads : Correspondence.Leads meeting.setting meeting.first letters)
    (regular : meeting.Regular letters) {letter : Letter} (member : letter ∈ letters.underway)
    (admits : letters.Admits meeting.setting letter) :
    letter.read = .ok letter.envelope ∧
      ∃ after, (letters.run letter.sender.other).host.perform
        (Transport.decrypt (meeting.setting.address letter.sender.other)
          (meeting.setting.limits letter.sender.other) letter.envelope) =
            (.ok letter.text, after) := by
  obtain ⟨top, count, holds⟩ := prepared.holds symmetric faithful bounded leads regular
  obtain ⟨read, opened, _⟩ := holds.deliver symmetric faithful bounded prepared regular member
    admits
  exact ⟨read, opened⟩

section Scene

open Scene

attribute [local instance] plainSuite

/-- Alice opens a session from the bundle that Bob has published. -/
def Scene.greeting : Meeting where
  setting :=
    { address := fun
        | .initiator => bobAddress
        | .responder => aliceAddress
      limits := fun _ => .standard }
  host
    | .initiator => .start (.ofIdentity alice 7) aliceDraws
    | .responder => bobHost
  signedPreKey := some signedPreKey
  preKey := none
  registrationId := 8
  deviceId := 1

theorem prepared_greeting : greeting.Prepared where
  permissive := by
    intro party
    cases party with
    | initiator => exact Host.permissive_start _ _
    | responder => exact Host.permissive_start _ _
  unopened := by
    intro party
    cases party with
    | initiator => rfl
    | responder => rfl
  unpinned := by
    intro party
    cases party with
    | initiator => rfl
    | responder => rfl
  signed := by
    intro key published
    cases published
    exact ⟨Store.loadSignedPreKey_storeSignedPreKey_self .., rfl⟩
  oneTime := by
    intro key published
    cases published
  older := by
    intro absent
    cases absent
  published := .inl rfl
  verified := fun _ => rfl

/-- The two draws that Alice has made for the bundle are different, and Bob has made none. -/
theorem regular_greeting : greeting.Regular greeting.first where
  drawn := by
    intro party
    cases party with
    | initiator =>
      obtain ⟨_, _, run⟩ := prepared_greeting.run_initiator
      rw [run]
      change [greeting.baseKey.publicKey, greeting.ladder.key 1].Nodup
      decide
    | responder => exact List.nodup_nil
  published := fun member => nomatch member
  below := fun letter member => nomatch member

theorem seal?_of_short (keys : MessageKeys) {text : Bytes} (short : text.length < 2 ^ 16) :
    keys.seal? text = some text :=
  if_pos short

/-- Alice has written two letters, and Bob has heard nothing. -/
def Scene.letters : Correspondence :=
  (greeting.first.write greeting.setting .initiator [0x68]).write greeting.setting .initiator
    [0x69]

/-- The letters that Alice has written are on their way. -/
theorem letters_underway : ∃ first second : Letter, first.position.2.toNat = 0 ∧
    second.sender = .initiator ∧ second.text = [0x69] ∧ second.position.2.toNat = 1 ∧
    Scene.letters.underway = [first, second] ∧ Scene.letters.arrived = [] ∧
    ∀ party, (Scene.letters.run party).drawn = (greeting.first.run party).drawn := by
  have distinct : greeting.ladder.Distinct 1 := by
    intro first second low high parity _
    omega
  have begun := prepared_greeting.holds_first plainSuite_agreementSymmetric
  have climbed : 0 < Party.initiator.rung 1 := by decide
  have hello : ([0x68] : Bytes).length < 2 ^ 16 := by decide
  have again : ([0x69] : Bytes).length < 2 ^ 16 := by decide
  obtain ⟨first, _, _, adds, holds⟩ := begun.write_of_sealable prepared_greeting
    distinct climbed (by decide) (seal?_of_short _ hello)
  obtain ⟨second, sender_eq, text_eq, more, _⟩ := holds.write_of_sealable prepared_greeting
    distinct climbed (by decide) (seal?_of_short _ again)
  have counter_eq := more.counter_eq
  have underway_eq := more.underway_eq
  rw [sender_eq] at counter_eq
  rw [adds.underway_eq] at underway_eq
  refine ⟨first, second, adds.counter_eq, sender_eq, text_eq, counter_eq, underway_eq,
    more.arrived_eq.trans adds.arrived_eq, ?_⟩
  intro party
  exact (more.drawn_eq party).trans (adds.drawn_eq party)

/-- The second letter is opened before the first. -/
theorem overtaking_letter_opens :
    ∃ letter ∈ Scene.letters.underway, letter.position.2 = 1 ∧
      Scene.letters.Admits greeting.setting letter ∧ letter.read = .ok letter.envelope ∧
      ∃ after, (Scene.letters.run .responder).host.perform
        (Transport.decrypt aliceAddress .standard letter.envelope) = (.ok [0x69], after) := by
  obtain ⟨first, second, zero, sender_eq, text_eq, one, underway_eq, arrived_eq, drawn_eq⟩ :=
    letters_underway
  have leads : Correspondence.Leads greeting.setting greeting.first Scene.letters :=
    .write (.write .refl _ _) _ _
  have regular : greeting.Regular Scene.letters := by
    constructor
    · intro party
      rw [drawn_eq]
      exact regular_greeting.drawn party
    · rw [drawn_eq]
      exact regular_greeting.published
    · intro letter member
      rw [underway_eq, arrived_eq, List.append_nil] at member
      rw [UInt32.lt_iff_toNat_lt]
      rcases List.mem_cons.mp member with rfl | last
      · rw [zero]
        decide
      · rw [List.mem_singleton.mp last, one]
        decide
  have member : second ∈ Scene.letters.underway := by
    rw [underway_eq]
    exact List.mem_cons_of_mem _ List.mem_cons_self
  have silent : ∀ sender key, Scene.letters.counters sender key = [] := by
    intro sender key
    unfold Correspondence.counters
    rw [arrived_eq]
    rfl
  have unheard : ∀ sender, Scene.letters.heard sender = [] := by
    intro sender
    unfold Correspondence.heard
    rw [arrived_eq]
    rfl
  have limits : greeting.setting.limits second.sender.other = .standard := rfl
  have admits : Scene.letters.Admits greeting.setting second := by
    constructor
    · rw [silent, one, limits]
      decide
    · rw [silent, one, limits]
      decide
    · unfold Correspondence.newer
      rw [unheard, if_neg List.not_mem_nil, limits]
      decide
  have opens := every_letter_opens plainSuite_agreementSymmetric plainSuite_sealingFaithful
    plainSuite_sealingBounded prepared_greeting leads regular member admits
  rw [sender_eq, text_eq] at opens
  exact ⟨second, member, UInt32.toNat_inj.mp one, admits, opens⟩

end Scene
end DoubleRatchet
