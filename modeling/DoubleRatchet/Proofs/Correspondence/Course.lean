import DoubleRatchet.Proofs.Correspondence.Status

namespace DoubleRatchet

/-!
# The course of a correspondence

The whole of a correspondence is described by one number, the highest rung of the ladder
that was climbed so far.  The party whose rung that is stands on it, and the other party
stands on the rung below.  Every letter was written on some rung, and a letter that has
arrived was written below the rung on which its receiver stands.

A letter that is delivered therefore comes from below its receiver, or from the one rung
above.  In the first case its receiver keeps a chain for it, because the chains that were
begun since are counted by the keys that were heard; in the second case the receiver climbs
past it and becomes the highest.  Writing changes nothing but the count of the letters on
one rung.
-/

namespace Party

/-- The rung of a party when the ladder was climbed up to a rung. -/
def rung (party : Party) (top : Nat) : Nat :=
  if holding top = party then top else top - 1

/-- The lowest rung that a party has drawn the pair of. -/
def start : Party -> Nat
  | initiator => 1
  | responder => 2

variable {party : Party} {top rung : Nat}

theorem holding_rung (climbed : 0 < top) (party : Party) : holding (party.rung top) = party := by
  unfold Party.rung
  by_cases highest : holding top = party
  · rw [if_pos highest]
    exact highest
  · rw [if_neg highest]
    obtain ⟨below, rfl⟩ : ∃ below, top = below + 1 := ⟨top - 1, by omega⟩
    rw [Nat.add_sub_cancel]
    rw [holding_succ] at highest
    cases lower : holding below <;> cases party <;> simp_all [other]

theorem rung_le (party : Party) (top : Nat) : party.rung top ≤ top := by
  unfold Party.rung
  split
  · exact Nat.le_refl top
  · exact Nat.sub_le top 1

/-- A rung of a party is not above the one that it stands on. -/
theorem le_rung (held : holding rung = party) (reached : rung ≤ top) : rung ≤ party.rung top := by
  unfold Party.rung
  by_cases highest : holding top = party
  · rw [if_pos highest]
    exact reached
  · rw [if_neg highest]
    have different : rung ≠ top := by
      rintro rfl
      exact highest held
    omega

/-- Seen from a party, a rung of the other one is below, or is the next above and the
highest of all. -/
theorem below_or_above (climbed : 0 < top) (foreign : holding rung = party.other)
    (reached : rung ≤ top) :
    rung < party.rung top ∨ (rung = party.rung top + 1 ∧ rung = top) := by
  have own := holding_rung climbed party
  have different : rung ≠ party.rung top := by
    rintro same
    rw [same, own] at foreign
    exact other_ne party foreign.symm
  have close : top - 1 ≤ party.rung top := by
    unfold Party.rung
    split
    · exact Nat.sub_le top 1
    · exact Nat.le_refl _
  omega

/-- When a party climbs past the highest rung, the other one stays where it is. -/
theorem rung_succ_self (above : holding top = party.other) : party.rung (top + 1) = top + 1 := by
  unfold Party.rung
  rw [holding_succ, above, other_other, if_pos rfl]

theorem rung_succ_other (above : holding top = party) : party.rung (top + 1) = party.rung top := by
  unfold Party.rung
  rw [holding_succ, above, if_neg (other_ne party), if_pos rfl]
  rfl

/-- Two rungs of the parties are of one party if the number between them is even. -/
theorem mod_two_of_foreign {other : Nat} (foreign : holding rung = party.other)
    (own : holding other = party) : (rung + 1) % 2 = other % 2 := by
  rw [← holding_eq_iff, holding_succ, foreign, own, other_other]

theorem mod_two_start (own : holding rung = party) : rung % 2 = party.start % 2 := by
  rw [← holding_eq_iff, own]
  cases party <;> rfl

/-- The place of a rung among those that its party has drawn. -/
theorem place_of_rung {highest : Nat} (held : holding rung = party)
    (drawn : party.start ≤ rung) (reached : rung ≤ highest) :
    (rung - party.start) / 2 ∈ List.range ((highest + 2 - party.start) / 2) ∧
      party.start + 2 * ((rung - party.start) / 2) = rung := by
  have parity := mod_two_start held
  rw [List.mem_range]
  omega

end Party

namespace Meeting

variable [Suite]

/-- The draws of a party go on with the pairs of its rungs above, and those that it has made
hold the keys of its rungs so far. -/
structure Draws (meeting : Meeting) (party : Party) (run : Run) (rung : Nat) : Prop where
  permissive : run.host.Permissive
  coming : ∀ steps, KeyPair.drawnAt run.host.trace.entropy (run.host.trace.drawn + steps) =
    meeting.pair (rung + 2 + 2 * steps)
  drawn : ((List.range ((rung + 2 - party.start) / 2)).map fun place =>
    meeting.ladder.key (party.start + 2 * place)).Sublist run.drawn

/-- The letter was written on a rung, and on the rung of its sender now it is one of those
that were counted. -/
def Placed (meeting : Meeting) (top : Nat) (count : Party -> Nat) (letter : Letter)
    (rung : Nat) : Prop :=
  ∃ message, meeting.Writes letter rung message ∧
    (rung = letter.sender.rung top → letter.position.2.toNat < count letter.sender)

/-- What holds of a correspondence in which the ladder was climbed up to a rung, and in
which each party has written a number of letters on its own rung. -/
structure Holds (meeting : Meeting) (letters : Correspondence) (top : Nat)
    (count : Party -> Nat) : Prop where
  climbed : 0 < top
  draws : ∀ party, meeting.Draws party (letters.run party) (party.rung top)
  status : ∀ party, meeting.Status (letters.run party).host (party.rung top) (count party)
    (fun rung => letters.counters party.other (meeting.ladder.key rung)) party
  heard : ∀ party : Party, letters.heard party.other =
    (List.range (party.rung top / 2)).map fun place =>
      meeting.ladder.key (party.rung top - 1 - 2 * place)
  underway : ∀ letter ∈ letters.underway, ∃ rung ≤ top, meeting.Placed top count letter rung
  arrived : ∀ letter ∈ letters.arrived, ∃ rung < letter.sender.other.rung top,
    meeting.Placed top count letter rung
  distinct : ((letters.underway ++ letters.arrived).map fun letter =>
    (letter.sender, letter.position)).Nodup
  few : ∀ party, count party ≤ lastCounter.toNat

/-- No pair was drawn twice, none is the pre-key at the bottom, and no chain has come to its
last counter. -/
structure Regular (meeting : Meeting) (letters : Correspondence) : Prop where
  drawn : ∀ party, (letters.run party).drawn.Nodup
  published : meeting.bottom.publicKey ∉ (letters.run .responder).drawn
  below : ∀ letter ∈ letters.underway ++ letters.arrived, letter.position.2 < lastCounter

variable {meeting : Meeting} {letters : Correspondence} {top : Nat} {count : Party -> Nat}
  {letter : Letter}

/-! ## Keys on the ladder -/

theorem Draws.mem_drawn {party : Party} {run : Run} {rung highest : Nat}
    (draws : meeting.Draws party run highest) (held : .holding rung = party)
    (drawn : party.start ≤ rung) (reached : rung ≤ highest) :
    meeting.ladder.key rung ∈ run.drawn := by
  obtain ⟨inside, place⟩ := Party.place_of_rung held drawn reached
  apply draws.drawn.subset
  have member := List.mem_map_of_mem (f := fun place =>
    meeting.ladder.key (party.start + 2 * place)) inside
  rw [place] at member
  exact member

/-- The keys of a party were drawn one by one, so they differ. -/
theorem Draws.distinct {party : Party} {run : Run} {highest first second : Nat}
    (draws : meeting.Draws party run highest) (nodup : run.drawn.Nodup)
    (firstHeld : .holding first = party) (secondHeld : .holding second = party)
    (firstDrawn : party.start ≤ first) (secondDrawn : party.start ≤ second)
    (firstReached : first ≤ highest) (secondReached : second ≤ highest)
    (same : meeting.ladder.key first = meeting.ladder.key second) : first = second := by
  obtain ⟨firstInside, firstPlace⟩ := Party.place_of_rung firstHeld firstDrawn firstReached
  obtain ⟨secondInside, secondPlace⟩ := Party.place_of_rung secondHeld secondDrawn secondReached
  have places := List.inj_on_of_nodup_map (draws.drawn.nodup nodup) firstInside secondInside (by
    rw [firstPlace, secondPlace]
    exact same)
  omega

/-- Up to the highest rung, the keys of each party differ. -/
theorem Holds.distinct_ladder (holds : meeting.Holds letters top count)
    (regular : meeting.Regular letters) : meeting.ladder.Distinct top := by
  -- The bottom of the ladder was not drawn by the responder, but published.
  have bottom : ∀ rung, rung ≤ top → rung ≠ 0 → rung % 2 = 0 →
      meeting.ladder.key 0 ≠ meeting.ladder.key rung := by
    intro rung reached above even same
    have held : Party.holding rung = .responder := by
      unfold Party.holding
      rw [if_neg (by omega)]
    have low : Party.responder.start ≤ rung := by
      change 2 ≤ rung
      omega
    apply regular.published
    have member := (holds.draws .responder).mem_drawn held low (Party.le_rung held reached)
    rw [← same] at member
    exact member
  intro first second low high parity same
  by_cases firstZero : first = 0
  · subst firstZero
    by_cases secondZero : second = 0
    · exact secondZero.symm
    · exact absurd same (bottom second high secondZero (by omega))
  · by_cases secondZero : second = 0
    · subst secondZero
      exact absurd same.symm (bottom first low firstZero (by omega))
    · have held := Party.holding_eq_iff.mpr parity
      have firstBit : first % 2 = (Party.holding first).start % 2 := Party.mod_two_start rfl
      have start : (Party.holding first).start ≤ 2 := by
        cases Party.holding first <;> decide
      exact (holds.draws (Party.holding first)).distinct (regular.drawn _) rfl held.symm (by omega)
        (by omega) (Party.le_rung rfl low) (Party.le_rung held.symm high) same

/-! ## One more event -/

/-- A party that has drawn nothing stays where it is. -/
theorem Draws.idle {party : Party} {run next : Run} {rung : Nat}
    (draws : meeting.Draws party run rung) (refusal_eq : next.host.refusal = run.host.refusal)
    (continues : run.host.trace.Continues 0 next.host.trace) (drawn_eq : next.drawn = run.drawn) :
    meeting.Draws party next rung where
  permissive := Run.permissive_of_refusal_eq draws.permissive refusal_eq
  coming := by
    intro steps
    rw [continues.entropy_eq, continues.drawn_eq]
    exact draws.coming steps
  drawn := by
    rw [drawn_eq]
    exact draws.drawn

/-- A party that has drawn a pair can stand two rungs higher. -/
theorem Draws.drew {party : Party} {run next : Run} {rung : Nat}
    (draws : meeting.Draws party run rung) (held : .holding rung = party)
    (refusal_eq : next.host.refusal = run.host.refusal)
    (continues : run.host.trace.Continues 1 next.host.trace)
    (drawn_eq : next.drawn = run.drawn ++ [run.host.trace.nextPair.publicKey]) :
    meeting.Draws party next (rung + 2) where
  permissive := Run.permissive_of_refusal_eq draws.permissive refusal_eq
  coming := by
    intro steps
    have later := draws.coming (1 + steps)
    have place : rung + 2 + 2 * (1 + steps) = rung + 2 + 2 + 2 * steps := by omega
    rw [continues.entropy_eq, continues.drawn_eq, Nat.add_assoc, later, place]
  drawn := by
    have parity := Party.mod_two_start held
    have start : party.start ≤ 2 := by
      cases party <;> decide
    have size : (rung + 2 + 2 - party.start) / 2 = (rung + 2 - party.start) / 2 + 1 := by omega
    have last : party.start + 2 * ((rung + 2 - party.start) / 2) = rung + 2 := by omega
    have key : meeting.ladder.key (rung + 2) = run.host.trace.nextPair.publicKey :=
      congrArg KeyPair.publicKey (draws.coming 0).symm
    rw [drawn_eq, size, List.range_succ, List.map_append]
    apply draws.drawn.append
    rw [List.map_singleton, last, key]

/-- What opening or sealing draws is what the run keeps. -/
theorem drawn_next {run : Run} {operation : Operation} {reply : Reply} {after : Host}
    {draws : Nat} (performed : run.host.perform operation.run = (.ok reply, after))
    (pairs : ∀ before last, operation.keyPlaces before last = List.range' before (last - before))
    (continues : run.host.trace.Continues draws after.trace) :
    (run.next operation).drawn = run.drawn ++ (List.range' run.host.trace.drawn draws).map
      fun place => (KeyPair.drawnAt run.host.trace.entropy place).publicKey := by
  rw [Run.next_eq performed]
  unfold Operation.drawnKeys
  rw [pairs, continues.drawn_eq, Nat.add_sub_cancel_left]

/-! ## The beginning -/

/-- The initiator has processed the bundle, and has drawn the base key and the pair of the
first rung for it. -/
theorem Prepared.run_initiator (prepared : meeting.Prepared) :
    ∃ after : Host,
      (meeting.host .initiator).Becomes
        (((meeting.host .initiator).store.pin (meeting.setting.address .initiator).name
          (meeting.identity .responder)).storeSession (meeting.setting.address .initiator)
          (SessionRecord.new.promote meeting.opening
            (meeting.setting.limits .initiator).archivedStates)) 2 after ∧
      meeting.first.run .initiator =
        ⟨after, [], [meeting.baseKey.publicKey, meeting.ladder.key 1]⟩ := by
  obtain ⟨after, gives, becomes⟩ := prepared.processed
  have performed : (Run.start (meeting.host .initiator)).host.perform (Operation.processBundle
      (meeting.setting.address .initiator) (meeting.setting.limits .initiator)
        meeting.bundle).run = (.ok .done, after) := Host.perform_bind_of_ok gives _
  refine ⟨after, becomes, ?_⟩
  have run : meeting.first.run .initiator = _ := Run.next_eq performed
  rw [run]
  congr 1
  exact Operation.drawnKeys_of_becomes becomes fun _ _ => rfl

/-- The draws of the initiator go on after the pair of the first rung. -/
theorem Prepared.draws_initiator (prepared : meeting.Prepared) :
    meeting.Draws .initiator (meeting.first.run .initiator) 1 := by
  obtain ⟨after, becomes, run⟩ := prepared.run_initiator
  rw [run]
  constructor
  · exact becomes.permissive (prepared.permissive .initiator)
  · intro steps
    have even : (2 + 2 * steps) % 2 = 0 := by omega
    have half : (2 + 2 * steps) / 2 = 1 + steps := by omega
    have rung : 1 + 2 + 2 * steps = 2 + 2 * steps + 1 := by omega
    rw [becomes.continues.entropy_eq, becomes.continues.drawn_eq, rung]
    change _ = if (2 + 2 * steps) % 2 = 0 then _ else _
    rw [if_pos even, half, Nat.add_assoc, Nat.add_assoc, ← Nat.add_assoc 1 1 steps]
  · exact .cons _ (.refl _)

/-- The responder has drawn nothing yet. -/
theorem Prepared.draws_responder (prepared : meeting.Prepared) :
    meeting.Draws .responder (meeting.first.run .responder) 0 where
  permissive := prepared.permissive .responder
  coming := by
    intro steps
    have odd : (1 + 2 * steps) % 2 ≠ 0 := by omega
    have half : (1 + 2 * steps) / 2 = steps := by omega
    have rung : 0 + 2 + 2 * steps = 1 + 2 * steps + 1 := by omega
    rw [rung]
    change _ = if (1 + 2 * steps) % 2 = 0 then _ else _
    rw [if_neg odd, half]
    rfl
  drawn := List.nil_sublist _

/-- The letters of the initiator carry the handshake as it was published. -/
theorem pendingPreKey_opening : meeting.opening.pendingPreKey = some meeting.pending := by
  change some (PendingPreKey.mk (meeting.bundle.preKey.map (·.id))
    (meeting.bundle.signedPreKey.map (·.id)) meeting.baseKey.publicKey) = _
  unfold pending bundle Bundle.ofKeys
  rw [Option.map_map, Option.map_map]
  rfl

/-- The initiator has a session when it has processed the bundle. -/
theorem Prepared.status_initiator (symmetric : Suite.AgreementSymmetric ‹Suite›)
    (prepared : meeting.Prepared) {counters : Nat -> List Nat} (unheard : counters 0 = []) :
    meeting.Status (meeting.first.run .initiator).host 1 0 counters .initiator := by
  obtain ⟨after, becomes, run⟩ := prepared.run_initiator
  rw [run]
  apply status_of_stored becomes.store_eq Nat.one_pos (Store.trusts_pin _ _ _)
  · exact prepared.stands_opening symmetric _ unheard
  · exact under_opening
  · exact ⟨pendingPreKey_opening, fun _ => rfl⟩

/-- The first correspondence is on its course, on the first rung. -/
theorem Prepared.holds_first (symmetric : Suite.AgreementSymmetric ‹Suite›)
    (prepared : meeting.Prepared) : meeting.Holds meeting.first 1 fun _ => 0 where
  climbed := Nat.one_pos
  draws := by
    intro party
    cases party with
    | initiator => exact prepared.draws_initiator
    | responder => exact prepared.draws_responder
  status := by
    intro party
    cases party with
    | initiator => exact prepared.status_initiator symmetric rfl
    | responder => exact .waiting rfl rfl rfl
  heard := by
    intro party
    cases party with
    | initiator => rfl
    | responder => rfl
  underway := by
    intro letter member
    cases member
  arrived := by
    intro letter member
    cases member
  distinct := List.nodup_nil
  few := fun _ => Nat.zero_le _

/-! ## Writing -/

/-- A text that is not sealed leaves the correspondence as it is. -/
theorem write_of_error {party : Party} {text : Bytes} {fault : Fault} {after : Host}
    (permissive : (letters.run party).host.Permissive)
    (fails : (letters.run party).host.perform
      (Transport.encrypt (meeting.setting.address party) text) = (.error fault, after)) :
    letters.write meeting.setting party text = letters := by
  have same := Transport.encrypt_eq_error permissive fails
  subst same
  have performed : (letters.run party).host.perform
      (Operation.encrypt (meeting.setting.address party) text).run =
        (.error fault, (letters.run party).host) := Host.perform_bind_of_error fails _
  have unmoved : (letters.run party).next (.encrypt (meeting.setting.address party) text) =
      letters.run party := by
    unfold Run.next
    rw [performed]
    change Run.mk _ ((letters.run party).emitted ++ []) ((letters.run party).drawn ++
      (List.range' _ (_ - _)).map _) = _
    rw [Nat.sub_self, List.append_nil]
    change Run.mk _ _ ((letters.run party).drawn ++ []) = _
    rw [List.append_nil]
  unfold Correspondence.write
  dsimp only
  rw [unmoved, performed]
  change Correspondence.mk (Function.update letters.run party (letters.run party))
    (letters.underway ++ []) letters.arrived = _
  rw [Function.update_eq_self, List.append_nil]

/-- What the correspondence is after a text was sealed. -/
theorem write_of_ok {party : Party} {text : Bytes} {envelope : Envelope} {after : Host}
    {message : WhisperMessage} (contained : envelope.sealed? = some message)
    (gives : (letters.run party).host.perform
      (Transport.encrypt (meeting.setting.address party) text) = (.ok envelope, after)) :
    letters.write meeting.setting party text =
      { run := Function.update letters.run party
          ((letters.run party).next (.encrypt (meeting.setting.address party) text))
        underway := letters.underway ++
          [⟨party, text, envelope, message.ratchetKey, message.counter⟩]
        arrived := letters.arrived } := by
  have performed : (letters.run party).host.perform
      (Operation.encrypt (meeting.setting.address party) text).run =
        (.ok (.emitted envelope), after) := Host.perform_bind_of_ok gives _
  unfold Correspondence.write
  dsimp only
  rw [performed]
  change Correspondence.mk _ (letters.underway ++ ((envelope.sealed?.toList.map _) ++ [])) _ = _
  rw [contained]
  rfl

/-- A letter stays where it was placed when more are written. -/
theorem Placed.more {more : Party -> Nat} {rung : Nat}
    (placed : meeting.Placed top count letter rung) (raised : ∀ party, count party ≤ more party) :
    meeting.Placed top more letter rung := by
  obtain ⟨message, writes, counted⟩ := placed
  exact ⟨message, writes, fun own => Nat.lt_of_lt_of_le (counted own) (raised letter.sender)⟩

/-- A letter on the next place of its party is different from all others. -/
theorem Holds.distinct_append (holds : meeting.Holds letters top count)
    (distinct : meeting.ladder.Distinct top) {message : WhisperMessage}
    (writes : meeting.Writes letter (letter.sender.rung top) message)
    (counted : letter.position.2.toNat = count letter.sender) :
    (((letters.underway ++ [letter]) ++ letters.arrived).map fun letter =>
      (letter.sender, letter.position)).Nodup := by
  have old : ∀ other ∈ letters.underway ++ letters.arrived, ∃ rung ≤ top,
      meeting.Placed top count other rung := by
    intro other member
    rcases List.mem_append.mp member with before | gone
    · exact holds.underway other before
    · obtain ⟨rung, reached, placed⟩ := holds.arrived other gone
      exact ⟨rung, Nat.le_of_lt (Nat.lt_of_lt_of_le reached (Party.rung_le _ top)), placed⟩
  have moved : ((letters.underway ++ [letter]) ++ letters.arrived).Perm
      (letter :: (letters.underway ++ letters.arrived)) := by
    rw [List.append_assoc, List.singleton_append]
    exact List.perm_middle
  apply (moved.map _).nodup_iff.mpr
  rw [List.map_cons, List.nodup_cons]
  refine ⟨?_, holds.distinct⟩
  intro member
  obtain ⟨other, inside, same⟩ := List.mem_map.mp member
  obtain ⟨sender_eq, position_eq⟩ := Prod.mk.inj same
  obtain ⟨rung, reached, content, written, below⟩ := old other inside
  have key : meeting.ladder.key rung = meeting.ladder.key (letter.sender.rung top) := by
    rw [← written.key_eq, ← writes.key_eq, position_eq]
  have held : Party.holding rung = .holding (letter.sender.rung top) := by
    rw [← written.sender_eq, ← writes.sender_eq, sender_eq]
  have here := distinct _ _ reached (Party.rung_le _ top) (Party.holding_eq_iff.mp held) key
  rw [sender_eq, position_eq, counted] at below
  exact Nat.lt_irrefl _ (below here)

/-- One more letter of a party that stays where it is. -/
theorem Holds.wrote (holds : meeting.Holds letters top count)
    (distinct : meeting.ladder.Distinct top) {run : Run} {message : WhisperMessage}
    (draws : meeting.Draws letter.sender run (letter.sender.rung top))
    (status : meeting.Status run.host (letter.sender.rung top) (count letter.sender + 1)
      (fun rung => letters.counters letter.sender.other (meeting.ladder.key rung)) letter.sender)
    (writes : meeting.Writes letter (letter.sender.rung top) message)
    (counted : letter.position.2.toNat = count letter.sender) :
    meeting.Holds ⟨Function.update letters.run letter.sender run, letters.underway ++ [letter],
      letters.arrived⟩ top (Function.update count letter.sender (count letter.sender + 1)) := by
  have raised : ∀ party, count party ≤
      Function.update count letter.sender (count letter.sender + 1) party := by
    intro party
    by_cases same : party = letter.sender
    · subst same
      rw [Function.update_self]
      exact Nat.le_succ _
    · rw [Function.update_of_ne same]
  constructor
  · exact holds.climbed
  · intro party
    change meeting.Draws party (Function.update letters.run letter.sender run party) _
    by_cases same : party = letter.sender
    · subst same
      rw [Function.update_self]
      exact draws
    · rw [Function.update_of_ne same]
      exact holds.draws party
  · intro party
    change meeting.Status (Function.update letters.run letter.sender run party).host _ _ _ party
    by_cases same : party = letter.sender
    · subst same
      rw [Function.update_self, Function.update_self]
      exact status
    · rw [Function.update_of_ne same, Function.update_of_ne same]
      exact holds.status party
  · exact holds.heard
  · intro other member
    rcases List.mem_append.mp member with before | here
    · obtain ⟨rung, reached, placed⟩ := holds.underway other before
      exact ⟨rung, reached, placed.more raised⟩
    · rw [List.mem_singleton.mp here]
      refine ⟨_, Party.rung_le _ top, message, writes, fun _ => ?_⟩
      rw [Function.update_self, counted]
      exact Nat.lt_succ_self _
  · intro other member
    obtain ⟨rung, reached, placed⟩ := holds.arrived other member
    exact ⟨rung, reached, placed.more raised⟩
  · exact holds.distinct_append distinct writes counted
  · intro party
    by_cases same : party = letter.sender
    · subst same
      rw [Function.update_self, ← counted]
      exact UInt32.lt_iff_toNat_lt.mp writes.notLast
    · rw [Function.update_of_ne same]
      exact holds.few party

/-- The letter is the next one of its sender, and nothing else is new but for the host that
has sealed it. -/
structure Adds (meeting : Meeting) (letters : Correspondence) (top : Nat) (count : Party -> Nat)
    (letter : Letter) (next : Correspondence) : Prop where
  key_eq : letter.position.1 = meeting.ladder.key (letter.sender.rung top)
  counter_eq : letter.position.2.toNat = count letter.sender
  underway_eq : next.underway = letters.underway ++ [letter]
  arrived_eq : next.arrived = letters.arrived
  drawn_eq : ∀ party, (next.run party).drawn = (letters.run party).drawn

/-- A text that is sealed becomes a letter, which keeps the correspondence on its course if
it is not the last one of its chain. -/
theorem Holds.sealed (prepared : meeting.Prepared) (holds : meeting.Holds letters top count)
    {party : Party} {text : Bytes} {envelope : Envelope} {after : Host}
    (gives : (letters.run party).host.perform
      (Transport.encrypt (meeting.setting.address party) text) = (.ok envelope, after)) :
    ∃ letter : Letter, letter.sender = party ∧ letter.text = text ∧
      meeting.Adds letters top count letter (letters.write meeting.setting party text) ∧
      (letter.position.2 < lastCounter → meeting.ladder.Distinct top →
        meeting.Holds (letters.write meeting.setting party text) top
          (Function.update count party (count party + 1))) := by
  have permissive := (holds.draws party).permissive
  have held := Party.holding_rung holds.climbed party
  have fits : count party < 2 ^ 32 := Nat.lt_of_le_of_lt (holds.few party) (by decide)
  obtain ⟨message, continues, refusal_eq, contained, key_eq, counter_eq, positive, seals,
    envelope_eq, status⟩ := (holds.status party).writes prepared permissive held fits gives
  have performed : (letters.run party).host.perform
      (Operation.encrypt (meeting.setting.address party) text).run =
        (.ok (.emitted envelope), after) := Host.perform_bind_of_ok gives _
  have run := Run.next_eq performed
  have host : ((letters.run party).next
      (.encrypt (meeting.setting.address party) text)).host = after := congrArg Run.host run
  have drawn := drawn_next performed (fun _ _ => rfl) continues
  rw [List.range'_zero, List.map_nil, List.append_nil] at drawn
  rw [write_of_ok contained gives]
  refine ⟨⟨party, text, envelope, message.ratchetKey, message.counter⟩, rfl, rfl, ?_, ?_⟩
  · refine ⟨key_eq, counter_eq, rfl, rfl, ?_⟩
    intro one
    change (Function.update letters.run party _ one).drawn = _
    by_cases same : one = party
    · subst same
      rw [Function.update_self]
      exact drawn
    · rw [Function.update_of_ne same]
  · intro notLast distinct
    have draws : meeting.Draws party ((letters.run party).next
        (.encrypt (meeting.setting.address party) text)) (party.rung top) := by
      apply (holds.draws party).idle
      · rw [host]
        exact refusal_eq
      · rw [host]
        exact continues
      · exact drawn
    rw [← host] at status
    exact holds.wrote distinct draws status
      ⟨positive, held.symm, key_eq, notLast, seals, envelope_eq⟩ counter_eq

/-- Writing keeps the correspondence on its course. -/
theorem Holds.write (prepared : meeting.Prepared) (holds : meeting.Holds letters top count)
    (regular : meeting.Regular letters) {party : Party} {text : Bytes}
    (next : meeting.Regular (letters.write meeting.setting party text)) :
    ∃ more, meeting.Holds (letters.write meeting.setting party text) top more := by
  rcases outcome : (letters.run party).host.perform
    (Transport.encrypt (meeting.setting.address party) text) with ⟨fault | envelope, after⟩
  · rw [write_of_error (holds.draws party).permissive outcome]
    exact ⟨count, holds⟩
  · obtain ⟨letter, _, _, adds, course⟩ := holds.sealed prepared outcome
    have notLast : letter.position.2 < lastCounter := by
      apply next.below letter
      rw [adds.underway_eq]
      exact List.mem_append_left _ (List.mem_append_right _ List.mem_cons_self)
    exact ⟨_, course notLast (holds.distinct_ladder regular)⟩

/-- A party above the bottom writes every text that the suite can seal. -/
theorem Holds.write_of_sealable (prepared : meeting.Prepared)
    (holds : meeting.Holds letters top count) (distinct : meeting.ladder.Distinct top)
    {party : Party} (climbed : 0 < party.rung top) (few : count party < lastCounter.toNat)
    {text body : Bytes} (closed : ((meeting.ladder.chain (party.rung top)).advance
      (count party)).messageKeys.seal? text = some body) :
    ∃ letter : Letter, letter.sender = party ∧ letter.text = text ∧
      meeting.Adds letters top count letter (letters.write meeting.setting party text) ∧
      meeting.Holds (letters.write meeting.setting party text) top
        (Function.update count party (count party + 1)) := by
  obtain ⟨envelope, after, gives⟩ :=
    (holds.status party).perform_encrypt (holds.draws party).permissive climbed closed
  obtain ⟨letter, sender_eq, text_eq, adds, course⟩ := holds.sealed prepared gives
  refine ⟨letter, sender_eq, text_eq, adds, course ?_ distinct⟩
  rw [UInt32.lt_iff_toNat_lt, adds.counter_eq, sender_eq]
  exact few

end Meeting
end DoubleRatchet
