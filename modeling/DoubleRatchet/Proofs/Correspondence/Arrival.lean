import DoubleRatchet.Proofs.Correspondence.Course

namespace DoubleRatchet

/-!
# Letters that arrive

A letter under way was written on some rung, and its receiver is on its course.  If the
letter comes from below, then the chains that its receiver has begun since are those of
the keys that were heard after that of the letter, so that a bound on the keys heard is a
bound on the chains, and the chain of the letter is still kept.  If it comes from above,
nothing was heard from there before.

In both cases the counters that have arrived on the key of the letter are those that its
chain has served.  The letter itself is not among them, because it has not arrived yet.
-/

/-- Before one of the entries, a list of different entries has those of the lower places. -/
theorem takeWhile_map_range {α : Type} [DecidableEq α] {entry : Nat -> α} {place size : Nat}
    (inside : place < size) (apart : ∀ other < place, entry other ≠ entry place) :
    ((List.range size).map entry).takeWhile (fun other => other ≠ entry place) =
      (List.range place).map entry := by
  obtain ⟨rest, rfl⟩ : ∃ rest, size = place + (rest + 1) := ⟨size - place - 1, by omega⟩
  have earlier : ∀ other ∈ (List.range place).map entry,
      decide (other ≠ entry place) = true := by
    intro other member
    obtain ⟨lower, below, rfl⟩ := List.mem_map.mp member
    exact decide_eq_true (apart lower (List.mem_range.mp below))
  rw [List.range_add, List.map_append, List.takeWhile_append_of_pos earlier,
    List.range_succ_eq_map, List.map_cons, List.map_cons, Nat.add_zero,
    List.takeWhile_cons_of_neg (by simp), List.append_nil]

namespace Meeting

variable [Suite] {meeting : Meeting} {letters : Correspondence} {top : Nat}
  {count : Party -> Nat} {letter : Letter} {party : Party} {rung : Nat}
  {message : WhisperMessage}

/-! ## What was heard -/

/-- A rung of the other party below has a place among those that a party has heard of. -/
theorem Writes.place (writes : meeting.Writes letter rung message) (climbed : 0 < top)
    (below : rung < letter.sender.other.rung top) :
    ∃ place, 2 * place + 1 < letter.sender.other.rung top ∧
      rung = letter.sender.other.rung top - 1 - 2 * place := by
  have positive := writes.positive
  have foreign : Party.holding rung = letter.sender.other.other := by
    rw [Party.other_other]
    exact writes.sender_eq.symm
  have parity := Party.mod_two_of_foreign foreign (Party.holding_rung climbed letter.sender.other)
  exact ⟨(letter.sender.other.rung top - 1 - rung) / 2, by omega, by omega⟩

/-- The keys that were heard after one of them are those of the rungs above it. -/
theorem Holds.newer_eq (holds : meeting.Holds letters top count)
    (distinct : meeting.ladder.Distinct top) {place : Nat}
    (lower : 2 * place + 1 < party.rung top) :
    meeting.ladder.key (party.rung top - 1 - 2 * place) ∈ letters.heard party.other ∧
      (letters.newer party.other
        (meeting.ladder.key (party.rung top - 1 - 2 * place))).length = place := by
  have within := Party.rung_le party top
  have inside : place < party.rung top / 2 := by omega
  have member : meeting.ladder.key (party.rung top - 1 - 2 * place) ∈
      letters.heard party.other := by
    rw [holds.heard]
    exact List.mem_map.mpr ⟨place, List.mem_range.mpr inside, rfl⟩
  refine ⟨member, ?_⟩
  unfold Correspondence.newer
  rw [if_pos member, holds.heard]
  let entry : Nat -> PublicKey := fun place =>
    meeting.ladder.key (party.rung top - 1 - 2 * place)
  have apart : ∀ other < place, entry other ≠ entry place := by
    intro other earlier same
    have equal := distinct _ _ (by omega) (by omega) (by omega) same
    omega
  rw [takeWhile_map_range inside apart, List.length_map, List.length_range]

/-- Nothing has arrived yet from the rung above a party. -/
theorem Holds.unheard (holds : meeting.Holds letters top count)
    (distinct : meeting.ladder.Distinct top) (above : party.rung top + 1 = top) :
    meeting.ladder.key top ∉ letters.heard party.other ∧
      letters.counters party.other (meeting.ladder.key top) = [] := by
  constructor
  · rw [holds.heard]
    intro member
    obtain ⟨place, inside, same⟩ := List.mem_map.mp member
    have below := List.mem_range.mp inside
    have equal := distinct _ _ (by omega) (by omega) (by omega) same
    omega
  · unfold Correspondence.counters
    rw [List.map_eq_nil_iff, List.filter_eq_nil_iff]
    intro other member described
    obtain ⟨sender_eq, key_eq⟩ := of_decide_eq_true described
    obtain ⟨rung, reached, message, writes, _⟩ := holds.arrived other member
    have climbed := holds.climbed
    rw [sender_eq, Party.other_other] at reached
    have foreign : Party.holding rung = party.other := writes.sender_eq.symm.trans sender_eq
    have parity := Party.mod_two_of_foreign foreign (Party.holding_rung climbed party)
    have same := writes.key_eq.symm.trans key_eq
    have equal := distinct _ _ (by omega) (Nat.le_refl top) (by omega) same
    omega

/-- A letter that the bounds admit is ready to be served after those that have arrived. -/
theorem Holds.ready (holds : meeting.Holds letters top count) (member : letter ∈ letters.underway)
    (admits : letters.Admits meeting.setting letter) :
    Counters.Ready (meeting.setting.limits letter.sender.other)
      (letters.counters letter.sender letter.position.1) letter.position.2 where
  bounded := by
    intro counter served
    obtain ⟨other, found, rfl⟩ := List.mem_map.mp served
    obtain ⟨_, _, _, writes, _⟩ := holds.arrived other (List.mem_filter.mp found).1
    exact UInt32.lt_iff_toNat_lt.mp writes.notLast
  notLast := by
    obtain ⟨_, _, _, writes, _⟩ := holds.underway letter member
    exact writes.notLast
  unserved := by
    intro served
    obtain ⟨other, found, counter_eq⟩ := List.mem_map.mp served
    obtain ⟨gone, described⟩ := List.mem_filter.mp found
    obtain ⟨sender_eq, key_eq⟩ := of_decide_eq_true described
    have same : (other.sender, other.position) = (letter.sender, letter.position) :=
      Prod.ext sender_eq (Prod.ext key_eq (UInt32.toNat_inj.mp counter_eq))
    have apart := holds.distinct
    rw [List.map_append] at apart
    have there := List.mem_map_of_mem (f := fun letter : Letter =>
      (letter.sender, letter.position)) gone
    rw [same] at there
    exact List.disjoint_of_nodup_append apart (List.mem_map_of_mem member) there
  near := admits.near
  room := admits.room

/-! ## Delivering -/

/-- A letter that arrives leaves its sender where it is.  Its receiver stays where it is too,
or climbs past every rung so far and begins to count anew. -/
theorem Holds.received (holds : meeting.Holds letters top count)
    (member : letter ∈ letters.underway) {higher : Nat} {more : Party -> Nat}
    (placed : meeting.Placed top count letter rung) (reached : rung ≤ top) (grows : top ≤ higher)
    (below : rung < letter.sender.other.rung higher)
    (stays : letter.sender.rung higher = letter.sender.rung top)
    (keeps : more letter.sender = count letter.sender)
    (moves : letter.sender.other.rung higher = letter.sender.other.rung top ∧
        more letter.sender.other = count letter.sender.other ∨
      top < letter.sender.other.rung higher ∧ more letter.sender.other = 0)
    (draws : meeting.Draws letter.sender.other
      ((letters.deliver meeting.setting letter).run letter.sender.other)
      (letter.sender.other.rung higher))
    (status : meeting.Status
      ((letters.deliver meeting.setting letter).run letter.sender.other).host
      (letter.sender.other.rung higher) (more letter.sender.other)
      (fun rung => (letters.deliver meeting.setting letter).counters letter.sender
        (meeting.ladder.key rung)) letter.sender.other)
    (heard : (letters.deliver meeting.setting letter).heard letter.sender =
      (List.range (letter.sender.other.rung higher / 2)).map fun place =>
        meeting.ladder.key (letter.sender.other.rung higher - 1 - 2 * place)) :
    meeting.Holds (letters.deliver meeting.setting letter) higher more := by
  have raised : ∀ party : Party, party.rung top ≤ party.rung higher := by
    intro party
    rcases Party.eq_or_other party letter.sender with rfl | rfl
    · exact Nat.le_of_eq stays.symm
    · rcases moves with ⟨same, _⟩ | ⟨climbs, _⟩
      · exact Nat.le_of_eq same.symm
      · exact Nat.le_of_lt (Nat.lt_of_le_of_lt (Party.rung_le _ top) climbs)
  -- No letter was written on a rung that the receiver has just climbed to.
  have kept : ∀ {other : Letter} {rung : Nat}, rung ≤ top → meeting.Placed top count other rung →
      meeting.Placed higher more other rung := by
    rintro other rung reached ⟨message, written, counted⟩
    refine ⟨message, written, ?_⟩
    intro own
    rcases Party.eq_or_other other.sender letter.sender with same | same
    · rw [same, stays] at own
      rw [same] at counted ⊢
      rw [keeps]
      exact counted own
    · rw [same] at own counted ⊢
      rcases moves with ⟨rests, counts⟩ | ⟨climbs, _⟩
      · rw [rests] at own
        rw [counts]
        exact counted own
      · omega
  constructor
  · exact Nat.lt_of_lt_of_le holds.climbed grows
  · intro party
    rcases Party.eq_or_other party letter.sender with rfl | rfl
    · rw [Correspondence.run_deliver_sender, stays]
      exact holds.draws letter.sender
    · exact draws
  · intro party
    rcases Party.eq_or_other party letter.sender with rfl | rfl
    · rw [Correspondence.counters_deliver_other, Correspondence.run_deliver_sender, stays, keeps]
      exact holds.status letter.sender
    · rw [Party.other_other]
      exact status
  · intro party
    rcases Party.eq_or_other party letter.sender with rfl | rfl
    · rw [Correspondence.heard_deliver_of_ne (Party.other_ne letter.sender).symm, stays]
      exact holds.heard letter.sender
    · rw [Party.other_other]
      exact heard
  · intro other inside
    obtain ⟨rung, low, before⟩ := holds.underway other (List.mem_of_mem_erase inside)
    exact ⟨rung, Nat.le_trans low grows, kept low before⟩
  · intro other inside
    rcases List.mem_cons.mp inside with rfl | gone
    · exact ⟨_, below, kept reached placed⟩
    · obtain ⟨rung, early, before⟩ := holds.arrived other gone
      have low : rung ≤ top := Nat.le_of_lt (Nat.lt_of_lt_of_le early (Party.rung_le _ top))
      exact ⟨rung, Nat.lt_of_lt_of_le early (raised _), kept low before⟩
  · exact ((Correspondence.perm_deliver member).map _).nodup_iff.mpr holds.distinct
  · intro party
    rcases Party.eq_or_other party letter.sender with rfl | rfl
    · rw [keeps]
      exact holds.few letter.sender
    · rcases moves with ⟨_, counts⟩ | ⟨_, anew⟩
      · rw [counts]
        exact holds.few _
      · rw [anew]
        exact Nat.zero_le _

/-- A letter that comes from below its receiver leaves everyone where they are. -/
theorem Holds.took (holds : meeting.Holds letters top count)
    (member : letter ∈ letters.underway) {rung : Nat}
    (placed : meeting.Placed top count letter rung) (below : rung < letter.sender.other.rung top)
    (known : letter.position.1 ∈ letters.heard letter.sender)
    (draws : meeting.Draws letter.sender.other
      ((letters.deliver meeting.setting letter).run letter.sender.other)
      (letter.sender.other.rung top))
    (status : meeting.Status
      ((letters.deliver meeting.setting letter).run letter.sender.other).host
      (letter.sender.other.rung top) (count letter.sender.other)
      (fun rung => (letters.deliver meeting.setting letter).counters letter.sender
        (meeting.ladder.key rung)) letter.sender.other) :
    meeting.Holds (letters.deliver meeting.setting letter) top count := by
  have reached : rung ≤ top := Nat.le_of_lt (Nat.lt_of_lt_of_le below (Party.rung_le _ top))
  have heard := holds.heard letter.sender.other
  rw [Party.other_other] at heard
  apply holds.received member placed reached (Nat.le_refl top) below rfl rfl (.inl ⟨rfl, rfl⟩)
    draws status
  rw [Correspondence.heard_deliver_self, if_pos known]
  exact heard

/-- A letter that comes from above its receiver is of the highest rung, and its receiver
climbs past that. -/
theorem Holds.lifted (holds : meeting.Holds letters top count)
    (member : letter ∈ letters.underway) (placed : meeting.Placed top count letter top)
    (unknown : letter.position.1 ∉ letters.heard letter.sender)
    (above : top = letter.sender.other.rung top + 1)
    (draws : meeting.Draws letter.sender.other
      ((letters.deliver meeting.setting letter).run letter.sender.other) (top + 1))
    (status : meeting.Status
      ((letters.deliver meeting.setting letter).run letter.sender.other).host (top + 1) 0
      (fun rung => (letters.deliver meeting.setting letter).counters letter.sender
        (meeting.ladder.key rung)) letter.sender.other) :
    meeting.Holds (letters.deliver meeting.setting letter) (top + 1)
      (Function.update count letter.sender.other 0) := by
  have ⟨content, writes, counted⟩ := placed
  have held : Party.holding top = letter.sender := writes.sender_eq.symm
  have climbs : letter.sender.other.rung (top + 1) = top + 1 := by
    apply Party.rung_succ_self
    rw [Party.other_other]
    exact held
  have anew : Function.update count letter.sender.other 0 letter.sender.other = 0 :=
    Function.update_self ..
  have heard := holds.heard letter.sender.other
  rw [Party.other_other] at heard
  apply holds.received member placed (Nat.le_refl top) (Nat.le_succ top)
  · rw [climbs]
    exact Nat.lt_succ_self top
  · exact Party.rung_succ_other held
  · exact Function.update_of_ne (Party.other_ne letter.sender).symm _ _
  · rw [climbs]
    exact .inr ⟨Nat.lt_succ_self top, anew⟩
  · rw [climbs]
    exact draws
  · rw [climbs, anew]
    exact status
  · have half : (top + 1) / 2 = letter.sender.other.rung top / 2 + 1 := by omega
    have higher : top + 1 = letter.sender.other.rung top + 2 := congrArg Nat.succ above
    have newest := meeting.ladder.map_key_range_succ (letter.sender.other.rung top)
      (letter.sender.other.rung top / 2)
    rw [← above, ← higher] at newest
    rw [Correspondence.heard_deliver_self, if_neg unknown, heard, writes.key_eq, climbs, half,
      newest]

/-- What the run of the receiver is after it has opened a letter. -/
theorem Writes.delivered (bounded : Suite.SealingBounded ‹Suite›) (prepared : meeting.Prepared)
    (writes : meeting.Writes letter rung message) {after : Host} {draws : Nat}
    (gives : (letters.run letter.sender.other).host.perform
      (Transport.decrypt (meeting.setting.address letter.sender.other)
        (meeting.setting.limits letter.sender.other) letter.envelope) = (.ok letter.text, after))
    (continues : (letters.run letter.sender.other).host.trace.Continues draws after.trace) :
    ((letters.deliver meeting.setting letter).run letter.sender.other).host = after ∧
      ((letters.deliver meeting.setting letter).run letter.sender.other).drawn =
        (letters.run letter.sender.other).drawn ++
          (List.range' (letters.run letter.sender.other).host.trace.drawn draws).map fun place =>
            (KeyPair.drawnAt (letters.run letter.sender.other).host.trace.entropy
              place).publicKey := by
  let operation := Operation.decrypt (meeting.setting.address letter.sender.other)
    (meeting.setting.limits letter.sender.other) (fun _ => .ok ()) letter.envelope
  have performed : (letters.run letter.sender.other).host.perform operation.run =
      (.ok (.plaintext letter.text), after) := Host.perform_bind_of_ok gives _
  have drawn := drawn_next performed (fun _ _ => rfl) continues
  rw [Correspondence.run_deliver_other (writes.read bounded prepared)]
  exact ⟨congrArg Run.host (Run.next_eq performed), drawn⟩

/-- A letter adds nothing to what has arrived on the other rungs of its sender. -/
theorem Writes.counters_deliver (writes : meeting.Writes letter rung message)
    (distinct : meeting.ladder.Distinct top) (reached : rung ≤ top) {other : Nat} (low : other ≤ top)
    (parity : rung % 2 = other % 2) (different : rung ≠ other) :
    (letters.deliver meeting.setting letter).counters letter.sender (meeting.ladder.key other) =
      letters.counters letter.sender (meeting.ladder.key other) := by
  apply Correspondence.counters_deliver_of_ne
  right
  intro same
  exact different (distinct _ _ reached low parity (writes.key_eq.symm.trans same))

/-- A letter from below its receiver is opened by it, and everyone stays where they are. -/
theorem Holds.deliver_below (faithful : Suite.SealingFaithful ‹Suite›)
    (bounded : Suite.SealingBounded ‹Suite›) (prepared : meeting.Prepared)
    (holds : meeting.Holds letters top count) (distinct : meeting.ladder.Distinct top)
    (member : letter ∈ letters.underway) (admits : letters.Admits meeting.setting letter)
    (writes : meeting.Writes letter rung message)
    (counted : rung = letter.sender.rung top → letter.position.2.toNat < count letter.sender)
    (below : rung < letter.sender.other.rung top) :
    (∃ after, (letters.run letter.sender.other).host.perform
      (Transport.decrypt (meeting.setting.address letter.sender.other)
        (meeting.setting.limits letter.sender.other) letter.envelope) =
          (.ok letter.text, after)) ∧
      meeting.Holds (letters.deliver meeting.setting letter) top count := by
  have ready := holds.ready member admits
  have recent := admits.recent
  have status := holds.status letter.sender.other
  have draws := holds.draws letter.sender.other
  obtain ⟨place, lower, rung_eq⟩ := writes.place holds.climbed below
  obtain ⟨known, newer⟩ := holds.newer_eq distinct lower
  have seals := writes.seals
  rw [writes.key_eq] at ready recent
  rw [Party.other_other] at status known newer
  rw [← rung_eq] at known newer
  rw [newer] at recent
  rw [← Party.other_other letter.sender, ← swap_terms] at seals
  obtain ⟨state, stands, under, receives⟩ := status.receives prepared draws.permissive writes
    (Party.other_other letter.sender).symm (by omega)
  subst rung_eq
  have within := Party.rung_le letter.sender.other top
  obtain ⟨taken, takes, silent, moved⟩ := stands.takes_below faithful under distinct (by omega)
    (by omega) recent ready seals (letters.run letter.sender.other).host.trace.nextPair
  obtain ⟨after, gives, refusal_eq, continues, later⟩ := receives taken takes
  rw [silent] at continues
  obtain ⟨host_eq, drawn_eq⟩ := writes.delivered bounded prepared gives continues
  rw [List.range'_zero, List.map_nil, List.append_nil] at drawn_eq
  refine ⟨⟨after, gives⟩, ?_⟩
  have here : (letters.deliver meeting.setting letter).counters letter.sender _ = _ :=
    Correspondence.counters_deliver_self
  rw [writes.key_eq] at here
  have standing := moved (fun rung => (letters.deliver meeting.setting letter).counters
    letter.sender (meeting.ladder.key rung)) here fun other under different =>
      writes.counters_deliver distinct (by omega) (by omega) (by omega) (by omega)
  apply holds.took member ⟨message, writes, counted⟩ below
  · rw [writes.key_eq]
    exact known
  · apply draws.idle
    · rw [host_eq]
      exact refusal_eq
    · rw [host_eq]
      exact continues
    · exact drawn_eq
  · rw [host_eq]
    exact later _ _ _ (by omega) standing

/-- A letter from above its receiver is opened by it, and lifts it over that rung. -/
theorem Holds.deliver_above (symmetric : Suite.AgreementSymmetric ‹Suite›)
    (faithful : Suite.SealingFaithful ‹Suite›) (bounded : Suite.SealingBounded ‹Suite›)
    (prepared : meeting.Prepared) (holds : meeting.Holds letters top count)
    (distinct : meeting.ladder.Distinct top) (member : letter ∈ letters.underway)
    (admits : letters.Admits meeting.setting letter) (writes : meeting.Writes letter top message)
    (counted : top = letter.sender.rung top → letter.position.2.toNat < count letter.sender)
    (above : letter.sender.other.rung top + 1 = top) :
    (∃ after, (letters.run letter.sender.other).host.perform
      (Transport.decrypt (meeting.setting.address letter.sender.other)
        (meeting.setting.limits letter.sender.other) letter.envelope) =
          (.ok letter.text, after)) ∧
      meeting.Holds (letters.deliver meeting.setting letter) (top + 1)
        (Function.update count letter.sender.other 0) := by
  have ready := holds.ready member admits
  have recent := Nat.lt_of_le_of_lt (Nat.zero_le _) admits.recent
  have status := holds.status letter.sender.other
  have draws := holds.draws letter.sender.other
  have held := Party.holding_rung holds.climbed letter.sender.other
  obtain ⟨unknown, unheard⟩ := holds.unheard distinct above
  have seals := writes.seals
  rw [writes.key_eq] at ready
  rw [Party.other_other] at status unknown unheard
  rw [← Party.other_other letter.sender, ← swap_terms, ← above] at seals
  obtain ⟨state, stands, under, receives⟩ := status.receives prepared draws.permissive writes
    (Party.other_other letter.sender).symm (Nat.le_of_eq above.symm)
  have next : (letters.run letter.sender.other).host.trace.nextPair =
      meeting.ladder.pair (letter.sender.other.rung top + 2) := draws.coming 0
  have unheardAbove : letters.counters letter.sender
      (meeting.ladder.key (letter.sender.other.rung top + 1)) = [] := by
    rw [above]
    exact unheard
  rw [← above] at ready
  obtain ⟨taken, takes, drew, moved⟩ := stands.takes_above symmetric faithful
    prepared.matched_ladder under distinct (Nat.le_of_eq above) unheardAbove recent ready seals
  rw [← next] at takes
  obtain ⟨after, gives, refusal_eq, continues, later⟩ := receives taken takes
  rw [drew] at continues
  obtain ⟨host_eq, drawn_eq⟩ := writes.delivered bounded prepared gives continues
  refine ⟨⟨after, gives⟩, ?_⟩
  have here : (letters.deliver meeting.setting letter).counters letter.sender _ = _ :=
    Correspondence.counters_deliver_self
  rw [writes.key_eq, unheard, ← above] at here
  have standing := moved (fun rung => (letters.deliver meeting.setting letter).counters
    letter.sender (meeting.ladder.key rung)) here fun other under =>
      writes.counters_deliver distinct (Nat.le_refl top) (by omega) (by omega) (by omega)
  have lifted : letter.sender.other.rung top + 2 = top + 1 := congrArg Nat.succ above
  have raised : meeting.Draws letter.sender.other
      ((letters.deliver meeting.setting letter).run letter.sender.other)
      (letter.sender.other.rung top + 2) := by
    apply draws.drew held
    · rw [host_eq]
      exact refusal_eq
    · rw [host_eq]
      exact continues
    · exact drawn_eq
  have climbed := holds.climbed
  rw [lifted] at raised standing
  apply holds.lifted member ⟨message, writes, counted⟩ _ above.symm raised
  · rw [host_eq]
    exact later _ _ _ (by omega) standing
  · rw [writes.key_eq]
    exact unknown

/-- A letter that the bounds admit is read as it was written, and its receiver opens it. -/
theorem Holds.deliver (symmetric : Suite.AgreementSymmetric ‹Suite›)
    (faithful : Suite.SealingFaithful ‹Suite›) (bounded : Suite.SealingBounded ‹Suite›)
    (prepared : meeting.Prepared) (holds : meeting.Holds letters top count)
    (regular : meeting.Regular letters) (member : letter ∈ letters.underway)
    (admits : letters.Admits meeting.setting letter) :
    letter.read = .ok letter.envelope ∧
      (∃ after, (letters.run letter.sender.other).host.perform
        (Transport.decrypt (meeting.setting.address letter.sender.other)
          (meeting.setting.limits letter.sender.other) letter.envelope) =
            (.ok letter.text, after)) ∧
      ∃ higher more, meeting.Holds (letters.deliver meeting.setting letter) higher more := by
  have distinct := holds.distinct_ladder regular
  obtain ⟨rung, reached, message, writes, counted⟩ := holds.underway letter member
  have foreign : Party.holding rung = letter.sender.other.other := by
    rw [Party.other_other]
    exact writes.sender_eq.symm
  refine ⟨writes.read bounded prepared, ?_⟩
  rcases Party.below_or_above holds.climbed foreign reached with below | ⟨above, highest⟩
  · obtain ⟨opened, next⟩ :=
      holds.deliver_below faithful bounded prepared distinct member admits writes counted below
    exact ⟨opened, _, _, next⟩
  · subst highest
    obtain ⟨opened, next⟩ := holds.deliver_above symmetric faithful bounded prepared distinct
      member admits writes counted above.symm
    exact ⟨opened, _, _, next⟩

end Meeting
end DoubleRatchet
