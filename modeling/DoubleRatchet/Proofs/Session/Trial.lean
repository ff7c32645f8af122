import DoubleRatchet.Proofs.Session.Opening

namespace DoubleRatchet

/-!
# Which state of a record opens a message

A record tries its states one after another.  What a caller has to know of a
success is short: some state of the record had the keys, and the record has that
state as it took the message in front.  `Opened` says so, with the number of pairs
that the accepting state drew.

The states that refused the message before may have drawn pairs of their own,
which nobody keeps.  The pair of the accepting state is therefore the next draw
of some later trace, and not of the first one.
-/

namespace SessionState

variable [Suite]

/-- The state opens the message with the given text, and then is `taken`. -/
def Takes (limits : Limits) (ours : KeyPair) (state : SessionState) (message : WhisperMessage)
    (text : Bytes) (taken : SessionState) : Prop :=
  ∃ chained chain served localIdentity remoteIdentity,
    state.Opens limits ours message text chained chain served localIdentity remoteIdentity ∧
      taken = chained.taken served.chain

/-- A state opens a message exactly where it takes it, and then draws what it needs. -/
theorem openMessage_eq_ok {limits : Limits} (address : Address) {trace : Trace}
    {state taken : SessionState} {message : WhisperMessage} {text : Bytes} :
    (∃ later, state.openMessage limits address message trace = (.ok (text, taken), later) ∧
      trace.Continues (state.drawsFor message.ratchetKey) later) ↔
        state.Takes limits trace.nextPair message text taken := by
  constructor
  · rintro ⟨later, gives, _⟩
    exact opens_of_openMessage gives
  · rintro ⟨chained, chain, served, localIdentity, remoteIdentity, opens, rfl⟩
    exact openMessage_of_opens opens

theorem takes_of_openMessage {limits : Limits} {address : Address} {trace later : Trace}
    {state taken : SessionState} {message : WhisperMessage} {text : Bytes}
    (gives : state.openMessage limits address message trace = (.ok (text, taken), later)) :
    state.Takes limits trace.nextPair message text taken ∧
      trace.Continues (state.drawsFor message.ratchetKey) later := by
  have takes : state.Takes limits trace.nextPair message text taken := opens_of_openMessage gives
  obtain ⟨other, same, continues⟩ := (openMessage_eq_ok address).mpr takes
  rw [gives] at same
  cases same
  exact ⟨takes, continues⟩

theorem Takes.established {limits : Limits} {ours : KeyPair} {message : WhisperMessage}
    {text : Bytes} {state taken : SessionState}
    (takes : state.Takes limits ours message text taken) :
    taken.established = true := by
  obtain ⟨chained, chain, served, _, _, opens, rfl⟩ := takes
  exact opens.reached.established opens.established

/-- Whether a state takes a message does not depend on the pair that it would draw. -/
theorem Takes.redrawn {limits : Limits} {message : WhisperMessage} {text : Bytes}
    {state taken : SessionState} {ours : KeyPair}
    (takes : state.Takes limits ours message text taken) (fresh : KeyPair) :
    ∃ other, state.Takes limits fresh message text other := by
  obtain ⟨chained, chain, served, own, remote, opens, rfl⟩ := takes
  cases opens.reached with
  | known present =>
    exact ⟨_, state, chain, served, own, remote, { opens with reached := .known present }, rfl⟩
  | stepped root sender absent rooted sending =>
    refine ⟨_, state.ratchet root sender message.ratchetKey fresh limits.receiverChains, chain,
      served, own, remote, ?_, rfl⟩
    exact ⟨opens.established, opens.version_eq, .stepped root sender absent rooted sending,
      opens.chain_eq, opens.served_eq, opens.remote_eq, opens.local_eq, opens.verifies,
      opens.unsealed⟩

end SessionState

namespace SessionRecord

/-- Of the old states of a record some are archived, in their order. -/
theorem states_promote_sublist (record : SessionRecord) (state : SessionState) (bound : Nat) :
    (record.promote state bound).states.Sublist (state :: record.states) := by
  unfold promote states
  dsimp only
  apply List.Sublist.cons_cons
  split
  · exact List.take_sublist ..
  · exact List.sublist_cons_self ..

theorem mem_states_promote {record : SessionRecord} {state other : SessionState} {bound : Nat}
    (member : other ∈ (record.promote state bound).states) :
    other = state ∨ other ∈ record.states :=
  List.mem_cons.mp ((states_promote_sublist record state bound).subset member)

/-- Promoting keeps the archive within its bound. -/
theorem length_previous_promote_le {record : SessionRecord} {bound : Nat}
    (bounded : record.previous.length ≤ bound) (state : SessionState) :
    (record.promote state bound).previous.length ≤ bound := by
  unfold promote
  dsimp only
  split
  · exact List.length_take_le ..
  · exact bounded

/-- A state that leaves the archive makes room in it for the one that was current. -/
theorem previous_promote_removePrevious {record : SessionRecord} {place bound : Nat}
    (bounded : record.previous.length ≤ bound) (inside : place < record.previous.length)
    (established : record.current.established = true) (state : SessionState) :
    ((record.removePrevious place).promote state bound).previous =
      record.current :: record.previous.eraseIdx place := by
  have room : (record.current :: record.previous.eraseIdx place).length ≤ bound := by
    rw [List.length_cons, List.length_eraseIdx_of_lt inside]
    omega
  change (if record.current.established then
    (record.current :: record.previous.eraseIdx place).take bound
    else record.previous.eraseIdx place) = _
  rw [if_pos established, List.take_of_length_le room]

variable [Suite]

/-- The record after some state of it has opened a message. -/
inductive Opened (limits : Limits) (ours : KeyPair) (record : SessionRecord)
    (message : WhisperMessage) (text : Bytes) : Nat -> SessionRecord -> Prop where
  /-- The current state takes the message and stays where it is. -/
  | current {taken : SessionState}
      (takes : record.current.Takes limits ours message text taken) :
      Opened limits ours record message text (record.current.drawsFor message.ratchetKey)
        { record with current := taken }
  /-- An archived state takes the message and becomes the current one. -/
  | archived {place : Nat} {state taken : SessionState}
      (found : record.previous[place]? = some state)
      (takes : state.Takes limits ours message text taken) :
      Opened limits ours record message text (state.drawsFor message.ratchetKey)
        ((record.removePrevious place).promote taken limits.archivedStates)

variable {limits : Limits} {address : Address} {message : WhisperMessage}

/-- One of the states of a record has opened the message, and is in front as it took it. -/
theorem Opened.taker {ours : KeyPair} {record result : SessionRecord} {text : Bytes}
    {draws : Nat} (opened : record.Opened limits ours message text draws result) :
    ∃ state ∈ record.states, state.Takes limits ours message text result.current := by
  cases opened with
  | current takes => exact ⟨_, List.mem_cons_self, takes⟩
  | archived found takes =>
    exact ⟨_, List.mem_cons_of_mem _ (List.mem_of_getElem? found), takes⟩

/-- Opening loses no state of a record within its bound.  The state that takes the message is
there as it took it, and the others as they were.  Only a current state without a session would
find no way into the archive. -/
theorem Opened.survives {ours : KeyPair} {record result : SessionRecord} {text : Bytes}
    {draws : Nat} (bounded : record.previous.length ≤ limits.archivedStates)
    (opened : record.Opened limits ours message text draws result) {state : SessionState}
    (member : state ∈ record.states)
    (standing : state = record.current → record.previous ≠ [] →
      record.current.established = true) :
    state ∈ result.states ∨
      ∃ taken ∈ result.states, state.Takes limits ours message text taken := by
  cases opened with
  | current takes =>
    rcases List.mem_cons.mp member with rfl | archived
    · exact .inr ⟨_, List.mem_cons_self, takes⟩
    · exact .inl (List.mem_cons_of_mem _ archived)
  | @archived place taker taken found takes =>
    obtain ⟨inside, _⟩ := List.getElem?_eq_some_iff.mp found
    by_cases here : state = taker
    · subst here
      exact .inr ⟨taken, List.mem_cons_self, takes⟩
    · refine .inl (List.mem_cons_of_mem _ ?_)
      have revived := fun established =>
        previous_promote_removePrevious bounded inside established taken
      rcases List.mem_cons.mp member with rfl | archived
      · rw [revived (standing rfl (List.ne_nil_of_length_pos (Nat.zero_lt_of_lt inside)))]
        exact List.mem_cons_self
      · obtain ⟨index, located⟩ := List.mem_iff_getElem?.mp archived
        have apart : index ≠ place := by
          rintro rfl
          exact here (Option.some.inj (located.symm.trans found))
        have left : state ∈ record.previous.eraseIdx place :=
          List.mem_eraseIdx_iff_getElem?.mpr ⟨index, apart, located⟩
        cases established : record.current.established with
        | true =>
          rw [revived established]
          exact List.mem_cons_of_mem _ left
        | false =>
          unfold promote removePrevious
          rw [established]
          exact left

omit [Suite] in
/-- An attempt runs the operation, and at most turns its fault into a value. -/
theorem attempt_snd {α : Type} (operation : Traced α) (trace : Trace) :
    (attempt operation trace).2 = (operation trace).2 := by
  unfold attempt
  rcases operation trace with ⟨fault | value, later⟩
  · cases fault <;> rfl
  · rfl

omit [Suite] in
/-- An attempt gives the value of the operation exactly where the operation gives it. -/
theorem attempt_eq_ok {α : Type} {operation : Traced α} {trace later : Trace} {value : α} :
    attempt operation trace = (.ok (.ok value), later) ↔
      operation trace = (.ok value, later) := by
  unfold attempt
  rcases operation trace with ⟨fault | other, middle⟩
  · constructor
    · intro gives
      cases fault <;> cases gives
    · intro gives
      cases gives
  · constructor
    · intro gives
      cases gives
      rfl
    · intro gives
      cases gives
      rfl

/-- An archived state that was found is in its place and takes the message. -/
theorem openArchived_eq_some {states : List SessionState} {start place : Nat} {text : Bytes}
    {taken : SessionState} {trace later : Trace}
    (gives : openArchived limits address message start states trace =
      (.ok (some (place, text, taken)), later)) :
    ∃ offset state skipped middle, place = start + offset ∧ states[offset]? = some state ∧
      trace.Continues skipped middle ∧
      state.Takes limits middle.nextPair message text taken ∧
      middle.Continues (state.drawsFor message.ratchetKey) later := by
  induction states generalizing start trace with
  | nil => cases gives
  | cons state older ih =>
    unfold openArchived at gives
    obtain ⟨outcome, middle, attempted, gives⟩ := sequence_eq_ok.mp gives
    cases outcome with
    | ok opened =>
      cases gives
      have taking := SessionState.takes_of_openMessage (attempt_eq_ok.mp attempted)
      exact ⟨0, state, 0, trace, rfl, rfl, .refl trace, taking.1, taking.2⟩
    | error fault =>
      obtain ⟨offset, found, skipped, last, place_eq, found_eq, continues, takes, drawn⟩ := ih gives
      obtain ⟨draws, _, first⟩ := SessionState.openMessage_continues limits address state
        message trace
      have reached : (state.openMessage limits address message trace).2 = middle := by
        rw [← attempt_snd, attempted]
      rw [reached] at first
      refine ⟨offset + 1, found, draws + skipped, last, ?_, ?_, first.trans continues, takes, drawn⟩
      · omega
      · exact found_eq

/-- A message that a record has opened was taken by one of its states. -/
theorem opened_of_openMessage {record result : SessionRecord} {text : Bytes}
    {trace later : Trace}
    (gives : record.openMessage limits address message trace = (.ok (text, result), later)) :
    ∃ skipped draws middle, trace.Continues skipped middle ∧
      record.Opened limits middle.nextPair message text draws result ∧
      middle.Continues draws later := by
  unfold openMessage at gives
  obtain ⟨outcome, middle, attempted, gives⟩ := sequence_eq_ok.mp gives
  cases outcome with
  | ok opened =>
    cases gives
    have taking := SessionState.takes_of_openMessage (attempt_eq_ok.mp attempted)
    exact ⟨0, _, trace, .refl trace, .current taking.1, taking.2⟩
  | error fault =>
    obtain ⟨_, reported, report, rest⟩ := sequence_eq_ok.mp gives
    cases report
    obtain ⟨found, last, tried, promoted⟩ := sequence_eq_ok.mp rest
    cases found with
    | none => cases promoted
    | some found =>
      obtain ⟨place, opened, taken⟩ := found
      obtain ⟨offset, state, skipped, before, place_eq, found_eq, continues, takes, drawn⟩ :=
        openArchived_eq_some tried
      rw [Nat.zero_add] at place_eq
      subst place_eq
      obtain ⟨draws, _, first⟩ := SessionState.openMessage_continues limits address
        record.current message trace
      have reached : (record.current.openMessage limits address message trace).2 = middle := by
        rw [← attempt_snd, attempted]
      rw [reached] at first
      cases promoted
      refine ⟨draws + skipped, _, before, first.trans ⟨continues.entropy_eq, continues.drawn_eq⟩,
        .archived found_eq takes, drawn.entropy_eq, drawn.drawn_eq⟩

variable (address) in
/-- Where the current state takes a message, the record opens it. -/
theorem openMessage_of_takes {record : SessionRecord} {text : Bytes} {taken : SessionState}
    {trace : Trace} (takes : record.current.Takes limits trace.nextPair message text taken) :
    ∃ later, record.openMessage limits address message trace =
        (.ok (text, { record with current := taken }), later) ∧
      trace.Continues (record.current.drawsFor message.ratchetKey) later := by
  obtain ⟨later, gives, continues⟩ := (SessionState.openMessage_eq_ok address).mpr takes
  refine ⟨later, ?_, continues⟩
  unfold openMessage
  rw [sequence_of_ok (attempt_eq_ok.mpr gives)]
  rfl

/-- What the current state refuses as invalid is left to the newest archived state. -/
theorem openMessage_of_archived_takes {record : SessionRecord} {state taken : SessionState}
    {older : List SessionState} {text : Bytes} {trace middle : Trace} {fault : MessageFault}
    (refused : record.current.openMessage limits address message trace =
      (.error (.invalid fault), middle))
    (archive : record.previous = state :: older)
    (takes : state.Takes limits middle.nextPair message text taken) :
    ∃ later, record.openMessage limits address message trace =
        (.ok (text, (record.removePrevious 0).promote taken limits.archivedStates), later) ∧
      middle.Continues (state.drawsFor message.ratchetKey) later := by
  have tried : attempt (record.current.openMessage limits address message) trace =
      (.ok (.error fault), middle) := by
    unfold attempt
    rw [refused]
  let reported : Trace := { middle with events := middle.events ++ [.currentRefused fault] }
  have tries : state.Takes limits reported.nextPair message text taken := takes
  obtain ⟨later, gives, continues⟩ := (SessionState.openMessage_eq_ok address).mpr tries
  have found : openArchived limits address message 0 record.previous reported =
      (.ok (some (0, text, taken)), later) := by
    rw [archive]
    unfold openArchived
    rw [sequence_of_ok (attempt_eq_ok.mpr gives)]
    rfl
  unfold openMessage
  rw [sequence_of_ok tried]
  have report : (monadLift (Trace.report (.currentRefused fault)) : Traced Unit) middle =
      (.ok (), reported) := rfl
  dsimp only
  rw [sequence_of_ok report, sequence_of_ok found]
  exact ⟨_, rfl, continues.entropy_eq, continues.drawn_eq⟩

/-- A fault of the current state that is no refusal of the message is final. -/
theorem openMessage_of_duplicate {record : SessionRecord} {trace later : Trace}
    {index counter : UInt32}
    (fails : record.current.openMessage limits address message trace =
      (.error (.duplicate index counter), later)) :
    record.openMessage limits address message trace =
      (.error (.duplicate index counter), later) := by
  unfold openMessage
  apply sequence_of_error
  unfold attempt
  rw [fails]

omit [Suite] in
theorem advancing_attempt {α : Type} {operation : Traced α} (advancing : operation.Advancing) :
    (attempt operation).Advancing := by
  intro trace
  rw [attempt_snd]
  exact advancing trace

theorem advancing_openState (state : SessionState) (message : WhisperMessage) :
    (state.openMessage limits address message).Advancing := by
  intro trace
  obtain ⟨draws, _, continues⟩ := SessionState.openMessage_continues limits address state message
    trace
  exact ⟨draws, continues⟩

theorem advancing_openArchived (start : Nat) (states : List SessionState) :
    (openArchived limits address message start states).Advancing := by
  induction states generalizing start with
  | nil => exact Traced.advancing_lift (.ok none)
  | cons state older ih =>
    unfold openArchived
    apply (advancing_attempt (advancing_openState state message)).bind
    intro outcome
    cases outcome with
    | ok opened => exact Traced.advancing_lift (.ok _)
    | error fault => exact ih (start + 1)

theorem advancing_openMessage (record : SessionRecord) (message : WhisperMessage) :
    (record.openMessage limits address message).Advancing := by
  unfold openMessage
  apply (advancing_attempt (advancing_openState record.current message)).bind
  intro outcome
  cases outcome with
  | ok opened => exact Traced.advancing_lift (.ok _)
  | error fault =>
    apply (Traced.advancing_drawing (Drawing.advancing_report _)).bind
    intro _
    apply (advancing_openArchived 0 record.previous).bind
    intro found
    cases found with
    | none => exact Traced.advancing_lift (.error _)
    | some found =>
      apply (Traced.advancing_drawing _).bind
      · intro promoted
        apply (Traced.advancing_drawing (Drawing.advancing_report _)).bind
        exact fun _ => Traced.advancing_lift (.ok _)
      · exact (Drawing.advancing_reportAll _).bind fun _ => Drawing.advancing_pure _

end SessionRecord
end DoubleRatchet
