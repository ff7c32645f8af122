import DoubleRatchet.Proofs.Session.Verdict

namespace DoubleRatchet

/-!
# The state that decides about a message

The states of a record are tried in their order, and the first that does not decline the
message decides what becomes of it.  Its fault is the fault of the record, and if it takes
the message, it is brought forward as it took it.  Which state decides is known from the
verdicts of the states alone, before any of them is tried.
-/

namespace SessionRecord

/-- The record with the state at a place in front, as it is now.  The current state stays where
it is, and an archived one is promoted out of the archive. -/
def bringForward (record : SessionRecord) (bound : Nat) (taken : SessionState) :
    (place : Nat) -> SessionRecord
  | 0 => { record with current := taken }
  | place + 1 => (record.removePrevious place).promote taken bound

variable [Suite] {limits : Limits} {message : WhisperMessage} {record result : SessionRecord}
  {state : SessionState} {before after : List SessionState}

/-- Archived states that decline are passed over. -/
theorem openArchived_append (address : Address)
    (declined : ∀ state ∈ before, state.declines limits message = true)
    (rest : List SessionState) (start : Nat) (trace : Trace) :
    ∃ draws later, trace.Continues draws later ∧
      openArchived limits address message start (before ++ rest) trace =
        openArchived limits address message (start + before.length) rest later := by
  induction before generalizing start trace with
  | nil => exact ⟨0, trace, .refl trace, rfl⟩
  | cons first before ih =>
    obtain ⟨fault, draws, middle, attempted, early⟩ :=
      attempt_of_declines address (declined first List.mem_cons_self) trace
    obtain ⟨more, later, late, passed⟩ :=
      ih (fun state member => declined state (List.mem_cons_of_mem _ member)) (start + 1) middle
    have tried : openArchived limits address message start (first :: (before ++ rest)) trace =
        openArchived limits address message (start + 1) (before ++ rest) middle :=
      sequence_of_ok attempted _
    have place : start + 1 + before.length = start + (before.length + 1) := by omega
    refine ⟨draws + more, later, early.trans late, ?_⟩
    rw [List.cons_append, tried, passed, place, List.length_cons]

/-- A current state that declines leaves the message to the archive. -/
theorem openMessage_of_declines (address : Address)
    (declines : record.current.declines limits message = true) (trace : Trace) :
    ∃ draws later, trace.Continues draws later ∧
      record.openMessage limits address message trace =
        (do
          match ← openArchived limits address message 0 record.previous with
          | none => throw (.invalid .noValidSession)
          | some (place, text, taken) =>
            let record ← Establishment.promote (record.removePrevious place) taken limits
            Trace.report (.archivedPromoted place address)
            return (text, record) : Traced (Bytes × SessionRecord)) later := by
  obtain ⟨fault, draws, middle, attempted, early⟩ := attempt_of_declines address declines trace
  refine ⟨draws, { middle with events := middle.events ++ [.currentRefused fault] },
    ⟨early.entropy_eq, early.drawn_eq⟩, ?_⟩
  unfold openMessage
  rw [sequence_of_ok attempted]
  rfl

/-- Where all states decline, there is no session for the message. -/
theorem openMessage_of_all_decline (address : Address)
    (declined : ∀ state ∈ record.states, state.declines limits message = true) (trace : Trace) :
    ∃ later, record.openMessage limits address message trace =
      (.error (.invalid .noValidSession), later) := by
  obtain ⟨_, middle, _, left⟩ :=
    openMessage_of_declines address (declined _ List.mem_cons_self) trace
  obtain ⟨_, later, _, passed⟩ := openArchived_append address
    (fun state member => declined state (List.mem_cons_of_mem _ member)) [] 0 middle
  rw [List.append_nil] at passed
  refine ⟨later, ?_⟩
  rw [left, sequence_eq, passed]
  rfl

/-- The fault of the first state that does not decline is the fault of the record. -/
theorem openMessage_of_refuses (address : Address) {fault : Fault}
    (states_eq : record.states = before ++ state :: after)
    (declined : ∀ state ∈ before, state.declines limits message = true)
    (decides : state.declines limits message = false)
    (refuses : state.verdict limits message = .error fault) (trace : Trace) :
    ∃ later, record.openMessage limits address message trace = (.error fault, later) := by
  cases before with
  | nil =>
    obtain ⟨rfl, rfl⟩ := List.cons.inj states_eq
    obtain ⟨later, attempted⟩ := attempt_of_refuses address decides refuses trace
    refine ⟨later, ?_⟩
    unfold openMessage
    exact sequence_of_error attempted _
  | cons first before =>
    obtain ⟨rfl, archive⟩ := List.cons.inj states_eq
    change record.previous = before ++ state :: after at archive
    obtain ⟨_, middle, _, left⟩ :=
      openMessage_of_declines address (declined _ List.mem_cons_self) trace
    obtain ⟨_, reached, _, passed⟩ := openArchived_append address
      (fun state member => declined state (List.mem_cons_of_mem _ member)) (state :: after) 0 middle
    obtain ⟨later, attempted⟩ := attempt_of_refuses address decides refuses reached
    have found : openArchived limits address message 0 record.previous middle =
        (.error fault, later) := by
      rw [archive]
      apply passed.trans
      unfold openArchived
      exact sequence_of_error attempted _
    refine ⟨later, ?_⟩
    rw [left]
    exact sequence_of_error found _

/-- The first state that does not decline is brought forward as it takes the message. -/
theorem openMessage_of_accepts (address : Address) {text : Bytes}
    (states_eq : record.states = before ++ state :: after)
    (declined : ∀ state ∈ before, state.declines limits message = true)
    (accepts : state.verdict limits message = .ok text) (trace : Trace) :
    ∃ skipped turn between taken later, trace.Continues skipped turn ∧
      state.openMessage limits address message turn = (.ok (text, taken), between) ∧
      record.openMessage limits address message trace =
        (.ok (text, record.bringForward limits.archivedStates taken before.length), later) := by
  cases before with
  | nil =>
    obtain ⟨rfl, rfl⟩ := List.cons.inj states_eq
    obtain ⟨taken, later, opens⟩ := SessionState.openMessage_of_verdict_ok address accepts trace
    refine ⟨0, trace, later, taken, later, .refl trace, opens, ?_⟩
    unfold openMessage
    rw [sequence_of_ok (attempt_eq_ok.mpr opens)]
    rfl
  | cons first before =>
    obtain ⟨rfl, archive⟩ := List.cons.inj states_eq
    change record.previous = before ++ state :: after at archive
    obtain ⟨draws, middle, early, left⟩ :=
      openMessage_of_declines address (declined _ List.mem_cons_self) trace
    obtain ⟨more, reached, late, passed⟩ := openArchived_append address
      (fun state member => declined state (List.mem_cons_of_mem _ member)) (state :: after) 0 middle
    obtain ⟨taken, between, opens⟩ :=
      SessionState.openMessage_of_verdict_ok address accepts reached
    have found : openArchived limits address message 0 record.previous middle =
        (.ok (some (before.length, text, taken)), between) := by
      rw [archive]
      apply passed.trans
      unfold openArchived
      rw [sequence_of_ok (attempt_eq_ok.mpr opens), Nat.zero_add]
      rfl
    have opened : ∃ later, record.openMessage limits address message trace =
        (.ok (text, (record.removePrevious before.length).promote taken limits.archivedStates),
          later) := by
      rw [left, sequence_of_ok found]
      exact ⟨_, rfl⟩
    obtain ⟨later, gives⟩ := opened
    exact ⟨draws + more, reached, between, taken, later, early.trans late, opens, gives⟩

/-! ## The state that decides -/

/-- The place of the first state that does not decline the message. -/
def decider? (limits : Limits) (message : WhisperMessage) (record : SessionRecord) : Option Nat :=
  record.states.findIdx? fun state => !state.declines limits message

/-- A current state that accepts the message decides about it. -/
theorem decider?_of_current {text : Bytes}
    (accepts : record.current.verdict limits message = .ok text) :
    record.decider? limits message = some 0 := by
  have decides : record.current.declines limits message = false := by
    unfold SessionState.declines
    rw [accepts]
  unfold decider? states
  rw [List.findIdx?_cons, decides]
  rfl

theorem declined_of_decider?_eq_none (none : record.decider? limits message = none) :
    ∀ state ∈ record.states, state.declines limits message = true := by
  intro state member
  have declined := List.findIdx?_eq_none_iff.mp none state member
  simpa using declined

theorem split_of_decider?_eq_some {place : Nat}
    (found : record.decider? limits message = some place) :
    ∃ before state after, record.states = before ++ state :: after ∧ before.length = place ∧
      (∀ state ∈ before, state.declines limits message = true) ∧
      state.declines limits message = false := by
  obtain ⟨inside, decides, declined⟩ := List.findIdx?_eq_some_iff_getElem.mp found
  refine ⟨record.states.take place, record.states[place], record.states.drop (place + 1), ?_, ?_,
    ?_, by simpa using decides⟩
  · rw [List.getElem_cons_drop, List.take_append_drop]
  · exact List.length_take_of_le (Nat.le_of_lt inside)
  · intro state member
    obtain ⟨index, below, rfl⟩ := List.mem_take_iff_getElem.mp member
    have passed := declined index (by omega)
    simpa using passed

/-- A message that a record has opened was taken by the state that decides, which is brought
forward. -/
theorem decider_of_openMessage {address : Address} {text : Bytes} {trace later : Trace}
    (gives : record.openMessage limits address message trace = (.ok (text, result), later)) :
    ∃ place state ours taken, record.decider? limits message = some place ∧
      record.states[place]? = some state ∧ state.Takes limits ours message text taken ∧
      result = record.bringForward limits.archivedStates taken place := by
  cases found : record.decider? limits message with
  | none =>
    obtain ⟨_, fails⟩ :=
      openMessage_of_all_decline address (declined_of_decider?_eq_none found) trace
    cases gives.symm.trans fails
  | some place =>
    obtain ⟨before, state, after, states_eq, rfl, declined, decides⟩ :=
      split_of_decider?_eq_some found
    cases verdict : state.verdict limits message with
    | error fault =>
      obtain ⟨_, fails⟩ := openMessage_of_refuses address states_eq declined decides verdict trace
      cases gives.symm.trans fails
    | ok read =>
      obtain ⟨_, turn, _, taken, _, _, opens, opened⟩ :=
        openMessage_of_accepts address states_eq declined verdict trace
      cases gives.symm.trans opened
      refine ⟨_, state, _, taken, rfl, ?_, (SessionState.takes_of_openMessage opens).1, rfl⟩
      rw [states_eq, List.getElem?_append_right (Nat.le_refl _), Nat.sub_self]
      rfl

/-- A record that fails to open a message has found no state for it, or fails as one of its states
does. -/
theorem fault_of_openMessage {address : Address} {fault : Fault} {trace later : Trace}
    (fails : record.openMessage limits address message trace = (.error fault, later)) :
    fault = .invalid .noValidSession ∨
      ∃ state ∈ record.states, state.verdict limits message = .error fault := by
  cases found : record.decider? limits message with
  | none =>
    obtain ⟨_, other⟩ :=
      openMessage_of_all_decline address (declined_of_decider?_eq_none found) trace
    cases fails.symm.trans other
    exact .inl rfl
  | some place =>
    obtain ⟨before, state, after, states_eq, _, declined, decides⟩ :=
      split_of_decider?_eq_some found
    have member : state ∈ record.states := by
      rw [states_eq]
      exact List.mem_append_right _ List.mem_cons_self
    cases verdict : state.verdict limits message with
    | error reason =>
      obtain ⟨_, other⟩ := openMessage_of_refuses address states_eq declined decides verdict trace
      cases fails.symm.trans other
      exact .inr ⟨state, member, verdict⟩
    | ok text =>
      obtain ⟨_, _, _, _, _, _, _, opened⟩ :=
        openMessage_of_accepts address states_eq declined verdict trace
      cases fails.symm.trans opened

end SessionRecord
end DoubleRatchet
