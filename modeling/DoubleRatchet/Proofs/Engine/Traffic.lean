import DoubleRatchet.Proofs.Engine.Awaiting
import DoubleRatchet.Proofs.Engine.Records

namespace DoubleRatchet

/-!
# What traffic does to a pending exchange

Sealing and opening messages touches no pending exchange.  Still it can take one out of
the way: a message that an archived state takes puts that state in front, and the state
that was there goes into the archive with what it awaits.  These are the two things that
a message can do to a record, and `Deed.Switches` tells them apart.

Nothing is lost either way.  A reachable record archives a state only within its bound and
has no archive behind a state that was never established, so the state that steps back
finds room in the place that was left.
-/

namespace SessionRecord

variable {limits : Limits} {record result : SessionRecord}

/-- The front awaits what it awaited, and the archive is as it was. -/
structure Keeps (record result : SessionRecord) : Prop where
  pending_eq : result.current.pendingExchange = record.current.pendingExchange
  archive_eq : result.previous = record.previous

theorem Keeps.trans {last : SessionRecord} (first : record.Keeps result)
    (second : result.Keeps last) : record.Keeps last :=
  ⟨second.pending_eq.trans first.pending_eq, second.archive_eq.trans first.archive_eq⟩

/-- Some state of the record holds a pending exchange. -/
def Holds (record : SessionRecord) (pending : PendingExchange) : Prop :=
  ∃ state ∈ record.states, state.pendingExchange = some pending

theorem Keeps.holds {pending : PendingExchange} (keeps : record.Keeps result)
    (holds : record.Holds pending) : result.Holds pending := by
  obtain ⟨state, member, held⟩ := holds
  rcases List.mem_cons.mp member with rfl | archived
  · exact ⟨result.current, List.mem_cons_self, keeps.pending_eq.trans held⟩
  · refine ⟨state, List.mem_cons_of_mem _ ?_, held⟩
    rw [keeps.archive_eq]
    exact archived

/-- The archive is within its bound, and behind an established state. -/
structure Filed (limits : Limits) (record : SessionRecord) : Prop where
  bounded : record.previous.length ≤ limits.archivedStates
  headed : record.Headed

variable [Suite] {ours : KeyPair} {message : WhisperMessage} {text : Bytes} {draws : Nat}

theorem Filed.opened (filed : record.Filed limits)
    (opened : record.Opened limits ours message text draws result) : result.Filed limits := by
  obtain ⟨_, _, front⟩ := opened.taker
  refine ⟨?_, fun _ => front.established⟩
  cases opened with
  | current takes => exact filed.bounded
  | @archived place _ _ found takes =>
    have shorter : (record.removePrevious place).previous.length ≤ limits.archivedStates :=
      Nat.le_trans (List.length_eraseIdx_le ..) filed.bounded
    exact length_previous_promote_le shorter _

/-- Every step in the life of a record keeps its archive in order. -/
theorem invariant_filed (limits : Limits) (versions : UInt8 -> Prop) :
    SessionRecord.Invariant limits versions (Filed limits) where
  new := ⟨Nat.zero_le _, fun archived => absurd rfl archived⟩
  step := by
    intro record result changed filed
    refine ⟨?_, (invariant_headed versions).step changed filed.headed⟩
    cases changed with
    | negotiated spoken negotiated => exact length_previous_promote_le filed.bounded _
    | awaiting pending => exact filed.bounded
    | sealed sending sealing =>
      obtain ⟨_, _, _, _, _, _, _, rfl⟩ := SessionState.sealText_eq_ok sealing
      exact filed.bounded
    | opened opened => exact (filed.opened opened).bounded
    | settled => exact filed.bounded

/-- No message makes a record forget a pending exchange. -/
theorem Filed.holds_opened {pending : PendingExchange} (filed : record.Filed limits)
    (opened : record.Opened limits ours message text draws result)
    (holds : record.Holds pending) : result.Holds pending := by
  obtain ⟨holder, member, held⟩ := holds
  rcases opened.survives filed.bounded member fun _ => filed.headed with
    stays | ⟨taken, inside, takes⟩
  · exact ⟨holder, stays, held⟩
  · exact ⟨taken, inside, takes.pendingExchange_eq.trans held⟩

end SessionRecord

/-! ## Requests -/

/-- The request seals a text for a device, or opens a sealed message from it. -/
def Operation.Talks (limits : Limits) (address : Address) : Operation -> Prop
  | encrypt place _ => place = address
  | decrypt place chosen _ (.whisper _) => place = address ∧ chosen = limits
  | _ => False

/-- The deed is such a request. -/
def Deed.Talks (limits : Limits) (address : Address) : Deed -> Prop
  | asks operation => operation.Talks limits address
  | tends _ => False

theorem Deed.Talks.asks {limits : Limits} {address : Address} {deed : Deed}
    (talks : deed.Talks limits address) : ∃ operation, deed = .asks operation := by
  cases deed with
  | asks operation => exact ⟨operation, rfl⟩
  | tends chore => exact talks.elim

variable [Suite]

/-- The deed opens a message by an archived state, which is in front from then on. -/
def Deed.Switches (host : Host) (address : Address) (deed : Deed) : Prop :=
  ∃ limits callback message record place state ours text taken,
    deed = .asks (.decrypt address limits callback (.whisper message)) ∧
      host.store.loadSession address = .ok record ∧ record.previous[place]? = some state ∧
      state.Takes limits ours message text taken ∧
      (host.act deed).store.loadSession address =
        .ok ((record.removePrevious place).promote taken limits.archivedStates).settled

/-- Some deed of a history does so. -/
def Host.Switched (host : Host) (address : Address) (deeds : List Deed) : Prop :=
  ∃ before deed later, deeds = before ++ deed :: later ∧
    deed.Switches (host.through before) address

/-- What traffic makes of the record of a device: the front and the archive stay, or an
archived state takes a message. -/
inductive Deed.Moves (limits : Limits) (host : Host) (address : Address) (deed : Deed)
    (record : SessionRecord) : SessionRecord -> Prop where
  | kept {result : SessionRecord} (keeps : record.Keeps result)
      (standing : record.current.established = true → result.current.established = true) :
      Moves limits host address deed record result
  | switched {ours : KeyPair} {message : WhisperMessage} {text : Bytes} {draws : Nat}
      {result : SessionRecord} (switches : deed.Switches host address)
      (opened : record.Opened limits ours message text draws result)
      (backed : record.previous ≠ []) :
      Moves limits host address deed record result.settled

namespace Host

variable {limits : Limits} {host : Host} {address : Address} {record : SessionRecord}
  {pending : PendingExchange}

/-- One request, successful or not. -/
theorem moves_talks (permissive : host.Permissive)
    (load : host.store.loadSession address = .ok record) {deed : Deed}
    (talks : deed.Talks limits address) :
    ∃ result, (host.act deed).store.loadSession address = .ok result ∧
      deed.Moves limits host address record result := by
  cases deed with
  | tends chore => exact talks.elim
  | asks operation =>
    rcases performed : host.perform operation.run with ⟨fault | reply, after⟩
    · rw [act_asks performed, (Operation.untouched_of_failed permissive performed).store_eq]
      exact ⟨record, load, .kept ⟨rfl, rfl⟩ id⟩
    · cases Operation.done_of_performed permissive performed with
      | encrypt loaded sending sealing becomes =>
        cases talks
        cases load.symm.trans loaded
        obtain ⟨_, _, _, _, _, _, _, rfl⟩ := SessionState.sealText_eq_ok sealing
        rw [act_asks performed, becomes.store_eq]
        exact ⟨_, Store.loadSession_storeSession_self .., .kept ⟨rfl, rfl⟩ fun _ => rfl⟩
      | @whisper place _ callback message text _ result _ _ _ _ loaded before opened known trusted
          becomes =>
        obtain ⟨rfl, rfl⟩ := talks
        cases load.symm.trans loaded
        have stored := Store.loadSession_storeSession_self host.store place result
        rw [← becomes.store_eq, ← act_asks performed] at stored
        refine ⟨_, stored, ?_⟩
        cases opened with
        | current takes =>
          exact .kept ⟨takes.pendingExchange_eq, rfl⟩ fun _ => takes.established
        | archived found takes =>
          refine .switched ⟨_, callback, message, record, _, _, _, text, _, rfl, load, found, takes,
            stored⟩ (.archived found takes) ?_
          intro empty
          rw [empty] at found
          cases found
      | processBundle => exact talks.elim
      | initiate => exact talks.elim
      | processExchange => exact talks.elim
      | preKeyWhisper => exact talks.elim
      | endSession => exact talks.elim

/-- A run that puts no archived state in front leaves in front what was pending there. -/
theorem keeps_through (permissive : host.Permissive)
    (load : host.store.loadSession address = .ok record) {deeds : List Deed}
    (talks : ∀ deed ∈ deeds, deed.Talks limits address)
    (unswitched : ¬ host.Switched address deeds) :
    ∃ result, (host.through deeds).store.loadSession address = .ok result ∧
      record.Keeps result := by
  induction deeds generalizing host record with
  | nil => exact ⟨record, load, rfl, rfl⟩
  | cons deed deeds ih =>
    obtain ⟨middle, loaded, moves⟩ := moves_talks permissive load (talks deed List.mem_cons_self)
    have rest : ¬ (host.act deed).Switched address deeds := by
      rintro ⟨before, other, later, rfl, switches⟩
      exact unswitched ⟨deed :: before, other, later, rfl, switches⟩
    obtain ⟨result, last, keeps⟩ := ih (permissive_act permissive deed) loaded
      (fun other member => talks other (List.mem_cons_of_mem _ member)) rest
    cases moves with
    | kept first => exact ⟨result, last, first.trans keeps⟩
    | switched switches => exact absurd ⟨[], deed, deeds, rfl, switches⟩ unswitched

/-- Where nothing is archived, nothing is put in front. -/
theorem not_switched_of_unarchived (permissive : host.Permissive)
    (load : host.store.loadSession address = .ok record) (alone : record.previous = [])
    {deeds : List Deed} (talks : ∀ deed ∈ deeds, deed.Talks limits address) :
    ¬ host.Switched address deeds := by
  induction deeds generalizing host record with
  | nil =>
    rintro ⟨before, deed, later, split, _⟩
    exact List.append_ne_nil_of_right_ne_nil before (List.cons_ne_nil deed later) split.symm
  | cons deed deeds ih =>
    obtain ⟨middle, loaded, moves⟩ := moves_talks permissive load (talks deed List.mem_cons_self)
    have still : middle.previous = [] := by
      cases moves with
      | kept keeps => exact keeps.archive_eq.trans alone
      | switched switches opened backed => exact absurd alone backed
    rintro ⟨before, other, later, split, switches⟩
    cases before with
    | nil =>
      cases split
      obtain ⟨_, _, _, found, place, state, _, _, _, _, also, archived, _⟩ := switches
      cases load.symm.trans also
      rw [alone] at archived
      cases archived
    | cons first before =>
      cases split
      exact ih (permissive_act permissive deed) loaded still
        (fun other member => talks other (List.mem_cons_of_mem _ member))
        ⟨before, other, later, rfl, switches⟩

/-- No run of messages makes a record forget a pending exchange. -/
theorem holds_through (permissive : host.Permissive)
    (load : host.store.loadSession address = .ok record) (filed : record.Filed limits)
    (holds : record.Holds pending) {deeds : List Deed}
    (talks : ∀ deed ∈ deeds, deed.Talks limits address) :
    ∃ result, (host.through deeds).store.loadSession address = .ok result ∧
      result.Holds pending := by
  induction deeds generalizing host record with
  | nil => exact ⟨record, load, holds⟩
  | cons deed deeds ih =>
    obtain ⟨middle, loaded, moves⟩ := moves_talks permissive load (talks deed List.mem_cons_self)
    have kept : middle.Filed limits ∧ middle.Holds pending := by
      cases moves with
      | kept keeps standing =>
        refine ⟨⟨?_, fun archived => standing (filed.headed ?_)⟩, keeps.holds holds⟩
        · rw [keeps.archive_eq]
          exact filed.bounded
        · rw [← keeps.archive_eq]
          exact archived
      | switched switches opened backed =>
        have left := filed.opened opened
        have held := filed.holds_opened opened holds
        exact ⟨⟨left.bounded, left.headed⟩, held⟩
    exact ih (permissive_act permissive deed) loaded kept.1 kept.2
      fun other member => talks other (List.mem_cons_of_mem _ member)

end Host
end DoubleRatchet
