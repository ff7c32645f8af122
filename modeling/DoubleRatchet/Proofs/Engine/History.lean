import DoubleRatchet.Proofs.Engine.Outcome
import DoubleRatchet.Proofs.Engine.Reachable

namespace DoubleRatchet

/-!
# What a host goes through

Between two requests to the engine a host may look after its store on its own: it pins
identities, hands out pre-keys and forgets sessions.  The history of a host is a list of
such deeds in order.  A request that fails is part of it like any other, and leaves the
store as it was.
-/

/-- What happens to a host. -/
inductive Deed where
  /-- The host asks something of the engine. -/
  | asks (operation : Operation)
  /-- The host looks after its store. -/
  | tends (chore : Chore)

/-! ## Readable records -/

/-- Every record can be read. -/
def Store.Readable (store : Store) : Prop :=
  ∀ address, ∃ record, store.loadSession address = .ok record

namespace Store

variable {store other : Store} {address : Address}

theorem readable_of_empty (empty : store.sessions = .empty) : store.Readable :=
  fun address => ⟨.new, loadSession_of_empty empty address⟩

/-- Records can be read after one of them was stored. -/
theorem Readable.stored (readable : store.Readable) {record : SessionRecord}
    (stored : other.sessions = (store.storeSession address record).sessions) :
    other.Readable := by
  intro place
  rw [loadSession_of_sessions_eq stored]
  by_cases here : place = address
  · subst here
    exact ⟨_, loadSession_storeSession_self ..⟩
  · rw [loadSession_storeSession_of_ne here]
    exact readable place

end Store

/-- After a request that succeeds records can be read as before. -/
theorem Operation.Done.readable [Suite] {host after : Host} {operation : Operation} {reply : Reply}
    (done : operation.Done host after reply) (readable : host.store.Readable) :
    after.store.Readable := by
  cases done with
  | processBundle trusted offered load becomes =>
    rw [becomes.store_eq]
    exact readable.stored rfl
  | initiate load becomes =>
    rw [becomes.store_eq]
    exact readable.stored rfl
  | processExchange trusted exchanged becomes =>
    rw [becomes.store_eq]
    cases exchanged with
    | answered => exact readable.stored rfl
    | completed => exact readable.stored rfl
    | passed => exact readable
  | encrypt load sending sealing becomes =>
    rw [becomes.store_eq]
    exact readable.stored rfl
  | whisper load before opened known trusted becomes =>
    rw [becomes.store_eq]
    exact readable.stored rfl
  | @preKeyWhisper address _ _ message _ _ _ _ used _ _ _ _ load sender accepts before opened
      known trusted becomes =>
    rw [becomes.store_eq]
    apply readable.stored
    unfold Store.storeSession
    rw [Store.sessions_settle host.store address.name message.identity used]
  | endSession becomes =>
    intro place
    rw [becomes.store_eq, Store.loadSession_deleteSessions]
    split
    · exact ⟨_, rfl⟩
    · exact readable place

namespace Host

variable [Suite] {host : Host}

/-- The host after a deed, whatever the engine has answered. -/
def act (host : Host) : Deed -> Host
  | .asks operation => (host.perform operation.run).2
  | .tends chore => { host with store := chore.apply host.store }

/-- The host after some deeds. -/
def through (host : Host) (deeds : List Deed) : Host :=
  deeds.foldl act host

theorem through_append (host : Host) (deeds more : List Deed) :
    host.through (deeds ++ more) = (host.through deeds).through more :=
  List.foldl_append ..

theorem through_concat (host : Host) (deeds : List Deed) (deed : Deed) :
    host.through (deeds ++ [deed]) = (host.through deeds).act deed :=
  host.through_append deeds [deed]

theorem act_asks {after : Host} {operation : Operation} {result : Except Fault Reply}
    (performed : host.perform operation.run = (result, after)) :
    host.act (.asks operation) = after :=
  congrArg Prod.snd performed

/-- A request was in vain and has left the store alone, or it succeeded in one of the ways
that there are. -/
theorem act_asks_cases (permissive : host.Permissive) (operation : Operation) :
    host.Untouched (host.act (.asks operation)) ∨
      ∃ reply, operation.Done host (host.act (.asks operation)) reply := by
  rcases performed : host.perform operation.run with ⟨fault | reply, after⟩
  · rw [act_asks performed]
    exact .inl (Operation.untouched_of_failed permissive performed)
  · rw [act_asks performed]
    exact .inr ⟨reply, Operation.done_of_performed permissive performed⟩

theorem permissive_act (permissive : host.Permissive) (deed : Deed) :
    (host.act deed).Permissive := by
  cases deed with
  | tends chore => exact permissive
  | asks operation =>
    rcases act_asks_cases permissive operation with untouched | ⟨reply, done⟩
    · exact untouched.permissive permissive
    · intro call
      rw [done.refusal_eq]
      exact permissive call

theorem permissive_through (permissive : host.Permissive) (deeds : List Deed) :
    (host.through deeds).Permissive := by
  induction deeds generalizing host with
  | nil => exact permissive
  | cons deed deeds ih => exact ih (permissive_act permissive deed)

/-- What every deed keeps holds after all deeds. -/
theorem through_induction {holds : Store -> Prop} (permissive : host.Permissive)
    (start : holds host.store)
    (kept : ∀ {host : Host} (deed : Deed), host.Permissive → holds host.store →
      holds (host.act deed).store) (deeds : List Deed) :
    holds (host.through deeds).store := by
  induction deeds generalizing host with
  | nil => exact start
  | cons deed deeds ih => exact ih (permissive_act permissive deed) (kept deed permissive start)

/-- Whatever a host goes through, its records can be read. -/
theorem readable_through (permissive : host.Permissive) (readable : host.store.Readable)
    (deeds : List Deed) : (host.through deeds).store.Readable := by
  apply through_induction permissive readable
  intro host deed permissive readable
  cases deed with
  | asks operation =>
    rcases act_asks_cases permissive operation with untouched | ⟨reply, done⟩
    · rw [untouched.store_eq]
      exact readable
    · exact done.readable readable
  | tends chore =>
    intro address
    rcases Chore.loadSession_apply host.store chore address with same | fresh
    · obtain ⟨record, load⟩ := readable address
      exact ⟨record, same.trans load⟩
    · exact ⟨.new, fresh⟩

end Host
end DoubleRatchet
