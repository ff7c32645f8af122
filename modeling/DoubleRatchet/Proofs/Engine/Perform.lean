import DoubleRatchet.Proofs.Engine.Draws
import DoubleRatchet.Transport

namespace DoubleRatchet

/-!
# What one step of an operation does to its host

Every call of the host and every way of lifting an operation into the engine gets
one equation about `Host.perform`, for a host that refuses nothing.  Sequences are
taken apart as in any other world, and the facts about them are repeated here in
the words of `Host.perform`.
-/

namespace Host

variable {α β : Type}

/-- A host that refuses no call. -/
def Permissive (host : Host) : Prop :=
  ∀ call, host.refusal call = none

theorem permissive_start (store : Store) (entropy : Nat -> Octets 32) :
    (start store entropy).Permissive :=
  fun _ => rfl

theorem perform_bind_eq_ok {host after : Host} {operation : Engine α} {next : α -> Engine β}
    {result : β} :
    host.perform (operation >>= next) = (.ok result, after) ↔
      ∃ value middle, host.perform operation = (.ok value, middle) ∧
        middle.perform (next value) = (.ok result, after) :=
  sequence_eq_ok

theorem perform_bind_eq_error {host after : Host} {operation : Engine α}
    {next : α -> Engine β} {fault : Fault} :
    host.perform (operation >>= next) = (.error fault, after) ↔
      host.perform operation = (.error fault, after) ∨
        ∃ value middle, host.perform operation = (.ok value, middle) ∧
          middle.perform (next value) = (.error fault, after) :=
  sequence_eq_error

theorem perform_bind_of_ok {host middle : Host} {operation : Engine α} {value : α}
    (gives : host.perform operation = (.ok value, middle)) (next : α -> Engine β) :
    host.perform (operation >>= next) = middle.perform (next value) :=
  sequence_of_ok gives next

theorem perform_bind_of_error {host middle : Host} {operation : Engine α} {fault : Fault}
    (fails : host.perform operation = (.error fault, middle)) (next : α -> Engine β) :
    host.perform (operation >>= next) = (.error fault, middle) :=
  sequence_of_error fails next

@[simp] theorem perform_pure (host : Host) (value : α) :
    host.perform (pure value) = (.ok value, host) :=
  rfl

@[simp] theorem perform_throw (host : Host) (fault : Fault) :
    host.perform (throw fault : Engine α) = (.error fault, host) :=
  rfl

/-- A drawing leaves everything but the trace alone. -/
theorem perform_drawing (host : Host) (operation : Drawing α) :
    host.perform (monadLift operation : Engine α) =
      (.ok (operation host.trace).1, { host with trace := (operation host.trace).2 }) :=
  rfl

/-- A traced operation leaves everything but the trace alone. -/
theorem perform_traced (host : Host) (operation : Traced α) :
    host.perform (monadLift operation : Engine α) =
      ((operation host.trace).1, { host with trace := (operation host.trace).2 }) :=
  rfl

theorem perform_traced_eq_ok {host after : Host} {operation : Traced α} {value : α} :
    host.perform (monadLift operation : Engine α) = (.ok value, after) ↔
      ∃ later, operation host.trace = (.ok value, later) ∧
        after = { host with trace := later } := by
  rw [perform_traced]
  constructor
  · intro gives
    obtain ⟨value_eq, rfl⟩ := Prod.mk.inj gives
    exact ⟨_, Prod.ext value_eq rfl, rfl⟩
  · rintro ⟨later, gives, rfl⟩
    rw [gives]

/-- A pure computation leaves the host alone. -/
theorem perform_except (host : Host) (result : Except Fault α) :
    host.perform (monadLift result : Engine α) = (result, host) :=
  rfl

theorem perform_except_eq_ok {host after : Host} {result : Except Fault α} {value : α} :
    host.perform (monadLift result : Engine α) = (.ok value, after) ↔
      result = .ok value ∧ host = after := by
  rw [perform_except, Prod.mk.injEq]

theorem perform_present (host : Host) : host.perform present = (.ok host, host) :=
  rfl

theorem perform_update (host : Host) (changed : Host -> Host) :
    host.perform (update changed) = (.ok (), changed host) :=
  rfl

/-- What an operation gives may be forgotten. -/
theorem perform_discard_of_ok {host after : Host} {operation : Engine α} {value : α}
    (gives : host.perform operation = (.ok value, after)) :
    host.perform (discard operation) = (.ok (), after) := by
  have same : (discard operation : Engine Unit) = operation >>= fun _ => pure () := rfl
  rw [same, perform_bind_of_ok gives, perform_pure]

section Permissive

variable {host : Host} (permissive : host.Permissive)
include permissive

theorem perform_permit (call : StoreCall) : host.perform (permit call) = (.ok (), host) := by
  simp only [perform, permit, ExceptT.run]
  rw [permissive call]

/-- A reading call answers from the store. -/
theorem perform_ask (call : StoreCall) (answer : Store -> Except Fault α) :
    host.perform (ask call answer) = (answer host.store, host) := by
  unfold ask
  rw [perform_bind_of_ok (perform_permit permissive call),
    perform_bind_of_ok (perform_present host)]
  rfl

/-- A writing call changes the store and nothing else. -/
theorem perform_change (call : StoreCall) (changed : Store -> Store) :
    host.perform (change call changed) =
      (.ok (), { host with store := changed host.store }) := by
  unfold change
  rw [perform_bind_of_ok (perform_permit permissive call), perform_update]

theorem perform_identityKeyPair :
    host.perform identityKeyPair = (.ok host.store.identity, host) :=
  perform_ask permissive _ _

theorem perform_localRegistrationId :
    host.perform localRegistrationId = (.ok host.store.registrationId, host) :=
  perform_ask permissive _ _

theorem perform_isTrustedIdentity (name : String) (identity : IdentityKey) :
    host.perform (isTrustedIdentity name identity) =
      (.ok (host.store.trusts name identity), host) :=
  perform_ask permissive _ _

theorem perform_loadPreKey (id : UInt32) :
    host.perform (loadPreKey id) = (host.store.loadPreKey id, host) :=
  perform_ask permissive _ _

theorem perform_containsPreKey (id : UInt32) :
    host.perform (containsPreKey id) = (.ok (host.store.preKeys.contains id), host) :=
  perform_ask permissive _ _

theorem perform_loadSignedPreKey (id : UInt32) :
    host.perform (loadSignedPreKey id) = (host.store.loadSignedPreKey id, host) :=
  perform_ask permissive _ _

theorem perform_loadSession (address : Address) :
    host.perform (loadSession address) = (host.store.loadSession address, host) :=
  perform_ask permissive _ _

theorem perform_containsSession (address : Address) :
    host.perform (containsSession address) = (host.store.containsSession address, host) :=
  perform_ask permissive _ _

theorem perform_storeSession (address : Address) (record : SessionRecord) :
    host.perform (storeSession address record) =
      (.ok (), { host with store := host.store.storeSession address record }) :=
  perform_change permissive _ _

theorem perform_removePreKey (id : UInt32) :
    host.perform (removePreKey id) =
      (.ok (), { host with store := host.store.removePreKey id }) :=
  perform_change permissive _ _

/-- Pinning an identity changes the pins and, at most, reports the change. -/
theorem perform_saveIdentity (name : String) (identity : IdentityKey) :
    ∃ replaced events, host.perform (saveIdentity name identity) =
      (.ok replaced, { host with
        store := host.store.pin name identity
        trace := { host.trace with events := events } }) := by
  unfold saveIdentity
  rw [perform_bind_of_ok (perform_permit permissive _),
    perform_bind_of_ok (perform_present host), perform_bind_of_ok (perform_update host _)]
  cases host.store.replacedByPin name identity with
  | some old =>
    rw [perform_bind_of_ok (perform_drawing _ _), perform_pure]
    exact ⟨_, _, rfl⟩
  | none => exact ⟨_, host.trace.events, rfl⟩

theorem perform_pinning (name : String) (identity : IdentityKey) :
    ∃ events, host.perform (discard (saveIdentity name identity)) =
      (.ok (), { host with
        store := host.store.pin name identity
        trace := { host.trace with events := events } }) := by
  obtain ⟨replaced, events, pinned⟩ := perform_saveIdentity permissive name identity
  exact ⟨events, perform_discard_of_ok pinned⟩

end Permissive

/-- A report changes the events and nothing else. -/
theorem perform_report (host : Host) (event : Event) :
    host.perform (monadLift (Trace.report event) : Engine Unit) =
      (.ok (), { host with trace :=
        { host.trace with events := host.trace.events ++ [event] } }) :=
  rfl

/-- Offering a plaintext gives what the callback gives. -/
theorem perform_offer (host : Host) (plaintext : Bytes) (callback : Bytes -> Except Fault Unit) :
    host.perform (offer plaintext callback) =
      (callback plaintext, { host with offered := some plaintext }) := by
  unfold offer
  rw [perform_bind_of_ok (perform_update host _)]
  rfl

end Host
end DoubleRatchet
