import Mathlib.Data.List.Flatten
import Mathlib.Data.List.Perm.Subperm
import DoubleRatchet.Proofs.Session.Receivers

namespace DoubleRatchet

/-!
# The keys that a record may still send on

A state that has received goes on sending on its sender chain whenever it is
current, so that chain is its voice for good.  A state that has not received yet
has a sender chain as well, but only for as long as it stays current: once it is
archived, the one way back is to take a message, and the first message that it
takes brings it a chain of a fresh pair.  Such a chain is called the opener of
the state.

A pending exchange holds a ratchet pair that may become the pair of an opener.
Apart from openers, then, the keys of a record are those of the voices and of the
pending exchanges of its states, and no operation makes two of one: `Renewed` says
how the keys of a record come from those before and from fresh ones.
-/

/-- The public key that a sender chain sends on. -/
abbrev SenderChain.key (chain : SenderChain) : PublicKey :=
  chain.ratchetKey.publicKey

namespace SessionState

/-- The sender chain of a state that has received. -/
def voice (state : SessionState) : Option SenderChain :=
  if state.receivers.isEmpty then none else state.sender

/-- The sender chain of a state that has not received. -/
def opener (state : SessionState) : Option SenderChain :=
  if state.receivers.isEmpty then state.sender else none

/-- The public half of the ratchet pair that a pending exchange holds. -/
def pendingKey (state : SessionState) : Option PublicKey :=
  state.pendingExchange.map fun pending => pending.ratchetKey.publicKey

/-- The keys that the state may send on after it was archived and came back, or that a
key exchange may take from it. -/
def keys (state : SessionState) : List PublicKey :=
  (state.voice.map SenderChain.key).toList ++ state.pendingKey.toList

variable {state : SessionState} {chain : SenderChain}

theorem key_mem_keys (speaking : state.voice = some chain) :
    chain.key ∈ state.keys := by
  unfold keys
  rw [speaking]
  exact List.mem_append_left _ List.mem_cons_self

/-- A sender chain is an opener or a voice. -/
theorem opener_or_voice (sending : state.sender = some chain) :
    (state.opener = some chain ∧ state.voice = none) ∨
      (state.voice = some chain ∧ state.opener = none) := by
  unfold opener voice
  cases state.receivers.isEmpty with
  | true => exact .inl ⟨sending, rfl⟩
  | false => exact .inr ⟨sending, rfl⟩

theorem sender_of_opener (opening : state.opener = some chain) : state.sender = some chain := by
  unfold opener at opening
  split at opening
  · exact opening
  · cases opening

variable [Suite] {limits : Limits} {ours : KeyPair} {message : WhisperMessage} {text : Bytes}
  {taken : SessionState}

/-- A state that has taken a message has a voice: the one it had, or one of the pair
that it has drawn. -/
theorem voice_of_takes (takes : state.Takes limits ours message text taken) :
    taken.opener = none ∧ taken.pendingKey = state.pendingKey ∧
      ((state.drawsFor message.ratchetKey = 0 ∧ taken.voice = state.voice) ∨
        (state.drawsFor message.ratchetKey = 1 ∧
          ∃ chain, taken.voice = some chain ∧ chain.ratchetKey = ours ∧
            chain.chainKey.index = 0)) := by
  obtain ⟨chained, chain, served, _, _, opens, rfl⟩ := takes
  have nonempty : (chained.taken served.chain).receivers.isEmpty = false := by
    have member := (mem_of_receiver?_eq_some opens.chain_eq).1
    have same := ReceiverChain.map_ratchetKey_replaceIn served.chain chained.receivers
    rw [List.isEmpty_eq_false_iff]
    intro empty
    have none : chained.receivers.map (·.ratchetKey) = [] := by
      rw [← same]
      exact congrArg (List.map (·.ratchetKey)) empty
    rw [List.map_eq_nil_iff.mp none] at member
    cases member
  have closed : (chained.taken served.chain).opener = none := by
    unfold opener
    rw [nonempty]
    rfl
  have speaking : (chained.taken served.chain).voice = chained.sender := by
    unfold voice
    rw [nonempty]
    rfl
  refine ⟨closed, ?_⟩
  cases opens.reached with
  | known present =>
    refine ⟨rfl, .inl ⟨if_pos present, ?_⟩⟩
    have received : state.receivers.isEmpty = false := by
      rw [List.isEmpty_eq_false_iff]
      exact List.ne_nil_of_mem (mem_of_receiver?_eq_some opens.chain_eq).1
    rw [speaking]
    unfold voice
    rw [received]
    rfl
  | stepped root sender absent rooted sending =>
    have missing : ¬ (state.receiver? message.ratchetKey).isSome = true := by
      rw [absent]
      exact Bool.false_ne_true
    exact ⟨rfl, .inr ⟨if_neg missing, _, speaking, rfl, rfl⟩⟩

end SessionState

namespace SessionRecord

/-- The voices of the states. -/
def voices (record : SessionRecord) : List SenderChain :=
  record.states.filterMap SessionState.voice

/-- The keys of the states, openers apart. -/
def keys (record : SessionRecord) : List PublicKey :=
  record.states.flatMap SessionState.keys

/-- The sender chains that the record may send on. -/
def chains (record : SessionRecord) : List SenderChain :=
  record.current.opener.toList ++ record.voices

/-- The record comes from another one by an operation that has brought fresh keys, and
that may have given the current state a key of a pending exchange. -/
structure Renewed (fresh revived : List PublicKey) (record result : SessionRecord) : Prop where
  keys : result.keys.Subperm (fresh ++ record.keys)
  voices : ∀ chain ∈ result.voices,
    chain ∈ record.voices ∨ (chain.key ∈ fresh ∧ chain.chainKey.index = 0)
  opener : ∀ chain, result.current.opener = some chain →
    record.current.opener = some chain ∧ result.voices = record.voices ∨
      (chain.chainKey.index = 0 ∧ (chain.key ∈ fresh ∨ chain.key ∈ revived) ∧
        (chain.key :: result.voices.map SenderChain.key).Subperm (fresh ++ record.keys))

variable {record result : SessionRecord} {state : SessionState} {fresh revived : List PublicKey}

theorem mem_keys_of_mem_voices {chain : SenderChain} (member : chain ∈ record.voices) :
    chain.key ∈ record.keys := by
  obtain ⟨state, inside, speaking⟩ := List.mem_filterMap.mp member
  exact List.mem_flatMap.mpr ⟨state, inside, state.key_mem_keys speaking⟩

theorem filterMap_voice_cons (state : SessionState) (states : List SessionState) :
    (state :: states).filterMap SessionState.voice =
      state.voice.toList ++ states.filterMap SessionState.voice := by
  cases speaking : state.voice with
  | none =>
    rw [List.filterMap_cons_none speaking]
    rfl
  | some chain =>
    rw [List.filterMap_cons_some speaking]
    rfl

/-- The keys of the voices are keys of the record, each as often as it is there. -/
theorem map_voices_sublist (states : List SessionState) :
    ((states.filterMap SessionState.voice).map SenderChain.key).Sublist
      (states.flatMap SessionState.keys) := by
  induction states with
  | nil => exact List.Sublist.slnil
  | cons state states ih =>
    have here : (state.voice.toList.map SenderChain.key).Sublist state.keys := by
      unfold SessionState.keys
      cases state.voice with
      | none => exact List.nil_sublist _
      | some chain => exact List.sublist_append_left _ _
    rw [filterMap_voice_cons, List.map_append, List.flatMap_cons]
    exact here.append ih

theorem Renewed.mono {more : List PublicKey} (renewed : Renewed fresh revived record result)
    (within : fresh.Subperm more) : Renewed more revived record result where
  keys := renewed.keys.trans ((List.subperm_append_right _).mpr within)
  voices := by
    intro chain member
    exact (renewed.voices chain member).imp_right fun new => ⟨within.subset new.1, new.2⟩
  opener := by
    intro chain opening
    rcases renewed.opener chain opening with same | ⟨zero, source, apart⟩
    · exact .inl same
    · exact .inr ⟨zero, source.imp_left (within.subset ·),
        apart.trans ((List.subperm_append_right _).mpr within)⟩

/-! ## Promotion -/

theorem keys_promote_sublist (record : SessionRecord) (state : SessionState) (bound : Nat) :
    (record.promote state bound).keys.Sublist (state.keys ++ record.keys) :=
  (states_promote_sublist record state bound).flatMap _

theorem mem_voices_promote {bound : Nat} {chain : SenderChain}
    (member : chain ∈ (record.promote state bound).voices) :
    state.voice = some chain ∨ chain ∈ record.voices := by
  have inside := ((states_promote_sublist record state bound).filterMap _).subset member
  obtain ⟨holder, here, speaking⟩ := List.mem_filterMap.mp inside
  rcases List.mem_cons.mp here with rfl | later
  · exact .inl speaking
  · exact .inr (List.mem_filterMap.mpr ⟨holder, later, speaking⟩)

/-- The state of an initiator brings the fresh key of its voice. -/
theorem renewed_promote_voice (record : SessionRecord) (bound : Nat) {chain : SenderChain}
    (speaking : state.voice = some chain) (zero : chain.chainKey.index = 0)
    (closed : state.opener = none) (idle : state.pendingKey = none) :
    Renewed [chain.key] [] record (record.promote state bound) where
  keys := by
    have kept := keys_promote_sublist record state bound
    unfold SessionState.keys at kept
    rw [speaking, idle] at kept
    exact kept.subperm
  voices := by
    intro other member
    rcases mem_voices_promote member with here | before
    · rw [speaking] at here
      cases here
      exact .inr ⟨List.mem_cons_self, zero⟩
    · exact .inl before
  opener := by
    intro other opening
    have current : (record.promote state bound).current = state := rfl
    rw [current, closed] at opening
    cases opening

/-- The voices after the state of a responder was put in front. -/
theorem voices_promote_sublist (record : SessionRecord) (bound : Nat)
    (silent : state.voice = none) :
    ((record.promote state bound).voices.map SenderChain.key).Sublist
      (record.voices.map SenderChain.key) := by
  have kept := (states_promote_sublist record state bound).filterMap SessionState.voice
  rw [List.filterMap_cons_none silent] at kept
  exact kept.map SenderChain.key

/-- The state of a responder brings no key but that of its opener. -/
theorem renewed_promote_opener {chain : SenderChain} {bound : Nat}
    (silent : state.voice = none) (idle : state.pendingKey = none)
    (opening : state.opener = some chain) (zero : chain.chainKey.index = 0)
    (source : chain.key ∈ fresh ∨ chain.key ∈ revived)
    (within : (chain.key :: record.voices.map SenderChain.key).Subperm (fresh ++ record.keys)) :
    Renewed fresh revived record (record.promote state bound) where
  keys := by
    have kept := keys_promote_sublist record state bound
    unfold SessionState.keys at kept
    rw [silent, idle] at kept
    exact kept.subperm.trans (List.sublist_append_right _ _).subperm
  voices := by
    intro other member
    rcases mem_voices_promote member with here | before
    · rw [silent] at here
      cases here
    · exact .inl before
  opener := by
    intro other also
    have current : (record.promote state bound).current = state := rfl
    rw [current, opening] at also
    cases also
    have voices := voices_promote_sublist record bound silent
    exact .inr ⟨zero, source, ((List.subperm_cons _).mpr voices.subperm).trans within⟩

theorem subperm_of_fresh (key : PublicKey) (record : SessionRecord) :
    (key :: record.voices.map SenderChain.key).Subperm ([key] ++ record.keys) :=
  (List.subperm_cons _).mpr (map_voices_sublist record.states).subperm

/-- The pending key of the current state stands beside the keys of all voices. -/
theorem subperm_of_pending {key : PublicKey} (pending : record.current.pendingKey = some key) :
    (key :: record.voices.map SenderChain.key).Subperm record.keys := by
  have archived := map_voices_sublist record.previous
  have current : (record.current.voice.toList.map SenderChain.key) ++ [key] =
      record.current.keys := by
    unfold SessionState.keys
    rw [pending]
    cases record.current.voice with
    | none => rfl
    | some chain => rfl
  have voices : record.voices.map SenderChain.key =
      record.current.voice.toList.map SenderChain.key ++
        (record.previous.filterMap SessionState.voice).map SenderChain.key := by
    unfold SessionRecord.voices states
    rw [filterMap_voice_cons, List.map_append]
  have moved : (key :: record.voices.map SenderChain.key).Perm (record.current.keys ++
      (record.previous.filterMap SessionState.voice).map SenderChain.key) := by
    rw [voices, ← current, List.append_assoc]
    exact List.perm_middle.symm
  exact moved.subperm.trans ((List.subperm_append_left _).mpr archived.subperm)

/-- Opening a key exchange replaces the pending key of the current state by a fresh one. -/
theorem renewed_of_pending (record : SessionRecord) (pending : PendingExchange) :
    Renewed [pending.ratchetKey.publicKey] [] record
      { record with current := { record.current with pendingExchange := some pending } } where
  keys := by
    have voiced : ∀ (voice old : List PublicKey) (key : PublicKey),
        (voice ++ [key]).Subperm ([key] ++ (voice ++ old)) := by
      intro voice old key
      exact List.perm_append_comm.subperm.trans
        ((List.subperm_append_left _).mpr (List.sublist_append_left _ _).subperm)
    unfold SessionRecord.keys states
    rw [List.flatMap_cons, List.flatMap_cons, ← List.append_assoc]
    exact (List.subperm_append_right _).mpr (voiced _ _ _)
  voices := fun _ member => .inl member
  opener := fun _ opening => .inl ⟨opening, rfl⟩

/-- A record whose keys and voices are all in another one, and that has no opener. -/
theorem Renewed.of_within {middle : SessionRecord} (renewed : Renewed fresh [] middle result)
    (keys : middle.keys.Subperm record.keys)
    (voices : ∀ chain ∈ middle.voices, chain ∈ record.voices)
    (closed : result.current.opener = none) : Renewed fresh [] record result where
  keys := renewed.keys.trans ((List.subperm_append_left _).mpr keys)
  voices := fun chain member => (renewed.voices chain member).imp_left (voices chain)
  opener := by
    intro chain opening
    rw [closed] at opening
    cases opening

/-! ## Taking a message -/

section Suite

variable [Suite] {limits : Limits} {ours : KeyPair} {message : WhisperMessage} {text : Bytes}
  {taken : SessionState} {draws : Nat}

/-- What a state that takes a message adds to the keys of a record. -/
theorem keys_of_takes (takes : state.Takes limits ours message text taken) :
    taken.keys.Subperm (List.replicate (state.drawsFor message.ratchetKey) ours.publicKey ++
      state.keys) := by
  obtain ⟨_, pending, same | ⟨drew, chain, speaking, rfl, zero⟩⟩ :=
    SessionState.voice_of_takes takes
  · unfold SessionState.keys
    rw [same.1, same.2, pending]
    exact List.Subperm.refl _
  · unfold SessionState.keys
    rw [drew, speaking, pending]
    exact (List.subperm_cons _).mpr (List.sublist_append_right _ _).subperm

theorem voices_of_takes {chain : SenderChain}
    (takes : state.Takes limits ours message text taken) (speaking : taken.voice = some chain) :
    state.voice = some chain ∨
      (chain.key ∈ List.replicate (state.drawsFor message.ratchetKey) ours.publicKey ∧
        chain.chainKey.index = 0) := by
  obtain ⟨_, _, same | ⟨drew, other, also, rfl, zero⟩⟩ := SessionState.voice_of_takes takes
  · rw [← same.2]
    exact .inl speaking
  · cases also.symm.trans speaking
    rw [drew]
    exact .inr ⟨List.mem_cons_self, zero⟩

/-- One of the states takes a message and comes to the front, and others may be lost. -/
theorem renewed_of_takes {rest : List SessionState}
    (takes : state.Takes limits ours message text taken)
    (before : record.states.Perm (state :: rest)) (front : result.current = taken)
    (behind : result.states.Sublist (taken :: rest)) :
    Renewed (List.replicate (state.drawsFor message.ratchetKey) ours.publicKey) [] record
      result where
  keys := by
    have kept : result.keys.Subperm (taken.keys ++ rest.flatMap SessionState.keys) :=
      (behind.flatMap _).subperm
    have all : record.keys.Perm (state.keys ++ rest.flatMap SessionState.keys) :=
      before.flatMap_right _
    refine kept.trans ?_
    refine ((List.subperm_append_right _).mpr (keys_of_takes takes)).trans ?_
    rw [List.append_assoc]
    exact (List.subperm_append_left _).mpr all.symm.subperm
  voices := by
    intro chain member
    obtain ⟨holder, inside, speaking⟩ := List.mem_filterMap.mp member
    have found : ∀ other, other ∈ state :: rest → other.voice = some chain →
        chain ∈ record.voices := by
      intro other place also
      exact List.mem_filterMap.mpr ⟨other, before.mem_iff.mpr place, also⟩
    rcases List.mem_cons.mp (behind.subset inside) with rfl | later
    · rcases voices_of_takes takes speaking with same | new
      · exact .inl (found state List.mem_cons_self same)
      · exact .inr new
    · exact .inl (found holder (List.mem_cons_of_mem _ later) speaking)
  opener := by
    intro chain opening
    rw [front, (SessionState.voice_of_takes takes).1] at opening
    cases opening

/-- A record that opens a message gets at most the pair that was drawn for it. -/
theorem renewed_of_opened (opened : record.Opened limits ours message text draws result) :
    Renewed (List.replicate draws ours.publicKey) [] record result := by
  cases opened with
  | current takes =>
    exact renewed_of_takes takes (List.Perm.refl _) rfl (List.Sublist.refl _)
  | @archived place state taken found takes =>
    have inside : place < record.previous.length := (List.getElem?_eq_some_iff.mp found).1
    have here : record.previous[place] = state := (List.getElem?_eq_some_iff.mp found).2
    have taken_out : record.previous.Perm (state :: record.previous.eraseIdx place) := by
      rw [← here]
      exact (List.getElem_cons_eraseIdx_perm inside).symm
    have before : record.states.Perm (state :: record.current :: record.previous.eraseIdx place) :=
      (taken_out.cons _).trans (List.Perm.swap ..)
    exact renewed_of_takes takes before rfl (states_promote_sublist _ _ _)

theorem opener_of_opened (opened : record.Opened limits ours message text draws result) :
    result.current.opener = none := by
  cases opened with
  | current takes => exact (SessionState.voice_of_takes takes).1
  | archived found takes => exact (SessionState.voice_of_takes takes).1

end Suite

end SessionRecord
end DoubleRatchet
