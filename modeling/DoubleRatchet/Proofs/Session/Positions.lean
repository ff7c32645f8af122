import DoubleRatchet.Proofs.Session.Sealing
import DoubleRatchet.Proofs.Session.Voices

namespace DoubleRatchet

/-!
# Which positions a record may still take

A message is sealed at the position of its sender chain, and a position must not be
taken twice.  `Ahead` is what keeps a record from that: its keys stand for
different chains, and every chain that it may send on is past what was emitted on
its key.  Sending keeps a record ahead, and so does whatever renews it with keys
that nothing was emitted on.

`Filled` is the converse: a chain has passed nothing that was not emitted.  It needs
no assumption at all, and it is what turns a chain that starts over into a position
that is taken twice.
-/

/-- The place of a sealed message: the ratchet key that it names and its counter. -/
abbrev Position := PublicKey × UInt32

namespace SenderChain

/-- The position at which the next message on the chain is sealed. -/
def position (chain : SenderChain) : Position :=
  (chain.key, chain.chainKey.index)

/-- The chain after one more message. -/
def moved [Suite] (chain : SenderChain) : SenderChain :=
  { chain with chainKey := chain.chainKey.next }

end SenderChain

namespace SessionState

variable [Suite] {state : SessionState} {sender : SenderChain}

theorem opener_sent (sending : state.sender = some sender) :
    (state.sent sender).opener = state.opener.map fun _ => sender.moved := by
  change (if state.receivers.isEmpty then some sender.moved else none) = _
  unfold opener
  rw [sending]
  cases state.receivers.isEmpty with
  | true => rfl
  | false => rfl

theorem voice_sent (sending : state.sender = some sender) :
    (state.sent sender).voice = state.voice.map fun _ => sender.moved := by
  change (if state.receivers.isEmpty then none else some sender.moved) = _
  unfold voice
  rw [sending]
  cases state.receivers.isEmpty with
  | true => rfl
  | false => rfl

/-- Sending moves the chain on and keeps its key. -/
theorem keys_sent (sending : state.sender = some sender) :
    (state.sent sender).keys = state.keys := by
  unfold keys
  rw [voice_sent sending]
  rcases opener_or_voice sending with ⟨_, silent⟩ | ⟨speaking, _⟩
  · rw [silent]
    rfl
  · rw [speaking]
    rfl

end SessionState

namespace SessionRecord

/-- The keys that no other record may send on. -/
def held (record : SessionRecord) : List PublicKey :=
  record.current.opener.toList.map SenderChain.key ++ record.keys

/-- The record can take no position that was emitted. -/
structure Ahead (emitted : List Position) (record : SessionRecord) : Prop where
  distinct : record.keys.Nodup
  apart : ∀ chain, record.current.opener = some chain →
    chain.key ∉ record.voices.map SenderChain.key
  above : ∀ chain ∈ record.chains, ∀ counter, (chain.key, counter) ∈ emitted →
    counter < chain.chainKey.index

/-- The record has passed no position that was not emitted. -/
def Filled (emitted : List Position) (record : SessionRecord) : Prop :=
  ∀ chain ∈ record.chains, ∀ counter < chain.chainKey.index, (chain.key, counter) ∈ emitted

variable {record result : SessionRecord} {emitted : List Position}
  {fresh revived : List PublicKey}

theorem mem_held_of_mem_chains {chain : SenderChain} (member : chain ∈ record.chains) :
    chain.key ∈ record.held := by
  rcases List.mem_append.mp member with opening | speaking
  · exact List.mem_append_left _ (List.mem_map_of_mem opening)
  · exact List.mem_append_right _ (mem_keys_of_mem_voices speaking)

theorem mem_chains_of_sender {sender : SenderChain}
    (sending : record.current.sender = some sender) : sender ∈ record.chains := by
  rcases SessionState.opener_or_voice sending with ⟨opening, _⟩ | ⟨speaking, _⟩
  · apply List.mem_append_left
    rw [opening]
    exact List.mem_cons_self
  · apply List.mem_append_right
    exact List.mem_filterMap.mpr ⟨record.current, List.mem_cons_self, speaking⟩

/-- A record that was never stored can send nothing. -/
theorem ahead_new (emitted : List Position) : new.Ahead emitted := by
  refine ⟨List.nodup_nil, ?_, ?_⟩
  · intro chain opening
    cases opening
  · intro chain member
    cases member

theorem filled_new (emitted : List Position) : new.Filled emitted := by
  intro chain member
  cases member

/-! ## Renewal -/

/-- A renewed record sends on chains that were there, and on chains at their start. -/
theorem Renewed.chains (renewed : record.Renewed fresh revived result) {chain : SenderChain}
    (member : chain ∈ result.chains) :
    chain ∈ record.chains ∨
      (chain.chainKey.index = 0 ∧ (chain.key ∈ fresh ∨ chain.key ∈ revived)) := by
  rcases List.mem_append.mp member with opening | speaking
  · rcases renewed.opener chain (Option.mem_toList.mp opening) with same | new
    · apply Or.inl
      apply List.mem_append_left
      exact Option.mem_toList.mpr same.1
    · exact .inr ⟨new.1, new.2.1⟩
  · rcases renewed.voices chain speaking with before | new
    · exact .inl (List.mem_append_right _ before)
    · exact .inr ⟨new.2, .inl new.1⟩

/-- A renewed record holds the keys that were held, and fresh ones. -/
theorem Renewed.held (renewed : record.Renewed fresh revived result) {key : PublicKey}
    (member : key ∈ result.held) : key ∈ fresh ∨ key ∈ record.held := by
  have within : ∀ {key}, key ∈ fresh ++ record.keys → key ∈ fresh ∨ key ∈ record.held := by
    intro key inside
    exact (List.mem_append.mp inside).imp_right (List.mem_append_right _)
  rcases List.mem_append.mp member with opening | kept
  · obtain ⟨chain, found, rfl⟩ := List.mem_map.mp opening
    rcases renewed.opener chain (Option.mem_toList.mp found) with same | new
    · apply Or.inr
      apply List.mem_append_left
      exact List.mem_map_of_mem (Option.mem_toList.mpr same.1)
    · exact within (new.2.2.subset List.mem_cons_self)
  · exact within (renewed.keys.subset kept)

theorem nodup_of_subperm {α : Type} {few many : List α} (within : few.Subperm many)
    (nodup : many.Nodup) : few.Nodup := by
  obtain ⟨same, perm, sublist⟩ := within
  exact perm.nodup_iff.mp (sublist.nodup nodup)

/-- A record stays ahead when it is renewed by keys that nothing was emitted on. -/
theorem Ahead.renewed (ahead : record.Ahead emitted)
    (renewed : record.Renewed fresh revived result) (nodup : (fresh ++ record.keys).Nodup)
    (unused : ∀ key, key ∈ fresh ∨ key ∈ revived → ∀ counter, (key, counter) ∉ emitted) :
    result.Ahead emitted where
  distinct := nodup_of_subperm renewed.keys nodup
  apart := by
    intro chain opening
    rcases renewed.opener chain opening with ⟨same, voices⟩ | ⟨_, _, within⟩
    · rw [voices]
      exact ahead.apart chain same
    · exact (List.nodup_cons.mp (nodup_of_subperm within nodup)).1
  above := by
    intro chain member counter sent
    rcases renewed.chains member with before | ⟨_, source⟩
    · exact ahead.above chain before counter sent
    · exact absurd sent (unused _ source counter)

/-- What is emitted on keys of others does not matter to a record. -/
theorem Ahead.append (ahead : record.Ahead emitted) {position : Position}
    (foreign : position.1 ∉ record.held) : record.Ahead (emitted ++ [position]) where
  distinct := ahead.distinct
  apart := ahead.apart
  above := by
    intro chain member counter sent
    rcases List.mem_append.mp sent with before | here
    · exact ahead.above chain member counter before
    · have same : chain.key = position.1 := congrArg Prod.fst (List.mem_singleton.mp here)
      rw [← same] at foreign
      exact absurd (mem_held_of_mem_chains member) foreign

theorem Filled.append (filled : record.Filled emitted) (positions : List Position) :
    record.Filled (emitted ++ positions) :=
  fun chain member counter below => List.mem_append_left _ (filled chain member counter below)

theorem Filled.renewed (filled : record.Filled emitted)
    (renewed : record.Renewed fresh revived result) : result.Filled emitted := by
  intro chain member counter below
  rcases renewed.chains member with before | ⟨zero, _⟩
  · exact filled chain before counter below
  · rw [zero] at below
    exact absurd below UInt32.not_lt_zero

/-! ## Sending -/

section Suite

variable [Suite] {sender : SenderChain}

/-- The record after its current state has sent. -/
def sent (record : SessionRecord) (sender : SenderChain) : SessionRecord :=
  { record with current := record.current.sent sender }

theorem keys_sent (sending : record.current.sender = some sender) :
    (record.sent sender).keys = record.keys := by
  change (record.current.sent sender).keys ++ record.previous.flatMap SessionState.keys = _
  rw [SessionState.keys_sent sending]
  rfl

theorem held_sent (sending : record.current.sender = some sender) :
    (record.sent sender).held = record.held := by
  have opener : ((record.sent sender).current.opener.toList.map SenderChain.key) =
      record.current.opener.toList.map SenderChain.key := by
    change (record.current.sent sender).opener.toList.map SenderChain.key = _
    rw [SessionState.opener_sent sending]
    rcases SessionState.opener_or_voice sending with ⟨opening, _⟩ | ⟨_, closed⟩
    · rw [opening]
      rfl
    · rw [closed]
      rfl
  unfold held
  rw [opener, keys_sent sending]

end Suite

/-- Beside the chain that the current state sends on there are the archived voices. -/
theorem chains_eq {sender : SenderChain} (sending : record.current.sender = some sender) :
    record.chains = sender :: record.previous.filterMap SessionState.voice := by
  unfold chains voices states
  rw [filterMap_voice_cons]
  rcases SessionState.opener_or_voice sending with ⟨opening, silent⟩ | ⟨speaking, closed⟩
  · rw [opening, silent]
    rfl
  · rw [speaking, closed]
    rfl

/-- No archived voice has the key that the current state sends on. -/
theorem Ahead.key_ne {sender chain : SenderChain} (ahead : record.Ahead emitted)
    (sending : record.current.sender = some sender)
    (member : chain ∈ record.previous.filterMap SessionState.voice) : chain.key ≠ sender.key := by
  intro same
  obtain ⟨state, archived, speaking⟩ := List.mem_filterMap.mp member
  rcases SessionState.opener_or_voice sending with ⟨opening, _⟩ | ⟨spoken, _⟩
  · apply ahead.apart sender opening
    rw [← same]
    apply List.mem_map_of_mem
    exact List.mem_filterMap.mpr ⟨state, List.mem_cons_of_mem _ archived, speaking⟩
  · have split : (record.current.keys ++ record.previous.flatMap SessionState.keys).Nodup :=
      ahead.distinct
    have disjoint := (List.nodup_append.mp split).2.2
    apply disjoint sender.key (record.current.key_mem_keys spoken) chain.key
    · exact List.mem_flatMap.mpr ⟨state, archived, state.key_mem_keys speaking⟩
    · exact same.symm

section Suite

variable [Suite] {sender : SenderChain}

/-- A record that has sent on a position is ahead of that position as well, as long as
the index of the chain does not start over. -/
theorem Ahead.sent (ahead : record.Ahead emitted) (sending : record.current.sender = some sender)
    (notLast : sender.chainKey.index < lastCounter) :
    (record.sent sender).Ahead (emitted ++ [sender.position]) := by
  have moved : (record.sent sender).current.sender = some sender.moved := rfl
  have past : sender.moved.chainKey.index.toNat = sender.chainKey.index.toNat + 1 := by
    have bound : sender.chainKey.index.toNat < 0xFFFFFFFF := UInt32.lt_iff_toNat_lt.mp notLast
    exact ChainKey.toNat_index_next (by omega)
  constructor
  · rw [keys_sent sending]
    exact ahead.distinct
  · intro chain opening
    change (record.current.sent sender).opener = some chain at opening
    rw [SessionState.opener_sent sending] at opening
    rcases SessionState.opener_or_voice sending with ⟨before, silent⟩ | ⟨_, closed⟩
    · rw [before] at opening
      cases opening
      have voices : (record.sent sender).voices = record.voices := by
        change (record.current.sent sender :: record.previous).filterMap SessionState.voice = _
        unfold voices states
        rw [filterMap_voice_cons, filterMap_voice_cons, SessionState.voice_sent sending, silent]
        rfl
      rw [voices]
      exact ahead.apart sender before
    · rw [closed] at opening
      cases opening
  · intro chain member counter sent
    rw [chains_eq moved] at member
    rcases List.mem_cons.mp member with rfl | archived
    · rcases List.mem_append.mp sent with before | here
      · have below := ahead.above sender (mem_chains_of_sender sending) counter before
        rw [UInt32.lt_iff_toNat_lt] at below ⊢
        omega
      · cases List.mem_singleton.mp here
        rw [UInt32.lt_iff_toNat_lt]
        omega
    · rcases List.mem_append.mp sent with before | here
      · apply ahead.above chain _ counter before
        rw [chains_eq sending]
        exact List.mem_cons_of_mem _ archived
      · have same := congrArg Prod.fst (List.mem_singleton.mp here)
        exact absurd same (ahead.key_ne sending archived)

/-- Sending fills the position that it passes. -/
theorem Filled.sent (filled : record.Filled emitted)
    (sending : record.current.sender = some sender) :
    (record.sent sender).Filled (emitted ++ [sender.position]) := by
  have moved : (record.sent sender).current.sender = some sender.moved := rfl
  intro chain member counter below
  rw [chains_eq moved] at member
  rcases List.mem_cons.mp member with rfl | archived
  · by_cases here : counter = sender.chainKey.index
    · subst here
      exact List.mem_append_right _ List.mem_cons_self
    · apply List.mem_append_left
      apply filled sender (mem_chains_of_sender sending)
      change counter < sender.chainKey.index + 1 at below
      have apart : counter.toNat ≠ sender.chainKey.index.toNat := fun same =>
        here (UInt32.toNat_inj.mp same)
      rw [UInt32.lt_iff_toNat_lt] at below ⊢
      rw [UInt32.toNat_add] at below
      change counter.toNat < (sender.chainKey.index.toNat + 1) % 2 ^ 32 at below
      omega
  · apply List.mem_append_left
    apply filled chain _ counter below
    rw [chains_eq sending]
    exact List.mem_cons_of_mem _ archived

end Suite

end SessionRecord
end DoubleRatchet
