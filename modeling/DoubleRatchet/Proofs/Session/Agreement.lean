import DoubleRatchet.Proofs.Engine.Draws

namespace DoubleRatchet

/-!
# What two parties of a negotiation share

The initiator and the responder compute the secrets of a session from opposite halves of
the same pairs, so what either computes is what the other does as long as agreements are
symmetric.  `Counterparts` says that the two know each other's public halves, in the words
of the two roles, and `Facing` says so of a key exchange, where the roles are still open.

`Joined` is what a negotiation leaves behind on the two sides.  The responder sends on the
chain that the initiator receives on, and the root of the responder leads to the root and
to the sender chain of the initiator by one step of the agreement ratchet.
-/

/-! ## Agreements -/

section Agreements

variable [Suite] {first second : KeyPair}

/-- Matched pairs agree on the same octets from either side. -/
theorem KeyPair.agree_comm (symmetric : Suite.AgreementSymmetric ‹Suite›)
    (firstMatched : first.Matched) (secondMatched : second.Matched) :
    first.agree second.publicKey = second.agree first.publicKey := by
  rw [firstMatched, secondMatched]
  exact symmetric first.privateKey.octets second.privateKey.octets

/-- A step of the agreement ratchet is the same from either side. -/
theorem RootKey.createChain_comm (symmetric : Suite.AgreementSymmetric ‹Suite›)
    (firstMatched : first.Matched) (secondMatched : second.Matched) (root : RootKey) :
    root.createChain first.publicKey second = root.createChain second.publicKey first := by
  unfold createChain
  rw [KeyPair.agree_comm symmetric secondMatched firstMatched]

/-- A drawn pair is matched. -/
theorem KeyPair.matched_drawnAt (entropy : Nat -> Octets 32) (place : Nat) :
    (drawnAt entropy place).Matched :=
  matched_ofPrivate _

/-- The secret of an identity as a pair. -/
def IdentityKeyPair.agreementPair (identity : IdentityKeyPair) : KeyPair :=
  .ofPrivate identity.agreementSecret

theorem IdentityKeyPair.matched_agreementPair (identity : IdentityKeyPair) :
    identity.agreementPair.Matched :=
  KeyPair.matched_ofPrivate _

end Agreements

/-- The version and the identities that a session is under, as one party knows them. -/
structure Terms where
  version : UInt8
  ours : IdentityKey
  theirs : IdentityKey

namespace Terms

/-- The same as the other party knows them. -/
def swap (terms : Terms) : Terms :=
  ⟨terms.version, terms.theirs, terms.ours⟩

end Terms

namespace Negotiation

/-! ## Roles -/

section Roles

variable {ours theirs : PublicKey}

theorem compare_eq_swap (ours theirs : PublicKey) :
    compare theirs ours = (compare ours theirs).swap := by
  have oriented : Std.OrientedCmp (compareOn PublicKey.toBytes) := inferInstance
  exact oriented.eq_swap

theorem eq_of_compare_eq (same : compare ours theirs = .eq) : ours = theirs := by
  have order : compare ours.toBytes theirs.toBytes = .eq := same
  have spelled : ours.toBytes = theirs.toBytes := Std.LawfulEqCmp.eq_of_compare order
  have read := PublicKey.ofBytes_toBytes ours
  rw [spelled, PublicKey.ofBytes_toBytes] at read
  cases read
  rfl

/-- Of two different base keys exactly one is that of the initiator. -/
theorem isInitiator_swap (different : ours ≠ theirs) :
    isInitiator theirs ours = !isInitiator ours theirs := by
  unfold isInitiator
  rw [compare_eq_swap ours theirs]
  cases order : compare ours theirs with
  | lt => rfl
  | eq => exact absurd (eq_of_compare_eq order) different
  | gt => rfl

end Roles

variable [Suite] {version : UInt8} {initiating : InitiatorKeys} {responding : ResponderKeys}
  {ours theirs : ExchangeKeys}

/-- The initiator and the responder of one negotiation know each other's public keys. -/
structure Counterparts (initiating : InitiatorKeys) (responding : ResponderKeys) : Prop where
  initiator_eq : responding.theirIdentity = initiating.identity.identity
  responder_eq : initiating.theirIdentity = responding.identity.identity
  baseKey_eq : responding.theirBaseKey = initiating.baseKey.publicKey
  signedPreKey_eq : initiating.theirSignedPreKey = responding.signedPreKey.publicKey
  oneTimePreKey_eq : initiating.theirOneTimePreKey = responding.oneTimePreKey.map (·.publicKey)
  ratchetKey_eq : initiating.theirRatchetKey = responding.ratchetKey.publicKey
  baseKey_matched : initiating.baseKey.Matched
  signedPreKey_matched : responding.signedPreKey.Matched
  oneTimePreKey_matched : ∀ pair, responding.oneTimePreKey = some pair → pair.Matched
  ratchetKey_matched : responding.ratchetKey.Matched

/-- The two parties of a key exchange know each other's public keys. -/
structure Facing (ours theirs : ExchangeKeys) : Prop where
  ourIdentity_eq : theirs.theirIdentity = ours.identity.identity
  theirIdentity_eq : ours.theirIdentity = theirs.identity.identity
  ourBaseKey_eq : theirs.theirBaseKey = ours.baseKey.publicKey
  theirBaseKey_eq : ours.theirBaseKey = theirs.baseKey.publicKey
  ourRatchetKey_eq : theirs.theirRatchetKey = ours.ratchetKey.publicKey
  theirRatchetKey_eq : ours.theirRatchetKey = theirs.ratchetKey.publicKey
  ourBaseKey_matched : ours.baseKey.Matched
  theirBaseKey_matched : theirs.baseKey.Matched
  ourRatchetKey_matched : ours.ratchetKey.Matched
  theirRatchetKey_matched : theirs.ratchetKey.Matched

theorem Facing.symm (facing : Facing ours theirs) : Facing theirs ours where
  ourIdentity_eq := facing.theirIdentity_eq
  theirIdentity_eq := facing.ourIdentity_eq
  ourBaseKey_eq := facing.theirBaseKey_eq
  theirBaseKey_eq := facing.ourBaseKey_eq
  ourRatchetKey_eq := facing.theirRatchetKey_eq
  theirRatchetKey_eq := facing.ourRatchetKey_eq
  ourBaseKey_matched := facing.theirBaseKey_matched
  theirBaseKey_matched := facing.ourBaseKey_matched
  ourRatchetKey_matched := facing.theirRatchetKey_matched
  theirRatchetKey_matched := facing.ourRatchetKey_matched

/-- Where the base keys differ, exactly one party of a key exchange initiates. -/
theorem Facing.isInitiator_eq (facing : Facing ours theirs)
    (different : ours.baseKey.publicKey ≠ theirs.baseKey.publicKey) :
    isInitiator theirs.baseKey.publicKey theirs.theirBaseKey =
      !isInitiator ours.baseKey.publicKey ours.theirBaseKey := by
  rw [facing.ourBaseKey_eq, facing.theirBaseKey_eq]
  exact isInitiator_swap different

/-- Whichever party of a key exchange initiates, the other one responds to it. -/
theorem Facing.counterparts (facing : Facing ours theirs) :
    Counterparts ours.asInitiator theirs.asResponder where
  initiator_eq := facing.ourIdentity_eq
  responder_eq := facing.theirIdentity_eq
  baseKey_eq := facing.ourBaseKey_eq
  signedPreKey_eq := facing.theirBaseKey_eq
  oneTimePreKey_eq := rfl
  ratchetKey_eq := facing.theirRatchetKey_eq
  baseKey_matched := facing.ourBaseKey_matched
  signedPreKey_matched := facing.theirBaseKey_matched
  oneTimePreKey_matched := fun _ absent => nomatch absent
  ratchetKey_matched := facing.theirRatchetKey_matched

/-- Both parties derive the same secrets.  Each of the agreements has an identity, a base
key or a pre-key of either party on its two sides. -/
theorem Counterparts.secrets_eq (symmetric : Suite.AgreementSymmetric ‹Suite›)
    (counterparts : Counterparts initiating responding) (version : UInt8) :
    initiating.secrets version = responding.secrets version := by
  have identities : initiating.identity.agreementSecret.agree responding.signedPreKey.publicKey =
      responding.signedPreKey.agree initiating.identity.identity.agreementKey :=
    KeyPair.agree_comm symmetric initiating.identity.matched_agreementPair
      counterparts.signedPreKey_matched
  have bases : initiating.baseKey.agree responding.identity.identity.agreementKey =
      responding.identity.agreementSecret.agree initiating.baseKey.publicKey :=
    KeyPair.agree_comm symmetric counterparts.baseKey_matched
      responding.identity.matched_agreementPair
  have preKeys : initiating.baseKey.agree responding.signedPreKey.publicKey =
      responding.signedPreKey.agree initiating.baseKey.publicKey :=
    KeyPair.agree_comm symmetric counterparts.baseKey_matched counterparts.signedPreKey_matched
  have oneTimes : (responding.oneTimePreKey.map (·.publicKey)).map initiating.baseKey.agree =
      responding.oneTimePreKey.map fun pair => pair.agree initiating.baseKey.publicKey := by
    cases oneTime : responding.oneTimePreKey with
    | none => rfl
    | some pair =>
      exact congrArg some (KeyPair.agree_comm symmetric counterparts.baseKey_matched
        (counterparts.oneTimePreKey_matched pair oneTime))
  unfold InitiatorKeys.secrets ResponderKeys.secrets
  rw [counterparts.initiator_eq, counterparts.responder_eq, counterparts.baseKey_eq,
    counterparts.signedPreKey_eq, counterparts.oneTimePreKey_eq, identities, bases, preKeys,
    oneTimes]

end Negotiation

/-! ## States of one negotiation -/

/-- The states that a negotiation under some terms has left with the initiator, whose terms
they are, and with the responder, which sends from the given ratchet pair. -/
structure SessionState.Joined [Suite] (terms : Terms) (ratchetKey : KeyPair)
    (initiating responding : SessionState) : Prop where
  initiatorVersion_eq : initiating.storedVersion = terms.version
  responderVersion_eq : responding.storedVersion = terms.version
  initiatorLocal_eq : initiating.localIdentity = some terms.ours
  initiatorRemote_eq : initiating.remoteIdentity = some terms.theirs
  responderLocal_eq : responding.localIdentity = some terms.theirs
  responderRemote_eq : responding.remoteIdentity = some terms.ours
  /-- The initiator receives on the chain that the responder sends on, from its start. -/
  first_eq : ∃ chain, chain.index = 0 ∧ responding.sender = some ⟨ratchetKey, chain⟩ ∧
    initiating.receivers = [⟨ratchetKey.publicKey, chain, .empty⟩] ∧ responding.receivers = []
  /-- One step of the ratchet leads from the root of the responder to the initiator. -/
  step_eq : ∃ root sendingRoot sender, responding.rootKey = some root ∧
    initiating.rootKey = some sendingRoot ∧ initiating.sender = some sender ∧
    root.createChain sender.ratchetKey.publicKey ratchetKey = (sendingRoot, sender.chainKey)

namespace Negotiation

variable [Suite] {initiating : InitiatorKeys} {responding : ResponderKeys}
  {ours theirs : ExchangeKeys}

/-- A negotiation leaves joined states behind, whatever pair the initiator goes on with. -/
theorem Counterparts.joined (symmetric : Suite.AgreementSymmetric ‹Suite›)
    (counterparts : Counterparts initiating responding) (version : UInt8) {fresh : KeyPair}
    (matched : fresh.Matched) :
    SessionState.Joined ⟨version, initiating.identity.identity, responding.identity.identity⟩
      responding.ratchetKey (initiator version initiating fresh)
      (responder version responding) where
  initiatorVersion_eq := rfl
  responderVersion_eq := rfl
  initiatorLocal_eq := rfl
  initiatorRemote_eq := congrArg some counterparts.responder_eq
  responderLocal_eq := rfl
  responderRemote_eq := congrArg some counterparts.initiator_eq
  first_eq := by
    have secrets := counterparts.secrets_eq symmetric version
    refine ⟨(RootKey.initial (responding.secrets version)).2, rfl, rfl, ?_, rfl⟩
    change [ReceiverChain.mk initiating.theirRatchetKey
      (RootKey.initial (initiating.secrets version)).2 .empty] = _
    rw [counterparts.ratchetKey_eq, secrets]
  step_eq := by
    have secrets := counterparts.secrets_eq symmetric version
    refine ⟨_, _, _, rfl, rfl, rfl, ?_⟩
    change (RootKey.initial (responding.secrets version)).1.createChain fresh.publicKey
      responding.ratchetKey = (RootKey.initial (initiating.secrets version)).1.createChain
        initiating.theirRatchetKey fresh
    rw [counterparts.ratchetKey_eq, secrets]
    exact RootKey.createChain_comm symmetric matched counterparts.ratchetKey_matched _

/-- A party of a key exchange gets the state of the role that the base keys give it. -/
theorem fst_symmetric (version : UInt8) (keys : ExchangeKeys) (trace : Trace) :
    (symmetric version keys trace).1 =
      if isInitiator keys.baseKey.publicKey keys.theirBaseKey then
        initiator version keys.asInitiator trace.nextPair
      else responder version keys.asResponder := by
  unfold symmetric
  split
  · rfl
  · rfl

/-- The two parties of a key exchange end up in joined states, the one with the higher base
key as the initiator. -/
theorem Facing.joined (symmetric : Suite.AgreementSymmetric ‹Suite›)
    (facing : Facing ours theirs) (version : UInt8) (trace later : Trace)
    (higher : isInitiator ours.baseKey.publicKey ours.theirBaseKey = true)
    (lower : isInitiator theirs.baseKey.publicKey theirs.theirBaseKey = false) :
    SessionState.Joined ⟨version, ours.identity.identity, theirs.identity.identity⟩
      theirs.ratchetKey (Negotiation.symmetric version ours trace).1
      (Negotiation.symmetric version theirs later).1 := by
  rw [fst_symmetric, fst_symmetric, higher, lower]
  exact facing.counterparts.joined symmetric version (KeyPair.matched_drawnAt _ _)

end Negotiation
end DoubleRatchet
