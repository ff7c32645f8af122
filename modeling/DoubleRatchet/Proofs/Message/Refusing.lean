import DoubleRatchet.Message.Envelope
import DoubleRatchet.Proofs.Message.Fitting

namespace DoubleRatchet

/-!
# How octets are refused

Reading a message goes through many steps, each of which can fail.  Which faults the
whole can end in is found step by step: a sequence of readers fails only as its parts
do (`Message.Fails.bind`), and the parts are few.  The reader of the version is the only
one with faults of its own, and these name the version that the octets announce; every
other step refuses the message as invalid, also where it reads a key.
-/

namespace Message

/-- The version that octets announce: the high half of the first one. -/
def announced? (bytes : Bytes) : Option UInt8 :=
  bytes.head?.map fun octet : UInt8 => octet >>> 4

/-- The faults that octets may be refused with.  The versions that such a fault may name
are given. -/
inductive Refusal (announced : UInt8 -> Prop) : Fault -> Prop
  | invalid (reason : MessageFault) : Refusal announced (.invalid reason)
  | legacy {version : UInt8} (older : version < oldestVersion) (named : announced version) :
    Refusal announced (.legacyVersion version)
  | unknown {version : UInt8} (newer : currentVersion < version) (named : announced version) :
    Refusal announced (.unknownVersion version)

/-- Where the reader fails, it refuses the octets with one of these faults. -/
def Fails {α : Type} (announced : UInt8 -> Prop) (reader : Except Fault α) : Prop :=
  ∀ fault, reader = .error fault → Refusal announced fault

variable {α β : Type} {announced : UInt8 -> Prop}

theorem Refusal.mono {more : UInt8 -> Prop} {fault : Fault} (refusal : Refusal announced fault)
    (weaker : ∀ version, announced version → more version) : Refusal more fault := by
  cases refusal with
  | invalid reason => exact .invalid reason
  | legacy older named => exact .legacy older (weaker _ named)
  | unknown newer named => exact .unknown newer (weaker _ named)

theorem Fails.mono {more : UInt8 -> Prop} {reader : Except Fault α}
    (fails : Fails announced reader) (weaker : ∀ version, announced version → more version) :
    Fails more reader :=
  fun fault failed => (fails fault failed).mono weaker

theorem fails_ok (value : α) : Fails announced (.ok value) :=
  fun _ failed => nomatch failed

theorem fails_invalid (reason : MessageFault) :
    Fails announced (.error (.invalid reason) : Except Fault α) := by
  intro fault failed
  cases failed
  exact .invalid reason

/-- A sequence fails as its first part does or, where that gives a value, as the rest does. -/
theorem Fails.bind {reader : Except Fault α} {next : α -> Except Fault β}
    (first : Fails announced reader)
    (rest : ∀ value, reader = .ok value → Fails announced (next value)) :
    Fails announced (reader >>= next) := by
  cases reader with
  | error fault =>
    intro other failed
    cases failed
    exact first fault rfl
  | ok value => exact rest value rfl

theorem Fails.map {reader : Except Fault α} (fails : Fails announced reader) (wrap : α -> β) :
    Fails announced (reader.map wrap) := by
  cases reader with
  | error fault =>
    intro other failed
    cases failed
    exact fails fault rfl
  | ok value => exact fails_ok (wrap value)

/-- What is read and wrapped was read. -/
theorem map_eq_ok {reader : Except Fault α} {wrap : α -> β} {result : β} :
    reader.map wrap = .ok result ↔ ∃ value, reader = .ok value ∧ wrap value = result := by
  cases reader with
  | error fault => simp [Except.map]
  | ok value => simp [Except.map]

theorem fails_orMalformed (reader : Option α) : Fails announced (orMalformed reader) := by
  cases reader with
  | none => exact fails_invalid .malformed
  | some value => exact fails_ok value

/-- What is wrong with a key makes the message invalid. -/
theorem fails_readKey (bytes : Bytes) : Fails announced (readKey bytes) := by
  unfold readKey
  cases PublicKey.ofBytes bytes with
  | error fault => exact fails_invalid (.badKey fault)
  | ok key => exact fails_ok key

/-- What is wrong with an identity makes the message invalid. -/
theorem fails_readIdentity (bytes : Bytes) : Fails announced (readIdentity bytes) := by
  unfold readIdentity
  cases IdentityKey.ofBytes bytes with
  | error fault => exact fails_invalid (.badIdentity fault)
  | ok identity => exact fails_ok identity

/-- A version that is not spoken is the one that is announced. -/
theorem fails_splitVersion (bytes : Bytes) :
    Fails (fun version => announced? bytes = some version) (splitVersion bytes) := by
  cases bytes with
  | nil => exact fails_invalid .empty
  | cons octet body =>
    intro fault failed
    simp only [splitVersion] at failed
    split at failed
    · next older =>
      cases failed
      exact .legacy older rfl
    · split at failed
      · next newer =>
        cases failed
        exact .unknown newer rfl
      · cases failed

/-- Leaving octets off at the end does not change what is announced. -/
theorem announced?_of_take {bytes : Bytes} {count : Nat} {version : UInt8}
    (announces : announced? (bytes.take count) = some version) :
    announced? bytes = some version := by
  cases bytes with
  | nil =>
    rw [List.take_nil] at announces
    exact announces
  | cons octet body =>
    cases count with
    | zero => cases announces
    | succ count => exact announces

end Message

namespace WhisperMessage

open Message

theorem fails_ofBytes (bytes : Bytes) :
    Fails (fun version => announced? bytes = some version) (ofBytes bytes) := by
  simp only [ofBytes]
  split
  · exact fails_invalid .tooShort
  · apply Fails.bind ((fails_splitVersion _).mono fun _ => announced?_of_take)
    rintro ⟨version, rest⟩ _
    apply (fails_orMalformed _).bind
    intro fields _
    apply (fails_orMalformed _).bind
    intro ratchetKey? _
    apply (fails_orMalformed _).bind
    intro counter? _
    apply (fails_orMalformed _).bind
    intro previousCounter? _
    apply (fails_orMalformed _).bind
    intro body? _
    split
    · apply (fails_readKey _).bind
      intro ratchetKey _
      exact fails_ok _
    · exact fails_invalid .incomplete

/-- Whatever is read has a version that is spoken. -/
theorem spoken_of_ofBytes {bytes : Bytes} {message : WhisperMessage}
    (reads : ofBytes bytes = .ok message) : Spoken message.version := by
  simp only [ofBytes] at reads
  split at reads
  · cases reads
  · obtain ⟨⟨version, rest⟩, splits, reads⟩ := bind_eq_ok.mp reads
    obtain ⟨fields, _, reads⟩ := bind_eq_ok.mp reads
    obtain ⟨ratchetKey?, _, reads⟩ := bind_eq_ok.mp reads
    obtain ⟨counter?, _, reads⟩ := bind_eq_ok.mp reads
    obtain ⟨previousCounter?, _, reads⟩ := bind_eq_ok.mp reads
    obtain ⟨body?, _, reads⟩ := bind_eq_ok.mp reads
    split at reads
    · obtain ⟨ratchetKey, _, reads⟩ := bind_eq_ok.mp reads
      cases reads
      exact spoken_of_splitVersion splits
    · cases reads

end WhisperMessage

namespace PreKeyWhisperMessage

open Message

/-- Octets of a first message announce a version themselves and in the message inside. -/
def Announces (bytes : Bytes) (version : UInt8) : Prop :=
  announced? bytes = some version ∨
    ∃ inside, embedded? bytes = some inside ∧ announced? inside = some version

theorem embedded?_eq {bytes rest inside : Bytes} {version : UInt8} {fields : List Wire.Field}
    (splits : splitVersion bytes = .ok (version, rest)) (body : Wire.read? rest = some fields)
    (embeds : Wire.octets? fields 4 = some (some inside)) : embedded? bytes = some inside := by
  simp only [embedded?, splits, Except.toOption, Option.bind_eq_bind, Option.bind_some, body,
    embeds, Option.join_some]

theorem fails_ofBytes (bytes : Bytes) : Fails (Announces bytes) (ofBytes bytes) := by
  simp only [ofBytes]
  apply Fails.bind ((fails_splitVersion bytes).mono fun _ => .inl)
  rintro ⟨version, rest⟩ splits
  apply (fails_orMalformed _).bind
  intro fields body
  apply (fails_orMalformed _).bind
  intro preKeyId _
  apply (fails_orMalformed _).bind
  intro baseKey? _
  apply (fails_orMalformed _).bind
  intro identity? _
  apply (fails_orMalformed _).bind
  intro message? embeds
  apply (fails_orMalformed _).bind
  intro registrationId? _
  apply (fails_orMalformed _).bind
  intro signedPreKeyId _
  split
  · exact fails_invalid .incomplete
  · split
    · next inside _ _ =>
      have found : embedded? bytes = some inside :=
        embedded?_eq splits (orMalformed_eq_ok.mp body) (orMalformed_eq_ok.mp embeds)
      apply (fails_readKey _).bind
      intro baseKey _
      apply (fails_readIdentity _).bind
      intro identity _
      -- The reader of the message inside is the only other one that looks at a version.
      apply Fails.bind ((WhisperMessage.fails_ofBytes inside).mono
        fun _ announces => .inr ⟨inside, found, announces⟩)
      intro message _
      exact fails_ok _
    · exact fails_invalid .incomplete

end PreKeyWhisperMessage

namespace KeyExchangeMessage

open Message

theorem fails_ofBytes (bytes : Bytes) :
    Fails (fun version => announced? bytes = some version) (ofBytes bytes) := by
  simp only [ofBytes]
  apply (fails_splitVersion bytes).bind
  rintro ⟨version, rest⟩ _
  apply (fails_orMalformed _).bind
  intro fields _
  apply (fails_orMalformed _).bind
  intro id? _
  apply (fails_orMalformed _).bind
  intro baseKey? _
  apply (fails_orMalformed _).bind
  intro ratchetKey? _
  apply (fails_orMalformed _).bind
  intro identity? _
  apply (fails_orMalformed _).bind
  intro signature _
  apply (fails_orMalformed _).bind
  intro identityUpdate _
  split
  · exact fails_invalid .incompleteExchange
  · split
    · apply (fails_readKey _).bind
      intro baseKey _
      apply (fails_readKey _).bind
      intro ratchetKey _
      apply (fails_readIdentity _).bind
      intro identity _
      exact fails_ok _
    · exact fails_invalid .incompleteExchange

end KeyExchangeMessage
end DoubleRatchet
