import DoubleRatchet.Proofs.Message.Reading
import DoubleRatchet.Proofs.Wire.Reading

namespace DoubleRatchet

/-!
# Messages that fit their format

Not every value is one that a format has room for.  A first message has to name the
pre-key of its version, a key exchange of the newer version has to be signed, and its
sequence shares a word with the flags.  Values that fit are read back as they were
written, and whatever is read, from any spelling, fits.
-/

theorem Message.orMalformed_eq_ok {α : Type} {reader : Option α} {value : α} :
    orMalformed reader = .ok value ↔ reader = some value := by
  cases reader with
  | none => simp [orMalformed]
  | some other => simp [orMalformed]

namespace WhisperMessage

/-- Reading keeps the octets. -/
theorem toBytes_of_ofBytes {bytes : Bytes} {message : WhisperMessage}
    (reads : ofBytes bytes = .ok message) : message.toBytes = bytes := by
  simp only [ofBytes] at reads
  split at reads
  · cases reads
  · obtain ⟨⟨version, rest⟩, _, reads⟩ := Message.bind_eq_ok.mp reads
    obtain ⟨fields, _, reads⟩ := Message.bind_eq_ok.mp reads
    obtain ⟨ratchetKey?, _, reads⟩ := Message.bind_eq_ok.mp reads
    obtain ⟨counter?, _, reads⟩ := Message.bind_eq_ok.mp reads
    obtain ⟨previousCounter?, _, reads⟩ := Message.bind_eq_ok.mp reads
    obtain ⟨body?, _, reads⟩ := Message.bind_eq_ok.mp reads
    split at reads
    · obtain ⟨ratchetKey, _, reads⟩ := Message.bind_eq_ok.mp reads
      cases reads
      rfl
    · cases reads

/-- A message that was made here, in a version that is spoken and with a text that no
length prefix is too narrow for. -/
def Made [Suite] (message : WhisperMessage) : Prop :=
  ∃ (version : UInt8) (macKey : Octets 32) (ratchetKey : PublicKey)
    (counter previousCounter : UInt32) (body : Bytes) (sender receiver : IdentityKey),
    Message.Spoken version ∧ body.length < 2 ^ 63 ∧
      message = create version macKey ratchetKey counter previousCounter body sender receiver

theorem Made.ofBytes_toBytes [Suite] {message : WhisperMessage} (made : message.Made) :
    ofBytes message.toBytes = .ok message := by
  obtain ⟨_, _, _, _, _, _, _, _, spoken, short, rfl⟩ := made
  exact ofBytes_create spoken short

theorem Made.length_toBytes [Suite] {message : WhisperMessage} (made : message.Made) :
    message.toBytes.length < 2 ^ 64 := by
  obtain ⟨version, macKey, ratchetKey, counter, previousCounter, body, sender, receiver, _, short,
    rfl⟩ := made
  have longest : (create version macKey ratchetKey counter previousCounter body sender
      receiver).toBytes.length ≤ body.length + 142 := length_create_le
  omega

end WhisperMessage

namespace PreKeyWhisperMessage

/-- The octets that stand for the message inside. -/
def embedded? (bytes : Bytes) : Option Bytes := do
  let (_, rest) ← (Message.splitVersion bytes).toOption
  let fields ← Wire.read? rest
  (Wire.octets? fields 4).join

/-- A message that its format has room for. -/
structure Fits (message : PreKeyWhisperMessage) : Prop where
  spoken : Message.Spoken message.version
  complete : message.Complete
  short : message.message.toBytes.length < 2 ^ 64
  inner : WhisperMessage.ofBytes message.message.toBytes = .ok message.message

/-- Whatever is read fits, and the message inside keeps its octets. -/
theorem fits_of_ofBytes {bytes : Bytes} {message : PreKeyWhisperMessage}
    (reads : ofBytes bytes = .ok message) :
    message.Fits ∧ embedded? bytes = some message.message.toBytes := by
  simp only [ofBytes] at reads
  obtain ⟨⟨version, rest⟩, splits, reads⟩ := Message.bind_eq_ok.mp reads
  obtain ⟨fields, body, reads⟩ := Message.bind_eq_ok.mp reads
  obtain ⟨preKeyId, _, reads⟩ := Message.bind_eq_ok.mp reads
  obtain ⟨baseKey?, _, reads⟩ := Message.bind_eq_ok.mp reads
  obtain ⟨identity?, _, reads⟩ := Message.bind_eq_ok.mp reads
  obtain ⟨message?, embeds, reads⟩ := Message.bind_eq_ok.mp reads
  obtain ⟨registrationId?, _, reads⟩ := Message.bind_eq_ok.mp reads
  obtain ⟨signedPreKeyId, _, reads⟩ := Message.bind_eq_ok.mp reads
  split at reads
  · cases reads
  · next named =>
    split at reads
    · obtain ⟨baseKey, _, reads⟩ := Message.bind_eq_ok.mp reads
      obtain ⟨identity, _, reads⟩ := Message.bind_eq_ok.mp reads
      obtain ⟨inside, inner, reads⟩ := Message.bind_eq_ok.mp reads
      cases reads
      have parsed := Message.orMalformed_eq_ok.mp body
      have found := Message.orMalformed_eq_ok.mp embeds
      have kept := WhisperMessage.toBytes_of_ofBytes inner
      refine ⟨⟨Message.spoken_of_splitVersion splits, ?_, ?_, ?_⟩, ?_⟩
      · rw [Bool.not_eq_true', Bool.not_eq_false] at named
        exact named
      · rw [kept]
        exact Wire.length_of_octets? parsed found
      · rw [kept]
        exact inner
      · rw [kept, embedded?, splits]
        simp only [Except.toOption, Option.bind_eq_bind, Option.bind_some, parsed, found,
          Option.join_some]
    · cases reads

end PreKeyWhisperMessage

namespace KeyExchangeMessage

/-- The word that a sequence shares with the flags. -/
theorem toNat_word {sequence flags : UInt32} (narrow : sequence.toNat < 2 ^ 27)
    (low : flags.toNat < 32) :
    (sequence <<< flagBits ||| flags).toNat = 32 * sequence.toNat + flags.toNat := by
  have room : sequence.toNat <<< 5 < 2 ^ 32 := by
    rw [Nat.shiftLeft_eq]
    omega
  have packed : sequence.toNat <<< 5 + flags.toNat = sequence.toNat <<< 5 ||| flags.toNat :=
    Nat.shiftLeft_add_eq_or_of_lt (i := 5) low sequence.toNat
  calc (sequence <<< flagBits ||| flags).toNat
      = sequence.toNat <<< 5 % 2 ^ 32 ||| flags.toNat := by
        rw [UInt32.toNat_or, UInt32.toNat_shiftLeft]
        rfl
    _ = sequence.toNat <<< 5 + flags.toNat := by
        rw [Nat.mod_eq_of_lt room, packed]
    _ = 32 * sequence.toNat + flags.toNat := by
        rw [Nat.shiftLeft_eq]
        omega

theorem toNat_high (word : UInt32) : (word >>> flagBits).toNat = word.toNat / 32 := by
  rw [UInt32.toNat_shiftRight]
  exact Nat.shiftRight_eq_div_pow word.toNat 5

theorem toNat_low (word : UInt32) : (word &&& 31).toNat = word.toNat % 32 := by
  rw [UInt32.toNat_and]
  exact Nat.and_two_pow_sub_one_eq_mod word.toNat 5

theorem toNat_high_lt (word : UInt32) : (word >>> flagBits).toNat < 2 ^ 27 := by
  have width := word.toNat_lt
  rw [toNat_high]
  omega

theorem toNat_low_lt (word : UInt32) : (word &&& 31).toNat < 32 := by
  rw [toNat_low]
  exact Nat.mod_lt _ (by decide)

/-- A message that its format has room for. -/
structure Fits (message : KeyExchangeMessage) : Prop where
  spoken : Message.Spoken message.version
  signed : currentVersion ≤ message.version → message.baseKeySignature.isSome
  narrow : message.sequence.toNat < 2 ^ 27
  low : message.flags.toNat < 32
  shortSignature : ∀ bytes ∈ message.baseKeySignature, bytes.length < 2 ^ 64
  shortUpdate : ∀ bytes ∈ message.identityUpdate, bytes.length < 2 ^ 64

/-- The fields of a message. -/
def fields (message : KeyExchangeMessage) : List Wire.Field :=
  Wire.numberField 1 (message.sequence <<< flagBits ||| message.flags) ++
    Wire.octetsField 2 message.baseKey.toBytes ++ Wire.octetsField 3 message.ratchetKey.toBytes ++
    Wire.octetsField 4 message.identity.toBytes ++ Wire.octetsField 5 message.baseKeySignature ++
    Wire.octetsField 6 message.identityUpdate

theorem toBytes_eq (message : KeyExchangeMessage) :
    message.toBytes = Message.versionOctet message.version :: Wire.write message.fields :=
  rfl

theorem Fits.allWritable {message : KeyExchangeMessage} (fits : message.Fits) :
    Wire.AllWritable message.fields := by
  have number : Wire.AllWritable
      (Wire.numberField 1 (message.sequence <<< flagBits ||| message.flags)) :=
    Wire.writable_numberField (by decide) (by decide) _
  have base : Wire.AllWritable (Wire.octetsField 2 message.baseKey.toBytes) :=
    Wire.allWritable_key (by decide) (by decide) message.baseKey
  have ratchet : Wire.AllWritable (Wire.octetsField 3 message.ratchetKey.toBytes) :=
    Wire.allWritable_key (by decide) (by decide) message.ratchetKey
  have sender : Wire.AllWritable (Wire.octetsField 4 message.identity.toBytes) :=
    Wire.allWritable_identity (by decide) (by decide) message.identity
  have signing : Wire.AllWritable (Wire.octetsField 5 message.baseKeySignature) :=
    Wire.writable_octetsField (by decide) (by decide) fits.shortSignature
  have carried : Wire.AllWritable (Wire.octetsField 6 message.identityUpdate) :=
    Wire.writable_octetsField (by decide) (by decide) fits.shortUpdate
  exact ((((number.append base).append ratchet).append sender).append signing).append carried

/-- Each field is found under its number. -/
theorem find_fields (message : KeyExchangeMessage) :
    Wire.number? message.fields 1 =
        some (some (message.sequence <<< flagBits ||| message.flags)) ∧
      Wire.octets? message.fields 2 = some (some message.baseKey.toBytes) ∧
      Wire.octets? message.fields 3 = some (some message.ratchetKey.toBytes) ∧
      Wire.octets? message.fields 4 = some (some message.identity.toBytes) ∧
      Wire.octets? message.fields 5 = some message.baseKeySignature ∧
      Wire.octets? message.fields 6 = some message.identityUpdate := by
  obtain ⟨version, sequence, flags, baseKey, signature, ratchetKey, identity, update⟩ := message
  refine ⟨?_, ?_, ?_, ?_, ?_, ?_⟩
  · unfold fields
    dsimp only
    generalize sequence <<< flagBits ||| flags = word
    cases signature <;> cases update <;>
      simp [Wire.number?, Wire.numberField, Wire.octetsField]
  all_goals cases signature <;> cases update <;> rfl

/-- A message that fits is read as it was made. -/
theorem Fits.ofBytes_toBytes {message : KeyExchangeMessage} (fits : message.Fits) :
    ofBytes message.toBytes = .ok message := by
  have word := toNat_word fits.narrow fits.low
  have low := fits.low
  have sequenceRead :
      (message.sequence <<< flagBits ||| message.flags) >>> flagBits = message.sequence := by
    apply UInt32.toNat_inj.mp
    rw [toNat_high]
    omega
  have flagsRead : (message.sequence <<< flagBits ||| message.flags) &&& 31 = message.flags := by
    apply UInt32.toNat_inj.mp
    rw [toNat_low]
    omega
  have signatureGiven :
      ¬ (currentVersion ≤ message.version ∧ message.baseKeySignature.isNone = true) := by
    rintro ⟨newer, missing⟩
    have signed := fits.signed newer
    rw [Option.isNone_iff_eq_none.mp missing] at signed
    cases signed
  obtain ⟨first, second, third, fourth, fifth, sixth⟩ := message.find_fields
  unfold ofBytes
  rw [toBytes_eq, Message.splitVersion_versionOctet fits.spoken]
  simp only [Except.bind, bind, Wire.read?_write fits.allWritable, Message.orMalformed, first,
    second, third, fourth, fifth, sixth, if_neg signatureGiven, Message.readKey_toBytes,
    Message.readIdentity_toBytes, sequenceRead, flagsRead]
  rfl

/-- Whatever is read fits. -/
theorem fits_of_ofBytes {bytes : Bytes} {message : KeyExchangeMessage}
    (reads : ofBytes bytes = .ok message) : message.Fits := by
  simp only [ofBytes] at reads
  obtain ⟨⟨version, rest⟩, splits, reads⟩ := Message.bind_eq_ok.mp reads
  obtain ⟨fields, body, reads⟩ := Message.bind_eq_ok.mp reads
  obtain ⟨id?, _, reads⟩ := Message.bind_eq_ok.mp reads
  obtain ⟨baseKey?, _, reads⟩ := Message.bind_eq_ok.mp reads
  obtain ⟨ratchetKey?, _, reads⟩ := Message.bind_eq_ok.mp reads
  obtain ⟨identity?, _, reads⟩ := Message.bind_eq_ok.mp reads
  obtain ⟨signature, signing, reads⟩ := Message.bind_eq_ok.mp reads
  obtain ⟨identityUpdate, carried, reads⟩ := Message.bind_eq_ok.mp reads
  have parsed := Message.orMalformed_eq_ok.mp body
  split at reads
  · cases reads
  · next signatureGiven =>
    split at reads
    · obtain ⟨baseKey, _, reads⟩ := Message.bind_eq_ok.mp reads
      obtain ⟨ratchetKey, _, reads⟩ := Message.bind_eq_ok.mp reads
      obtain ⟨identity, _, reads⟩ := Message.bind_eq_ok.mp reads
      cases reads
      constructor
      · exact Message.spoken_of_splitVersion splits
      · intro newer
        rw [← Option.not_isNone, Bool.not_eq_true', ← Bool.not_eq_true]
        exact fun missing => signatureGiven ⟨newer, missing⟩
      · exact toNat_high_lt _
      · exact toNat_low_lt _
      · rintro content rfl
        exact Wire.length_of_octets? parsed (Message.orMalformed_eq_ok.mp signing)
      · rintro content rfl
        exact Wire.length_of_octets? parsed (Message.orMalformed_eq_ok.mp carried)
    · cases reads

end KeyExchangeMessage

end DoubleRatchet
