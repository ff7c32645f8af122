import DoubleRatchet.Proofs.Wire.Field

namespace DoubleRatchet

/-!
# What is read fits its prefix

A reader takes any octets, also those that no writer has spelled.  Still, whatever it
reads can be written again: a number is read from at most ten octets, the last of
which holds one bit, so it is below two to the 64, and that bounds the length of every
string, because the length is such a number.
-/

namespace Varint

/-- A number that is read within some room, whose last octet holds one bit. -/
theorem decodeWithin_lt {room : Nat} {bytes rest : Bytes} {value : Nat}
    (reads : decodeWithin (room + 1) bytes = some (value, rest)) : value < 2 <<< (7 * room) := by
  induction room generalizing bytes value with
  | zero =>
    cases bytes with
    | nil => cases reads
    | cons octet later =>
      rw [decodeWithin] at reads
      split at reads
      · split at reads
        · cases reads
        · next bit =>
          cases reads
          rw [not_and, UInt8.lt_iff_toNat_lt] at bit
          exact Nat.lt_succ_of_le (Nat.le_of_not_lt (bit rfl))
      · cases reads
  | succ room ih =>
    have groups : 2 <<< (7 * (room + 1)) = 128 * 2 <<< (7 * room) := by
      rw [Nat.mul_succ, Nat.shiftLeft_add, Nat.shiftLeft_eq _ 7, Nat.mul_comm]
    have positive : 0 < 2 <<< (7 * room) := by
      rw [Nat.shiftLeft_eq]
      exact Nat.mul_pos (by decide) (Nat.two_pow_pos _)
    cases bytes with
    | nil => cases reads
    | cons octet later =>
      have width := octet.toNat_lt
      rw [decodeWithin] at reads
      split at reads
      · next last =>
        split at reads
        · cases reads
        · cases reads
          rw [UInt8.lt_iff_toNat_lt] at last
          have below : octet.toNat < 128 := last
          omega
      · obtain ⟨⟨higher, after⟩, deeper, same⟩ := Option.map_eq_some_iff.mp reads
        cases same
        have bounded := ih deeper
        omega

theorem decode?_lt {bytes rest : Bytes} {value : Nat}
    (reads : decode? bytes = some (value, rest)) : value < 2 ^ 64 :=
  decodeWithin_lt reads

end Varint

namespace Wire

/-- A field whose length prefix has room for its octets. -/
def Field.Short (field : Field) : Prop :=
  ∀ bytes, field.payload = .octets bytes -> bytes.length < 2 ^ 64

theorem short_of_readPayload? {kind : Kind} {bytes rest : Bytes} {payload : Payload}
    (reads : readPayload? kind bytes = some (payload, rest)) (number : Nat) :
    (Field.mk number payload).Short := by
  rintro content rfl
  cases kind with
  | varint =>
    obtain ⟨_, _, same⟩ := Option.map_eq_some_iff.mp reads
    cases same
  | fixed64 =>
    obtain ⟨_, _, same⟩ := Option.map_eq_some_iff.mp reads
    cases same
  | fixed32 =>
    obtain ⟨_, _, same⟩ := Option.map_eq_some_iff.mp reads
    cases same
  | delimited =>
    simp only [readPayload?, Option.bind_eq_bind, Option.bind_eq_some_iff] at reads
    obtain ⟨⟨length, later⟩, decodes, after, _, same⟩ := reads
    cases same
    rw [List.length_take]
    exact Nat.lt_of_le_of_lt (Nat.min_le_left _ _) (Varint.decode?_lt decodes)
  | groupStart => cases reads
  | groupEnd => cases reads

/-- One pass keeps to the bound, whatever groups are open. -/
theorem short_of_readFields {steps : Nat} {groups : List Nat} {bytes : Bytes}
    {fields : List Field} (reads : readFields steps groups bytes = some fields) :
    ∀ field ∈ fields, field.Short := by
  fun_induction readFields steps groups bytes generalizing fields with
  | case1 =>
    cases reads
    exact List.forall_mem_nil _
  | case2 => cases reads
  | case3 steps groups bytes _ closing opening nesting plain nested =>
    obtain ⟨⟨number, kind, rest⟩, _, reads⟩ := Option.bind_eq_some_iff.mp reads
    dsimp only at reads
    split at reads
    · cases reads
    · split at reads
      · exact closing _ _ reads
      · cases reads
    · -- A group is kept as something of the wrong kind.
      obtain ⟨later, deeper, rfl⟩ := Option.map_eq_some_iff.mp reads
      refine List.forall_mem_cons.mpr ⟨?_, opening _ _ deeper⟩
      rintro content ⟨⟩
    · split at reads
      · exact nesting _ _ _ _ reads
      · cases reads
    · obtain ⟨⟨payload, after⟩, content, reads⟩ := Option.bind_eq_some_iff.mp reads
      obtain ⟨later, deeper, rfl⟩ := Option.map_eq_some_iff.mp reads
      exact List.forall_mem_cons.mpr ⟨short_of_readPayload? content number, plain _ deeper⟩
    · split at reads
      · obtain ⟨⟨payload, after⟩, _, reads⟩ := Option.bind_eq_some_iff.mp reads
        exact nested _ _ _ reads
      · cases reads

/-- The octets that count for a number are those of one of the fields. -/
theorem exists_of_octets? {fields : List Field} {number : Nat} {bytes : Bytes}
    (found : octets? fields number = some (some bytes)) :
    ∃ field ∈ fields, field.payload = .octets bytes := by
  suffices none = some bytes ∨
      ∃ field ∈ fields.filter (fun field => field.number = number), field.payload = .octets bytes by
    rcases this with nothing | ⟨field, member, holds⟩
    · cases nothing
    · exact ⟨field, (List.mem_filter.mp member).1, holds⟩
  -- The reader goes on from the octets that it has found so far.
  unfold octets? at found
  generalize (none : Option Bytes) = before at found ⊢
  generalize fields.filter (fun field => field.number = number) = fields at found ⊢
  induction fields generalizing before with
  | nil => exact .inl (Option.some.inj found)
  | cons field rest ih =>
    rw [List.foldlM_cons] at found
    obtain ⟨after, here, found⟩ := Option.bind_eq_some_iff.mp found
    split at here
    · next content held =>
      cases here
      rcases ih _ found with same | ⟨other, member, holds⟩
      · cases same
        exact .inr ⟨field, List.mem_cons_self .., held⟩
      · exact .inr ⟨other, List.mem_cons_of_mem _ member, holds⟩
    · cases here

/-- Octets that are found in a body can be written into another one. -/
theorem length_of_octets? {body : Bytes} {fields : List Field} {number : Nat} {bytes : Bytes}
    (reads : read? body = some fields) (found : octets? fields number = some (some bytes)) :
    bytes.length < 2 ^ 64 := by
  obtain ⟨field, member, holds⟩ := exists_of_octets? found
  exact short_of_readFields reads field member bytes holds

end Wire
end DoubleRatchet
