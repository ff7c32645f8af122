import DoubleRatchet.Json.Shape
import DoubleRatchet.Proofs.Json.Tree

namespace DoubleRatchet
namespace Json

/-!
# Shapes read back

The shapes that documents are made of, fields, numbers, octets, lists and
absent values, are read as they were written.  `Faithful` collects what is
needed of the writer and the reader of a thing: its tree is plain, it is
not the tree of nothing, and it reads back as the thing.  A thing with faithful
parts is then faithful by `fields?_ofFields` and a look at each of its fields.
-/

/-! ## Text and octets -/

/-- A character that stands for itself in a string. -/
def IsPlainChar (c : Char) : Prop :=
  0x20 ≤ c.toNat ∧ c.toNat < 0x80 ∧ c ≠ '"' ∧ c ≠ '\\'

instance (c : Char) : Decidable (IsPlainChar c) :=
  inferInstanceAs (Decidable (_ ∧ _))

theorem toNat_ascii {c : Char} (plain : IsPlainChar c) : (ascii c).toNat = c.toNat :=
  UInt8.toNat_ofNat_of_lt' (Nat.lt_trans plain.2.1 (by decide))

theorem isPlain_ascii {c : Char} (plain : IsPlainChar c) : IsPlain (ascii c) := by
  have apart (other : Char) (small : other.toNat < 0x80) (different : c ≠ other) :
      ascii c ≠ ascii other := by
    intro same
    have codes := congrArg UInt8.toNat same
    rw [toNat_ascii plain, ascii,
      UInt8.toNat_ofNat_of_lt' (Nat.lt_trans small (by decide))] at codes
    exact different (Char.toNat_inj.mp codes)
  refine ⟨apart '"' (by decide) plain.2.2.1, apart '\\' (by decide) plain.2.2.2, fun below => ?_⟩
  have small := UInt8.lt_iff_toNat_lt.mp below
  rw [toNat_ascii plain] at small
  exact absurd plain.1 (Nat.not_le_of_lt small)

theorem utf8EncodeChar_of_plain {c : Char} (plain : IsPlainChar c) :
    String.utf8EncodeChar c = [ascii c] := by
  have small : c.toNat < 0x80 := plain.2.1
  have single : c.utf8Size = 1 := by
    rw [Char.utf8Size_eq_one_iff, UInt32.le_iff_toNat_le]
    exact Nat.le_of_lt_succ small
  rw [String.utf8EncodeChar_eq_singleton single]
  rfl

theorem flatMap_utf8EncodeChar_of_plain {chars : List Char}
    (plain : ∀ c ∈ chars, IsPlainChar c) :
    chars.flatMap String.utf8EncodeChar = chars.map ascii := by
  induction chars with
  | nil => rfl
  | cons c rest ih =>
    rw [List.flatMap_cons, utf8EncodeChar_of_plain (plain c (List.mem_cons_self ..)),
      ih fun other member => plain other (List.mem_cons_of_mem _ member)]
    rfl

theorem unescape?_of_plain {chars : List Char} (plain : ∀ c ∈ chars, IsPlainChar c) :
    unescape? chars = some chars := by
  induction chars with
  | nil => rfl
  | cons c rest ih =>
    have unescaped := (plain c (List.mem_cons_self ..)).2.2.2
    have later := ih fun other member => plain other (List.mem_cons_of_mem _ member)
    unfold unescape?
    split <;> simp_all

theorem charactersOf?_map_ascii {chars : List Char} (plain : ∀ c ∈ chars, IsPlainChar c) :
    charactersOf? (chars.map ascii) = some chars := by
  have octets : (chars.map ascii).toByteArray = (String.ofList chars).toByteArray := by
    rw [String.toByteArray_ofList, List.utf8Encode, flatMap_utf8EncodeChar_of_plain plain]
  have decoded : String.fromUTF8? (chars.map ascii).toByteArray = some (String.ofList chars) := by
    rw [octets, String.fromUTF8?, dif_pos (String.ofList chars).isValidUTF8]
    rfl
  simp only [charactersOf?, decoded, Option.bind_eq_bind, Option.bind_some, String.toList_ofList,
    unescape?_of_plain plain]

/-- A name in which nothing has to be escaped. -/
def IsPlainName (name : String) : Prop :=
  ∀ c ∈ name.toList, IsPlainChar c

instance (name : String) : Decidable (IsPlainName name) :=
  List.decidableBAll IsPlainChar name.toList

theorem escape_of_plain {c : Char} (plain : IsPlainChar c) : escape c = [c] := by
  have visible : ¬ c.toNat < 0x20 := Nat.not_lt_of_le plain.1
  unfold escape
  split <;> simp_all [IsPlainChar]

theorem flatMap_escape_of_plain {chars : List Char} (plain : ∀ c ∈ chars, IsPlainChar c) :
    chars.flatMap escape = chars := by
  induction chars with
  | nil => rfl
  | cons c rest ih =>
    rw [List.flatMap_cons, escape_of_plain (plain c (List.mem_cons_self ..)),
      ih fun other member => plain other (List.mem_cons_of_mem _ member)]
    rfl

theorem spellingOf_of_plain {name : String} (plain : IsPlainName name) :
    spellingOf name = name.toList.map ascii := by
  rw [spellingOf, flatMap_escape_of_plain plain, flatMap_utf8EncodeChar_of_plain plain]

theorem isPlain_spellingOf {name : String} (plain : IsPlainName name) :
    ∀ octet ∈ spellingOf name, IsPlain octet := by
  rw [spellingOf_of_plain plain]
  intro octet member
  obtain ⟨c, inName, rfl⟩ := List.mem_map.mp member
  exact isPlain_ascii (plain c inName)

theorem textOf?_spellingOf {name : String} (plain : IsPlainName name) :
    textOf? (spellingOf name) = some name := by
  rw [spellingOf_of_plain plain, textOf?, charactersOf?_map_ascii plain]
  simp

/-- The digits of octets are plain, in either half of an octet. -/
theorem isPlainChar_digit : ∀ half : Fin 256,
    IsPlainChar (Hex.digit (UInt8.ofFin half >>> 4)) ∧
      IsPlainChar (Hex.digit (UInt8.ofFin half &&& 15)) := by
  decide +kernel

theorem isPlainChar_of_mem_encode {bytes : Bytes} : ∀ c ∈ Hex.encode bytes, IsPlainChar c := by
  intro c member
  obtain ⟨octet, -, digit⟩ := List.mem_flatMap.mp member
  have both := isPlainChar_digit octet.toFin
  rw [UInt8.ofFin_toFin] at both
  rcases List.mem_cons.mp digit with rfl | last
  · exact both.1
  · rw [List.mem_singleton.mp last]
    exact both.2

/-! ## Trees of shapes -/

namespace Value

theorem mem_itemTokens {items : List Value} {token : Token} (member : token ∈ itemTokens items) :
    token = .comma ∨ ∃ item ∈ items, token ∈ item.toTokens := by
  induction items with
  | nil => cases member
  | cons item rest ih =>
    have cases : token ∈ item.toTokens ∨ token = .comma ∨ token ∈ itemTokens rest := by
      cases rest with
      | nil =>
        rw [itemTokens, List.append_nil] at member
        exact .inl member
      | cons second later =>
        rw [itemTokens] at member
        simpa using member
    rcases cases with first | comma | later
    · exact .inr ⟨item, List.mem_cons_self .., first⟩
    · exact .inl comma
    · exact (ih later).imp_right fun ⟨other, inRest, inOther⟩ =>
        ⟨other, List.mem_cons_of_mem _ inRest, inOther⟩

theorem mem_memberTokens {members : List (Bytes × Value)} {token : Token}
    (member : token ∈ memberTokens members) :
    token = .comma ∨ token = .colon ∨
      ∃ field ∈ members, token = .string field.1 ∨ token ∈ field.2.toTokens := by
  induction members with
  | nil => cases member
  | cons field rest ih =>
    obtain ⟨key, value⟩ := field
    have cases : token = .string key ∨ token = .colon ∨ token ∈ value.toTokens ∨
        token = .comma ∨ token ∈ memberTokens rest := by
      cases rest with
      | nil =>
        rw [memberTokens, List.append_nil] at member
        rcases List.mem_cons.mp member with first | member
        · exact .inl first
        · rcases List.mem_cons.mp member with colon | inValue
          · exact .inr (.inl colon)
          · exact .inr (.inr (.inl inValue))
      | cons second later =>
        rw [memberTokens] at member
        simpa using member
    rcases cases with first | colon | inValue | comma | later
    · exact .inr (.inr ⟨_, List.mem_cons_self .., .inl first⟩)
    · exact .inr (.inl colon)
    · exact .inr (.inr ⟨_, List.mem_cons_self .., .inr inValue⟩)
    · exact .inl comma
    · exact (ih later).imp_right fun found => found.imp_right fun ⟨other, inRest, inOther⟩ =>
        ⟨other, List.mem_cons_of_mem _ inRest, inOther⟩

theorem isPlain_array {items : List Value} (plain : ∀ item ∈ items, item.IsPlain) :
    (array items).IsPlain := by
  intro token member
  have cases : token = .openBracket ∨ token ∈ itemTokens items ∨ token = .closeBracket := by
    simpa [toTokens] using member
  rcases cases with rfl | inside | rfl
  · trivial
  · rcases mem_itemTokens inside with rfl | ⟨item, inItems, inItem⟩
    · trivial
    · exact plain item inItems token inItem
  · trivial

theorem isPlain_object {members : List (Bytes × Value)}
    (keys : ∀ member ∈ members, ∀ octet ∈ member.1, Json.IsPlain octet)
    (values : ∀ member ∈ members, member.2.IsPlain) : (object members).IsPlain := by
  intro token member
  have cases : token = .openBrace ∨ token ∈ memberTokens members ∨ token = .closeBrace := by
    simpa [toTokens] using member
  rcases cases with rfl | inside | rfl
  · trivial
  · rcases mem_memberTokens inside with rfl | rfl | ⟨field, inMembers, rfl | inValue⟩
    · trivial
    · trivial
    · exact keys field inMembers
    · exact values field inMembers token inValue
  · trivial

theorem isPlain_null : null.IsPlain := by
  intro token member
  rw [List.mem_singleton.mp member]
  trivial

end Value

/-! ## Numbers -/

theorem isPlainChar_of_isDigit : ∀ c : Char, c.isDigit = true -> IsPlainChar c := by
  intro c digit
  obtain ⟨lower, upper⟩ := Char.isDigit_iff_toNat.mp digit
  have codes : '0'.toNat = 48 ∧ '9'.toNat = 57 := ⟨rfl, rfl⟩
  refine ⟨by omega, by omega, ?_, ?_⟩
  · rintro rfl
    cases digit
  · rintro rfl
    cases digit

theorem isDigit_ascii {c : Char} (digit : c.isDigit = true) : isDigit (ascii c) = true := by
  have code := toNat_ascii (isPlainChar_of_isDigit c digit)
  obtain ⟨lower, upper⟩ := Char.isDigit_iff_toNat.mp digit
  have zero : (ascii '0').toNat = '0'.toNat := rfl
  have nine : (ascii '9').toNat = '9'.toNat := rfl
  simp only [isDigit, Bool.and_eq_true, decide_eq_true_eq, UInt8.le_iff_toNat_le, code, zero,
    nine]
  exact ⟨lower, upper⟩

theorem isDigit_of_mem_toDigits {n : Nat} : ∀ c ∈ Nat.toDigits 10 n, c.isDigit = true :=
  fun _ member => Nat.isDigit_of_mem_toDigits (by decide) (by decide) member

/-- No digit stands behind a leading zero. -/
theorem head?_toDigits_ne_zero {n : Nat} (positive : 0 < n) :
    (Nat.toDigits 10 n).head? ≠ some '0' := by
  induction n using Nat.strongRecOn with
  | ind n ih =>
    rw [Nat.toDigits_eq_if (by decide)]
    split
    · next small =>
      intro zero
      have value := Nat.toNat_digitChar_sub_48_of_lt_ten small
      rw [Option.some.inj zero] at value
      exact absurd value.symm (Nat.pos_iff_ne_zero.mp positive)
    · next large =>
      have earlier := ih (n / 10) (by omega) (by omega)
      intro zero
      cases digits : Nat.toDigits 10 (n / 10) with
      | nil => exact Nat.toDigits_ne_nil digits
      | cons first rest =>
        rw [digits] at earlier zero
        exact earlier zero

theorem isNumeral_toDigits (n : Nat) : IsNumeral ((Nat.toDigits 10 n).map ascii) := by
  rcases Nat.eq_zero_or_pos n with rfl | positive
  · exact .zero
  · have leading := head?_toDigits_ne_zero positive
    have all := @isDigit_of_mem_toDigits n
    cases digits : Nat.toDigits 10 n with
    | nil => exact absurd digits Nat.toDigits_ne_nil
    | cons first rest =>
      rw [digits] at leading all
      refine .digits (fun zero => leading ?_) (isDigit_ascii (all first (List.mem_cons_self ..)))
        fun octet member => ?_
      · have plain := isPlainChar_of_isDigit first (all first (List.mem_cons_self ..))
        have codes := congrArg UInt8.toNat zero
        rw [toNat_ascii plain] at codes
        exact congrArg some (Char.toNat_inj.mp codes)
      · obtain ⟨c, inRest, rfl⟩ := List.mem_map.mp member
        exact isDigit_ascii (all c (List.mem_cons_of_mem _ inRest))

/-- Numerals satisfy what a reader of plain numbers asks of them. -/
theorem IsNumeral.plain {spelling : Bytes} (numeral : IsNumeral spelling) :
    spelling.isEmpty = false ∧ spelling.all isDigit = true ∧
      (spelling.length = 1 ∨ spelling.head? ≠ some (ascii '0')) := by
  cases numeral with
  | zero => exact ⟨rfl, rfl, .inl rfl⟩
  | @digits first rest leading firstDigit restDigits =>
    refine ⟨rfl, ?_, .inr fun zero => leading (Option.some.inj zero)⟩
    rw [List.all_cons, firstDigit, Bool.true_and, List.all_eq_true]
    exact restDigits

theorem map_toNat_map_ascii {chars : List Char} (plain : ∀ c ∈ chars, IsPlainChar c) :
    (chars.map ascii).map (fun octet => Char.ofNat octet.toNat) = chars := by
  rw [List.map_map]
  calc chars.map ((fun octet => Char.ofNat octet.toNat) ∘ ascii)
      = chars.map id := List.map_congr_left fun c member => by
        rw [Function.comp_apply, toNat_ascii (plain c member), Char.ofNat_toNat, id]
    _ = chars := List.map_id chars

theorem plainNumber?_toDigits {bound n : Nat} (fits : n < bound) :
    Value.plainNumber? bound ((Nat.toDigits 10 n).map ascii) = some n := by
  have chars := map_toNat_map_ascii fun c member =>
    isPlainChar_of_isDigit c (isDigit_of_mem_toDigits (n := n) c member)
  obtain ⟨filled, all, leading⟩ := (isNumeral_toDigits n).plain
  have plain : (((Nat.toDigits 10 n).map ascii).all isDigit &&
      (((Nat.toDigits 10 n).map ascii).length = 1 ||
        ((Nat.toDigits 10 n).map ascii).head? ≠ some (ascii '0') : Bool)) = true := by
    rw [all, Bool.true_and, Bool.or_eq_true, decide_eq_true_eq, decide_eq_true_eq]
    exact leading
  simp only [Value.plainNumber?, chars, Nat.ofDigitChars_ten_toDigits, filled, plain, fits,
    decide_true, Bool.not_false, Bool.and_self, if_true]

namespace Value

theorem isPlain_ofNat (n : Nat) : (ofNat n).IsPlain := by
  intro token member
  rw [List.mem_singleton.mp member]
  exact isNumeral_toDigits n

theorem toUInt8?_ofNat (n : UInt8) : (ofNat n.toNat).toUInt8? = some n := by
  have read := plainNumber?_toDigits n.toNat_lt
  simp only [toUInt8?, toNat?, ofNat, read, Option.map_some, UInt8.ofNat_toNat]

theorem toUInt32?_ofNat (n : UInt32) : (ofNat n.toNat).toUInt32? = some n := by
  have read := plainNumber?_toDigits n.toNat_lt
  simp only [toUInt32?, toNat?, ofNat, read, Option.map_some, UInt32.ofNat_toNat]

theorem toUInt64?_ofNat (n : UInt64) : (ofNat n.toNat).toUInt64? = some n := by
  have read := plainNumber?_toDigits n.toNat_lt
  simp only [toUInt64?, toNat?, ofNat, read, Option.map_some, UInt64.ofNat_toNat]

theorem isPlain_ofBytes (bytes : Bytes) : (ofBytes bytes).IsPlain := by
  intro token member
  rw [List.mem_singleton.mp member]
  intro octet inside
  obtain ⟨c, digit, rfl⟩ := List.mem_map.mp inside
  exact isPlain_ascii (isPlainChar_of_mem_encode c digit)

theorem toBytes?_ofBytes (bytes : Bytes) : (ofBytes bytes).toBytes? = some bytes := by
  have plain : ∀ c ∈ Hex.encode bytes, IsPlainChar c := isPlainChar_of_mem_encode
  have read := charactersOf?_map_ascii plain
  simp only [toBytes?, ofBytes, read, Option.bind_eq_bind, Option.bind_some, Hex.decode?_encode]

theorem toOctets?_ofBytes {n : Nat} (octets : Octets n) :
    (ofBytes octets.toList).toOctets? n = some octets := by
  simp only [toOctets?, toBytes?_ofBytes, Option.bind_eq_bind, Option.bind_some,
    Octets.ofList?_toList]

end Value

/-! ## Things -/

/-- A writer and a reader of a thing agree, and what is written is plain and not the
tree of nothing. -/
structure Faithful {α : Type} (write : α -> Value) (read : Value -> Option α) : Prop where
  isPlain : ∀ value, (write value).IsPlain
  ne_null : ∀ value, write value ≠ .null
  read_write : ∀ value, read (write value) = some value

theorem mapM_eq_some_map {α β : Type} {read : α -> Option β} {result : α -> β} (items : List α)
    (each : ∀ item ∈ items, read item = some (result item)) :
    items.mapM read = some (items.map result) := by
  induction items with
  | nil => rfl
  | cons item rest ih =>
    have later := ih fun other member => each other (List.mem_cons_of_mem _ member)
    simp [List.mapM_cons, each item (List.mem_cons_self ..), later]

namespace Value

variable {α : Type} {write : α -> Value} {read : Value -> Option α}

theorem isPlain_ofOption (faithful : Faithful write read) (value : Option α) :
    (ofOption write value).IsPlain := by
  cases value with
  | none => exact isPlain_null
  | some value => exact faithful.isPlain value

theorem optional_ofOption (faithful : Faithful write read) (value : Option α) :
    optional read (some (ofOption write value)) = some value := by
  cases value with
  | none => rfl
  | some value =>
    have filled := faithful.ne_null value
    have same := faithful.read_write value
    rw [ofOption, optional, same, Option.map_some]
    exact filled

theorem faithful_ofList (faithful : Faithful write read) :
    Faithful (ofList write) (toList? read) where
  isPlain values := by
    refine isPlain_array fun item member => ?_
    obtain ⟨value, -, rfl⟩ := List.mem_map.mp member
    exact faithful.isPlain value
  ne_null _ := nofun
  read_write values := by
    have each : values.mapM (read ∘ write) = some (values.map id) :=
      mapM_eq_some_map values fun value _ => faithful.read_write value
    rw [ofList, toList?, List.mapM_map, each, List.map_id]

theorem filter_name {fields : List (String × Value)} (distinct : (fields.map (·.1)).Nodup)
    {field : String × Value} (member : field ∈ fields) :
    (fields.filter fun other => other.1 = field.1) = [field] := by
  induction fields with
  | nil => cases member
  | cons first rest ih =>
    obtain ⟨apart, restDistinct⟩ := List.nodup_cons.mp distinct
    have different (other : String × Value) (inRest : other ∈ rest) : other.1 ≠ first.1 :=
      fun same => apart (List.mem_map.mpr ⟨other, inRest, same⟩)
    rcases List.mem_cons.mp member with rfl | inRest
    · have none : rest.filter (fun other => other.1 = field.1) = [] :=
        List.filter_eq_nil_iff.mpr fun other inRest => by simpa using different other inRest
      simp [none]
    · simp [(different field inRest).symm, ih restDistinct inRest]

/-- Fields in order are found under their names. -/
theorem fields?_zip (names : List String) (values : List Value)
    (plain : ∀ name ∈ names, IsPlainName name) (distinct : names.Nodup)
    (exact : names.length = values.length) (optional : Nat) :
    (ofFields (names.zip values)).fields? names optional = some (values.map some) := by
  have first : (names.zip values).map (·.1) = names := List.map_fst_zip (Nat.le_of_eq exact)
  have second : (names.zip values).map (·.2) = values :=
    List.map_snd_zip (Nat.le_of_eq exact.symm)
  have named : ((names.zip values).map fun field => (spellingOf field.1, field.2)).mapM
      (fun member => (textOf? member.1).map (·, member.2)) = some (names.zip values) := by
    have each (field : String × Value) (member : field ∈ names.zip values) :
        ((fun member => (textOf? member.1).map (·, member.2)) ∘
          fun field : String × Value => (spellingOf field.1, field.2)) field =
            some (id field) := by
      simp [textOf?_spellingOf (plain field.1 (List.of_mem_zip member).1)]
    rw [List.mapM_map, mapM_eq_some_map (names.zip values) each, List.map_id]
  have found : ((names.zip values).map (·.1)).mapM (uniqueField? (names.zip values)) =
      some ((names.zip values).map fun field => some field.2) := by
    rw [List.mapM_map]
    exact mapM_eq_some_map _ fun field member => by
      simp only [Function.comp_apply, uniqueField?, filter_name (first.symm ▸ distinct) member]
  have listed : ((names.zip values).map fun field => some field.2) = values.map some := by
    calc ((names.zip values).map fun field => some field.2)
        = ((names.zip values).map (·.2)).map some := List.map_map.symm
      _ = values.map some := by rw [second]
  rw [first, listed] at found
  simp only [ofFields, fields?, named, Option.bind_eq_bind, Option.bind_some, found]

theorem isPlain_zip (names : List String) (values : List Value)
    (plain : ∀ name ∈ names, IsPlainName name) (each : ∀ value ∈ values, value.IsPlain) :
    (ofFields (names.zip values)).IsPlain := by
  refine isPlain_object (fun member inside => ?_) fun member inside => ?_
  · obtain ⟨field, inFields, rfl⟩ := List.mem_map.mp inside
    exact isPlain_spellingOf (plain field.1 (List.of_mem_zip inFields).1)
  · obtain ⟨field, inFields, rfl⟩ := List.mem_map.mp inside
    exact each field.2 (List.of_mem_zip inFields).2

end Value

/-- A thing that is written as an object of fields is faithful if its fields are plain
and it is read back from them. -/
theorem Faithful.ofFields {α : Type} {write : α -> Value} {read : Value -> Option α}
    (names : List String) (values : α -> List Value) (optional : Nat)
    (shape : ∀ value, write value = .ofFields (names.zip (values value)))
    (plain : ∀ name ∈ names, IsPlainName name) (distinct : names.Nodup)
    (exact : ∀ value, names.length = (values value).length)
    (each : ∀ value, ∀ field ∈ values value, field.IsPlain)
    (back : ∀ value, (write value).fields? names optional = some ((values value).map some) ->
      read (write value) = some value) :
    Faithful write read where
  isPlain value := shape value ▸ Value.isPlain_zip _ _ plain (each value)
  ne_null value := by
    rw [shape value]
    exact nofun
  read_write value := by
    refine back value ?_
    rw [shape value]
    exact Value.fields?_zip _ _ plain distinct (exact value) optional

namespace Document

variable {α : Type} [Document α]

/-- A thing that is written faithfully is read back from its document. -/
theorem read?_write (faithful : Faithful (toValue (α := α)) ofValue?) (value : α) :
    read? (write value) = some value := by
  have tree := Value.read?_write (faithful.isPlain value)
  simp only [read?, write, tree, Option.bind_eq_bind, Option.bind_some, faithful.read_write]

end Document
end Json
end DoubleRatchet
