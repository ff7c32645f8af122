import DoubleRatchet.Proofs.Json.Scan

namespace DoubleRatchet
namespace Json

/-!
# Reading what was written

The tokens of a tree are kept apart by its brackets, commas and colons, and the
reader builds the same tree from them.  Both facts are stated for the tokens of
a tree with any tokens behind them, which is what the recursion through arrays
and objects needs.
-/

namespace Token

theorem isChain_cons_of_mark {token : Token} (mark : token.isPunctuation = true)
    {tokens : List Token} (apart : tokens.IsChain Apart) : (token :: tokens).IsChain Apart := by
  cases tokens with
  | nil => exact .singleton _
  | cons second later => exact .cons_cons (.inl mark) apart

/-- What may stand behind any token: kept apart, with a punctuation mark in front. -/
def Follows (rest : List Token) : Prop :=
  rest.IsChain Apart ∧ ∀ token ∈ rest.head?, token.isPunctuation = true

theorem Follows.nil : Follows [] :=
  ⟨.nil, fun _ member => nomatch member⟩

theorem Follows.cons (token : Token) (mark : token.isPunctuation = true) {rest : List Token}
    (apart : rest.IsChain Apart) : Follows (token :: rest) := by
  refine ⟨isChain_cons_of_mark mark apart, fun other member => ?_⟩
  cases member
  exact mark

theorem Follows.isChain_cons {rest : List Token} (follows : Follows rest) (token : Token) :
    (token :: rest).IsChain Apart := by
  cases rest with
  | nil => exact .singleton _
  | cons second later => exact .cons_cons (.inr (follows.2 second rfl)) follows.1

end Token

namespace Value

open Token (Apart Follows)

/-- A tree whose strings have nothing to escape and whose numbers are plain numerals. -/
def IsPlain (value : Value) : Prop :=
  ∀ token ∈ value.toTokens, token.IsPlain

mutual

theorem isChain_toTokens_append :
    ∀ (value : Value) {rest : List Token}, Follows rest ->
      (value.toTokens ++ rest).IsChain Apart
  | .null, _, follows => follows.isChain_cons _
  | .boolean _, _, follows => follows.isChain_cons _
  | .number _, _, follows => follows.isChain_cons _
  | .string _, _, follows => follows.isChain_cons _
  | .array items, rest, follows => by
    rw [toTokens, List.cons_append, List.append_assoc]
    exact Token.isChain_cons_of_mark rfl
      (isChain_itemTokens_append items (.cons _ rfl follows.1))
  | .object members, rest, follows => by
    rw [toTokens, List.cons_append, List.append_assoc]
    exact Token.isChain_cons_of_mark rfl
      (isChain_memberTokens_append members (.cons _ rfl follows.1))

theorem isChain_itemTokens_append :
    ∀ (items : List Value) {rest : List Token}, Follows rest ->
      (itemTokens items ++ rest).IsChain Apart
  | [], _, follows => follows.1
  | [item], rest, follows => by
    rw [itemTokens, List.append_nil]
    exact isChain_toTokens_append item follows
  | item :: second :: later, rest, follows => by
    rw [itemTokens, List.append_assoc]
    exact isChain_toTokens_append item
      (.cons _ rfl (isChain_itemTokens_append (second :: later) follows))

theorem isChain_memberTokens_append :
    ∀ (members : List (Bytes × Value)) {rest : List Token}, Follows rest ->
      (memberTokens members ++ rest).IsChain Apart
  | [], _, follows => follows.1
  | [(key, value)], rest, follows => by
    rw [memberTokens, List.append_nil]
    exact (Follows.cons .colon rfl
      (isChain_toTokens_append value follows)).isChain_cons _
  | (key, value) :: second :: later, rest, follows => by
    rw [memberTokens, List.cons_append, List.cons_append, List.append_assoc]
    exact (Follows.cons .colon rfl (isChain_toTokens_append value
      (.cons _ rfl (isChain_memberTokens_append (second :: later) follows)))).isChain_cons _

end

theorem isChain_toTokens (value : Value) : value.toTokens.IsChain Apart := by
  simpa using value.isChain_toTokens_append Follows.nil

/-- No tree starts with the end of an array. -/
theorem toTokens_ne_nil (value : Value) :
    ∃ first rest, value.toTokens = first :: rest ∧ first ≠ .closeBracket := by
  cases value <;> exact ⟨_, _, rfl, by simp⟩

/-- Behind an opened array the first item is read as any other. -/
theorem foldlM_firstItem (item : Value) (outer : List Container) (rest : List Token) :
    (item.toTokens ++ rest).foldlM Reader.step (.firstItem outer) =
      (item.toTokens ++ rest).foldlM Reader.step (.value (.array [] :: outer)) := by
  obtain ⟨first, later, spelled, opening⟩ := item.toTokens_ne_nil
  have same : Reader.step (.firstItem outer) first =
      Reader.step (.value (.array [] :: outer)) first := by
    cases first <;> first | rfl | exact absurd rfl opening
  simp only [spelled, List.cons_append, List.foldlM_cons, same]

theorem itemTokens_cons_append (item : Value) (items : List Value) (rest : List Token) :
    ∃ later, itemTokens (item :: items) ++ rest = item.toTokens ++ later := by
  cases items with
  | nil => exact ⟨rest, by rw [itemTokens, List.append_nil]⟩
  | cons second more => exact ⟨_, by rw [itemTokens, List.append_assoc]⟩

mutual

/-- The reader builds a tree from its tokens and goes on with what stands behind them. -/
theorem foldlM_toTokens_append :
    ∀ (value : Value) (outer : List Container) (rest : List Token),
      (value.toTokens ++ rest).foldlM Reader.step (.value outer) =
        rest.foldlM Reader.step (Reader.deliver value outer)
  | .null, _, _ => rfl
  | .boolean _, _, _ => rfl
  | .number _, _, _ => rfl
  | .string _, _, _ => rfl
  | .array [], _, _ => rfl
  | .array (item :: items), outer, rest => by
    have read := foldlM_itemTokens_append (item :: items) (List.cons_ne_nil _ _) [] outer rest
    obtain ⟨later, opened⟩ := itemTokens_cons_append item items (.closeBracket :: rest)
    calc ((array (item :: items)).toTokens ++ rest).foldlM Reader.step (.value outer)
        = (itemTokens (item :: items) ++ .closeBracket :: rest).foldlM Reader.step
            (.firstItem outer) := by
          rw [toTokens, List.cons_append, List.append_assoc]
          rfl
      _ = (itemTokens (item :: items) ++ .closeBracket :: rest).foldlM Reader.step
            (.value (.array [] :: outer)) := by
          rw [opened, foldlM_firstItem]
      _ = rest.foldlM Reader.step (Reader.deliver (.array (item :: items)) outer) := read
  | .object [], _, _ => rfl
  | .object ((key, value) :: members), outer, rest => by
    have read := foldlM_memberTokens_append ((key, value) :: members) (List.cons_ne_nil _ _) []
      outer rest
    calc ((object ((key, value) :: members)).toTokens ++ rest).foldlM Reader.step (.value outer)
        = (memberTokens ((key, value) :: members) ++ .closeBrace :: rest).foldlM Reader.step
            (.firstKey outer) := by
          rw [toTokens, List.cons_append, List.append_assoc]
          rfl
      _ = (memberTokens ((key, value) :: members) ++ .closeBrace :: rest).foldlM Reader.step
            (.key [] outer) := by
          cases members <;> rfl
      _ = rest.foldlM Reader.step (Reader.deliver (.object ((key, value) :: members)) outer) :=
          read

theorem foldlM_itemTokens_append :
    ∀ (items : List Value), items ≠ [] ->
      ∀ (reversed : List Value) (outer : List Container) (rest : List Token),
      (itemTokens items ++ .closeBracket :: rest).foldlM Reader.step
          (.value (.array reversed :: outer)) =
        rest.foldlM Reader.step (Reader.deliver (.array (reversed.reverse ++ items)) outer)
  | [], filled, _, _, _ => absurd rfl filled
  | [item], _, reversed, outer, rest => by
    rw [itemTokens, List.append_nil, foldlM_toTokens_append]
    simp [Reader.deliver, Reader.step]
  | item :: second :: later, _, reversed, outer, rest => by
    have read := foldlM_itemTokens_append (second :: later) (List.cons_ne_nil _ _)
      (item :: reversed) outer rest
    rw [itemTokens, List.append_assoc, foldlM_toTokens_append]
    simpa [Reader.deliver, Reader.step] using read

theorem foldlM_memberTokens_append :
    ∀ (members : List (Bytes × Value)), members ≠ [] ->
      ∀ (reversed : List (Bytes × Value)) (outer : List Container) (rest : List Token),
      (memberTokens members ++ .closeBrace :: rest).foldlM Reader.step (.key reversed outer) =
        rest.foldlM Reader.step (Reader.deliver (.object (reversed.reverse ++ members)) outer)
  | [], filled, _, _, _ => absurd rfl filled
  | [(key, value)], _, reversed, outer, rest => by
    rw [memberTokens, List.append_nil, List.cons_append, List.cons_append]
    have read := foldlM_toTokens_append value (.object reversed key :: outer)
      (.closeBrace :: rest)
    simpa [Reader.deliver, Reader.step] using read
  | (key, value) :: (second, other) :: later, _, reversed, outer, rest => by
    have read := foldlM_toTokens_append value (.object reversed key :: outer)
      (.comma :: (memberTokens ((second, other) :: later) ++ .closeBrace :: rest))
    have further := foldlM_memberTokens_append ((second, other) :: later) (List.cons_ne_nil _ _)
      ((key, value) :: reversed) outer rest
    rw [memberTokens, List.cons_append, List.cons_append, List.append_assoc]
    calc (.string key :: .colon :: (value.toTokens ++
            (.comma :: (memberTokens ((second, other) :: later) ++ .closeBrace :: rest)))).foldlM
          Reader.step (.key reversed outer)
        = (value.toTokens ++
            (.comma :: (memberTokens ((second, other) :: later) ++ .closeBrace :: rest))).foldlM
          Reader.step (.value (.object reversed key :: outer)) := rfl
      _ = (.comma :: (memberTokens ((second, other) :: later) ++ .closeBrace :: rest)).foldlM
          Reader.step (.nextMember ((key, value) :: reversed) outer) := read
      _ = (memberTokens ((second, other) :: later) ++ .closeBrace :: rest).foldlM
          Reader.step (.key ((key, value) :: reversed) outer) := rfl
      _ = _ := by simpa using further

end

theorem ofTokens?_toTokens (value : Value) : ofTokens? value.toTokens = some value := by
  have read := foldlM_toTokens_append value [] []
  rw [List.append_nil] at read
  simp only [ofTokens?, read, List.foldlM_nil, Reader.deliver, Option.pure_def,
    Option.bind_eq_bind, Option.bind_some, Reader.finish?]

/-- A plain tree is read back from what was written. -/
theorem read?_write {value : Value} (plain : value.IsPlain) : read? value.write = some value := by
  have scanned := tokens?_flatMap_toBytes plain value.isChain_toTokens
  simp only [read?, write, scanned, Option.bind_eq_bind, Option.bind_some, ofTokens?_toTokens]

end Value
end Json
end DoubleRatchet
