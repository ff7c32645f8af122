import DoubleRatchet.Json.Value
import Mathlib.Data.List.Chain

namespace DoubleRatchet
namespace Json

/-!
# Scanning what was written

A list of tokens is written by writing its tokens one after another.  The
scanner finds the same tokens again if no two tokens that need a separator
stand side by side: of any two neighbours one is a punctuation mark.  Numerals
and words end only at the octet behind them, so the scanner may still be inside
of its last token; `Scanner.Holds` says which tokens it has taken all the same.

Only plain tokens are considered.  A plain string has nothing to escape, and a
plain numeral has digits alone and no zero in front of others.
-/

/-- An octet that stands for itself between quotes. -/
def IsPlain (octet : UInt8) : Prop :=
  octet ≠ ascii '"' ∧ octet ≠ ascii '\\' ∧ ¬ octet < 0x20

/-- Digits without a zero in front of others. -/
inductive IsNumeral : Bytes -> Prop where
  | zero : IsNumeral [ascii '0']
  | digits {first : UInt8} {rest : Bytes} (leading : first ≠ ascii '0')
      (firstDigit : isDigit first = true) (restDigits : ∀ octet ∈ rest, isDigit octet = true) :
      IsNumeral (first :: rest)

namespace Token

/-- A token that is one octet long. -/
def isPunctuation : Token -> Bool
  | openBrace | closeBrace | openBracket | closeBracket | comma | colon => true
  | null | boolean _ | number _ | string _ => false

/-- A token in which nothing is escaped, and whose numeral has digits alone. -/
def IsPlain : Token -> Prop
  | number spelling => IsNumeral spelling
  | string spelling => ∀ octet ∈ spelling, Json.IsPlain octet
  | _ => True

/-- Of two neighbours one must be a punctuation mark. -/
def Apart (first second : Token) : Prop :=
  first.isPunctuation = true ∨ second.isPunctuation = true

end Token

/-- The octets of the punctuation marks. -/
def marks : Bytes :=
  [0x7B, 0x7D, ascii '[', ascii ']', ascii ',', ascii ':']

theorem mem_marks {token : Token} (mark : token.isPunctuation = true) :
    ∃ octet ∈ marks, token.toBytes = [octet] ∧ Scanner.punctuation? octet = some token := by
  cases token with
  | openBrace => exact ⟨0x7B, by decide, rfl, rfl⟩
  | closeBrace => exact ⟨0x7D, by decide, rfl, rfl⟩
  | openBracket => exact ⟨ascii '[', by decide, rfl, rfl⟩
  | closeBracket => exact ⟨ascii ']', by decide, rfl, rfl⟩
  | comma => exact ⟨ascii ',', by decide, rfl, rfl⟩
  | colon => exact ⟨ascii ':', by decide, rfl, rfl⟩
  | null | boolean _ | number _ | string _ => cases mark

theorem not_isSpace_of_mem_marks : ∀ octet ∈ marks, isSpace octet = false := by
  have checked : (marks.all fun octet => !isSpace octet) = true := by decide
  simpa using checked

theorem ne_quote_of_mem_marks : ∀ octet ∈ marks, octet ≠ ascii '"' := by
  have checked : (marks.all fun octet => octet != ascii '"') = true := by decide
  simpa using checked

/-- A complete numeral is not continued by a punctuation mark. -/
theorem Numeral.next?_of_mem_marks {octet : UInt8} (mark : octet ∈ marks) {numeral : Numeral}
    (complete : numeral.isComplete = true) : numeral.next? octet = none := by
  have checked (reading : Numeral) (ended : reading.isComplete = true) :
      (marks.all fun mark => (reading.next? mark).isNone) = true := by
    cases reading with
    | zero | integer | fraction | exponentDigits => decide
    | minus | point | exponent | exponentSign => cases ended
  have unread := List.all_eq_true.mp (checked numeral complete) octet mark
  exact Option.isNone_iff_eq_none.mp unread

namespace Scanner

/-- The scanner has taken these tokens, the last one first, and may be inside of the
last one if that one can end here. -/
inductive Holds : Scanner -> List Token -> Prop where
  | between {taken : List Token} : Holds ⟨taken, .between⟩ taken
  | number {taken : List Token} {reversed : Bytes} {numeral : Numeral}
      (complete : numeral.isComplete = true) :
      Holds ⟨taken, .number reversed numeral⟩ (.number reversed.reverse :: taken)
  | word {taken : List Token} {token : Token} :
      Holds ⟨taken, .word [] token⟩ (token :: taken)

theorem finish?_of_holds {scanner : Scanner} {taken : List Token} (holds : Holds scanner taken) :
    scanner.finish? = some taken.reverse := by
  cases holds with
  | between => rfl
  | number complete => simp [finish?, complete]
  | word => rfl

/-- A punctuation mark ends whatever the scanner is inside of. -/
theorem step_punctuation {scanner : Scanner} {taken : List Token} (holds : Holds scanner taken)
    {token : Token} (mark : token.isPunctuation = true) :
    token.toBytes.foldlM step scanner = some ⟨token :: taken, .between⟩ := by
  obtain ⟨octet, member, spelling, known⟩ := mem_marks mark
  have opens (taken : List Token) : openWith taken octet = some ⟨token :: taken, .between⟩ := by
    simp [openWith, known, not_isSpace_of_mem_marks octet member,
      ne_quote_of_mem_marks octet member]
  cases holds with
  | between => simp [spelling, step, opens]
  | number complete =>
    simp [spelling, step, Numeral.next?_of_mem_marks member complete, complete, opens]
  | word => simp [spelling, step, opens]

/-- Plain octets are collected as they come. -/
theorem foldlM_step_plain {spelling : Bytes} (plain : ∀ octet ∈ spelling, IsPlain octet)
    (taken : List Token) (reversed : Bytes) :
    spelling.foldlM step ⟨taken, .string reversed .none⟩ =
      some ⟨taken, .string (spelling.reverse ++ reversed) .none⟩ := by
  induction spelling generalizing reversed with
  | nil => rfl
  | cons octet rest ih =>
    obtain ⟨unquoted, unescaped, visible⟩ := plain octet (List.mem_cons_self ..)
    have later := ih (fun other member => plain other (List.mem_cons_of_mem _ member))
      (octet :: reversed)
    simp [step, insideString, unquoted, unescaped, visible, later]

theorem foldlM_step_string {spelling : Bytes} (plain : ∀ octet ∈ spelling, IsPlain octet)
    (taken : List Token) :
    (Token.string spelling).toBytes.foldlM step ⟨taken, .between⟩ =
      some ⟨.string spelling :: taken, .between⟩ := by
  have opened : step ⟨taken, .between⟩ (ascii '"') = some ⟨taken, .string [] .none⟩ := rfl
  have body := foldlM_step_plain plain taken []
  have closed : step ⟨taken, .string (spelling.reverse ++ []) .none⟩ (ascii '"') =
      some ⟨.string spelling :: taken, .between⟩ := by
    simp [step, insideString]
  simp only [Token.toBytes, List.cons_append, List.foldlM_cons, List.foldlM_append, opened,
    Option.bind_eq_bind, Option.bind_some, body, closed, List.foldlM_nil, Option.pure_def]

theorem foldlM_step_digits {digits : Bytes} (all : ∀ octet ∈ digits, isDigit octet = true)
    (taken : List Token) (reversed : Bytes) :
    digits.foldlM step ⟨taken, .number reversed .integer⟩ =
      some ⟨taken, .number (digits.reverse ++ reversed) .integer⟩ := by
  induction digits generalizing reversed with
  | nil => rfl
  | cons octet rest ih =>
    have digit := all octet (List.mem_cons_self ..)
    have later := ih (fun other member => all other (List.mem_cons_of_mem _ member))
      (octet :: reversed)
    simp [step, Numeral.next?, digit, later]

/-- A digit opens a numeral, and nothing else that the scanner knows. -/
theorem openWith_digit {octet : UInt8} (digit : isDigit octet = true) (taken : List Token) :
    openWith taken octet =
      some ⟨taken, .number [octet] (if octet = ascii '0' then .zero else .integer)⟩ := by
  have bounds : ascii '0' ≤ octet ∧ octet ≤ ascii '9' := by simpa [isDigit] using digit
  have lower : 48 ≤ octet.toNat := UInt8.le_iff_toNat_le.mp bounds.1
  have upper : octet.toNat ≤ 57 := UInt8.le_iff_toNat_le.mp bounds.2
  have other (value : UInt8) (outside : value.toNat < 48 ∨ 57 < value.toNat) : octet ≠ value := by
    rintro rfl
    omega
  have visible : isSpace octet = false := by
    simp [isSpace, other 0x20 (by decide), other 0x09 (by decide), other 0x0A (by decide),
      other 0x0D (by decide)]
  have unmarked : punctuation? octet = none := by
    simp [punctuation?, other 0x7B (by decide), other 0x7D (by decide),
      other (ascii '[') (by decide), other (ascii ']') (by decide),
      other (ascii ',') (by decide), other (ascii ':') (by decide)]
  have first : Numeral.ofFirst? octet =
      some (if octet = ascii '0' then .zero else .integer) := by
    simp only [Numeral.ofFirst?, Numeral.next?, other (ascii '-') (by decide), if_false, digit,
      if_true]
    split <;> rfl
  simp [openWith, visible, other (ascii '"') (by decide), unmarked, first]

theorem foldlM_step_number {spelling : Bytes} (numeral : IsNumeral spelling)
    (taken : List Token) :
    ∃ scanner, spelling.foldlM step ⟨taken, .between⟩ = some scanner ∧
      Holds scanner (.number spelling :: taken) := by
  cases numeral with
  | zero =>
    have complete : Numeral.zero.isComplete = true := rfl
    exact ⟨_, rfl, .number complete⟩
  | @digits first rest leading firstDigit restDigits =>
    have opened : step ⟨taken, .between⟩ first = some ⟨taken, .number [first] .integer⟩ := by
      simp [step, openWith_digit firstDigit, leading]
    have body := foldlM_step_digits restDigits taken [first]
    refine ⟨⟨taken, .number (rest.reverse ++ [first]) .integer⟩, by simp [opened, body], ?_⟩
    have holds : Holds ⟨taken, .number (rest.reverse ++ [first]) .integer⟩
        (.number (rest.reverse ++ [first]).reverse :: taken) := .number rfl
    simpa using holds

/-- Between tokens the scanner takes any plain token. -/
theorem foldlM_step_token {token : Token} (plain : token.IsPlain) (taken : List Token) :
    ∃ scanner, token.toBytes.foldlM step ⟨taken, .between⟩ = some scanner ∧
      Holds scanner (token :: taken) := by
  cases token with
  | null => exact ⟨_, rfl, .word⟩
  | boolean value => cases value <;> exact ⟨_, rfl, .word⟩
  | number spelling => exact foldlM_step_number plain taken
  | string spelling => exact ⟨_, foldlM_step_string plain taken, .between⟩
  | openBrace | closeBrace | openBracket | closeBracket | comma | colon =>
    exact ⟨_, step_punctuation .between rfl, .between⟩

theorem foldlM_step_tokens {tokens : List Token} (plain : ∀ token ∈ tokens, token.IsPlain)
    (apart : tokens.IsChain Token.Apart) {scanner : Scanner} {taken : List Token}
    (holds : Holds scanner taken)
    (ready : scanner.lexeme = .between ∨ ∀ token ∈ tokens.head?, token.isPunctuation = true) :
    ∃ after, (tokens.flatMap Token.toBytes).foldlM step scanner = some after ∧
      Holds after (tokens.reverse ++ taken) := by
  induction tokens generalizing scanner taken with
  | nil => exact ⟨scanner, rfl, holds⟩
  | cons token rest ih =>
    have first : ∃ after, token.toBytes.foldlM step scanner = some after ∧
        Holds after (token :: taken) ∧
        (after.lexeme = .between ∨ token.isPunctuation = false) := by
      by_cases mark : token.isPunctuation = true
      · exact ⟨_, step_punctuation holds mark, .between, .inl rfl⟩
      · rcases ready with idle | marked
        · cases holds with
          | between =>
            obtain ⟨after, scanned, taken⟩ :=
              foldlM_step_token (plain token (List.mem_cons_self ..)) taken
            exact ⟨after, scanned, taken, .inr (Bool.eq_false_iff.mpr mark)⟩
          | number complete => cases idle
          | word => cases idle
        · exact absurd (marked token rfl) mark
    obtain ⟨after, scanned, taken', idle⟩ := first
    have next : after.lexeme = .between ∨ ∀ token ∈ rest.head?, token.isPunctuation = true := by
      refine idle.imp_right fun unmarked other member => ?_
      cases rest with
      | nil => cases member
      | cons second later =>
        cases member
        rcases (List.isChain_cons_cons.mp apart).1 with mark | mark
        · simp [unmarked] at mark
        · exact mark
    obtain ⟨last, scannedRest, takenRest⟩ :=
      ih (fun other member => plain other (List.mem_cons_of_mem _ member)) apart.tail taken' next
    exact ⟨last, by simp [List.foldlM_append, scanned, scannedRest], by simpa using takenRest⟩

end Scanner

/-- Plain tokens that are kept apart are found again. -/
theorem tokens?_flatMap_toBytes {tokens : List Token} (plain : ∀ token ∈ tokens, token.IsPlain)
    (apart : tokens.IsChain Token.Apart) :
    tokens? (tokens.flatMap Token.toBytes) = some tokens := by
  obtain ⟨after, scanned, holds⟩ :=
    Scanner.foldlM_step_tokens plain apart Scanner.Holds.between (.inl rfl)
  calc tokens? (tokens.flatMap Token.toBytes)
      = (tokens.flatMap Token.toBytes).foldlM Scanner.step .start >>= Scanner.finish? := rfl
    _ = after.finish? := by rw [Scanner.start, scanned]; rfl
    _ = some tokens := by rw [Scanner.finish?_of_holds holds]; simp

end Json
end DoubleRatchet
