import Telemetry.Json.Text
import Telemetry.Json.Token
import Telemetry.Proofs.Traversal

/-!
# Scanning tokens

What the scanner makes of the bytes of a token, and of blanks between tokens. A number literal is the one
token that does not say where it ends: the scanner knows when it meets a byte that no literal goes on with.
`Scanner.HasRead` takes both together, the tokens that have ended and the literal that may end here.
-/

namespace Telemetry.Json

/-! ## Number literals -/

namespace NumberPart

/-- The characters that a literal may start with. -/
theorem mem_of_start?_eq_some {character : Char} {part : NumberPart}
    (starts : start? character = some part) : character = '-' ∨ character.isDigit = true := by
  unfold start? at starts
  split at starts
  · exact .inl ‹_›
  split at starts
  · rename_i zero
    rw [zero]
    exact .inr rfl
  split at starts
  · exact .inr ‹_›
  · cases starts

/-- The characters that a literal may go on with. -/
theorem mem_of_next?_eq_some {part next : NumberPart} {character : Char}
    (goesOn : part.next? character = some next) :
    character.isDigit = true ∨ character ∈ ['.', 'e', 'E', '+', '-'] := by
  by_contra foreign
  simp only [not_or, List.mem_cons, List.not_mem_nil, not_false_eq_true, and_true] at foreign
  have notZero : character ≠ '0' := by
    rintro rfl
    exact foreign.1 rfl
  cases part <;> simp [next?, foreign, notZero] at goesOn

/-- What a whole literal ends in, if it is one so far. -/
def run? : List Char → Option NumberPart
  | [] => none
  | first :: rest => (start? first).bind fun part => rest.foldlM next? part

end NumberPart

/-- A literal that the scanner takes for a number. -/
def IsNumber (literal : List Char) : Prop :=
  ∃ part, NumberPart.run? literal = some part ∧ part.isComplete = true

/-- The digits stand in a row. -/
theorem toNat_of_isDigit {character : Char} (digit : character.isDigit = true) :
    ∃ value < 10, character.toNat = 0x30 + value := by
  have bounds : '0'.val ≤ character.val ∧ character.val ≤ '9'.val := by
    simpa [Char.isDigit] using digit
  have lower : 48 ≤ character.toNat := UInt32.le_iff_toNat_le.1 bounds.1
  have upper : character.toNat ≤ 57 := UInt32.le_iff_toNat_le.1 bounds.2
  exact ⟨character.toNat - 48, by omega, by omega⟩

theorem toNat_lt_of_isDigit {character : Char} (digit : character.isDigit = true) :
    character.toNat < 0x80 := by
  obtain ⟨value, small, number⟩ := toNat_of_isDigit digit
  omega

namespace Scanner

/-- A character of ASCII is read from its byte. -/
theorem character_toUInt8 {symbol : Char} (ascii : symbol.toNat < 0x80) :
    character symbol.toNat.toUInt8 = symbol := by
  have small : symbol.toNat.toUInt8.toNat = symbol.toNat := by
    simp only [Nat.toUInt8_eq, UInt8.toNat_ofNat']
    omega
  rw [character, small, Char.ofNat_toNat]

/-- A byte that a literal may start with begins one. -/
theorem stepBetween_of_start? {symbol : Char} {part : NumberPart}
    (starts : NumberPart.start? symbol = some part) (tokens : List Token) :
    stepBetween tokens symbol.toNat.toUInt8 = some ⟨tokens, .number part [symbol]⟩ := by
  have ascii : symbol.toNat < 0x80 := by
    rcases NumberPart.mem_of_start?_eq_some starts with rfl | digit
    · decide
    · exact toNat_lt_of_isDigit digit
  have sameSymbol := character_toUInt8 ascii
  have digitsPlain : ∀ value < 10, isBlank (0x30 + value).toUInt8 = false ∧
      (0x30 + value).toUInt8 ≠ 0x22 ∧ punctuation? (0x30 + value).toUInt8 = none ∧
        word? (0x30 + value).toUInt8 = none := by decide
  have plain : isBlank symbol.toNat.toUInt8 = false ∧ symbol.toNat.toUInt8 ≠ 0x22 ∧
      punctuation? symbol.toNat.toUInt8 = none ∧ word? symbol.toNat.toUInt8 = none := by
    rcases NumberPart.mem_of_start?_eq_some starts with rfl | digit
    · decide
    · obtain ⟨value, small, number⟩ := toNat_of_isDigit digit
      rw [number]
      exact digitsPlain value small
  obtain ⟨notBlank, notQuote, notPunctuation, notWord⟩ := plain
  simp [stepBetween, notBlank, notQuote, notPunctuation, notWord, sameSymbol, starts]

/-- A literal that goes on is kept newest first. -/
theorem foldlM_literal {part next : NumberPart} {rest : List Char}
    (goesOn : rest.foldlM NumberPart.next? part = some next) (tokens : List Token)
    (literal : List Char) :
    (rest.map fun symbol => symbol.toNat.toUInt8).foldlM step ⟨tokens, .number part literal⟩ =
      some ⟨tokens, .number next (rest.reverse ++ literal)⟩ := by
  induction rest generalizing part literal with
  | nil =>
    cases goesOn
    rfl
  | cons symbol rest inductionHypothesis =>
    rw [List.foldlM_cons] at goesOn
    obtain ⟨middle, first, later⟩ := Option.bind_eq_some_iff.1 goesOn
    have ascii : symbol.toNat < 0x80 := by
      rcases NumberPart.mem_of_next?_eq_some first with digit | other
      · exact toNat_lt_of_isDigit digit
      · have marks : ∀ mark ∈ ['.', 'e', 'E', '+', '-'], mark.toNat < 0x80 := by simp
        exact marks symbol other
    have stepped : step ⟨tokens, .number part literal⟩ symbol.toNat.toUInt8 =
        some ⟨tokens, .number middle (symbol :: literal)⟩ := by
      simp [step, character_toUInt8 ascii, first]
    rw [List.map_cons, foldlM_cons_of_eq_some stepped, inductionHypothesis later, List.reverse_cons,
      List.append_assoc]
    rfl

/-! ## Tokens that have been read -/

/-- The tokens have been read; the last one may be a number that has not ended yet. -/
def HasRead (tokens : List Token) (scanner : Scanner) : Prop :=
  scanner = ⟨tokens, .between⟩ ∨
    ∃ part literal earlier, part.isComplete = true ∧ tokens = .number literal.reverse :: earlier ∧
      scanner = ⟨earlier, .number part literal⟩

/-- No literal goes on with the byte. -/
def EndsNumbers (byte : UInt8) : Prop :=
  ∀ part : NumberPart, part.next? (character byte) = none

theorem HasRead.finish_eq_some {tokens : List Token} {scanner : Scanner} (read : HasRead tokens scanner) :
    scanner.finish = some tokens.reverse := by
  rcases read with rfl | ⟨part, literal, earlier, complete, rfl, rfl⟩
  · rfl
  · simp [finish, complete]

/-- With a byte that no literal goes on with, the scanner is between two tokens. -/
theorem HasRead.step_eq {tokens : List Token} {scanner : Scanner} (read : HasRead tokens scanner)
    {byte : UInt8} (ends : EndsNumbers byte) : scanner.step byte = stepBetween tokens byte := by
  rcases read with rfl | ⟨part, literal, earlier, complete, rfl, rfl⟩
  · rfl
  · simp [step, ends part, complete]

theorem endsNumbers_of_isBlank {byte : UInt8} (blank : isBlank byte = true) : EndsNumbers byte := by
  simp only [isBlank, Bool.or_eq_true, beq_iff_eq] at blank
  rcases blank with ((rfl | rfl) | rfl) | rfl <;> intro part <;> cases part <;> decide

theorem punctuation?_openBracket : punctuation? 0x5b = some .openBracket := rfl

theorem punctuation?_closeBracket : punctuation? 0x5d = some .closeBracket := rfl

theorem punctuation?_openBrace : punctuation? 0x7b = some .openBrace := rfl

theorem punctuation?_closeBrace : punctuation? 0x7d = some .closeBrace := rfl

theorem punctuation?_comma : punctuation? 0x2c = some .comma := rfl

theorem punctuation?_colon : punctuation? 0x3a = some .colon := rfl

theorem endsNumbers_of_punctuation? {byte : UInt8} {token : Token}
    (punctuation : punctuation? byte = some token) : EndsNumbers byte := by
  unfold punctuation? at punctuation
  split_ifs at punctuation <;> subst_vars <;> intro part <;> cases part <;> decide

theorem bytes_of_punctuation? {byte : UInt8} {token : Token}
    (punctuation : punctuation? byte = some token) : token.bytes = [byte] := by
  unfold punctuation? at punctuation
  split_ifs at punctuation <;> subst_vars <;> cases punctuation <;> decide

/-- Brackets, braces, commas and colons make a token at once. -/
theorem stepBetween_of_punctuation? {byte : UInt8} {token : Token}
    (punctuation : punctuation? byte = some token) (tokens : List Token) :
    stepBetween tokens byte = some ⟨token :: tokens, .between⟩ := by
  have plain : isBlank byte = false ∧ byte ≠ 0x22 := by
    unfold punctuation? at punctuation
    split_ifs at punctuation <;> subst_vars <;> decide
  simp [stepBetween, plain, punctuation]

theorem stepBetween_of_isBlank {byte : UInt8} (blank : isBlank byte = true) (tokens : List Token) :
    stepBetween tokens byte = some ⟨tokens, .between⟩ := by
  rw [stepBetween, blank, if_pos rfl]

/-- Between two tokens blanks do nothing. -/
theorem foldlM_blanks {blanks : Bytes} (blank : ∀ byte ∈ blanks, isBlank byte = true)
    (tokens : List Token) : blanks.foldlM step ⟨tokens, .between⟩ = some ⟨tokens, .between⟩ := by
  induction blanks with
  | nil => rfl
  | cons byte blanks inductionHypothesis =>
    have stepped : step ⟨tokens, .between⟩ byte = some ⟨tokens, .between⟩ :=
      stepBetween_of_isBlank (blank byte List.mem_cons_self) tokens
    rw [foldlM_cons_of_eq_some stepped]
    exact inductionHypothesis fun other listed => blank other (List.mem_cons_of_mem _ listed)

/-- After a token blanks end a number and do nothing else. -/
theorem HasRead.foldlM_blanks {tokens : List Token} {scanner : Scanner} (read : HasRead tokens scanner)
    {blanks : Bytes} (blank : ∀ byte ∈ blanks, isBlank byte = true) :
    ∃ next, blanks.foldlM step scanner = some next ∧ HasRead tokens next := by
  cases blanks with
  | nil => exact ⟨scanner, rfl, read⟩
  | cons byte blanks =>
    have first := blank byte List.mem_cons_self
    have stepped : scanner.step byte = some ⟨tokens, .between⟩ := by
      rw [read.step_eq (endsNumbers_of_isBlank first), stepBetween_of_isBlank first]
    refine ⟨⟨tokens, .between⟩, ?_, .inl rfl⟩
    rw [foldlM_cons_of_eq_some stepped]
    exact Scanner.foldlM_blanks (fun other listed => blank other (List.mem_cons_of_mem _ listed)) tokens

/-- A token of one byte ends a number and is read itself. -/
theorem HasRead.foldlM_punctuation {tokens : List Token} {scanner : Scanner}
    (read : HasRead tokens scanner) {byte : UInt8} {token : Token}
    (punctuation : punctuation? byte = some token) :
    token.bytes.foldlM step scanner = some ⟨token :: tokens, .between⟩ := by
  have stepped : scanner.step byte = some ⟨token :: tokens, .between⟩ := by
    rw [read.step_eq (endsNumbers_of_punctuation? punctuation), stepBetween_of_punctuation? punctuation]
  rw [bytes_of_punctuation? punctuation, foldlM_cons_of_eq_some stepped]
  rfl

/-! ## The tokens of more than one byte -/

theorem foldlM_null (tokens : List Token) :
    Token.null.bytes.foldlM step ⟨tokens, .between⟩ = some ⟨.null :: tokens, .between⟩ := by
  have spelled : Token.null.bytes = [0x6e, 0x75, 0x6c, 0x6c] := by decide
  rw [spelled]
  rfl

theorem foldlM_bool (value : Bool) (tokens : List Token) :
    (Token.bool value).bytes.foldlM step ⟨tokens, .between⟩ = some ⟨.bool value :: tokens, .between⟩ := by
  cases value with
  | true =>
    have spelled : (Token.bool true).bytes = [0x74, 0x72, 0x75, 0x65] := by decide
    rw [spelled]
    rfl
  | false =>
    have spelled : (Token.bool false).bytes = [0x66, 0x61, 0x6c, 0x73, 0x65] := by decide
    rw [spelled]
    rfl

/-- A number is read, except that its end has still to be seen. -/
theorem foldlM_number {literal : List Char} (isNumber : IsNumber literal) (tokens : List Token) :
    ∃ next, (Token.number literal).bytes.foldlM step ⟨tokens, .between⟩ = some next ∧
      HasRead (.number literal :: tokens) next := by
  obtain ⟨part, ran, complete⟩ := isNumber
  cases literal with
  | nil => cases ran
  | cons first rest =>
    obtain ⟨begun, starts, later⟩ := Option.bind_eq_some_iff.1 ran
    refine ⟨⟨tokens, .number part (rest.reverse ++ [first])⟩, ?_, ?_⟩
    · have stepped : step ⟨tokens, .between⟩ first.toNat.toUInt8 = some ⟨tokens, .number begun [first]⟩ :=
        stepBetween_of_start? starts tokens
      rw [Token.bytes, List.map_cons, foldlM_cons_of_eq_some stepped]
      exact foldlM_literal later tokens [first]
    · exact .inr ⟨part, _, tokens, complete, by simp, rfl⟩

end Scanner

/-- The scanner finds no end of the string among these bytes, and nothing that cannot stand in a string. -/
def IsContent (content : Bytes) : Prop :=
  ∀ tokens before, content.foldlM Scanner.step ⟨tokens, .string before⟩ =
    some ⟨tokens, .string (content.reverse ++ before)⟩

namespace Scanner

theorem foldlM_string {content : Bytes} (isContent : IsContent content) (tokens : List Token) :
    (Token.string content).bytes.foldlM step ⟨tokens, .between⟩ =
      some ⟨.string content :: tokens, .between⟩ := by
  have opened : step ⟨tokens, .between⟩ 0x22 = some ⟨tokens, .string []⟩ := rfl
  rw [Token.bytes, List.cons_append, foldlM_cons_of_eq_some opened,
    foldlM_append_of_eq_some (isContent tokens [])]
  simp [step]

end Scanner

/-- What is written for one byte of a text stands in a string. -/
theorem isContent_escapeByte (byte : UInt8) : IsContent (escapeByte byte) := by
  intro tokens before
  unfold escapeByte
  split
  · rfl
  split
  · rfl
  split
  · rfl
  split
  · rfl
  split
  · rfl
  split
  · rfl
  split
  · rfl
  split
  · rename_i control
    have below : byte.toNat < 32 := UInt8.lt_iff_toNat_lt.1 control
    have hexDigits : ∀ value < 16, Scanner.isHexDigit (Hex.digit value) = true := by decide
    have high := hexDigits (byte.toNat / 16) (by omega)
    have low := hexDigits (byte.toNat % 16) (by omega)
    have zero : Scanner.isHexDigit 0x30 = true := by decide
    simp [Scanner.step, zero, high, low]
  · rename_i notQuote notBackslash _ _ _ _ _ notControl
    simp [Scanner.step, notQuote, notBackslash, notControl]

theorem IsContent.append {first second : Bytes} (isFirst : IsContent first) (isSecond : IsContent second) :
    IsContent (first ++ second) := by
  intro tokens before
  rw [foldlM_append_of_eq_some (isFirst tokens before), isSecond, List.reverse_append, List.append_assoc]

/-- A text, as it is written, stands in a string. -/
theorem isContent_escape (text : String) : IsContent (escape text) := by
  unfold escape
  induction Text.utf8 text with
  | nil => exact fun _ _ => rfl
  | cons byte bytes inductionHypothesis =>
    rw [List.flatMap_cons]
    exact (isContent_escapeByte byte).append inductionHypothesis

end Telemetry.Json
