import Telemetry.Text.Bytes

/-!
# JSON tokens

A JSON text is read in two stages, and this is the first: bytes to tokens. The scanner is a machine that
takes one byte at a time, so a text of any size and depth is read with bounded work per byte.

What a string or a number means is not decided here. A string token keeps the bytes between its quotes
with their escapes unread, and a number token keeps its literal: a value that nobody looks at need not
have a meaning, it only has to be well formed.
-/

namespace Telemetry.Json

/-- A lexical element of a JSON text. -/
inductive Token
  | openBracket
  | closeBracket
  | openBrace
  | closeBrace
  | comma
  | colon
  | null
  | bool (value : Bool)
  | number (literal : List Char)
  | string (content : Bytes)
  deriving DecidableEq, Repr

namespace Token

/-- How a token is written. -/
def bytes : Token → Bytes
  | openBracket => Text.utf8 "["
  | closeBracket => Text.utf8 "]"
  | openBrace => [0x7b]
  | closeBrace => [0x7d]
  | comma => Text.utf8 ","
  | colon => Text.utf8 ":"
  | null => Text.utf8 "null"
  | bool true => Text.utf8 "true"
  | bool false => Text.utf8 "false"
  | number literal => literal.map fun character => character.toNat.toUInt8
  | string content => 0x22 :: content ++ [0x22]

end Token

/-! ## Number literals -/

/-- How far a number literal has been read. -/
inductive NumberPart
  | minus
  | zero
  | whole
  | point
  | fraction
  | mark
  | markSign
  | power
  deriving DecidableEq, Repr

namespace NumberPart

/-- Whether the literal may end here. -/
def isComplete : NumberPart → Bool
  | zero | whole | fraction | power => true
  | minus | point | mark | markSign => false

/-- The part that a literal starts with. -/
def start? (character : Char) : Option NumberPart :=
  if character = '-' then some minus
  else if character = '0' then some zero
  else if character.isDigit then some whole
  else none

/-- The part reached by one more character, if the literal goes on with it. -/
def next? (part : NumberPart) (character : Char) : Option NumberPart :=
  let isMark := character = 'e' ∨ character = 'E'
  match part with
  | minus => if character = '0' then some zero else if character.isDigit then some whole else none
  | zero => if character = '.' then some point else if isMark then some mark else none
  | whole =>
    if character.isDigit then some whole
    else if character = '.' then some point
    else if isMark then some mark
    else none
  | point => if character.isDigit then some fraction else none
  | fraction => if character.isDigit then some fraction else if isMark then some mark else none
  | mark =>
    if character.isDigit then some power
    else if character = '+' ∨ character = '-' then some markSign
    else none
  | markSign => if character.isDigit then some power else none
  | power => if character.isDigit then some power else none

end NumberPart

/-! ## The scanner -/

/-- What the scanner is in the middle of. Contents and literals are kept newest first. -/
inductive Phase
  | between
  | word (rest : Bytes) (token : Token)
  | string (content : Bytes)
  | escape (content : Bytes)
  | unicode (left : Nat) (content : Bytes)
  | number (part : NumberPart) (literal : List Char)
  deriving DecidableEq, Repr

/-- The state of the scanner: the tokens found, newest first, and what is under way. -/
structure Scanner where
  tokens : List Token
  phase : Phase
  deriving DecidableEq, Repr

namespace Scanner

/-- Nothing read yet. -/
def start : Scanner := ⟨[], .between⟩

/-- Space, tab, line feed and carriage return may stand between tokens. -/
def isBlank (byte : UInt8) : Bool :=
  byte == 0x20 || byte == 0x09 || byte == 0x0a || byte == 0x0d

/-- A byte as a character of ASCII. -/
def character (byte : UInt8) : Char :=
  Char.ofNat byte.toNat

/-- A hexadecimal digit, in either case. -/
def isHexDigit (byte : UInt8) : Bool :=
  (0x30 ≤ byte && byte ≤ 0x39) || (0x41 ≤ byte && byte ≤ 0x46) || (0x61 ≤ byte && byte ≤ 0x66)

/-- The letters that may follow a backslash, apart from `u`. -/
def isShortEscape (byte : UInt8) : Bool :=
  (Text.utf8 "\"\\/bfnrt").contains byte

/-- The token that one byte makes by itself. -/
def punctuation? (byte : UInt8) : Option Token :=
  if byte = 0x5b then some .openBracket
  else if byte = 0x5d then some .closeBracket
  else if byte = 0x7b then some .openBrace
  else if byte = 0x7d then some .closeBrace
  else if byte = 0x2c then some .comma
  else if byte = 0x3a then some .colon
  else none

/-- The token that a letter begins, with the bytes that must follow. -/
def word? (byte : UInt8) : Option (Bytes × Token) :=
  if byte = 0x6e then some (Text.utf8 "ull", .null)
  else if byte = 0x74 then some (Text.utf8 "rue", .bool true)
  else if byte = 0x66 then some (Text.utf8 "alse", .bool false)
  else none

/-- One byte when no token is under way. -/
def stepBetween (tokens : List Token) (byte : UInt8) : Option Scanner :=
  if isBlank byte then
    some ⟨tokens, .between⟩
  else if byte = 0x22 then
    some ⟨tokens, .string []⟩
  else
    match punctuation? byte with
    | some token => some ⟨token :: tokens, .between⟩
    | none =>
      match word? byte with
      | some (rest, token) => some ⟨tokens, .word rest token⟩
      | none =>
        (NumberPart.start? (character byte)).map fun part =>
          ⟨tokens, .number part [character byte]⟩

/-- One byte of input; nothing if no JSON text goes on with it. -/
def step (scanner : Scanner) (byte : UInt8) : Option Scanner :=
  match scanner.phase with
  | .between => stepBetween scanner.tokens byte
  | .word [] _ => none
  | .word [last] token => if byte = last then some ⟨token :: scanner.tokens, .between⟩ else none
  | .word (next :: rest) token =>
    if byte = next then some { scanner with phase := .word rest token } else none
  | .string content =>
    if byte = 0x22 then some ⟨.string content.reverse :: scanner.tokens, .between⟩
    else if byte = 0x5c then some { scanner with phase := .escape (byte :: content) }
    else if byte < 0x20 then none
    else some { scanner with phase := .string (byte :: content) }
  | .escape content =>
    if byte = 0x75 then some { scanner with phase := .unicode 4 (byte :: content) }
    else if isShortEscape byte then some { scanner with phase := .string (byte :: content) }
    else none
  | .unicode left content =>
    if isHexDigit byte then
      if left ≤ 1 then some { scanner with phase := .string (byte :: content) }
      else some { scanner with phase := .unicode (left - 1) (byte :: content) }
    else none
  | .number part literal =>
    match part.next? (character byte) with
    | some next => some { scanner with phase := .number next (character byte :: literal) }
    | none =>
      if part.isComplete then stepBetween (.number literal.reverse :: scanner.tokens) byte else none

/-- The tokens in order, once the input has ended. -/
def finish : Scanner → Option (List Token)
  | ⟨tokens, .between⟩ => some tokens.reverse
  | ⟨tokens, .number part literal⟩ =>
    if part.isComplete then some (.number literal.reverse :: tokens).reverse else none
  | _ => none

end Scanner

/-- The tokens of a JSON text, if every byte of it belongs to one or stands between two. -/
def tokens? (bytes : Bytes) : Option (List Token) :=
  (bytes.foldlM Scanner.step Scanner.start).bind Scanner.finish

end Telemetry.Json
