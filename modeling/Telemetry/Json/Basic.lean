import Telemetry.Json.Token

/-!
# JSON values

The second stage of reading: tokens to a value. The parser is a machine with a stack, one frame for each
bracket or brace that is still open, so it takes nesting of any depth.

Strings and number literals stay as they were written; `Json.text?` and the readers of numbers give them
a meaning where one is asked for. An object is the list of its members in the order of the text, repeated
keys included: what a repeated key means is for the reader of the object.
-/

namespace Telemetry

/-- A JSON value, with its strings and number literals as they are written. -/
inductive Json
  | null
  | bool (value : Bool)
  | number (literal : List Char)
  | string (content : Bytes)
  | array (items : List Json)
  | object (members : List (Bytes × Json))
  deriving Inhabited, Repr

namespace Json

/-- An array or object that is still open: what it holds so far, newest first, and for an object the key
whose value comes next. -/
inductive Frame
  | array (items : List Json)
  | object (members : List (Bytes × Json)) (key : Bytes)
  deriving Repr

/-- What may come next. -/
inductive Expecting
  | value
  | firstItem
  | firstKey
  | nextKey (members : List (Bytes × Json))
  | colon (members : List (Bytes × Json)) (key : Bytes)
  | afterItem (items : List Json)
  | afterMember (members : List (Bytes × Json))
  | nothing (value : Json)
  deriving Repr

/-- The state of the parser. -/
structure Parser where
  stack : List Frame
  expecting : Expecting
  deriving Repr

namespace Parser

/-- Nothing read yet. -/
def start : Parser := ⟨[], .value⟩

/-- The state once a whole value has been read inside the frames of `stack`. -/
def complete (value : Json) : List Frame → Parser
  | [] => ⟨[], .nothing value⟩
  | .array items :: stack => ⟨stack, .afterItem (value :: items)⟩
  | .object members key :: stack => ⟨stack, .afterMember ((key, value) :: members)⟩

/-- The first token of a value. -/
def beginValue (stack : List Frame) : Token → Option Parser
  | .null => some (complete .null stack)
  | .bool value => some (complete (.bool value) stack)
  | .number literal => some (complete (.number literal) stack)
  | .string content => some (complete (.string content) stack)
  | .openBracket => some ⟨stack, .firstItem⟩
  | .openBrace => some ⟨stack, .firstKey⟩
  | _ => none

/-- One token; nothing if no JSON text goes on with it. -/
def step (parser : Parser) (token : Token) : Option Parser :=
  match parser.expecting with
  | .value => beginValue parser.stack token
  | .firstItem =>
    match token with
    | .closeBracket => some (complete (.array []) parser.stack)
    | token => beginValue (.array [] :: parser.stack) token
  | .firstKey =>
    match token with
    | .closeBrace => some (complete (.object []) parser.stack)
    | .string key => some ⟨parser.stack, .colon [] key⟩
    | _ => none
  | .nextKey members =>
    match token with
    | .string key => some ⟨parser.stack, .colon members key⟩
    | _ => none
  | .colon members key =>
    match token with
    | .colon => some ⟨.object members key :: parser.stack, .value⟩
    | _ => none
  | .afterItem items =>
    match token with
    | .comma => some ⟨.array items :: parser.stack, .value⟩
    | .closeBracket => some (complete (.array items.reverse) parser.stack)
    | _ => none
  | .afterMember members =>
    match token with
    | .comma => some ⟨parser.stack, .nextKey members⟩
    | .closeBrace => some (complete (.object members.reverse) parser.stack)
    | _ => none
  | .nothing _ => none

/-- The value that has been read, once the tokens have ended. -/
def finish : Parser → Option Json
  | ⟨_, .nothing value⟩ => some value
  | _ => none

end Parser

/-- The value that a list of tokens writes. -/
def ofTokens? (tokens : List Token) : Option Json :=
  (tokens.foldlM Parser.step Parser.start).bind Parser.finish

/-- The value that a JSON text writes: exactly one, with blanks around it at most. -/
def ofBytes? (bytes : Bytes) : Option Json :=
  (tokens? bytes).bind ofTokens?

end Json

end Telemetry
