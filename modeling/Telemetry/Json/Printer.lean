import Telemetry.Json.Basic
import Telemetry.Json.Text
import Telemetry.Number.Count
import Telemetry.Number.Shortest

/-!
# Writing JSON

A value is written as a sequence of pieces. What stands between the pieces is the only difference between
the two spacings: `compact` puts nothing there, and `indented` puts each item and member on a line of its
own, two spaces deeper than the bracket it belongs to. An empty array or object has nothing inside in
either.
-/

namespace Telemetry.Json

/-- What is written between the pieces of a value. -/
structure Spacing where
  /-- After an opening bracket or comma and before a closing bracket, at the given depth. -/
  newLine : Nat → Bytes
  /-- After the colon of a member. -/
  afterColon : Bytes

namespace Spacing

/-- No blanks at all. -/
def compact : Spacing := ⟨fun _ => [], []⟩

/-- One item or member on each line, indented by two spaces for each open bracket. -/
def indented : Spacing := ⟨fun depth => 0x0a :: List.replicate (2 * depth) 0x20, [0x20]⟩

end Spacing

mutual

/-- Writes a value after the pieces of `done`, which are kept newest first. -/
def writeOnto (spacing : Spacing) (depth : Nat) (done : List Bytes) : Json → List Bytes
  | .null => Token.null.bytes :: done
  | .bool value => (Token.bool value).bytes :: done
  | .number literal => (Token.number literal).bytes :: done
  | .string content => (Token.string content).bytes :: done
  | .array [] => Token.closeBracket.bytes :: Token.openBracket.bytes :: done
  | .array (first :: items) =>
    let begun := writeOnto spacing (depth + 1)
      (spacing.newLine (depth + 1) :: Token.openBracket.bytes :: done) first
    Token.closeBracket.bytes :: spacing.newLine depth :: writeItems spacing (depth + 1) begun items
  | .object [] => Token.closeBrace.bytes :: Token.openBrace.bytes :: done
  | .object ((key, value) :: members) =>
    let begun := writeOnto spacing (depth + 1)
      (spacing.afterColon :: Token.colon.bytes :: (Token.string key).bytes ::
        spacing.newLine (depth + 1) :: Token.openBrace.bytes :: done) value
    Token.closeBrace.bytes :: spacing.newLine depth :: writeMembers spacing (depth + 1) begun members

/-- Writes the items after the first one. -/
def writeItems (spacing : Spacing) (depth : Nat) (done : List Bytes) : List Json → List Bytes
  | [] => done
  | item :: items =>
    writeItems spacing depth
      (writeOnto spacing depth (spacing.newLine depth :: Token.comma.bytes :: done) item) items

/-- Writes the members after the first one. -/
def writeMembers (spacing : Spacing) (depth : Nat) (done : List Bytes) :
    List (Bytes × Json) → List Bytes
  | [] => done
  | (key, value) :: members =>
    writeMembers spacing depth
      (writeOnto spacing depth
        (spacing.afterColon :: Token.colon.bytes :: (Token.string key).bytes ::
          spacing.newLine depth :: Token.comma.bytes :: done) value) members

end

/-- The text of a value. -/
def bytes (spacing : Spacing) (value : Json) : Bytes :=
  (writeOnto spacing 0 [] value).reverse.flatten

/-! ## Values from data -/

/-- A text as a JSON value. -/
def ofText (text : String) : Json :=
  .string (escape text)

/-- A whole number as a JSON value. -/
def ofInt (value : Int) : Json :=
  .number (Decimal.signedDigits value)

/-- An object from its members in order. -/
def ofMembers (members : List (String × Json)) : Json :=
  .object (members.map fun (key, value) => (escape key, value))

/-- A binary value as a JSON number; what is no finite number becomes `null`. -/
def ofBinary64 (value : Binary64) : Json :=
  if value.isFinite then .number (value.finiteText Layout.json) else .null

end Telemetry.Json
