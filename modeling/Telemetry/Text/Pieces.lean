/-!
# Pieces of a text

A text with separators falls into pieces: what stands before, between and after them. There is one piece
more than there are separators, and pieces may be empty.
-/

namespace Telemetry.Text

/-- The pieces of a text with the given separator. -/
def pieces (separator : Char) : List Char → List (List Char)
  | [] => [[]]
  | character :: rest =>
    if character = separator then
      [] :: pieces separator rest
    else
      match pieces separator rest with
      | [] => [[character]]
      | first :: others => (character :: first) :: others

/-- What stands before the first separator and, if there is one, after it. -/
def cut (separator : Char) (text : List Char) : List Char × Option (List Char) :=
  match text.dropWhile (· != separator) with
  | [] => (text, none)
  | _ :: rest => (text.takeWhile (· != separator), some rest)

variable {Symbol : Type} [BEq Symbol]

/-- What follows the start of a text, if it begins so. -/
def afterStart? (start text : List Symbol) : Option (List Symbol) :=
  if start.isPrefixOf text then some (text.drop start.length) else none

/-- What comes before the end of a text, if it ends so. -/
def beforeEnd? (ending text : List Symbol) : Option (List Symbol) :=
  (afterStart? ending.reverse text.reverse).map List.reverse

end Telemetry.Text
