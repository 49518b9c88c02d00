import Telemetry.Log
import Telemetry.Number.Count
import Telemetry.Text.Blank
import Telemetry.Text.Bytes
import Telemetry.Text.LetterCase
import Telemetry.Text.Pieces

/-!
# Log filters

Which lines of the log are wanted is said by directives between commas. A directive is a level, a target,
or a target and a level with `=` between them; a span in brackets, with a field in braces or without, may
follow the target or stand in its place.

A line of the log is shown or not by the directive with the longest target that the source of the line
begins with; a directive about spans says nothing about lines.

A directive is scanned without the blanks at its ends, but a level is read off at the same place of the
text with these blanks. So a directive with a level may not have blanks in front.
-/

namespace Telemetry

/-- Why the log could not be set up. -/
inductive LoggerError
  | invalidLevel (level : String)
  | alreadyInstalled
  deriving DecidableEq, Repr

/-- The wording of a failure. -/
def LoggerError.message : LoggerError → String
  | invalidLevel level => "could not parse log level '" ++ level ++ "': <filter error>"
  | alreadyInstalled => "setting default subscriber failed"

namespace LogFilter

/-- What the scanner of a directive is in the middle of. Places are counted in bytes. -/
inductive Phase
  | start
  | target
  | span
  | field (opened : Nat)
  | afterField
  | afterSpan
  | level (opened : Nat)
  deriving DecidableEq, Repr

namespace Phase

/-- Whether a directive may begin with a character that begins a target. -/
def beginsTarget (character : Char) : Bool :=
  character == '-' || character == ':' || character == '_' ||
    Text.CharacterClass.letterOrNumber.contains character

/-- One character, which ends at the byte `place`; nothing if no directive goes on with it. -/
def step (place : Nat) (character : Char) : Phase → Option Phase
  | start =>
    if character = '[' then some span
    else if beginsTarget character then some target
    else none
  | target =>
    if character = '=' then some (level place)
    else if character = '[' then some span
    else some target
  | span =>
    if character = ']' then some afterSpan
    else if character = '{' then some (field place)
    else some span
  | field opened =>
    if character = '}' then if opened + 1 = place then none else some afterField
    else some (field opened)
  | afterField => if character = ']' then some afterSpan else none
  | afterSpan => if character = '=' then some (level place) else none
  | level opened => some (level opened)

end Phase

/-- The phase after the characters of a directive, the first of which begins at the byte `place`. -/
def scan (phase : Phase) (place : Nat) : List Char → Option Phase
  | [] => some phase
  | character :: rest =>
    match phase.step (place + character.utf8Size) character with
    | some next => scan next (place + character.utf8Size) rest
    | none => none

/-- The names of the levels. -/
def levelNames : List String :=
  ["off", "error", "warn", "info", "debug", "trace"]

/-- The level that a text in lower case names or numbers: how many severities it lets through, gravest
first. Nothing at all stands for the chattiest level. -/
def level? (text : String) : Option Nat :=
  if text = "" then some 5
  else (levelNames.idxOf? text).or (boundedNatural? levelNames.length text)

/-- What a directive says. -/
structure Directive where
  /-- What the source of a line has to begin with. -/
  target : String
  level : Nat
  /-- Whether it is about spans. -/
  aboutSpans : Bool
  deriving DecidableEq, Repr

namespace Directive

/-- The part of a directive before a level or a span, counted in bytes of the directive without blanks at
its ends and taken from the whole. -/
def targetOf (part : String) : String :=
  let before := (Text.trim part).toList.takeWhile fun character => character != '=' && character != '['
  (Text.text? ((Text.utf8 part).take (Text.utf8 (String.ofList before)).length)).getD part

/-- A directive that is a level or a target; a target alone lets everything through. -/
def ofName (name : String) : Directive :=
  match level? name with
  | some level => ⟨"", level, false⟩
  | none => ⟨name, 5, false⟩

/-- The directive that a part between commas writes. -/
def ofText? (part : String) : Option Directive :=
  let aboutSpans := (Text.trim part).toList.takeWhile (· != '=') |>.contains '['
  match scan .start 0 (Text.trim part).toList with
  | some .target => some (ofName part)
  | some .afterSpan => some ⟨targetOf part, 5, true⟩
  | some (.level opened) =>
    ((Text.text? ((Text.utf8 part).drop opened)).bind level?).map fun level =>
      ⟨targetOf part, level, aboutSpans⟩
  | _ => none

/-- Whether a directive says something about lines from `source`. -/
def concerns (directive : Directive) (source : String) : Bool :=
  !directive.aboutSpans && directive.target.toList.isPrefixOf source.toList

end Directive

/-- The text of a filter as it is read: in lower case, without blanks at the ends, and `info` in the place
of nothing. -/
def normalize (level : String) : String :=
  let text := Text.lowercase (Text.trim level)
  if text = "" then "info" else text

/-- The directives of a filter; empty parts are passed over. -/
def directives? (level : String) : Option (List Directive) :=
  let parts := (Text.pieces ',' (normalize level).toList).filter fun part => !part.isEmpty
  parts.mapM fun part => Directive.ofText? (String.ofList part)

/-- Checks that a text is a filter. -/
def check (level : String) : Except LoggerError Unit :=
  if (directives? level).isSome then .ok () else .error (.invalidLevel (normalize level))

/-- How many severities a level has to let through for a line to be shown. -/
def needed : Severity → Nat
  | .error => 1
  | .warning => 2

/-- The one of two directives that counts: the one with the longer target, or else the later one. -/
def weightier (first second : Directive) : Directive :=
  if second.target.length < first.target.length then first else second

/-- Whether a filter shows a line that comes from `source`. -/
def shows (level source : String) (line : LogLine) : Bool :=
  let concerned := ((directives? level).getD []).filter fun directive => directive.concerns source
  match concerned with
  | [] => false
  | first :: others => needed line.severity ≤ (others.foldl weightier first).level

end LogFilter

end Telemetry
