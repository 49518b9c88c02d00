import Telemetry.Json.Basic
import Telemetry.Json.Text
import Telemetry.Number.Count

/-!
# Reading data from JSON values

The readers here say which values stand for a text, a number or a record of named fields; each gives
nothing for a value that does not fit. Members of an object that no reader asks for may hold anything
that is well formed.
-/

namespace Telemetry.Json

/-- The text of a string whose escapes make sense and whose bytes are well-formed UTF-8. -/
def text? : Json → Option String
  | .string content => textOfContent? content
  | _ => none

/-- A finite binary value from any number, rounded to the nearest; a number that is too large does not
fit. -/
def binary64? : Json → Option Binary64
  | .number literal =>
    ((Decimal.ofText? literal).map Decimal.nearest).filter Binary64.isFinite
  | _ => none

/-- A whole number from a literal without point and exponent. Negative zero is written only for floating
point. -/
def integer? : Json → Option Int
  | .number literal => if literal = ['-', '0'] then none else Count.integer? literal
  | _ => none

/-- A count from a literal without point and exponent. -/
def count? (value : Json) : Option Count :=
  value.integer?.bind Count.ofInt?

/-- A natural number below `bound`, from a literal without point and exponent. -/
def natural? (bound : Nat) (value : Json) : Option Nat :=
  value.integer?.bind fun number =>
    if 0 ≤ number ∧ number < bound then some number.toNat else none

theorem lt_of_natural? {bound number : Nat} {value : Json} (read : value.natural? bound = some number) :
    number < bound := by
  obtain ⟨whole, _, kept⟩ := Option.bind_eq_some_iff.1 read
  obtain ⟨⟨_, below⟩, same⟩ := Option.ite_none_right_eq_some.1 kept
  cases same
  omega

/-- A truth value. -/
def bool? : Json → Option Bool
  | .bool value => some value
  | _ => none

/-- A value that may be `null`, which stands for nothing. -/
def nullable? {Datum : Type} (read? : Json → Option Datum) : Json → Option (Option Datum)
  | .null => some none
  | value => (read? value).map some

/-- The value of a field that may be missing or `null`. -/
def optional? {Datum : Type} (read? : Json → Option Datum) (field : Option Json) :
    Option (Option Datum) :=
  nullable? read? (field.getD .null)

/-- A field that is read as something holds what it is read from. -/
theorem exists_of_optional?_eq_some {Datum : Type} {read? : Json → Option Datum} {field : Option Json}
    {datum : Datum} (read : optional? read? field = some (some datum)) : ∃ json, read? json = some datum := by
  unfold optional? nullable? at read
  split at read
  · cases read
  · obtain ⟨_, found, same⟩ := Option.map_eq_some_iff.1 read
    cases same
    exact ⟨_, found⟩

/-- A list of values of one kind. -/
def list? {Datum : Type} (read? : Json → Option Datum) : Json → Option (List Datum)
  | .array items => items.mapM read?
  | _ => none

/-- The members of an object with their keys as texts. -/
def members? : Json → Option (List (String × Json))
  | .object members =>
    members.mapM fun (key, value) => (textOfContent? key).map fun key => (key, value)
  | _ => none

/-- The value of the only member with the given key, if there is one; a repeated key does not fit. -/
def single? (key : String) (members : List (String × Json)) : Option (Option Json) :=
  match members.filter fun member => member.1 = key with
  | [] => some none
  | [(_, value)] => some (some value)
  | _ => none

/-- The values of named fields, each possibly missing. They come from an object, whose other members are
ignored, or from an array that holds them in order, where those at the end may be missing. -/
def fields? (names : List String) : Json → Option (List (Option Json))
  | .array items =>
    if items.length ≤ names.length then
      some (items.map some ++ List.replicate (names.length - items.length) none)
    else
      none
  | value => value.members?.bind fun members => names.mapM fun name => single? name members

end Telemetry.Json
