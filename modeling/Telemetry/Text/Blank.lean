/-!
# Blanks

The characters that show nothing but space, after the White_Space property of Unicode, and the text that
is left when they are taken off at both ends.
-/

namespace Telemetry.Text

/-- Whether a character is white space. -/
def isBlank (character : Char) : Bool :=
  let number := character.toNat
  (0x09 ≤ number && number ≤ 0x0d) || number == 0x20 || number == 0x85 || number == 0xa0 ||
    number == 0x1680 || (0x2000 ≤ number && number ≤ 0x200a) || number == 0x2028 ||
    number == 0x2029 || number == 0x202f || number == 0x205f || number == 0x3000

/-- The characters without the blanks at their end. -/
def dropBlanksAtEnd (characters : List Char) : List Char :=
  (characters.reverse.dropWhile isBlank).reverse

/-- The text without the blanks at its ends. -/
def trim (text : String) : String :=
  String.ofList (dropBlanksAtEnd (text.toList.dropWhile isBlank))

/-- Whether there is nothing but blanks. -/
def isAllBlank (text : String) : Bool :=
  text.toList.all isBlank

end Telemetry.Text
