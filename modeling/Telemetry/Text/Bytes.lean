/-!
# Bytes and text

What travels between agent and collector is a list of bytes; names and messages are text. The two
functions here are the bridge: `utf8` writes a text, and `text?` reads a text back or refuses bytes
that are not well-formed UTF-8. `text?_utf8` says that reading undoes writing.
-/

namespace Telemetry

/-- A finite run of bytes. -/
abbrev Bytes := List UInt8

namespace Text

/-- The UTF-8 bytes of a text. -/
def utf8 (text : String) : Bytes :=
  text.toByteArray.data.toList

/-- The text that `bytes` spell in UTF-8, if they are well formed. -/
def text? (bytes : Bytes) : Option String :=
  String.fromUTF8? ⟨bytes.toArray⟩

@[simp]
theorem text?_utf8 (text : String) : text? (utf8 text) = some text := by
  simp only [text?, utf8, String.fromUTF8?, Array.toArray_toList]
  exact dif_pos text.isValidUTF8

/-- Distinct texts have distinct bytes. -/
theorem utf8_injective {first second : String} (sameBytes : utf8 first = utf8 second) :
    first = second := by
  have sameText := congrArg text? sameBytes
  simpa using sameText

end Text

end Telemetry
