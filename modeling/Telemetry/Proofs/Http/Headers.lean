import Telemetry.Http.Headers
import Telemetry.Proofs.Text.Ascii

/-!
# Reading headers

A visible text that is sent as the value of a header is read back from it. What is read under one name does not
depend on the headers with other names.
-/

namespace Telemetry.Headers

/-- A visible text is read back from its bytes. -/
theorem text?_utf8 {text : String} (visible : Text.IsVisible text) :
    text? (Text.utf8 text) = some text := by
  have ascii : ∀ character ∈ text.toList, character.toNat < 0x80 := by
    intro character listed
    have := visible character listed
    omega
  have bytes : Text.utf8 text = text.toList.map fun character => character.toNat.toUInt8 := by
    rw [← Text.utf8_ofList_of_ascii ascii, String.ofList_toList]
  have readable : (Text.utf8 text).all isReadable = true := by
    rw [bytes, List.all_eq_true]
    intro byte listed
    obtain ⟨character, isCharacter, rfl⟩ := List.mem_map.1 listed
    have bounds := visible character isCharacter
    have sameNumber : character.toNat.toUInt8.toNat = character.toNat := by
      simp only [Nat.toUInt8_eq, UInt8.toNat_ofNat']
      omega
    simp only [isReadable, Bool.or_eq_true, Bool.and_eq_true, decide_eq_true_eq]
    right
    constructor
    · rw [UInt8.le_iff_toNat_le, sameNumber]
      exact Nat.le_of_lt bounds.1
    · rw [UInt8.lt_iff_toNat_lt, sameNumber]
      exact bounds.2
  rw [text?, if_pos readable, Text.text?_utf8]

/-! ## One name among others -/

variable {headers first second : Headers} {name : String}

/-- The headers without those that have one of some names. -/
def without (headers : Headers) (names : List String) : Headers :=
  headers.filter fun header => !names.any (sameName header.1)

theorem values_without {names : List String} (kept : names.any (sameName name) = false) :
    (headers.without names).values name = headers.values name := by
  have ofThatName : ∀ header : String × Bytes,
      (sameName header.1 name && !names.any (sameName header.1)) = sameName header.1 name := by
    intro header
    cases same : sameName header.1 name with
    | false => rfl
    | true =>
      have sameLetters : header.1.toList.map Char.toLower = name.toList.map Char.toLower := by
        simpa [sameName] using same
      have kept : names.any (sameName header.1) = false := by
        simpa [sameName, sameLetters] using kept
      rw [kept]
      rfl
  unfold values without
  rw [List.filter_filter, List.filter_congr fun header _ => ofThatName header]

/-- A header with a name that is left out makes no difference. -/
theorem without_insert {names : List String} {value : Bytes} (leftOut : names.any (sameName name) = true)
    (front back : Headers) :
    (front ++ (name, value) :: back).without names = (front ++ back).without names := by
  simp [without, leftOut]

section

variable (same : first.values name = second.values name)

include same

theorem first?_congr : first.first? name = second.first? name := by
  rw [first?, first?, same]

theorem firstText?_congr : first.firstText? name = second.firstText? name := by
  rw [firstText?, firstText?, first?_congr same]

theorem lists_congr (coding : String) : first.lists name coding = second.lists name coding := by
  rw [lists, lists, same]

end

theorem allowsType_congr (same : first.values "content-type" = second.values "content-type") (expected : String) :
    first.allowsType expected = second.allowsType expected := by
  rw [allowsType, allowsType, first?_congr same]

end Telemetry.Headers
