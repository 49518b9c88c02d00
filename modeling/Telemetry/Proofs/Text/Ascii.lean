import Telemetry.Text.Blank
import Telemetry.Text.Hex

/-!
# Text of ASCII

A text of nothing but ASCII has a byte for each character. There are no blanks in a text of visible characters;
hexadecimal text is such a text, and its bytes are its digits.
-/

namespace Telemetry

namespace Text

theorem utf8_append (first second : String) : utf8 (first ++ second) = utf8 first ++ utf8 second := by
  simp [utf8]

theorem utf8_ofList (characters : List Char) :
    utf8 (String.ofList characters) = characters.flatMap String.utf8EncodeChar := by
  rw [utf8, String.toByteArray_ofList, List.utf8Encode, List.data_toByteArray]

/-- Each character of ASCII is one byte. -/
theorem utf8_ofList_of_ascii {characters : List Char}
    (ascii : ∀ character ∈ characters, character.toNat < 0x80) :
    utf8 (String.ofList characters) = characters.map fun character => character.toNat.toUInt8 := by
  rw [utf8_ofList]
  induction characters with
  | nil => rfl
  | cons character characters inductionHypothesis =>
    have small : character.val ≤ 127 :=
      UInt32.le_iff_toNat_le.2 (Nat.le_of_lt_succ (ascii character List.mem_cons_self))
    have oneByte := String.utf8EncodeChar_eq_singleton (Char.utf8Size_eq_one_iff.2 small)
    rw [List.flatMap_cons, oneByte, List.map_cons,
      inductionHypothesis fun other listed => ascii other (List.mem_cons_of_mem _ listed)]
    rfl

/-- A text whose bytes are all small is one of ASCII. -/
theorem ascii_of_utf8 {text : String} (small : ∀ byte ∈ utf8 text, byte.toNat < 0x80) :
    ∀ character ∈ text.toList, character.toNat < 0x80 := by
  let characters := (utf8 text).map fun byte => Char.ofNat byte.toNat
  have toNat_ofNat : ∀ number < 0x80, (Char.ofNat number).toNat = number := by decide
  have ascii : ∀ character ∈ characters, character.toNat < 0x80 := by
    intro character listed
    obtain ⟨byte, isByte, rfl⟩ := List.mem_map.1 listed
    rw [toNat_ofNat _ (small byte isByte)]
    exact small byte isByte
  have sameBytes : utf8 (String.ofList characters) = utf8 text := by
    rw [utf8_ofList_of_ascii ascii, List.map_map]
    refine (List.map_congr_left fun byte isByte => ?_).trans (List.map_id _)
    simp [toNat_ofNat _ (small byte isByte)]
  rw [← utf8_injective sameBytes, String.toList_ofList]
  exact ascii

/-- Nothing but visible characters of ASCII. -/
def IsVisible (text : String) : Prop :=
  ∀ character ∈ text.toList, 0x20 < character.toNat ∧ character.toNat < 0x7f

theorem isBlank_eq_false {character : Char} (visible : 0x20 < character.toNat ∧ character.toNat < 0x7f) :
    isBlank character = false := by
  simp only [isBlank, Bool.or_eq_false_iff, Bool.and_eq_false_iff, decide_eq_false_iff_not,
    beq_eq_false_iff_ne]
  omega

/-- No visible character is a blank, so nothing is taken off a visible text. -/
theorem IsVisible.trim {text : String} (visible : IsVisible text) : Text.trim text = text := by
  have unchanged : ∀ characters : List Char, (∀ character ∈ characters, isBlank character = false) →
      characters.dropWhile isBlank = characters := by
    intro characters plain
    cases characters with
    | nil => rfl
    | cons first rest => simp [plain first List.mem_cons_self]
  have noBlanks : ∀ character ∈ text.toList, isBlank character = false := fun character listed =>
    isBlank_eq_false (visible character listed)
  have reversed : text.toList.reverse.dropWhile isBlank = text.toList.reverse :=
    unchanged _ fun character listed => noBlanks character (List.mem_reverse.1 listed)
  rw [Text.trim, unchanged _ noBlanks, dropBlanksAtEnd, reversed, List.reverse_reverse, String.ofList_toList]

theorem IsVisible.isAllBlank_eq_false {text : String} (visible : IsVisible text) (nonempty : text.toList ≠ []) :
    isAllBlank text = false := by
  obtain ⟨character, listed⟩ := List.exists_mem_of_ne_nil _ nonempty
  rw [isAllBlank, List.all_eq_false]
  exact ⟨character, listed, by simp [isBlank_eq_false (visible character listed)]⟩

end Text

namespace Hex

/-- Every byte of a hexadecimal text is a digit. -/
theorem exists_of_mem_encode {bytes : Bytes} {byte : UInt8} (listed : byte ∈ encode bytes) :
    ∃ value < 16, byte = digit value := by
  obtain ⟨source, _, isDigit⟩ := List.mem_flatMap.1 listed
  have below := source.toNat_lt
  rcases List.mem_cons.1 isDigit with high | low
  · exact ⟨source.toNat / 16, by omega, high⟩
  · exact ⟨source.toNat % 16, by omega, List.mem_singleton.1 low⟩

theorem exists_of_mem_text {bytes : Bytes} {character : Char} (listed : character ∈ (text bytes).toList) :
    ∃ value < 16, character = Char.ofNat (digit value).toNat := by
  rw [text, String.toList_ofList] at listed
  obtain ⟨byte, isDigit, rfl⟩ := List.mem_map.1 listed
  obtain ⟨value, small, rfl⟩ := exists_of_mem_encode isDigit
  exact ⟨value, small, rfl⟩

/-- A hexadecimal text is visible. -/
theorem isVisible_text (bytes : Bytes) : Text.IsVisible (text bytes) := by
  intro character listed
  obtain ⟨value, small, rfl⟩ := exists_of_mem_text listed
  have visible : ∀ value < 16, 0x20 < (Char.ofNat (digit value).toNat).toNat ∧
      (Char.ofNat (digit value).toNat).toNat < 0x7f := by decide
  exact visible value small

/-- The bytes of a hexadecimal text are its digits. -/
theorem utf8_text (bytes : Bytes) : Text.utf8 (text bytes) = encode bytes := by
  have ascii : ∀ character ∈ (encode bytes).map fun digit => Char.ofNat digit.toNat,
      character.toNat < 0x80 := by
    intro character listed
    have visible := isVisible_text bytes character (by rwa [text, String.toList_ofList])
    omega
  rw [text, Text.utf8_ofList_of_ascii ascii, List.map_map]
  have sameByte : ∀ byte ∈ encode bytes, (Char.ofNat byte.toNat).toNat.toUInt8 = byte := by
    intro byte listed
    obtain ⟨value, small, rfl⟩ := exists_of_mem_encode listed
    have same : ∀ value < 16, (Char.ofNat (digit value).toNat).toNat.toUInt8 = digit value := by decide
    exact same value small
  exact (List.map_congr_left sameByte).trans (List.map_id _)

/-- The bytes are read back from their text. -/
theorem decode?_text (bytes : Bytes) : decode? (Text.utf8 (text bytes)) = some bytes := by
  rw [utf8_text, decode?_encode]

end Hex

end Telemetry
