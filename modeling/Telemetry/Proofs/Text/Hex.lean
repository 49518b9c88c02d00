import Mathlib.Data.List.Induction
import Telemetry.Proofs.Text.Ascii

/-!
# Reading hexadecimal text

What is read as hexadecimal, and as which bytes, in terms of the characters of the text: it is an even number of
digits, and they spell the bytes if they are the digits of the bytes, in any letter case.
-/

namespace Telemetry

namespace Hex

/-- The digits in either case. -/
def alphabet : List Char := "0123456789abcdefABCDEF".toList

/-- The text is an even number of digits. -/
def IsHex (text : String) : Prop :=
  text.length % 2 = 0 ∧ ∀ character ∈ text.toList, character ∈ alphabet

instance (text : String) : Decidable (IsHex text) :=
  @instDecidableAnd _ _ inferInstance (List.decidableBAll (· ∈ alphabet) text.toList)

/-- The text writes the bytes in hexadecimal, in any letter case. -/
def Spells (text : String) (bytes : Bytes) : Prop :=
  text.toList.map Char.toLower = (Hex.text bytes).toList

instance (text : String) (bytes : Bytes) : Decidable (Spells text bytes) :=
  inferInstanceAs (Decidable (_ = _))

/-! ## Digits -/

/-- The upper and the lower half of each byte. -/
def halves (bytes : Bytes) : List Nat :=
  bytes.flatMap fun byte => [byte.toNat / 16, byte.toNat % 16]

theorem halves_lt {bytes : Bytes} : ∀ half ∈ halves bytes, half < 16 := by
  intro half listed
  obtain ⟨byte, _, isHalf⟩ := List.mem_flatMap.1 listed
  have below := byte.toNat_lt
  simp only [List.mem_cons, List.not_mem_nil, or_false] at isHalf
  omega

theorem encode_eq_map_halves (bytes : Bytes) : encode bytes = (halves bytes).map digit := by
  simp [encode, halves, List.map_flatMap]

theorem value?_lt {byte : UInt8} {value : Nat} (isDigit : value? byte = some value) :
    value < 16 ∧ byte.toNat < 0x80 := by
  have each : ∀ number < 256, ∀ value, value? number.toUInt8 = some value → value < 16 ∧ number < 0x80 := by
    decide +kernel
  have same : byte.toNat.toUInt8 = byte := by simp
  exact each byte.toNat byte.toNat_lt value (by rwa [same])

theorem valueOfChar?_lt {character : Char} {value : Nat} (isDigit : valueOfChar? character = some value) :
    value < 16 ∧ character.toNat < 0x80 := by
  obtain ⟨ascii, isDigit⟩ := Option.ite_none_right_eq_some.1 isDigit
  exact ⟨(value?_lt isDigit).1, ascii⟩

/-- A character is a digit of a value if it is the digit that is written for it, in any letter case. -/
theorem valueOfChar?_eq_some_iff {character : Char} {value : Nat} (small : value < 16) :
    valueOfChar? character = some value ↔ character.toLower = Char.ofNat (digit value).toNat := by
  by_cases ascii : character.toNat < 0x80
  · have each : ∀ number < 0x80, ∀ value < 16, valueOfChar? (Char.ofNat number) = some value ↔
        (Char.ofNat number).toLower = Char.ofNat (digit value).toNat := by
      decide +kernel
    have here := each character.toNat ascii value small
    rwa [Char.ofNat_toNat] at here
  · have isAscii : ∀ value < 16, (Char.ofNat (digit value).toNat).toNat < 0x80 := by decide
    have noUpper : ¬(character.val ≥ 'A'.val ∧ character.val ≤ 'Z'.val) := by
      intro upper
      have bound := UInt32.le_iff_toNat_le.1 upper.2
      exact ascii (Nat.lt_of_le_of_lt bound (by decide))
    have asItIs : character.toLower = character := dif_neg noUpper
    rw [valueOfChar?, if_neg ascii, asItIs]
    refine iff_of_false (Option.some_ne_none value).symm fun isDigit => ascii ?_
    rw [isDigit]
    exact isAscii value small

theorem mem_alphabet_iff {character : Char} : character ∈ alphabet ↔ (valueOfChar? character).isSome := by
  by_cases ascii : character.toNat < 0x80
  · have each : ∀ number < 0x80, Char.ofNat number ∈ alphabet ↔ (valueOfChar? (Char.ofNat number)).isSome := by
      decide +kernel
    have here := each character.toNat ascii
    rwa [Char.ofNat_toNat] at here
  · have isAscii : (alphabet.all fun digit => digit.toNat < 0x80) = true := by decide
    rw [valueOfChar?, if_neg ascii]
    refine iff_of_false (fun listed => ascii ?_) nofun
    exact of_decide_eq_true (List.all_eq_true.1 isAscii character listed)

/-! ## Runs of digits -/

theorem decode?_cons_cons_eq_some_iff {high low : UInt8} {rest bytes : Bytes} :
    decode? (high :: low :: rest) = some bytes ↔
      ∃ upper lower others, value? high = some upper ∧ value? low = some lower ∧ decode? rest = some others ∧
        bytes = (16 * upper + lower).toUInt8 :: others := by
  rw [decode?]
  constructor
  · intro decoded
    split at decoded
    case h_1 upper lower others isUpper isLower restDecoded =>
      cases decoded
      exact ⟨upper, lower, others, isUpper, isLower, restDecoded, rfl⟩
    case h_2 => cases decoded
  · rintro ⟨upper, lower, others, isUpper, isLower, restDecoded, rfl⟩
    rw [isUpper, isLower, restDecoded]

/-- An even number of digits decodes to bytes, and nothing else does. -/
theorem isSome_decode?_iff {digits : Bytes} :
    (decode? digits).isSome ↔ digits.length % 2 = 0 ∧ ∀ digit ∈ digits, (value? digit).isSome := by
  induction digits using List.twoStepInduction with
  | nil => simp [decode?]
  | singleton digit => simp [decode?]
  | cons_cons high low rest inductionHypothesis _ =>
    have atOnce : (decode? (high :: low :: rest)).isSome ↔
        (value? high).isSome ∧ (value? low).isSome ∧ (decode? rest).isSome := by
      simp only [Option.isSome_iff_exists, decode?_cons_cons_eq_some_iff]
      constructor
      · rintro ⟨_, upper, lower, others, isUpper, isLower, restDecoded, _⟩
        exact ⟨⟨upper, isUpper⟩, ⟨lower, isLower⟩, others, restDecoded⟩
      · rintro ⟨⟨upper, isUpper⟩, ⟨lower, isLower⟩, others, restDecoded⟩
        exact ⟨_, upper, lower, others, isUpper, isLower, restDecoded, rfl⟩
    have sameParity : (high :: low :: rest).length % 2 = rest.length % 2 := by
      simp only [List.length_cons]
      omega
    rw [atOnce, inductionHypothesis, sameParity, List.forall_mem_cons, List.forall_mem_cons]
    constructor
    · rintro ⟨isUpper, isLower, even, others⟩
      exact ⟨even, isUpper, isLower, others⟩
    · rintro ⟨even, isUpper, isLower, others⟩
      exact ⟨isUpper, isLower, even, others⟩

/-- Digits decode to the bytes whose halves are their values. -/
theorem decode?_eq_some_iff {digits bytes : Bytes} :
    decode? digits = some bytes ↔ digits.map value? = (halves bytes).map some := by
  induction digits using List.twoStepInduction generalizing bytes with
  | nil => cases bytes <;> simp [decode?, halves]
  | singleton digit => cases bytes <;> simp [decode?, halves]
  | cons_cons high low rest inductionHypothesis _ =>
    rw [decode?_cons_cons_eq_some_iff]
    cases bytes with
    | nil => simp [halves]
    | cons byte others =>
      have below := byte.toNat_lt
      have valuesOfCons : (high :: low :: rest).map value? = (halves (byte :: others)).map some ↔
          value? high = some (byte.toNat / 16) ∧ value? low = some (byte.toNat % 16) ∧
            decode? rest = some others := by
        simp [halves, inductionHypothesis]
      rw [valuesOfCons]
      constructor
      · rintro ⟨upper, lower, _, isUpper, isLower, restDecoded, same⟩
        obtain ⟨isByte, rfl⟩ := List.cons.inj same
        have upperSmall := (value?_lt isUpper).1
        have lowerSmall := (value?_lt isLower).1
        have number : byte.toNat = 16 * upper + lower := by
          rw [isByte, Nat.toUInt8_eq, UInt8.toNat_ofNat']
          omega
        have upperHalf : byte.toNat / 16 = upper := by omega
        have lowerHalf : byte.toNat % 16 = lower := by omega
        rw [upperHalf, lowerHalf]
        exact ⟨isUpper, isLower, restDecoded⟩
      · rintro ⟨isUpper, isLower, restDecoded⟩
        have number : 16 * (byte.toNat / 16) + byte.toNat % 16 = byte.toNat := by omega
        refine ⟨_, _, others, isUpper, isLower, restDecoded, ?_⟩
        rw [number, Nat.toUInt8_eq, UInt8.ofNat_toNat]

/-! ## Texts -/

/-- Where all is ASCII, the bytes of a text are digits as its characters are. -/
theorem map_value?_utf8 {text : String} (ascii : ∀ character ∈ text.toList, character.toNat < 0x80) :
    (Text.utf8 text).map value? = text.toList.map valueOfChar? := by
  have bytes : Text.utf8 text = text.toList.map fun character => character.toNat.toUInt8 := by
    rw [← Text.utf8_ofList_of_ascii ascii, String.ofList_toList]
  rw [bytes, List.map_map]
  refine List.map_congr_left fun character listed => ?_
  rw [valueOfChar?, if_pos (ascii character listed)]
  rfl

theorem ascii_of_values_utf8 {text : String} (digits : ∀ byte ∈ Text.utf8 text, (value? byte).isSome) :
    ∀ character ∈ text.toList, character.toNat < 0x80 := by
  refine Text.ascii_of_utf8 fun byte listed => ?_
  obtain ⟨value, isDigit⟩ := Option.isSome_iff_exists.1 (digits byte listed)
  exact (value?_lt isDigit).2

theorem ascii_of_values {text : String} (digits : ∀ character ∈ text.toList, (valueOfChar? character).isSome) :
    ∀ character ∈ text.toList, character.toNat < 0x80 := by
  intro character listed
  obtain ⟨value, isDigit⟩ := Option.isSome_iff_exists.1 (digits character listed)
  exact (valueOfChar?_lt isDigit).2

/-- A text decodes to bytes if it is hexadecimal. -/
theorem isSome_decode?_utf8_iff {text : String} : (decode? (Text.utf8 text)).isSome ↔ IsHex text := by
  have isHex_iff : IsHex text ↔
      (text.toList.map valueOfChar?).length % 2 = 0 ∧ ∀ value ∈ text.toList.map valueOfChar?, value.isSome := by
    simp [IsHex, mem_alphabet_iff, String.length_toList]
  have decodes_iff : (decode? (Text.utf8 text)).isSome ↔
      ((Text.utf8 text).map value?).length % 2 = 0 ∧ ∀ value ∈ (Text.utf8 text).map value?, value.isSome := by
    simp [isSome_decode?_iff]
  rw [isHex_iff, decodes_iff]
  constructor
  · intro decodes
    rwa [← map_value?_utf8 (ascii_of_values_utf8 (List.forall_mem_map.1 decodes.2))]
  · intro isHex
    rwa [map_value?_utf8 (ascii_of_values (List.forall_mem_map.1 isHex.2))]

/-- Characters spell the digits of values, in any letter case, if these are their values. -/
theorem map_toLower_eq_iff {characters : List Char} {values : List Nat} (small : ∀ value ∈ values, value < 16) :
    characters.map Char.toLower = values.map (fun value => Char.ofNat (digit value).toNat) ↔
      characters.map valueOfChar? = values.map some := by
  induction characters generalizing values with
  | nil => cases values <;> simp
  | cons character rest inductionHypothesis =>
    cases values with
    | nil => simp
    | cons value values =>
      obtain ⟨isSmall, othersSmall⟩ := List.forall_mem_cons.1 small
      simp only [List.map_cons, List.cons.injEq, valueOfChar?_eq_some_iff isSmall, inductionHypothesis othersSmall]

theorem spells_iff {text : String} {bytes : Bytes} :
    Spells text bytes ↔ text.toList.map valueOfChar? = (halves bytes).map some := by
  rw [← map_toLower_eq_iff halves_lt, Spells, Hex.text, String.toList_ofList, encode_eq_map_halves, List.map_map]
  rfl

theorem Spells.length_eq {text : String} {bytes : Bytes} (spells : Spells text bytes) :
    text.length = 2 * bytes.length := by
  have sameLength := congrArg List.length (spells_iff.1 spells)
  have twoForEach : (halves bytes).length = 2 * bytes.length := by
    simp [halves, List.length_flatMap, List.map_const', Nat.mul_comm]
  rwa [List.length_map, String.length_toList, List.length_map, twoForEach] at sameLength

/-- A text decodes to the bytes that it spells. -/
theorem decode?_utf8_eq_some_iff {text : String} {bytes : Bytes} :
    decode? (Text.utf8 text) = some bytes ↔ Spells text bytes := by
  rw [decode?_eq_some_iff, spells_iff]
  have allDigits : ∀ value ∈ (halves bytes).map some, value.isSome := by simp
  constructor
  · intro decodes
    rw [← decodes] at allDigits
    rwa [← map_value?_utf8 (ascii_of_values_utf8 (List.forall_mem_map.1 allDigits))]
  · intro spells
    rw [← spells] at allDigits
    rwa [map_value?_utf8 (ascii_of_values (List.forall_mem_map.1 allDigits))]

end Hex

end Telemetry
