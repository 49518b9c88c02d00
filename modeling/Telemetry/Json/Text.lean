import Telemetry.Text.Hex

/-!
# Text inside JSON strings

Between the quotes of a JSON string a text is written with escapes. `escape` escapes only what has to be:
the quote, the backslash and the control characters. `unescape?` reads every escape of the grammar; it
refuses half of a surrogate pair, which stands for no character. `textOfContent?_escape` says that
reading undoes writing.

Both work on the bytes of UTF-8. All bytes that need an escape are ASCII, and the other bytes of a text
are never equal to one of these.
-/

namespace Telemetry.Json

/-- How one byte of a text is written. -/
def escapeByte (byte : UInt8) : Bytes :=
  if byte = 0x22 then [0x5c, 0x22]
  else if byte = 0x5c then [0x5c, 0x5c]
  else if byte = 0x08 then [0x5c, 0x62]
  else if byte = 0x0c then [0x5c, 0x66]
  else if byte = 0x0a then [0x5c, 0x6e]
  else if byte = 0x0d then [0x5c, 0x72]
  else if byte = 0x09 then [0x5c, 0x74]
  else if byte < 0x20 then
    [0x5c, 0x75, 0x30, 0x30, Hex.digit (byte.toNat / 16), Hex.digit (byte.toNat % 16)]
  else [byte]

/-- A text as it is written between quotes. -/
def escape (text : String) : Bytes :=
  (Text.utf8 text).flatMap escapeByte

/-- What the letter after a backslash stands for, apart from `u`. -/
def shortEscape? (letter : UInt8) : Option UInt8 :=
  if letter = 0x22 ∨ letter = 0x5c ∨ letter = 0x2f then some letter
  else if letter = 0x62 then some 0x08
  else if letter = 0x66 then some 0x0c
  else if letter = 0x6e then some 0x0a
  else if letter = 0x72 then some 0x0d
  else if letter = 0x74 then some 0x09
  else none

/-- The first half of a surrogate pair. -/
def isHighSurrogate (unit : Nat) : Bool :=
  0xd800 ≤ unit && unit < 0xdc00

/-- The second half of a surrogate pair. -/
def isLowSurrogate (unit : Nat) : Bool :=
  0xdc00 ≤ unit && unit < 0xe000

/-- The UTF-8 bytes of the character with the given number, newest first. -/
def characterReversed (number : Nat) : Bytes :=
  (String.utf8EncodeChar (Char.ofNat number)).reverse

/-! ## Reading escapes -/

/-- What the reader of escapes is in the middle of. `half` is the first half of a surrogate pair, if one
has been read. -/
inductive EscapePhase
  | plain
  | backslash
  | halfRead (half : Nat)
  | halfBackslash (half : Nat)
  | digits (left : Nat) (value : Nat) (half : Option Nat)
  deriving DecidableEq, Repr

/-- The bytes read so far, newest first, and what is under way. -/
structure Unescaper where
  done : Bytes
  phase : EscapePhase
  deriving DecidableEq, Repr

namespace Unescaper

/-- Nothing read yet. -/
def start : Unescaper := ⟨[], .plain⟩

/-- The state after the four digits of one `u` escape. -/
def acceptUnit (done : Bytes) (unit : Nat) : Option Nat → Option Unescaper
  | none =>
    if isHighSurrogate unit then some ⟨done, .halfRead unit⟩
    else if isLowSurrogate unit then none
    else some ⟨characterReversed unit ++ done, .plain⟩
  | some half =>
    if isLowSurrogate unit then
      let number := 0x10000 + (half - 0xd800) * 0x400 + (unit - 0xdc00)
      some ⟨characterReversed number ++ done, .plain⟩
    else
      none

/-- One byte between the quotes; nothing if it cannot stand there. -/
def step (reader : Unescaper) (byte : UInt8) : Option Unescaper :=
  match reader.phase with
  | .plain =>
    if byte = 0x5c then some { reader with phase := .backslash }
    else some ⟨byte :: reader.done, .plain⟩
  | .backslash =>
    if byte = 0x75 then some { reader with phase := .digits 4 0 none }
    else (shortEscape? byte).map fun meant => ⟨meant :: reader.done, .plain⟩
  | .halfRead half =>
    if byte = 0x5c then some { reader with phase := .halfBackslash half } else none
  | .halfBackslash half =>
    if byte = 0x75 then some { reader with phase := .digits 4 0 (some half) } else none
  | .digits left value half =>
    match Hex.value? byte with
    | none => none
    | some digit =>
      if left ≤ 1 then acceptUnit reader.done (value * 16 + digit) half
      else some { reader with phase := .digits (left - 1) (value * 16 + digit) half }

/-- The bytes read, once the content has ended. -/
def finish : Unescaper → Option Bytes
  | ⟨done, .plain⟩ => some done.reverse
  | _ => none

end Unescaper

/-- The bytes of the text that is written between quotes. -/
def unescape? (content : Bytes) : Option Bytes :=
  (content.foldlM Unescaper.step Unescaper.start).bind Unescaper.finish

/-- The text that is written between quotes. -/
def textOfContent? (content : Bytes) : Option String :=
  (unescape? content).bind Text.text?

/-! ## Reading undoes writing -/

/-- The escape of a byte is read as that byte. -/
theorem foldlM_escapeByte (done : Bytes) (byte : UInt8) :
    (escapeByte byte).foldlM Unescaper.step ⟨done, .plain⟩ = some ⟨byte :: done, .plain⟩ := by
  unfold escapeByte
  split
  · next quote => subst quote; rfl
  split
  · next backslash => subst backslash; rfl
  split
  · next backspace => subst backspace; rfl
  split
  · next formFeed => subst formFeed; rfl
  split
  · next lineFeed => subst lineFeed; rfl
  split
  · next carriageReturn => subst carriageReturn; rfl
  split
  · next tab => subst tab; rfl
  split
  · next control =>
    have below : byte.toNat < 32 := UInt8.lt_iff_toNat_lt.1 control
    have zeroDigit : Hex.value? 0x30 = some 0 := by decide
    have highDigit := Hex.value?_digit (byte.toNat / 16) (by omega)
    have lowDigit := Hex.value?_digit (byte.toNat % 16) (by omega)
    have sameNumber : byte.toNat / 16 * 16 + byte.toNat % 16 = byte.toNat := by omega
    have notHigh : isHighSurrogate byte.toNat = false := by
      simp only [isHighSurrogate, Bool.and_eq_false_iff, decide_eq_false_iff_not]
      omega
    have notLow : isLowSurrogate byte.toNat = false := by
      simp only [isLowSurrogate, Bool.and_eq_false_iff, decide_eq_false_iff_not]
      omega
    have oneByte : ∀ value < 32, characterReversed value = [UInt8.ofNat value] := by decide
    have written : characterReversed byte.toNat = [byte] := by
      rw [oneByte _ below, UInt8.ofNat_toNat]
    simp [Unescaper.step, zeroDigit, highDigit, lowDigit, sameNumber, Unescaper.acceptUnit, notHigh,
      notLow, written]
  · next notBackslash _ _ _ _ _ _ => simp [Unescaper.step, notBackslash]

theorem foldlM_flatMap_escapeByte (done bytes : Bytes) :
    (bytes.flatMap escapeByte).foldlM Unescaper.step ⟨done, .plain⟩ =
      some ⟨bytes.reverse ++ done, .plain⟩ := by
  induction bytes generalizing done with
  | nil => rfl
  | cons byte rest inductionHypothesis =>
    rw [List.flatMap_cons, List.foldlM_append, foldlM_escapeByte]
    simp [inductionHypothesis]

/-- Reading the escapes of a text gives the text back. -/
@[simp]
theorem textOfContent?_escape (text : String) : textOfContent? (escape text) = some text := by
  simp [textOfContent?, unescape?, escape, Unescaper.start, foldlM_flatMap_escapeByte,
    Unescaper.finish]

end Telemetry.Json
