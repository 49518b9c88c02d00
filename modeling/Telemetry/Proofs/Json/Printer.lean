import Telemetry.Json.Printer
import Telemetry.Proofs.Json.Basic
import Telemetry.Proofs.Json.Token

/-!
# Reading what was written

A value is read back from its text, in either spacing, if its strings and number literals are well formed.
The writer keeps pieces, newest first, and the scanner is followed piece by piece: after the pieces of a
value it has read the tokens of that value, and the parser makes the value of these.
-/

namespace Telemetry.Json

/-- All strings and number literals inside are what they seem to be. -/
inductive WellFormed : Json → Prop
  | null : WellFormed .null
  | bool (value : Bool) : WellFormed (.bool value)
  | number {literal : List Char} (isNumber : IsNumber literal) : WellFormed (.number literal)
  | string {content : Bytes} (isContent : IsContent content) : WellFormed (.string content)
  | array {items : List Json} (items_wellFormed : ∀ item ∈ items, WellFormed item) :
    WellFormed (.array items)
  | object {members : List (Bytes × Json)} (keys : ∀ member ∈ members, IsContent member.1)
    (values : ∀ member ∈ members, WellFormed member.2) : WellFormed (.object members)

/-- A spacing that has nothing but blanks. -/
structure Spacing.IsBlank (spacing : Spacing) : Prop where
  newLine : ∀ depth, ∀ byte ∈ spacing.newLine depth, Scanner.isBlank byte = true
  afterColon : ∀ byte ∈ spacing.afterColon, Scanner.isBlank byte = true

theorem Spacing.compact_isBlank : Spacing.compact.IsBlank where
  newLine := by simp [compact]
  afterColon := by simp [compact]

theorem Spacing.indented_isBlank : Spacing.indented.IsBlank where
  newLine := by
    intro depth byte listed
    rcases List.mem_cons.1 listed with rfl | space
    · rfl
    · rw [List.eq_of_mem_replicate space]
      rfl
  afterColon := by simp [indented, Scanner.isBlank]

namespace Scanner

/-- The state after some pieces, which are kept newest first. -/
def After (done : List Bytes) (scanner : Scanner) : Prop :=
  done.reverse.flatten.foldlM step start = some scanner

theorem After.push {done : List Bytes} {scanner next : Scanner} {piece : Bytes}
    (after : After done scanner) (read : piece.foldlM step scanner = some next) :
    After (piece :: done) next := by
  rw [After, List.reverse_cons, List.flatten_append, List.flatten_singleton,
    foldlM_append_of_eq_some after, read]

end Scanner

open Scanner (After HasRead)

/-- After what is written for a value between two tokens, these tokens have been read. -/
def IsWritten (spacing : Spacing) (tokens : List Token) (value : Json) : Prop :=
  ∀ depth done earlier, After done ⟨earlier, .between⟩ →
    ∃ next, After (writeOnto spacing depth done value) next ∧ HasRead (tokens.reverse ++ earlier) next

/-- The same for a member: its key, a colon and its value. -/
def IsWrittenMember (spacing : Spacing) (tokens : List Token) (member : Bytes × Json) : Prop :=
  ∃ rest, tokens = .string member.1 :: .colon :: rest ∧ IsContent member.1 ∧
    IsWritten spacing rest member.2

variable {spacing : Spacing}

/-! ## Items and members -/

/-- What is written for an item after others, the comma included. -/
theorem writeItems_after (blank : spacing.IsBlank) {spellings : List (List Token)} {items : List Json}
    (written : List.Forall₂ (IsWritten spacing) spellings items) (depth : Nat) {done : List Bytes}
    {scanner : Scanner} {earlier : List Token} (after : After done scanner)
    (read : HasRead earlier scanner) :
    ∃ next, After (writeItems spacing depth done items) next ∧
      HasRead ((spellings.flatMap (.comma :: ·)).reverse ++ earlier) next := by
  induction written generalizing done scanner earlier with
  | nil => exact ⟨scanner, after, read⟩
  | @cons tokens item spellings items first _ inductionHypothesis =>
    have afterComma := after.push (read.foldlM_punctuation Scanner.punctuation?_comma)
    have afterLine := afterComma.push (Scanner.foldlM_blanks (blank.newLine depth) _)
    obtain ⟨middle, afterItem, readItem⟩ := first depth _ _ afterLine
    obtain ⟨next, afterItems, readItems⟩ := inductionHypothesis afterItem readItem
    refine ⟨next, afterItems, ?_⟩
    simpa using readItems

/-- What is written for the value of a member, after its key. -/
theorem IsWrittenMember.after (blank : spacing.IsBlank) {tokens : List Token} {member : Bytes × Json}
    (written : IsWrittenMember spacing tokens member) (depth : Nat) {done : List Bytes}
    {earlier : List Token} (after : After done ⟨earlier, .between⟩) :
    ∃ next, After (writeOnto spacing depth
      (spacing.afterColon :: Token.colon.bytes :: (Token.string member.1).bytes :: done) member.2) next ∧
        HasRead (tokens.reverse ++ earlier) next := by
  obtain ⟨rest, rfl, isContent, value⟩ := written
  have afterKey := after.push (Scanner.foldlM_string isContent earlier)
  have afterColon :=
    afterKey.push (HasRead.foldlM_punctuation (.inl rfl) Scanner.punctuation?_colon)
  have afterBlank := afterColon.push (Scanner.foldlM_blanks blank.afterColon _)
  obtain ⟨next, afterValue, readValue⟩ := value depth _ _ afterBlank
  refine ⟨next, afterValue, ?_⟩
  simpa using readValue

/-- What is written for a member after others, the comma included. -/
theorem writeMembers_after (blank : spacing.IsBlank) {spellings : List (List Token)}
    {members : List (Bytes × Json)}
    (written : List.Forall₂ (IsWrittenMember spacing) spellings members) (depth : Nat)
    {done : List Bytes} {scanner : Scanner} {earlier : List Token} (after : After done scanner)
    (read : HasRead earlier scanner) :
    ∃ next, After (writeMembers spacing depth done members) next ∧
      HasRead ((spellings.flatMap (.comma :: ·)).reverse ++ earlier) next := by
  induction written generalizing done scanner earlier with
  | nil => exact ⟨scanner, after, read⟩
  | @cons tokens member spellings members first _ inductionHypothesis =>
    have afterComma := after.push (read.foldlM_punctuation Scanner.punctuation?_comma)
    have afterLine := afterComma.push (Scanner.foldlM_blanks (blank.newLine depth) _)
    obtain ⟨middle, afterMember, readMember⟩ := first.after blank depth afterLine
    obtain ⟨next, afterMembers, readMembers⟩ := inductionHypothesis afterMember readMember
    refine ⟨next, afterMembers, ?_⟩
    simpa using readMembers

/-! ## Values -/

theorem isWritten_array_nil : IsWritten spacing [.openBracket, .closeBracket] (.array []) := by
  intro depth done earlier after
  have opened := after.push (HasRead.foldlM_punctuation (.inl rfl) Scanner.punctuation?_openBracket)
  have closed := opened.push (HasRead.foldlM_punctuation (.inl rfl) Scanner.punctuation?_closeBracket)
  rw [writeOnto]
  exact ⟨_, closed, .inl rfl⟩

theorem isWritten_array_cons (blank : spacing.IsBlank) {tokens : List Token} {item : Json}
    {spellings : List (List Token)} {items : List Json} (first : IsWritten spacing tokens item)
    (others : List.Forall₂ (IsWritten spacing) spellings items) :
    IsWritten spacing (.openBracket :: (tokens ++ spellings.flatMap (.comma :: ·) ++ [.closeBracket]))
      (.array (item :: items)) := by
  intro depth done earlier after
  have opened := after.push (HasRead.foldlM_punctuation (.inl rfl) Scanner.punctuation?_openBracket)
  have afterLine := opened.push (Scanner.foldlM_blanks (blank.newLine (depth + 1)) _)
  obtain ⟨begun, afterFirst, readFirst⟩ := first (depth + 1) _ _ afterLine
  obtain ⟨last, afterLast, readLast⟩ := writeItems_after blank others (depth + 1) afterFirst readFirst
  obtain ⟨ended, blanks, readBlanks⟩ := readLast.foldlM_blanks (blank.newLine depth)
  have closed := (afterLast.push blanks).push
    (readBlanks.foldlM_punctuation Scanner.punctuation?_closeBracket)
  rw [writeOnto]
  exact ⟨_, closed, .inl (by simp)⟩

theorem isWritten_object_nil : IsWritten spacing [.openBrace, .closeBrace] (.object []) := by
  intro depth done earlier after
  have opened := after.push (HasRead.foldlM_punctuation (.inl rfl) Scanner.punctuation?_openBrace)
  have closed := opened.push (HasRead.foldlM_punctuation (.inl rfl) Scanner.punctuation?_closeBrace)
  rw [writeOnto]
  exact ⟨_, closed, .inl rfl⟩

theorem isWritten_object_cons (blank : spacing.IsBlank) {tokens : List Token} {member : Bytes × Json}
    {spellings : List (List Token)} {members : List (Bytes × Json)}
    (first : IsWrittenMember spacing tokens member)
    (others : List.Forall₂ (IsWrittenMember spacing) spellings members) :
    IsWritten spacing (.openBrace :: (tokens ++ spellings.flatMap (.comma :: ·) ++ [.closeBrace]))
      (.object (member :: members)) := by
  intro depth done earlier after
  have opened := after.push (HasRead.foldlM_punctuation (.inl rfl) Scanner.punctuation?_openBrace)
  have afterLine := opened.push (Scanner.foldlM_blanks (blank.newLine (depth + 1)) _)
  obtain ⟨begun, afterFirst, readFirst⟩ := first.after blank (depth + 1) afterLine
  obtain ⟨last, afterLast, readLast⟩ := writeMembers_after blank others (depth + 1) afterFirst readFirst
  obtain ⟨ended, blanks, readBlanks⟩ := readLast.foldlM_blanks (blank.newLine depth)
  have closed := (afterLast.push blanks).push
    (readBlanks.foldlM_punctuation Scanner.punctuation?_closeBrace)
  rw [writeOnto]
  exact ⟨_, closed, .inl (by simp)⟩

/-- A well-formed value is written as tokens that write it. -/
theorem WellFormed.exists_tokens (blank : spacing.IsBlank) {value : Json} (wellFormed : WellFormed value) :
    ∃ tokens, Spells tokens value ∧ IsWritten spacing tokens value := by
  induction wellFormed with
  | null =>
    refine ⟨_, spells_null, fun depth done earlier after => ?_⟩
    rw [writeOnto]
    exact ⟨_, after.push (Scanner.foldlM_null earlier), .inl rfl⟩
  | bool value =>
    refine ⟨_, spells_bool value, fun depth done earlier after => ?_⟩
    rw [writeOnto]
    exact ⟨_, after.push (Scanner.foldlM_bool value earlier), .inl rfl⟩
  | number isNumber =>
    refine ⟨_, spells_number _, fun depth done earlier after => ?_⟩
    obtain ⟨next, stepped, read⟩ := Scanner.foldlM_number isNumber earlier
    rw [writeOnto]
    exact ⟨next, after.push stepped, read⟩
  | string isContent =>
    refine ⟨_, spells_string _, fun depth done earlier after => ?_⟩
    rw [writeOnto]
    exact ⟨_, after.push (Scanner.foldlM_string isContent earlier), .inl rfl⟩
  | @array items _ inductionHypothesis =>
    obtain ⟨spellings, spellItems⟩ := exists_forall₂ inductionHypothesis
    cases spellItems with
    | nil => exact ⟨_, spells_array_nil, isWritten_array_nil⟩
    | cons first others =>
      exact ⟨_, spells_array_cons first.1 (others.imp fun _ _ both => both.1),
        isWritten_array_cons blank first.2 (others.imp fun _ _ both => both.2)⟩
  | @object members keys _ inductionHypothesis =>
    have each : ∀ member ∈ members, ∃ tokens,
        SpellsMember tokens member ∧ IsWrittenMember spacing tokens member := by
      intro member listed
      obtain ⟨rest, spells, written⟩ := inductionHypothesis member listed
      exact ⟨_, ⟨rest, rfl, spells⟩, ⟨rest, rfl, keys member listed, written⟩⟩
    obtain ⟨spellings, spellMembers⟩ := exists_forall₂ each
    cases spellMembers with
    | nil => exact ⟨_, spells_object_nil, isWritten_object_nil⟩
    | cons first others =>
      exact ⟨_, spells_object_cons first.1 (others.imp fun _ _ both => both.1),
        isWritten_object_cons blank first.2 (others.imp fun _ _ both => both.2)⟩

/-- A well-formed value is read back from its text. -/
theorem WellFormed.ofBytes?_bytes (blank : spacing.IsBlank) {value : Json} (wellFormed : WellFormed value) :
    ofBytes? (value.bytes spacing) = some value := by
  obtain ⟨tokens, spells, written⟩ := wellFormed.exists_tokens blank
  obtain ⟨scanner, after, read⟩ := written 0 [] [] rfl
  have scanned : tokens? (value.bytes spacing) = some tokens := by
    rw [tokens?, bytes, after, Option.bind_some, read.finish_eq_some, List.append_nil,
      List.reverse_reverse]
  rw [ofBytes?, scanned]
  exact spells.ofTokens?_eq_some

end Telemetry.Json
