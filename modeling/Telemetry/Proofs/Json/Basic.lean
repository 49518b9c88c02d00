import Telemetry.Json.Basic
import Telemetry.Proofs.Traversal

/-!
# Tokens that write a value

Some tokens write a value if the parser, wherever it expects a value, has read that value after them. It
does not matter how many arrays and objects are open around it: they are the stack of the parser, and a
value that is read leaves all but the first frame alone.
-/

namespace Telemetry.Json

/-- Wherever a value is expected, the tokens complete this one. -/
def Spells (tokens : List Token) (value : Json) : Prop :=
  ∀ stack, tokens.foldlM Parser.step ⟨stack, .value⟩ = some (Parser.complete value stack)

/-- The tokens are a key, a colon and a value. -/
def SpellsMember (tokens : List Token) (member : Bytes × Json) : Prop :=
  ∃ rest, tokens = .string member.1 :: .colon :: rest ∧ Spells rest member.2

/-- The value is read when nothing else stands around it. -/
theorem Spells.ofTokens?_eq_some {tokens : List Token} {value : Json} (spells : Spells tokens value) :
    ofTokens? tokens = some value := by
  rw [ofTokens?, Parser.start, spells []]
  rfl

theorem spells_null : Spells [.null] .null := fun _ => rfl

theorem spells_bool (value : Bool) : Spells [.bool value] (.bool value) := fun _ => rfl

theorem spells_number (literal : List Char) : Spells [.number literal] (.number literal) := fun _ => rfl

theorem spells_string (content : Bytes) : Spells [.string content] (.string content) := fun _ => rfl

/-! ## Arrays -/

theorem spells_array_nil : Spells [.openBracket, .closeBracket] (.array []) := fun _ => rfl

/-- Where an array may still be closed at once, its first item may come as well. -/
theorem Spells.firstItem {tokens : List Token} {item : Json} (spells : Spells tokens item)
    (stack : List Frame) :
    tokens.foldlM Parser.step ⟨stack, .firstItem⟩ = some ⟨stack, .afterItem [item]⟩ := by
  have asValue := spells (.array [] :: stack)
  cases tokens with
  | nil => cases asValue
  | cons token rest =>
    have sameStep : Parser.step ⟨stack, .firstItem⟩ token =
        Parser.step ⟨.array [] :: stack, .value⟩ token := by
      cases token with
      | closeBracket => simp [Parser.step, Parser.beginValue] at asValue
      | _ => rfl
    rw [List.foldlM_cons] at asValue ⊢
    rw [sameStep]
    exact asValue

/-- Items that follow others are put in front of these, since the newest comes first. -/
theorem foldlM_laterItems {spellings : List (List Token)} {items : List Json}
    (spell : List.Forall₂ Spells spellings items) (stack : List Frame) (done : List Json) :
    (spellings.flatMap (.comma :: ·)).foldlM Parser.step ⟨stack, .afterItem done⟩ =
      some ⟨stack, .afterItem (items.reverse ++ done)⟩ := by
  induction spell generalizing done with
  | nil => rfl
  | @cons tokens item spellings items spells _ inductionHypothesis =>
    have comma : Parser.step ⟨stack, .afterItem done⟩ .comma = some ⟨.array done :: stack, .value⟩ := rfl
    rw [List.flatMap_cons, List.cons_append, foldlM_cons_of_eq_some comma,
      foldlM_append_of_eq_some (spells _), Parser.complete, inductionHypothesis, List.reverse_cons,
      List.append_assoc]
    rfl

theorem spells_array_cons {tokens : List Token} {item : Json} {spellings : List (List Token)}
    {items : List Json} (spells : Spells tokens item) (spell : List.Forall₂ Spells spellings items) :
    Spells (.openBracket :: (tokens ++ spellings.flatMap (.comma :: ·) ++ [.closeBracket]))
      (.array (item :: items)) := by
  intro stack
  have opened : Parser.step ⟨stack, .value⟩ .openBracket = some ⟨stack, .firstItem⟩ := rfl
  rw [foldlM_cons_of_eq_some opened, List.append_assoc, foldlM_append_of_eq_some (spells.firstItem stack),
    foldlM_append_of_eq_some (foldlM_laterItems spell stack _)]
  simp [Parser.step]

/-! ## Objects -/

theorem spells_object_nil : Spells [.openBrace, .closeBrace] (.object []) := fun _ => rfl

/-- A member is read where the first key may come, and where another key has to. -/
theorem SpellsMember.foldlM_eq_some {tokens : List Token} {member : Bytes × Json}
    (spells : SpellsMember tokens member) (stack : List Frame) :
    tokens.foldlM Parser.step ⟨stack, .firstKey⟩ = some ⟨stack, .afterMember [member]⟩ ∧
      ∀ done, tokens.foldlM Parser.step ⟨stack, .nextKey done⟩ =
        some ⟨stack, .afterMember (member :: done)⟩ := by
  obtain ⟨rest, rfl, value⟩ := spells
  constructor
  · exact value (.object [] member.1 :: stack)
  · intro done
    exact value (.object done member.1 :: stack)

theorem foldlM_laterMembers {spellings : List (List Token)} {members : List (Bytes × Json)}
    (spell : List.Forall₂ SpellsMember spellings members) (stack : List Frame)
    (done : List (Bytes × Json)) :
    (spellings.flatMap (.comma :: ·)).foldlM Parser.step ⟨stack, .afterMember done⟩ =
      some ⟨stack, .afterMember (members.reverse ++ done)⟩ := by
  induction spell generalizing done with
  | nil => rfl
  | @cons tokens member spellings members spells _ inductionHypothesis =>
    have comma : Parser.step ⟨stack, .afterMember done⟩ .comma = some ⟨stack, .nextKey done⟩ := rfl
    rw [List.flatMap_cons, List.cons_append, foldlM_cons_of_eq_some comma,
      foldlM_append_of_eq_some ((spells.foldlM_eq_some stack).2 done), inductionHypothesis,
      List.reverse_cons, List.append_assoc]
    rfl

theorem spells_object_cons {tokens : List Token} {member : Bytes × Json}
    {spellings : List (List Token)} {members : List (Bytes × Json)} (spells : SpellsMember tokens member)
    (spell : List.Forall₂ SpellsMember spellings members) :
    Spells (.openBrace :: (tokens ++ spellings.flatMap (.comma :: ·) ++ [.closeBrace]))
      (.object (member :: members)) := by
  intro stack
  have opened : Parser.step ⟨stack, .value⟩ .openBrace = some ⟨stack, .firstKey⟩ := rfl
  rw [foldlM_cons_of_eq_some opened, List.append_assoc,
    foldlM_append_of_eq_some (spells.foldlM_eq_some stack).1,
    foldlM_append_of_eq_some (foldlM_laterMembers spell stack _)]
  simp [Parser.step]

end Telemetry.Json
