import Telemetry.Text.Pieces

/-!
# Joining pieces

Pieces that are joined with a separator are found again, if none of them has that separator itself.
-/

namespace Telemetry.Text

variable {separator : Char}

/-- A text without separators is one piece. -/
theorem pieces_of_not_mem {text : List Char} (absent : separator ∉ text) :
    pieces separator text = [text] := by
  induction text with
  | nil => rfl
  | cons character rest inductionHypothesis =>
    rw [List.mem_cons, not_or] at absent
    rw [pieces, if_neg (Ne.symm absent.1), inductionHypothesis absent.2]

/-- What stands before the first separator is the first piece. -/
theorem pieces_append_cons {piece : List Char} (absent : separator ∉ piece) (rest : List Char) :
    pieces separator (piece ++ separator :: rest) = piece :: pieces separator rest := by
  induction piece with
  | nil => rw [List.nil_append, pieces, if_pos rfl]
  | cons character piece inductionHypothesis =>
    rw [List.mem_cons, not_or] at absent
    rw [List.cons_append, pieces, if_neg (Ne.symm absent.1), inductionHypothesis absent.2]

theorem pieces_ne_nil (separator : Char) (text : List Char) : pieces separator text ≠ [] := by
  cases text with
  | nil => nofun
  | cons character rest =>
    rw [pieces]
    split
    · nofun
    · split <;> nofun

/-- At a separator the pieces of a text can be told apart. -/
theorem pieces_append_separator (text rest : List Char) :
    pieces separator (text ++ separator :: rest) = pieces separator text ++ pieces separator rest := by
  induction text with
  | nil => exact pieces_append_cons List.not_mem_nil rest
  | cons character text inductionHypothesis =>
    rw [List.cons_append, pieces, pieces, inductionHypothesis]
    split
    · rfl
    · obtain ⟨first, others, isPieces⟩ := List.exists_cons_of_ne_nil (pieces_ne_nil separator text)
      rw [isPieces]
      rfl

/-- A separator leaves a piece before it and one after it. -/
theorem exists_pieces_of_mem {text : List Char} (divided : separator ∈ text) :
    ∃ first second others, pieces separator text = first :: second :: others := by
  obtain ⟨before, after, rfl⟩ := List.append_of_mem divided
  obtain ⟨first, others, areBefore⟩ := List.exists_cons_of_ne_nil (pieces_ne_nil separator before)
  obtain ⟨next, later, areAfter⟩ := List.exists_cons_of_ne_nil (pieces_ne_nil separator after)
  rw [pieces_append_separator, areBefore, areAfter]
  cases others with
  | nil => exact ⟨first, next, later, rfl⟩
  | cons second others => exact ⟨first, second, others ++ next :: later, rfl⟩

/-- Every character that does not separate stands in a piece. -/
theorem eq_or_mem_pieces (separator : Char) {text : List Char} {character : Char} (listed : character ∈ text) :
    character = separator ∨ ∃ piece ∈ pieces separator text, character ∈ piece := by
  induction text with
  | nil => cases listed
  | cons first rest inductionHypothesis =>
    by_cases divides : first = separator
    · rcases List.mem_cons.1 listed with rfl | later
      · exact .inl divides
      · refine (inductionHypothesis later).imp_right fun ⟨piece, isPiece, inPiece⟩ => ⟨piece, ?_, inPiece⟩
        rw [pieces, if_pos divides]
        exact List.mem_cons_of_mem _ isPiece
    · obtain ⟨start, others, isPieces⟩ := List.exists_cons_of_ne_nil (pieces_ne_nil separator rest)
      rw [pieces, if_neg divides, isPieces]
      rw [isPieces] at inductionHypothesis
      rcases List.mem_cons.1 listed with rfl | later
      · exact .inr ⟨_, List.mem_cons_self, List.mem_cons_self⟩
      · refine (inductionHypothesis later).imp_right ?_
        rintro ⟨piece, isPiece, inPiece⟩
        rcases List.mem_cons.1 isPiece with rfl | isOther
        · exact ⟨_, List.mem_cons_self, List.mem_cons_of_mem _ inPiece⟩
        · exact ⟨piece, List.mem_cons_of_mem _ isOther, inPiece⟩

/-- The pieces of joined texts are these texts. -/
theorem pieces_intercalate {parts : List (List Char)} (nonempty : parts ≠ [])
    (absent : ∀ part ∈ parts, separator ∉ part) :
    pieces separator ([separator].intercalate parts) = parts := by
  induction parts with
  | nil => exact absurd rfl nonempty
  | cons part parts inductionHypothesis =>
    have first := absent part List.mem_cons_self
    by_cases last : parts = []
    · rw [last, List.intercalate_singleton, pieces_of_not_mem first]
    · have others := inductionHypothesis last fun other listed =>
        absent other (List.mem_cons_of_mem _ listed)
      rw [List.intercalate_cons_of_ne_nil last, List.append_assoc, List.singleton_append,
        pieces_append_cons first, others]

theorem bne_of_not_mem {text : List Char} (absent : separator ∉ text) :
    ∀ character ∈ text, (character != separator) = true := by
  intro character listed
  rw [bne_iff_ne]
  rintro rfl
  exact absent listed

/-- A text without separators is not cut. -/
theorem cut_of_not_mem {text : List Char} (absent : separator ∉ text) : cut separator text = (text, none) := by
  have whole : text.dropWhile (· != separator) = [] := by
    rw [← List.append_nil text, List.dropWhile_append_of_pos (bne_of_not_mem absent)]
    rfl
  rw [cut, whole]

/-- A text is cut at its first separator. -/
theorem cut_append_cons {before : List Char} (absent : separator ∉ before) (after : List Char) :
    cut separator (before ++ separator :: after) = (before, some after) := by
  have differs := bne_of_not_mem absent
  rw [cut, List.dropWhile_append_of_pos differs, List.takeWhile_append_of_pos differs]
  simp

end Telemetry.Text
