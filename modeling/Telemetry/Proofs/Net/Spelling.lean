import Telemetry.Net.Address
import Telemetry.Proofs.Number.Decimal
import Telemetry.Proofs.Text.Ascii
import Telemetry.Proofs.Text.Hex
import Telemetry.Proofs.Text.Pieces
import Telemetry.Proofs.Traversal

/-!
# The spelling of addresses

Whatever is read as an address is spelt with points, colons and hexadecimal digits, in any of its spellings. So
there are no blanks in it, and it may stand in a header as it is.
-/

namespace Telemetry

namespace Address

/-- The characters that addresses are spelt with. -/
def alphabet : List Char :=
  '.' :: ':' :: Hex.alphabet

/-- Nothing but characters of addresses. -/
def IsSpelt (text : List Char) : Prop :=
  ∀ character ∈ text, character ∈ alphabet

variable {text : List Char}

theorem mem_alphabet_of_digit? {character : Char} (isDigit : (Decimal.digit? character).isSome) :
    character ∈ alphabet := by
  have bounds : '0' ≤ character ∧ character ≤ '9' := by
    by_contra outside
    rw [Decimal.digit?, if_neg outside] at isDigit
    cases isDigit
  have small : character.toNat < 0x3a := Nat.lt_succ_of_le bounds.2
  have each : ∀ number < 0x3a, '0' ≤ Char.ofNat number → Char.ofNat number ∈ alphabet := by decide
  have here := each character.toNat small
  rw [Char.ofNat_toNat] at here
  exact here bounds.1

theorem isSpelt_of_pieces {separator : Char} (isLetter : separator ∈ alphabet)
    (areSpelt : ∀ piece ∈ Text.pieces separator text, IsSpelt piece) : IsSpelt text := by
  intro character listed
  rcases Text.eq_or_mem_pieces separator listed with rfl | ⟨piece, isPiece, inPiece⟩
  · exact isLetter
  · exact areSpelt piece isPiece character inPiece

/-! ## Parts of addresses -/

theorem isSpelt_of_octet? {octet : Nat} (read : octet? text = some octet) : IsSpelt text := by
  unfold octet? at read
  split at read
  · cases read
  · obtain ⟨number, _⟩ := Option.filter_eq_some_iff.1 read
    exact fun character listed =>
      mem_alphabet_of_digit? (Decimal.isSome_digit?_of_natural? number character listed)

theorem isSpelt_of_octets? {octets : List Nat} (read : octets? text = some octets) : IsSpelt text := by
  have each : (Text.pieces '.' text).mapM octet? = some octets := by
    unfold octets? at read
    split at read
    · next four => rwa [four]
    · cases read
  refine isSpelt_of_pieces (by decide : '.' ∈ alphabet) fun piece isPiece => ?_
  obtain ⟨octet, isOctet⟩ := exists_result_of_mapM each isPiece
  exact isSpelt_of_octet? isOctet

theorem isSpelt_of_group? {group : Nat} (read : group? text = some group) : IsSpelt text := by
  unfold group? at read
  split at read
  · cases read
  · obtain ⟨digits, areDigits, _⟩ := Option.map_eq_some_iff.1 read
    intro character listed
    have isDigit := Hex.mem_alphabet_iff.2 (Option.isSome_iff_exists.2 (exists_result_of_mapM areDigits listed))
    exact List.mem_cons_of_mem _ (List.mem_cons_of_mem _ isDigit)

theorem isSpelt_of_lastGroups? {groups : List Nat} (read : lastGroups? text = some groups) : IsSpelt text := by
  unfold lastGroups? at read
  split at read
  · next group isGroup => exact isSpelt_of_group? isGroup
  · obtain ⟨octets, areOctets, _⟩ := Option.map_eq_some_iff.1 read
    exact isSpelt_of_octets? areOctets

theorem isSpelt_of_groups? {pieces : List (List Char)} {groups : List Nat} (read : groups? pieces = some groups) :
    ∀ piece ∈ pieces, IsSpelt piece := by
  induction pieces generalizing groups with
  | nil => nofun
  | cons first others inductionHypothesis =>
    intro piece isPiece
    cases others with
    | nil =>
      rw [List.mem_singleton.1 isPiece]
      exact isSpelt_of_lastGroups? read
    | cons second others =>
      unfold groups? at read
      split at read
      · next group later isGroup areGroups =>
        rcases List.mem_cons.1 isPiece with rfl | isOther
        · exact isSpelt_of_group? isGroup
        · exact inductionHypothesis areGroups piece isOther
      · cases read

theorem isSpelt_of_piecesOf (areSpelt : ∀ piece ∈ piecesOf text, IsSpelt piece) : IsSpelt text := by
  unfold piecesOf at areSpelt
  split at areSpelt
  · next empty =>
    rw [empty]
    exact nofun
  · exact isSpelt_of_pieces (by decide : ':' ∈ alphabet) areSpelt

/-! ## Addresses -/

/-- A text with a gap is what stands before it, two colons, and what stands after it. -/
theorem eq_of_cutAtGap {before after : List Char} (cut : cutAtGap text = some (before, after)) :
    text = before ++ ':' :: ':' :: after := by
  induction text using cutAtGap.induct generalizing before with
  | case1 rest =>
    rw [cutAtGap] at cut
    cases cut
    rfl
  | case2 character rest plain inductionHypothesis =>
    rw [cutAtGap] at cut
    · obtain ⟨⟨start, later⟩, found, same⟩ := Option.map_eq_some_iff.1 cut
      cases same
      rw [inductionHypothesis found]
      rfl
    · exact plain
  | case3 => cases cut

theorem isSpelt_of_eightGroups? {groups : List Nat} (read : eightGroups? text = some groups) : IsSpelt text := by
  unfold eightGroups? at read
  split at read
  · obtain ⟨areGroups, _⟩ := Option.filter_eq_some_iff.1 read
    exact isSpelt_of_piecesOf (isSpelt_of_groups? areGroups)
  · next before after cut =>
    split at read
    · next upper lower areUpper areLower =>
      have spelt : IsSpelt before ∧ IsSpelt after := by
        refine ⟨isSpelt_of_piecesOf fun piece isPiece => ?_, isSpelt_of_piecesOf (isSpelt_of_groups? areLower)⟩
        obtain ⟨group, isGroup⟩ := exists_result_of_mapM areUpper isPiece
        exact isSpelt_of_group? isGroup
      have colon : ':' ∈ alphabet := by decide
      rw [eq_of_cutAtGap cut]
      simp only [IsSpelt, List.mem_append, List.mem_cons]
      rintro character (inBefore | rfl | rfl | inAfter)
      · exact spelt.1 character inBefore
      · exact colon
      · exact colon
      · exact spelt.2 character inAfter
    · cases read

/-- Whatever is read as an address is spelt with the characters of addresses. -/
theorem isSpelt_of_ofText? {text : String} {address : Address} (read : ofText? text = some address) :
    IsSpelt text.toList := by
  unfold ofText? at read
  split at read
  · next octets areOctets => exact isSpelt_of_octets? areOctets
  · obtain ⟨groups, areGroups, _⟩ := Option.map_eq_some_iff.1 read
    exact isSpelt_of_eightGroups? areGroups

/-- The text of an address is visible, however it is spelt. -/
theorem isVisible_of_ofText? {text : String} {address : Address} (read : ofText? text = some address) :
    Text.IsVisible text := by
  have each : (alphabet.all fun letter => 0x20 < letter.toNat ∧ letter.toNat < 0x7f) = true := by decide
  exact fun character listed =>
    of_decide_eq_true (List.all_eq_true.1 each character (isSpelt_of_ofText? read character listed))

end Address

end Telemetry
