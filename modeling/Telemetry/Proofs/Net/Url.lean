import Telemetry.Net.Url
import Telemetry.Proofs.Text.Pieces

/-!
# Addresses with a path

An address that names a scheme, a host and perhaps a port, and nothing more, may be extended by a path: the
host and the port stay, and what is asked for there is the path.
-/

namespace Telemetry.Url

/-- Nothing that would be cleaned away, escaped or taken for the end of a host. -/
def IsPlain (text : List Char) : Prop :=
  ∀ character ∈ text, isBlankOrControl character = false

/-- Nothing is cleaned away from a text without blanks and control characters. -/
theorem cleaned_of_plain {text : List Char} (plain : IsPlain text) : cleaned text = text := by
  have unchanged : ∀ characters : List Char, IsPlain characters →
      characters.dropWhile isBlankOrControl = characters := by
    intro characters plain
    cases characters with
    | nil => rfl
    | cons first rest => simp [plain first List.mem_cons_self]
  have reversed : text.reverse.dropWhile isBlankOrControl = text.reverse :=
    unchanged _ fun character listed => plain character (List.mem_reverse.1 listed)
  rw [cleaned, unchanged text plain, reversed, List.reverse_reverse, List.filter_eq_self]
  intro character listed
  have visible := plain character listed
  simp only [Bool.and_eq_true, bne_iff_ne, ne_eq]
  refine ⟨⟨?_, ?_⟩, ?_⟩
  · rintro rfl
    cases visible
  · rintro rfl
    cases visible
  · rintro rfl
    cases visible

variable {authority : List Char}

/-- An address is read by its parts: the scheme, what names the host and the port, and the rest. -/
theorem ofText?_parts {scheme : List Char} {secure : Bool} {standard : Nat}
    (isScheme : schemes.lookup (String.ofList (scheme.map Char.toLower)) = some (secure, standard))
    (noColon : ':' ∉ scheme) (nonempty : authority ≠ [])
    (inHost : ∀ character ∈ authority, endsHost character = false) {rest : List Char}
    (ends : ∀ character ∈ rest.head?, endsHost character = true)
    (plain : IsPlain (scheme ++ ':' :: '/' :: '/' :: (authority ++ rest))) :
    ofText? (String.ofList (scheme ++ ':' :: '/' :: '/' :: (authority ++ rest))) =
      (hostAndPort? standard (withoutUser authority)).map fun (host, port) =>
        ⟨secure, host, port, targetOf rest⟩ := by
  have noSlash : (authority ++ rest).dropWhile isSlash = authority ++ rest := by
    obtain ⟨first, others, rfl⟩ := List.exists_cons_of_ne_nil nonempty
    have inName := inHost first List.mem_cons_self
    simp only [endsHost, Bool.or_eq_false_iff] at inName
    simp [inName.1.1]
  have named : ∀ character ∈ authority, (!endsHost character) = true := fun character listed => by
    rw [inHost character listed]
    rfl
  have ended : rest.takeWhile (fun character => !endsHost character) = [] ∧
      rest.dropWhile (fun character => !endsHost character) = rest := by
    cases rest with
    | nil => exact ⟨rfl, rfl⟩
    | cons first others =>
      have ends := ends first rfl
      simp [ends]
  have slashes : ('/' :: '/' :: (authority ++ rest)).dropWhile isSlash = authority ++ rest := noSlash
  rw [ofText?, String.toList_ofList, cleaned_of_plain plain, Text.cut_append_cons noColon]
  dsimp only
  rw [isScheme]
  simp only [Option.bind_eq_bind, Option.bind_some, slashes, List.takeWhile_append_of_pos named,
    List.dropWhile_append_of_pos named, ended.1, ended.2, List.append_nil]
  cases hostAndPort? standard (withoutUser authority) <;> rfl

theorem IsPlain.append {first second : List Char} (isFirst : IsPlain first) (isSecond : IsPlain second) :
    IsPlain (first ++ second) := by
  intro character listed
  rcases List.mem_append.1 listed with inFirst | inSecond
  · exact isFirst character inFirst
  · exact isSecond character inSecond

/-- A path after an address without one is what is asked for there. -/
theorem ofText?_append_path {scheme : String} (isScheme : scheme = "http" ∨ scheme = "https")
    (plain : IsPlain authority) (inHost : ∀ character ∈ authority, endsHost character = false) {url : Url}
    (isUrl : ofText? (scheme ++ "://" ++ String.ofList authority) = some url) {path : List Char}
    (rooted : path.head? = some '/') (plainPath : IsPlain path) :
    ofText? (scheme ++ "://" ++ String.ofList authority ++ String.ofList path) =
      some { url with target := targetOf path } := by
  obtain ⟨secure, standard, known, noColon, plainScheme⟩ : ∃ secure standard,
      schemes.lookup (String.ofList (scheme.toList.map Char.toLower)) = some (secure, standard) ∧
      ':' ∉ scheme.toList ∧ IsPlain (scheme.toList ++ "://".toList) := by
    rcases isScheme with rfl | rfl
    · exact ⟨false, 80, by decide, by decide, by simp [IsPlain, isBlankOrControl]⟩
    · exact ⟨true, 443, by decide, by decide, by simp [IsPlain, isBlankOrControl]⟩
  have nonempty : authority ≠ [] := by
    rintro rfl
    have noHost : ofText? (scheme ++ "://" ++ String.ofList []) = none := by
      rcases isScheme with rfl | rfl <;> decide
    cases isUrl.symm.trans noHost
  have spelled : ∀ rest : List Char, scheme ++ "://" ++ String.ofList authority ++ String.ofList rest =
      String.ofList (scheme.toList ++ ':' :: '/' :: '/' :: (authority ++ rest)) := by
    intro rest
    rw [← String.toList_inj]
    simp
  have read : ∀ rest : List Char, (∀ character ∈ rest.head?, endsHost character = true) → IsPlain rest →
      ofText? (scheme ++ "://" ++ String.ofList authority ++ String.ofList rest) =
        (hostAndPort? standard (withoutUser authority)).map fun (host, port) =>
          ⟨secure, host, port, targetOf rest⟩ := by
    intro rest ends plainRest
    rw [spelled]
    apply ofText?_parts known noColon nonempty inHost ends
    have whole := plainScheme.append (plain.append plainRest)
    rwa [List.append_assoc] at whole
  have bare := read [] nofun nofun
  rw [String.ofList_nil, String.append_empty, isUrl] at bare
  obtain ⟨⟨host, port⟩, named, rfl⟩ := Option.map_eq_some_iff.1 bare.symm
  rw [read path _ plainPath, named]
  · rfl
  · intro character isFirst
    rw [rooted] at isFirst
    cases isFirst
    rfl

end Telemetry.Url
