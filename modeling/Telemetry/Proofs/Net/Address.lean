import Mathlib.Data.List.Induction
import Mathlib.Tactic.Ring
import Telemetry.Proofs.Net.Spelling

/-!
# Texts of addresses

The text of an address is read back as that address. Like every spelling of an address it may stand in a header.
-/

namespace Telemetry

namespace Address

/-! ## Digits in a base -/

@[simp]
theorem length_digits (base count value : Nat) : (digits base count value).length = count := by
  induction count generalizing value with
  | zero => rfl
  | succ count inductionHypothesis => rw [digits, List.length_append, inductionHypothesis]; rfl

theorem lt_of_mem_digits {base count value digit : Nat} (positive : 0 < base)
    (listed : digit ∈ digits base count value) : digit < base := by
  induction count generalizing value with
  | zero => cases listed
  | succ count inductionHypothesis =>
    rcases List.mem_append.1 listed with upper | last
    · exact inductionHypothesis upper
    · rw [List.mem_singleton.1 last]
      exact Nat.mod_lt value positive

theorem ofDigits_append_singleton (base : Nat) (upper : List Nat) (last : Nat) :
    ofDigits base (upper ++ [last]) = ofDigits base upper * base + last := by
  rw [ofDigits, List.foldl_append]
  rfl

theorem ofDigits_cons (base digit : Nat) (rest : List Nat) :
    ofDigits base (digit :: rest) = digit * base ^ rest.length + ofDigits base rest := by
  induction rest using List.reverseRecOn with
  | nil => simp [ofDigits]
  | append_singleton rest last inductionHypothesis =>
    rw [← List.cons_append, ofDigits_append_singleton, ofDigits_append_singleton, inductionHypothesis,
      List.length_append, List.length_singleton, Nat.pow_succ]
    ring

theorem ofDigits_zeros_append (base count : Nat) (rest : List Nat) :
    ofDigits base (List.replicate count 0 ++ rest) = ofDigits base rest := by
  induction count with
  | zero => rfl
  | succ count inductionHypothesis =>
    rw [List.replicate_succ, List.cons_append, ofDigits_cons, Nat.zero_mul, Nat.zero_add,
      inductionHypothesis]

/-- A number is made up of its digits, if they are enough. -/
theorem ofDigits_digits {base count value : Nat} (small : value < base ^ count) :
    ofDigits base (digits base count value) = value := by
  induction count generalizing value with
  | zero =>
    rw [Nat.pow_zero, Nat.lt_one_iff] at small
    rw [small]
    rfl
  | succ count inductionHypothesis =>
    have upper : value / base < base ^ count := by
      rw [Nat.pow_succ] at small
      exact Nat.div_lt_of_lt_mul (by rwa [Nat.mul_comm])
    rw [digits, ofDigits_append_singleton, inductionHypothesis upper]
    exact Nat.div_add_mod' value base

/-! ## Short addresses -/

theorem not_mem_digitsOf {character : Char} (foreign : character.isDigit = false) (value : Nat) :
    character ∉ Decimal.digitsOf value := by
  intro listed
  rw [Decimal.isDigit_of_mem_digitsOf listed] at foreign
  cases foreign

theorem octet?_digitsOf {octet : Nat} (small : octet < 256) :
    octet? (Decimal.digitsOf octet) = some octet := by
  have short : (Decimal.digitsOf octet).length ≤ 3 :=
    (Nat.length_toDigits_le_iff (by decide) (by decide)).2 (Nat.lt_trans small (by decide))
  rw [octet?, if_neg, Decimal.natural?_digitsOf]
  · simp [small]
  · rintro (tooLong | ⟨long, zero⟩)
    · exact Nat.not_lt.2 short tooLong
    · by_cases isZero : octet = 0
      · rw [isZero] at long
        revert long
        decide
      · exact Decimal.head?_digitsOf isZero zero

/-- The characters of a short address. -/
theorem toList_shortText (bits : BitVec 32) :
    (shortText bits).toList = ['.'].intercalate ((digits 256 4 bits.toNat).map Decimal.digitsOf) := by
  rw [shortText, String.toList_intercalate, List.map_map]
  congr 1
  apply List.map_congr_left
  intro octet _
  rw [Function.comp, Nat.toString_eq_ofList_toDigits, String.toList_ofList]
  rfl

theorem pieces_shortText (bits : BitVec 32) :
    Text.pieces '.' (shortText bits).toList = (digits 256 4 bits.toNat).map Decimal.digitsOf := by
  rw [toList_shortText]
  apply Text.pieces_intercalate
  · simp [digits]
  · intro part listed
    obtain ⟨octet, _, rfl⟩ := List.mem_map.1 listed
    exact not_mem_digitsOf rfl octet

theorem octets?_of_pieces {text : List Char} {octets : List Nat} (four : octets.length = 4)
    (small : ∀ octet ∈ octets, octet < 256)
    (pieces : Text.pieces '.' text = octets.map Decimal.digitsOf) : octets? text = some octets := by
  have read : (octets.map Decimal.digitsOf).mapM octet? = some octets :=
    mapM_map_eq_some fun octet listed => octet?_digitsOf (small octet listed)
  rw [← pieces] at read
  unfold octets?
  split
  · next split => rwa [split] at read
  · next other =>
    exfalso
    match octets, four with
    | [first, second, third, fourth], _ => exact other _ _ _ _ pieces

/-- The octets of a short address are read from its text. -/
theorem octets?_shortText (bits : BitVec 32) :
    octets? (shortText bits).toList = some (digits 256 4 bits.toNat) :=
  octets?_of_pieces (length_digits 256 4 bits.toNat) (fun _ => lt_of_mem_digits (by decide))
    (pieces_shortText bits)

theorem octets?_of_not_mem {text : List Char} (noPoint : '.' ∉ text) : octets? text = none := by
  rw [octets?, Text.pieces_of_not_mem noPoint]

/-! ## Groups -/

theorem exists_value_of_mem_toDigits {group : Nat} {character : Char}
    (listed : character ∈ Nat.toDigits 16 group) :
    ∃ value < 16, character = Nat.digitChar value := by
  induction group using Nat.strongRecOn with
  | ind group inductionHypothesis =>
    rw [Nat.toDigits_eq_if (by decide)] at listed
    split at listed
    · next small => exact ⟨group, small, List.mem_singleton.1 listed⟩
    · rcases List.mem_append.1 listed with upper | last
      · exact inductionHypothesis _ (by omega) upper
      · exact ⟨group % 16, by omega, List.mem_singleton.1 last⟩

theorem not_mem_toDigits {character : Char} (foreign : ∀ value < 16, character ≠ Nat.digitChar value)
    (group : Nat) : character ∉ Nat.toDigits 16 group := by
  intro listed
  obtain ⟨value, small, isDigit⟩ := exists_value_of_mem_toDigits listed
  exact foreign value small isDigit

/-- The digits of a group are read as that group. -/
theorem exists_values_toDigits (group : Nat) :
    ∃ values, (Nat.toDigits 16 group).mapM Hex.valueOfChar? = some values ∧ ofDigits 16 values = group := by
  have ofDigit : ∀ value < 16, Hex.valueOfChar? (Nat.digitChar value) = some value := by decide
  induction group using Nat.strongRecOn with
  | ind group inductionHypothesis =>
    rw [Nat.toDigits_eq_if (by decide)]
    split
    · next small => exact ⟨[group], by simp [ofDigit group small], by simp [ofDigits]⟩
    · obtain ⟨values, upper, sameUpper⟩ := inductionHypothesis (group / 16) (by omega)
      refine ⟨values ++ [group % 16], ?_, ?_⟩
      · simp [List.mapM_append, upper, ofDigit (group % 16) (by omega)]
      · rw [ofDigits_append_singleton, sameUpper]
        exact Nat.div_add_mod' group 16

theorem group?_toDigits {group : Nat} (small : group < 0x10000) :
    group? (Nat.toDigits 16 group) = some group := by
  have short : (Nat.toDigits 16 group).length ≤ 4 :=
    (Nat.length_toDigits_le_iff (by decide) (by decide)).2 small
  obtain ⟨values, read, same⟩ := exists_values_toDigits group
  rw [group?, if_neg, read, Option.map_some, same]
  rintro (empty | long)
  · exact Nat.toDigits_ne_nil empty
  · exact Nat.not_lt.2 short long

/-- The characters of groups between colons. -/
def joined (groups : List Nat) : List Char :=
  [':'].intercalate (groups.map (Nat.toDigits 16))

theorem joined_cons (group : Nat) {groups : List Nat} (nonempty : groups ≠ []) :
    joined (group :: groups) = Nat.toDigits 16 group ++ ':' :: joined groups := by
  rw [joined, List.map_cons, List.intercalate_cons_of_ne_nil (List.map_eq_nil_iff.not.2 nonempty),
    List.append_assoc]
  rfl

/-- Joined groups begin with a digit. -/
theorem exists_joined_eq_cons {groups : List Nat} (nonempty : groups ≠ []) :
    ∃ character rest, character ≠ ':' ∧ joined groups = character :: rest := by
  obtain ⟨group, groups, rfl⟩ := List.exists_cons_of_ne_nil nonempty
  obtain ⟨character, rest, digits⟩ := List.exists_cons_of_ne_nil (Nat.toDigits_ne_nil (n := group) (b := 16))
  have noColon : ':' ∉ Nat.toDigits 16 group := not_mem_toDigits (by decide) group
  rw [digits, List.mem_cons, not_or] at noColon
  by_cases last : groups = []
  · exact ⟨character, rest, Ne.symm noColon.1, by rw [last, joined, List.map_singleton, List.intercalate_singleton, digits]⟩
  · exact ⟨character, _, Ne.symm noColon.1, by rw [joined_cons group last, digits]; rfl⟩

theorem toList_groupsText (groups : List Nat) : (groupsText groups).toList = joined groups := by
  rw [groupsText, String.toList_intercalate, List.map_map, joined]
  congr 1
  apply List.map_congr_left
  intro group _
  rw [Function.comp, groupText, String.toList_ofList]

/-- The pieces of joined groups are the digits of the groups. -/
theorem piecesOf_joined (groups : List Nat) : piecesOf (joined groups) = groups.map (Nat.toDigits 16) := by
  by_cases empty : groups = []
  · rw [empty]
    rfl
  · obtain ⟨character, rest, _, starts⟩ := exists_joined_eq_cons empty
    rw [piecesOf, if_neg (by rw [starts]; exact List.cons_ne_nil character rest), joined]
    apply Text.pieces_intercalate (List.map_eq_nil_iff.not.2 empty)
    intro part listed
    obtain ⟨group, _, rfl⟩ := List.mem_map.1 listed
    exact not_mem_toDigits (by decide) group

theorem groups?_toDigits {groups : List Nat} (small : ∀ group ∈ groups, group < 0x10000) :
    groups? (groups.map (Nat.toDigits 16)) = some groups := by
  induction groups with
  | nil => rfl
  | cons group groups inductionHypothesis =>
    have first := group?_toDigits (small group List.mem_cons_self)
    have others := inductionHypothesis fun other listed => small other (List.mem_cons_of_mem _ listed)
    cases groups with
    | nil => rw [List.map_singleton, groups?, lastGroups?, first]
    | cons next groups =>
      rw [List.map_cons, List.map_cons, groups?, first, ← List.map_cons, others]
      simp

/-! ## The gap -/

theorem cutAtGap_append {plain : List Char} (noColon : ':' ∉ plain) (rest : List Char) :
    cutAtGap (plain ++ rest) = (cutAtGap rest).map fun (before, after) => (plain ++ before, after) := by
  induction plain with
  | nil => simp
  | cons character plain inductionHypothesis =>
    rw [List.mem_cons, not_or] at noColon
    rw [List.cons_append, cutAtGap, inductionHypothesis noColon.2, Option.map_map]
    · rfl
    · rintro _ rfl
      exact absurd rfl noColon.1

theorem cutAtGap_colon {next : Char} (plain : next ≠ ':') (rest : List Char) :
    cutAtGap (':' :: next :: rest) =
      (cutAtGap (next :: rest)).map fun (before, after) => (':' :: before, after) := by
  rw [cutAtGap]
  rintro other - same
  exact plain (List.cons.inj same).1

/-- There is no gap in joined groups. -/
theorem cutAtGap_joined (groups : List Nat) (rest : List Char) :
    cutAtGap (joined groups ++ rest) =
      (cutAtGap rest).map fun (before, after) => (joined groups ++ before, after) := by
  induction groups with
  | nil => simp [joined]
  | cons group groups inductionHypothesis =>
    have noColon : ':' ∉ Nat.toDigits 16 group := not_mem_toDigits (by decide) group
    by_cases last : groups = []
    · rw [last, joined, List.map_singleton, List.intercalate_singleton]
      exact cutAtGap_append noColon rest
    · obtain ⟨character, others, plain, starts⟩ := exists_joined_eq_cons last
      have later : cutAtGap (':' :: (joined groups ++ rest)) =
          (cutAtGap (joined groups ++ rest)).map fun (before, after) => (':' :: before, after) := by
        rw [starts]
        exact cutAtGap_colon plain (others ++ rest)
      rw [joined_cons group last, List.append_assoc, cutAtGap_append noColon, List.cons_append, later,
        inductionHypothesis, Option.map_map, Option.map_map]
      simp [Function.comp_def]

/-! ## Runs of zero groups -/

/-- The longest run is a run of zero groups indeed. -/
theorem longestRun_le (groups : List Nat) :
    (longestRun groups).2 ≤ zeroRun (groups.drop (longestRun groups).1) := by
  unfold longestRun
  apply List.foldlRecOn (motive := fun run : Nat × Nat => run.2 ≤ zeroRun (groups.drop run.1))
  · exact Nat.zero_le _
  · intro best isRun start _
    dsimp only
    split
    · exact Nat.le_refl _
    · exact isRun

theorem take_of_le_zeroRun {groups : List Nat} {count : Nat} (isRun : count ≤ zeroRun groups) :
    groups.take count = List.replicate count 0 := by
  have asRun : groups.take count = (groups.takeWhile (· == 0)).take count := by
    conv_lhs => rw [← List.takeWhile_append_dropWhile (p := (· == 0)) (l := groups)]
    exact List.take_append_of_le_length isRun
  rw [asRun, List.eq_replicate_iff]
  constructor
  · rw [List.length_take]
    exact Nat.min_eq_left isRun
  · intro group listed
    have zero := List.all_eq_true.1 List.all_takeWhile group (List.mem_of_mem_take listed)
    exact eq_of_beq zero

/-- Groups are what stands before the longest run, zeros, and what stands after it. -/
theorem eq_around_longestRun (groups : List Nat) :
    groups = groups.take (longestRun groups).1 ++ List.replicate (longestRun groups).2 0 ++
      groups.drop ((longestRun groups).1 + (longestRun groups).2) := by
  rw [← take_of_le_zeroRun (longestRun_le groups), ← List.drop_drop, List.append_assoc,
    List.take_append_drop, List.take_append_drop]

/-! ## Long addresses -/

theorem eightGroups?_joined {groups : List Nat} (eight : groups.length = 8)
    (small : ∀ group ∈ groups, group < 0x10000) : eightGroups? (joined groups) = some groups := by
  have noGap : cutAtGap (joined groups) = none := by
    have cut := cutAtGap_joined groups []
    rwa [List.append_nil] at cut
  rw [eightGroups?, noGap]
  dsimp only
  rw [piecesOf_joined, groups?_toDigits small]
  simp [eight]

theorem eightGroups?_gap {upper lower : List Nat} {after : List Char}
    (small : ∀ group ∈ upper, group < 0x10000) (read : groups? (piecesOf after) = some lower)
    (short : upper.length + lower.length ≤ 7) :
    eightGroups? (joined upper ++ ':' :: ':' :: after) =
      some (upper ++ List.replicate (8 - upper.length - lower.length) 0 ++ lower) := by
  have gap : cutAtGap (joined upper ++ ':' :: ':' :: after) = some (joined upper, after) := by
    rw [cutAtGap_joined]
    simp [cutAtGap]
  have readUpper : (piecesOf (joined upper)).mapM group? = some upper := by
    rw [piecesOf_joined]
    exact mapM_map_eq_some fun group listed => group?_toDigits (small group listed)
  rw [eightGroups?, gap]
  dsimp only
  rw [readUpper, read]
  exact if_pos short

/-- Eight groups are read from their text. -/
theorem eightGroups?_eightGroupsText {groups : List Nat} (eight : groups.length = 8)
    (small : ∀ group ∈ groups, group < 0x10000) :
    eightGroups? (eightGroupsText groups).toList = some groups := by
  unfold eightGroupsText
  dsimp only
  split
  · next long =>
    have around := eq_around_longestRun groups
    generalize (longestRun groups).1 = start at around
    generalize (longestRun groups).2 = length at around long
    have sizes := congrArg List.length around
    rw [List.length_append, List.length_append, List.length_replicate, eight] at sizes
    have text : (groupsText (groups.take start) ++ "::" ++ groupsText (groups.drop (start + length))).toList =
        joined (groups.take start) ++ ':' :: ':' :: joined (groups.drop (start + length)) := by
      rw [String.toList_append, String.toList_append, toList_groupsText, toList_groupsText]
      simp
    have read : groups? (piecesOf (joined (groups.drop (start + length)))) =
        some (groups.drop (start + length)) := by
      rw [piecesOf_joined]
      exact groups?_toDigits fun group listed => small group (List.mem_of_mem_drop listed)
    have zeros : 8 - (groups.take start).length - (groups.drop (start + length)).length = length := by
      omega
    rw [text, eightGroups?_gap (fun group listed => small group (List.mem_of_mem_take listed)) read
      (by omega), zeros, ← around]
  · rw [toList_groupsText]
    exact eightGroups?_joined eight small

theorem not_mem_joined (groups : List Nat) : '.' ∉ joined groups := by
  have noPoint : ∀ group, '.' ∉ Nat.toDigits 16 group := not_mem_toDigits (by decide)
  induction groups with
  | nil => simp [joined]
  | cons group groups inductionHypothesis =>
    by_cases last : groups = []
    · simp [last, joined, noPoint]
    · simp [joined_cons group last, noPoint, inductionHypothesis]

theorem not_mem_eightGroupsText (groups : List Nat) : '.' ∉ (eightGroupsText groups).toList := by
  unfold eightGroupsText
  dsimp only
  split
  · simp [String.toList_append, toList_groupsText, not_mem_joined]
  · rw [toList_groupsText]
    exact not_mem_joined groups

theorem length_shortText (bits : BitVec 32) : 4 < (shortText bits).toList.length := by
  have positive : ∀ octet, 0 < (Decimal.digitsOf octet).length := fun octet =>
    List.length_pos_iff.2 (Decimal.digitsOf_ne_nil octet)
  have first := positive (bits.toNat / 256 / 256 / 256 % 256)
  have last := positive (bits.toNat % 256)
  rw [toList_shortText]
  simp [digits]
  omega

theorem not_mem_shortText (bits : BitVec 32) : ':' ∉ (shortText bits).toList := by
  have noColon : ∀ octet, ':' ∉ Decimal.digitsOf octet := not_mem_digitsOf rfl
  rw [toList_shortText]
  simp [digits, noColon]

/-- A short address at the end of a long one stands for two groups. -/
theorem lastGroups?_shortText (bits : BitVec 32) :
    lastGroups? (shortText bits).toList = some (digits 0x10000 2 bits.toNat) := by
  have noGroup : group? (shortText bits).toList = none := if_pos (.inr (length_shortText bits))
  have same : ofDigits 256 (digits 256 4 bits.toNat) = bits.toNat := ofDigits_digits bits.isLt
  rw [lastGroups?, noGroup, octets?_shortText]
  simp [same]

/-- The groups of a long address that shows a short one. -/
theorem eightGroups?_mapped (bits : BitVec 32) :
    eightGroups? ("::ffff:" ++ shortText bits).toList =
      some (List.replicate 5 0 ++ mappedMark :: digits 0x10000 2 bits.toNat) := by
  have mark : ':' ∉ "ffff".toList := by decide
  have pieces : piecesOf ("ffff".toList ++ ':' :: (shortText bits).toList) =
      ["ffff".toList, (shortText bits).toList] := by
    rw [piecesOf, if_neg (by simp), Text.pieces_append_cons mark,
      Text.pieces_of_not_mem (not_mem_shortText bits)]
  have read : groups? (piecesOf ("ffff".toList ++ ':' :: (shortText bits).toList)) =
      some (mappedMark :: digits 0x10000 2 bits.toNat) := by
    have isMark : group? "ffff".toList = some mappedMark := by decide
    rw [pieces, groups?, isMark, groups?, lastGroups?_shortText]
    simp
  have gap : eightGroups?
      (joined [] ++ ':' :: ':' :: ("ffff".toList ++ ':' :: (shortText bits).toList)) = _ :=
    eightGroups?_gap nofun read (by simp)
  rw [String.toList_append]
  simpa [joined] using gap

/-- A piece that is too long for an octet is none of a short address. -/
theorem octets?_of_long {piece : List Char} (noPoint : '.' ∉ piece) (long : 3 < piece.length)
    (rest : List Char) : octets? (piece ++ '.' :: rest) = none := by
  have noOctet : octet? piece = none := if_pos (.inl long)
  rw [octets?, Text.pieces_append_cons noPoint]
  split
  · next split =>
    rw [(List.cons.inj split).1] at noOctet
    simp [noOctet]
  · rfl

theorem octets?_mapped (bits : BitVec 32) : octets? ("::ffff:" ++ shortText bits).toList = none := by
  have noPoint : ∀ octet, '.' ∉ "::ffff:".toList ++ Decimal.digitsOf octet := by
    intro octet
    simp [not_mem_digitsOf]
  have long : ∀ octet, 3 < ("::ffff:".toList ++ Decimal.digitsOf octet).length := by
    intro octet
    simp
  rw [String.toList_append, toList_shortText, digits, digits, digits, digits]
  exact octets?_of_long (noPoint _) (long _) _

theorem ofDigits_mapped (bits : BitVec 32) :
    ofDigits 0x10000 (List.replicate 5 0 ++ mappedMark :: digits 0x10000 2 bits.toNat) =
      mappedMark * 0x100000000 + bits.toNat := by
  have below : bits.toNat < 0x10000 ^ 2 := bits.isLt
  have twoGroups : 0x10000 ^ 2 = 0x100000000 := by decide
  rw [ofDigits_zeros_append, ofDigits_cons, length_digits, ofDigits_digits below, twoGroups]

/-- The text of an address is read back as that address. -/
@[simp]
theorem ofText?_text (address : Address) : ofText? address.text = some address := by
  cases address with
  | v4 bits =>
    have same : ofDigits 256 (digits 256 4 bits.toNat) = bits.toNat := ofDigits_digits bits.isLt
    rw [text, ofText?, octets?_shortText]
    simp [same]
  | v6 bits =>
    rw [text]
    split
    · next mapped =>
      have low : (bits.setWidth 32).toNat = bits.toNat % 0x100000000 := BitVec.toNat_setWidth 32 bits
      have same : mappedMark * 0x100000000 + (bits.setWidth 32).toNat = bits.toNat := by
        rw [← mapped, low]
        exact Nat.div_add_mod' bits.toNat 0x100000000
      rw [ofText?, octets?_mapped, eightGroups?_mapped]
      dsimp only
      rw [Option.map_some, ofDigits_mapped, same, BitVec.ofNat_toNat, BitVec.setWidth_eq]
    · have same : ofDigits 0x10000 (digits 0x10000 8 bits.toNat) = bits.toNat :=
        ofDigits_digits bits.isLt
      rw [ofText?, octets?_of_not_mem (not_mem_eightGroupsText _),
        eightGroups?_eightGroupsText (length_digits _ _ _) fun _ => lt_of_mem_digits (by decide)]
      dsimp only
      rw [Option.map_some, same, BitVec.ofNat_toNat, BitVec.setWidth_eq]

/-- The text of an address is visible. -/
theorem isVisible_text (address : Address) : Text.IsVisible address.text :=
  isVisible_of_ofText? address.ofText?_text

end Address

end Telemetry
