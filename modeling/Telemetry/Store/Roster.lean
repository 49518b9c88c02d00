/-!
# Rosters

A roster maps names to values. Its entries are kept in ascending order of their names, so a roster lists
itself in order, and two rosters with the same values under the same names are equal: `ext_get?`. The
operations are described by `get?` alone; nothing else needs to look at the entries.
-/

namespace Telemetry

universe u v

/-- A finite map from names to values, in ascending order of the names. -/
structure Roster (Datum : Type u) where
  entries : List (String × Datum)
  ascending : entries.Pairwise fun first second => first.1 < second.1

namespace Roster

variable {Datum : Type u}

/-- The roster without names. -/
def empty : Roster Datum := ⟨[], List.Pairwise.nil⟩

instance : Inhabited (Roster Datum) := ⟨empty⟩

/-- The value that a list of entries has under a name. -/
def lookup (name : String) : List (String × Datum) → Option Datum
  | [] => none
  | (other, value) :: rest => if other = name then some value else lookup name rest

/-- The value under a name. -/
def get? (roster : Roster Datum) (name : String) : Option Datum :=
  lookup name roster.entries

/-- Puts a value under a name, in its place among ascending entries. -/
def place (name : String) (value : Datum) : List (String × Datum) → List (String × Datum)
  | [] => [(name, value)]
  | (other, old) :: rest =>
    if name < other then (name, value) :: (other, old) :: rest
    else if other = name then (name, value) :: rest
    else (other, old) :: place name value rest

theorem mem_place {name : String} {value : Datum} {entries : List (String × Datum)}
    {entry : String × Datum} (member : entry ∈ place name value entries) :
    entry = (name, value) ∨ entry ∈ entries := by
  induction entries with
  | nil => simpa [place] using member
  | cons head rest inductionHypothesis =>
    rw [place] at member
    split at member
    · simpa using member
    · split at member
      · rcases List.mem_cons.1 member with isNew | inRest
        · exact .inl isNew
        · exact .inr (List.mem_cons_of_mem _ inRest)
      · rcases List.mem_cons.1 member with isHead | inPlaced
        · exact .inr (isHead ▸ List.mem_cons_self)
        · rcases inductionHypothesis inPlaced with isNew | inRest
          · exact .inl isNew
          · exact .inr (List.mem_cons_of_mem _ inRest)

private theorem lt_of_not_lt_of_ne {first second : String} (notAbove : ¬first < second)
    (different : second ≠ first) : second < first := by
  rcases Std.lt_trichotomy first second with below | same | above
  · exact absurd below notAbove
  · exact absurd same.symm different
  · exact above

theorem ascending_place (name : String) (value : Datum) {entries : List (String × Datum)}
    (ascending : entries.Pairwise fun first second => first.1 < second.1) :
    (place name value entries).Pairwise fun first second => first.1 < second.1 := by
  induction entries with
  | nil => simp [place]
  | cons head rest inductionHypothesis =>
    obtain ⟨headBelow, restAscending⟩ := List.pairwise_cons.1 ascending
    rw [place]
    split
    · next nameBelow =>
      refine List.pairwise_cons.2 ⟨fun entry member => ?_, ascending⟩
      rcases List.mem_cons.1 member with isHead | inRest
      · exact isHead ▸ nameBelow
      · exact String.lt_trans nameBelow (headBelow entry inRest)
    · next notBelow =>
      split
      · next same => exact List.pairwise_cons.2 ⟨same ▸ headBelow, restAscending⟩
      · next different =>
        refine List.pairwise_cons.2 ⟨fun entry member => ?_, inductionHypothesis restAscending⟩
        rcases mem_place member with isNew | inRest
        · exact isNew ▸ lt_of_not_lt_of_ne notBelow different
        · exact headBelow entry inRest

/-- The roster with a value under a name, in place of the one that was there. -/
def insert (roster : Roster Datum) (name : String) (value : Datum) : Roster Datum :=
  ⟨place name value roster.entries, ascending_place name value roster.ascending⟩

/-- The roster without a name. -/
def erase (roster : Roster Datum) (name : String) : Roster Datum :=
  ⟨roster.entries.filter fun entry => entry.1 ≠ name, roster.ascending.filter _⟩

/-- The names, in ascending order. -/
def names (roster : Roster Datum) : List String :=
  roster.entries.map Prod.fst

/-- The roster of a list of entries, where the last one of each name counts. -/
def ofList (entries : List (String × Datum)) : Roster Datum :=
  entries.foldl (fun roster (name, value) => roster.insert name value) empty

/-! ## What the operations do to the value under a name -/

@[simp]
theorem get?_empty (name : String) : (empty : Roster Datum).get? name = none := rfl

private theorem lookup_place (name other : String) (value : Datum)
    (entries : List (String × Datum)) :
    lookup other (place name value entries) =
      if name = other then some value else lookup other entries := by
  induction entries with
  | nil => rfl
  | cons head rest inductionHypothesis =>
    obtain ⟨headName, headValue⟩ := head
    rw [place]
    split
    · rw [lookup]
    · split
      · next same =>
        subst same
        simp only [lookup]
        split <;> rfl
      · next different =>
        simp only [lookup, inductionHypothesis]
        split
        · next sameHead => rw [if_neg fun same => different (sameHead.trans same.symm)]
        · rfl

theorem get?_insert (roster : Roster Datum) (name other : String) (value : Datum) :
    (roster.insert name value).get? other =
      if name = other then some value else roster.get? other :=
  lookup_place name other value roster.entries

@[simp]
theorem get?_insert_self (roster : Roster Datum) (name : String) (value : Datum) :
    (roster.insert name value).get? name = some value := by
  simp [get?_insert]

theorem get?_insert_of_ne (roster : Roster Datum) {name other : String} (value : Datum)
    (different : name ≠ other) : (roster.insert name value).get? other = roster.get? other := by
  simp [get?_insert, different]

private theorem lookup_filter (name other : String) (entries : List (String × Datum)) :
    lookup other (entries.filter fun entry => entry.1 ≠ name) =
      if name = other then none else lookup other entries := by
  induction entries with
  | nil => simp [lookup]
  | cons head rest inductionHypothesis =>
    obtain ⟨headName, headValue⟩ := head
    by_cases removed : headName = name
    · simp only [List.filter_cons, removed, ne_eq, not_true_eq_false, decide_false,
        Bool.false_eq_true, if_false, inductionHypothesis, lookup]
      split <;> rfl
    · simp only [List.filter_cons, removed, ne_eq, not_false_eq_true, decide_true, if_true, lookup,
        inductionHypothesis]
      split
      · next same => rw [if_neg fun sameName => removed (same.trans sameName.symm)]
      · rfl

theorem get?_erase (roster : Roster Datum) (name other : String) :
    (roster.erase name).get? other = if name = other then none else roster.get? other :=
  lookup_filter name other roster.entries

private theorem lookup_isSome_iff {name : String} {entries : List (String × Datum)} :
    (lookup name entries).isSome ↔ name ∈ entries.map Prod.fst := by
  induction entries with
  | nil => simp [lookup]
  | cons head rest inductionHypothesis =>
    obtain ⟨headName, headValue⟩ := head
    rw [lookup]
    split
    · next same => simp [same]
    · next different =>
      rw [inductionHypothesis]
      simp [Ne.symm different]

/-- The names are those that have a value. -/
theorem mem_names_iff {roster : Roster Datum} {name : String} :
    name ∈ roster.names ↔ (roster.get? name).isSome :=
  lookup_isSome_iff.symm

/-- The names ascend, so none is listed twice. -/
theorem names_ascending (roster : Roster Datum) : roster.names.Pairwise (· < ·) :=
  List.pairwise_map.2 roster.ascending

private theorem lookup_eq_none {name : String} {entries : List (String × Datum)}
    (allAbove : ∀ entry ∈ entries, name < entry.1) : lookup name entries = none := by
  induction entries with
  | nil => rfl
  | cons head rest inductionHypothesis =>
    have headAbove := allAbove head List.mem_cons_self
    rw [lookup, if_neg]
    · exact inductionHypothesis fun entry member => allAbove entry (List.mem_cons_of_mem _ member)
    · intro same
      exact String.lt_irrefl name (same ▸ headAbove)

private theorem lookup_eq_some_iff {name : String} {value : Datum} {entries : List (String × Datum)}
    (ascending : entries.Pairwise fun first second => first.1 < second.1) :
    lookup name entries = some value ↔ (name, value) ∈ entries := by
  induction entries with
  | nil => simp [lookup]
  | cons head rest inductionHypothesis =>
    obtain ⟨headName, headValue⟩ := head
    obtain ⟨headBelow, restAscending⟩ := List.pairwise_cons.1 ascending
    rw [lookup, List.mem_cons, Prod.mk.injEq]
    split
    · next same =>
      subst same
      have notInRest : (headName, value) ∉ rest := by
        intro inRest
        exact String.lt_irrefl headName (headBelow _ inRest)
      simp [notInRest, eq_comm]
    · next different =>
      rw [inductionHypothesis restAscending]
      simp [Ne.symm different]

/-- The entries are the names with their values. -/
theorem mem_entries_iff {roster : Roster Datum} {name : String} {value : Datum} :
    (name, value) ∈ roster.entries ↔ roster.get? name = some value :=
  (lookup_eq_some_iff roster.ascending).symm

private theorem entries_eq_of_lookup {first second : List (String × Datum)}
    (firstAscending : first.Pairwise fun earlier later => earlier.1 < later.1)
    (secondAscending : second.Pairwise fun earlier later => earlier.1 < later.1)
    (sameValues : ∀ name, lookup name first = lookup name second) : first = second := by
  induction first generalizing second with
  | nil =>
    cases second with
    | nil => rfl
    | cons head rest =>
      have atHead := sameValues head.1
      simp [lookup] at atHead
  | cons firstHead firstRest inductionHypothesis =>
    cases second with
    | nil =>
      have atHead := sameValues firstHead.1
      simp [lookup] at atHead
    | cons secondHead secondRest =>
      obtain ⟨firstName, firstValue⟩ := firstHead
      obtain ⟨secondName, secondValue⟩ := secondHead
      obtain ⟨firstBelow, firstRestAscending⟩ := List.pairwise_cons.1 firstAscending
      obtain ⟨secondBelow, secondRestAscending⟩ := List.pairwise_cons.1 secondAscending
      have sameName : firstName = secondName := by
        rcases Std.lt_trichotomy firstName secondName with below | same | above
        · have atFirst := sameValues firstName
          have absent : lookup firstName ((secondName, secondValue) :: secondRest) = none := by
            refine lookup_eq_none fun entry member => ?_
            rcases List.mem_cons.1 member with isHead | inRest
            · exact isHead ▸ below
            · exact String.lt_trans below (secondBelow entry inRest)
          rw [absent] at atFirst
          simp [lookup] at atFirst
        · exact same
        · have atSecond := sameValues secondName
          have absent : lookup secondName ((firstName, firstValue) :: firstRest) = none := by
            refine lookup_eq_none fun entry member => ?_
            rcases List.mem_cons.1 member with isHead | inRest
            · exact isHead ▸ above
            · exact String.lt_trans above (firstBelow entry inRest)
          rw [absent] at atSecond
          simp [lookup] at atSecond
      subst sameName
      have sameValue : firstValue = secondValue := by
        have atName := sameValues firstName
        simpa [lookup] using atName
      subst sameValue
      refine congrArg _ (inductionHypothesis firstRestAscending secondRestAscending fun name => ?_)
      by_cases same : firstName = name
      · subst same
        rw [lookup_eq_none firstBelow, lookup_eq_none secondBelow]
      · have atName := sameValues name
        simpa [lookup, same] using atName

/-- Rosters with the same values under the same names are equal. -/
theorem ext_get? {first second : Roster Datum}
    (sameValues : ∀ name, first.get? name = second.get? name) : first = second := by
  obtain ⟨firstEntries, firstAscending⟩ := first
  obtain ⟨secondEntries, secondAscending⟩ := second
  have sameEntries := entries_eq_of_lookup firstAscending secondAscending sameValues
  subst sameEntries
  rfl

/-- To put a value under a name that has it already changes nothing. -/
theorem insert_of_get? {roster : Roster Datum} {name : String} {value : Datum} (held : roster.get? name = some value) :
    roster.insert name value = roster := by
  refine ext_get? fun other => ?_
  rw [get?_insert]
  split
  case isTrue same => rw [← same, held]
  case isFalse => rfl

/-! ## Rosters from lists -/

private theorem get?_foldl_insert {entries : List (String × Datum)}
    (ascending : entries.Pairwise fun first second => first.1 < second.1) (roster : Roster Datum)
    (name : String) :
    (entries.foldl (fun roster (name, value) => roster.insert name value) roster).get? name =
      (lookup name entries).or (roster.get? name) := by
  induction entries generalizing roster with
  | nil => rfl
  | cons head rest inductionHypothesis =>
    obtain ⟨headName, headValue⟩ := head
    obtain ⟨headBelow, restAscending⟩ := List.pairwise_cons.1 ascending
    rw [List.foldl_cons, inductionHypothesis restAscending, get?_insert, lookup]
    split
    · next same =>
      subst same
      rw [lookup_eq_none headBelow]
      rfl
    · rfl

/-- A roster is the one that its entries make. -/
@[simp]
theorem ofList_entries (roster : Roster Datum) : ofList roster.entries = roster := by
  apply ext_get?
  intro name
  rw [ofList, get?_foldl_insert roster.ascending, get?_empty, Option.or_none]
  rfl

private theorem mem_foldl_insert {entries : List (String × Datum)} {roster : Roster Datum}
    {entry : String × Datum}
    (member : entry ∈ (entries.foldl (fun roster (name, value) => roster.insert name value) roster).entries) :
    entry ∈ roster.entries ∨ entry ∈ entries := by
  induction entries generalizing roster with
  | nil => exact .inl member
  | cons head rest inductionHypothesis =>
    rcases inductionHypothesis member with inserted | inRest
    · rcases mem_place inserted with isHead | wasThere
      · exact .inr (isHead ▸ List.mem_cons_self)
      · exact .inl wasThere
    · exact .inr (List.mem_cons_of_mem _ inRest)

/-- A roster from a list has no other entries than the list. -/
theorem mem_of_mem_ofList {entries : List (String × Datum)} {entry : String × Datum}
    (member : entry ∈ (ofList entries).entries) : entry ∈ entries :=
  (mem_foldl_insert member).resolve_left (List.not_mem_nil)

end Roster

end Telemetry
