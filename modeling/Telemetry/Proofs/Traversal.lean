import Mathlib.Data.List.Forall2

/-!
# Going through lists

Readers and machines go through a list and stop at the first member that does not fit. Here is what they
have done when they get to the end: turned each member into something, or come from one state to another. At the
end, what is found under a number when entries are put in front or taken out.
-/

namespace Telemetry

variable {Datum Result State : Type}

/-- Every member of a list is turned into something, and these in order are the result. -/
theorem mapM_eq_some_iff_forall₂ {turn? : Datum → Option Result} {data : List Datum}
    {results : List Result} :
    data.mapM turn? = some results ↔
      List.Forall₂ (fun datum result => turn? datum = some result) data results := by
  induction data generalizing results with
  | nil => simp [eq_comm]
  | cons datum data inductionHypothesis =>
    cases results with
    | nil => simp [List.mapM_cons, Option.bind_eq_some_iff]
    | cons result results =>
      rw [List.forall₂_cons, ← inductionHypothesis, List.mapM_cons]
      simp only [Option.bind_eq_bind, Option.bind_eq_some_iff, Option.pure_def, Option.some.injEq,
        List.cons.injEq]
      constructor
      · rintro ⟨_, turned, _, others, rfl, rfl⟩
        exact ⟨turned, others⟩
      · rintro ⟨turned, others⟩
        exact ⟨result, turned, results, others, rfl, rfl⟩

/-- Every result has been turned out by some member. -/
theorem exists_of_mem_of_mapM {turn? : Datum → Option Result} {data : List Datum} {results : List Result}
    {result : Result} (turned : data.mapM turn? = some results) (member : result ∈ results) :
    ∃ datum ∈ data, turn? datum = some result := by
  induction mapM_eq_some_iff_forall₂.1 turned with
  | nil => cases member
  | @cons datum first _ _ same others inductionHypothesis =>
    rcases List.mem_cons.1 member with rfl | inRest
    · exact ⟨datum, List.mem_cons_self, same⟩
    · obtain ⟨source, listed, found⟩ :=
        inductionHypothesis (mapM_eq_some_iff_forall₂.2 others) inRest
      exact ⟨source, List.mem_cons_of_mem _ listed, found⟩

/-- Going through a list succeeds exactly if every member can be turned into something. -/
theorem isSome_mapM_iff {turn? : Datum → Option Result} {data : List Datum} :
    (data.mapM turn?).isSome ↔ ∀ datum ∈ data, (turn? datum).isSome := by
  induction data with
  | nil => simp
  | cons datum data inductionHypothesis =>
    rw [List.forall_mem_cons, ← inductionHypothesis, List.mapM_cons]
    cases turn? datum <;> cases data.mapM turn? <;> simp

/-- Every member has been turned into some result. -/
theorem exists_result_of_mapM {turn? : Datum → Option Result} {data : List Datum} {results : List Result}
    {datum : Datum} (turned : data.mapM turn? = some results) (member : datum ∈ data) :
    ∃ result, turn? datum = some result :=
  Option.isSome_iff_exists.1 (isSome_mapM_iff.1 (Option.isSome_of_eq_some turned) datum member)

/-- What is read back from each member is read back from all of them. -/
theorem mapM_map_eq_some {turn : Result → Datum} {turn? : Datum → Option Result} {results : List Result}
    (back : ∀ result ∈ results, turn? (turn result) = some result) :
    (results.map turn).mapM turn? = some results := by
  rw [mapM_eq_some_iff_forall₂, List.forall₂_map_left_iff]
  exact List.forall₂_same.2 back

/-- If something belongs to every member of a list, a list of such things belongs to the list. -/
theorem exists_forall₂ {belongs : Result → Datum → Prop} {data : List Datum}
    (each : ∀ datum ∈ data, ∃ result, belongs result datum) :
    ∃ results, List.Forall₂ belongs results data := by
  induction data with
  | nil => exact ⟨[], .nil⟩
  | cons datum data inductionHypothesis =>
    obtain ⟨result, first⟩ := each datum List.mem_cons_self
    obtain ⟨results, others⟩ := inductionHypothesis fun other listed =>
      each other (List.mem_cons_of_mem _ listed)
    exact ⟨result :: results, .cons first others⟩

/-- A machine that has read the first member goes on with the others. -/
theorem foldlM_cons_of_eq_some {step : State → Datum → Option State} {state next : State} {datum : Datum}
    (stepped : step state datum = some next) (data : List Datum) :
    (datum :: data).foldlM step state = data.foldlM step next := by
  rw [List.foldlM_cons, stepped]
  rfl

/-- A machine that has read the first part goes on with the second. -/
theorem foldlM_append_of_eq_some {step : State → Datum → Option State} {state next : State}
    {data : List Datum} (read : data.foldlM step state = some next) (later : List Datum) :
    (data ++ later).foldlM step state = later.foldlM step next := by
  rw [List.foldlM_append, read]
  rfl

/-! ## Entries by number -/

section Lookup

universe u

variable {Entry : Type u} {first number : Nat} {entry : Entry}

theorem lookup_cons_ite {entries : List (Nat × Entry)} :
    ((first, entry) :: entries).lookup number = if number = first then some entry else entries.lookup number := by
  rw [List.lookup_cons]
  by_cases found : number = first
  · rw [if_pos found, beq_iff_eq.2 found]
  · rw [if_neg found, beq_false_of_ne found]

/-- Without the entries of one number, those of the others are found as before. -/
theorem lookup_filter_ne (removed : Nat) (entries : List (Nat × Entry)) :
    (entries.filter fun (each, _) => each != removed).lookup number =
      if number = removed then none else entries.lookup number := by
  induction entries with
  | nil => simp
  | cons head entries inductionHypothesis =>
    obtain ⟨first, entry⟩ := head
    by_cases isRemoved : first = removed
    · rw [List.filter_cons_of_neg (by simp [isRemoved]), inductionHypothesis, lookup_cons_ite, isRemoved]
      by_cases found : number = removed
      · rw [if_pos found, if_pos found]
      · rw [if_neg found, if_neg found, if_neg found]
    · rw [List.filter_cons_of_pos (by simpa using isRemoved), lookup_cons_ite, lookup_cons_ite,
        inductionHypothesis]
      by_cases found : number = first
      · rw [if_pos found, if_pos found, if_neg (found ▸ isRemoved)]
      · rw [if_neg found, if_neg found]

/-- Where there is no entry of a number, nothing is lost without the entries of that number. -/
theorem filter_ne_of_lookup_eq_none {removed : Nat} {entries : List (Nat × Entry)}
    (absent : entries.lookup removed = none) : (entries.filter fun (each, _) => each != removed) = entries := by
  rw [List.filter_eq_self]
  intro entry listed
  exact bne_comm.trans (List.lookup_eq_none_iff.1 absent entry listed)

end Lookup

end Telemetry
