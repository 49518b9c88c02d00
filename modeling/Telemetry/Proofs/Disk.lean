import Telemetry.Disk

/-!
# Replacing files

To replace a file touches the file and its sibling and nothing else, and neither of the two is a directory
that the other is in. So a file that is replaced twice is left as if it had been replaced once, by the last
content, whether that succeeds or fails.
-/

namespace Telemetry

namespace Disk

variable {disk first second : Disk} {path directory : String}

/-! ## Directories above a path -/

theorem exists_of_mem_ancestorsOnto {read unread : List Char}
    (member : directory ∈ ancestorsOnto read unread) :
    ∃ between after, unread = between ++ '/' :: after ∧
      directory.toList = read.reverse ++ between := by
  induction unread generalizing read with
  | nil => cases member
  | cons character rest inductionHypothesis =>
    have further (inRest : directory ∈ ancestorsOnto (character :: read) rest) :
        ∃ between after, character :: rest = between ++ '/' :: after ∧
          directory.toList = read.reverse ++ between := by
      obtain ⟨between, after, divided, named⟩ := inductionHypothesis inRest
      refine ⟨character :: between, after, ?_, ?_⟩
      · rw [divided, List.cons_append]
      · rw [named, List.reverse_cons, List.append_assoc, List.singleton_append]
    rw [ancestorsOnto] at member
    split at member
    · next atSlash =>
      rcases List.mem_cons.1 member with isFirst | inRest
      · refine ⟨[], rest, ?_, ?_⟩
        · rw [atSlash.1, List.nil_append]
        · rw [isFirst, String.toList_ofList, List.append_nil]
      · exact further inRest
    · exact further member

/-- A path goes on with a slash after each directory that it leads through. -/
theorem exists_of_mem_ancestors (member : directory ∈ ancestors path) :
    ∃ after, path.toList = directory.toList ++ '/' :: after := by
  obtain ⟨between, after, divided, named⟩ := exists_of_mem_ancestorsOnto member
  refine ⟨after, ?_⟩
  rw [named, List.reverse_nil, List.nil_append, divided]

theorem toList_sibling (path : String) :
    (sibling path).toList = path.toList ++ ['.', 't', 'm', 'p'] := by
  rw [sibling, String.toList_append]
  rfl

theorem ne_sibling (path : String) : path ≠ sibling path := by
  intro same
  have lengths := congrArg (fun name => name.toList.length) same
  simp [toList_sibling] at lengths

theorem self_notMem_ancestors (path : String) : path ∉ ancestors path := by
  intro member
  obtain ⟨after, divided⟩ := exists_of_mem_ancestors member
  have lengths := congrArg List.length divided
  simp at lengths

theorem sibling_notMem_ancestors (path : String) : sibling path ∉ ancestors path := by
  intro member
  obtain ⟨after, divided⟩ := exists_of_mem_ancestors member
  have lengths := congrArg List.length divided
  simp only [toList_sibling, List.length_append, List.length_cons] at lengths
  omega

theorem notMem_ancestors_sibling (path : String) : path ∉ ancestors (sibling path) := by
  intro member
  obtain ⟨after, divided⟩ := exists_of_mem_ancestors member
  rw [toList_sibling] at divided
  cases List.append_cancel_left divided

/-! ## Checks -/

@[simp]
theorem get?_put (disk : Disk) (path other : String) (node : Node) :
    (disk.put path node).nodes.get? other =
      if path = other then some node else disk.nodes.get? other :=
  Roster.get?_insert disk.nodes path other node

@[simp]
theorem get?_remove (disk : Disk) (path other : String) :
    (disk.remove path).nodes.get? other = if path = other then none else disk.nodes.get? other :=
  Roster.get?_erase disk.nodes path other

/-- Disks with the same at every path are equal. -/
theorem ext_get? (same : ∀ path, first.nodes.get? path = second.nodes.get? path) : first = second := by
  cases first
  cases second
  exact congrArg Disk.mk (Roster.ext_get? same)

theorem checkDirectories_congr {directories : List String}
    (same : ∀ directory ∈ directories, first.nodes.get? directory = second.nodes.get? directory) :
    first.checkDirectories directories = second.checkDirectories directories := by
  induction directories with
  | nil => rfl
  | cons directory rest inductionHypothesis =>
    rw [checkDirectories, checkDirectories, same directory List.mem_cons_self,
      inductionHypothesis fun other member => same other (List.mem_cons_of_mem _ member)]

/-- A change at paths that are not above another one does not matter to that one. -/
theorem checkPath_congr
    (same : ∀ directory ∈ ancestors path, first.nodes.get? directory = second.nodes.get? directory) :
    first.checkPath path = second.checkPath path := by
  rw [checkPath, checkPath, checkDirectories_congr same]

/-- Checks that a file may be put at a path. -/
def checkFile (disk : Disk) (path : String) : Except IoError Unit :=
  match disk.checkPath path with
  | .error cause => .error cause
  | .ok _ => if disk.nodes.get? path = some .directory then .error .isADirectory else .ok ()

theorem checkFile_congr (samePath : first.checkPath path = second.checkPath path)
    (sameNode : first.nodes.get? path = some .directory ↔ second.nodes.get? path = some .directory) :
    first.checkFile path = second.checkFile path := by
  unfold checkFile
  simp only [samePath, sameNode]

theorem checkPath_of_checkFile (free : disk.checkFile path = .ok ()) : disk.checkPath path = .ok () := by
  unfold checkFile at free
  split at free
  · cases free
  · next reached => exact reached

theorem ne_directory_of_checkFile (free : disk.checkFile path = .ok ()) :
    disk.nodes.get? path ≠ some .directory := by
  unfold checkFile at free
  split at free
  · cases free
  · intro isDirectory
    rw [if_pos isDirectory] at free
    cases free

/-- A file is written where it may be put. -/
theorem write_eq (disk : Disk) (path : String) (content : Bytes) :
    disk.write path content = (disk.checkFile path).map fun _ => disk.put path (.file content) := by
  unfold write checkFile
  cases disk.checkPath path with
  | error cause => rfl
  | ok =>
    cases disk.nodes.get? path with
    | none => rfl
    | some node => cases node <;> rfl

/-- A file that is there gets another path if it may be put there. -/
theorem rename_eq {source target : String} {content : Bytes} (found : disk.read source = .ok content) :
    disk.rename source target =
      (disk.checkFile target).map fun _ => (disk.remove source).put target (.file content) := by
  unfold rename checkFile
  rw [found]
  cases disk.checkPath target with
  | error cause => rfl
  | ok =>
    cases disk.nodes.get? target with
    | none => rfl
    | some node => cases node <;> rfl

/-! ## Replacement -/

section Aside

variable (aside : ∀ other, other ≠ path → other ≠ sibling path →
  first.nodes.get? other = second.nodes.get? other)

include aside

/-- A path is reached on disks that differ only there and beside it. -/
theorem checkPath_congr_aside : first.checkPath path = second.checkPath path := by
  apply checkPath_congr
  intro directory above
  apply aside directory
  · rintro rfl
    exact self_notMem_ancestors _ above
  · rintro rfl
    exact sibling_notMem_ancestors _ above

theorem checkPath_sibling_congr_aside :
    first.checkPath (sibling path) = second.checkPath (sibling path) := by
  apply checkPath_congr
  intro directory above
  apply aside directory
  · rintro rfl
    exact notMem_ancestors_sibling _ above
  · rintro rfl
    exact self_notMem_ancestors _ above

end Aside

/-- What is written beside a path does not keep a file from being put at the path. -/
theorem checkFile_put_sibling (disk : Disk) (path : String) (content : Bytes) :
    (disk.put (sibling path) (.file content)).checkFile path = disk.checkFile path := by
  apply checkFile_congr
  · apply checkPath_congr_aside
    intro other _ notBeside
    rw [get?_put, if_neg notBeside.symm]
  · rw [get?_put, if_neg (ne_sibling path).symm]

/-- A file may be put where one has been put. -/
theorem checkFile_put_self (content : Bytes) (free : disk.checkFile path = .ok ()) :
    (disk.put path (.file content)).checkFile path = .ok () := by
  rw [← free]
  apply checkFile_congr
  · apply checkPath_congr_aside
    intro other notInPlace _
    rw [get?_put, if_neg notInPlace.symm]
  · simp [ne_directory_of_checkFile free]

/-- A file may be put at a path and beside it again after it has been replaced. -/
theorem checkFile_replaced (content : Bytes) (beside : disk.checkFile (sibling path) = .ok ())
    (inPlace : disk.checkFile path = .ok ()) :
    let replaced := (disk.remove (sibling path)).put path (.file content)
    replaced.checkFile (sibling path) = .ok () ∧ replaced.checkFile path = .ok () := by
  intro replaced
  have aside : ∀ other, other ≠ path → other ≠ sibling path →
      replaced.nodes.get? other = disk.nodes.get? other := by
    intro other notInPlace notBeside
    rw [get?_put, if_neg notInPlace.symm, get?_remove, if_neg notBeside.symm]
  constructor
  · rw [← beside]
    apply checkFile_congr (checkPath_sibling_congr_aside aside)
    simp [replaced, ne_sibling, ne_directory_of_checkFile beside]
  · rw [← inPlace]
    apply checkFile_congr (checkPath_congr_aside aside)
    simp [replaced, ne_directory_of_checkFile inPlace]

/-- What is removed beside a path does not keep a file from being put at the path. -/
theorem checkFile_remove_sibling (disk : Disk) (path : String) :
    (disk.remove (sibling path)).checkFile path = disk.checkFile path := by
  apply checkFile_congr
  · apply checkPath_congr_aside
    intro other _ notBeside
    rw [get?_remove, if_neg notBeside.symm]
  · rw [get?_remove, if_neg (ne_sibling path).symm]

/-- What is written beside a path is not read there. -/
theorem read_put_sibling (disk : Disk) (path : String) (content : Bytes) :
    (disk.put (sibling path) (.file content)).read path = disk.read path := by
  have samePath : (disk.put (sibling path) (.file content)).checkPath path = disk.checkPath path := by
    apply checkPath_congr_aside
    intro other _ notBeside
    rw [get?_put, if_neg notBeside.symm]
  rw [read, read, samePath, get?_put, if_neg (ne_sibling path).symm]

/-- A file that has been written is read back. -/
theorem read_put (content : Bytes) (free : disk.checkFile path = .ok ()) :
    (disk.put path (.file content)).read path = .ok content := by
  have samePath : (disk.put path (.file content)).checkPath path = disk.checkPath path := by
    apply checkPath_congr_aside
    intro other notInPlace _
    rw [get?_put, if_neg notInPlace.symm]
  rw [read, samePath, checkPath_of_checkFile free, get?_put, if_pos rfl]

/-- To write beside a path leaves the file there alone. -/
theorem read_of_write_sibling {written : Disk} {content : Bytes}
    (wrote : disk.write (sibling path) content = .ok written) :
    written.read path = disk.read path ∧ written.read (sibling path) = .ok content := by
  rw [write_eq] at wrote
  cases beside : disk.checkFile (sibling path) with
  | error cause =>
    rw [beside] at wrote
    cases wrote
  | ok =>
    rw [beside] at wrote
    cases wrote
    exact ⟨read_put_sibling disk path content, read_put content beside⟩

/-- What is beside a path is read there once it has been renamed. -/
theorem read_of_rename_sibling {renamed : Disk} {content : Bytes}
    (found : disk.read (sibling path) = .ok content)
    (moved : disk.rename (sibling path) path = .ok renamed) : renamed.read path = .ok content := by
  rw [rename_eq found] at moved
  cases inPlace : disk.checkFile path with
  | error cause =>
    rw [inPlace] at moved
    cases moved
  | ok =>
    rw [inPlace] at moved
    cases moved
    exact read_put content ((checkFile_remove_sibling disk path).trans inPlace)

/-- A file is replaced if it may be put at its path and beside it. If it may only be put beside it, it is
left there. -/
theorem replace_eq (disk : Disk) (path : String) (content : Bytes) :
    disk.replace path content =
      match disk.checkFile (sibling path), disk.checkFile path with
      | .error cause, _ => (.error cause, disk)
      | .ok _, .error cause => (.error cause, disk.put (sibling path) (.file content))
      | .ok _, .ok _ => (.ok (), (disk.remove (sibling path)).put path (.file content)) := by
  unfold replace
  rw [write_eq]
  cases beside : disk.checkFile (sibling path) with
  | error cause => rfl
  | ok =>
    dsimp only [Except.map]
    rw [rename_eq (read_put content beside), checkFile_put_sibling]
    cases disk.checkFile path with
    | error cause => rfl
    | ok =>
      have same : ((disk.put (sibling path) (.file content)).remove (sibling path)).put path
          (.file content) = (disk.remove (sibling path)).put path (.file content) := by
        apply ext_get?
        intro other
        simp only [get?_put, get?_remove]
        split
        · rfl
        · split <;> rfl
      dsimp only [Except.map]
      rw [same]

/-- The last of two replacements is the one that counts. -/
theorem replace_replace (disk : Disk) (path : String) (earlier later : Bytes) :
    (disk.replace path earlier).2.replace path later = disk.replace path later := by
  rw [replace_eq disk path earlier]
  cases beside : disk.checkFile (sibling path) with
  | error cause => rfl
  | ok =>
    rw [replace_eq disk path later, beside]
    cases inPlace : disk.checkFile path with
    | error cause =>
      dsimp only
      rw [replace_eq, checkFile_put_self earlier beside, checkFile_put_sibling, inPlace]
      refine congrArg (Prod.mk _) (ext_get? fun other => ?_)
      simp only [get?_put]
      split <;> rfl
    | ok =>
      obtain ⟨besideAgain, inPlaceAgain⟩ := checkFile_replaced earlier beside inPlace
      dsimp only
      rw [replace_eq, besideAgain, inPlaceAgain]
      refine congrArg (Prod.mk _) (ext_get? fun other => ?_)
      simp only [get?_put, get?_remove]
      split
      · rfl
      · split <;> rfl

/-- A file that has been replaced has its new content. -/
theorem read_replace {content : Bytes} (replaced : (disk.replace path content).1 = .ok ()) :
    (disk.replace path content).2.read path = .ok content := by
  rw [replace_eq] at replaced ⊢
  cases beside : disk.checkFile (sibling path) with
  | error cause =>
    rw [beside] at replaced
    cases replaced
  | ok =>
    cases inPlace : disk.checkFile path with
    | error cause =>
      rw [beside, inPlace] at replaced
      cases replaced
    | ok => exact read_put content ((checkFile_remove_sibling disk path).trans inPlace)

/-! ## Paths at which files can be replaced -/

/-- A file with any content can take the place of what is at the path. -/
def Takes (disk : Disk) (path : String) : Prop :=
  ∀ content, (disk.replace path content).1 = .ok ()

theorem Takes.checkFile (takes : disk.Takes path) :
    disk.checkFile (sibling path) = .ok () ∧ disk.checkFile path = .ok () := by
  have replaced := takes []
  rw [replace_eq] at replaced
  cases beside : disk.checkFile (sibling path) with
  | error cause =>
    rw [beside] at replaced
    cases replaced
  | ok =>
    cases inPlace : disk.checkFile path with
    | error cause =>
      rw [beside, inPlace] at replaced
      cases replaced
    | ok => exact ⟨rfl, rfl⟩

theorem takes_of_checkFile (beside : disk.checkFile (sibling path) = .ok ())
    (inPlace : disk.checkFile path = .ok ()) : disk.Takes path := by
  intro content
  rw [replace_eq, beside, inPlace]

theorem Takes.replace (takes : disk.Takes path) (content : Bytes) :
    (disk.replace path content).2.Takes path := by
  intro later
  rw [replace_replace]
  exact takes later

theorem Takes.write_sibling (takes : disk.Takes path) (content : Bytes) :
    ∃ written, disk.write (sibling path) content = .ok written ∧ written.Takes path ∧
      written.read (sibling path) = .ok content := by
  obtain ⟨beside, inPlace⟩ := takes.checkFile
  refine ⟨disk.put (sibling path) (.file content), ?_, ?_, read_put content beside⟩
  · rw [write_eq, beside]
    rfl
  · exact takes_of_checkFile (checkFile_put_self content beside)
      ((checkFile_put_sibling disk path content).trans inPlace)

theorem Takes.write (takes : disk.Takes path) (content : Bytes) :
    ∃ written, disk.write path content = .ok written ∧ written.Takes path := by
  obtain ⟨beside, inPlace⟩ := takes.checkFile
  refine ⟨disk.put path (.file content), ?_, ?_⟩
  · rw [write_eq, inPlace]
    rfl
  · refine takes_of_checkFile ?_ (checkFile_put_self content inPlace)
    rw [← beside]
    apply checkFile_congr
    · apply checkPath_sibling_congr_aside
      intro other notInPlace _
      rw [get?_put, if_neg notInPlace.symm]
    · rw [get?_put, if_neg (ne_sibling path)]

/-- A file can still take the place of what is at the path after something has been written there or beside it. -/
theorem Takes.of_write {place : String} {content : Bytes} {written : Disk} (takes : disk.Takes path)
    (isOwn : place = path ∨ place = sibling path) (wrote : disk.write place content = .ok written) :
    written.Takes path := by
  rcases isOwn with rfl | rfl
  · obtain ⟨_, same, takesAgain⟩ := takes.write content
    cases same.symm.trans wrote
    exact takesAgain
  · obtain ⟨_, same, takesAgain, _⟩ := takes.write_sibling content
    cases same.symm.trans wrote
    exact takesAgain

theorem Takes.rename_sibling (takes : disk.Takes path) {content : Bytes}
    (found : disk.read (sibling path) = .ok content) :
    ∃ renamed, disk.rename (sibling path) path = .ok renamed ∧ renamed.Takes path ∧
      renamed.read path = .ok content := by
  obtain ⟨beside, inPlace⟩ := takes.checkFile
  have moved : disk.rename (sibling path) path =
      .ok ((disk.remove (sibling path)).put path (.file content)) := by
    rw [rename_eq found, inPlace]
    rfl
  obtain ⟨besideAgain, inPlaceAgain⟩ := checkFile_replaced content beside inPlace
  exact ⟨_, moved, takes_of_checkFile besideAgain inPlaceAgain, read_of_rename_sibling found moved⟩

/-- A file can still take the place of what is at the path after what is beside it has been renamed. -/
theorem Takes.of_rename_sibling {renamed : Disk} (takes : disk.Takes path)
    (moved : disk.rename (sibling path) path = .ok renamed) : renamed.Takes path := by
  cases found : disk.read (sibling path) with
  | error cause =>
    rw [rename, found] at moved
    cases moved
  | ok content =>
    obtain ⟨after, same, takesAgain, _⟩ := takes.rename_sibling found
    cases moved.symm.trans same
    exact takesAgain

theorem Takes.read_replace (takes : disk.Takes path) (content : Bytes) :
    (disk.replace path content).2.read path = .ok content :=
  Disk.read_replace (takes content)

end Disk

end Telemetry
