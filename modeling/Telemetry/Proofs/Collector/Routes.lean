import Mathlib.Data.List.TakeWhile
import Telemetry.Collector.Command
import Telemetry.Proofs.Effects
import Telemetry.Proofs.Text.Pieces

/-!
# Routes

What the collector takes a request for, by its method and the segments of its path.
-/

namespace Telemetry.Gate

variable {gate : Gate} {request : Request} {kind : Kind} {name type : String}

/-! ## What is asked for -/

/-- A `POST` to a place, with a slash after it or without. -/
def PostsTo (place : String) (request : Request) : Prop :=
  request.method = "POST" ∧ (segments request.path = [place] ∨ segments request.path = [place, ""])

instance (place : String) (request : Request) : Decidable (PostsTo place request) :=
  inferInstanceAs (Decidable (_ ∧ _))

example : PostsTo "value" ⟨"POST", "/value", [], []⟩ ∧ PostsTo "value" ⟨"POST", "/value/", [], []⟩ := by
  decide

theorem command_list (get : request.method = "GET") (path : segments request.path = [""]) :
    gate.command request = .ok .list := by
  unfold command
  rw [get, path]
  rfl

theorem command_show (get : request.method = "GET") (path : segments request.path = ["value", type, name])
    (named : name ≠ "") :
    gate.command request = .ok (.show (Record.query name (RecordType.ofName type))) := by
  unfold command
  rw [get, path]
  exact if_neg named

theorem command_value (posts : PostsTo "value" request) :
    gate.command request = (body gate.reader.record request).map .query := by
  unfold command
  obtain ⟨post, path | path⟩ := posts
  · rw [post, path]
    rfl
  · rw [post, path]
    rfl

theorem command_update (posts : PostsTo "update" request) :
    gate.command request =
      (gate.checkAddress request.headers >>= fun _ => (body gate.reader.record request).map .update) := by
  unfold command
  obtain ⟨post, path | path⟩ := posts
  · rw [post, path]
    rfl
  · rw [post, path]
    rfl

theorem exists_of_command_update {command : Command} (posts : PostsTo "update" request)
    (decided : gate.command request = .ok command) :
    ∃ record, body gate.reader.record request = .ok record ∧ command = .update record := by
  rw [command_update posts] at decided
  obtain ⟨_, _, carried⟩ := bind_eq_ok decided
  obtain ⟨record, read, rfl⟩ := map_eq_ok carried
  exact ⟨record, read, rfl⟩

theorem command_updates (posts : PostsTo "updates" request) :
    gate.command request =
      (gate.checkAddress request.headers >>= fun _ => (body gate.reader.records request).map .updateBatch) := by
  unfold command
  obtain ⟨post, path | path⟩ := posts
  · rw [post, path]
    rfl
  · rw [post, path]
    rfl

/-! ## The path of a value -/

/-- The path at which the text of a value is found. -/
def valuePath (kind : Kind) (name : String) : String :=
  "/value/" ++ kind.name ++ "/" ++ name

/-- A text that can be a segment of a path: nothing in it ends the segment, or the path. -/
def FitsPath (segment : String) : Prop :=
  ∀ character ∈ segment.toList, character ≠ '/' ∧ character ≠ '?' ∧ character ≠ '#'

-- There is another instance for what holds of all characters there are; it has too many to go through.
instance (segment : String) : Decidable (FitsPath segment) :=
  List.decidableBAll _ segment.toList

theorem toList_valuePath (kind : Kind) (name : String) :
    (valuePath kind name).toList =
      '/' :: ("value".toList ++ '/' :: (kind.name.toList ++ '/' :: name.toList)) := by
  simp [valuePath]

theorem fitsPath_kind (kind : Kind) : FitsPath kind.name := by
  cases kind <;> decide

/-- A target that is the path of a value has that path. -/
theorem pathOf_valuePath (fits : FitsPath name) :
    Request.pathOf (valuePath kind name) = valuePath kind name := by
  have plain : ∀ character ∈ (valuePath kind name).toList,
      (character != '?' && character != '#') = true := by
    intro character listed
    simp only [Bool.and_eq_true, bne_iff_ne]
    simp only [toList_valuePath, List.mem_cons, List.mem_append] at listed
    rcases listed with rfl | inPlace | rfl | inKind | rfl | inName
    · decide
    · exact (show FitsPath "value" by decide) character inPlace |>.2
    · decide
    · exact (fitsPath_kind kind character inKind).2
    · decide
    · exact (fits character inName).2
  have starts : (valuePath kind name).toList.head? = some '/' := by
    rw [toList_valuePath]
    rfl
  dsimp only [Request.pathOf]
  rw [if_pos (.inl starts), Request.beforeQuery, List.takeWhile_eq_self_iff.2 plain, String.ofList_toList]

theorem segments_valuePath (fits : FitsPath name) :
    segments (valuePath kind name) = ["value", kind.name, name] := by
  have slashFree {segment : String} (fits : FitsPath segment) : '/' ∉ segment.toList :=
    fun listed => (fits '/' listed).1 rfl
  have noSlashes : (valuePath kind name).toList.dropWhile (· == '/') =
      "value".toList ++ '/' :: (kind.name.toList ++ '/' :: name.toList) := by
    rw [toList_valuePath]
    rfl
  rw [segments, noSlashes, Text.pieces_append_cons (by decide),
    Text.pieces_append_cons (slashFree (fitsPath_kind kind)), Text.pieces_of_not_mem (slashFree fits)]
  simp

end Telemetry.Gate
