import Telemetry.Agent.Clockwork
import Telemetry.Proofs.Agent.Queue
import Telemetry.Proofs.Number.Text
import Telemetry.Proofs.Setting.Layers
import Telemetry.Proofs.Text.Ascii

/-!
# Room for the workers

The queue of an agent has room for two batches for each worker, and how many workers there are is a setting. Any
number in a word is accepted for it. Up to 2 ^ 60 workers, not included, there can be a queue with that much room,
and the agent begins with exactly this queue. From there on the settings are accepted as before, but the room is
more than a queue can have. Then the agent stops where it should begin, unless the doubled number starts again at
zero: then it stops too, or it begins with far less room than its workers should have.
-/

namespace Telemetry

namespace AgentSettings

variable {disk : Disk} {environment : Environment} {settings : AgentSettings}

/-! ## How many workers there can be -/

/-- Whatever layer the number of workers is from, it is a word. -/
theorem rateLimit_lt (accepted : ofEnvironment disk environment = .ok settings) :
    settings.rateLimit < wordLimit := by
  obtain ⟨file, read, outcomes⟩ := gathers.exists_file accepted
  have listed : Rule.rateLimit ∈ layers.rules := by simp [layers, rules]
  have outcome : Rule.rateLimit.outcome environment file = .ok settings.rateLimit := outcomes _ listed
  rw [show Rule.rateLimit.outcome environment file = _ from SettingRule.outcome_parsed] at outcome
  obtain ⟨fromVariable, variableRead, same⟩ := map_eq_ok outcome
  rw [Option.map_id, id] at same
  cases fromVariable with
  | some limit =>
    cases same
    obtain ⟨text, written⟩ := Setting.exists_of_ofVariable_eq_some variableRead
    exact lt_of_boundedNatural? written
  | none =>
    cases said : file.rateLimit with
    | some limit =>
      rw [said] at same
      obtain ⟨json, written⟩ := cover.exists_read read listed rfl said
      have small : limit < wordLimit := Json.lt_of_natural? written
      rwa [← same]
    | none =>
      rw [said] at same
      rw [← same]
      decide

/-- There are as many workers as the setting says, or one if it says none, so their number is a word too. -/
theorem concurrency_lt (accepted : ofEnvironment disk environment = .ok settings) :
    settings.concurrency < wordLimit :=
  Nat.max_lt.2 ⟨rateLimit_lt accepted, by decide⟩

/-- A number in its digits, as a variable holds it. -/
def digitsText (number : Nat) : String :=
  String.ofList (Decimal.digitsOf number)

theorem digitsText_eq (number : Nat) : digitsText number = toString number :=
  Nat.toString_eq_ofList_toDigits.symm

theorem isVisible_digitsText (number : Nat) : Text.IsVisible (digitsText number) :=
  digitsText_eq number ▸ isVisible_toString number

theorem natural?_digitsText {number : Nat} (isWord : number < wordLimit) :
    Setting.natural? (digitsText number) = some number := by
  rw [digitsText_eq, Setting.natural?]
  exact boundedNatural?_toString isWord

/-- An environment that says nothing but how many workers there are. -/
def limitedTo (limit : Nat) : Environment := fun name =>
  if name = "RATE_LIMIT" then some (digitsText limit) else none

theorem ofVariable_limitedTo {limit : Nat} (isWord : limit < wordLimit) :
    Setting.ofVariable Setting.natural? (limitedTo limit) "RATE_LIMIT" = .ok (some limit) := by
  have nonempty : (digitsText limit).toList ≠ [] := by
    rw [digitsText, String.toList_ofList]
    exact Decimal.digitsOf_ne_nil limit
  rw [Setting.ofVariable, show limitedTo limit "RATE_LIMIT" = some (digitsText limit) from if_pos rfl,
    SettingRule.nonBlank_some, (isVisible_digitsText limit).isAllBlank_eq_false nonempty]
  simp [(isVisible_digitsText limit).trim, natural?_digitsText isWord]

/-- Every number of workers in a word is accepted. -/
theorem ofEnvironment_limitedTo {limit : Nat} (isWord : limit < wordLimit) :
    ofEnvironment disk (limitedTo limit) = .ok { rateLimit := limit } := by
  let settings : AgentSettings := { rateLimit := limit }
  -- The check of the whole does not look at the number of workers.
  have validated : settings.validate = .ok () :=
    show AgentSettings.validate {} = .ok () by decide +kernel
  have noFile : Setting.file {} AgentFile.ofJson? disk (limitedTo limit) = .ok {} := rfl
  rw [ofEnvironment, noFile]
  change ofLayers (limitedTo limit) {} = _
  rw [ofLayers, ofVariable_limitedTo isWord]
  change (settings.validate.bind fun _ => .ok settings) = _
  rw [validated]
  rfl

/-! ## The queue of the workers -/

/-- There is the room that the workers should have, and the agent begins with it. -/
structure HasRoom (settings : AgentSettings) : Prop where
  /-- The doubled number of workers is a word. -/
  lt_wordLimit : 2 * max 1 settings.concurrency < wordLimit
  one_le : 1 ≤ 2 * max 1 settings.concurrency
  le_mostRoom : 2 * max 1 settings.concurrency ≤ Queue.mostRoom
  begins : ∀ overflow, ∃ clockwork, Clockwork.ofSettings? overflow settings = some clockwork ∧
    clockwork.agent.pool.queue = Queue.forTakers settings.concurrency

/-- There cannot be the room that the workers should have. The agent stops, or begins with less. -/
structure LacksRoom (settings : AgentSettings) : Prop where
  mostRoom_lt : Queue.mostRoom < 2 * max 1 settings.concurrency
  stops : Clockwork.ofSettings? .stops settings = none
  /-- Where the doubled number starts again at zero, the agent begins with what is left, if this is something and
  not too much. -/
  wraps_iff : (Clockwork.ofSettings? .wraps settings).isSome = true ↔
    2 ^ 63 < settings.concurrency ∧ settings.concurrency < 2 ^ 63 + 2 ^ 60
  capacity_add : ∀ {clockwork}, Clockwork.ofSettings? .wraps settings = some clockwork →
    clockwork.agent.pool.queue.capacity + wordLimit = 2 * settings.concurrency

theorem one_le_concurrency (settings : AgentSettings) : 1 ≤ settings.concurrency :=
  Nat.le_max_right settings.rateLimit 1

theorem hasRoom_of_lt (few : settings.concurrency < 2 ^ 60) : settings.HasRoom := by
  have positive := settings.one_le_concurrency
  have possible : 2 * max 1 settings.concurrency ≤ Queue.mostRoom := by
    rw [Nat.max_eq_right positive, Queue.mostRoom, wordLimit]
    omega
  exact {
    lt_wordLimit := Nat.lt_of_le_of_lt possible (by decide)
    one_le := by omega
    le_mostRoom := possible
    begins overflow := by
      rw [Clockwork.ofSettings?, Clockwork.start?, Queue.create?_of_le possible]
      exact ⟨_, rfl, rfl⟩ }

theorem lacksRoom_of_le (isWord : settings.concurrency < wordLimit) (many : 2 ^ 60 ≤ settings.concurrency) :
    settings.LacksRoom := by
  have single : max 1 settings.concurrency = settings.concurrency :=
    Nat.max_eq_right settings.one_le_concurrency
  have beyond : Queue.mostRoom < 2 * max 1 settings.concurrency := by
    rw [single, Queue.mostRoom, wordLimit]
    omega
  have made {queue : Queue Batch} : Queue.create? .wraps settings.concurrency = some queue ↔ _ :=
    Queue.create?_wraps_eq_some_iff beyond isWord
  rw [single] at made
  exact {
    mostRoom_lt := beyond
    stops := by rw [Clockwork.ofSettings?, Clockwork.start?, Queue.create?_stops_of_lt beyond, Option.map_none]
    wraps_iff := by
      rw [Clockwork.ofSettings?, Clockwork.start?, Option.isSome_map, Option.isSome_iff_exists]
      simp only [made, Queue.mostRoom, wordLimit]
      constructor
      · rintro ⟨_, bounds, _⟩
        omega
      · intro bounds
        exact ⟨_, by omega, rfl⟩
    capacity_add := by
      intro clockwork begun
      obtain ⟨queue, isMade, rfl⟩ := Option.map_eq_some_iff.1 begun
      obtain ⟨⟨overflows, _⟩, rfl⟩ := made.1 isMade
      exact Nat.sub_add_cancel overflows.le }

/-- An agent whose settings are accepted begins with the room that its workers should have as long as there are
less than 2 ^ 60 of them, and from there on it does not. -/
theorem begins_with_room_except_many_workers (accepted : ofEnvironment disk environment = .ok settings) :
    settings.concurrency < wordLimit ∧ (settings.concurrency < 2 ^ 60 → settings.HasRoom) ∧
      (2 ^ 60 ≤ settings.concurrency → settings.LacksRoom) :=
  ⟨concurrency_lt accepted, hasRoom_of_lt, lacksRoom_of_le (concurrency_lt accepted)⟩

/-- The last number of workers that there is room for, and one for which the doubled number starts again. -/
theorem begins_with_room_except_many_workers_around :
    let settings (limit : Nat) : AgentSettings := { rateLimit := limit }
    ofEnvironment Disk.empty (limitedTo (2 ^ 60 - 1)) = .ok (settings (2 ^ 60 - 1)) ∧
      (settings (2 ^ 60 - 1)).HasRoom ∧
      ofEnvironment Disk.empty (limitedTo (2 ^ 63 + 1)) = .ok (settings (2 ^ 63 + 1)) ∧
      (settings (2 ^ 63 + 1)).LacksRoom := by
  intro settings
  have last : ofEnvironment Disk.empty (limitedTo (2 ^ 60 - 1)) = .ok (settings (2 ^ 60 - 1)) :=
    ofEnvironment_limitedTo (by decide)
  have again : ofEnvironment Disk.empty (limitedTo (2 ^ 63 + 1)) = .ok (settings (2 ^ 63 + 1)) :=
    ofEnvironment_limitedTo (by decide)
  exact ⟨last, (begins_with_room_except_many_workers last).2.1 (by decide), again,
    (begins_with_room_except_many_workers again).2.2 (by decide)⟩

/-- Settings are accepted with which no agent can begin. -/
theorem accepts_too_many_workers :
    ofEnvironment Disk.empty (limitedTo (2 ^ 60)) = .ok { rateLimit := 2 ^ 60 } ∧
      (∀ overflow, Clockwork.ofSettings? overflow { rateLimit := 2 ^ 60 } = none) ∧
      ¬∀ (disk : Disk) (environment : Environment) (settings : AgentSettings),
        ofEnvironment disk environment = .ok settings → settings.HasRoom := by
  have accepted {disk : Disk} : ofEnvironment disk (limitedTo (2 ^ 60)) = .ok { rateLimit := 2 ^ 60 } :=
    ofEnvironment_limitedTo (by decide)
  refine ⟨accepted, ?_, fun allHaveRoom => ?_⟩
  · intro overflow
    have none : Queue.create? overflow (2 ^ 60) = (none : Option (Queue Batch)) := by
      cases overflow <;> decide
    rw [Clockwork.ofSettings?, Clockwork.start?]
    exact Option.map_eq_none_iff.2 none
  · have room := (allHaveRoom Disk.empty _ _ accepted).le_mostRoom
    revert room
    decide

end AgentSettings

end Telemetry
