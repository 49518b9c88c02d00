import Mathlib.Data.List.DropRight
import Telemetry.Agent.Settings
import Telemetry.Proofs.Setting.Rule

/-!
# The address of the collector

The blanks at the ends of an address and the slashes at its end are taken off before the scheme is looked for.
So an address that begins with a scheme is kept as it is without the slashes at its end, and one of slashes alone
is refused. Between the two lies a scheme that nothing but slashes follows: it loses its own slashes too, is no
scheme any more, and gets another one in front, which the check for an address without a host does not catch.
-/

namespace Telemetry

section Unset

variable {environment : Environment} {variableName name : String}

theorem AgentSettings.duration_unset {fromFile : Option Nat} {standard : Milliseconds}
    (differ : name ≠ variableName) :
    duration (environment.unset variableName) name fromFile standard =
      duration environment name fromFile standard := by
  rw [duration, duration, Setting.ofVariable_unset differ]

end Unset

namespace AgentSettings

/-- The schemes without their slashes. -/
def schemeNames : List String :=
  ["http:", "https:"]

/-- Nothing but slashes. -/
def IsSlashes (text : String) : Prop :=
  ∀ character ∈ text.toList, character = '/'

/-- The first text is the second one without the slashes at its end. -/
structure IsWithoutSlashes (bare text : String) : Prop where
  exists_slashes : ∃ slashes, IsSlashes slashes ∧ text = bare ++ slashes
  getLast?_ne : bare.toList.getLast? ≠ some '/'

/-- The address that the layers choose: that of the environment, or else that of the file; blank ones do not
count. -/
def chosenAddress? (disk : Disk) (environment : Environment) : Option String :=
  Setting.nonBlank (environment "ADDRESS") <|>
    (Setting.file {} AgentFile.ofJson? disk environment).toOption.bind fun file =>
      Setting.nonBlank file.address

/-- The settings from the layers, as if none of them had an address. -/
def withoutAddress (disk : Disk) (environment : Environment) : Except SettingError AgentSettings :=
  (Setting.file {} AgentFile.ofJson? disk environment).bind fun file =>
    ofLayers (environment.unset "ADDRESS") { file with address := none }

/-! ## Slashes at the end -/

section Slashes

variable {text name rest : String}

/-- What is dropped at the end of a list reaches into the part in front only if nothing is left of the part at
the back. -/
theorem rdropWhile_append {Item : Type} (drops : Item → Bool) (front back : List Item) :
    (front ++ back).rdropWhile drops =
      if (back.rdropWhile drops).isEmpty then front.rdropWhile drops else front ++ back.rdropWhile drops := by
  simp only [List.rdropWhile, List.reverse_append, List.dropWhile_append, List.isEmpty_reverse]
  split
  · rfl
  · rw [List.reverse_append, List.reverse_reverse]

theorem rdropWhile_eq_nil_iff : text.toList.rdropWhile (· == '/') = [] ↔ IsSlashes text := by
  rw [List.rdropWhile_eq_nil_iff]
  exact forall₂_congr fun _ _ => beq_iff_eq

theorem isWithoutSlashes_rdropWhile (text : String) :
    IsWithoutSlashes (String.ofList (text.toList.rdropWhile (· == '/'))) text where
  exists_slashes := by
    refine ⟨String.ofList (text.toList.rtakeWhile (· == '/')), fun character listed => ?_, ?_⟩
    · rw [String.toList_ofList] at listed
      exact beq_iff_eq.1 (List.mem_rtakeWhile_imp (p := (· == '/')) listed)
    · rw [← String.ofList_append, List.rdropWhile_append_rtakeWhile, String.ofList_toList]
  getLast?_ne := by
    rw [String.toList_ofList]
    intro endsInSlash
    obtain ⟨nonempty, isLast⟩ := List.mem_getLast?_eq_getLast endsInSlash
    exact List.rdropWhile_last_not _ _ nonempty (beq_iff_eq.2 isLast.symm)

/-- A text that begins with a scheme has letters. -/
theorem not_isSlashes_of_scheme (isName : name ∈ schemeNames) (begins : text = name ++ "//" ++ rest) :
    ¬IsSlashes text := by
  intro isSlashes
  have each : ∀ name ∈ schemeNames, 'h' ∈ name.toList := by decide
  have listed : 'h' ∈ text.toList := by
    rw [begins, String.toList_append, String.toList_append]
    exact List.mem_append_left _ (List.mem_append_left _ (each name isName))
  exact absurd (isSlashes 'h' listed) (by decide)

theorem hasScheme_append (isName : name ∈ schemeNames) (rest : List Char) :
    hasScheme ((name ++ "//").toList ++ rest) = true := by
  rw [hasScheme, Bool.or_eq_true, List.isPrefixOf_iff_prefix, List.isPrefixOf_iff_prefix]
  rcases List.mem_cons.1 isName with rfl | isOther
  · exact .inl (List.prefix_append _ _)
  · rw [List.mem_singleton.1 isOther]
    exact .inr (List.prefix_append _ _)

/-- The scheme is looked for in what is left without the slashes. -/
theorem normalizeAddress_eq {kept : List Char} (isKept : (Text.trim text).toList.rdropWhile (· == '/') = kept) :
    normalizeAddress text = if hasScheme kept then String.ofList kept else scheme ++ String.ofList kept := by
  rw [← isKept, normalizeAddress, List.rdropWhile]

/-- The scheme that an address of slashes gets is all there is of it. -/
theorem normalizeAddress_of_isSlashes (isSlashes : IsSlashes (Text.trim text)) :
    normalizeAddress text = scheme := by
  rw [normalizeAddress_eq (rdropWhile_eq_nil_iff.2 isSlashes)]
  decide

/-- An address that begins with a scheme is kept without the slashes at its end. -/
theorem normalizeAddress_of_scheme (isName : name ∈ schemeNames) (begins : Text.trim text = name ++ "//" ++ rest)
    (more : ¬IsSlashes rest) :
    normalizeAddress text = String.ofList ((Text.trim text).toList.rdropWhile (· == '/')) := by
  have kept : (Text.trim text).toList.rdropWhile (· == '/') =
      (name ++ "//").toList ++ rest.toList.rdropWhile (· == '/') := by
    have nonempty : rest.toList.rdropWhile (· == '/') ≠ [] := mt rdropWhile_eq_nil_iff.1 more
    rw [begins, String.toList_append, rdropWhile_append, if_neg (mt List.isEmpty_iff.1 nonempty)]
  rw [normalizeAddress_eq kept, if_pos (hasScheme_append isName _), kept]

/-- A scheme that nothing but slashes follows loses its own ones as well, and gets another scheme. -/
theorem normalizeAddress_of_scheme_alone (isName : name ∈ schemeNames)
    (begins : Text.trim text = name ++ "//" ++ rest) (isSlashes : IsSlashes rest) :
    normalizeAddress text = scheme ++ name := by
  have stripped : (Text.trim text).toList.rdropWhile (· == '/') = name.toList := by
    rw [begins, String.toList_append, rdropWhile_append, rdropWhile_eq_nil_iff.2 isSlashes,
      List.isEmpty_nil, if_pos rfl]
    have each : ∀ name ∈ schemeNames, (name ++ "//").toList.rdropWhile (· == '/') = name.toList := by decide
    exact each name isName
  have noScheme : ∀ name ∈ schemeNames, hasScheme name.toList = false := by decide
  rw [normalizeAddress_eq stripped, noScheme name isName, String.ofList_toList]
  rfl

end Slashes

/-! ## Addresses that are refused -/

/-- Whether an address is refused as one without a host. -/
def isEmptyAddress (address : String) : Bool :=
  isRepetition scheme address || isRepetition secureScheme address

/-- What ends otherwise than a unit is no repetition of it. -/
theorem isRepetition_eq_false {unit text : String} {character : Char} (nonempty : text.toList ≠ [])
    (ends : unit.toList.getLast? = some character) (endsOtherwise : text.toList.getLast? ≠ some character) :
    isRepetition unit text = false := by
  refine beq_eq_false_iff_ne.2 fun isRepeated => ?_
  cases times : text.length / unit.length with
  | zero =>
    rw [times] at isRepeated
    exact nonempty isRepeated
  | succ times' =>
    rw [times, List.replicate_succ', List.flatten_append, List.flatten_singleton] at isRepeated
    apply endsOtherwise
    rw [isRepeated, List.getLast?_append, ends, Option.some_or]

theorem isEmptyAddress_eq_false {address : String} (nonempty : address.toList ≠ [])
    (endsOtherwise : address.toList.getLast? ≠ some '/') : isEmptyAddress address = false := by
  rw [isEmptyAddress, isRepetition_eq_false nonempty (by decide : scheme.toList.getLast? = some '/') endsOtherwise,
    isRepetition_eq_false nonempty (by decide : secureScheme.toList.getLast? = some '/') endsOtherwise]
  rfl

theorem validate_withAddress_of_isEmpty {settings : AgentSettings} {address : String}
    (isEmpty : isEmptyAddress address = true) : { settings with address }.validate = .error .emptyAddress :=
  if_pos isEmpty

/-- Apart from whether it is empty, the address does not matter to the check. -/
theorem validate_withAddress {settings : AgentSettings} {address : String}
    (isPresent : isEmptyAddress address = false) (isOtherPresent : isEmptyAddress settings.address = false) :
    { settings with address }.validate = settings.validate := by
  change (if isEmptyAddress address = true then _ else _) =
    if isEmptyAddress settings.address = true then _ else _
  rw [isPresent, isOtherPresent]

/-! ## Layers with and without an address -/

/-- Settings, if they pass the check. -/
def checked (settings : AgentSettings) : Except SettingError AgentSettings := do
  settings.validate
  return settings

variable {disk : Disk} {environment : Environment} {file : AgentFile} {text : String}

/-- With an address and without one, the layers fail to be read for the same cause, or give settings that differ
in the address alone and are then checked. -/
theorem ofLayers_cases
    (chosen : (Setting.nonBlank (environment "ADDRESS") <|> Setting.nonBlank file.address) = some text) :
    (∃ cause, ofLayers environment file = .error cause ∧
        ofLayers (environment.unset "ADDRESS") { file with address := none } = .error cause) ∨
      ∃ settings : AgentSettings, settings.address = ({} : AgentSettings).address ∧
        ofLayers environment file = checked { settings with address := normalizeAddress text } ∧
        ofLayers (environment.unset "ADDRESS") { file with address := none } = checked settings := by
  simp only [ofLayers, chosen, duration_unset (by decide : "REPORT_INTERVAL" ≠ "ADDRESS"),
    duration_unset (by decide : "POLL_INTERVAL" ≠ "ADDRESS"),
    Setting.ofVariable_unset (by decide : "RATE_LIMIT" ≠ "ADDRESS"),
    duration_unset (by decide : "SHUTDOWN_TIMEOUT" ≠ "ADDRESS"),
    duration_unset (by decide : "REQUEST_TIMEOUT" ≠ "ADDRESS"),
    Setting.logLevel_unset (by decide : "LOG_LEVEL" ≠ "ADDRESS"), Environment.unset_self,
    Environment.unset_of_ne (by decide : "KEY" ≠ "ADDRESS"),
    Environment.unset_of_ne (by decide : "CRYPTO_KEY" ≠ "ADDRESS")]
  -- The numbers are read in this order, and the first one that is wrong decides, whatever the address is.
  cases duration environment "REPORT_INTERVAL" file.reportInterval ({} : AgentSettings).reportInterval with
  | error cause => exact .inl ⟨cause, rfl, rfl⟩
  | ok reportInterval =>
  cases duration environment "POLL_INTERVAL" file.pollInterval ({} : AgentSettings).pollInterval with
  | error cause => exact .inl ⟨cause, rfl, rfl⟩
  | ok pollInterval =>
  cases Setting.ofVariable Setting.natural? environment "RATE_LIMIT" with
  | error cause => exact .inl ⟨cause, rfl, rfl⟩
  | ok rateLimit =>
  cases duration environment "SHUTDOWN_TIMEOUT" file.shutdownTimeout ({} : AgentSettings).shutdownTimeout with
  | error cause => exact .inl ⟨cause, rfl, rfl⟩
  | ok shutdownTimeout =>
  cases duration environment "REQUEST_TIMEOUT" file.requestTimeout ({} : AgentSettings).requestTimeout with
  | error cause => exact .inl ⟨cause, rfl, rfl⟩
  | ok requestTimeout =>
    refine .inr ⟨
      { reportInterval
        pollInterval
        rateLimit := (rateLimit <|> file.rateLimit).getD ({} : AgentSettings).rateLimit
        key := Setting.nonBlank (environment "KEY" <|> file.key)
        sealingKey := Setting.nonBlank (environment "CRYPTO_KEY" <|> file.sealingKey)
        shutdownTimeout
        requestTimeout
        logLevel := Setting.logLevel environment file.logLevel }, rfl, ?_, ?_⟩
    · simp only [checked, bind, Except.bind, Option.map_some, Option.getD_some]
    · simp only [checked, bind, Except.bind, Setting.nonBlank, Option.filter_none]
      rfl

/-- A file that cannot be read fails both as well. -/
theorem ofEnvironment_cases (chosen : chosenAddress? disk environment = some text) :
    (∃ cause, ofEnvironment disk environment = .error cause ∧
        withoutAddress disk environment = .error cause) ∨
      ∃ settings : AgentSettings, settings.address = ({} : AgentSettings).address ∧
        ofEnvironment disk environment = checked { settings with address := normalizeAddress text } ∧
        withoutAddress disk environment = checked settings := by
  unfold chosenAddress? at chosen
  unfold ofEnvironment withoutAddress
  cases read : Setting.file {} AgentFile.ofJson? disk environment with
  | error cause => exact .inl ⟨cause, rfl, rfl⟩
  | ok file =>
    rw [read] at chosen
    exact ofLayers_cases chosen

/-- Where the address is refused as empty, the others are refused too, or it is for this reason. -/
theorem ofEnvironment_of_isEmptyAddress (chosen : chosenAddress? disk environment = some text)
    (isEmpty : isEmptyAddress (normalizeAddress text) = true) :
    ∃ cause, ofEnvironment disk environment = .error cause ∧
      (cause = .emptyAddress ∨ withoutAddress disk environment = .error cause) := by
  rcases ofEnvironment_cases chosen with ⟨cause, failed, others⟩ | ⟨settings, _, gathered, _⟩
  · exact ⟨cause, failed, .inr others⟩
  · refine ⟨.emptyAddress, ?_, .inl rfl⟩
    rw [gathered, checked, validate_withAddress_of_isEmpty isEmpty]
    rfl

/-- Any other address is put into the settings and changes nothing else about them. -/
theorem ofEnvironment_of_address (chosen : chosenAddress? disk environment = some text)
    (isPresent : isEmptyAddress (normalizeAddress text) = false) :
    ofEnvironment disk environment = (withoutAddress disk environment).map fun settings =>
      { settings with address := normalizeAddress text } := by
  rcases ofEnvironment_cases chosen with ⟨cause, failed, others⟩ | ⟨settings, standard, gathered, others⟩
  · rw [failed, others]
    rfl
  · have isStandardPresent : isEmptyAddress settings.address = false := by
      rw [standard]
      decide
    rw [gathered, others, checked, checked, validate_withAddress isPresent isStandardPresent]
    cases settings.validate <;> rfl

/-! ## The address of accepted settings -/

/-- An address of slashes alone is refused. An address that begins with a scheme is kept without the slashes at
its end, whatever else the layers say, and is no reason to refuse them. The one exception is a scheme that nothing
but slashes follows: it is taken for the name of a host, with another scheme in front. -/
theorem address_kept_except_scheme_alone (chosen : chosenAddress? disk environment = some text) :
    (IsSlashes (Text.trim text) →
      ∃ cause, ofEnvironment disk environment = .error cause ∧
        (cause = .emptyAddress ∨ withoutAddress disk environment = .error cause)) ∧
    ∀ name ∈ schemeNames, ∀ rest, Text.trim text = name ++ "//" ++ rest →
      (¬IsSlashes rest →
        ∃ bare, IsWithoutSlashes bare (Text.trim text) ∧
          ofEnvironment disk environment =
            (withoutAddress disk environment).map fun settings => { settings with address := bare }) ∧
      (IsSlashes rest →
        ofEnvironment disk environment =
          (withoutAddress disk environment).map fun settings => { settings with address := scheme ++ name }) := by
  refine ⟨fun isSlashes => ?_, fun name isName rest begins => ⟨fun more => ?_, fun isSlashes => ?_⟩⟩
  · apply ofEnvironment_of_isEmptyAddress chosen
    rw [normalizeAddress_of_isSlashes isSlashes]
    decide
  · have normalized := normalizeAddress_of_scheme isName begins more
    refine ⟨normalizeAddress text, ?_, ofEnvironment_of_address chosen ?_⟩
    · rw [normalized]
      exact isWithoutSlashes_rdropWhile _
    · refine isEmptyAddress_eq_false ?_ ?_
      · rw [normalized, String.toList_ofList]
        exact mt rdropWhile_eq_nil_iff.1 (not_isSlashes_of_scheme isName begins)
      · rw [normalized]
        exact (isWithoutSlashes_rdropWhile _).getLast?_ne
  · have normalized := normalizeAddress_of_scheme_alone isName begins isSlashes
    rw [ofEnvironment_of_address chosen, normalized]
    rw [normalized]
    have each : ∀ name ∈ schemeNames, isEmptyAddress (scheme ++ name) = false := by decide
    exact each name isName

/-- An address with a scheme, between blanks and with two slashes at its end. -/
theorem address_kept_except_scheme_alone_secure :
    let text := " https://collector:9000//\t"
    let environment : Environment := fun name => if name = "ADDRESS" then some text else none
    chosenAddress? Disk.empty environment = some text ∧
      ∃ bare, IsWithoutSlashes bare "https://collector:9000//" ∧
        ofEnvironment Disk.empty environment = .ok { address := bare } := by
  intro text environment
  have chosen : chosenAddress? Disk.empty environment = some text := by decide +kernel
  have trimmed : Text.trim text = "https:" ++ "//" ++ "collector:9000//" := by decide +kernel
  have more : ¬IsSlashes "collector:9000//" := fun isSlashes => absurd (isSlashes 'c' (by decide)) (by decide)
  have others : withoutAddress Disk.empty environment = .ok {} := by decide +kernel
  obtain ⟨bare, isBare, kept⟩ :=
    ((address_kept_except_scheme_alone chosen).2 "https:" (by decide) "collector:9000//" trimmed).1 more
  rw [trimmed] at isBare
  rw [others] at kept
  exact ⟨chosen, bare, isBare, kept⟩

/-- A scheme that nothing follows is not refused. -/
theorem accepts_scheme_alone :
    ¬∀ (disk : Disk) (environment : Environment) (text slashes : String),
      chosenAddress? disk environment = some text → IsSlashes slashes → Text.trim text = scheme ++ slashes →
        ∃ cause, ofEnvironment disk environment = .error cause := by
  intro refuses
  let environment : Environment := fun name => if name = "ADDRESS" then some "http://" else none
  have chosen : chosenAddress? Disk.empty environment = some "http://" := by decide +kernel
  have accepted : ofEnvironment Disk.empty environment = .ok { address := "http://http:" } := by decide +kernel
  obtain ⟨cause, refused⟩ := refuses Disk.empty environment "http://" "" chosen nofun (by decide +kernel)
  rw [accepted] at refused
  cases refused

end AgentSettings

end Telemetry
