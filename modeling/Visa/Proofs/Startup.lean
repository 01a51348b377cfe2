import Visa.CommandLine
import Visa.Proofs.Outcome

namespace Visa

/-! Which settings a run starts with. What has to hold of them is a list of demands in the order in
which they count; the first that is not met is the fault, and only then it matters which of the
settings wins. -/

open Outcome (EndsAtFirst bind_eq_ok_iff endsAtFirst_of_ok)

/-! ## Demands -/

/-- What a text has to satisfy where it is given, and the fault of one that does not. -/
structure Demand where
  setting : Option String
  holds : String → Bool
  fault : String → Fault

namespace Demand

variable {demand : Demand} {demands : List Demand} {fault : Fault}

def Met (demand : Demand) : Prop := ∀ text, demand.setting = some text → demand.holds text

def fault? (demand : Demand) : Option Fault :=
  demand.setting.bind fun text => if demand.holds text then none else some (demand.fault text)

theorem fault?_eq_none_iff : demand.fault? = none ↔ demand.Met := by
  rw [fault?, Option.bind_eq_none_iff]
  exact forall₂_congr fun text _ => by split <;> simp_all

theorem fault?_eq_some_iff : demand.fault? = some fault ↔
    ∃ text, demand.setting = some text ∧ demand.holds text = false ∧ demand.fault text = fault := by
  rw [fault?, Option.bind_eq_some_iff]
  exact exists_congr fun text => and_congr_right fun _ => by split <;> simp_all

theorem findSome?_eq_none_iff :
    (demands.map fault?).findSome? id = none ↔ ∀ demand ∈ demands, demand.Met := by
  rw [List.findSome?_map, List.findSome?_eq_none_iff]
  exact forall₂_congr fun demand _ => fault?_eq_none_iff

theorem findSome?_eq_some_iff :
    (demands.map fault?).findSome? id = some fault ↔
      ∃ earlier demand later, demands = earlier ++ demand :: later ∧
        (∀ other ∈ earlier, other.Met) ∧
        ∃ text, demand.setting = some text ∧ demand.holds text = false ∧
          demand.fault text = fault := by
  rw [List.findSome?_map, List.findSome?_eq_some_iff]
  constructor
  · rintro ⟨earlier, demand, later, split, failed, met⟩
    exact ⟨earlier, demand, later, split, fun other member => fault?_eq_none_iff.mp (met other member),
      fault?_eq_some_iff.mp failed⟩
  · rintro ⟨earlier, demand, later, split, met, failed⟩
    exact ⟨earlier, demand, later, split, fault?_eq_some_iff.mpr failed,
      fun other member => fault?_eq_none_iff.mpr (met other member)⟩

end Demand

/-! ## Formats -/

namespace LogFormat

variable {text : String} {format : LogFormat}

/-- The name of a format, but for blanks around it and capitals. -/
def demand (setting : Option String) : Demand where
  setting := setting
  holds text := ["compact", "json"].contains (normalized text)
  fault text :=
    .invalidSetting "logging.format" (normalized text) "Supported formats: compact, json"

theorem read_eq_ok_iff : read text = .ok format ↔ format.name = normalized text := by
  constructor
  · intro found
    rw [read] at found
    split at found <;> rename_i compact
    · cases found
      rw [compact, name]
    split at found <;> rename_i json
    · cases found
      rw [json, name]
    · cases found
  · intro same
    rw [read, ← same]
    cases format <;> rfl

theorem endsAtFirst_read (text : String) :
    EndsAtFirst [(demand (some text)).fault?] (read text) := by
  rw [read]
  split <;> rename_i compact
  · simp [EndsAtFirst, Demand.fault?, demand, compact]
  split <;> rename_i json
  · simp [EndsAtFirst, Demand.fault?, demand, json]
  · simp [EndsAtFirst, Demand.fault?, demand, compact, json]

end LogFormat

/-! ## Settings -/

namespace Settings

/-- There is more than blanks. -/
def isFilled (text : String) : Bool := text.toList.any fun letter => !Text.isBlank letter

theorem allBlank_toList (text : String) : Text.allBlank text.toList = !isFilled text := by
  simp [Text.allBlank, isFilled, List.not_any_eq_all_not]

variable {settings : Settings}

/-- In the order in which they count. -/
def demands (settings : Settings) : List Demand :=
  [⟨settings.rulesPath, isFilled, fun path =>
      .invalidSetting "rules.path" path "Path cannot be empty"⟩,
   ⟨settings.rulesPath, fun path => !path.toList.contains '\x00', fun path =>
      .invalidSetting "rules.path" path "Path contains null bytes"⟩,
   ⟨settings.logLevel, isFilled, fun level =>
      .invalidSetting "logging.level" level "Value cannot be empty or whitespace-only"⟩,
   LogFormat.demand settings.logFormat]

theorem endsAtFirst_checkPath (settings : Settings) :
    EndsAtFirst ((settings.demands.take 2).map Demand.fault?)
      (checkPresent (checkPath "rules.path") settings.rulesPath) := by
  rw [demands]
  cases settings.rulesPath with
  | none => simp [Demand.fault?, EndsAtFirst, checkPresent]
  | some path =>
      simp only [checkPresent, checkPath, allBlank_toList]
      cases filled : isFilled path with
      | false => simp [Demand.fault?, EndsAtFirst, filled]
      | true =>
          by_cases holdsNul : '\x00' ∈ path.toList
          · simp [Demand.fault?, EndsAtFirst, filled, holdsNul]
          · simp [Demand.fault?, EndsAtFirst, filled, holdsNul]

theorem endsAtFirst_checkFilled (settings : Settings) :
    EndsAtFirst (((settings.demands.drop 2).take 1).map Demand.fault?)
      (checkPresent (checkFilled "logging.level") settings.logLevel) := by
  rw [demands]
  cases settings.logLevel with
  | none => simp [Demand.fault?, EndsAtFirst, checkPresent]
  | some level =>
      simp only [checkPresent, checkFilled, allBlank_toList]
      cases filled : isFilled level with
      | false => simp [Demand.fault?, EndsAtFirst, filled]
      | true => simp [Demand.fault?, EndsAtFirst, filled]

theorem endsAtFirst_format (settings : Settings) :
    EndsAtFirst [(LogFormat.demand settings.logFormat).fault?] settings.format := by
  rw [format]
  cases settings.logFormat with
  | none => exact ⟨.compact, rfl⟩
  | some text => apply LogFormat.endsAtFirst_read

theorem endsAtFirst_validate (settings : Settings) :
    EndsAtFirst (settings.demands.map Demand.fault?) settings.validate :=
  settings.endsAtFirst_checkPath.append fun _ _ =>
    settings.endsAtFirst_checkFilled.append fun _ _ =>
      settings.endsAtFirst_format.bind fun _ => endsAtFirst_of_ok rfl

theorem exists_format_of_validate (sound : settings.validate = .ok ()) :
    ∃ format, settings.format = .ok format := by
  obtain ⟨_, _, later⟩ := bind_eq_ok_iff.mp sound
  obtain ⟨_, _, last⟩ := bind_eq_ok_iff.mp later
  obtain ⟨format, found, _⟩ := bind_eq_ok_iff.mp last
  exact ⟨format, found⟩

end Settings

/-! ## Both together -/

namespace CommandLine

variable {line : CommandLine} {settings : Settings}

/-- The format on the line counts last. -/
def demands (line : CommandLine) (settings : Settings) : List Demand :=
  settings.demands ++ [LogFormat.demand line.logFormat]

theorem endsAtFirst_format (line : CommandLine) (sound : settings.validate = .ok ()) :
    EndsAtFirst [(LogFormat.demand line.logFormat).fault?] (line.format settings) := by
  rw [format]
  cases line.logFormat with
  | none => exact settings.exists_format_of_validate sound
  | some text => apply LogFormat.endsAtFirst_read

theorem endsAtFirst_startupFormat (line : CommandLine) (settings : Settings) :
    EndsAtFirst ((line.demands settings).map Demand.fault?) (line.startupFormat settings) := by
  rw [demands, List.map_append]
  exact settings.endsAtFirst_validate.append fun _ sound => line.endsAtFirst_format sound

theorem severity_of_mem_demands {demand : Demand} (inside : demand ∈ line.demands settings)
    (text : String) : (demand.fault text).severity = .high := by
  simp only [demands, Settings.demands, List.cons_append, List.nil_append, List.mem_cons,
    List.not_mem_nil, or_false] at inside
  rcases inside with rfl | rfl | rfl | rfl | rfl <;> rfl

theorem severity_of_startupFormat {fault : Fault}
    (refused : line.startupFormat settings = .error fault) : fault.severity = .high := by
  have first := (line.endsAtFirst_startupFormat settings).error_iff.mp refused
  obtain ⟨earlier, demand, later, parts, _, text, _, _, rfl⟩ :=
    Demand.findSome?_eq_some_iff.mp first
  have inside : demand ∈ line.demands settings := by simp [parts]
  exact severity_of_mem_demands inside text

/-- A format on the line is no excuse for the one in the file. -/
example :
    startupFormat ⟨none, none, some "json", false, .list⟩ { logFormat := some " Xml" } =
      .error (.invalidSetting "logging.format" "xml" "Supported formats: compact, json") := rfl

end CommandLine

end Visa
