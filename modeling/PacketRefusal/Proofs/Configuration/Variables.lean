import Mathlib.Algebra.Group.Nat.Defs
import Mathlib.Data.List.Basic
import Mathlib.Tactic.SplitIfs
import PacketRefusal.Configuration.Variables
import PacketRefusal.Proofs.Configuration.Level
import PacketRefusal.Proofs.Configuration.Numeral

/-!
# Which variables are a configuration

Three variables can be wrong. `PriorityIs` and `BufferSizeIs` say which value a variable sets, and
`LevelIsKnown` that the word for a level is one; a variable that is not set is never wrong. Numbers
are read as their numerals spell them (`Numeral.signed_eq_ok_iff`, `Numeral.unsigned_eq_ok_iff`),
and words are compared without regard to the case of ASCII letters
(`Log.Level.ofText?_eq_some_iff`).

The variables are looked at one after the other, and the first one that is wrong decides the error
(`ofVariables_eq_error_iff`). Each kind of error therefore has its exact condition, which says
nothing about the variables that come later, and `ofVariables_outcomes` lists all of them beside the
condition under which there is a configuration.
-/

set_option autoImplicit false
set_option relaxedAutoImplicit false

namespace PacketRefusal

namespace Configuration

/-! ### What the variables set -/

/-- A setting has a value: the one that its text spells, or the default one without a text. -/
def Sets {α : Type} (setting : Option String) (default : α) (spells : List Char → α → Prop)
    (value : α) : Prop :=
  match setting with
  | none => value = default
  | some text => spells text.toList value

/-- The variables set the priority. -/
def PriorityIs (environment : Variables) : Int → Prop :=
  Sets (environment "DIVERT_PRIORITY") 0 fun text priority ↦
    Numeral.SpellsSigned text priority ∧ -32768 ≤ priority ∧ priority ≤ 32767

/-- The variables set the size of the receiving buffer. -/
def BufferSizeIs (environment : Variables) : Nat → Prop :=
  Sets (environment "DIVERT_BUFFER_SIZE") 65535 fun text size ↦
    Numeral.Spells text size ∧ 64 ≤ size ∧ size ≤ 65535

/-- The variables name a level, if they name one at all. -/
def LevelIsKnown (environment : Variables) : Prop :=
  ∀ word, environment "LOG_LEVEL" = some word → ∃ name ∈ levelWords, SameLetters word name

/-! ### The settings one by one -/

/-- Naming the place of an error does not change a value. -/
theorem mapError_eq_ok_iff {ε δ α : Type} {locate : ε → δ} {read : Except ε α} {value : α} :
    read.mapError locate = .ok value ↔ read = .ok value := by
  cases read <;> simp [Except.mapError]

theorem mapError_eq_error_iff {ε δ α : Type} {locate : ε → δ} {read : Except ε α} {error : δ} :
    read.mapError locate = .error error ↔ ∃ cause, read = .error cause ∧ locate cause = error := by
  cases read <;> simp [Except.mapError]

variable (environment : Variables)

theorem priorityOf_eq_ok_iff (priority : Int) :
    priorityOf environment = .ok priority ↔ PriorityIs environment priority := by
  unfold priorityOf PriorityIs Sets
  cases environment "DIVERT_PRIORITY" with
  | none => simp only [Except.ok.injEq, eq_comm]
  | some text => exact mapError_eq_ok_iff.trans (Numeral.signed_eq_ok_iff text.toList priority)

theorem exists_of_priorityOf_eq_error {error : ConfigurationError}
    (herror : priorityOf environment = .error error) : ∃ cause, error = .priority cause := by
  unfold priorityOf at herror
  split at herror
  · cases herror
  · obtain ⟨cause, -, rfl⟩ := mapError_eq_error_iff.mp herror
    exact ⟨cause, rfl⟩

/-- A number that fits into 64 bits is compared with the limits of the size. -/
theorem bufferSizeOf_of_spells {text : String}
    (hsetting : environment "DIVERT_BUFFER_SIZE" = some text) {size : Nat}
    (hspells : Numeral.Spells text.toList size) (hsmall : size < 2 ^ 64) :
    bufferSizeOf environment =
      if 64 ≤ size ∧ size ≤ 65535 then .ok size else .error (.bufferRange size) := by
  have hread : Numeral.unsigned 0xFFFFFFFFFFFFFFFF text.toList = .ok size :=
    (Numeral.unsigned_eq_ok_iff _ _).mpr ⟨hspells, Nat.le_of_lt_succ hsmall⟩
  simp only [bufferSizeOf, hsetting, hread]
  rfl

/-- Any other text is no size at all. -/
theorem exists_of_not_spells {text : String}
    (hsetting : environment "DIVERT_BUFFER_SIZE" = some text)
    (hspells : ∀ size, Numeral.Spells text.toList size → 2 ^ 64 ≤ size) :
    ∃ cause, bufferSizeOf environment = .error (.bufferSize cause) := by
  cases hread : Numeral.unsigned 0xFFFFFFFFFFFFFFFF text.toList with
  | error cause =>
    exact ⟨cause, by simp only [bufferSizeOf, hsetting, hread]⟩
  | ok size =>
    obtain ⟨hsize, hsmall⟩ := (Numeral.unsigned_eq_ok_iff _ _).mp hread
    exact absurd (hspells size hsize) (Nat.not_le_of_lt (Nat.lt_succ_of_le hsmall))

/-- The variables give the size a text, and the text spells some number of 64 bits or none. -/
theorem bufferSizeOf_cases :
    environment "DIVERT_BUFFER_SIZE" = none ∨
      (∃ text size, environment "DIVERT_BUFFER_SIZE" = some text ∧
        Numeral.Spells text.toList size ∧ size < 2 ^ 64) ∨
      ∃ text, environment "DIVERT_BUFFER_SIZE" = some text ∧
        ∀ size, Numeral.Spells text.toList size → 2 ^ 64 ≤ size := by
  cases hsetting : environment "DIVERT_BUFFER_SIZE" with
  | none => exact .inl rfl
  | some text =>
    by_cases hspells : ∃ size, Numeral.Spells text.toList size ∧ size < 2 ^ 64
    · obtain ⟨size, hsize, hsmall⟩ := hspells
      exact .inr (.inl ⟨text, size, rfl, hsize, hsmall⟩)
    · refine .inr (.inr ⟨text, rfl, fun size hsize ↦ Nat.le_of_not_lt fun hsmall ↦ ?_⟩)
      exact hspells ⟨size, hsize, hsmall⟩

theorem bufferSizeOf_eq_ok_iff (size : Nat) :
    bufferSizeOf environment = .ok size ↔ BufferSizeIs environment size := by
  rcases bufferSizeOf_cases environment with
    hsetting | ⟨text, number, hsetting, hspells, hsmall⟩ | ⟨text, hsetting, hspells⟩
  · simp only [bufferSizeOf, BufferSizeIs, Sets, hsetting, Except.ok.injEq, eq_comm,
      defaultBufferSize]
  · rw [bufferSizeOf_of_spells environment hsetting hspells hsmall]
    simp only [BufferSizeIs, Sets, hsetting]
    constructor
    · intro hread
      split_ifs at hread with hrange
      cases hread
      exact ⟨hspells, hrange⟩
    · rintro ⟨hsize, hrange⟩
      rw [hspells.unique hsize, if_pos hrange]
  · obtain ⟨cause, hread⟩ := exists_of_not_spells environment hsetting hspells
    simp only [hread, BufferSizeIs, Sets, hsetting]
    refine iff_of_false nofun ?_
    rintro ⟨hsize, -, hupper⟩
    have hlarge := hspells size hsize
    omega

theorem exists_bufferSizeOf_eq_error_iff :
    (∃ cause, bufferSizeOf environment = .error (.bufferSize cause)) ↔
      ∃ text, environment "DIVERT_BUFFER_SIZE" = some text ∧
        ∀ size, Numeral.Spells text.toList size → 2 ^ 64 ≤ size := by
  refine ⟨?_, fun ⟨text, hsetting, hspells⟩ ↦ exists_of_not_spells environment hsetting hspells⟩
  rintro ⟨cause, hread⟩
  rcases bufferSizeOf_cases environment with
    hsetting | ⟨text, number, hsetting, hspells, hsmall⟩ | hmisspelt
  · simp only [bufferSizeOf, hsetting] at hread
    cases hread
  · rw [bufferSizeOf_of_spells environment hsetting hspells hsmall] at hread
    split_ifs at hread
    cases hread
  · exact hmisspelt

theorem bufferSizeOf_eq_range_error_iff (size : Nat) :
    bufferSizeOf environment = .error (.bufferRange size) ↔
      ∃ text, environment "DIVERT_BUFFER_SIZE" = some text ∧ Numeral.Spells text.toList size ∧
        size < 2 ^ 64 ∧ ¬(64 ≤ size ∧ size ≤ 65535) := by
  constructor
  · intro hread
    rcases bufferSizeOf_cases environment with
      hsetting | ⟨text, number, hsetting, hspells, hsmall⟩ | ⟨text, hsetting, hspells⟩
    · simp only [bufferSizeOf, hsetting] at hread
      cases hread
    · rw [bufferSizeOf_of_spells environment hsetting hspells hsmall] at hread
      split_ifs at hread with hrange
      cases hread
      exact ⟨text, hsetting, hspells, hsmall, hrange⟩
    · obtain ⟨cause, hmisspelt⟩ := exists_of_not_spells environment hsetting hspells
      rw [hmisspelt] at hread
      cases hread
  · rintro ⟨text, hsetting, hspells, hsmall, hrange⟩
    rw [bufferSizeOf_of_spells environment hsetting hspells hsmall, if_neg hrange]

theorem exists_of_bufferSizeOf_eq_error {error : ConfigurationError}
    (herror : bufferSizeOf environment = .error error) :
    (∃ cause, error = .bufferSize cause) ∨ ∃ size, error = .bufferRange size := by
  unfold bufferSizeOf at herror
  split at herror
  · cases herror
  · split at herror
    · cases herror
      exact .inl ⟨_, rfl⟩
    · split_ifs at herror
      cases herror
      exact .inr ⟨_, rfl⟩

/-- The level of the settings is the one with the letters of its word. -/
theorem parsedLevel_eq_ok_iff (settings : LoggingSettings) (level : Log.Level) :
    settings.parsedLevel = .ok level ↔ SameLetters settings.level level.text := by
  rw [← Log.Level.ofText?_eq_some_iff, LoggingSettings.parsedLevel]
  cases Log.Level.ofText? settings.level with
  | none => exact iff_of_false nofun nofun
  | some other => simp only [Except.ok.injEq, Option.some.injEq]

theorem parsedLevel_eq_error_iff (error : ConfigurationError) :
    (loggingOf environment).parsedLevel = .error error ↔
      ∃ word, environment "LOG_LEVEL" = some word ∧ error = .level word ∧
        ∀ name ∈ levelWords, ¬SameLetters word name := by
  have hdefault : Log.Level.ofText? "info" = some (.upTo .info) := rfl
  unfold LoggingSettings.parsedLevel loggingOf
  cases hsetting : environment "LOG_LEVEL" with
  | none => simp [hdefault]
  | some word =>
    simp only [Option.getD_some, Option.some.injEq, exists_eq_left',
      ← Log.Level.ofText?_eq_none_iff]
    cases Log.Level.ofText? word <;> simp [eq_comm]

theorem levelIsKnown_iff :
    LevelIsKnown environment ↔ ∃ level, (loggingOf environment).parsedLevel = .ok level := by
  cases hread : (loggingOf environment).parsedLevel with
  | error error =>
    obtain ⟨word, hsetting, -, hunknown⟩ := (parsedLevel_eq_error_iff environment error).mp hread
    refine iff_of_false (fun hknown ↦ ?_) nofun
    obtain ⟨name, hname, hletters⟩ := hknown word hsetting
    exact hunknown name hname hletters
  | ok level =>
    refine iff_of_true (fun word hsetting ↦ ?_) ⟨level, rfl⟩
    have hletters := (parsedLevel_eq_ok_iff _ level).mp hread
    simp only [loggingOf, hsetting, Option.getD_some] at hletters
    exact ⟨level.text, Log.Level.map_text_all ▸ List.mem_map_of_mem (Log.Level.mem_all level),
      hletters⟩

/-! ### The settings in their order -/

theorem ofVariables_eq :
    ofVariables environment =
      (priorityOf environment >>= fun priority ↦ bufferSizeOf environment >>= fun size ↦
        (loggingOf environment).parsedLevel >>= fun _ ↦
          .ok ⟨⟨priority, size⟩, loggingOf environment⟩) := rfl

/-- There is a configuration just if all three settings can be read. -/
theorem ofVariables_eq_ok_iff (configuration : Configuration) :
    ofVariables environment = .ok configuration ↔
      priorityOf environment = .ok configuration.diversion.priority ∧
        bufferSizeOf environment = .ok configuration.diversion.bufferSize ∧
        (∃ level, (loggingOf environment).parsedLevel = .ok level) ∧
        configuration.logging = loggingOf environment := by
  obtain ⟨⟨priority, size⟩, logging⟩ := configuration
  rw [ofVariables_eq]
  cases priorityOf environment with
  | error error => exact iff_of_false nofun nofun
  | ok first =>
    cases bufferSizeOf environment with
    | error error => exact iff_of_false nofun nofun
    | ok second =>
      cases (loggingOf environment).parsedLevel with
      | error error => exact iff_of_false nofun fun ⟨_, _, ⟨_, hlevel⟩, _⟩ ↦ nomatch hlevel
      | ok level =>
        constructor
        · rintro ⟨rfl⟩
          exact ⟨rfl, rfl, ⟨level, rfl⟩, rfl⟩
        · rintro ⟨⟨rfl⟩, ⟨rfl⟩, -, rfl⟩
          rfl

/-- The first setting that cannot be read decides the error. -/
theorem ofVariables_eq_error_iff (error : ConfigurationError) :
    ofVariables environment = .error error ↔
      priorityOf environment = .error error ∨
        (∃ priority, priorityOf environment = .ok priority) ∧
          (bufferSizeOf environment = .error error ∨
            (∃ size, bufferSizeOf environment = .ok size) ∧
              (loggingOf environment).parsedLevel = .error error) := by
  rw [ofVariables_eq]
  cases priorityOf environment with
  | error first => simp [bind, Except.bind]
  | ok priority =>
    cases bufferSizeOf environment with
    | error second => simp [bind, Except.bind]
    | ok size => cases (loggingOf environment).parsedLevel <;> simp [bind, Except.bind]

theorem exists_priority_error_iff :
    (∃ cause, ofVariables environment = .error (.priority cause)) ↔
      ¬∃ priority, PriorityIs environment priority := by
  simp only [← priorityOf_eq_ok_iff]
  constructor
  · rintro ⟨cause, hread⟩ ⟨priority, hpriority⟩
    rcases (ofVariables_eq_error_iff environment _).mp hread with herror | ⟨-, herror | ⟨-, herror⟩⟩
    · rw [hpriority] at herror
      cases herror
    · rcases exists_of_bufferSizeOf_eq_error environment herror with ⟨_, ⟨⟩⟩ | ⟨_, ⟨⟩⟩
    · obtain ⟨_, -, ⟨⟩, -⟩ := (parsedLevel_eq_error_iff environment _).mp herror
  · intro hnone
    cases hpriority : priorityOf environment with
    | error error =>
      obtain ⟨cause, rfl⟩ := exists_of_priorityOf_eq_error environment hpriority
      exact ⟨cause, (ofVariables_eq_error_iff environment _).mpr (.inl hpriority)⟩
    | ok priority => exact absurd ⟨priority, hpriority⟩ hnone

/-- Any other error takes a priority that can be read. -/
theorem ofVariables_eq_later_error_iff (error : ConfigurationError)
    (hlater : ∀ cause, error ≠ .priority cause) :
    ofVariables environment = .error error ↔
      (∃ priority, PriorityIs environment priority) ∧
        (bufferSizeOf environment = .error error ∨
          (∃ size, BufferSizeIs environment size) ∧
            (loggingOf environment).parsedLevel = .error error) := by
  rw [ofVariables_eq_error_iff, or_iff_right]
  · simp only [priorityOf_eq_ok_iff, bufferSizeOf_eq_ok_iff]
  · intro hpriority
    obtain ⟨cause, hcause⟩ := exists_of_priorityOf_eq_error environment hpriority
    exact hlater cause hcause

/-- A configuration holds what the variables set. The word for the level is kept as it is, an empty
name of a log file counts as none, and colours are on unless they are turned off. -/
structure SetBy (configuration : Configuration) (environment : Variables) : Prop where
  priority : ∀ priority, PriorityIs environment priority ↔
    priority = configuration.diversion.priority
  bufferSize : ∀ size, BufferSizeIs environment size ↔ size = configuration.diversion.bufferSize
  level : configuration.logging.level = (environment "LOG_LEVEL").getD "info"
  file : ∀ path, configuration.logging.file = some path ↔
    environment "LOG_FILE" = some path ∧ path ≠ ""
  color : configuration.logging.color = true ↔ environment "NO_COLOR" = none
  parsedLevel : ∃ level, configuration.logging.parsedLevel = .ok level ∧
    SameLetters configuration.logging.level level.text

theorem setBy_of_ofVariables_eq_ok {configuration : Configuration}
    (hread : ofVariables environment = .ok configuration) : configuration.SetBy environment := by
  obtain ⟨hpriority, hsize, ⟨level, hlevel⟩, hlogging⟩ :=
    (ofVariables_eq_ok_iff environment configuration).mp hread
  exact {
    priority := fun priority ↦ by
      rw [← priorityOf_eq_ok_iff, hpriority, Except.ok.injEq, eq_comm]
    bufferSize := fun size ↦ by rw [← bufferSizeOf_eq_ok_iff, hsize, Except.ok.injEq, eq_comm]
    level := by rw [hlogging, loggingOf]
    file := fun path ↦ by
      rw [hlogging, loggingOf, Option.filter_eq_some_iff]
      simp
    color := by rw [hlogging, loggingOf, Option.isNone_iff_eq_none]
    parsedLevel := by
      rw [← hlogging] at hlevel
      exact ⟨level, hlevel, (parsedLevel_eq_ok_iff _ level).mp hlevel⟩ }

/-- Everything that reading the variables can come to.

There is a configuration exactly if the priority, the size of the receiving buffer and the level are
each absent or a text of their kind, and the configuration holds what the variables set. A priority
that is no numeral of its range is an error whatever else is set. With a priority, a size that is no
numeral or does not fit into 64 bits is one error, and any other size outside of the limits is
another. With a size too, a word for the level that is none is an error. -/
theorem ofVariables_outcomes :
    ((∃ configuration, ofVariables environment = .ok configuration) ↔
      (∃ priority, PriorityIs environment priority) ∧ (∃ size, BufferSizeIs environment size) ∧
        LevelIsKnown environment) ∧
    (∀ configuration, ofVariables environment = .ok configuration →
      configuration.SetBy environment) ∧
    ((∃ cause, ofVariables environment = .error (.priority cause)) ↔
      ¬∃ priority, PriorityIs environment priority) ∧
    ((∃ cause, ofVariables environment = .error (.bufferSize cause)) ↔
      (∃ priority, PriorityIs environment priority) ∧
        ∃ text, environment "DIVERT_BUFFER_SIZE" = some text ∧
          ∀ size, Numeral.Spells text.toList size → 2 ^ 64 ≤ size) ∧
    (∀ size, ofVariables environment = .error (.bufferRange size) ↔
      (∃ priority, PriorityIs environment priority) ∧
        ∃ text, environment "DIVERT_BUFFER_SIZE" = some text ∧
          Numeral.Spells text.toList size ∧ size < 2 ^ 64 ∧ ¬(64 ≤ size ∧ size ≤ 65535)) ∧
    ∀ word, ofVariables environment = .error (.level word) ↔
      (∃ priority, PriorityIs environment priority) ∧ (∃ size, BufferSizeIs environment size) ∧
        environment "LOG_LEVEL" = some word ∧ ∀ name ∈ levelWords, ¬SameLetters word name := by
  refine ⟨?_, fun configuration ↦ setBy_of_ofVariables_eq_ok environment,
    exists_priority_error_iff environment, ?_, fun size ↦ ?_, fun word ↦ ?_⟩
  · rw [levelIsKnown_iff]
    simp only [← priorityOf_eq_ok_iff, ← bufferSizeOf_eq_ok_iff, ofVariables_eq_ok_iff]
    constructor
    · rintro ⟨configuration, hpriority, hsize, hlevel, -⟩
      exact ⟨⟨_, hpriority⟩, ⟨_, hsize⟩, hlevel⟩
    · rintro ⟨⟨priority, hpriority⟩, ⟨size, hsize⟩, hlevel⟩
      exact ⟨⟨⟨priority, size⟩, loggingOf environment⟩, hpriority, hsize, hlevel, rfl⟩
  · have hmisspelt (cause : Numeral.Error) :=
      ofVariables_eq_later_error_iff environment (.bufferSize cause) nofun
    simp only [hmisspelt, ← exists_bufferSizeOf_eq_error_iff, parsedLevel_eq_error_iff]
    simp
  · rw [ofVariables_eq_later_error_iff environment (.bufferRange size) nofun,
      bufferSizeOf_eq_range_error_iff, parsedLevel_eq_error_iff]
    simp
  · have hsize : bufferSizeOf environment ≠ .error (.level word) := fun herror ↦ by
      rcases exists_of_bufferSizeOf_eq_error environment herror with ⟨_, ⟨⟩⟩ | ⟨_, ⟨⟩⟩
    rw [ofVariables_eq_later_error_iff environment (.level word) nofun, parsedLevel_eq_error_iff,
      or_iff_right hsize]
    simp

/-- Variables that set a priority with zeros in front, a word in mixed case and no file. -/
def unusualVariables : Variables := fun name ↦
  [("DIVERT_PRIORITY", "-00032768"), ("DIVERT_BUFFER_SIZE", "+0064"), ("LOG_LEVEL", "wArN"),
    ("LOG_FILE", "")].lookup name

theorem ofVariables_outcomes_of_unusualVariables :
    ofVariables unusualVariables = .ok ⟨⟨-32768, 64⟩, ⟨"wArN", none, true⟩⟩ ∧
      PriorityIs unusualVariables (-32768) ∧ BufferSizeIs unusualVariables 64 ∧
      LevelIsKnown unusualVariables := by
  have hread : ofVariables unusualVariables = .ok ⟨⟨-32768, 64⟩, ⟨"wArN", none, true⟩⟩ := rfl
  obtain ⟨hvalid, hset, -⟩ := ofVariables_outcomes unusualVariables
  have hconfiguration := hset _ hread
  obtain ⟨-, -, hlevel⟩ := hvalid.mp ⟨_, hread⟩
  exact ⟨hread, (hconfiguration.priority _).mpr rfl, (hconfiguration.bufferSize _).mpr rfl, hlevel⟩

end Configuration

end PacketRefusal
