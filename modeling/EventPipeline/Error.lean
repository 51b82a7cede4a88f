namespace EventPipeline

/-!
# Errors

Queueing, delivery, key symbols and click synthesis never fail. Errors come only from the edges
of the pipeline: reading settings, decoding raw numbers, and creating an event loop or a stage.

* `ReadFailure`, `SettingsFault` — why a settings file could not be read, and what was wrong
  with its text.
* `Error` — the errors, one constructor for each cause, with their wording in `Error.message`.
-/

/-- Why the text of a settings file could not be read. -/
inductive ReadFailure where
  /-- There is no file at the path. -/
  | notFound
  /-- The path names a directory. -/
  | isDirectory
  /-- The bytes of the file are not UTF-8. -/
  | invalidUtf8
deriving DecidableEq, Repr

namespace ReadFailure

/-- The wording of a read failure. -/
def message : ReadFailure → String
  | notFound => "No such file or directory (os error 2)"
  | isDirectory => "Is a directory (os error 21)"
  | invalidUtf8 => "stream did not contain valid UTF-8"

end ReadFailure

/-- What is wrong with the text of a settings file. -/
inductive SettingsFault where
  /-- The text is not a TOML document. -/
  | notToml
  /-- The named threshold is no integer between `0` and `2 ^ 32 - 1`. -/
  | badThreshold (key : String)
deriving DecidableEq, Repr

namespace SettingsFault

/-- The wording of a fault. -/
def message : SettingsFault → String
  | notToml => "not a TOML document"
  | badThreshold key => s!"{key} is not an unsigned 32-bit integer"

end SettingsFault

/-- An error at an edge of the pipeline. -/
inductive Error where
  /-- A settings file could not be read. -/
  | settingsUnreadable (cause : ReadFailure)
  /-- The text of the settings is not TOML or holds a value of the wrong kind. -/
  | settingsMalformed (fault : SettingsFault)
  /-- A number that stands for no kind of event. -/
  | unknownEventType (number : UInt32)
  /-- A number that stands for no scroll direction. -/
  | unknownScrollDirection (number : UInt32)
  /-- The platform refused to create an event loop. -/
  | eventLoop (cause : String)
  /-- The platform refused to create the window behind a stage. -/
  | stageCreation (cause : String)
deriving DecidableEq, Repr

namespace Error

/-- The wording of an error. -/
def message : Error → String
  | settingsUnreadable cause => s!"Failed to read settings: {cause.message}"
  | settingsMalformed fault => s!"Invalid settings: {fault.message}"
  | unknownEventType number => s!"Unknown event type: {number}"
  | unknownScrollDirection number => s!"Unknown scroll direction: {number}"
  | eventLoop cause => s!"Failed to create event loop: {cause}"
  | stageCreation cause => s!"Failed to create stage: {cause}"

end Error

end EventPipeline
