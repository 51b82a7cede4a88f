import EventPipeline.Click.Settings
import EventPipeline.Desktop.Key
import EventPipeline.Event.Kind
import EventPipeline.Point

namespace EventPipeline

/-!
# The log

* `LogRecord` — what the pipeline reports about its work.
* `LogRecord.level`, `LogRecord.text` — the level and the wording of a record.
-/

/-- How much a log record matters. -/
inductive LogLevel where
  /-- Every step. -/
  | trace
  /-- What helps to find a fault. -/
  | debug
  /-- What ought not to happen. -/
  | warn
deriving DecidableEq, Repr

/-- The name of a level. -/
def LogLevel.name : LogLevel → String
  | trace => "TRACE"
  | debug => "DEBUG"
  | warn => "WARN"

/-- How many presses make up a click. -/
inductive Multiplicity where
  /-- Two presses. -/
  | double
  /-- Three presses. -/
  | triple
deriving DecidableEq, Repr

namespace Multiplicity

/-- The kind of the event that reports the last press of such a click. -/
def kind : Multiplicity → EventKind
  | double => .doublePress
  | triple => .triplePress

/-- The name of a multiplicity. -/
def name : Multiplicity → String
  | double => "Double"
  | triple => "Triple"

end Multiplicity

/-- Something that the pipeline reports about its work. -/
inductive LogRecord where
  /-- An event is about to join the queue. -/
  | queued (kind : EventKind) (time : UInt32)
  /-- A press completes a double or a triple click. -/
  | click (multiplicity : Multiplicity) (button : UInt32) (position : Point)
  /-- The event of a completed click is about to join the queue. -/
  | synthesized (kind : EventKind) (button : UInt32)
  /-- A handler took the place of another one. -/
  | replacedHandler
  /-- A queued event is about to be delivered. -/
  | dispatching (kind : EventKind)
  /-- A motion of the platform has no event. -/
  | untranslatedMotion (action : Int32)
  /-- A key action of the platform has no event. -/
  | untranslatedKey (action : Int32)
  /-- A touch was translated. -/
  | touch (kind : EventKind) (position : Point)
  /-- A key has no key symbol. -/
  | noKeySymbol (key : DesktopKey)
  /-- Settings were read from a file. -/
  | settingsLoaded (path : String) (settings : ClickSettings)
deriving DecidableEq, Repr

namespace LogRecord

/-- How much a record matters. -/
def level : LogRecord → LogLevel
  | queued .. | click .. | dispatching .. | touch .. => .trace
  | synthesized .. | replacedHandler | noKeySymbol .. | settingsLoaded .. => .debug
  | untranslatedMotion .. | untranslatedKey .. => .warn

/-- The wording of a record. -/
def text : LogRecord → String
  | queued kind time => s!"Queued {kind.name} at {time}"
  | click multiplicity button position =>
    s!"{multiplicity.name} click: button {button} at {position.text}"
  | synthesized kind button => s!"Synthesized {kind.name} for button {button}"
  | replacedHandler => "Replaced event handler"
  | dispatching kind => s!"Dispatching {kind.name}"
  | untranslatedMotion action => s!"Untranslated motion action {action.toInt}"
  | untranslatedKey action => s!"Untranslated key action {action.toInt}"
  | touch kind position => s!"Touch {kind.name} at {position.text}"
  | noKeySymbol key => s!"No key symbol for {key.text}"
  | settingsLoaded path settings => s!"Loaded click settings from {path}: {settings.text}"

end LogRecord

end EventPipeline
