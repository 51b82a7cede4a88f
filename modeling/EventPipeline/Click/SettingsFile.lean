import EventPipeline.Click.Settings
import EventPipeline.Error
import EventPipeline.Log
import EventPipeline.Toml.Document
import EventPipeline.Trace

namespace EventPipeline

/-!
# Click thresholds in a settings file

A settings file is a TOML document. It may set either threshold by a whole number of 32 bits
without a sign; one that it does not set keeps its default, and other keys mean nothing.

* `ClickSettings.parse` — the thresholds that a document sets.
* `ClickSettings.render` — the document that sets both thresholds.
* `ClickSettings.load` — the thresholds that a file sets.
-/

namespace ClickSettings

/-- The threshold that a document sets under a key. -/
def threshold (entries : Toml.Entries) (key : String) (standard : UInt32) :
    Except SettingsFault UInt32 :=
  match entries.lookup key with
  | none => .ok standard
  | some (.integer n) =>
    if 0 ≤ n ∧ n < 4294967296 then .ok (UInt32.ofNat n.toNat) else .error (.badThreshold key)
  | some _ => .error (.badThreshold key)

/-- The thresholds that the outermost table of a document sets. -/
def ofEntries (entries : Toml.Entries) : Except SettingsFault ClickSettings := do
  let standard : ClickSettings := {}
  let doubleClickTime ← threshold entries timeKey standard.doubleClickTime
  let doubleClickDistance ← threshold entries distanceKey standard.doubleClickDistance
  return { doubleClickTime, doubleClickDistance }

/-- The thresholds that a document sets. -/
def parse (text : String) : Except Error ClickSettings :=
  match Toml.parse? text with
  | none => .error (.settingsMalformed .notToml)
  | some entries => (ofEntries entries).mapError .settingsMalformed

/-- The document that sets both thresholds. -/
def render (s : ClickSettings) : String :=
  s!"{timeKey} = {s.doubleClickTime}\n{distanceKey} = {s.doubleClickDistance}\n"

/-- What is found at the path of a settings file. -/
inductive File where
  /-- Nothing. -/
  | missing
  /-- A directory. -/
  | directory
  /-- A file that holds the given bytes. -/
  | bytes (content : ByteArray)

/-- The text of a settings file. -/
def File.text : File → Except ReadFailure String
  | missing => .error .notFound
  | directory => .error .isDirectory
  | bytes content =>
    match String.fromUTF8? content with
    | some text => .ok text
    | none => .error .invalidUtf8

/-- The thresholds that the file at a path sets. Only success is reported. -/
def load (path : String) (file : File) : Traced LogRecord (Except Error ClickSettings) :=
  match file.text.mapError Error.settingsUnreadable >>= parse with
  | .ok settings => do
    Traced.emit (.settingsLoaded path settings)
    return .ok settings
  | .error e => return .error e

end ClickSettings

end EventPipeline
