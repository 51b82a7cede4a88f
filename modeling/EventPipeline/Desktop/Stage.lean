import EventPipeline.Error

namespace EventPipeline

/-!
# Stages on a desktop

* `Desktop.WindowConfig` — how the window behind a stage is to be made.
* `Desktop.Clock` — the time since an input source was made.
* `Desktop.Display.choose` — the display server that an event loop connects to.
-/

namespace Desktop

/-- How the window behind a stage is to be made. -/
structure WindowConfig where
  /-- The title of the window. -/
  title : String := "Stagehand"
  /-- The width in logical pixels. -/
  width : UInt32 := 800
  /-- The height in logical pixels. -/
  height : UInt32 := 600
  /-- Whether the user can change the size. -/
  resizable : Bool := true
deriving DecidableEq, Repr

namespace WindowConfig

/-- The configuration with another size. -/
def sized (c : WindowConfig) (width height : UInt32) : WindowConfig := { c with width, height }

/-- The configuration with a size that the user can or cannot change. -/
def withResizable (c : WindowConfig) (resizable : Bool) : WindowConfig := { c with resizable }

end WindowConfig

/-- The time since an input source was made. -/
structure Clock where
  /-- When the source was made, in milliseconds of a clock that never goes back. -/
  start : Nat
deriving DecidableEq, Repr

/-- The milliseconds since the source was made. The count wraps after `2 ^ 32`. -/
def Clock.timestamp (c : Clock) (now : Nat) : UInt32 := UInt32.ofNat (now - c.start)

/-- A display server, by the name that the environment gives it. -/
inductive Display where
  /-- A Wayland compositor. -/
  | wayland (name : String)
  /-- An X11 server. -/
  | x11 (name : String)
deriving DecidableEq, Repr

/-- The display server that an event loop connects to, out of those named by the environment.
    Without one there can be no event loop. -/
def Display.choose (waylandName x11Name : Option String) : Except Error Display :=
  match waylandName, x11Name with
  | some name, _ => .ok (.wayland name)
  | none, some name => .ok (.x11 name)
  | none, none => .error (.eventLoop "no display is named")

end Desktop

end EventPipeline
