import EventPipeline.Keysym.Names
import EventPipeline.Text.Quoted

namespace EventPipeline

/-!
# Keys of a desktop keyboard

* `DesktopKey` — what the desktop says a key means under the current layout.
* `DesktopKey.symbol` — the key symbol for it.
* `DesktopKey.text` — the key as it stands in the log.
-/

/-- What a key of a desktop keyboard means under the current layout. -/
inductive DesktopKey where
  /-- A key with a name instead of a character. -/
  | named (name : String)
  /-- A key that types a text. -/
  | character (text : String)
  /-- A key that waits for the next one to join its accent with, if the accent is known. -/
  | dead (accent : Option Char)
  /-- A key that the desktop knows by its X11 number alone. -/
  | unidentified (number : UInt32)
deriving DecidableEq, Repr

namespace DesktopKey

/-- The key symbols of the keys with a name. -/
def symbolsByName : List (String × Keysym) :=
  [("Space", 0x20), ("Enter", .enter), ("Escape", .escape), ("Backspace", .backspace),
   ("Tab", .tab), ("Delete", .delete), ("Insert", .insert), ("Home", .home), ("End", .lineEnd),
   ("PageUp", .pageUp), ("PageDown", .pageDown), ("Pause", .pause), ("ContextMenu", .menu),
   ("ArrowLeft", .left), ("ArrowRight", .right), ("ArrowUp", .up), ("ArrowDown", .down),
   ("Shift", .shiftLeft), ("Control", .controlLeft), ("Alt", .altLeft), ("Super", .superLeft),
   ("Meta", .metaLeft), ("CapsLock", .capsLock), ("NumLock", .numLock),
   ("ScrollLock", .scrollLock)] ++ Keysym.functionKeyNames

/-- The key symbol of a key. A text stands for its first character; a key without a name, a text
    or a known name has none. -/
def symbol : DesktopKey → Keysym
  | named name => (symbolsByName.lookup name).getD .void
  | character text => (text.toList.head?.map Keysym.ofChar).getD .void
  | dead _ | unidentified _ => .void

/-- A number in base sixteen with capital letters and at least four digits. -/
def paddedHex (n : Nat) : String :=
  let digits := (Nat.toDigits 16 n).map Char.toUpper
  String.ofList (List.replicate (4 - digits.length) '0' ++ digits)

/-- The key as it stands in the log. -/
def text : DesktopKey → String
  | named name => s!"Named({name})"
  | character text => s!"Character(\"{text}\")"
  | dead (some accent) => s!"Dead(Some({quotedChar accent}))"
  | dead none => "Dead(None)"
  | unidentified number => s!"Unidentified(Xkb(0x{paddedHex number.toNat}))"

end DesktopKey

end EventPipeline
