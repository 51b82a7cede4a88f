import EventPipeline.Keysym.Basic

namespace EventPipeline

/-!
# Named key symbols

The key symbols of the keys that stand for no character.

* `Keysym.backspace` … `Keysym.delete` — one definition for each key.
* `Keysym.functionKey` — the symbol of a function key.
* `Keysym.names`, `Keysym.named?` — the symbols by their names.
-/

namespace Keysym

/-- Erases to the left. -/
def backspace : Keysym := 0xff08
/-- The tabulator. -/
def tab : Keysym := 0xff09
/-- The return key. -/
def enter : Keysym := 0xff0d
/-- The pause key. -/
def pause : Keysym := 0xff13
/-- The scroll lock. -/
def scrollLock : Keysym := 0xff14
/-- The escape key. -/
def escape : Keysym := 0xff1b
/-- To the start of the line. -/
def home : Keysym := 0xff50
/-- The left arrow. -/
def left : Keysym := 0xff51
/-- The upward arrow. -/
def up : Keysym := 0xff52
/-- The right arrow. -/
def right : Keysym := 0xff53
/-- The downward arrow. -/
def down : Keysym := 0xff54
/-- One page up. -/
def pageUp : Keysym := 0xff55
/-- One page down. -/
def pageDown : Keysym := 0xff56
/-- To the end of the line. -/
def lineEnd : Keysym := 0xff57
/-- The insert key. -/
def insert : Keysym := 0xff63
/-- The menu key. -/
def menu : Keysym := 0xff67
/-- The number lock. -/
def numLock : Keysym := 0xff7f
/-- The enter key of the keypad. -/
def keypadEnter : Keysym := 0xff8d
/-- The left shift key. -/
def shiftLeft : Keysym := 0xffe1
/-- The right shift key. -/
def shiftRight : Keysym := 0xffe2
/-- The left control key. -/
def controlLeft : Keysym := 0xffe3
/-- The right control key. -/
def controlRight : Keysym := 0xffe4
/-- The caps lock. -/
def capsLock : Keysym := 0xffe5
/-- The left meta key. -/
def metaLeft : Keysym := 0xffe7
/-- The right meta key. -/
def metaRight : Keysym := 0xffe8
/-- The left alt key. -/
def altLeft : Keysym := 0xffe9
/-- The right alt key. -/
def altRight : Keysym := 0xffea
/-- The left super key. -/
def superLeft : Keysym := 0xffeb
/-- The right super key. -/
def superRight : Keysym := 0xffec
/-- Erases to the right. -/
def delete : Keysym := 0xffff

/-- The symbol of the function key with number `n + 1`; the symbols follow each other. -/
def functionKey (n : UInt32) : Keysym := 0xffbe + n

/-- The names of the symbols of the first twelve function keys. -/
def functionKeyNames : List (String × Keysym) :=
  (List.range 12).map fun n => (s!"F{n + 1}", functionKey (UInt32.ofNat n))

/-- The named key symbols. -/
def names : List (String × Keysym) :=
  [("BACKSPACE", backspace), ("TAB", tab), ("RETURN", enter), ("PAUSE", pause),
   ("SCROLL_LOCK", scrollLock), ("ESCAPE", escape), ("HOME", home), ("LEFT", left), ("UP", up),
   ("RIGHT", right), ("DOWN", down), ("PAGE_UP", pageUp), ("PAGE_DOWN", pageDown),
   ("END", lineEnd), ("INSERT", insert), ("MENU", menu), ("NUM_LOCK", numLock),
   ("KP_ENTER", keypadEnter), ("SHIFT_L", shiftLeft), ("SHIFT_R", shiftRight),
   ("CONTROL_L", controlLeft), ("CONTROL_R", controlRight), ("CAPS_LOCK", capsLock),
   ("META_L", metaLeft), ("META_R", metaRight), ("ALT_L", altLeft), ("ALT_R", altRight),
   ("SUPER_L", superLeft), ("SUPER_R", superRight), ("DELETE", delete), ("VOID_SYMBOL", void)] ++
    functionKeyNames

/-- The key symbol with the given name. -/
def named? (name : String) : Option Keysym := names.lookup name

end Keysym

end EventPipeline
