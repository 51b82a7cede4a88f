namespace EventPipeline

/-!
# Reading the text of a TOML document

* `Toml.Reader` — takes characters off the front of a text, or refuses it.
* `Toml.skipBlanks`, `Toml.lineBreak`, `Toml.lineEnd`, `Toml.skipFiller` — what may stand between
  the parts of a document.
-/

namespace Toml

/-- Takes characters off the front of a text and gives what they stand for with the rest, or
    refuses the text. -/
abbrev Reader (α : Type) := List Char → Option (α × List Char)

/-- Whether a character is a space or a tabulator. -/
def isBlank (c : Char) : Bool := c = ' ' || c = '\t'

/-- Whether a character may stand in a comment or between quotes: a tabulator, or any character
    but the controls of ASCII. -/
def isPlain (c : Char) : Bool := c = '\t' || (' ' ≤ c && c ≠ '\x7f')

/-- The text without the blanks at its front. -/
def skipBlanks (cs : List Char) : List Char := cs.dropWhile isBlank

/-- Takes the given character. -/
def expect (c : Char) : Reader Unit
  | d :: rest => if c = d then some ((), rest) else none
  | [] => none

/-- Takes a line feed, with or without a carriage return before it. -/
def lineBreak : Reader Unit
  | '\n' :: rest => some ((), rest)
  | '\r' :: '\n' :: rest => some ((), rest)
  | _ => none

/-- The text without the comment at its front, if there is one. -/
def skipComment : List Char → List Char
  | '#' :: rest => rest.dropWhile isPlain
  | cs => cs

/-- Takes the end of a line: blanks, a comment, and a line break or the end of the text. -/
def lineEnd : Reader Unit := fun cs =>
  match skipComment (skipBlanks cs) with
  | [] => some ((), [])
  | rest => lineBreak rest

/-- The text without the blanks, line breaks and comments at its front. Each comment ends with a
    line break. -/
def skipFiller (cs : List Char) : Option (List Char) :=
  outside cs
where
  /-- Between comments. -/
  outside : List Char → Option (List Char)
    | [] => some []
    | '#' :: rest => inside rest
    | '\r' :: '\n' :: rest => outside rest
    | c :: rest => if isBlank c || c = '\n' then outside rest else some (c :: rest)
  /-- Within a comment. -/
  inside : List Char → Option (List Char)
    | [] => none
    | '\r' :: '\n' :: rest => outside rest
    | c :: rest =>
      if c = '\n' then outside rest
      else if isPlain c then inside rest
      else none

end Toml

end EventPipeline
