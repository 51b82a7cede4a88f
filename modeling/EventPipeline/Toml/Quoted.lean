import EventPipeline.Toml.Reader

namespace EventPipeline

/-!
# Strings of a TOML document

* `Toml.escape` — the character that an escape stands for.
* `Toml.basicBody`, `Toml.literalBody` — strings on one line, with and without escapes.
* `Toml.basicLines`, `Toml.literalLines` — strings of several lines.
* `Toml.quoted`, `Toml.stringValue` — a string with its quotes, as a key and as a value.
-/

namespace Toml

/-- The value of a digit in base sixteen. -/
def hexDigit? (c : Char) : Option Nat :=
  if '0' ≤ c ∧ c ≤ '9' then some (c.toNat - '0'.toNat)
  else if 'a' ≤ c ∧ c ≤ 'f' then some (c.toNat - 'a'.toNat + 10)
  else if 'A' ≤ c ∧ c ≤ 'F' then some (c.toNat - 'A'.toNat + 10)
  else none

/-- The character whose code point the given digits in base sixteen write, if it is one. -/
def charOfHex? (digits : List Char) : Option Char := do
  let n ← digits.foldlM (fun n c => return 16 * n + (← hexDigit? c)) 0
  if n.isValidChar then some (Char.ofNat n) else none

/-- Takes what follows the backslash of an escape, and gives the character it stands for. -/
def escape : Reader Char
  | 'b' :: rest => some ('\x08', rest)
  | 't' :: rest => some ('\t', rest)
  | 'n' :: rest => some ('\n', rest)
  | 'f' :: rest => some ('\x0c', rest)
  | 'r' :: rest => some ('\r', rest)
  | '"' :: rest => some ('"', rest)
  | '\\' :: rest => some ('\\', rest)
  | 'u' :: a :: b :: c :: d :: rest => (charOfHex? [a, b, c, d]).map (·, rest)
  | 'U' :: a :: b :: c :: d :: e :: f :: g :: h :: rest =>
    (charOfHex? [a, b, c, d, e, f, g, h]).map (·, rest)
  | _ => none

/-- How many characters the escape of the given letter takes after the backslash. -/
def escapeLength (letter : Char) : Nat :=
  if letter = 'u' then 5 else if letter = 'U' then 9 else 1

/-- Takes a string on one line up to its closing quote. The number counts the characters that
    belong to an escape already read. -/
def basicBody (cs : List Char) : Option (List Char × List Char) :=
  go 0 cs
where
  /-- Passes over `skip` characters first. -/
  go : Nat → List Char → Option (List Char × List Char)
    | _, [] => none
    | skip + 1, _ :: rest => go skip rest
    | 0, c :: rest =>
      if c = '"' then some ([], rest)
      else if c = '\\' then do
        let (d, _) ← escape rest
        let (body, rest') ← go (escapeLength (rest.headD ' ')) rest
        return (d :: body, rest')
      else if isPlain c then do
        let (body, rest') ← go 0 rest
        return (c :: body, rest')
      else none

/-- Takes a string without escapes on one line up to its closing quote. -/
def literalBody : Reader (List Char)
  | [] => none
  | c :: rest =>
    if c = '\'' then some ([], rest)
    else if isPlain c then do
      let (body, rest') ← literalBody rest
      return (c :: body, rest')
    else none

/-- The text without the line break at its front, if there is one. -/
def skipLineBreak (cs : List Char) : List Char := ((lineBreak cs).map (·.2)).getD cs

/-- Whether the closing quotes of a string of several lines are at the front of a text, and if so
    the quotes of the string itself that stand before them, with the rest. Of a run of quotes the
    last three close the string. -/
def closing? (quote : Char) (cs : List Char) : Option (List Char × List Char) :=
  let run := ((cs.take 5).takeWhile (· = quote)).length
  if 3 ≤ run then some (List.replicate (run - 3) quote, cs.drop run) else none

/-- What the next characters of a string of several lines are taken for. -/
inductive LineMode where
  /-- The text of the string. -/
  | text
  /-- What follows the backslash that ends a line: blanks up to the line break. -/
  | lineEnd
  /-- The white space after that line break, which is left out. -/
  | margin
deriving DecidableEq, Repr

/-- Takes a string of several lines up to its closing quotes. A backslash at the end of a line
    takes the white space after it away. -/
def basicLines (cs : List Char) : Option (List Char × List Char) :=
  go 0 .text cs
where
  /-- Passes over `skip` characters first, and takes the next ones as `mode` says. -/
  go : Nat → LineMode → List Char → Option (List Char × List Char)
    | _, _, [] => none
    | skip + 1, mode, _ :: rest => go skip mode rest
    | 0, mode, c :: rest =>
      let atBreak := c = '\n' || (c = '\r' && rest.head? = some '\n')
      let breakRest := if c = '\n' then 0 else 1
      if mode = .lineEnd then
        if isBlank c then go 0 .lineEnd rest
        else if atBreak then go breakRest .margin rest
        else none
      else if mode = .margin && isBlank c then go 0 .margin rest
      else if atBreak then
        if mode = .margin then go breakRest .margin rest
        else do
          let (body, rest') ← go breakRest .text rest
          return ('\n' :: body, rest')
      else if let some closed := closing? '"' (c :: rest) then some closed
      else if c = '\\' then
        match escape rest with
        | some (d, _) => do
          let (body, rest') ← go (escapeLength (rest.headD ' ')) .text rest
          return (d :: body, rest')
        | none => go 0 .lineEnd rest
      else if isPlain c then do
        let (body, rest') ← go 0 .text rest
        return (c :: body, rest')
      else none

/-- Takes a string of several lines without escapes up to its closing quotes. -/
def literalLines (cs : List Char) : Option (List Char × List Char) :=
  go 0 cs
where
  /-- Passes over `skip` characters first. -/
  go : Nat → List Char → Option (List Char × List Char)
    | _, [] => none
    | skip + 1, _ :: rest => go skip rest
    | 0, c :: rest =>
      if c = '\n' || (c = '\r' && rest.head? = some '\n') then do
        let (body, rest') ← go (if c = '\n' then 0 else 1) rest
        return ('\n' :: body, rest')
      else if let some closed := closing? '\'' (c :: rest) then some closed
      else if isPlain c then do
        let (body, rest') ← go 0 rest
        return (c :: body, rest')
      else none

/-- Takes a string on one line with its quotes. -/
def quoted : Reader String
  | '"' :: rest => (basicBody rest).map fun (body, rest) => (String.ofList body, rest)
  | '\'' :: rest => (literalBody rest).map fun (body, rest) => (String.ofList body, rest)
  | _ => none

/-- Takes a string with its quotes, three of which stand on either side of several lines. -/
def stringValue : Reader String
  | '"' :: '"' :: '"' :: rest =>
    (basicLines (skipLineBreak rest)).map fun (body, rest) => (String.ofList body, rest)
  | '\'' :: '\'' :: '\'' :: rest =>
    (literalLines (skipLineBreak rest)).map fun (body, rest) => (String.ofList body, rest)
  | cs => quoted cs

end Toml

end EventPipeline
