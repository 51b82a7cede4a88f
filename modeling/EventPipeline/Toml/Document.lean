import EventPipeline.Toml.Value

namespace EventPipeline

/-!
# TOML documents

* `Toml.Statement` — what a line of a document says.
* `Toml.statements` — the lines of a document.
* `Toml.Statement.apply` — what a line does to the tables read so far.
* `Toml.parse?` — the tables of a document.
-/

namespace Toml

/-- What a line of a document says. -/
inductive Statement where
  /-- A key with its value. -/
  | keyValue (path : Path) (item : Item)
  /-- The header of a table. -/
  | table (path : Path)
  /-- The header of a new element of an array of tables. -/
  | element (path : Path)

/-- Takes the statement of a line, if the line has one. -/
def statement : Reader (Option Statement)
  | '[' :: '[' :: cs => do
    let (path, rest) ← keyPath depthLimit cs
    let (_, rest) ← expect ']' rest
    let (_, rest) ← expect ']' rest
    return (some (.element path), rest)
  | '[' :: cs => do
    let (path, rest) ← keyPath depthLimit cs
    let (_, rest) ← expect ']' rest
    return (some (.table path), rest)
  | cs =>
    match lineEnd cs with
    | some _ => some (none, cs)
    | none => do
      let ((path, item), rest) ← keyValue (value depthLimit) cs
      return (some (.keyValue path item), rest)

/-- Takes a line with its end. -/
def line : Reader (Option Statement) := fun cs => do
  let (statement?, rest) ← statement (skipBlanks cs)
  let (_, rest) ← lineEnd rest
  return (statement?, rest)

/-- The statements of at most `limit` lines that make up a text. -/
def lines : (limit : Nat) → List Char → Option (List Statement)
  | _, [] => some []
  | 0, _ => none
  | limit + 1, cs => do
    let (statement?, rest) ← line cs
    return statement?.toList ++ (← lines limit rest)

/-- The statements of a document. Each line takes a character, so there are no more lines than
    characters. A mark of the byte order at the front is passed over. -/
def statements (cs : List Char) : Option (List Statement) :=
  match cs with
  | '\ufeff' :: rest => lines rest.length rest
  | _ => lines cs.length cs

/-- The tables read so far, with the keys that lead to the one of the latest header. -/
structure Progress where
  /-- The keys that lead to the table that the next key belongs to. -/
  current : List String := []
  /-- The outermost table. -/
  root : Entries := []

/-- What a statement does to the tables read so far. -/
def Statement.apply (p : Progress) : Statement → Option Progress
  | .keyValue path item => do
    let root ← Entries.modifyAt p.current (Entries.insertAt path.parents path.key item) p.root
    return { p with root }
  | .table path => do
    let root ← Entries.modifyAt path.parents (Entries.openTable path.key) p.root
    return { root, current := path.parents ++ [path.key] }
  | .element path => do
    let root ← Entries.modifyAt path.parents (Entries.openElement path.key) p.root
    return { root, current := path.parents ++ [path.key] }

/-- The outermost table of a document, if the text is one. -/
def parse? (text : String) : Option Entries := do
  let progress ← (← statements text.toList).foldlM Statement.apply {}
  return progress.root

end Toml

end EventPipeline
