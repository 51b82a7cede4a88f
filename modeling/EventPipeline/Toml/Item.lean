namespace EventPipeline

/-!
# The tables of a TOML document

* `Toml.Item` — what can stand for a key: a value, a table, or an array of tables.
* `Toml.Entries` — the keys of a table with what stands for them, in the order of the document.
* `Toml.Entries.insertAt` — adding a value under a dotted key.
* `Toml.Entries.modifyAt`, `Toml.Entries.openTable`, `Toml.Entries.openElement` — reaching the
  table of a header, and making it.
-/

namespace Toml

/-- How a table came into being, which decides who may add to it. -/
inductive Origin where
  /-- By a header of its own. -/
  | header
  /-- By a longer header, so that its own header may still come. -/
  | implied
  /-- By a dotted key. -/
  | dotted
deriving DecidableEq, Repr

/-- What can stand for a key. Numbers and times that nobody computes with are kept as written. -/
inductive Item where
  /-- A text. -/
  | string (text : String)
  /-- A whole number. -/
  | integer (n : Int)
  /-- A floating-point number, as written. -/
  | float (literal : String)
  /-- A truth value. -/
  | boolean (b : Bool)
  /-- A date, a time of day, or both, as written. -/
  | dateTime (literal : String)
  /-- An array of values. -/
  | array (items : List Item)
  /-- A table written as a value, to which nothing can be added. -/
  | inlineTable (entries : List (String × Item))
  /-- A table. -/
  | table (origin : Origin) (entries : List (String × Item))
  /-- An array of tables: the newest one, and the older ones with the newest first. -/
  | tableArray (newest : List (String × Item)) (older : List (List (String × Item)))

/-- The keys of a table with what stands for them. -/
abbrev Entries := List (String × Item)

/-- A key with the tables that lead to it. -/
structure Path where
  /-- The keys of the tables, the outermost first. -/
  parents : List String
  /-- The key itself. -/
  key : String
deriving DecidableEq, Repr

namespace Entries

/-- Puts an item in the place of the one that stands for a key. -/
def replace (es : Entries) (key : String) (item : Item) : Entries :=
  es.map fun entry => if entry.1 = key then (key, item) else entry

/-- Adds an item under a key, if nothing stands for the key. -/
def insertNew (es : Entries) (key : String) (item : Item) : Option Entries :=
  match es.lookup key with
  | none => some (es ++ [(key, item)])
  | some _ => none

/-- Adds an item under a dotted key. The tables on the way come into being with the key. Those
    there already may only be passed through if no header defined them, and only a table made by
    dotted keys may take the item. -/
def insertAt : List String → String → Item → Entries → Option Entries
  | [], key, item, es => es.insertNew key item
  | parent :: rest, key, item, es =>
    match es.lookup parent with
    | none => do
      let inner ← insertAt rest key item []
      return es ++ [(parent, .table .dotted inner)]
    | some (.table .dotted inner) => do
      return es.replace parent (.table .dotted (← insertAt rest key item inner))
    | some (.table .implied inner) =>
      if rest.isEmpty then none
      else return es.replace parent (.table .implied (← insertAt rest key item inner))
    | some (.tableArray newest older) =>
      if rest.isEmpty then none
      else return es.replace parent (.tableArray (← insertAt rest key item newest) older)
    | some _ => none

/-- Changes the entries of the table that the given keys lead to. Tables that are missing on the
    way are implied, and an array of tables is entered at its newest one. -/
def modifyAt : List String → (Entries → Option Entries) → Entries → Option Entries
  | [], f, es => f es
  | key :: rest, f, es =>
    match es.lookup key with
    | none => do
      let inner ← modifyAt rest f []
      return es ++ [(key, .table .implied inner)]
    | some (.table origin inner) => do
      return es.replace key (.table origin (← modifyAt rest f inner))
    | some (.tableArray newest older) => do
      return es.replace key (.tableArray (← modifyAt rest f newest) older)
    | some _ => none

/-- Makes the table of a header, which was missing or at most implied before. -/
def openTable (key : String) (es : Entries) : Option Entries :=
  match es.lookup key with
  | none => some (es ++ [(key, .table .header [])])
  | some (.table .implied inner) => some (es.replace key (.table .header inner))
  | some _ => none

/-- Makes a new element of an array of tables. -/
def openElement (key : String) (es : Entries) : Option Entries :=
  match es.lookup key with
  | none => some (es ++ [(key, .tableArray [] [])])
  | some (.tableArray newest older) => some (es.replace key (.tableArray [] (newest :: older)))
  | some _ => none

/-- The table that holds the given items under their dotted keys, if none of them is in the way of
    another. -/
def ofList (items : List (Path × Item)) : Option Entries :=
  items.foldlM (fun es (path, item) => insertAt path.parents path.key item es) []

end Entries

end Toml

end EventPipeline
