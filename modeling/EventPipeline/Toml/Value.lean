import EventPipeline.Toml.DateTime
import EventPipeline.Toml.Item
import EventPipeline.Toml.Number
import EventPipeline.Toml.Quoted

namespace EventPipeline

/-!
# Keys and values of a TOML document

* `Toml.keyPath` — a dotted key.
* `Toml.scalar` — a value that holds no other values.
* `Toml.value` — a value. Arrays and inline tables may be nested to a limited depth.
-/

namespace Toml

/-! ### Keys -/

/-- Whether a character may stand in a key without quotes. -/
def isBare (c : Char) : Bool := c.isAlphanum || c = '-' || c = '_'

/-- Takes a key, with quotes or without. -/
def simpleKey : Reader String := fun cs =>
  match cs.takeWhile isBare with
  | [] => quoted cs
  | key => some (String.ofList key, cs.dropWhile isBare)

/-- Takes a dotted key of at most `limit` parts with the blanks around it. -/
def keyPath : (limit : Nat) → Reader Path
  | 0, _ => none
  | limit + 1, cs => do
    let (key, rest) ← simpleKey (skipBlanks cs)
    match skipBlanks rest with
    | '.' :: rest => do
      let (path, rest) ← keyPath limit rest
      return ({ path with parents := key :: path.parents }, rest)
    | rest => return ({ parents := [], key }, rest)

/-- The greatest number of parts of a dotted key, and the greatest depth of a value. -/
def depthLimit : Nat := 79

/-! ### Values -/

/-- Whether a character may stand in a value without quotes. -/
def isToken (c : Char) : Bool := c.isAlphanum || c = '+' || c = '-' || c = '_' || c = '.' || c = ':'

/-- The value that is written without quotes and blanks. -/
def ofToken (token : List Char) : Option Item :=
  if token = ['t', 'r', 'u', 'e'] then some (.boolean true)
  else if token = ['f', 'a', 'l', 's', 'e'] then some (.boolean false)
  else match integer? token with
    | some n => some (.integer n)
    | none =>
      if isFloat token then some (.float (String.ofList token))
      else if isDateTime token then some (.dateTime (String.ofList token))
      else none

/-- Takes a value written without quotes. A day may be followed by a blank and a time. -/
def bareValue : Reader Item := fun cs =>
  let token := cs.takeWhile isToken
  let rest := cs.dropWhile isToken
  match rest with
  | ' ' :: d :: more =>
    if isDate token && d.isDigit then
      let time := (d :: more).takeWhile isToken
      if isZonedTime time then
        some (.dateTime (String.ofList (token ++ ' ' :: time)), (d :: more).dropWhile isToken)
      else none
    else (ofToken token).map (·, rest)
  | _ => (ofToken token).map (·, rest)

/-- Takes a value that holds no other values. -/
def scalar : Reader Item := fun cs =>
  match cs with
  | '"' :: _ | '\'' :: _ => (stringValue cs).map fun (text, rest) => (.string text, rest)
  | _ => bareValue cs

/-- Takes the values of an array up to its closing bracket, at most `limit` of them. A comma may
    stand behind the last one. -/
def arrayItems (element : Reader Item) : (limit : Nat) → Reader (List Item)
  | 0, _ => none
  | limit + 1, cs => do
    match ← skipFiller cs with
    | ']' :: rest => return ([], rest)
    | cs => do
      let (item, rest) ← element cs
      match ← skipFiller rest with
      | ',' :: rest => do
        let (items, rest) ← arrayItems element limit rest
        return (item :: items, rest)
      | ']' :: rest => return ([item], rest)
      | _ => none

/-- Takes a dotted key, the sign of equality, and a value. -/
def keyValue (element : Reader Item) : Reader (Path × Item) := fun cs => do
  let (path, rest) ← keyPath depthLimit cs
  let (_, rest) ← expect '=' rest
  let (item, rest) ← element (skipBlanks rest)
  return ((path, item), rest)

/-- Takes the keys and values of an inline table up to its closing brace, at least one and at most
    `limit` of them. -/
def inlineItems (element : Reader Item) : (limit : Nat) → Reader (List (Path × Item))
  | 0, _ => none
  | limit + 1, cs => do
    let (entry, rest) ← keyValue element cs
    match skipBlanks rest with
    | ',' :: rest => do
      let (entries, rest) ← inlineItems element limit rest
      return (entry :: entries, rest)
    | '\x7d' :: rest => return ([entry], rest)
    | _ => none

/-- Takes what follows the opening bracket of an array. Each value takes a character, so there are
    no more values than characters. -/
def array (element : Reader Item) : Reader Item := fun cs => do
  let (items, rest) ← arrayItems element (cs.length + 1) cs
  return (.array items, rest)

/-- Takes what follows the opening brace of an inline table. -/
def inlineTable (element : Reader Item) : Reader Item := fun cs =>
  match skipBlanks cs with
  | '\x7d' :: rest => some (.inlineTable [], rest)
  | cs => do
    let (entries, rest) ← inlineItems element cs.length cs
    return (.inlineTable (← Entries.ofList entries), rest)

/-- Takes a value in which arrays and inline tables are nested at most `depth` deep. -/
def value : (depth : Nat) → Reader Item
  | 0, cs => scalar cs
  | depth + 1, cs =>
    match cs with
    | '[' :: rest => array (value depth) rest
    | '\x7b' :: rest => inlineTable (value depth) rest
    | _ => scalar cs

end Toml

end EventPipeline
