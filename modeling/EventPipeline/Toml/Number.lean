namespace EventPipeline

/-!
# Numbers of a TOML document

Single underscores may stand between the digits of a number. Whole numbers must fit in 64 bits
with a sign, in base ten with an optional sign and without leading zeros, or in base two, eight or
sixteen after `0b`, `0o` or `0x`.

* `Toml.separated?` — digits without their underscores.
* `Toml.integer?` — the value of a whole number.
* `Toml.isFloat` — whether a text writes a floating-point number.
-/

namespace Toml

/-- The digits of a number without the underscores between them. -/
def separated? (isDigit : Char → Bool) : List Char → Option (List Char)
  | [] => none
  | [c] => if isDigit c then some [c] else none
  | c :: '_' :: rest => if isDigit c then (separated? isDigit rest).map (c :: ·) else none
  | c :: rest => if isDigit c then (separated? isDigit rest).map (c :: ·) else none

/-- The value of a digit, be it a decimal one or a letter. -/
def digitValue (c : Char) : Nat :=
  if c.isDigit then c.toNat - '0'.toNat else c.toLower.toNat - 'a'.toNat + 10

/-- The number that digits write in a base, the first digit counting most. -/
def ofDigits (base : Nat) (digits : List Char) : Nat :=
  digits.foldl (fun n c => base * n + digitValue c) 0

/-- The digits of a decimal number without leading zeros. -/
def decimalDigits? (cs : List Char) : Option (List Char) :=
  match separated? Char.isDigit cs with
  | some ('0' :: _ :: _) => none
  | digits? => digits?

/-- Whether a number is negative, and what follows its sign. -/
def splitSign : List Char → Bool × List Char
  | '-' :: rest => (true, rest)
  | '+' :: rest => (false, rest)
  | cs => (false, cs)

/-- Whether a character is a digit in base eight. -/
def isOctalDigit (c : Char) : Bool := '0' ≤ c && c ≤ '7'

/-- Whether a character is a digit in base two. -/
def isBinaryDigit (c : Char) : Bool := c = '0' || c = '1'

/-- Whether a character is a digit in base sixteen. -/
def isHexDigit (c : Char) : Bool :=
  c.isDigit || ('a' ≤ c && c ≤ 'f') || ('A' ≤ c && c ≤ 'F')

/-- The value of a whole number, be it too great for 64 bits or not. -/
def unboundedInteger? : List Char → Option Int
  | '0' :: 'x' :: cs => (separated? isHexDigit cs).map fun ds => (ofDigits 16 ds : Int)
  | '0' :: 'o' :: cs => (separated? isOctalDigit cs).map fun ds => (ofDigits 8 ds : Int)
  | '0' :: 'b' :: cs => (separated? isBinaryDigit cs).map fun ds => (ofDigits 2 ds : Int)
  | cs =>
    let (negative, body) := splitSign cs
    (decimalDigits? body).map fun ds =>
      if negative then -(ofDigits 10 ds : Int) else ofDigits 10 ds

/-- The value of a whole number that fits in 64 bits with a sign. -/
def integer? (cs : List Char) : Option Int :=
  (unboundedInteger? cs).filter fun n =>
    -9223372036854775808 ≤ n && n ≤ 9223372036854775807

/-! ### Floating-point numbers -/

/-- The exponent at the end of a floating-point number, `0` if there is none. -/
def exponent? : List Char → Option Int
  | [] => some 0
  | e :: cs =>
    if e = 'e' || e = 'E' then
      let (negative, body) := splitSign cs
      (separated? Char.isDigit body).map fun ds =>
        if negative then -(ofDigits 10 ds : Int) else ofDigits 10 ds
    else none

/-- The digits of a floating-point number with its exponent once the point is moved behind the
    last digit. There is a fraction, an exponent, or both. -/
def significand? (cs : List Char) : Option (List Char × Int) := do
  let inPart := fun c : Char => c.isDigit || c = '_'
  let whole ← decimalDigits? (cs.takeWhile inPart)
  match cs.dropWhile inPart with
  | [] => none
  | '.' :: rest =>
    let fraction ← separated? Char.isDigit (rest.takeWhile inPart)
    let exponent ← exponent? (rest.dropWhile inPart)
    return (whole ++ fraction, exponent - fraction.length)
  | rest => return (whole, ← exponent? rest)

/-- The least number that double precision rounds to infinity. -/
def overflowBound : Nat := (1 <<< 1024) - (1 <<< 970)

/-- Whether `n * 10 ^ exponent` is too great for double precision. An exponent that alone decides
    the matter is not raised to. -/
def overflows (n : Nat) (exponent : Int) : Bool :=
  let magnitude : Int := (Nat.toDigits 10 n).length + exponent
  if n = 0 || magnitude < 300 then false
  else if 320 < magnitude then true
  else if 0 ≤ exponent then overflowBound ≤ n * Nat.pow 10 exponent.toNat
  else overflowBound * Nat.pow 10 (-exponent).toNat ≤ n

/-- Whether a text writes a floating-point number: an infinity, no number, or a decimal fraction
    that does not exceed double precision upwards. -/
def isFloat (cs : List Char) : Bool :=
  let (negative, body) := splitSign cs
  if body = ['i', 'n', 'f'] || body = ['n', 'a', 'n'] then true
  else match significand? body with
    | some (digits, exponent) => negative || !overflows (ofDigits 10 digits) exponent
    | none => false

end Toml

end EventPipeline
