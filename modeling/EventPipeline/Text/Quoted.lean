import EventPipeline.Text.Hidden

namespace EventPipeline

/-!
# Characters between quotes

* `hexDigits` — a number in base sixteen.
* `quotedChar` — a character between single quotes, with an escape where it could not be read.
-/

/-- The digits of a number in base sixteen, small letters for the digits from ten. -/
def hexDigits (n : Nat) : String := String.ofList (Nat.toDigits 16 n)

/-- A character between single quotes. The backslash, the single quote and four controls have an
    escape of their own, and a character that shows nothing is written as its code point. -/
def quotedChar (c : Char) : String :=
  "'" ++ body ++ "'"
where
  /-- What stands between the quotes. -/
  body : String :=
    if c = '\\' then "\\\\"
    else if c = '\'' then "\\'"
    else if c = '\t' then "\\t"
    else if c = '\n' then "\\n"
    else if c = '\r' then "\\r"
    else if c = '\x00' then "\\0"
    else if isHidden c then "\\u\x7b" ++ hexDigits c.toNat ++ "\x7d"
    else c.toString

end EventPipeline
