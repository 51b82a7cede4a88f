namespace EventPipeline

/-!
# Floating-point numbers as whole pixels

Platforms report coordinates as floating-point numbers, the pipeline counts whole pixels. The
fraction is cut off, a number beyond the range of 32 bits becomes the nearest end of the range,
and what is not a number becomes `0`.

* `BinaryFormat.truncate` — the rule, on the bits of a number in a binary interchange format.
* `truncateSingle`, `truncateDouble` — the rule for the two formats in use.
-/

/-- The layout of a binary interchange format: one sign bit, then the exponent, then the
    fraction. -/
structure BinaryFormat where
  /-- How many bits the exponent has. -/
  exponentBits : Nat
  /-- How many bits the fraction has. -/
  fractionBits : Nat
deriving DecidableEq, Repr

namespace BinaryFormat

/-- The format of 32 bits. -/
def single : BinaryFormat := ⟨8, 23⟩

/-- The format of 64 bits. -/
def double : BinaryFormat := ⟨11, 52⟩

/-- The exponent at which the fraction counts units. -/
def unitExponent (f : BinaryFormat) : Nat :=
  (1 <<< (f.exponentBits - 1)) - 1 + f.fractionBits

/-- Whether the sign bit is set. -/
def isNegative (f : BinaryFormat) (bits : Nat) : Bool :=
  bits.testBit (f.exponentBits + f.fractionBits)

/-- The exponent as it is stored. -/
def exponent (f : BinaryFormat) (bits : Nat) : Nat :=
  (bits >>> f.fractionBits) % (1 <<< f.exponentBits)

/-- The fraction as it is stored. -/
def fraction (f : BinaryFormat) (bits : Nat) : Nat := bits % (1 <<< f.fractionBits)

/-- Whether the bits stand for no number. -/
def isNaN (f : BinaryFormat) (bits : Nat) : Bool :=
  f.exponent bits == (1 <<< f.exponentBits) - 1 && f.fraction bits != 0

/-- The whole part of the absolute value. The greatest exponent is read like the others, so an
    infinity has a whole part beyond every finite one. -/
def wholePart (f : BinaryFormat) (bits : Nat) : Nat :=
  let exponent := f.exponent bits
  let significand :=
    if exponent = 0 then f.fraction bits else (1 <<< f.fractionBits) + f.fraction bits
  let scale := max exponent 1
  if f.unitExponent ≤ scale then significand <<< (scale - f.unitExponent)
  else significand >>> (f.unitExponent - scale)

/-- The whole number nearest to `n` that 32 bits can hold. -/
def saturate (n : Int) : Int32 := Int32.ofInt (max (-2147483648) (min n 2147483647))

/-- The number without its fraction, held within 32 bits. -/
def truncate (f : BinaryFormat) (bits : Nat) : Int32 :=
  if f.isNaN bits then 0
  else if f.isNegative bits then saturate (-(f.wholePart bits : Int))
  else saturate (f.wholePart bits)

end BinaryFormat

/-- A number in single precision without its fraction, held within 32 bits. -/
def truncateSingle (x : Float32) : Int32 := BinaryFormat.single.truncate x.toBits.toNat

/-- A number in double precision without its fraction, held within 32 bits. -/
def truncateDouble (x : Float) : Int32 := BinaryFormat.double.truncate x.toBits.toNat

end EventPipeline
