import Raster.Text.Json

/-!
What number literals stand for. Whole numbers of up to 64 bits are exact. Anything else is a float
made of a significand of up to 64 bits, further digits being dropped, and one multiplication or
division by a power of ten.
-/

namespace Raster.Text

namespace NumberLiteral

def ofNat (number : Nat) : NumberLiteral :=
  ⟨false, (Nat.toDigits 10 number).map fun char => char.toNat - 48, [], none⟩

def isWhole (literal : NumberLiteral) : Bool :=
  literal.fraction.isEmpty && literal.exponent.isNone

def numberOf (digits : List Nat) : Nat := digits.foldl (fun sum digit => sum * 10 + digit) 0

def significandBound : Nat := UInt64.size

def toNatBelow? (bound : Nat) (literal : NumberLiteral) : Option Nat :=
  if literal.isWhole ∧ literal.negative = false ∧ numberOf literal.whole < bound then
    some (numberOf literal.whole)
  else none

/-- Adds digits of the whole part; from the first that does not fit, digits are only counted. -/
def addWhole : List Nat → Nat → Nat × Int
  | [], significand => (significand, 0)
  | digit :: rest, significand =>
      if significand * 10 + digit < significandBound then
        addWhole rest (significand * 10 + digit)
      else (significand, rest.length + 1)

def addFraction : List Nat → Nat → Int → Nat × Int
  | [], significand, exponent => (significand, exponent)
  | digit :: rest, significand, exponent =>
      if significand * 10 + digit < significandBound then
        addFraction rest (significand * 10 + digit) (exponent - 1)
      else (significand, exponent)

def parts (literal : NumberLiteral) : Nat × Int :=
  let (significand, exponent) := addWhole literal.whole 0
  addFraction literal.fraction significand exponent

def powerOfTen (exponent : Nat) : Float := Float.ofScientific 1 false exponent

def largestPower : Nat := 308

def divideByPower : Nat → Float → Nat → Float
  | 0, value, _ => value
  | fuel + 1, value, exponent =>
      if exponent ≤ largestPower then value / powerOfTen exponent
      else if value == 0.0 then value
      else divideByPower fuel (value / powerOfTen largestPower) (exponent - largestPower)

def scale? (significand : Nat) (exponent : Int) : Option Float :=
  let value := (UInt64.ofNat significand).toFloat
  if 0 ≤ exponent then
    if exponent.toNat ≤ largestPower then
      let scaled := value * powerOfTen exponent.toNat
      if scaled.isInf then none else some scaled
    else if significand = 0 then some value
    else none
  else some (divideByPower 5 value (-exponent).toNat)

def largestExponent : Nat := 2147483647

def magnitude? (literal : NumberLiteral) : Option Float :=
  let (significand, exponent) := literal.parts
  match literal.exponent with
  | none => scale? significand exponent
  | some (negative, digits) =>
      let written := numberOf digits
      if largestExponent < written then
        if significand ≠ 0 ∧ negative = false then none else some 0.0
      else if negative then scale? significand (exponent - written)
      else scale? significand (exponent + written)

def toFloat? (literal : NumberLiteral) : Option Float :=
  literal.magnitude?.map fun value => if literal.negative then -value else value

/-- Whether a literal is kept as a whole number of 64 bits, which has no negative zero. -/
def isExact (literal : NumberLiteral) : Bool :=
  let value := numberOf literal.whole
  literal.isWhole &&
    (if literal.negative then value != 0 && value ≤ 1 <<< 63 else value < significandBound)

/-- Whole numbers are rounded once; other numbers by way of a double. -/
def toFloat32? (literal : NumberLiteral) : Option Float32 :=
  if literal.isExact then
    let value := (UInt64.ofNat (numberOf literal.whole)).toFloat32
    some (if literal.negative then -value else value)
  else literal.toFloat?.map Float.toFloat32

end NumberLiteral

end Raster.Text
