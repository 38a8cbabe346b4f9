/-!
Shortest decimal text of binary floats: the fewest digits that read back as the same float, and of
those the nearest to it. Whole numbers keep a zero behind the point; very large and very small
numbers are written with an exponent.
-/

namespace Raster.Text.Decimal

structure Format where
  mantissaBits : Nat
  exponentBits : Nat
  /-- Positional below this many digits before the point. -/
  wholeDigits : Int
  /-- Positional with fewer than this many zeros behind the point. -/
  leadingZeros : Int

def double : Format := ⟨52, 11, 16, 5⟩

def single : Format := ⟨23, 8, 13, 6⟩

/-- A finite float that is not zero: `mantissa * 2 ^ exponent`, with its neighbours' distances. -/
structure Finite where
  mantissa : Nat
  exponent : Int
  /-- The float below is only half as far away as the one above. -/
  narrow : Bool

def fields (format : Format) (bits : Nat) : Bool × Nat × Nat :=
  ((bits >>> (format.mantissaBits + format.exponentBits)) % 2 == 1,
    (bits >>> format.mantissaBits) % (1 <<< format.exponentBits),
    bits % (1 <<< format.mantissaBits))

def ofFields (format : Format) (exponent mantissa : Nat) : Finite :=
  let lowest : Int := 2 - (1 <<< (format.exponentBits - 1) : Nat) - format.mantissaBits
  if exponent = 0 then ⟨mantissa, lowest, false⟩
  else
    ⟨(1 <<< format.mantissaBits) + mantissa, lowest + (exponent - 1 : Nat),
      mantissa = 0 ∧ 1 < exponent⟩

def quarters (count : Nat) (exponent : Int) : Nat × Nat :=
  if 2 ≤ exponent then (count <<< (exponent - 2).toNat, 1)
  else (count, 1 <<< (2 - exponent).toNat)

/-- The multiple of a power of ten nearest to a float, if one reads back as it. -/
def nearest? (float : Finite) (power : Int) : Option Nat :=
  let (value, below) := quarters (4 * float.mantissa) float.exponent
  let (low, _) := quarters (4 * float.mantissa - if float.narrow then 1 else 2) float.exponent
  let (high, _) := quarters (4 * float.mantissa + 2) float.exponent
  let above := Nat.pow 10 (-power).toNat
  let scaled (count : Nat) := count * above
  let unit := below * Nat.pow 10 power.toNat
  let inside := float.mantissa % 2 == 0
  let first := if inside then (scaled low + unit - 1) / unit else scaled low / unit + 1
  let last := if inside then scaled high / unit else (scaled high + unit - 1) / unit - 1
  let floor := scaled value / unit
  let rest := scaled value % unit
  let rounded := if 2 * rest < unit ∨ (2 * rest = unit ∧ floor % 2 = 0) then floor else floor + 1
  if first ≤ last then some (max first (min last rounded)) else none

def search (float : Finite) : Nat → Int → Nat × Int
  | 0, power => (0, power)
  | fuel + 1, power =>
      match nearest? float power with
      | some digits => if digits = 0 then search float fuel (power - 1) else (digits, power)
      | none => search float fuel (power - 1)

def shortest (float : Finite) : Nat × Int := search float 700 330

def zeros (count : Int) : String := String.ofList (List.replicate count.toNat '0')

def render (format : Format) (digits : Nat) (power : Int) : String :=
  let text := (toString digits).toList
  let point : Int := text.length + power
  if 0 ≤ power ∧ point ≤ format.wholeDigits then
    String.ofList text ++ zeros power ++ ".0"
  else if 0 < point ∧ point ≤ format.wholeDigits then
    String.ofList (text.take point.toNat) ++ "." ++ String.ofList (text.drop point.toNat)
  else if -format.leadingZeros < point ∧ point ≤ 0 then
    "0." ++ zeros (-point) ++ String.ofList text
  else
    let head := String.ofList (text.take 1)
    let tail := if text.length = 1 then "" else "." ++ String.ofList (text.drop 1)
    head ++ tail ++ "e" ++ toString (point - 1)

def ofBits? (format : Format) (bits : Nat) : Option String :=
  let (negative, exponent, mantissa) := fields format bits
  let sign := if negative then "-" else ""
  if exponent = (1 <<< format.exponentBits) - 1 then none
  else if exponent = 0 ∧ mantissa = 0 then some (sign ++ "0.0")
  else
    let (digits, power) := shortest (ofFields format exponent mantissa)
    some (sign ++ render format digits power)

end Raster.Text.Decimal
