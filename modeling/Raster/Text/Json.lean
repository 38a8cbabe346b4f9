/-!
JSON texts as values. Number literals are kept digit by digit, since what they may stand for
depends on where they are used; a string keeps no text if its escapes do not make up characters.
Texts are read and written by a format that is not part of the library.
-/

namespace Raster.Text

/-- A number as it is written; no digits stand for a part that is absent. -/
structure NumberLiteral where
  negative : Bool
  whole : List Nat
  fraction : List Nat
  /-- Sign and digits of the exponent; the sign is true for a negative one. -/
  exponent : Option (Bool × List Nat)
deriving DecidableEq, Repr

inductive Json where
  | null
  | bool (value : Bool)
  | number (literal : NumberLiteral)
  | string (text : Option String)
  | array (items : List Json)
  | object (members : List (Option String × Json))

namespace Json

inductive Piece where
  | char (value : Char)
  | unit (code : Nat)
deriving DecidableEq, Repr

end Json

/-- What turns texts into values, and values into texts. A text that stands for none is not read. -/
structure Format where
  read : String → Option Json
  write : Json → String

def Format.readAs? {α : Type} (format : Format) (ofJson? : Json → Option α) (text : String) :
    Option α :=
  (format.read text).bind ofJson?

end Raster.Text
