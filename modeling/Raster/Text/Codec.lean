import Raster.Geometry.Clip
import Raster.Loader
import Raster.Text.Decimal
import Raster.Text.Number
import Raster.Tint

/-!
JSON forms of the library's values. A structure is an object with its fields in any order, or an
array of them in order; an enumeration is a name, or an object with that name and null.
-/

namespace Raster.Text

def keyTexts : List (Option String × Json) → Option (List (String × Json))
  | [] => some []
  | (key, value) :: later =>
      match key, keyTexts later with
      | some text, some rest => some ((text, value) :: rest)
      | _, _ => none

def valuesOf (key : String) (members : List (String × Json)) : List Json :=
  (members.filter fun member => member.1 == key).map Prod.snd

def required (key : String) (members : List (String × Json)) : Option Json :=
  match valuesOf key members with
  | [value] => some value
  | _ => none

/-- The values of a structure's fields, in order; other keys are left alone. -/
def fields? (names : List String) : Json → Option (List Json)
  | .array items => if items.length = names.length then some items else none
  | .object members => do
      let members ← keyTexts members
      names.mapM fun name => required name members
  | _ => none

def name? : Json → Option String
  | .string text => text
  | .object [(key, .null)] => key
  | _ => none

def single? : Json → Option Float32
  | .number literal => literal.toFloat32?
  | _ => none

def double? : Json → Option Float
  | .number literal => literal.toFloat?
  | _ => none

def natBelow? (bound : Nat) : Json → Option Nat
  | .number literal => literal.toNatBelow? bound
  | _ => none

def member (key value : String) : String := "\"" ++ key ++ "\":" ++ value

def object (members : List String) : String := "\x7b" ++ ",".intercalate members ++ "\x7d"

def quoted (name : String) : String := "\"" ++ name ++ "\""

def doubleText (value : Float) : String :=
  (Decimal.ofBits? Decimal.double value.toBits.toNat).getD "null"

def singleText (value : Float32) : String :=
  (Decimal.ofBits? Decimal.single value.toBits.toNat).getD "null"

end Raster.Text

namespace Raster

namespace Pixel

def ofJson? (json : Text.Json) : Option Pixel :=
  (Text.natBelow? UInt32.size json).map fun word => ⟨UInt32.ofNat word⟩

def toJson (pixel : Pixel) : String := toString pixel.word.toNat

end Pixel

namespace Tint

def ofJson? (json : Text.Json) : Option Tint := do
  match (← Text.fields? ["a", "r", "g", "b"] json) with
  | [alpha, red, green, blue] =>
      return ⟨← Text.single? alpha, ← Text.single? red, ← Text.single? green, ← Text.single? blue⟩
  | _ => none

def toJson (tint : Tint) : String :=
  Text.object [Text.member "a" (Text.singleText tint.alpha),
    Text.member "r" (Text.singleText tint.red), Text.member "g" (Text.singleText tint.green),
    Text.member "b" (Text.singleText tint.blue)]

end Tint

namespace Point

def ofJson? (json : Text.Json) : Option (Point Float) := do
  match (← Text.fields? ["x", "y"] json) with
  | [x, y] => return ⟨← Text.double? x, ← Text.double? y⟩
  | _ => none

def toJson (point : Point Float) : String :=
  Text.object [Text.member "x" (Text.doubleText point.x), Text.member "y" (Text.doubleText point.y)]

end Point

namespace QuadTexture

def ofJson? (json : Text.Json) : Option (QuadTexture Float) := do
  match (← Text.fields? ["tl", "tr", "bl", "br"] json) with
  | [topLeft, topRight, bottomLeft, bottomRight] =>
      return ⟨← Point.ofJson? topLeft, ← Point.ofJson? topRight, ← Point.ofJson? bottomLeft,
        ← Point.ofJson? bottomRight⟩
  | _ => none

def toJson (texture : QuadTexture Float) : String :=
  Text.object [Text.member "tl" texture.topLeft.toJson, Text.member "tr" texture.topRight.toJson,
    Text.member "bl" texture.bottomLeft.toJson, Text.member "br" texture.bottomRight.toJson]

end QuadTexture

namespace ImageFormat

def ofName? (name : String) : Option ImageFormat :=
  [ImageFormat.png, .jpeg, .dib, .unknown].find? fun format => format.name == name

def ofJson? (json : Text.Json) : Option ImageFormat := (Text.name? json).bind ofName?

def toJson (format : ImageFormat) : String := Text.quoted format.name

end ImageFormat

namespace PngMode

def name : PngMode → String
  | .replace => "Replace"
  | .overlayAlpha => "OverlayAlpha"

def ofName? (name : String) : Option PngMode :=
  [PngMode.replace, .overlayAlpha].find? fun mode => mode.name == name

def ofJson? (json : Text.Json) : Option PngMode := (Text.name? json).bind ofName?

def toJson (mode : PngMode) : String := Text.quoted mode.name

end PngMode

namespace Transparency

def name : Transparency → String
  | .solid => "Opaque"
  | .translucent => "Transparent"

def ofName? (name : String) : Option Transparency :=
  [Transparency.solid, .translucent].find? fun transparency => transparency.name == name

def ofJson? (json : Text.Json) : Option Transparency := (Text.name? json).bind ofName?

def toJson (transparency : Transparency) : String := Text.quoted transparency.name

end Transparency

namespace Limits

def key : String := "max_decode_bytes"

def ofValue? (json : Text.Json) : Option Limits :=
  (Text.natBelow? UInt64.size json).map fun limit => ⟨UInt64.ofNat limit⟩

/-- The option is taken from an object without other keys or from an array, else the standard. -/
def ofJson? : Text.Json → Option Limits
  | .array [] => some standard
  | .array [value] => ofValue? value
  | .object [] => some standard
  | .object [(some name, value)] => if name = key then ofValue? value else none
  | _ => none

def ofText (format : Text.Format) (text : String) : Except Failure Limits :=
  match format.readAs? ofJson? text with
  | some limits => .ok limits
  | none => .error (.refused (.during .optionsText))

def toJson (limits : Limits) : Text.Json :=
  .object [(some key, .number (.ofNat limits.maxDecodeBytes.toNat))]

def toText (format : Text.Format) (limits : Limits) : String := format.write limits.toJson

end Limits

end Raster
