import Raster.Backend.Jpeg.Transform

/-!
Stretching component planes to the size of the image, and turning component samples into colours.
-/

namespace Raster.Backend.Jpeg

namespace Upsample

def mix (near far : UInt8) : UInt8 := ((3 * near.toNat + far.toNat + 2) / 4).toUInt8

def farRow (row height : Nat) : Nat :=
  if row % 2 = 0 then row / 2 - 1 else min (row / 2 + 1) (height - 1)

def doubled (source : Nat → UInt8) (width column : Nat) : UInt8 :=
  if width = 1 ∨ column = 0 then source 0
  else if column = 2 * width - 1 then source (width - 1)
  else if column % 2 = 0 then mix (source (column / 2)) (source (column / 2 - 1))
  else mix (source (column / 2)) (source (column / 2 + 1))

def doubledSums (sums : Nat → Nat) (width column : Nat) : UInt8 :=
  if width = 1 ∨ column = 0 then ((sums 0 + 2) / 4).toUInt8
  else if column = 2 * width - 1 then ((sums (width - 1) + 2) / 4).toUInt8
  else
    let near := sums (column / 2)
    let far := if column % 2 = 0 then sums (column / 2 - 1) else sums (column / 2 + 1)
    ((3 * near + far + 8) / 16).toUInt8

def sample (plane : Plane) (component : Component) (upsampling : Upsampling)
    (row column : Nat) : UInt8 :=
  match upsampling.horizontal, upsampling.vertical with
  | .same, .same => plane.sample row column
  | .double, .same => doubled (plane.sample row) component.width column
  | .same, .double =>
      mix (plane.sample (row / 2) column) (plane.sample (farRow row component.height) column)
  | .double, .double =>
      let far := farRow row component.height
      doubledSums
        (fun place => 3 * (plane.sample (row / 2) place).toNat + (plane.sample far place).toNat)
        component.width column
  | .repeated across, .repeated down => plane.sample (row / down) (column / across)
  | _, _ => 0

end Upsample

inductive ColourModel where
  | direct
  | luminance
deriving DecidableEq, Repr

def clampFixed (value : Int) : UInt8 :=
  (max 0 (min 255 (value / 1048576))).toNat.toUInt8

def colourOfLuminance (brightness blueness redness : UInt8) : UInt8 × UInt8 × UInt8 :=
  let y : Int := brightness.toNat * 1048576 + 524288
  let cb : Int := (blueness.toNat : Int) - 128
  let cr : Int := (redness.toNat : Int) - 128
  (clampFixed (y + 1470104 * cr), clampFixed (y - 360857 * cb - 748830 * cr),
    clampFixed (y + 1858077 * cb))

def ColourModel.choose? (identifiers : List UInt8) (notes : Notes) : Option ColourModel :=
  if identifiers = [1, 2, 3] then some .luminance
  else if identifiers = [82, 71, 66] then some .direct
  else if identifiers = [1, 34, 35] ∨ identifiers = [114, 103, 98] then none
  else if notes.jfif then some .luminance
  else
    match notes.adobe with
    | some transform =>
        if transform = 0 then some .direct
        else if transform = 1 then some .luminance
        else none
    | none => some .luminance

end Raster.Backend.Jpeg
