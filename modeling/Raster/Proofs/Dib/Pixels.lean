import Raster.Dib.Decode
import Raster.Proofs.Dib.Header
import Raster.Proofs.Storage

/-!
Pixels of stored rows. A row of a described file is decoded to the colours that the description
gives its pixels, and goes to its place in the bitmap.
-/

namespace Raster

namespace Pixel

theorem colour_ofChannels (alpha red green blue : UInt8) :
    (ofChannels alpha red green blue).colour =
      ⟨alpha.toNat, red.toNat, green.toNat, blue.toNat⟩ := by
  simp only [colour, alpha_ofChannels, red_ofChannels, green_ofChannels, blue_ofChannels]

theorem colour_withAlpha (pixel : Pixel) (alpha : UInt8) :
    (pixel.withAlpha alpha).colour = { pixel.colour with alpha := alpha.toNat } := by
  simp only [colour, alpha_withAlpha, red_withAlpha, green_withAlpha, blue_withAlpha]

end Pixel

namespace Dib

variable {bytes : Array UInt8} {first length : Nat}

theorem getElem?_extract {index : Nat} (inside : index < length)
    (within : first + length ≤ bytes.size) :
    (bytes.extract first (first + length))[index]? =
      some (UInt8.ofNat (byteOf bytes (first + index))) := by
  have byte := byteAt_extract inside within
  rw [byteAt] at byte
  split at byte
  · rename_i value found
    rw [found]
    simpa using byte
  · simp at byte

theorem wordOf_eq (index : Nat) :
    wordOf bytes index = ((byteOf bytes (index + 3) * 256 + byteOf bytes (index + 2)) * 256 +
      byteOf bytes (index + 1)) * 256 + byteOf bytes index := by
  rw [wordOf, shortOf, shortOf, Nat.add_assoc index 2 1]
  omega

theorem shiftedBytes_eq (index : Nat) :
    (UInt8.ofNat (byteOf bytes index)).toUInt32 |||
      ((UInt8.ofNat (byteOf bytes (index + 1))).toUInt32 <<< 8) |||
      ((UInt8.ofNat (byteOf bytes (index + 2))).toUInt32 <<< 16) |||
      ((UInt8.ofNat (byteOf bytes (index + 3))).toUInt32 <<< 24) =
      UInt32.ofNat (wordOf bytes index) := by
  have low := byteOf_lt bytes index
  have second := byteOf_lt bytes (index + 1)
  have third := byteOf_lt bytes (index + 2)
  have high := byteOf_lt bytes (index + 3)
  rw [← UInt32.toNat_inj, UInt32.toNat_ofNat_of_lt' (wordOf_lt bytes index)]
  simp only [UInt32.toNat_or, UInt8.toNat_toUInt32]
  rw [Pixel.shiftLeft_toNat _ (by decide), Pixel.shiftLeft_toNat _ (by decide),
    Pixel.shiftLeft_toNat _ (by decide), UInt8.toNat_ofNat_of_lt' low,
    UInt8.toNat_ofNat_of_lt' second, UInt8.toNat_ofNat_of_lt' third,
    UInt8.toNat_ofNat_of_lt' high, Nat.or_comm, Nat.or_comm (byteOf bytes index ||| _),
    Nat.or_comm (byteOf bytes index), ← Nat.or_assoc, ← Nat.or_assoc, wordOf_eq]
  exact Pixel.or_digits _ third second low

def Encoding.pixel (encoding : Encoding) (bytes : Array UInt8) (index : Nat) : Pixel :=
  let byte (offset : Nat) := UInt8.ofNat (byteOf bytes (index + offset))
  match encoding with
  | .colour24 => Pixel.solid (byte 2) (byte 1) (byte 0)
  | .colourAlpha32 => Pixel.ofChannels (byte 3) (byte 2) (byte 1) (byte 0)
  | .fields32 red green blue alpha =>
      let value := UInt32.ofNat (wordOf bytes index)
      Pixel.ofChannels ((alpha.map (·.mask.extract value)).getD 0xff) (red.mask.extract value)
        (green.mask.extract value) (blue.mask.extract value)
  | .colour48 => Pixel.solid (byte 5) (byte 3) (byte 1)

theorem Encoding.pixel_colour (encoding : Encoding) (index : Nat) :
    (encoding.pixel bytes index).colour = encoding.colour bytes index := by
  have byte (place : Nat) : (UInt8.ofNat (byteOf bytes place)).toNat = byteOf bytes place :=
    UInt8.toNat_ofNat_of_lt' (byteOf_lt bytes place)
  have full : (0xff : UInt8).toNat = 255 := rfl
  cases encoding with
  | colour24 => simp only [pixel, colour, Pixel.solid, Pixel.colour_ofChannels, byte, full]
  | colourAlpha32 => simp only [pixel, colour, Pixel.colour_ofChannels, byte]
  | colour48 => simp only [pixel, colour, Pixel.solid, Pixel.colour_ofChannels, byte, full]
  | fields32 red green blue alpha =>
      simp only [pixel, colour, Pixel.colour_ofChannels, BitRun.extract_toNat,
        UInt32.toNat_ofNat_of_lt' (wordOf_lt bytes index)]
      cases alpha with
      | none => simp only [Option.map_none, Option.getD_none, full]
      | some run =>
          simp only [Option.map_some, Option.getD_some, BitRun.extract_toNat,
            UInt32.toNat_ofNat_of_lt' (wordOf_lt bytes index)]

theorem pixel?_eq (encoding : Encoding) {column : Nat}
    (inside : column * encoding.size + encoding.size ≤ length)
    (within : first + length ≤ bytes.size) :
    encoding.layout.pixel? (bytes.extract first (first + length)) column =
      some (encoding.pixel bytes (first + column * encoding.size)) := by
  have lowest (positive : 0 < encoding.size) :=
    getElem?_extract (show column * encoding.size < length by omega) within
  have byte (offset : Nat) (below : offset < encoding.size) :=
    getElem?_extract (show column * encoding.size + offset < length by omega) within
  cases encoding with
  | colour24 =>
      simp only [Encoding.size] at byte lowest
      simp only [Encoding.layout, Layout.pixel?, Encoding.pixel, Encoding.size,
        lowest (by decide), byte 1 (by decide), byte 2 (by decide), Nat.add_assoc, Nat.add_zero]
      rfl
  | colourAlpha32 =>
      simp only [Encoding.size] at byte lowest
      simp only [Encoding.layout, Layout.pixel?, Encoding.pixel, Encoding.size,
        lowest (by decide), byte 1 (by decide), byte 2 (by decide), byte 3 (by decide),
        Nat.add_assoc, Nat.add_zero]
      rfl
  | colour48 =>
      simp only [Encoding.size] at byte
      simp only [Encoding.layout, Layout.pixel?, Encoding.pixel, Encoding.size,
        byte 1 (by decide), byte 3 (by decide), byte 5 (by decide), Nat.add_assoc]
      rfl
  | fields32 red green blue alpha =>
      simp only [Encoding.size] at byte lowest
      have shifted := @shiftedBytes_eq bytes (first + column * 4)
      simp only [Nat.add_assoc] at shifted
      simp only [Encoding.layout, Layout.pixel?, Encoding.pixel, Encoding.size,
        lowest (by decide), byte 1 (by decide), byte 2 (by decide), byte 3 (by decide)]
      simp only [bind, Option.bind, shifted]
      cases alpha with
      | none => rfl
      | some run => rfl

end Dib

end Raster
