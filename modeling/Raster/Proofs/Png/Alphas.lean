import Raster.Proofs.Channels
import Raster.Proofs.Png.Packing

/-!
The alpha that reading a mask makes of a place in a stored row is the one that the picture has
there, and a place whose palette entry is missing is refused.
-/

namespace Raster.Png

namespace Picture

variable (picture : Picture)

instance (y x : Nat) : Decidable (picture.Covers y x) := inferInstanceAs (Decidable (_ → _))

theorem depth_legal : picture.depth = 1 ∨ picture.depth = 2 ∨ picture.depth = 4 ∨
    picture.depth = 8 := by
  have suits := picture.suits
  have shallow := picture.shallow
  cases colour : picture.colour <;> simp [colour, ColourType.depths] at suits <;> omega

theorem depth_eq_eight (notGray : picture.colour ≠ .gray) (notPalette : picture.colour ≠ .palette) :
    picture.depth = 8 := by
  have suits := picture.suits
  have shallow := picture.shallow
  cases colour : picture.colour <;> simp_all [ColourType.depths] <;> omega

theorem sample_lt (y x channel : Nat) : picture.sample y x channel < 2 ^ 8 :=
  Nat.lt_of_lt_of_le (picture.small y x channel)
    (Nat.pow_le_pow_right (by decide) picture.shallow)

theorem level_eq_sample (notGray : picture.colour ≠ .gray) {value : Nat} :
    unpackedLevel picture.colour picture.depth value = value := by
  rw [unpackedLevel]
  split
  · rfl
  · rename_i notPalette
    rw [picture.depth_eq_eight notGray notPalette]
    exact Nat.mul_div_cancel value (by decide)

theorem unpackedSample_eq {places : List (Nat × Nat)} {row : Array UInt8}
    (packed : picture.PackedRow places row) {x channel : Nat} (inside : x < places.length)
    (below : channel < picture.colour.samples) :
    unpackedSample
      (unpackRow row (places.length * picture.colour.samples) picture.depth picture.colour)
      (x * picture.colour.samples + channel) =
      .ok (UInt8.ofNat (unpackedLevel picture.colour picture.depth
        (picture.sample places[x].1 places[x].2 channel))) := by
  have next : (x + 1) * picture.colour.samples ≤ places.length * picture.colour.samples :=
    Nat.mul_le_mul_right _ inside
  rw [Nat.add_mul] at next
  have unpacked : (unpackRow row (places.length * picture.colour.samples) picture.depth
      picture.colour).toList = _ :=
    unpackRow_toList picture.colour packed picture.depth_legal fun index => picture.small _ _ _
  have place : (x * picture.colour.samples + channel) / picture.colour.samples = x := by
    rw [Nat.mul_comm, Nat.mul_add_div (by omega), Nat.div_eq_of_lt below, Nat.add_zero]
  have part : (x * picture.colour.samples + channel) % picture.colour.samples = channel := by
    rw [Nat.mul_comm, Nat.mul_add_mod, Nat.mod_eq_of_lt below]
  have found : (unpackRow row (places.length * picture.colour.samples) picture.depth
      picture.colour)[x * picture.colour.samples + channel]? =
      some (UInt8.ofNat (unpackedLevel picture.colour picture.depth
        (picture.sample places[x].1 places[x].2 channel))) := by
    have stored : picture.stored places (x * picture.colour.samples + channel) =
        picture.sample places[x].1 places[x].2 channel := by
      simp [Picture.stored, place, part, List.getD, inside]
    rw [← Array.getElem?_toList, unpacked, List.getElem?_map,
      List.getElem?_range (by omega), Option.map_some, stored]
  rw [unpackedSample, found]

theorem unpackRow_size {places : List (Nat × Nat)} {row : Array UInt8}
    (packed : picture.PackedRow places row) :
    (unpackRow row (places.length * picture.colour.samples) picture.depth picture.colour).size =
      places.length * picture.colour.samples := by
  have unpacked := congrArg List.length
    (unpackRow_toList picture.colour packed picture.depth_legal fun index => picture.small _ _ _)
  simpa using unpacked

theorem luma_lt {red green blue : Nat} (redBound : red < 2 ^ 8) (greenBound : green < 2 ^ 8)
    (blueBound : blue < 2 ^ 8) : luma red green blue < 2 ^ 8 := by
  rw [luma]
  omega

theorem brightness_solid (red green blue : UInt8) :
    (Pixel.solid red green blue).brightness =
      UInt8.ofNat (luma red.toNat green.toNat blue.toNat) := by
  have bound := luma_lt red.toNat_lt green.toNat_lt blue.toNat_lt
  rw [← UInt8.toNat_inj, Pixel.brightness_toNat, UInt8.toNat_ofNat_of_lt' bound, luma]
  simp [Pixel.solid]

theorem paletteBrightness_eq (index : Nat) :
    paletteBrightness picture.palette index =
      if 3 * index + 3 ≤ picture.palette.size then
        .ok (UInt8.ofNat (luma (picture.entry index 0) (picture.entry index 1)
          (picture.entry index 2)))
      else .error (.refused (.decode .paletteIndexOutOfRange)) := by
  rw [paletteBrightness]
  by_cases whole : 3 * index + 3 ≤ picture.palette.size
  · have byte (channel : Nat) (below : channel < 3) : picture.palette[3 * index + channel]? =
        some (picture.palette.getD (3 * index + channel) 0) := by
      have inside : 3 * index + channel < picture.palette.size := by omega
      simp [Array.getD, inside]
    rw [if_pos whole, ← Nat.add_zero (3 * index), byte 0 (by decide), Nat.add_zero,
      byte 1 (by decide), byte 2 (by decide)]
    dsimp only
    rw [brightness_solid]
    rfl
  · have missing : picture.palette[3 * index + 2]? = none :=
      Array.getElem?_eq_none (by omega)
    rw [if_neg whole, missing]
    split
    · contradiction
    · rfl

theorem maskAlpha_eq {palette : Array UInt8}
    (samePalette : picture.colour = .palette → palette = picture.palette)
    {places : List (Nat × Nat)} {row : Array UInt8} (packed : picture.PackedRow places row)
    {x : Nat} (inside : x < places.length) :
    maskAlpha picture.colour palette
      (unpackRow row (places.length * picture.colour.samples) picture.depth picture.colour)
      (x * picture.colour.samples) =
      if picture.Covers places[x].1 places[x].2 then
        .ok (UInt8.ofNat (picture.alpha places[x].1 places[x].2))
      else .error (.refused (.decode .paletteIndexOutOfRange)) := by
  have sample (channel : Nat) (below : channel < picture.colour.samples) :=
    picture.unpackedSample_eq packed inside below
  have small := picture.sample_lt places[x].1 places[x].2
  generalize unpackRow row (places.length * picture.colour.samples) picture.depth picture.colour =
    samples at sample ⊢
  have covered (notPalette : picture.colour ≠ .palette) :
      picture.Covers places[x].1 places[x].2 := fun isPalette => absurd isPalette notPalette
  have plain (notGray : picture.colour ≠ .gray) (channel : Nat)
      (below : channel < picture.colour.samples) :
      unpackedSample samples (x * picture.colour.samples + channel) =
        .ok (UInt8.ofNat (picture.sample places[x].1 places[x].2 channel)) := by
    rw [sample channel below, picture.level_eq_sample notGray]
  cases colour : picture.colour with
  | palette =>
      have first := plain (by simp [colour]) 0 (by simp [colour, ColourType.samples])
      have covers : picture.Covers places[x].1 places[x].2 ↔
          3 * picture.sample places[x].1 places[x].2 0 + 3 ≤ picture.palette.size := by
        simp [Picture.Covers, colour]
      rw [colour, Nat.add_zero] at first
      simp only [maskAlpha, first, bind, Except.bind, UInt8.toNat_ofNat_of_lt' (small 0),
        samePalette colour, picture.paletteBrightness_eq, covers, Picture.alpha, colour]
  | gray =>
      have first := sample 0 (by simp [colour, ColourType.samples])
      rw [colour, Nat.add_zero] at first
      rw [if_pos (covered (by simp [colour]))]
      simp [maskAlpha, first, Picture.alpha, colour, unpackedLevel]
  | grayAlpha =>
      have second := plain (by simp [colour]) 1 (by simp [colour, ColourType.samples])
      rw [colour] at second
      rw [if_pos (covered (by simp [colour]))]
      simp [maskAlpha, second, Picture.alpha, colour]
  | truecolour =>
      have first := plain (by simp [colour]) 0 (by simp [colour, ColourType.samples])
      have second := plain (by simp [colour]) 1 (by simp [colour, ColourType.samples])
      have third := plain (by simp [colour]) 2 (by simp [colour, ColourType.samples])
      rw [colour, Nat.add_zero] at first
      rw [colour] at second third
      rw [if_pos (covered (by simp [colour]))]
      simp only [maskAlpha, first, second, third, bind, Except.bind, pure, Except.pure,
        brightness_solid, UInt8.toNat_ofNat_of_lt' (small _), Picture.alpha, colour]
  | truecolourAlpha =>
      have fourth := plain (by simp [colour]) 3 (by simp [colour, ColourType.samples])
      rw [colour] at fourth
      rw [if_pos (covered (by simp [colour]))]
      simp [maskAlpha, fourth, Picture.alpha, colour]

end Picture

end Raster.Png
