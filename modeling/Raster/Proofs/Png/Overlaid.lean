import Raster.Proofs.Channels
import Raster.Proofs.Decoders
import Raster.Proofs.Failure
import Raster.Proofs.Png.Overlay

/-!
Laying a mask over a bitmap. Main statement: what comes of it is said by the picture that the mask
holds, and not by the way in which the picture is stored.
-/

namespace Raster.Png

namespace Picture

variable (picture : Picture)

theorem alpha_lt (y x : Nat) : picture.alpha y x < 2 ^ 8 := by
  have entries (index channel : Nat) : picture.entry index channel < 2 ^ 8 := UInt8.toNat_lt _
  cases colour : picture.colour with
  | palette =>
      simp only [alpha, colour]
      exact luma_lt (entries _ _) (entries _ _) (entries _ _)
  | gray =>
      simp only [alpha, colour]
      have small := picture.small y x 0
      have bound : picture.sample y x 0 * 255 / (2 ^ picture.depth - 1) ≤ 255 := by
        apply Nat.div_le_of_le_mul
        exact Nat.mul_le_mul_right 255 (Nat.le_sub_one_of_lt small)
      omega
  | grayAlpha =>
      simp only [alpha, colour]
      exact picture.sample_lt y x 1
  | truecolour =>
      simp only [alpha, colour]
      exact luma_lt (picture.sample_lt ..) (picture.sample_lt ..) (picture.sample_lt ..)
  | truecolourAlpha =>
      simp only [alpha, colour]
      exact picture.sample_lt y x 3

theorem covers_of_colour (colour : picture.colour ≠ .palette) (y x : Nat) :
    picture.Covers y x := by
  intro palette
  exact absurd palette colour

def lay (y x : Nat) (pixel : Pixel) : Pixel :=
  pixel.withAlpha (UInt8.ofNat (picture.alpha y x))

theorem lay_alpha (y x : Nat) (pixel : Pixel) :
    (picture.lay y x pixel).alpha.toNat = picture.alpha y x := by
  rw [lay, Pixel.alpha_withAlpha, UInt8.toNat_ofNat_of_lt' (picture.alpha_lt y x)]

theorem setPlane_plane {y x : Nat} (below : y < picture.height) (inside : x < picture.width)
    (pixel : Pixel) : setPlane picture.plane picture.width y x pixel = picture.lay y x pixel := by
  have rowEnd : (y + 1) * picture.width ≤ picture.height * picture.width :=
    Nat.mul_le_mul_right _ below
  have next : (y + 1) * picture.width = y * picture.width + picture.width := Nat.succ_mul ..
  have reach : y * picture.width + x < picture.width * picture.height := by
    rw [Nat.mul_comm picture.width]
    omega
  have column : y * picture.width + x < (y + 1) * picture.width := by omega
  have entry : (picture.plane.extract (y * picture.width) ((y + 1) * picture.width))[x]? =
      some (UInt8.ofNat (picture.alpha y x)) := by
    rw [Array.getElem?_extract]
    simp only [plane, Array.size_ofFn]
    rw [if_pos (by omega), Array.getElem?_ofFn, dif_pos reach]
    simp only [Bitmap.slot_div (Nat.le_refl _) inside, Bitmap.slot_mod (Nat.le_refl _) inside]
  rw [setPlane, setAlphas, entry, lay]

/-- A bitmap that a picture has been laid over: it gives the alphas, and everything else stays. -/
structure Overlaid (before after : Bitmap) : Prop where
  width : after.width = before.width
  height : after.height = before.height
  stride : after.stride = before.stride
  size : after.pixels.size = before.pixels.size
  visible : ∀ y x : UInt32, y < before.height → x < before.width → ∃ old new,
    before.pixel? y x = some old ∧ after.pixel? y x = some new ∧
      new.alpha.toNat = picture.alpha y.toNat x.toNat ∧
      new.red = old.red ∧ new.green = old.green ∧ new.blue = old.blue
  padding : ∀ slot : Nat, before.width.toNat ≤ slot % before.stride.toNat →
    after.pixels[slot]? = before.pixels[slot]?

theorem mapVisible_overlaid {bitmap : Bitmap} (formed : bitmap.WellFormed) :
    picture.Overlaid bitmap (bitmap.mapVisible picture.lay) where
  width := Bitmap.mapVisible_width ..
  height := Bitmap.mapVisible_height ..
  stride := Bitmap.mapVisible_stride ..
  size := Bitmap.mapVisible_size ..
  visible := by
    intro y x below inside
    have slot : bitmap.slot y x < bitmap.pixels.size := formed.slot_inside
      (UInt32.lt_iff_toNat_lt.mp below) (UInt32.lt_iff_toNat_lt.mp inside)
    have old : bitmap.pixel? y x = some bitmap.pixels[bitmap.slot y x] :=
      Array.getElem?_eq_getElem slot
    refine ⟨_, picture.lay y.toNat x.toNat bitmap.pixels[bitmap.slot y x], old, ?_,
      picture.lay_alpha .., ?_, ?_, ?_⟩
    · rw [Bitmap.pixel?_mapVisible _ _ formed.widthBound below inside, old]
      rfl
    · exact Pixel.red_withAlpha ..
    · exact Pixel.green_withAlpha ..
    · exact Pixel.blue_withAlpha ..
  padding := by
    intro slot outside
    rw [Bitmap.getElem?_mapVisible _ _ _ formed.widthBound, if_neg]
    rintro ⟨-, inside⟩
    omega

namespace StoredIn

variable {picture : Picture} {interlaced : Bool} {mask : Mask} {bitmap : Bitmap}

theorem check_eq (stored : picture.StoredIn interlaced mask)
    (width : bitmap.width.toNat = picture.width) (height : bitmap.height.toNat = picture.height) :
    mask.check bitmap = .ok () := by
  have sameWidth : mask.header.width = bitmap.width := by
    rw [← UInt32.toNat_inj, stored.header_width, width]
  have sameHeight : mask.header.height = bitmap.height := by
    rw [← UInt32.toNat_inj, stored.header_height, height]
  have depth : mask.header.depth = picture.depth := by rw [stored.header]
  have shallow := picture.shallow
  have sized : ¬(mask.header.width ≠ bitmap.width ∨ mask.header.height ≠ bitmap.height) := by
    simp [sameWidth, sameHeight]
  simp only [Mask.check]
  rw [if_neg sized, if_neg (by omega)]

theorem apply_eq_ok (stored : picture.StoredIn interlaced mask) (formed : bitmap.WellFormed)
    (width : bitmap.width.toNat = picture.width) (height : bitmap.height.toNat = picture.height)
    (fits : picture.width * picture.height < 2 ^ 32)
    (covered : ∀ y x, y < picture.height → x < picture.width → picture.Covers y x) :
    ∃ transparency, mask.apply bitmap = (.ok transparency, bitmap.mapVisible picture.lay) := by
  have size : picture.plane.size = bitmap.height.toNat * bitmap.width.toNat := by
    rw [plane, Array.size_ofFn, width, height, Nat.mul_comm]
  have room : bitmap.height.toNat * bitmap.width.toNat < 2 ^ 32 := by
    rw [width, height, Nat.mul_comm]
    exact fits
  obtain ⟨transparency, written⟩ := writeRows_eq formed size 0xff (Nat.zero_add _) room
  have same : bitmap.mapVisible (setPlane picture.plane bitmap.width.toNat) =
      bitmap.mapVisible picture.lay := by
    apply Bitmap.mapVisible_congr formed.widthBound
    intro y x below inside
    funext pixel
    rw [width] at inside ⊢
    rw [height] at below
    exact picture.setPlane_plane below inside pixel
  refine ⟨transparency, ?_⟩
  rw [Mask.apply, stored.check_eq width height, stored.alphas_eq_plane covered,
    stored.header_height, ← height, ← same]
  exact written

theorem apply_eq_error (stored : picture.StoredIn interlaced mask)
    (width : bitmap.width.toNat = picture.width) (height : bitmap.height.toNat = picture.height)
    {y x : Nat} (row : y < picture.height) (column : x < picture.width)
    (missing : ¬picture.Covers y x) :
    mask.apply bitmap = (.error (.refused (.decode .paletteIndexOutOfRange)), bitmap) := by
  rw [Mask.apply, stored.check_eq width height, stored.alphas_eq_error row column missing]

end StoredIn

/-- The decoder accepts what stands in the stream, and hands out a mask that holds the picture. -/
def ReadFrom (decoder : Decoder) (interlaced : Bool) (limit : UInt64) (stream : Stream) : Prop :=
  ∃ mask, (decoder.rows limit stream).1 = some mask ∧ picture.StoredIn interlaced mask

namespace ReadFrom

variable {picture : Picture} {decoder : Decoder} {interlaced : Bool} {limit : UInt64}
  {stream : Stream} {bitmap : Bitmap}

theorem overlayAlpha_eq_ok (read : picture.ReadFrom decoder interlaced limit stream)
    (formed : bitmap.WellFormed) (width : bitmap.width.toNat = picture.width)
    (height : bitmap.height.toNat = picture.height)
    (fits : picture.width * picture.height < 2 ^ 32)
    (covered : ∀ y x, y < picture.height → x < picture.width → picture.Covers y x) :
    ∃ transparency rest, overlayAlpha decoder limit bitmap stream =
      (.ok transparency, bitmap.mapVisible picture.lay, rest) := by
  obtain ⟨mask, delivered, stored⟩ := read
  obtain ⟨transparency, applied⟩ := stored.apply_eq_ok formed width height fits covered
  refine ⟨transparency, (decoder.rows limit stream).2, ?_⟩
  rw [overlayAlpha_of_some _ _ _ _ delivered, applied]

theorem overlayAlpha_eq_error (read : picture.ReadFrom decoder interlaced limit stream)
    (width : bitmap.width.toNat = picture.width) (height : bitmap.height.toNat = picture.height)
    {y x : Nat} (row : y < picture.height) (column : x < picture.width)
    (missing : ¬picture.Covers y x) :
    ∃ rest, overlayAlpha decoder limit bitmap stream =
      (.error (.refused (.decode .paletteIndexOutOfRange)), bitmap, rest) := by
  obtain ⟨mask, delivered, stored⟩ := read
  refine ⟨(decoder.rows limit stream).2, ?_⟩
  rw [overlayAlpha_of_some _ _ _ _ delivered, stored.apply_eq_error width height row column missing]

end ReadFrom

end Picture

/-- Laying a picture over a bitmap of its size succeeds exactly when the palette has an entry for
each pixel, and then gives every visible pixel the alpha of the picture and changes nothing else.
The bitmap that it leaves is the same for both ways of storing the picture. -/
theorem overlayAlpha_exact (picture : Picture) {bitmap : Bitmap} (formed : bitmap.WellFormed)
    (width : bitmap.width.toNat = picture.width) (height : bitmap.height.toNat = picture.height)
    (fits : picture.width * picture.height < 2 ^ 32) (decoder : Decoder) :
    (∀ interlaced limit stream, picture.ReadFrom decoder interlaced limit stream →
      ((overlayAlpha decoder limit bitmap stream).1.isOk ↔
        ∀ y x, y < picture.height → x < picture.width → picture.Covers y x) ∧
      ((overlayAlpha decoder limit bitmap stream).1.isOk →
        picture.Overlaid bitmap (overlayAlpha decoder limit bitmap stream).2.1)) ∧
    (∀ limit otherLimit stream other, picture.ReadFrom decoder true limit stream →
      picture.ReadFrom decoder false otherLimit other →
      (overlayAlpha decoder limit bitmap stream).2.1 =
        (overlayAlpha decoder otherLimit bitmap other).2.1) := by
  by_cases covered : ∀ y x, y < picture.height → x < picture.width → picture.Covers y x
  · constructor
    · intro interlaced limit stream read
      obtain ⟨transparency, rest, laid⟩ :=
        read.overlayAlpha_eq_ok formed width height fits covered
      rw [laid]
      exact ⟨⟨fun _ => covered, fun _ => rfl⟩, fun _ => picture.mapVisible_overlaid formed⟩
    · intro limit otherLimit stream other read otherRead
      obtain ⟨_, _, laid⟩ := read.overlayAlpha_eq_ok formed width height fits covered
      obtain ⟨_, _, otherLaid⟩ := otherRead.overlayAlpha_eq_ok formed width height fits covered
      rw [laid, otherLaid]
  · have missing : ∃ y x, y < picture.height ∧ x < picture.width ∧ ¬picture.Covers y x := by
      simpa using covered
    obtain ⟨y, x, row, column, misses⟩ := missing
    constructor
    · intro interlaced limit stream read
      obtain ⟨rest, refused⟩ := read.overlayAlpha_eq_error width height row column misses
      rw [refused]
      constructor
      · constructor
        · intro success
          cases success
        · intro all
          exact absurd all covered
      · intro success
        cases success
    · intro limit otherLimit stream other read otherRead
      obtain ⟨_, refused⟩ := read.overlayAlpha_eq_error width height row column misses
      obtain ⟨_, otherRefused⟩ := otherRead.overlayAlpha_eq_error width height row column misses
      rw [refused, otherRefused]

namespace Ramp

def picture : Picture where
  width := 3
  height := 2
  colour := .gray
  depth := 2
  palette := #[]
  sample y x _ := (3 * y + x) % 4
  hasColumns := by decide
  hasRows := by decide
  widthBound := by decide
  heightBound := by decide
  suits := by decide
  shallow := by decide
  small _ _ _ := Nat.mod_lt _ (by decide)

def file : Bool → Array UInt8
  | false => #[
      0x89, 0x50, 0x4e, 0x47, 0x0d, 0x0a, 0x1a, 0x0a, 0x00, 0x00, 0x00, 0x0d, 0x49, 0x48,
      0x44, 0x52, 0x00, 0x00, 0x00, 0x03, 0x00, 0x00, 0x00, 0x02, 0x02, 0x00, 0x00, 0x00,
      0x00, 0xf2, 0xaf, 0x21, 0x67, 0x00, 0x00, 0x00, 0x0f, 0x49, 0x44, 0x41, 0x54, 0x78,
      0x01, 0x01, 0x04, 0x00, 0xfb, 0xff, 0x00, 0x18, 0x00, 0xc4, 0x01, 0x10, 0x00, 0xdd,
      0x01, 0x1b, 0xad, 0xe4, 0x00, 0x00, 0x00, 0x00, 0x49, 0x45, 0x4e, 0x44, 0xae, 0x42,
      0x60, 0x82]
  | true => #[
      0x89, 0x50, 0x4e, 0x47, 0x0d, 0x0a, 0x1a, 0x0a, 0x00, 0x00, 0x00, 0x0d, 0x49, 0x48,
      0x44, 0x52, 0x00, 0x00, 0x00, 0x03, 0x00, 0x00, 0x00, 0x02, 0x02, 0x00, 0x00, 0x00,
      0x01, 0x85, 0xa8, 0x11, 0xf1, 0x00, 0x00, 0x00, 0x13, 0x49, 0x44, 0x41, 0x54, 0x78,
      0x01, 0x01, 0x08, 0x00, 0xf7, 0xff, 0x00, 0x00, 0x00, 0x80, 0x00, 0x40, 0x00, 0xc4,
      0x04, 0x0c, 0x01, 0x85, 0xed, 0x6a, 0x3d, 0x2b, 0x00, 0x00, 0x00, 0x00, 0x49, 0x45,
      0x4e, 0x44, 0xae, 0x42, 0x60, 0x82]

def target : Bitmap :=
  ⟨3, 2, 4, #[⟨0x80112233⟩, ⟨0x81223344⟩, ⟨0x82334455⟩, ⟨0x83445566⟩,
    ⟨0x84556677⟩, ⟨0x85667788⟩, ⟨0x86778899⟩, ⟨0x8788aabb⟩]⟩

def stream (interlaced : Bool) : Stream := Stream.ofBytes (file interlaced) 0 FaultPlan.none

def mask (interlaced : Bool) : Mask :=
  ⟨⟨3, 2, 2, .gray, interlaced⟩, #[],
    if interlaced then [#[0x00], #[0x80], #[0x40], #[0xc4]] else [#[0x18], #[0xc4]], .exhausted⟩

def image : Image :=
  ⟨3, 2, #[⟨0, 0, 0, 0xff⟩, ⟨0x55, 0x55, 0x55, 0xff⟩, ⟨0xaa, 0xaa, 0xaa, 0xff⟩,
    ⟨0xff, 0xff, 0xff, 0xff⟩, ⟨0, 0, 0, 0xff⟩, ⟨0x55, 0x55, 0x55, 0xff⟩]⟩

def decoder : Decoder :=
  .knowing [⟨file false, image, mask false⟩, ⟨file true, image, mask true⟩]

theorem stream_quiet (interlaced : Bool) : (stream interlaced).Quiet :=
  ⟨fun _ _ => nofun, fun _ => rfl, fun _ => rfl⟩

theorem decoder_finds (interlaced : Bool) : (decoder.rows 64 (stream interlaced)).1 =
    some (mask interlaced) := by
  have shorter : ¬(file true).extract 0 (file false).size = file false := by decide +kernel
  have there : (stream interlaced).ahead = file interlaced := Stream.ahead_ofBytes ..
  simp only [decoder, Decoder.knowing, KnownFile.find?_ahead (stream_quiet interlaced), there]
  cases interlaced <;> simp [shorter]

theorem readFrom (interlaced : Bool) :
    picture.ReadFrom decoder interlaced 64 (stream interlaced) := by
  refine ⟨mask interlaced, decoder_finds interlaced, ?_⟩
  cases interlaced with
  | false => exact ⟨by decide, by decide, by decide, by decide⟩
  | true => exact ⟨by decide, by decide, by decide, by decide⟩

end Ramp

theorem overlayAlpha_exact_ramp :
    (Ramp.target.WellFormed ∧ Ramp.picture.ReadFrom Ramp.decoder true 64 (Ramp.stream true) ∧
      Ramp.picture.ReadFrom Ramp.decoder false 64 (Ramp.stream false)) ∧
    (overlayAlpha Ramp.decoder 64 Ramp.target (Ramp.stream true)).1.isOk ∧
    Ramp.picture.Overlaid Ramp.target
      (overlayAlpha Ramp.decoder 64 Ramp.target (Ramp.stream true)).2.1 ∧
    (overlayAlpha Ramp.decoder 64 Ramp.target (Ramp.stream true)).2.1 =
      (overlayAlpha Ramp.decoder 64 Ramp.target (Ramp.stream false)).2.1 := by
  have formed : Ramp.target.WellFormed := ⟨by decide, by decide⟩
  obtain ⟨exact, same⟩ := overlayAlpha_exact Ramp.picture formed (by decide) (by decide)
    (by decide) Ramp.decoder
  obtain ⟨succeeds, overlaid⟩ := exact true 64 _ (Ramp.readFrom true)
  have success := succeeds.mpr fun y x _ _ => Ramp.picture.covers_of_colour (by decide) y x
  exact ⟨⟨formed, Ramp.readFrom true, Ramp.readFrom false⟩, success, overlaid success,
    same 64 64 _ _ (Ramp.readFrom true) (Ramp.readFrom false)⟩

end Raster.Png
