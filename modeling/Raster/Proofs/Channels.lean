import Mathlib.Algebra.Group.Nat.Defs
import Raster.Pixel

/-!
Channels of a pixel as digits of its word to the base 256. All four of them say which pixel it is.
-/

namespace Raster

inductive Channel where
  | alpha
  | red
  | green
  | blue
deriving DecidableEq, Repr

def Channel.ofPixel : Channel → Pixel → UInt8
  | .alpha => Pixel.alpha
  | .red => Pixel.red
  | .green => Pixel.green
  | .blue => Pixel.blue

namespace Pixel

theorem alpha_toNat (pixel : Pixel) : pixel.alpha.toNat = pixel.word.toNat / 2 ^ 24 % 256 := by
  simp [alpha, Nat.shiftRight_eq_div_pow]

theorem red_toNat (pixel : Pixel) : pixel.red.toNat = pixel.word.toNat / 2 ^ 16 % 256 := by
  simp [red, Nat.shiftRight_eq_div_pow]

theorem green_toNat (pixel : Pixel) : pixel.green.toNat = pixel.word.toNat / 2 ^ 8 % 256 := by
  simp [green, Nat.shiftRight_eq_div_pow]

theorem blue_toNat (pixel : Pixel) : pixel.blue.toNat = pixel.word.toNat % 256 := by
  simp [blue]

theorem shiftLeft_toNat (channel : UInt8) {place : UInt32} (small : place.toNat ≤ 24) :
    (channel.toUInt32 <<< place).toNat = channel.toNat * 2 ^ place.toNat := by
  have power : 2 ^ place.toNat ≤ 2 ^ 24 := Nat.pow_le_pow_right (by decide) small
  have bound : channel.toNat * 2 ^ place.toNat < 2 ^ 32 := by
    have scaled := Nat.mul_le_mul_left channel.toNat power
    have byte := channel.toNat_lt
    omega
  have shift : place.toNat % 32 = place.toNat := Nat.mod_eq_of_lt (by omega)
  rw [UInt32.toNat_shiftLeft, shift, UInt8.toNat_toUInt32, Nat.shiftLeft_eq]
  exact Nat.mod_eq_of_lt bound

theorem mul_or_eq_add (high : Nat) {low place : Nat} (below : low < 2 ^ place) :
    high * 2 ^ place ||| low = high * 2 ^ place + low := by
  rw [← Nat.shiftLeft_eq, Nat.shiftLeft_add_eq_or_of_lt below]

theorem or_digits (first : Nat) {second third fourth : Nat} (secondBound : second < 256)
    (thirdBound : third < 256) (fourthBound : fourth < 256) :
    first * 2 ^ 24 ||| second * 2 ^ 16 ||| third * 2 ^ 8 ||| fourth =
      ((first * 256 + second) * 256 + third) * 256 + fourth := by
  rw [Nat.or_assoc, Nat.or_assoc, mul_or_eq_add third fourthBound,
    mul_or_eq_add second (by omega), mul_or_eq_add first (by omega)]
  omega

theorem ofChannels_toNat (alpha red green blue : UInt8) :
    (ofChannels alpha red green blue).word.toNat =
      ((alpha.toNat * 256 + red.toNat) * 256 + green.toNat) * 256 + blue.toNat := by
  rw [← or_digits alpha.toNat red.toNat_lt green.toNat_lt blue.toNat_lt]
  simp only [ofChannels, UInt32.toNat_or, UInt8.toNat_toUInt32]
  rw [shiftLeft_toNat alpha (by decide), shiftLeft_toNat red (by decide),
    shiftLeft_toNat green (by decide)]
  rfl

section OfChannels

variable (alpha red green blue : UInt8)

@[simp] theorem alpha_ofChannels : (ofChannels alpha red green blue).alpha = alpha := by
  have bounds := And.intro red.toNat_lt (And.intro green.toNat_lt blue.toNat_lt)
  have top := alpha.toNat_lt
  rw [← UInt8.toNat_inj, alpha_toNat, ofChannels_toNat]
  omega

@[simp] theorem red_ofChannels : (ofChannels alpha red green blue).red = red := by
  have bounds := And.intro red.toNat_lt (And.intro green.toNat_lt blue.toNat_lt)
  rw [← UInt8.toNat_inj, red_toNat, ofChannels_toNat]
  omega

@[simp] theorem green_ofChannels : (ofChannels alpha red green blue).green = green := by
  have bounds := And.intro green.toNat_lt blue.toNat_lt
  rw [← UInt8.toNat_inj, green_toNat, ofChannels_toNat]
  omega

@[simp] theorem blue_ofChannels : (ofChannels alpha red green blue).blue = blue := by
  have bound := blue.toNat_lt
  rw [← UInt8.toNat_inj, blue_toNat, ofChannels_toNat]
  omega

@[simp] theorem alpha_solid : (solid red green blue).alpha = 0xff :=
  alpha_ofChannels ..

end OfChannels

theorem withAlpha_toNat (pixel : Pixel) (alpha : UInt8) :
    (pixel.withAlpha alpha).word.toNat = alpha.toNat * 2 ^ 24 + pixel.word.toNat % 2 ^ 24 := by
  have colour : pixel.word.toNat % 2 ^ 24 < 2 ^ 24 := Nat.mod_lt _ (by decide)
  have kept := Nat.and_two_pow_sub_one_eq_mod pixel.word.toNat 24
  rw [withAlpha, UInt32.toNat_or, shiftLeft_toNat alpha (by decide), UInt32.toNat_and, Nat.or_comm]
  change alpha.toNat * 2 ^ 24 ||| (pixel.word.toNat &&& (2 ^ 24 - 1)) = _
  rw [kept, mul_or_eq_add alpha.toNat colour]

section WithAlpha

variable (pixel : Pixel) (alpha : UInt8)

@[simp] theorem alpha_withAlpha : (pixel.withAlpha alpha).alpha = alpha := by
  have bound := alpha.toNat_lt
  rw [← UInt8.toNat_inj, alpha_toNat, withAlpha_toNat]
  omega

@[simp] theorem red_withAlpha : (pixel.withAlpha alpha).red = pixel.red := by
  rw [← UInt8.toNat_inj, red_toNat, red_toNat, withAlpha_toNat]
  omega

@[simp] theorem green_withAlpha : (pixel.withAlpha alpha).green = pixel.green := by
  rw [← UInt8.toNat_inj, green_toNat, green_toNat, withAlpha_toNat]
  omega

@[simp] theorem blue_withAlpha : (pixel.withAlpha alpha).blue = pixel.blue := by
  rw [← UInt8.toNat_inj, blue_toNat, blue_toNat, withAlpha_toNat]
  omega

end WithAlpha

theorem brightness_toNat (pixel : Pixel) :
    pixel.brightness.toNat =
      (222 * pixel.red.toNat + 707 * pixel.green.toNat + 71 * pixel.blue.toNat) / 1000 := by
  have redBound := pixel.red.toNat_lt
  have greenBound := pixel.green.toNat_lt
  have blueBound := pixel.blue.toNat_lt
  simp only [brightness, UInt32.toNat_toUInt8, UInt32.toNat_div, UInt32.toNat_add,
    UInt32.toNat_mul, UInt8.toNat_toUInt32, UInt32.reduceToNat]
  -- The weights add up to a thousand, so nothing wraps.
  simp (disch := omega) only [Nat.mod_eq_of_lt]
  rw [Nat.mul_comm 222, Nat.mul_comm 707, Nat.mul_comm 71]

theorem eq_of_channels {left right : Pixel}
    (each : ∀ channel : Channel, channel.ofPixel left = channel.ofPixel right) : left = right := by
  have alphas := congrArg UInt8.toNat (each .alpha)
  have reds := congrArg UInt8.toNat (each .red)
  have greens := congrArg UInt8.toNat (each .green)
  have blues := congrArg UInt8.toNat (each .blue)
  simp only [Channel.ofPixel, alpha_toNat, red_toNat, green_toNat, blue_toNat]
    at alphas reds greens blues
  have bound := left.word.toNat_lt
  have otherBound := right.word.toNat_lt
  have words : left.word = right.word := by
    rw [← UInt32.toNat_inj]
    omega
  cases left
  cases right
  exact congrArg Pixel.mk words

theorem eq_of_mapped_channels {left right : Option Pixel}
    (each : ∀ channel : Channel, left.map channel.ofPixel = right.map channel.ofPixel) :
    left = right := by
  cases left with
  | none => exact (Option.map_eq_none_iff.mp (each .alpha).symm).symm
  | some pixel =>
      obtain ⟨other, rfl, -⟩ := Option.map_eq_some_iff.mp (each .alpha).symm
      exact congrArg some (eq_of_channels fun channel => Option.some.inj (each channel))

end Pixel

end Raster
