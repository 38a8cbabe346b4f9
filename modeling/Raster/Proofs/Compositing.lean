import Raster.Proofs.Premultiplied
import Raster.Proofs.Resample.Local

/-!
Laying tinted samples over old pixels, in plain numbers. Factors of tints and channels of samples
are so small that no word wraps on the way, and more of either never gives less. No colour of a tint
weighs more than its opacity, so what covers a pixel and what shows through it fit a byte together.
-/

namespace Raster

theorem toNat_clampByte (value : UInt32) : (clampByte value).toNat = min value.toNat 255 := by
  rw [clampByte]
  split
  · rename_i small
    have bound : value.toNat ≤ 255 := UInt32.le_iff_toNat_le.mp small
    rw [UInt32.toNat_toUInt8]
    omega
  · rename_i large
    have bound : ¬value.toNat ≤ 255 := fun small => large (UInt32.le_iff_toNat_le.mpr small)
    rw [Nat.min_eq_right (by omega)]
    rfl

theorem toNat_byte_le (byte : UInt8) : byte.toUInt32.toNat ≤ 255 := by
  rw [UInt8.toNat_toUInt32]
  exact Nat.le_of_lt_succ byte.toNat_lt

theorem toNat_blendChannel {factor sample old : UInt32} (alphaFactor : UInt32)
    (factorBound : factor.toNat ≤ 256) (sampleBound : sample.toNat ≤ 255)
    (oldBound : old.toNat ≤ 255) :
    (blendChannel factor alphaFactor sample old).toNat =
      sample.toNat * factor.toNat / 256 + old.toNat * (256 - alphaFactor.toNat) / 256 := by
  have tinted : sample.toNat * factor.toNat ≤ 255 * 256 := Nat.mul_le_mul sampleBound factorBound
  have shown : old.toNat * (256 - alphaFactor.toNat) ≤ 255 * 256 :=
    Nat.mul_le_mul oldBound (Nat.sub_le _ _)
  have product : (sample * factor / 256).toNat = sample.toNat * factor.toNat / 256 := by
    rw [UInt32.toNat_div, UInt32.toNat_mul, Nat.mod_eq_of_lt (by omega)]
    rfl
  rw [blendChannel]
  split
  · rename_i translucent
    have below : alphaFactor.toNat < 256 := UInt32.lt_iff_toNat_lt.mp translucent
    have rest : (256 - alphaFactor).toNat = 256 - alphaFactor.toNat :=
      UInt32.toNat_sub_of_le _ _ (UInt32.le_iff_toNat_le.mpr (Nat.le_of_lt below))
    have through : (old * (256 - alphaFactor) / 256).toNat =
        old.toNat * (256 - alphaFactor.toNat) / 256 := by
      rw [UInt32.toNat_div, UInt32.toNat_mul, rest, Nat.mod_eq_of_lt (by omega)]
      rfl
    rw [UInt32.toNat_add, product, through]
    omega
  · rename_i covering
    have above : ¬alphaFactor.toNat < 256 :=
      fun below => covering (UInt32.lt_iff_toNat_lt.mpr below)
    rw [product, Nat.sub_eq_zero_of_le (Nat.not_lt.mp above), Nat.mul_zero]
    rfl

namespace Channel

variable (channel : Channel) (tint : Tint)

theorem ofFactors_le : (channel.ofFactors tint.factors).toNat ≤ 256 := by
  cases channel <;> exact Tint.toFactor_le _

theorem toNat_compose {sample : Sample} (small : (channel.ofSample sample).toNat ≤ 255)
    (old : Pixel) :
    (channel.ofPixel (tint.factors.compose sample old)).toNat =
      min ((channel.ofSample sample).toNat * (channel.ofFactors tint.factors).toNat / 256 +
        (channel.ofPixel old).toNat * (256 - tint.factors.alpha.toNat) / 256) 255 := by
  have oldBound := toNat_byte_le (channel.ofPixel old)
  rw [ofPixel_compose, toNat_clampByte,
    toNat_blendChannel _ (channel.ofFactors_le tint) small oldBound, UInt8.toNat_toUInt32]

theorem compose_mono {lower upper : Sample} {old other : Pixel}
    (samples : (channel.ofSample lower).toNat ≤ (channel.ofSample upper).toNat)
    (small : (channel.ofSample upper).toNat ≤ 255)
    (olds : channel.ofPixel old ≤ channel.ofPixel other) :
    channel.ofPixel (tint.factors.compose lower old) ≤
      channel.ofPixel (tint.factors.compose upper other) := by
  have tinted := Nat.div_le_div_right (c := 256)
    (Nat.mul_le_mul_right (channel.ofFactors tint.factors).toNat samples)
  have shown := Nat.div_le_div_right (c := 256)
    (Nat.mul_le_mul_right (256 - tint.factors.alpha.toNat) (UInt8.le_iff_toNat_le.mp olds))
  rw [UInt8.le_iff_toNat_le, channel.toNat_compose tint (Nat.le_trans samples small),
    channel.toNat_compose tint small]
  omega

end Channel

section Full

variable {tint : Tint} (full : tint.factors = ⟨256, 256, 256, 256⟩) {sample : Sample}

include full

theorem Channel.toNat_compose_of_full (channel : Channel)
    (small : (channel.ofSample sample).toNat ≤ 255) (old : Pixel) :
    (channel.ofPixel (tint.factors.compose sample old)).toNat =
      (channel.ofSample sample).toNat := by
  have keeps : (channel.ofFactors tint.factors).toNat = 256 := by
    rw [full]
    cases channel <;> rfl
  have covers : tint.factors.alpha.toNat = 256 := by
    rw [full]
    rfl
  rw [channel.toNat_compose tint small, keeps, covers]
  omega

theorem compose_of_full {colour : Pixel} (same : ∀ channel : Channel,
      (channel.ofSample sample).toNat = (channel.ofPixel colour).toNat) (old : Pixel) :
    tint.factors.compose sample old = colour := by
  apply Pixel.eq_of_channels
  intro channel
  have byte := (channel.ofPixel colour).toNat_lt
  have small : (channel.ofSample sample).toNat ≤ 255 := by
    rw [same]
    exact Nat.le_of_lt_succ byte
  rw [← UInt8.toNat_inj, channel.toNat_compose_of_full full small, same]

theorem compose_toSample_of_full (colour old : Pixel) :
    tint.factors.compose colour.toSample old = colour := by
  apply compose_of_full full
  intro channel
  rw [channel.ofSample_toSample, UInt8.toNat_toUInt32]

end Full

theorem blendChannel_clear (sample : UInt32) {old : UInt32} (oldBound : old.toNat ≤ 255) :
    blendChannel 0 0 sample old = old := by
  have through : (old * 256 / 256).toNat = old.toNat := by
    rw [UInt32.toNat_div, UInt32.toNat_mul]
    simp only [UInt32.reduceToNat]
    omega
  rw [blendChannel, if_pos (by decide), UInt32.mul_zero, UInt32.sub_zero, UInt32.zero_div,
    UInt32.zero_add, ← UInt32.toNat_inj, through]

theorem compose_clear (sample : Sample) (old : Pixel) :
    Tint.Factors.compose ⟨0, 0, 0, 0⟩ sample old = old := by
  apply Pixel.eq_of_channels
  intro channel
  have oldBound := toNat_byte_le (channel.ofPixel old)
  have none : channel.ofFactors ⟨0, 0, 0, 0⟩ = 0 := by cases channel <;> rfl
  rw [channel.ofPixel_compose, none, blendChannel_clear _ oldBound, ← UInt8.toNat_inj,
    toNat_clampByte, Nat.min_eq_left oldBound, UInt8.toNat_toUInt32]

/-- A channel of a tinted sample over an old value, before anything is rounded. -/
def exactBlend (factor alphaFactor sample old : Nat) : ℚ :=
  (sample * factor + old * (256 - alphaFactor)) / 256

section Blend

variable {factor alphaFactor sample old : UInt32} (colour : factor ≤ alphaFactor)
  (alpha : alphaFactor ≤ 256) (sampleBound : sample.toNat ≤ 255) (oldBound : old.toNat ≤ 255)

include colour alpha sampleBound oldBound

theorem toNat_blendChannel_of_le : (blendChannel factor alphaFactor sample old).toNat =
    sample.toNat * factor.toNat / 256 + old.toNat * (256 - alphaFactor.toNat) / 256 :=
  toNat_blendChannel alphaFactor (UInt32.le_iff_toNat_le.mp (UInt32.le_trans colour alpha))
    sampleBound oldBound

theorem blendChannel_le : (blendChannel factor alphaFactor sample old).toNat ≤ 255 := by
  have limit : alphaFactor.toNat ≤ 256 := UInt32.le_iff_toNat_le.mp alpha
  have tinted : sample.toNat * factor.toNat ≤ 255 * alphaFactor.toNat :=
    Nat.mul_le_mul sampleBound (UInt32.le_iff_toNat_le.mp colour)
  have shown : old.toNat * (256 - alphaFactor.toNat) ≤ 255 * (256 - alphaFactor.toNat) :=
    Nat.mul_le_mul_right _ oldBound
  rw [toNat_blendChannel_of_le colour alpha sampleBound oldBound]
  omega

theorem exactBlend_bounds :
    exactBlend factor.toNat alphaFactor.toNat sample.toNat old.toNat - 2 <
        (blendChannel factor alphaFactor sample old).toNat ∧
      ((blendChannel factor alphaFactor sample old).toNat : ℚ) ≤
        exactBlend factor.toNat alphaFactor.toNat sample.toNat old.toNat := by
  have limit : alphaFactor.toNat ≤ 256 := UInt32.le_iff_toNat_le.mp alpha
  have exact : exactBlend factor.toNat alphaFactor.toNat sample.toNat old.toNat =
      (sample.toNat * factor.toNat + old.toNat * (256 - alphaFactor.toNat) : ℕ) / 256 := by
    rw [exactBlend]
    push_cast [Nat.cast_sub limit]
    rfl
  rw [exact, toNat_blendChannel_of_le colour alpha sampleBound oldBound]
  generalize sample.toNat * factor.toNat = tinted
  generalize old.toNat * (256 - alphaFactor.toNat) = shown
  -- Each of the two divisions drops less than one.
  have lower : tinted + shown < 256 * (tinted / 256 + shown / 256 + 2) := by omega
  have upper : 256 * (tinted / 256 + shown / 256) ≤ tinted + shown := by omega
  constructor
  · rw [sub_lt_iff_lt_add, div_lt_iff₀' (by norm_num)]
    exact_mod_cast lower
  · rw [le_div_iff₀' (by norm_num)]
    exact_mod_cast upper

end Blend

theorem Tint.Factors.Premultiplied.ofFactors_le {factors : Tint.Factors}
    (premultiplied : factors.Premultiplied) (channel : Channel) :
    channel.ofFactors factors ≤ factors.alpha := by
  cases channel with
  | alpha => exact UInt32.le_rfl
  | red => exact premultiplied.red
  | green => exact premultiplied.green
  | blue => exact premultiplied.blue

def Channel.blended (channel : Channel) (factors : Tint.Factors) (sample : Sample) (old : Pixel) :
    UInt32 :=
  blendChannel (channel.ofFactors factors) factors.alpha (channel.ofSample sample)
    (channel.ofPixel old).toUInt32

theorem Channel.blended_of_covering (channel : Channel) {factors : Tint.Factors}
    (covering : factors.alpha = 256) (sample : Sample) (old : Pixel) :
    channel.blended factors sample old =
      channel.ofSample sample * channel.ofFactors factors / 256 := by
  rw [blended, blendChannel, covering, if_neg (by decide)]

/-- Nothing is clamped where samples of bytes are laid over pixels by factors of a tint. Each
channel is the exact blend but for what two divisions round down, and what is covered does not
show. -/
theorem compose_unclamped :
    (∀ tint : Tint, tint.factors.Premultiplied) ∧
    ∀ factors : Tint.Factors, factors.Premultiplied → ∀ sample : Sample,
      (∀ channel : Channel, channel.ofSample sample ≤ 255) → ∀ (old : Pixel) (channel : Channel),
        channel.ofPixel (factors.compose sample old) =
            clampByte (channel.blended factors sample old) ∧
          channel.blended factors sample old ≤ 255 ∧
          (channel.ofPixel (factors.compose sample old)).toNat =
            (channel.blended factors sample old).toNat ∧
          exactBlend (channel.ofFactors factors).toNat factors.alpha.toNat
              (channel.ofSample sample).toNat (channel.ofPixel old).toNat - 2 <
            (channel.blended factors sample old).toNat ∧
          ((channel.blended factors sample old).toNat : ℚ) ≤
            exactBlend (channel.ofFactors factors).toNat factors.alpha.toNat
              (channel.ofSample sample).toNat (channel.ofPixel old).toNat ∧
          (factors.alpha = 256 →
            (channel.blended factors sample old).toNat =
                (channel.ofSample sample).toNat * (channel.ofFactors factors).toNat / 256 ∧
              ∀ other : Pixel, channel.blended factors sample other =
                channel.blended factors sample old) := by
  refine ⟨Tint.factors_premultiplied, ?_⟩
  intro factors premultiplied sample small old channel
  have colour := premultiplied.ofFactors_le channel
  have sampleBound : (channel.ofSample sample).toNat ≤ 255 :=
    UInt32.le_iff_toNat_le.mp (small channel)
  have oldBound := toNat_byte_le (channel.ofPixel old)
  have most : (channel.blended factors sample old).toNat ≤ 255 :=
    blendChannel_le colour premultiplied.alpha sampleBound oldBound
  obtain ⟨lower, upper⟩ := exactBlend_bounds colour premultiplied.alpha sampleBound oldBound
  rw [UInt8.toNat_toUInt32] at lower upper
  refine ⟨channel.ofPixel_compose .., UInt32.le_iff_toNat_le.mpr most, ?_, lower, upper, ?_⟩
  · rw [channel.ofPixel_compose, toNat_clampByte]
    exact Nat.min_eq_left most
  · intro covering
    constructor
    · have hidden : 256 - factors.alpha.toNat = 0 := by
        rw [covering]
        rfl
      rw [Channel.blended, toNat_blendChannel_of_le colour premultiplied.alpha sampleBound oldBound,
        hidden, Nat.mul_zero, Nat.zero_div, Nat.add_zero]
    · intro other
      rw [channel.blended_of_covering covering, channel.blended_of_covering covering]

theorem compose_unclamped_samples :
    ((⟨128, 64, 128, 0⟩ : Tint.Factors).Premultiplied ∧
      Channel.blended .green ⟨128, 64, 128, 0⟩ ⟨255, 255, 255, 7⟩ ⟨0xffffffff⟩ ≤ 255 ∧
      (Channel.ofPixel .green (Tint.Factors.compose ⟨128, 64, 128, 0⟩ ⟨255, 255, 255, 7⟩
          ⟨0xffffffff⟩)).toNat =
        (Channel.blended .green ⟨128, 64, 128, 0⟩ ⟨255, 255, 255, 7⟩ ⟨0xffffffff⟩).toNat) ∧
    ((⟨256, 128, 256, 0⟩ : Tint.Factors).Premultiplied ∧
      (Channel.blended .red ⟨256, 128, 256, 0⟩ ⟨255, 255, 255, 7⟩ ⟨0xffffffff⟩).toNat =
        255 * 128 / 256) := by
  have half : (⟨128, 64, 128, 0⟩ : Tint.Factors).Premultiplied :=
    ⟨by decide, by decide, by decide, by decide⟩
  have full : (⟨256, 128, 256, 0⟩ : Tint.Factors).Premultiplied :=
    ⟨by decide, by decide, by decide, by decide⟩
  have bytes : ∀ channel : Channel, channel.ofSample ⟨255, 255, 255, 7⟩ ≤ 255 := by
    intro channel
    cases channel <;> decide
  obtain ⟨-, unclamped⟩ := compose_unclamped
  obtain ⟨-, most, same, -⟩ := unclamped _ half _ bytes ⟨0xffffffff⟩ .green
  obtain ⟨-, -, -, -, -, covered⟩ := unclamped _ full _ bytes ⟨0xffffffff⟩ .red
  exact ⟨⟨half, most, same⟩, full, (covered rfl).1⟩

/-- The factor of alpha is zero for tints too faint to count for a 256th, and for those whose alpha
is no number. Their colours count for nothing either, so that whatever is sampled for a pixel, the
destination is left as it was. -/
theorem resample_clear (tint : Tint) :
    (tint.factors.alpha = 0 ↔ tint.alpha.isNaN = true ∨ tint.alpha < 1.0 / 256.0) ∧
    (tint.factors.alpha = 0 →
      tint.factors = ⟨0, 0, 0, 0⟩ ∧
      (∀ (sample : Sample) (old : Pixel), tint.factors.compose sample old = old) ∧
      ∀ (destination source : Bitmap) (forceAverage : Bool),
        resample destination source tint forceAverage = destination) := by
  refine ⟨tint.factors_alpha_eq_zero_iff, ?_⟩
  intro clear
  have factors := tint.factors_premultiplied.eq_zero clear
  have keeps (sample : Sample) (old : Pixel) : tint.factors.compose sample old = old := by
    rw [factors, compose_clear]
  refine ⟨factors, keeps, ?_⟩
  intro destination source forceAverage
  rw [resample]
  split
  · exact Bitmap.mapVisible_of_keeps (fun y x old => keeps _ old) destination
  · rfl

namespace Resample

def wide : Bitmap := ⟨3, 1, 4, #[⟨0x80112233⟩, ⟨0x81223344⟩, ⟨0xff334455⟩, ⟨0xdeadbeef⟩]⟩

end Resample

theorem resample_clear_samples :
    ((⟨0.0 / 0.0, 1.0, 1.0, 1.0⟩ : Tint).factors = ⟨0, 0, 0, 0⟩ ∧
      Resample.strategy 3 1 2 1 false = .average ∧
      resample Resample.loose Resample.wide ⟨0.0 / 0.0, 1.0, 1.0, 1.0⟩ false = Resample.loose) ∧
    (Resample.strategy 2 1 2 1 false = .replicate ∧
      resample Resample.loose Resample.tight ⟨-1.0, 1.0, 1.0, 1.0⟩ false = Resample.loose) ∧
    (Resample.strategy 2 1 3 1 false = .bilinear ∧
      resample Resample.wide Resample.loose ⟨0.003, 1.0, 1.0, 1.0⟩ false = Resample.wide) := by
  obtain ⟨missing, unnumbered⟩ := resample_clear ⟨0.0 / 0.0, 1.0, 1.0, 1.0⟩
  obtain ⟨below, negative⟩ := resample_clear ⟨-1.0, 1.0, 1.0, 1.0⟩
  obtain ⟨faint, slight⟩ := resample_clear ⟨0.003, 1.0, 1.0, 1.0⟩
  obtain ⟨factors, -, unread⟩ := unnumbered (missing.mpr (.inl (by decide)))
  obtain ⟨-, -, unlit⟩ := negative (below.mpr (.inr (by decide)))
  obtain ⟨-, -, unseen⟩ := slight (faint.mpr (.inr (by decide)))
  exact ⟨⟨factors, by decide, unread _ _ _⟩, ⟨by decide, unlit _ _ _⟩, by decide, unseen _ _ _⟩

end Raster
