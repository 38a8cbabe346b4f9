import Raster.Proofs.Rounding.Nearest

/-!
The coordinate that a cut computes, with every operation rounded. It leaves one side of the start,
and can pass the finish only by what the rounding adds. An end that was cut at one edge and passes
the edge across from it needs more than that, or digits so few that the next cut stops it.
-/

namespace Raster

namespace Clip

open Float.Model Rounding

/-- A number that rounding to double precision gives. -/
def near (number : ℚ) : ℚ := nearest Format.binary64 number

def least : ℚ := unit Format.binary64

/-- A cut's new coordinate along an edge, from those of the start and the finish, and from the edge
and the coordinates of both ends across it. -/
def slid (start finish edge startAcross finishAcross : ℚ) : ℚ :=
  near (start + near (near (near (finish - start) * near (edge - startAcross)) /
    near (finishAcross - startAcross)))

theorem near_neg (number : ℚ) : near (-number) = -near number := nearest_neg number

theorem near_zero : near 0 = 0 := nearest_zero

theorem near_sub_comm (left right : ℚ) : near (left - right) = -near (right - left) := by
  rw [← near_neg, neg_sub]

variable {start finish edge startAcross finishAcross : ℚ}

theorem slid_neg_across : slid start finish (-edge) (-startAcross) (-finishAcross) =
    slid start finish edge startAcross finishAcross := by
  rw [slid, slid, neg_sub_neg, neg_sub_neg, near_sub_comm startAcross edge,
    near_sub_comm startAcross finishAcross, mul_neg, near_neg, neg_div_neg_eq]

theorem slid_neg : slid (-start) (-finish) edge startAcross finishAcross =
    -slid start finish edge startAcross finishAcross := by
  rw [slid, slid, neg_sub_neg, near_sub_comm start finish, neg_mul, near_neg, neg_div, near_neg,
    ← neg_add, near_neg]

/-- An end at an edge, beyond another that the finish is not beyond, is taken past the edge across
from the first by a cut at the second. -/
structure Overshoots (start finish opposite edge startAcross finishAcross : ℚ) : Prop where
  numbers : OnGrid Format.binary64 start ∧ OnGrid Format.binary64 finish ∧
    OnGrid Format.binary64 opposite
  numbersAcross : OnGrid Format.binary64 edge ∧ OnGrid Format.binary64 startAcross ∧
    OnGrid Format.binary64 finishAcross
  between : opposite ≤ finish ∧ finish ≤ start
  across : finishAcross ≤ edge ∧ edge < startAcross
  past : slid start finish edge startAcross finishAcross < opposite

theorem near_mono : Monotone near := nearest_mono _

theorem near_nonneg {number : ℚ} (nonneg : 0 ≤ number) : 0 ≤ near number := nearest_nonneg nonneg

theorem near_closest (number : ℚ) {other : ℚ} (onGrid : OnGrid Format.binary64 other) :
    |near number - number| ≤ |other - number| := nearest_closest number onGrid

theorem near_bounds {number : ℚ} (whole : Whole Format.binary64 number) (positive : 0 < number) :
    63 / 64 * number ≤ near number ∧ near number ≤ 65 / 64 * number := by
  have close := abs_le.mp (whole.abs_nearest_sub_le positive)
  have small : number / 2 ^ Format.binary64.mantissaBits ≤ number / 64 :=
    div_le_div_of_nonneg_left positive.le (by norm_num) (by norm_num [Format.mantissaBits])
  rw [near]
  constructor <;> linarith

theorem near_le_two_mul {number : ℚ} (whole : Whole Format.binary64 number)
    (positive : 0 < number) : near (65 / 48 * number) ≤ 2 * number := by
  have more : 0 < 65 / 48 * number := by positivity
  have close := (abs_le.mp (abs_nearest_sub_le Format.binary64 more)).2
  have one := whole.unit_le positive
  rw [near]
  obtain lowest | small := half_spacing_le Format.binary64 more
  · rw [lowest, ← unit] at close
    linarith
  · have little : 65 / 48 * number / 2 ^ Format.binary64.mantissaBits ≤ 65 / 48 * number / 4 :=
      div_le_div_of_nonneg_left more.le (by norm_num) (by norm_num [Format.mantissaBits])
    linarith

theorem products_lt {first second third fourth small : ℚ}
    (positive : (0 < first ∧ 0 < second) ∧ 0 < third ∧ 0 < fourth) (some : 0 < small)
    (left : small / 2 ≤ 65 / 64 * first * (65 / 64 * second))
    (right : small / 2 ≤ 65 / 64 * third * (65 / 64 * fourth)) :
    256 / 189 * small < (first + fourth / 2) * (second + third) := by
  obtain ⟨⟨firstPositive, secondPositive⟩, thirdPositive, fourthPositive⟩ := positive
  have bound : 2048 / 4225 * small ≤ first * second := by linarith
  have otherBound : 2048 / 4225 * small ≤ third * fourth := by linarith
  have square : 2 * (2048 / 4225 * small) ^ 2 ≤ (first * third + fourth * second / 2) ^ 2 := by
    have both : (2048 / 4225 * small) * (2048 / 4225 * small) ≤
        (first * second) * (third * fourth) :=
      mul_le_mul bound otherBound (by positivity) (by positivity)
    have apart := sq_nonneg (first * third - fourth * second / 2)
    linarith
  have cross : 7 / 5 * (2048 / 4225 * small) ≤ first * third + fourth * second / 2 := by
    refine le_of_sq_le_sq ?_ (by positivity)
    nlinarith [sq_nonneg (2048 / 4225 * small)]
  linarith

theorem half_least_le {first second : ℚ} (whole : Whole Format.binary64 first)
    (otherWhole : Whole Format.binary64 second) (positive : 0 < first) (otherPositive : 0 < second)
    (counts : near (near first * near second) ≠ 0) :
    least / 2 ≤ 65 / 64 * first * (65 / 64 * second) := by
  have nonneg := near_nonneg positive.le
  have otherNonneg := near_nonneg otherPositive.le
  have both := mul_nonneg nonneg otherNonneg
  have half := unit_le_two_mul_of_nearest_pos both ((near_nonneg both).lt_of_ne counts.symm)
  have bound := mul_le_mul (near_bounds whole positive).2
    (near_bounds otherWhole otherPositive).2 otherNonneg (by positivity)
  rw [least]
  linarith

def product (start finish edge startAcross : ℚ) : ℚ :=
  near (near (start - finish) * near (startAcross - edge))

def quotient (start finish edge startAcross finishAcross : ℚ) : ℚ :=
  near (product start finish edge startAcross / near (startAcross - finishAcross))

theorem slid_eq : slid start finish edge startAcross finishAcross =
    near (start - quotient start finish edge startAcross finishAcross) := by
  rw [slid, quotient, product, near_sub_comm finish start, near_sub_comm edge startAcross,
    near_sub_comm finishAcross startAcross, neg_mul_neg, div_neg, near_neg, ← sub_eq_add_neg]

theorem near_of_onGrid {number : ℚ} (onGrid : OnGrid Format.binary64 number) :
    near number = number := nearest_of_onGrid onGrid

theorem slid_le (onGrid : OnGrid Format.binary64 start) (below : finish ≤ start)
    (beyond : edge ≤ startAcross) (within : finishAcross ≤ startAcross) :
    slid start finish edge startAcross finishAcross ≤ start := by
  have nonneg : 0 ≤ quotient start finish edge startAcross finishAcross :=
    near_nonneg (div_nonneg (near_nonneg (mul_nonneg (near_nonneg (sub_nonneg.mpr below))
      (near_nonneg (sub_nonneg.mpr beyond)))) (near_nonneg (sub_nonneg.mpr within)))
  calc slid start finish edge startAcross finishAcross
      = near (start - quotient start finish edge startAcross finishAcross) := slid_eq
    _ ≤ near start := near_mono (sub_le_self _ nonneg)
    _ = start := near_of_onGrid onGrid

theorem le_slid (onGrid : OnGrid Format.binary64 start) (above : start ≤ finish)
    (within : startAcross ≤ edge) (beyond : startAcross ≤ finishAcross) :
    start ≤ slid start finish edge startAcross finishAcross := by
  have nonneg : 0 ≤ near (near (near (finish - start) * near (edge - startAcross)) /
      near (finishAcross - startAcross)) :=
    near_nonneg (div_nonneg (near_nonneg (mul_nonneg (near_nonneg (sub_nonneg.mpr above))
      (near_nonneg (sub_nonneg.mpr within)))) (near_nonneg (sub_nonneg.mpr beyond)))
  calc start = near start := (near_of_onGrid onGrid).symm
    _ ≤ slid start finish edge startAcross finishAcross :=
      near_mono (le_add_of_nonneg_right nonneg)

theorem slid_antitone {other : ℚ} (above : start ≤ finish) (within : startAcross ≤ edge)
    (numbers : Whole Format.binary64 (finishAcross - startAcross))
    (beyond : startAcross < finishAcross) (farther : finishAcross ≤ other) :
    slid start finish edge startAcross other ≤
      slid start finish edge startAcross finishAcross := by
  have positive := sub_pos.mpr beyond
  have divisor : 0 < near (finishAcross - startAcross) :=
    (mul_pos (by norm_num) positive).trans_le (near_bounds numbers positive).1
  refine near_mono (add_le_add_right (near_mono (div_le_div_of_nonneg_left (near_nonneg
    (mul_nonneg (near_nonneg (sub_nonneg.mpr above)) (near_nonneg (sub_nonneg.mpr within))))
      divisor (near_mono (sub_le_sub_right farther _)))) _)

namespace Overshoots

variable {opposite : ℚ}
  (overshoots : Overshoots start finish opposite edge startAcross finishAcross)

include overshoots

theorem quotient_ge : start - opposite +
    (opposite - slid start finish edge startAcross finishAcross) / 2 ≤
      quotient start finish edge startAcross finishAcross := by
  have past := overshoots.past
  have closest := near_closest
    (start - quotient start finish edge startAcross finishAcross) overshoots.numbers.2.2
  rw [slid_eq] at past ⊢
  generalize quotient start finish edge startAcross finishAcross = quotient at *
  generalize near (start - quotient) = moved at *
  by_contra less
  have back : moved < start - quotient := by linarith
  rw [abs_of_neg (sub_neg.mpr back)] at closest
  obtain ⟨same, _⟩ | ⟨same, _⟩ := abs_cases (opposite - (start - quotient)) <;>
    rw [same] at closest <;> linarith

theorem differences_nonneg : 0 ≤ near (start - finish) ∧ 0 ≤ near (startAcross - edge) ∧
    near (startAcross - edge) ≤ near (startAcross - finishAcross) := by
  obtain ⟨-, between⟩ := overshoots.between
  obtain ⟨below, beyond⟩ := overshoots.across
  exact ⟨near_nonneg (sub_nonneg.mpr between), near_nonneg (sub_nonneg.mpr beyond.le),
    near_mono (sub_le_sub_left below _)⟩

theorem quotient_pos : 0 < quotient start finish edge startAcross finishAcross := by
  have enough := overshoots.quotient_ge
  have past := overshoots.past
  obtain ⟨above, below⟩ := overshoots.between
  linarith

theorem product_pos : 0 < product start finish edge startAcross := by
  obtain ⟨along, across, -⟩ := overshoots.differences_nonneg
  have nonneg : 0 ≤ product start finish edge startAcross :=
    near_nonneg (mul_nonneg along across)
  refine nonneg.lt_of_ne fun none => overshoots.quotient_pos.ne ?_
  rw [quotient, ← none, zero_div, near_zero]

theorem numerator_pos : 0 < near (start - finish) ∧ 0 < near (startAcross - edge) := by
  obtain ⟨along, across, -⟩ := overshoots.differences_nonneg
  have some : near (start - finish) * near (startAcross - edge) ≠ 0 := by
    intro none
    refine overshoots.product_pos.ne' ?_
    rw [product, none, near_zero]
  exact ⟨along.lt_of_ne (left_ne_zero_of_mul some).symm,
    across.lt_of_ne (right_ne_zero_of_mul some).symm⟩

theorem denominator_pos : 0 < near (startAcross - finishAcross) :=
  overshoots.numerator_pos.2.trans_le overshoots.differences_nonneg.2.2

theorem distance_pos : 0 < start - finish := by
  by_contra none
  have less := near_mono (not_lt.mp none)
  rw [near_zero] at less
  exact less.not_gt overshoots.numerator_pos.1

theorem distance_whole : Whole Format.binary64 (start - finish) :=
  overshoots.numbers.1.whole.sub overshoots.numbers.2.1.whole

theorem quotient_le (large : 2 * least ≤ product start finish edge startAcross) :
    quotient start finish edge startAcross finishAcross ≤ 2 * (start - finish) := by
  have divisor := overshoots.denominator_pos
  have along := (near_bounds overshoots.distance_whole overshoots.distance_pos).2
  have part : product start finish edge startAcross / near (startAcross - finishAcross) ≤
      65 / 48 * (start - finish) := by
    rw [div_le_iff₀ divisor]
    calc product start finish edge startAcross
        ≤ 4 / 3 * (near (start - finish) * near (startAcross - edge)) :=
          nearest_le_of_two_units large (by decide)
      _ ≤ 4 / 3 * (65 / 64 * (start - finish) * near (startAcross - finishAcross)) := by
          refine mul_le_mul_of_nonneg_left (mul_le_mul along overshoots.differences_nonneg.2.2
            overshoots.numerator_pos.2.le ?_) (by norm_num)
          linarith [overshoots.distance_pos]
      _ = 65 / 48 * (start - finish) * near (startAcross - finishAcross) := by ring
  exact (near_mono part).trans (near_le_two_mul overshoots.distance_whole overshoots.distance_pos)

theorem product_eq_zero (small : product start finish edge startAcross = least) :
    product edge finishAcross (-opposite)
      (-slid start finish edge startAcross finishAcross) = 0 := by
  obtain ⟨below, beyond⟩ := overshoots.across
  have past := overshoots.past
  have enough := overshoots.quotient_ge
  generalize moved : slid start finish edge startAcross finishAcross = place at *
  by_contra nonzero
  rw [product, neg_sub_neg] at nonzero
  have across := overshoots.numbersAcross
  have overWhole : Whole Format.binary64 (opposite - place) := by
    rw [← moved]
    exact overshoots.numbers.2.2.whole.sub (whole_nearest _ _)
  have acrossWhole : Whole Format.binary64 (startAcross - edge) :=
    across.2.1.whole.sub across.1.whole
  have restWhole : Whole Format.binary64 (edge - finishAcross) :=
    across.1.whole.sub across.2.2.whole
  have widthWhole : Whole Format.binary64 (startAcross - finishAcross) :=
    across.2.1.whole.sub across.2.2.whole
  have excess : 0 < opposite - place := sub_pos.mpr past
  have rest : 0 < edge - finishAcross := by
    refine (sub_nonneg.mpr below).lt_of_ne fun none => nonzero ?_
    rw [← none, near_zero, zero_mul, near_zero]
  have one : 0 < least := unit_pos _
  have distance := overshoots.distance_pos
  have left := half_least_le overshoots.distance_whole acrossWhole distance (sub_pos.mpr beyond)
    overshoots.product_pos.ne'
  have right := half_least_le restWhole overWhole rest excess nonzero
  have wide : 0 < startAcross - finishAcross := by linarith
  have large : 2 * least ≤ quotient start finish edge startAcross finishAcross := by
    have firstUnit : least ≤ start - finish := overshoots.distance_whole.unit_le distance
    have lastUnit : least ≤ opposite - place := overWhole.unit_le excess
    have more : least < quotient start finish edge startAcross finishAcross := by
      linarith [overshoots.between.1]
    exact ((whole_nearest _ _).eq_unit_or overshoots.quotient_pos).resolve_left more.ne'
  have most : quotient start finish edge startAcross finishAcross *
      (63 / 64 * (startAcross - finishAcross)) ≤ 4 / 3 * least := by
    have divisor := overshoots.denominator_pos
    have bound : quotient start finish edge startAcross finishAcross ≤ 4 / 3 *
        (product start finish edge startAcross / near (startAcross - finishAcross)) :=
      nearest_le_of_two_units large (by decide)
    rw [small, ← mul_div_assoc, le_div_iff₀ divisor] at bound
    refine (mul_le_mul_of_nonneg_left (near_bounds widthWhole wide).1 ?_).trans bound
    exact overshoots.quotient_pos.le
  have contrary := products_lt ⟨⟨distance, sub_pos.mpr beyond⟩, rest, excess⟩ one left right
  have part : start - finish + (opposite - place) / 2 ≤
      quotient start finish edge startAcross finishAcross := by
    linarith [overshoots.between.1]
  have total : startAcross - edge + (edge - finishAcross) = startAcross - finishAcross := by ring
  rw [total] at contrary
  have scaled := mul_le_mul_of_nonneg_right part wide.le
  linarith

end Overshoots

end Clip

end Raster
