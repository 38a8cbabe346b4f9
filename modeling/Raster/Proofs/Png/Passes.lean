import Mathlib.Algebra.Order.Ring.Nat
import Mathlib.Data.Nat.ModEq
import Raster.Png.Interlace
import Raster.Proofs.Png.Picture

/-!
The shifts and biases of a pass take the places of its lattice, and the lattices of an image
together take every place of it.
-/

namespace Raster.Png

theorem mem_along {first step extent place : Nat} :
    place ∈ along first step extent ↔
      place < extent ∧ first ≤ place ∧ (place - first) % step = 0 := by
  simp [along]

theorem along_eq_map {first step : Nat} (start : first < step) : ∀ extent,
    along first step extent =
      (List.range ((extent + (step - 1 - first)) / step)).map fun index =>
        first + index * step := by
  intro extent
  induction extent with
  | zero =>
      have none : (0 + (step - 1 - first)) / step = 0 := Nat.div_eq_of_lt (by omega)
      rw [none]
      rfl
  | succ extent ih =>
      have grown : (extent + 1 + (step - 1 - first)) / step =
          (extent + (step - 1 - first)) / step +
            if step ∣ extent + (step - 1 - first) + 1 then 1 else 0 := by
        rw [← Nat.succ_div, Nat.add_right_comm]
      have split : along first step (extent + 1) = along first step extent ++
          if first ≤ extent ∧ (extent - first) % step = 0 then [extent] else [] := by
        rw [along, List.range_succ, List.filter_append, ← along]
        by_cases taken : first ≤ extent ∧ (extent - first) % step = 0 <;> simp [taken]
      rw [grown, split, ih]
      by_cases reached : first ≤ extent
      · have sum : extent + (step - 1 - first) + 1 = extent - first + step := by omega
        by_cases taken : step ∣ extent - first
        · obtain ⟨index, place⟩ := taken
          have count : (extent + (step - 1 - first)) / step = index := by
            apply Nat.div_eq_of_lt_le
            · rw [Nat.mul_comm]
              omega
            · rw [Nat.add_mul, Nat.mul_comm]
              omega
          have found : first + index * step = extent := by
            rw [Nat.mul_comm]
            omega
          have whole : (extent - first) % step = 0 := by simp [place]
          have divides : step ∣ extent + (step - 1 - first) + 1 := by
            rw [sum, place]
            exact ⟨index + 1, rfl⟩
          rw [if_pos ⟨reached, whole⟩, if_pos divides, count, List.range_succ, List.map_append,
            List.map_singleton, found]
        · have partly : (extent - first) % step ≠ 0 := fun zero =>
            taken (Nat.dvd_of_mod_eq_zero zero)
          have misses : ¬step ∣ extent + (step - 1 - first) + 1 := by
            rw [sum, Nat.dvd_add_self_right]
            exact taken
          rw [if_neg fun both => partly both.2, if_neg misses, List.append_nil, Nat.add_zero]
      · have misses : ¬step ∣ extent + (step - 1 - first) + 1 :=
          Nat.not_dvd_of_pos_of_lt (by omega) (by omega)
        rw [if_neg fun both => reached both.1, if_neg misses, List.append_nil, Nat.add_zero]

theorem length_along {first step : Nat} (start : first < step) (extent : Nat) :
    (along first step extent).length = (extent + (step - 1 - first)) / step := by
  rw [along_eq_map start, List.length_map, List.length_range]

/-! One axis of a pass. -/

theorem extent_toNat {extent : Nat} {bias shift : UInt32} (fits : extent + bias.toNat < 2 ^ 32)
    (shallow : shift.toNat ≤ 3) (small : bias.toNat < 2 ^ shift.toNat) :
    ((UInt32.ofNat extent + bias) >>> shift).toNat =
      (along (2 ^ shift.toNat - 1 - bias.toNat) (2 ^ shift.toNat) extent).length := by
  have power : 2 ^ shift.toNat ≤ 2 ^ 3 := Nat.pow_le_pow_right (by decide) shallow
  have back : 2 ^ shift.toNat - 1 - (2 ^ shift.toNat - 1 - bias.toNat) = bias.toNat := by omega
  rw [length_along (by omega), back, UInt32.toNat_shiftRight, UInt32.toNat_add,
    UInt32.toNat_ofNat_of_lt' (show extent < 2 ^ 32 by omega), Nat.mod_eq_of_lt (by omega),
    Nat.mod_eq_of_lt (show shift.toNat < 32 by omega), Nat.shiftRight_eq_div_pow]

theorem place_toNat {index : Nat} {bias shift : UInt32}
    (fits : 2 ^ shift.toNat - 1 - bias.toNat + index * 2 ^ shift.toNat < 2 ^ 32)
    (shallow : shift.toNat ≤ 3) (small : bias.toNat < 2 ^ shift.toNat) :
    ((UInt32.ofNat index <<< shift) + ((1 <<< shift) - bias - 1)).toNat =
      2 ^ shift.toNat - 1 - bias.toNat + index * 2 ^ shift.toNat := by
  have power : 2 ^ shift.toNat ≤ 2 ^ 3 := Nat.pow_le_pow_right (by decide) shallow
  have positive : 0 < 2 ^ shift.toNat := Nat.two_pow_pos _
  have bound : index ≤ index * 2 ^ shift.toNat := Nat.le_mul_of_pos_right _ positive
  have amount : shift.toNat % 32 = shift.toNat := Nat.mod_eq_of_lt (by omega)
  have scaled : (UInt32.ofNat index <<< shift).toNat = index * 2 ^ shift.toNat := by
    rw [UInt32.toNat_shiftLeft, UInt32.toNat_ofNat_of_lt' (show index < 2 ^ 32 by omega), amount,
      Nat.shiftLeft_eq, Nat.mod_eq_of_lt (by omega)]
  have step : ((1 : UInt32) <<< shift).toNat = 2 ^ shift.toNat := by
    rw [UInt32.toNat_shiftLeft, amount, Nat.shiftLeft_eq]
    exact (Nat.one_mul _).symm ▸ Nat.mod_eq_of_lt (by omega)
  have unbiased : ((1 : UInt32) <<< shift - bias).toNat = 2 ^ shift.toNat - bias.toNat := by
    rw [UInt32.toNat_sub_of_le _ _ (UInt32.le_iff_toNat_le.mpr (by omega)), step]
  have first : ((1 : UInt32) <<< shift - bias - 1).toNat = 2 ^ shift.toNat - bias.toNat - 1 := by
    rw [UInt32.toNat_sub_of_le _ _ (UInt32.le_iff_toNat_le.mpr (by simp [unbiased]; omega)),
      unbiased]
    rfl
  rw [UInt32.toNat_add, scaled, first, Nat.mod_eq_of_lt (by omega)]
  omega

namespace Pass

def lattice (pass : Pass) : Lattice where
  firstX := 2 ^ pass.shiftX.toNat - 1 - pass.biasX.toNat
  firstY := 2 ^ pass.shiftY.toNat - 1 - pass.biasY.toNat
  stepX := 2 ^ pass.shiftX.toNat
  stepY := 2 ^ pass.shiftY.toNat

/-- Shifts and biases are small, and sides that are rounded up do not wrap. -/
structure Regular (pass : Pass) (width height : Nat) : Prop where
  shallowX : pass.shiftX.toNat ≤ 3
  shallowY : pass.shiftY.toNat ≤ 3
  smallX : pass.biasX.toNat < 2 ^ pass.shiftX.toNat
  smallY : pass.biasY.toNat < 2 ^ pass.shiftY.toNat
  fitsX : width + pass.biasX.toNat < 2 ^ 32
  fitsY : height + pass.biasY.toNat < 2 ^ 32

theorem all_map_lattice (interlaced : Bool) :
    (all interlaced).map lattice = Lattice.all interlaced := by
  cases interlaced <;> decide

theorem all_regular {interlaced : Bool} {width height : Nat} (widthBound : width < 2 ^ 32)
    (heightBound : height < 2 ^ 32)
    (roundsUp : interlaced = true → width + 7 < 2 ^ 32 ∧ height + 7 < 2 ^ 32) :
    ∀ pass ∈ all interlaced, pass.Regular width height := by
  have shapes : ∀ interlaced, ∀ pass ∈ all interlaced,
      (pass.shiftX.toNat ≤ 3 ∧ pass.shiftY.toNat ≤ 3 ∧
        pass.biasX.toNat < 2 ^ pass.shiftX.toNat ∧ pass.biasY.toNat < 2 ^ pass.shiftY.toNat) ∧
      pass.biasX.toNat ≤ (if interlaced then 7 else 0) ∧
      pass.biasY.toNat ≤ (if interlaced then 7 else 0) := by
    decide
  intro pass member
  obtain ⟨⟨shallowX, shallowY, smallX, smallY⟩, biasX, biasY⟩ := shapes interlaced pass member
  refine ⟨shallowX, shallowY, smallX, smallY, ?_, ?_⟩
  · cases interlaced with
    | false => exact Nat.lt_of_le_of_lt (Nat.add_le_add_left biasX width) widthBound
    | true => exact Nat.lt_of_le_of_lt (Nat.add_le_add_left biasX width) (roundsUp rfl).1
  · cases interlaced with
    | false => exact Nat.lt_of_le_of_lt (Nat.add_le_add_left biasY height) heightBound
    | true => exact Nat.lt_of_le_of_lt (Nat.add_le_add_left biasY height) (roundsUp rfl).2

def columns (pass : Pass) (width : Nat) : List Nat :=
  along pass.lattice.firstX pass.lattice.stepX width

def lines (pass : Pass) (height : Nat) : List Nat :=
  along pass.lattice.firstY pass.lattice.stepY height

section Regular

variable {pass : Pass} {width height : Nat}

theorem width_toNat (regular : pass.Regular width height) :
    (pass.width (UInt32.ofNat width)).toNat = (pass.columns width).length :=
  extent_toNat regular.fitsX regular.shallowX regular.smallX

theorem height_toNat (regular : pass.Regular width height) :
    (pass.height (UInt32.ofNat height)).toNat = (pass.lines height).length :=
  extent_toNat regular.fitsY regular.shallowY regular.smallY

theorem columns_eq (regular : pass.Regular width height) :
    pass.columns width = (List.range (pass.columns width).length).map fun x =>
      (pass.imageX (UInt32.ofNat x)).toNat := by
  have start : pass.lattice.firstX < pass.lattice.stepX := by
    have small := regular.smallX
    simp only [lattice]
    omega
  have counted := along_eq_map start width
  rw [← length_along start] at counted
  conv_lhs => rw [columns, counted]
  apply List.map_congr_left
  intro x member
  have taken : pass.lattice.firstX + x * pass.lattice.stepX ∈ pass.columns width := by
    rw [columns, counted]
    exact List.mem_map_of_mem member
  have inside := (mem_along.mp taken).1
  have fits := regular.fitsX
  have below : pass.lattice.firstX + x * pass.lattice.stepX < 2 ^ 32 := by omega
  exact (place_toNat below regular.shallowX regular.smallX).symm

theorem lines_eq (regular : pass.Regular width height) :
    pass.lines height = (List.range (pass.lines height).length).map fun y =>
      (pass.imageY (UInt32.ofNat y)).toNat := by
  have start : pass.lattice.firstY < pass.lattice.stepY := by
    have small := regular.smallY
    simp only [lattice]
    omega
  have counted := along_eq_map start height
  rw [← length_along start] at counted
  conv_lhs => rw [lines, counted]
  apply List.map_congr_left
  intro y member
  have taken : pass.lattice.firstY + y * pass.lattice.stepY ∈ pass.lines height := by
    rw [lines, counted]
    exact List.mem_map_of_mem member
  have inside := (mem_along.mp taken).1
  have fits := regular.fitsY
  have below : pass.lattice.firstY + y * pass.lattice.stepY < 2 ^ 32 := by omega
  exact (place_toNat below regular.shallowY regular.smallY).symm

def rowPlaces (pass : Pass) (width y : Nat) : List (Nat × Nat) :=
  (pass.columns width).map fun x => (y, x)

def places (pass : Pass) (width height : Nat) : List (List (Nat × Nat)) :=
  (pass.lines height).map (pass.rowPlaces width)

@[simp] theorem length_rowPlaces (pass : Pass) (width y : Nat) :
    (pass.rowPlaces width y).length = (pass.columns width).length :=
  List.length_map _

@[simp] theorem length_places (pass : Pass) (width height : Nat) :
    (pass.places width height).length = (pass.lines height).length :=
  List.length_map _

theorem getElem_rowPlaces (regular : pass.Regular width height) {y x : Nat}
    (bound : x < (pass.rowPlaces width y).length) :
    (pass.rowPlaces width y)[x] = (y, (pass.imageX (UInt32.ofNat x)).toNat) := by
  have column : x < (pass.columns width).length := by simpa using bound
  simp only [rowPlaces, List.getElem_map]
  rw [List.getElem_of_eq (columns_eq regular) column]
  simp

theorem getElem_lines (regular : pass.Regular width height) {y : Nat}
    (bound : y < (pass.lines height).length) :
    (pass.lines height)[y] = (pass.imageY (UInt32.ofNat y)).toNat := by
  rw [List.getElem_of_eq (lines_eq regular) bound]
  simp

theorem getElem_places (regular : pass.Regular width height) {y : Nat}
    (bound : y < (pass.places width height).length) :
    (pass.places width height)[y] =
      pass.rowPlaces width (pass.imageY (UInt32.ofNat y)).toNat := by
  simp only [places, List.getElem_map, getElem_lines regular]

theorem imageY_lt (regular : pass.Regular width height) {y : Nat}
    (bound : y < (pass.lines height).length) :
    (pass.imageY (UInt32.ofNat y)).toNat < height := by
  rw [← getElem_lines regular bound]
  exact (mem_along.mp (List.getElem_mem bound)).1

theorem rowPlaces_inside {y : Nat} (row : y < height) :
    ∀ place ∈ pass.rowPlaces width y, place.1 < height ∧ place.2 < width := by
  intro place member
  obtain ⟨x, taken, rfl⟩ := List.mem_map.mp member
  exact ⟨row, (mem_along.mp taken).1⟩

theorem lattice_rows (regular : pass.Regular width height) :
    pass.lattice.rows width height =
      if pass.isEmpty (UInt32.ofNat width) (UInt32.ofNat height) then []
      else pass.places width height := by
  have wide := width_toNat regular
  have high := height_toNat regular
  have rows : pass.lattice.rows width height =
      if (pass.columns width).isEmpty then [] else pass.places width height := rfl
  have isEmpty : pass.isEmpty (UInt32.ofNat width) (UInt32.ofNat height) =
      ((pass.columns width).isEmpty || (pass.lines height).isEmpty) := by
    rw [Pass.isEmpty, Bool.eq_iff_iff]
    simp only [Bool.or_eq_true, beq_iff_eq, List.isEmpty_iff_length_eq_zero, ← wide, ← high,
      ← UInt32.toNat_inj]
    rfl
  rw [rows, isEmpty]
  cases noColumns : (pass.columns width).isEmpty with
  | true => rfl
  | false =>
      cases noLines : (pass.lines height).isEmpty with
      | true =>
          rw [List.isEmpty_iff] at noLines
          simp [places, noLines]
      | false => rfl

end Regular

end Pass

/-- Every place of an image stands in some stored row. -/
theorem storedRows_cover (interlaced : Bool) {width height y x : Nat} (row : y < height)
    (column : x < width) :
    ∃ places ∈ storedRows interlaced width height, (y, x) ∈ places := by
  have taken : ∀ lattice ∈ Lattice.all interlaced,
      lattice.firstX ≤ x ∧ (x - lattice.firstX) % lattice.stepX = 0 →
      lattice.firstY ≤ y ∧ (y - lattice.firstY) % lattice.stepY = 0 →
      ∃ places ∈ storedRows interlaced width height, (y, x) ∈ places := by
    intro lattice member columnTaken rowTaken
    have inColumns : x ∈ along lattice.firstX lattice.stepX width :=
      mem_along.mpr ⟨column, columnTaken⟩
    have inLines : y ∈ along lattice.firstY lattice.stepY height :=
      mem_along.mpr ⟨row, rowTaken⟩
    refine ⟨(along lattice.firstX lattice.stepX width).map fun x => (y, x), ?_, ?_⟩
    · refine List.mem_flatMap.mpr ⟨lattice, member, ?_⟩
      have filled : (along lattice.firstX lattice.stepX width).isEmpty = false := by
        simpa using List.ne_nil_of_mem inColumns
      simp only [Lattice.rows, filled]
      exact List.mem_map_of_mem inLines
    · exact List.mem_map_of_mem inColumns
  cases interlaced with
  | false => exact taken Lattice.whole (by decide) (by simp [Lattice.whole]; omega) (by
      simp [Lattice.whole]; omega)
  | true =>
      -- From the last lattice to the first, each takes half of what the later ones leave.
      by_cases lastTakes : y % 2 = 1
      · exact taken ⟨0, 1, 1, 2⟩ (by decide) (by simp; omega) (by simp; omega)
      by_cases sixthTakes : x % 2 = 1
      · exact taken ⟨1, 0, 2, 2⟩ (by decide) (by simp; omega) (by simp; omega)
      by_cases fifthTakes : y % 4 = 2
      · exact taken ⟨0, 2, 2, 4⟩ (by decide) (by simp; omega) (by simp; omega)
      by_cases fourthTakes : x % 4 = 2
      · exact taken ⟨2, 0, 4, 4⟩ (by decide) (by simp; omega) (by simp; omega)
      by_cases thirdTakes : y % 8 = 4
      · exact taken ⟨0, 4, 4, 8⟩ (by decide) (by simp; omega) (by simp; omega)
      by_cases secondTakes : x % 8 = 4
      · exact taken ⟨4, 0, 8, 8⟩ (by decide) (by simp; omega) (by simp; omega)
      exact taken ⟨0, 0, 8, 8⟩ (by decide) (by simp; omega) (by simp; omega)

theorem storedRows_inside {interlaced : Bool} {width height : Nat} {places : List (Nat × Nat)}
    (stored : places ∈ storedRows interlaced width height) :
    ∀ place ∈ places, place.1 < height ∧ place.2 < width := by
  intro place member
  obtain ⟨lattice, -, inRows⟩ := List.mem_flatMap.mp stored
  simp only [Lattice.rows] at inRows
  split at inRows
  · simp at inRows
  · obtain ⟨y, inLines, rfl⟩ := List.mem_map.mp inRows
    obtain ⟨x, inColumns, rfl⟩ := List.mem_map.mp member
    exact ⟨(mem_along.mp inLines).1, (mem_along.mp inColumns).1⟩

end Raster.Png
