import Mathlib.Data.Fintype.Basic
import Mathlib.Data.Set.Function
import Raster.Proofs.Png.Transfer

/-!
The seven passes of an interlaced image share out its pixels. Each pixel has one pass, and one
column and one row in it; a pass without columns or rows has none of them.
-/

namespace Raster.Png

namespace Pass

theorem AxisExact.place_eq {side bias shift count index : UInt32} {place : UInt32 → UInt32}
    (exact : AxisExact side bias shift count place) (taken : index < count) :
    (place index).toNat < side.toNat ∧
      (place index).toNat % 2 ^ shift.toNat = 2 ^ shift.toNat - bias.toNat - 1 ∧
      (place index).toNat / 2 ^ shift.toNat = index.toNat := by
  have below := UInt32.lt_iff_toNat_lt.mp taken
  have first : 2 ^ shift.toNat - bias.toNat - 1 < 2 ^ shift.toNat := by
    have small := exact.small
    omega
  have placed := exact.placed index.toNat below
  have inside := exact.inside index.toNat below
  rw [UInt32.ofNat_toNat] at placed inside
  refine ⟨inside, ?_, ?_⟩
  · rw [placed, Nat.mul_comm, Nat.mul_add_mod, Nat.mod_eq_of_lt first]
  · rw [placed, Nat.mul_comm, Nat.mul_add_div (by omega), Nat.div_eq_of_lt first, Nat.add_zero]

theorem AxisExact.exists_place {side bias shift count target : UInt32} {place : UInt32 → UInt32}
    (exact : AxisExact side bias shift count place) (inside : target < side)
    (residue : target.toNat % 2 ^ shift.toNat = 2 ^ shift.toNat - bias.toNat - 1) :
    ∃ index < count, place index = target := by
  have small := exact.small
  have bound := UInt32.lt_iff_toNat_lt.mp inside
  have split := Nat.div_add_mod' target.toNat (2 ^ shift.toNat)
  have below : target.toNat / 2 ^ shift.toNat < count.toNat := by
    rw [exact.counted, Nat.lt_iff_add_one_le, Nat.le_div_iff_mul_le (by omega), Nat.add_mul]
    omega
  have word : target.toNat / 2 ^ shift.toNat < 2 ^ 32 := Nat.lt_trans below count.toNat_lt
  refine ⟨UInt32.ofNat (target.toNat / 2 ^ shift.toNat), ?_, ?_⟩
  · rw [UInt32.lt_iff_toNat_lt, UInt32.toNat_ofNat_of_lt' word]
    exact below
  · rw [← UInt32.toNat_inj, exact.placed _ below, ← residue]
    exact split

def Takes (pass : Pass) (x y : Nat) : Prop :=
  x % 2 ^ pass.shiftX.toNat = 2 ^ pass.shiftX.toNat - pass.biasX.toNat - 1 ∧
  y % 2 ^ pass.shiftY.toNat = 2 ^ pass.shiftY.toNat - pass.biasY.toNat - 1

instance (pass : Pass) (x y : Nat) : Decidable (pass.Takes x y) :=
  inferInstanceAs (Decidable (_ ∧ _))

def numbered (number : Fin 7) : Pass := seven.get number

theorem numbered_mem (number : Fin 7) : numbered number ∈ seven := List.get_mem ..

end Pass

/-- A stored sample position: the number of a pass, and a column and a row of that pass. -/
structure Slot where
  number : Fin 7
  x : UInt32
  y : UInt32

namespace Slot

def pass (slot : Slot) : Pass := Pass.numbered slot.number

def StandsIn (slot : Slot) (width height : UInt32) : Prop :=
  slot.x < slot.pass.width width ∧ slot.y < slot.pass.height height

def place (slot : Slot) : UInt32 × UInt32 := (slot.pass.imageX slot.x, slot.pass.imageY slot.y)

end Slot

theorem takes_iff_mod (number : Fin 7) (x y : Nat) :
    (Pass.numbered number).Takes x y ↔ (Pass.numbered number).Takes (x % 8) (y % 8) := by
  have divides : ∀ number : Fin 7,
      2 ^ (Pass.numbered number).shiftX.toNat ∣ 8 ∧
        2 ^ (Pass.numbered number).shiftY.toNat ∣ 8 := by
    decide
  obtain ⟨stepX, stepY⟩ := divides number
  rw [Pass.Takes, Pass.Takes, Nat.mod_mod_of_dvd _ stepX, Nat.mod_mod_of_dvd _ stepY]

theorem existsUnique_takes (x y : Nat) : ∃! number : Fin 7, (Pass.numbered number).Takes x y := by
  have every : ∀ x y : Fin 8, ∃ number : Fin 7, (Pass.numbered number).Takes x y ∧
      ∀ other : Fin 7, (Pass.numbered other).Takes x y → other = number := by
    decide
  obtain ⟨number, takes, only⟩ :=
    every ⟨x % 8, Nat.mod_lt _ (by decide)⟩ ⟨y % 8, Nat.mod_lt _ (by decide)⟩
  exact ⟨number, (takes_iff_mod number x y).mpr takes,
    fun other taken => only other ((takes_iff_mod other x y).mp taken)⟩

section Image

variable {width height : UInt32} (precise : ∀ pass ∈ Pass.seven, pass.Exact width height)

include precise

theorem Slot.exact (slot : Slot) : slot.pass.Exact width height :=
  precise slot.pass (Pass.numbered_mem slot.number)

theorem Slot.takes {slot : Slot} (stands : slot.StandsIn width height) :
    slot.pass.Takes slot.place.1.toNat slot.place.2.toNat :=
  ⟨((slot.exact precise).columns.place_eq stands.1).2.1,
    ((slot.exact precise).lines.place_eq stands.2).2.1⟩

theorem slots_mapsTo : Set.MapsTo Slot.place {slot | slot.StandsIn width height}
    {place | place.1 < width ∧ place.2 < height} := by
  intro slot stands
  have passExact := slot.exact precise
  exact ⟨UInt32.lt_iff_toNat_lt.mpr (passExact.columns.place_eq stands.1).1,
    UInt32.lt_iff_toNat_lt.mpr (passExact.lines.place_eq stands.2).1⟩

theorem slots_injOn : Set.InjOn Slot.place {slot | slot.StandsIn width height} := by
  intro first firstStands second secondStands same
  have taken := second.takes precise secondStands
  rw [← same] at taken
  have sameNumber : first.number = second.number :=
    (existsUnique_takes _ _).unique (first.takes precise firstStands) taken
  obtain ⟨number, x, y⟩ := first
  obtain ⟨other, otherX, otherY⟩ := second
  obtain rfl : number = other := sameNumber
  have passExact := Slot.exact precise ⟨number, x, y⟩
  obtain ⟨placeX, placeY⟩ := Prod.mk.inj same
  have columns := (passExact.columns.place_eq firstStands.1).2.2
  have lines := (passExact.lines.place_eq firstStands.2).2.2
  have otherColumns := (passExact.columns.place_eq secondStands.1).2.2
  have otherLines := (passExact.lines.place_eq secondStands.2).2.2
  rw [Slot.mk.injEq]
  refine ⟨rfl, UInt32.toNat_inj.mp ?_, UInt32.toNat_inj.mp ?_⟩
  · rw [← columns, ← otherColumns]
    exact congrArg (fun place => place.toNat / _) placeX
  · rw [← lines, ← otherLines]
    exact congrArg (fun place => place.toNat / _) placeY

theorem slots_surjOn : Set.SurjOn Slot.place {slot | slot.StandsIn width height}
    {place | place.1 < width ∧ place.2 < height} := by
  rintro ⟨targetX, targetY⟩ ⟨column, row⟩
  obtain ⟨number, ⟨takesX, takesY⟩, -⟩ := existsUnique_takes targetX.toNat targetY.toNat
  have passExact := precise (Pass.numbered number) (Pass.numbered_mem number)
  obtain ⟨x, belowX, placeX⟩ := passExact.columns.exists_place column takesX
  obtain ⟨y, belowY, placeY⟩ := passExact.lines.exists_place row takesY
  exact ⟨⟨number, x, y⟩, ⟨belowX, belowY⟩, Prod.ext placeX placeY⟩

end Image

theorem Pass.isEmpty_iff (number : Fin 7) (width height : UInt32) :
    (Pass.numbered number).isEmpty width height = true ↔
      ∀ slot : Slot, slot.number = number → ¬slot.StandsIn width height := by
  rw [isEmpty, Bool.or_eq_true, beq_iff_eq, beq_iff_eq]
  constructor
  · rintro empty ⟨_, x, y⟩ rfl ⟨column, row⟩
    rcases empty with none | none
    · exact UInt32.not_lt_zero (none ▸ column)
    · exact UInt32.not_lt_zero (none ▸ row)
  · intro none
    by_contra filled
    obtain ⟨hasColumns, hasRows⟩ := not_or.mp filled
    exact none ⟨number, 0, 0⟩ rfl
      ⟨UInt32.pos_iff_ne_zero.mpr hasColumns, UInt32.pos_iff_ne_zero.mpr hasRows⟩

theorem readPasses_filter (mask : Mask) (passes : List Pass) (rows : List (Array UInt8))
    (plane : Array UInt8) :
    readPasses mask passes rows plane =
      readPasses mask (passes.filter fun pass =>
        !pass.isEmpty mask.header.width mask.header.height) rows plane := by
  induction passes generalizing rows plane with
  | nil => rfl
  | cons pass later ih =>
      by_cases empty : pass.isEmpty mask.header.width mask.header.height = true
      · rw [List.filter_cons_of_neg (by simp [empty]), readPasses, if_pos empty]
        exact ih rows plane
      · rw [List.filter_cons_of_pos (by simp [empty]), readPasses, readPasses, if_neg empty,
          if_neg empty]
        split
        · rfl
        · exact ih _ _

/-- In every image with sides of at most 31 bits the pixels and the stored samples of the seven
passes answer one to one. No size or place on the way leaves 32 bits, and the passes that are left
out are those without a sample. -/
theorem passes_partition {width height : UInt32} (wide : width.toNat < 2 ^ 31)
    (high : height.toNat < 2 ^ 31) :
    Set.BijOn Slot.place {slot | slot.StandsIn width height}
      {place | place.1 < width ∧ place.2 < height} ∧
    (∀ pass ∈ Pass.seven, pass.Exact width height) ∧
    (∀ number : Fin 7, (Pass.numbered number).isEmpty width height = true ↔
      ∀ slot : Slot, slot.number = number → ¬slot.StandsIn width height) ∧
    (∀ mask : Mask, mask.header.width = width → mask.header.height = height →
      ∀ rows plane, readPasses mask Pass.seven rows plane =
        readPasses mask (Pass.seven.filter fun pass => !pass.isEmpty width height) rows plane) := by
  have precise : ∀ pass ∈ Pass.seven, pass.Exact width height := by
    intro pass member
    exact (Pass.all_regular (by omega) (by omega) (fun _ => by omega) pass
      (show pass ∈ Pass.all true from member)).exact
  refine ⟨⟨slots_mapsTo precise, slots_injOn precise, slots_surjOn precise⟩, precise,
    fun number => Pass.isEmpty_iff number width height, ?_⟩
  rintro mask rfl rfl rows plane
  exact readPasses_filter mask Pass.seven rows plane

theorem passes_partition_wide :
    ((0x7fffffff : UInt32).toNat < 2 ^ 31 ∧ (1 : UInt32).toNat < 2 ^ 31) ∧
    Set.BijOn Slot.place {slot | slot.StandsIn 0x7fffffff 1}
      {place | place.1 < 0x7fffffff ∧ place.2 < 1} ∧
    (∀ pass ∈ Pass.seven, pass.Exact 0x7fffffff 1) ∧
    (∀ slot : Slot, slot.number ∈ [2, 4, 6] → ¬slot.StandsIn 0x7fffffff 1) ∧
    (∀ rows plane,
      readPasses ⟨⟨0x7fffffff, 1, 1, .gray, true⟩, #[], rows, .exhausted⟩ Pass.seven rows plane =
        readPasses ⟨⟨0x7fffffff, 1, 1, .gray, true⟩, #[], rows, .exhausted⟩
          [⟨7, 7, 3, 3⟩, ⟨3, 7, 3, 3⟩, ⟨1, 3, 2, 2⟩, ⟨0, 1, 1, 1⟩] rows plane) := by
  have wide : (0x7fffffff : UInt32).toNat < 2 ^ 31 := by decide
  have high : (1 : UInt32).toNat < 2 ^ 31 := by decide
  obtain ⟨bijective, precise, empty, skipped⟩ := passes_partition wide high
  have none : ∀ number ∈ [2, 4, 6], (Pass.numbered number).isEmpty 0x7fffffff 1 = true := by
    decide
  refine ⟨⟨wide, high⟩, bijective, precise, ?_, ?_⟩
  · intro slot late
    exact (empty slot.number).mp (none _ late) slot rfl
  · intro rows plane
    exact skipped ⟨⟨0x7fffffff, 1, 1, .gray, true⟩, #[], rows, .exhausted⟩ rfl rfl rows plane

end Raster.Png
