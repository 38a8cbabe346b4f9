import Mathlib.Algebra.Group.Nat.Defs
import Raster.Png.Overlay
import Raster.Proofs.Storage

/-!
The plane of alphas that a mask is read into, and its transfer to a bitmap. Reading never changes
the size of the plane, and the transfer changes every visible row exactly once.
-/

namespace Raster.Png

theorem writeAlphas_size {mask : Mask} {pass : Pass} {samples : Array UInt8} {y x count : Nat}
    {plane next : Array UInt8}
    (written : writeAlphas mask pass samples y x count plane = .ok next) :
    next.size = plane.size := by
  induction count generalizing x plane with
  | zero =>
      simp only [writeAlphas, Except.ok.injEq] at written
      rw [written]
  | succ count ih =>
      rw [writeAlphas] at written
      split at written
      · simp at written
      · dsimp only at written
        split at written
        · rw [ih written, Array.size_setIfInBounds]
        · simp at written

theorem readPass_size {mask : Mask} {pass : Pass} {width y count : Nat}
    {rows later : List (Array UInt8)} {plane next : Array UInt8}
    (read : readPass mask pass width y count rows plane = .ok (next, later)) :
    next.size = plane.size := by
  induction count generalizing y rows plane with
  | zero =>
      simp only [readPass, Except.ok.injEq, Prod.mk.injEq] at read
      rw [read.1]
  | succ count ih =>
      cases rows with
      | nil =>
          rw [readPass] at read
          split at read <;> simp at read
      | cons row rest =>
          rw [readPass] at read
          split at read
          · simp at read
          · split at read
            · simp at read
            · rename_i written
              rw [ih read, writeAlphas_size written]

theorem readPasses_size {mask : Mask} {passes : List Pass} {rows : List (Array UInt8)}
    {plane next : Array UInt8} (read : readPasses mask passes rows plane = .ok next) :
    next.size = plane.size := by
  induction passes generalizing rows plane with
  | nil =>
      simp only [readPasses, Except.ok.injEq] at read
      rw [read]
  | cons pass later ih =>
      rw [readPasses] at read
      split at read
      · exact ih read
      · split at read
        · simp at read
        · rename_i passRead
          rw [ih read, readPass_size passRead]

theorem Mask.alphas_size {mask : Mask} {plane : Array UInt8} (read : mask.alphas = .ok plane) :
    plane.size = mask.header.width.toNat * mask.header.height.toNat := by
  rw [readPasses_size read, Array.size_replicate]

theorem Mask.check_eq_ok {mask : Mask} {bitmap : Bitmap} (checked : mask.check bitmap = .ok ()) :
    mask.header.width = bitmap.width ∧ mask.header.height = bitmap.height ∧
      mask.header.depth ≤ 8 := by
  simp only [Mask.check] at checked
  split at checked
  · simp at checked
  · rename_i sameSize
    split at checked
    · simp at checked
    · rename_i shallow
      simp only [not_or, ne_eq, Decidable.not_not] at sameSize
      exact ⟨sameSize.1, sameSize.2, Nat.not_lt.mp shallow⟩

theorem Mask.apply_of_read {mask : Mask} {bitmap : Bitmap} {plane : Array UInt8}
    (checked : mask.check bitmap = .ok ()) (read : mask.alphas = .ok plane) :
    mask.apply bitmap = writeRows plane 0 bitmap.height.toNat 0xff bitmap := by
  rw [apply, checked, read, ← (check_eq_ok checked).2.1]

theorem Mask.plane_size {mask : Mask} {bitmap : Bitmap} {plane : Array UInt8}
    (checked : mask.check bitmap = .ok ()) (read : mask.alphas = .ok plane) :
    plane.size = bitmap.height.toNat * bitmap.width.toNat := by
  obtain ⟨width, height, -⟩ := check_eq_ok checked
  rw [alphas_size read, width, height, Nat.mul_comm]

theorem writeRows_error {plane : Array UInt8} {y count : Nat} {common : UInt8} {bitmap : Bitmap}
    {failure : Failure} (failed : (writeRows plane y count common bitmap).1 = .error failure) :
    failure = .panicked := by
  induction count generalizing y common bitmap with
  | zero => simp [writeRows] at failed
  | succ count ih =>
      rw [writeRows] at failed
      dsimp only at failed
      split at failed
      · split at failed
        · exact ih failed
        · simpa using failed.symm
      · simpa using failed.symm

theorem alphaStart_toNat (width : UInt32) {y : Nat} (fits : y * width.toNat < 2 ^ 32)
    (row : y < 2 ^ 32) : (alphaStart width (UInt32.ofNat y)).toNat = y * width.toNat := by
  rw [alphaStart, UInt32.toNat_mul, UInt32.toNat_ofNat_of_lt' row, Nat.mod_eq_of_lt fits]

theorem nextRow_toNat {y : Nat} (row : y + 1 < 2 ^ 32) : (UInt32.ofNat y + 1).toNat = y + 1 := by
  rw [UInt32.toNat_add, UInt32.toNat_ofNat_of_lt' (show y < 2 ^ 32 by omega)]
  exact Nat.mod_eq_of_lt row

theorem alphaStop_toNat (width : UInt32) {y : Nat} (fits : (y + 1) * width.toNat < 2 ^ 32)
    (row : y + 1 < 2 ^ 32) :
    (alphaStop width (UInt32.ofNat y)).toNat = (y + 1) * width.toNat := by
  rw [alphaStop, UInt32.toNat_mul, nextRow_toNat row, Nat.mod_eq_of_lt fits]

def setPlane (plane : Array UInt8) (width row : Nat) : Nat → Pixel → Pixel :=
  setAlphas (plane.extract (row * width) ((row + 1) * width))

section Transfer

variable {plane : Array UInt8} {y count : Nat} {bitmap : Bitmap} (formed : bitmap.WellFormed)
  (whole : plane.size = bitmap.height.toNat * bitmap.width.toNat)

include formed whole

theorem writeRows_step (count : Nat) (common : UInt8) (below : y < bitmap.height.toNat)
    (fits : (y + 1) * bitmap.width.toNat < 2 ^ 32) :
    ∃ next, writeRows plane y (count + 1) common bitmap = writeRows plane (y + 1) count next
      (bitmap.changeRow (setPlane plane bitmap.width.toNat y) y) := by
  have rowBound := Nat.lt_of_le_of_lt below bitmap.height.toNat_lt
  have stopBound : (y + 1) * bitmap.width.toNat ≤ bitmap.height.toNat * bitmap.width.toNat :=
    Nat.mul_le_mul_right _ below
  have startBound : y * bitmap.width.toNat ≤ (y + 1) * bitmap.width.toNat :=
    Nat.mul_le_mul_right _ (Nat.le_succ y)
  have start := alphaStart_toNat bitmap.width (show y * _ < _ by omega) (by omega)
  have stop := alphaStop_toNat bitmap.width fits rowBound
  have row : bitmap.hasRow (UInt32.ofNat y) = true := by
    apply formed.hasRow
    rw [UInt32.lt_iff_toNat_lt, UInt32.toNat_ofNat_of_lt' (show y < 2 ^ 32 by omega)]
    exact below
  have inside : y * bitmap.width.toNat ≤ (y + 1) * bitmap.width.toNat ∧
      (y + 1) * bitmap.width.toNat ≤ plane.size := ⟨startBound, by omega⟩
  refine ⟨commonBits (plane.extract (y * bitmap.width.toNat) ((y + 1) * bitmap.width.toNat))
    bitmap.width.toNat common, ?_⟩
  rw [writeRows]
  simp only [start, stop, if_pos inside, row, if_true]
  rfl

theorem writeRows_run (first later : Nat) (common : UInt8)
    (below : y + first ≤ bitmap.height.toNat)
    (fits : (y + first) * bitmap.width.toNat < 2 ^ 32) :
    ∃ next, writeRows plane y (first + later) common bitmap = writeRows plane (y + first) later next
      (Bitmap.changeRows (setPlane plane bitmap.width.toNat) y first bitmap) := by
  induction first generalizing y common bitmap with
  | zero =>
      rw [Nat.zero_add]
      exact ⟨common, rfl⟩
  | succ first ih =>
      have rows : y + 1 + first = y + (first + 1) := by omega
      have nearer : (y + 1) * bitmap.width.toNat ≤ (y + (first + 1)) * bitmap.width.toNat :=
        Nat.mul_le_mul_right _ (by omega)
      obtain ⟨common, stepped⟩ := writeRows_step formed whole (first + later) common
        (show y < _ by omega) (show _ < 2 ^ 32 by omega)
      obtain ⟨next, written⟩ := ih (formed.changeRow (setPlane plane bitmap.width.toNat y) y) whole
        common (show y + 1 + first ≤ bitmap.height.toNat by omega)
        (show (y + 1 + first) * bitmap.width.toNat < _ by rw [rows]; exact fits)
      rw [rows] at written
      refine ⟨next, ?_⟩
      rw [Nat.add_right_comm, stepped, written]
      rfl

theorem writeRows_eq (common : UInt8) (rows : y + count = bitmap.height.toNat)
    (fits : bitmap.height.toNat * bitmap.width.toNat < 2 ^ 32) :
    ∃ transparency, writeRows plane y count common bitmap =
      (.ok transparency,
        Bitmap.changeRows (setPlane plane bitmap.width.toNat) y count bitmap) := by
  obtain ⟨next, written⟩ := writeRows_run formed whole count 0 common (Nat.le_of_eq rows)
    (by rw [rows]; exact fits)
  exact ⟨_, written⟩

end Transfer

end Raster.Png
