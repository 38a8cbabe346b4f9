import Raster.Operation
import Raster.Proofs.Failure
import Raster.Proofs.Loaded
import Raster.Proofs.Resample.Local

/-!
The bitmaps that callers can make. Main statement: whatever operations have been performed on a
bitmap, its storage agrees with its sizes and its padding is clear, so that rows and pixels in range
are there and apart from each other, and visible pixels tell bitmaps of one shape apart.
-/

namespace Raster

namespace Png

theorem writeRows_repaints (plane : Array UInt8) (y count : Nat) (common : UInt8)
    (bitmap : Bitmap) : bitmap.Repaints (writeRows plane y count common bitmap).2 := by
  induction count generalizing y common bitmap with
  | zero => exact .refl bitmap
  | succ count ih =>
      rw [writeRows]
      dsimp only
      split
      · split
        · exact (Bitmap.Repaints.changeRow ..).trans (ih ..)
        · exact .refl bitmap
      · exact .refl bitmap

theorem Mask.apply_repaints (mask : Mask) (bitmap : Bitmap) :
    bitmap.Repaints (mask.apply bitmap).2 := by
  rw [apply]
  split
  · exact .refl bitmap
  · split
    · exact .refl bitmap
    · exact writeRows_repaints ..

theorem overlayAlpha_repaints (decoder : Decoder) (limit : UInt64) (bitmap : Bitmap)
    (stream : Stream) : bitmap.Repaints (overlayAlpha decoder limit bitmap stream).2.1 := by
  cases read : (decoder.rows limit stream).1 with
  | none =>
      rw [overlayAlpha_of_none _ _ _ _ read]
      exact .refl bitmap
  | some mask =>
      rw [overlayAlpha_of_some _ _ _ _ read]
      exact Mask.apply_repaints ..

end Png

section Loads

variable {decoders : Decoders} {limits : Limits} {target : Bitmap} {stream : Stream}

theorem loadPng_overlay_repaints :
    target.Repaints (loadPng decoders limits .overlayAlpha target stream).bitmap := by
  obtain ⟨-, bitmap⟩ := @loadPng_overlay_eq decoders limits target stream
  rw [bitmap]
  exact Png.overlayAlpha_repaints ..

@[simp] theorem Load.map_bitmap {α β : Type} (change : α → β) (load : Load α) :
    (load.map change).bitmap = load.bitmap := rfl

theorem Load.tidy {α : Type} {load : Load α} (leaves : load.LeavesOnFailure Bitmap.empty)
    (packed : ∀ value, load.outcome = .ok value →
      load.bitmap.WellFormed ∧ load.bitmap.stride = load.bitmap.width) :
    load.bitmap.Tidy := by
  cases outcome : load.outcome with
  | ok value =>
      obtain ⟨formed, close⟩ := packed value outcome
      exact Bitmap.tidy_of_packed formed close
  | error failure =>
      rw [leaves failure outcome]
      exact Bitmap.empty_tidy

theorem load_leaves : (load decoders limits target stream).LeavesOnFailure Bitmap.empty :=
  loadFormat_leaves decoders limits target (detectFormat decoders stream).stream
    (detectFormat decoders stream).format

theorem loadPng_tidy (mode : PngMode) (tidy : target.Tidy) :
    (loadPng decoders limits mode target stream).bitmap.Tidy := by
  cases mode with
  | replace =>
      apply Load.tidy (loadPng_replace_leaves decoders limits target stream)
      intro transparency loaded
      exact (Dispatched.png loaded).packed
  | overlayAlpha => exact tidy.repainted loadPng_overlay_repaints

theorem Loader.load_tidy (loader : Loader) (tidy : target.Tidy) :
    (loader.load decoders limits target stream).bitmap.Tidy := by
  cases loader with
  | dib =>
      rw [load, Load.map_bitmap]
      apply Load.tidy (loadDib_leaves limits target stream)
      intro value loaded
      have dispatched : Dispatched decoders limits target stream .dib _ _ := .dib loaded
      exact dispatched.packed
  | jpeg =>
      rw [load, Load.map_bitmap]
      apply Load.tidy (loadJpeg_leaves decoders limits target stream)
      intro value loaded
      exact (Dispatched.jpeg loaded).packed
  | png mode =>
      rw [load, Load.map_bitmap]
      exact loadPng_tidy mode tidy
  | detecting =>
      rw [load, Load.map_bitmap]
      apply Load.tidy load_leaves
      intro transparency loaded
      exact (load_dispatched loaded).packed

end Loads

/-- Single pixels and rows are written only where there are some, and storage is asked for only as
much as an allocation may have; all else can always be tried. -/
def Operation.InRange (bitmap : Bitmap) : Operation → Prop
  | .allocate width height => Bitmap.storageBytes height width ≤ Bitmap.largestAllocation
  | .allocateStride _ height stride => Bitmap.storageBytes height stride ≤ Bitmap.largestAllocation
  | .setPixel y x _ => y < bitmap.height ∧ x < bitmap.width
  | .changeRow y _ => y < bitmap.height
  | _ => True

namespace Bitmap

inductive Reachable (decoders : Decoders) : Bitmap → Prop
  | empty : Reachable decoders empty
  | withSize {width height : UInt32} {bitmap : Bitmap} :
      withSize width height = .ok bitmap → Reachable decoders bitmap
  | ofPixels {width height : UInt32} {pixels : Array Pixel} {bitmap : Bitmap} :
      ofPixels width height pixels = .ok bitmap → Reachable decoders bitmap
  | perform {bitmap : Bitmap} (operation : Operation) : Reachable decoders bitmap →
      operation.InRange bitmap → Reachable decoders (operation.perform decoders bitmap).2

theorem replaced_tidy {bitmap : Bitmap} {built : Except Failure Bitmap} (tidy : bitmap.Tidy)
    (each : ∀ next, built = .ok next → next.Tidy) : (bitmap.replaced built).2.Tidy := by
  cases built with
  | ok next => exact each next rfl
  | error failure => exact tidy

theorem reallocated_tidy {bitmap : Bitmap} {width height stride : UInt32} (narrow : width ≤ stride)
    (fits : storageBytes height stride ≤ largestAllocation) :
    (bitmap.reallocated width height stride).2.Tidy := by
  have built : allocate width height stride = .ok (cleared width height stride) :=
    allocate_eq_ok.mpr ⟨fits, rfl⟩
  rw [reallocated, built]
  exact cleared_tidy narrow

section Performing

variable {decoders : Decoders} {bitmap : Bitmap} {operation : Operation}

theorem changed_tidy {next : Option Bitmap} (tidy : bitmap.Tidy)
    (each : ∀ other, next = some other → bitmap.Repaints other) : (bitmap.changed next).2.Tidy := by
  cases next with
  | some other => exact tidy.repainted (each other rfl)
  | none => exact tidy

theorem Repaints.mapRow? {next : Bitmap} {y : UInt32} {change : Nat → Pixel → Pixel}
    (mapped : bitmap.mapRow? y change = some next) : bitmap.Repaints next := by
  rw [Bitmap.mapRow?] at mapped
  split at mapped
  · cases mapped
    exact .changeRow ..
  · cases mapped

theorem perform_tidy (tidy : bitmap.Tidy) (inRange : operation.InRange bitmap) :
    (operation.perform decoders bitmap).2.Tidy := by
  cases operation with
  | allocate width height => exact reallocated_tidy UInt32.le_rfl inRange
  | allocateStride width height stride =>
      rw [Operation.perform]
      split
      · exact tidy
      · rename_i wide
        exact reallocated_tidy (UInt32.not_lt.mp wide) inRange
  | adopt width height pixels => exact replaced_tidy tidy fun _ => ofPixels_tidy
  | reset => exact empty_tidy
  | fill color => exact tidy.repainted (.fill bitmap color)
  | setPixel y x color => exact changed_tidy tidy fun _ => .setPixel? inRange.2
  | changeRow y change => exact changed_tidy tidy fun _ => .mapRow?
  | resample source tint forceAverage => exact tidy.repainted (.resample ..)
  | load loader limits stream => exact loader.load_tidy tidy

theorem Reachable.tidy (reachable : bitmap.Reachable decoders) : bitmap.Tidy := by
  induction reachable with
  | empty => exact empty_tidy
  | withSize built =>
      obtain ⟨-, rfl⟩ := allocate_eq_ok.mp built
      exact cleared_tidy UInt32.le_rfl
  | ofPixels built => exact ofPixels_tidy built
  | perform operation _ inRange ih => exact perform_tidy ih inRange

end Performing

end Bitmap

namespace Bitmap

def spaced : Bitmap := ((Operation.allocateStride 1 2 3).perform .known empty).2

end Bitmap

end Raster
