import Mathlib.Control.Monad.Basic
import Mathlib.Data.Option.Basic
import Raster.Backend.Decoders
import Raster.Loader
import Raster.Proofs.Png.Plane

/-!
What a failed load leaves behind. A load that replaces its target leaves the empty bitmap however
it fails; a mask that cannot be applied leaves the target as it was, padding included.
-/

namespace Raster

namespace Load

variable {α β : Type}

def LeavesOnFailure (load : Load α) (bitmap : Bitmap) : Prop :=
  ∀ failure, load.outcome = .error failure → load.bitmap = bitmap

theorem replacing_leaves (reporter : Reporter) (target : Bitmap)
    (outcome : Except Failure (Bitmap × α)) (stream : Stream) (events : List Event) :
    (replacing reporter target outcome stream events).LeavesOnFailure Bitmap.empty := by
  intro failure failed
  cases outcome with
  | ok decoded => cases failed
  | error cause => cases cause <;> rfl

theorem LeavesOnFailure.map {load : Load α} {bitmap : Bitmap} (change : α → β)
    (leaves : load.LeavesOnFailure bitmap) : (load.map change).LeavesOnFailure bitmap := by
  intro failure failed
  cases outcome : load.outcome with
  | ok value => simp [Load.map, outcome, Except.map] at failed
  | error cause => exact leaves cause outcome

end Load

section Replacing

variable (decoders : Decoders) (limits : Limits) (target : Bitmap) (stream : Stream)

theorem loadDib_eq : loadDib limits target stream =
    .replacing .dib target ((Dib.readBitmap limits stream).1.map fun bitmap => (bitmap, ()))
      (Dib.readBitmap limits stream).2 [] :=
  rfl

theorem loadJpeg_eq : loadJpeg decoders limits target stream =
    .replacing .jpeg target
      ((Jpeg.readBitmap decoders.jpeg limits stream).1.map fun bitmap => (bitmap, ()))
      (Jpeg.readBitmap decoders.jpeg limits stream).2.stream
      (Jpeg.readBitmap decoders.jpeg limits stream).2.events :=
  rfl

theorem loadPng_replace_eq : loadPng decoders limits .replace target stream =
    .replacing .png target (Png.readBitmap decoders.png limits stream).1
      (Png.readBitmap decoders.png limits stream).2 [] :=
  rfl

theorem loadDib_leaves : (loadDib limits target stream).LeavesOnFailure Bitmap.empty :=
  Load.replacing_leaves _ _ _ _ _

theorem loadJpeg_leaves : (loadJpeg decoders limits target stream).LeavesOnFailure Bitmap.empty :=
  Load.replacing_leaves _ _ _ _ _

theorem loadPng_replace_leaves :
    (loadPng decoders limits .replace target stream).LeavesOnFailure Bitmap.empty :=
  Load.replacing_leaves _ _ _ _ _

theorem loadFormat_leaves (format : ImageFormat) :
    (loadFormat decoders limits format target stream).LeavesOnFailure Bitmap.empty := by
  cases format with
  | png => exact loadPng_replace_leaves decoders limits target stream
  | jpeg => exact (loadJpeg_leaves decoders limits target stream).map _
  | dib => exact (loadDib_leaves limits target stream).map _
  | unknown => exact fun _ _ => rfl

end Replacing

namespace Png

theorem Mask.apply_error {mask : Mask} {bitmap : Bitmap} {failure : Failure}
    (failed : (mask.apply bitmap).1 = .error failure) :
    (mask.apply bitmap).2 = bitmap ∨ failure = .panicked := by
  rw [Mask.apply] at failed ⊢
  split
  · exact .inl rfl
  · rename_i checked
    simp only [checked] at failed
    split
    · exact .inl rfl
    · rename_i plane read
      simp only [read] at failed
      exact .inr (writeRows_error failed)

theorem Mask.apply_error_of_wellFormed {mask : Mask} {bitmap : Bitmap} {failure : Failure}
    (formed : bitmap.WellFormed) (fits : bitmap.height.toNat * bitmap.width.toNat < 2 ^ 32)
    (failed : (mask.apply bitmap).1 = .error failure) : (mask.apply bitmap).2 = bitmap := by
  cases checked : mask.check bitmap with
  | error cause => simp only [apply, checked]
  | ok passed =>
      cases read : mask.alphas with
      | error cause => simp only [apply, checked, read]
      | ok plane =>
          obtain ⟨transparency, written⟩ :=
            writeRows_eq formed (plane_size checked read) 0xff (Nat.zero_add _) fits
          rw [apply_of_read checked read, written] at failed
          cases failed

variable (decoder : Decoder) (limit : UInt64) (bitmap : Bitmap) (stream : Stream)

theorem overlayAlpha_of_none (refused : (decoder.rows limit stream).1 = none) :
    overlayAlpha decoder limit bitmap stream =
      (.error (.refused (.during .pngHeader)), bitmap, (decoder.rows limit stream).2) := by
  rw [overlayAlpha]
  split
  · rename_i read
    rw [read]
  · rename_i read
    rw [read] at refused
    cases refused

variable {mask : Mask}

theorem overlayAlpha_of_some (accepted : (decoder.rows limit stream).1 = some mask) :
    overlayAlpha decoder limit bitmap stream =
      ((mask.apply bitmap).1, (mask.apply bitmap).2, (decoder.rows limit stream).2) := by
  rw [overlayAlpha]
  split
  · rename_i read
    rw [read] at accepted
    cases accepted
  · rename_i other rest read
    rw [read] at accepted ⊢
    cases accepted
    rfl

variable {decoder limit bitmap stream} {failure : Failure}

theorem overlayAlpha_error
    (failed : (overlayAlpha decoder limit bitmap stream).1 = .error failure) :
    ((overlayAlpha decoder limit bitmap stream).2.1 = bitmap ∨ failure = .panicked) ∧
      (bitmap.WellFormed → bitmap.height.toNat * bitmap.width.toNat < 2 ^ 32 →
        (overlayAlpha decoder limit bitmap stream).2.1 = bitmap) := by
  cases read : (decoder.rows limit stream).1 with
  | none =>
      rw [overlayAlpha_of_none _ _ _ _ read]
      exact ⟨.inl rfl, fun _ _ => rfl⟩
  | some mask =>
      rw [overlayAlpha_of_some _ _ _ _ read] at failed ⊢
      exact ⟨Mask.apply_error failed,
        fun formed fits => Mask.apply_error_of_wellFormed formed fits failed⟩

end Png

variable {decoders : Decoders} {limits : Limits} {target : Bitmap} {stream : Stream}

theorem loadPng_overlay_eq :
    (loadPng decoders limits .overlayAlpha target stream).outcome =
      (Png.overlayAlpha decoders.png limits.maxDecodeBytes target stream).1 ∧
    (loadPng decoders limits .overlayAlpha target stream).bitmap =
      (Png.overlayAlpha decoders.png limits.maxDecodeBytes target stream).2.1 := by
  rw [loadPng]
  cases Png.overlayAlpha decoders.png limits.maxDecodeBytes target stream with
  | mk outcome rest =>
      cases outcome with
      | ok transparency => exact ⟨rfl, rfl⟩
      | error failure => cases failure <;> exact ⟨rfl, rfl⟩

theorem loadPng_overlay_leaves {failure : Failure}
    (failed : (loadPng decoders limits .overlayAlpha target stream).outcome = .error failure) :
    ((loadPng decoders limits .overlayAlpha target stream).bitmap = target ∨
        failure = .panicked) ∧
      (target.WellFormed → target.height.toNat * target.width.toNat < 2 ^ 32 →
        (loadPng decoders limits .overlayAlpha target stream).bitmap = target) := by
  obtain ⟨outcome, bitmap⟩ := @loadPng_overlay_eq decoders limits target stream
  rw [outcome] at failed
  rw [bitmap]
  exact Png.overlayAlpha_error failed

/--
Whatever the decoders do, every failed load leaves a known bitmap: the empty one where it was to be
replaced, the very same one where a mask was to be applied. Only a panic, which is no error to come
back with, can leave a mask half applied, and only from 2 ^ 32 pixels on.
-/
theorem failed_load_leaves (decoders : Decoders) (limits : Limits) (target : Bitmap)
    (stream : Stream) :
    (loadDib limits target stream).LeavesOnFailure Bitmap.empty ∧
    (loadJpeg decoders limits target stream).LeavesOnFailure Bitmap.empty ∧
    (loadPng decoders limits .replace target stream).LeavesOnFailure Bitmap.empty ∧
    (load decoders limits target stream).LeavesOnFailure Bitmap.empty ∧
    (∀ error,
      (loadPng decoders limits .overlayAlpha target stream).outcome = .error (.refused error) →
      (loadPng decoders limits .overlayAlpha target stream).bitmap = target) ∧
    (target.WellFormed → target.height.toNat * target.width.toNat < 2 ^ 32 →
      (loadPng decoders limits .overlayAlpha target stream).LeavesOnFailure target) := by
  refine ⟨loadDib_leaves limits target stream, loadJpeg_leaves decoders limits target stream,
    loadPng_replace_leaves decoders limits target stream, ?_, ?_, ?_⟩
  · exact loadFormat_leaves decoders limits target (detectFormat decoders stream).stream
      (detectFormat decoders stream).format
  · intro error failed
    exact (loadPng_overlay_leaves failed).1.resolve_right nofun
  · intro formed fits failure failed
    exact (loadPng_overlay_leaves failed).2 formed fits

def Bitmap.marked : Bitmap := ⟨1, 1, 2, #[⟨0x80112233⟩, ⟨0x44556677⟩]⟩

def Stream.cutShort : Stream := Stream.ofBytes #[0x42, 0x4d] 0 FaultPlan.none.failQueries

theorem failed_load_leaves_cutShort :
    let load := load Backend.decoders Limits.standard Bitmap.marked Stream.cutShort
    let overlay :=
      loadPng Backend.decoders Limits.standard .overlayAlpha Bitmap.marked Stream.cutShort
    (load.outcome = .error (.refused (.validation .unrecognisedFormat)) ∧
      load.bitmap = Bitmap.empty) ∧
    (overlay.outcome = .error (.refused (.during .pngHeader)) ∧ overlay.bitmap = Bitmap.marked) ∧
    (Bitmap.marked.WellFormed ∧ overlay.LeavesOnFailure Bitmap.marked) := by
  have leaves := failed_load_leaves Backend.decoders Limits.standard Bitmap.marked Stream.cutShort
  have loadFails : (load Backend.decoders Limits.standard Bitmap.marked Stream.cutShort).outcome =
      .error (.refused (.validation .unrecognisedFormat)) := by decide +kernel
  have overlayFails :
      (loadPng Backend.decoders Limits.standard .overlayAlpha Bitmap.marked
        Stream.cutShort).outcome =
        .error (.refused (.during .pngHeader)) := by decide +kernel
  have formed : Bitmap.marked.WellFormed := ⟨by decide, by decide⟩
  exact ⟨⟨loadFails, leaves.2.2.2.1 _ loadFails⟩,
    ⟨overlayFails, leaves.2.2.2.2.1 _ overlayFails⟩,
    ⟨formed, leaves.2.2.2.2.2 formed (by decide)⟩⟩

end Raster
