import Raster.Proofs.Dib.Exact
import Raster.Proofs.Exclusive

/-!
Loading of whichever format stands in a stream. Main statement: it can read what one of the direct
loaders can read, only one of them can, and it leaves the bitmap of that one.
-/

namespace Raster

section Restarted

variable {decoders : Decoders} {left right : Stream} (same : left.Rescheduled right)
  (limits : Limits) (target : Bitmap)

include same

theorem loadPng_restarted (bytewise : decoders.png.Bytewise left.faults)
    (faults : right.faults = left.faults) :
    (loadPng decoders limits .replace target left).Same
      (loadPng decoders limits .replace target right) := by
  have ahead : left.ahead = right.ahead := by
    rw [Stream.ahead, Stream.ahead, same.bytes, same.position]
  rw [loadPng_replace_eq, loadPng_replace_eq, Png.readBitmap_fst, Png.readBitmap_fst,
    bytewise limits.maxDecodeBytes left right rfl faults same.left same.right ahead]
  exact Load.replacing_same ..

theorem loadFormat_restarted (orderly : decoders.Orderly left.faults)
    (faults : right.faults = left.faults) (format : ImageFormat) :
    (loadFormat decoders limits format target left).Same
      (loadFormat decoders limits format target right) := by
  cases format with
  | png => exact loadPng_restarted same limits target orderly.imageBytewise faults
  | jpeg => exact (loadJpeg_rescheduled same limits target orderly.bytewise).map _
  | dib =>
      obtain ⟨outcome, bitmap⟩ := loadDib_rescheduled same limits target
      refine ⟨?_, bitmap⟩
      simp only [loadFormat, Load.map, outcome, bitmap]
  | unknown => exact ⟨rfl, rfl⟩

end Restarted

section Detecting

variable {decoders : Decoders} {stream : Stream} (orderly : decoders.Orderly stream.faults)
  (quiet : stream.Quiet) {limits : Limits} {target : Bitmap} {format : ImageFormat}

include orderly quiet

theorem detectFormat_of_matched (matched : (probe decoders format stream).matched = true) :
    (detectFormat decoders stream).format = format := by
  have tried : format ∈ probeOrder := by
    have known := probe_known matched
    revert known
    cases format <;> decide
  rw [detectFormat_eq, detectAmong_format orderly.bytewise quiet,
    find?_of_matched orderly.marked quiet tried matched]
  rfl

theorem load_same : (load decoders limits target stream).Same
    (loadFormat decoders limits (detectFormat decoders stream).format target stream) := by
  have faults := (@detectFormat_returned decoders _ (quiet.queries _)).faults
  obtain ⟨outcome, bitmap⟩ := loadFormat_restarted (detectFormat_rest decoders quiet) limits target
    orderly faults (detectFormat decoders stream).format
  exact ⟨outcome.symm, bitmap.symm⟩

theorem load_of_loadFormat
    (loaded : (loadFormat decoders limits format target stream).outcome.isOk = true) :
    (detectFormat decoders stream).format = format ∧
      (load decoders limits target stream).Same
        (loadFormat decoders limits format target stream) := by
  have matched := loadFormat_matched orderly.signed orderly.capped quiet loaded
  have detected := detectFormat_of_matched orderly quiet matched
  have same := @load_same _ _ orderly quiet limits target
  rw [detected] at same
  exact ⟨detected, same⟩

theorem loadFormat_unique
    (loaded : (loadFormat decoders limits format target stream).outcome.isOk = true)
    (other : ImageFormat) (apart : format ≠ other) :
    ¬(loadFormat decoders limits other target stream).outcome.isOk = true := by
  intro otherLoaded
  exact apart (probe_unique orderly.marked quiet
    (loadFormat_matched orderly.signed orderly.capped quiet loaded)
    (loadFormat_matched orderly.signed orderly.capped quiet otherLoaded))

end Detecting

section Direct

variable (decoders : Decoders) (limits : Limits) (target : Bitmap) (stream : Stream)

theorem loadFormat_jpeg_isOk : (loadFormat decoders limits .jpeg target stream).outcome.isOk =
    (loadJpeg decoders limits target stream).outcome.isOk :=
  isOk_map ..

theorem loadFormat_dib_isOk : (loadFormat decoders limits .dib target stream).outcome.isOk =
    (loadDib limits target stream).outcome.isOk :=
  isOk_map ..

end Direct

/-- With orderly decoders, and where nothing fails, automatic loading succeeds exactly if a
direct loader does from the same position. That one is then the only one, its format is the one
detected, and it leaves the same bitmap. -/
theorem load_agrees {decoders : Decoders} {stream : Stream}
    (orderly : decoders.Orderly stream.faults) (quiet : stream.Quiet) (limits : Limits)
    (target : Bitmap) :
    ((load decoders limits target stream).outcome.isOk ↔
      (loadPng decoders limits .replace target stream).outcome.isOk ∨
      (loadJpeg decoders limits target stream).outcome.isOk ∨
      (loadDib limits target stream).outcome.isOk) ∧
    ((loadPng decoders limits .replace target stream).outcome.isOk →
      ¬(loadJpeg decoders limits target stream).outcome.isOk ∧
      ¬(loadDib limits target stream).outcome.isOk ∧
      (detectFormat decoders stream).format = .png ∧
      (load decoders limits target stream).bitmap =
        (loadPng decoders limits .replace target stream).bitmap) ∧
    ((loadJpeg decoders limits target stream).outcome.isOk →
      ¬(loadPng decoders limits .replace target stream).outcome.isOk ∧
      ¬(loadDib limits target stream).outcome.isOk ∧
      (detectFormat decoders stream).format = .jpeg ∧
      (load decoders limits target stream).bitmap =
        (loadJpeg decoders limits target stream).bitmap) ∧
    ((loadDib limits target stream).outcome.isOk →
      ¬(loadPng decoders limits .replace target stream).outcome.isOk ∧
      ¬(loadJpeg decoders limits target stream).outcome.isOk ∧
      (detectFormat decoders stream).format = .dib ∧
      (load decoders limits target stream).bitmap = (loadDib limits target stream).bitmap) := by
  rw [← loadFormat_jpeg_isOk, ← loadFormat_dib_isOk]
  refine ⟨⟨?_, ?_⟩, ?_, ?_, ?_⟩
  · intro loaded
    rw [(load_same orderly quiet).outcome] at loaded
    cases detected : (detectFormat decoders stream).format with
    | png =>
        rw [detected] at loaded
        exact .inl loaded
    | jpeg =>
        rw [detected] at loaded
        exact .inr (.inl loaded)
    | dib =>
        rw [detected] at loaded
        exact .inr (.inr loaded)
    | unknown =>
        rw [detected] at loaded
        cases loaded
  · intro direct
    have some : ∃ format,
        (loadFormat decoders limits format target stream).outcome.isOk = true := by
      rcases direct with png | jpeg | dib
      · exact ⟨.png, png⟩
      · exact ⟨.jpeg, jpeg⟩
      · exact ⟨.dib, dib⟩
    obtain ⟨format, loaded⟩ := some
    rw [(load_of_loadFormat orderly quiet loaded).2.outcome]
    exact loaded
  · intro png
    have loaded : (loadFormat decoders limits .png target stream).outcome.isOk = true := png
    obtain ⟨detected, same⟩ := load_of_loadFormat orderly quiet loaded
    exact ⟨loadFormat_unique orderly quiet loaded .jpeg (by decide),
      loadFormat_unique orderly quiet loaded .dib (by decide), detected, same.bitmap⟩
  · intro loaded
    obtain ⟨detected, same⟩ := load_of_loadFormat orderly quiet loaded
    exact ⟨loadFormat_unique orderly quiet loaded .png (by decide),
      loadFormat_unique orderly quiet loaded .dib (by decide), detected, same.bitmap⟩
  · intro loaded
    obtain ⟨detected, same⟩ := load_of_loadFormat orderly quiet loaded
    exact ⟨loadFormat_unique orderly quiet loaded .png (by decide),
      loadFormat_unique orderly quiet loaded .jpeg (by decide), detected, same.bitmap⟩

theorem speck_loaded : (load Decoders.known Limits.standard Bitmap.empty
    (Schedule.whole Jpeg.speck 0)).outcome = .ok .solid := by
  have orderly := Decoders.known_orderly (Schedule.whole Jpeg.speck 0).faults
  have quiet := (Schedule.whole_torn Jpeg.speck 0).left
  have same := @load_same _ _ orderly quiet Limits.standard Bitmap.empty
  rw [same.outcome, Schedule.speck_detected, loadFormat, Load.map, Schedule.speck_loaded.1]
  rfl

theorem load_agrees_samples :
    (Decoders.known.Orderly Dib.Tiles.stream.faults ∧ Dib.Tiles.stream.Quiet ∧
      (loadDib Limits.standard Bitmap.marked Dib.Tiles.stream).outcome.isOk ∧
      (load Decoders.known Limits.standard Bitmap.marked Dib.Tiles.stream).outcome.isOk ∧
      ¬(loadPng Decoders.known Limits.standard .replace Bitmap.marked
        Dib.Tiles.stream).outcome.isOk ∧
      (load Decoders.known Limits.standard Bitmap.marked Dib.Tiles.stream).bitmap =
        (loadDib Limits.standard Bitmap.marked Dib.Tiles.stream).bitmap) ∧
    (Decoders.known.Orderly (Schedule.torn Jpeg.speck 0).faults ∧
      (Schedule.torn Jpeg.speck 0).Quiet ∧
      (loadJpeg Decoders.known Limits.standard Bitmap.empty
        (Schedule.torn Jpeg.speck 0)).outcome.isOk ∧
      (load Decoders.known Limits.standard Bitmap.empty (Schedule.torn Jpeg.speck 0)).bitmap =
        ⟨1, 1, 1, #[⟨0xff808080⟩]⟩) := by
  have orderly := Decoders.known_orderly Dib.Tiles.stream.faults
  have tornOrderly := Decoders.known_orderly (Schedule.torn Jpeg.speck 0).faults
  have loaded : (loadDib Limits.standard Bitmap.marked Dib.Tiles.stream).outcome.isOk := by
    obtain ⟨bitmap, rest, read, -⟩ := @Dib.Description.readBitmap_eq_ok _ Limits.standard _
      Dib.Tiles.stream_quiet Dib.Tiles.file_stands (by decide) (by decide) (by decide)
    rw [loadDib_isOk, read]
    rfl
  obtain ⟨succeeds, -, -, fromDib⟩ :=
    load_agrees orderly Dib.Tiles.stream_quiet Limits.standard Bitmap.marked
  obtain ⟨notPng, -, -, same⟩ := fromDib loaded
  have quiet := (Schedule.whole_torn Jpeg.speck 0).right
  obtain ⟨outcome, bitmap⟩ := loadJpeg_rescheduled (Schedule.whole_torn Jpeg.speck 0)
    Limits.standard Bitmap.empty Decoders.known_bytewise
  rw [Schedule.speck_loaded.1] at outcome
  rw [Schedule.speck_loaded.2] at bitmap
  have jpegLoaded : (loadJpeg Decoders.known Limits.standard Bitmap.empty
      (Schedule.torn Jpeg.speck 0)).outcome.isOk := by
    rw [← outcome]
    rfl
  obtain ⟨-, -, fromJpeg, -⟩ := load_agrees tornOrderly quiet Limits.standard Bitmap.empty
  obtain ⟨-, -, -, jpegSame⟩ := fromJpeg jpegLoaded
  exact ⟨⟨orderly, Dib.Tiles.stream_quiet, loaded, succeeds.mpr (.inr (.inr loaded)), notPng, same⟩,
    tornOrderly, quiet, jpegLoaded, jpegSame.trans bitmap.symm⟩

end Raster
