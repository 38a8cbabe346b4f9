import Raster.Proofs.Loaded
import Raster.Proofs.Png.Judged
import Raster.Proofs.Png.Overlaid

/-!
The transparency that loads report. Main statement: however it was found out, it is right about the
bitmap that the load leaves.
-/

namespace Raster

variable {decoders : Decoders} {limits : Limits} {target : Bitmap} {stream : Stream}
  {transparency : Transparency}

theorem Dispatched.judged {format : ImageFormat} {bitmap : Bitmap}
    (dispatched : Dispatched decoders limits target stream format transparency bitmap) :
    transparency = .solid ↔ bitmap.Solid := by
  cases dispatched with
  | png loaded => exact Png.readBitmap_judged (loadPng_replace_eq_ok loaded)
  | jpeg loaded =>
      have solid := Jpeg.readBitmap_solid (loadJpeg_eq_ok loaded)
      exact ⟨fun _ => solid, fun _ => rfl⟩
  | dib loaded =>
      obtain ⟨rest, read⟩ := loadDib_eq_ok loaded
      exact Bitmap.transparency_eq_solid_iff (Dib.readBitmap_admitted read).formed

theorem loadPng_overlay_judged (formed : target.WellFormed)
    (loaded : (loadPng decoders limits .overlayAlpha target stream).outcome = .ok transparency) :
    transparency = .solid ↔ (loadPng decoders limits .overlayAlpha target stream).bitmap.Solid := by
  obtain ⟨outcome, bitmap⟩ := @loadPng_overlay_eq decoders limits target stream
  rw [outcome] at loaded
  rw [bitmap]
  exact Png.overlayAlpha_judged formed (Prod.ext loaded rfl)

theorem Dispatched.jpeg_solid {bitmap : Bitmap}
    (dispatched : Dispatched decoders limits target stream .jpeg transparency bitmap) :
    transparency = .solid := by
  cases dispatched with
  | jpeg loaded => rfl

theorem Dispatched.dib_solid {bitmap : Bitmap}
    (dispatched : Dispatched decoders limits target stream .dib transparency bitmap) :
    ∃ info rest, Dib.readHeaders stream = (.ok info, rest) ∧
      (info.layout.bits = 24 ∨ info.layout.bits = 48 → transparency = .solid) := by
  have judged := dispatched.judged
  cases dispatched with
  | dib loaded =>
      obtain ⟨last, read⟩ := loadDib_eq_ok loaded
      obtain ⟨info, rest, headers, solid⟩ := Dib.readBitmap_solid read
      exact ⟨info, rest, headers, fun plain => judged.mpr (solid plain)⟩

/-- Every successful load that reports a transparency is right about all visible pixels, whatever
the decoders do. Images in formats without alpha are all reported as solid. -/
theorem reported_transparency_exact (decoders : Decoders) (limits : Limits) (target : Bitmap)
    (stream : Stream) :
    (∀ transparency, (load decoders limits target stream).outcome = .ok transparency →
      (transparency = .solid ↔ (load decoders limits target stream).bitmap.Solid)) ∧
    (∀ transparency, (loadPng decoders limits .replace target stream).outcome = .ok transparency →
      (transparency = .solid ↔ (loadPng decoders limits .replace target stream).bitmap.Solid)) ∧
    (target.WellFormed → ∀ transparency,
      (loadPng decoders limits .overlayAlpha target stream).outcome = .ok transparency →
        (transparency = .solid ↔
          (loadPng decoders limits .overlayAlpha target stream).bitmap.Solid)) ∧
    ((detectFormat decoders stream).format = .jpeg →
      ∀ transparency, (load decoders limits target stream).outcome = .ok transparency →
        transparency = .solid) ∧
    ((detectFormat decoders stream).format = .dib →
      ∀ transparency, (load decoders limits target stream).outcome = .ok transparency →
        ∃ info rest, Dib.readHeaders (detectFormat decoders stream).stream = (.ok info, rest) ∧
          (info.layout.bits = 24 ∨ info.layout.bits = 48 → transparency = .solid)) := by
  refine ⟨?_, ?_, ?_, ?_, ?_⟩
  · intro transparency loaded
    exact (load_dispatched loaded).judged
  · intro transparency loaded
    exact (Dispatched.png loaded).judged
  · intro formed transparency loaded
    exact loadPng_overlay_judged formed loaded
  · intro jpeg transparency loaded
    have dispatched := load_dispatched loaded
    rw [jpeg] at dispatched
    exact dispatched.jpeg_solid
  · intro dib transparency loaded
    have dispatched := load_dispatched loaded
    rw [dib] at dispatched
    exact dispatched.dib_solid

theorem ramp_laid : (loadPng ⟨Decoders.known.jpeg, Png.Ramp.decoder⟩ ⟨64⟩ .overlayAlpha
    Png.Ramp.target (Png.Ramp.stream true)).outcome = .ok .translucent := by
  obtain ⟨outcome, -⟩ := @loadPng_overlay_eq ⟨Decoders.known.jpeg, Png.Ramp.decoder⟩ ⟨64⟩
    Png.Ramp.target (Png.Ramp.stream true)
  rw [outcome, Png.overlayAlpha_of_some _ _ _ _ (Png.Ramp.decoder_finds true)]
  decide +kernel

theorem dot_loaded : (load Decoders.known Limits.standard Bitmap.empty
    (Schedule.whole Schedule.dot 3)).outcome = .ok .solid := by
  have orderly := Decoders.known_orderly (Schedule.whole Schedule.dot 3).faults
  have quiet := (Schedule.whole_torn Schedule.dot 3).left
  have same := @load_same _ _ orderly quiet Limits.standard Bitmap.empty
  rw [same.outcome, Schedule.dot_detected]
  decide +kernel

theorem Dib.readHeaders_rescheduled :
    Reading.Related Stream.Rescheduled readHeaders readHeaders := by
  have compositional := Reading.rescheduled_compositional
  refine compositional.bind (Reading.position_rescheduled _) fun start => ?_
  exact compositional.bind (readFileHeader_has compositional) fun file =>
    readInfo_has compositional _

theorem dot_headers : (Dib.readHeaders
    (detectFormat Decoders.known (Schedule.whole Schedule.dot 3)).stream).1 =
      .ok ⟨1, 1, false, .blueGreenRed24⟩ := by
  have quiet := (Schedule.whole_torn Schedule.dot 3).left
  rw [← (Dib.readHeaders_rescheduled _ _ (detectFormat_rest Decoders.known quiet)).1]
  decide +kernel

theorem reported_transparency_exact_samples :
    ((load Decoders.known Limits.standard Bitmap.empty (Schedule.whole Jpeg.speck 0)).outcome =
        .ok .solid ∧
      (load Decoders.known Limits.standard Bitmap.empty
        (Schedule.whole Jpeg.speck 0)).bitmap.Solid) ∧
    ((loadPng Decoders.known Limits.standard .replace Bitmap.empty
        (Schedule.whole Png.mote.bytes 0)).outcome = .ok .translucent ∧
      ¬(loadPng Decoders.known Limits.standard .replace Bitmap.empty
        (Schedule.whole Png.mote.bytes 0)).bitmap.Solid) ∧
    (Png.Ramp.target.WellFormed ∧
      (loadPng ⟨Decoders.known.jpeg, Png.Ramp.decoder⟩ ⟨64⟩ .overlayAlpha Png.Ramp.target
        (Png.Ramp.stream true)).outcome = .ok .translucent ∧
      ¬(loadPng ⟨Decoders.known.jpeg, Png.Ramp.decoder⟩ ⟨64⟩ .overlayAlpha Png.Ramp.target
        (Png.Ramp.stream true)).bitmap.Solid) ∧
    ((detectFormat Decoders.known (Schedule.whole Jpeg.speck 0)).format = .jpeg ∧
      ∃ transparency,
        (load Decoders.known Limits.standard Bitmap.empty (Schedule.whole Jpeg.speck 0)).outcome =
          .ok transparency ∧ transparency = .solid) ∧
    ((detectFormat Decoders.known (Schedule.whole Schedule.dot 3)).format = .dib ∧
      ∃ transparency info rest,
        (load Decoders.known Limits.standard Bitmap.empty (Schedule.whole Schedule.dot 3)).outcome =
          .ok transparency ∧
        Dib.readHeaders (detectFormat Decoders.known (Schedule.whole Schedule.dot 3)).stream =
          (.ok info, rest) ∧ info.layout.bits = 24 ∧ transparency = .solid) := by
  obtain ⟨automatic, -, -, jpeg, -⟩ := reported_transparency_exact Decoders.known Limits.standard
    Bitmap.empty (Schedule.whole Jpeg.speck 0)
  obtain ⟨-, replaced, -⟩ := reported_transparency_exact Decoders.known Limits.standard
    Bitmap.empty (Schedule.whole Png.mote.bytes 0)
  obtain ⟨-, -, overlaid, -⟩ := reported_transparency_exact
    ⟨Decoders.known.jpeg, Png.Ramp.decoder⟩ ⟨64⟩ Png.Ramp.target (Png.Ramp.stream true)
  obtain ⟨-, -, -, -, dib⟩ := reported_transparency_exact Decoders.known Limits.standard
    Bitmap.empty (Schedule.whole Schedule.dot 3)
  have formed : Png.Ramp.target.WellFormed := ⟨by decide, by decide⟩
  obtain ⟨info, rest, headers, reported⟩ := dib Schedule.dot_detected _ dot_loaded
  have bits : info.layout.bits = 24 := by
    have described := dot_headers
    rw [headers] at described
    cases described
    rfl
  refine ⟨⟨speck_loaded, (automatic _ speck_loaded).mp rfl⟩, ⟨Schedule.mote_loaded.1, ?_⟩,
    ⟨formed, ramp_laid, ?_⟩,
    ⟨Schedule.speck_detected, _, speck_loaded, jpeg Schedule.speck_detected _ speck_loaded⟩,
    Schedule.dot_detected, _, info, rest, dot_loaded, headers, bits, reported (.inl bits)⟩
  · intro solid
    cases (replaced _ Schedule.mote_loaded.1).mpr solid
  · intro solid
    cases (overlaid formed _ ramp_laid).mpr solid

end Raster
