import Raster.Proofs.Automatic

/-!
What stands in the target once a load that replaces it succeeds. Main statement: no loader leaves a
bitmap that the limits do not admit, and the check that they all make is exact for whatever sides
their headers can give.
-/

namespace Raster

variable {decoders : Decoders} {limits : Limits} {target : Bitmap} {stream : Stream}
  {transparency : Transparency}

theorem Load.replacing_eq_ok {α : Type} {reporter : Reporter}
    {outcome : Except Failure (Bitmap × α)} {events : List Event} {value : α}
    (loaded : (replacing reporter target outcome stream events).outcome = .ok value) :
    outcome = .ok ((replacing reporter target outcome stream events).bitmap, value) := by
  cases outcome with
  | error failure => cases failure <;> cases loaded
  | ok decoded =>
      cases loaded
      rfl

theorem Load.replacing_bitmap_eq_ok {reporter : Reporter} {outcome : Except Failure Bitmap}
    {events : List Event}
    (loaded : (replacing reporter target (outcome.map fun bitmap => (bitmap, ())) stream
      events).outcome = .ok ()) :
    outcome = .ok (replacing reporter target (outcome.map fun bitmap => (bitmap, ())) stream
      events).bitmap := by
  cases outcome with
  | error failure => cases failure <;> cases loaded
  | ok decoded => rfl

theorem loadDib_eq_ok (loaded : (loadDib limits target stream).outcome = .ok ()) :
    ∃ rest, Dib.readBitmap limits stream = (.ok (loadDib limits target stream).bitmap, rest) := by
  refine ⟨(Dib.readBitmap limits stream).2, ?_⟩
  have read : (Dib.readBitmap limits stream).1 = .ok (loadDib limits target stream).bitmap :=
    Load.replacing_bitmap_eq_ok loaded
  rw [← read]
  rfl

theorem loadJpeg_eq_ok (loaded : (loadJpeg decoders limits target stream).outcome = .ok ()) :
    (Jpeg.readBitmap decoders.jpeg limits stream).1 =
      .ok (loadJpeg decoders limits target stream).bitmap := by
  rw [loadJpeg_eq] at loaded ⊢
  exact Load.replacing_bitmap_eq_ok loaded

theorem loadPng_replace_eq_ok
    (loaded : (loadPng decoders limits .replace target stream).outcome = .ok transparency) :
    (Png.readBitmap decoders.png limits stream).1 =
      .ok ((loadPng decoders limits .replace target stream).bitmap, transparency) := by
  rw [loadPng_replace_eq] at loaded ⊢
  exact Load.replacing_eq_ok loaded

inductive Dispatched (decoders : Decoders) (limits : Limits) (target : Bitmap) (stream : Stream) :
    ImageFormat → Transparency → Bitmap → Prop
  | png {transparency : Transparency} :
      (loadPng decoders limits .replace target stream).outcome = .ok transparency →
      Dispatched decoders limits target stream .png transparency
        (loadPng decoders limits .replace target stream).bitmap
  | jpeg : (loadJpeg decoders limits target stream).outcome = .ok () →
      Dispatched decoders limits target stream .jpeg .solid
        (loadJpeg decoders limits target stream).bitmap
  | dib : (loadDib limits target stream).outcome = .ok () →
      Dispatched decoders limits target stream .dib
        (loadDib limits target stream).bitmap.transparency (loadDib limits target stream).bitmap

theorem Load.map_eq_ok {α β : Type} {change : α → β} {load : Load α} {value : β}
    (mapped : (load.map change).outcome = .ok value) :
    ∃ inner, load.outcome = .ok inner ∧ change inner = value := by
  cases outcome : load.outcome with
  | error cause => simp [Load.map, outcome, Except.map] at mapped
  | ok inner =>
      rw [Load.map, outcome] at mapped
      cases mapped
      exact ⟨inner, rfl, rfl⟩

theorem loadFormat_dispatched {format : ImageFormat}
    (loaded : (loadFormat decoders limits format target stream).outcome = .ok transparency) :
    Dispatched decoders limits target stream format transparency
      (loadFormat decoders limits format target stream).bitmap := by
  cases format with
  | png => exact .png loaded
  | jpeg =>
      obtain ⟨⟨⟩, read, rfl⟩ := Load.map_eq_ok loaded
      exact .jpeg read
  | dib =>
      obtain ⟨⟨⟩, read, rfl⟩ := Load.map_eq_ok loaded
      exact .dib read
  | unknown => cases loaded

theorem Dispatched.admits (bounded : decoders.png.Bounded) {format : ImageFormat} {bitmap : Bitmap}
    (dispatched : Dispatched decoders limits target stream format transparency bitmap) :
    limits.Admits bitmap := by
  cases dispatched with
  | png loaded => exact Png.readBitmap_admitted bounded (loadPng_replace_eq_ok loaded)
  | jpeg loaded => exact Jpeg.readBitmap_admitted (loadJpeg_eq_ok loaded)
  | dib loaded =>
      obtain ⟨rest, read⟩ := loadDib_eq_ok loaded
      exact Dib.readBitmap_admitted read

theorem Dispatched.packed {format : ImageFormat} {bitmap : Bitmap}
    (dispatched : Dispatched decoders limits target stream format transparency bitmap) :
    bitmap.WellFormed ∧ bitmap.stride = bitmap.width := by
  cases dispatched with
  | png loaded =>
      obtain ⟨image, -, made⟩ := Png.readBitmap_eq_ok (loadPng_replace_eq_ok loaded)
      obtain ⟨-, same, formed, -⟩ := Png.Image.toBitmap_eq_ok made
      exact ⟨formed, by rw [same]⟩
  | jpeg loaded =>
      have admitted := Jpeg.readBitmap_admitted (loadJpeg_eq_ok loaded)
      exact ⟨admitted.formed, admitted.packed⟩
  | dib loaded =>
      obtain ⟨rest, read⟩ := loadDib_eq_ok loaded
      have admitted := Dib.readBitmap_admitted read
      exact ⟨admitted.formed, admitted.packed⟩

theorem load_dispatched (loaded : (load decoders limits target stream).outcome = .ok transparency) :
    Dispatched decoders limits target (detectFormat decoders stream).stream
      (detectFormat decoders stream).format transparency
      (load decoders limits target stream).bitmap :=
  loadFormat_dispatched loaded

/-- A load that replaces the target either fails or leaves pixels that the limits have room for, if
the PNG decoder keeps to sides of 31 bits. The count of bytes that the loaders check cannot wrap,
whatever sides a header gives. -/
theorem load_within_limits {decoders : Decoders} (bounded : decoders.png.Bounded) (limits : Limits)
    (target : Bitmap) (stream : Stream) :
    ((loadDib limits target stream).outcome = .ok () →
      limits.Admits (loadDib limits target stream).bitmap) ∧
    ((loadJpeg decoders limits target stream).outcome = .ok () →
      limits.Admits (loadJpeg decoders limits target stream).bitmap) ∧
    (∀ transparency, (loadPng decoders limits .replace target stream).outcome = .ok transparency →
      limits.Admits (loadPng decoders limits .replace target stream).bitmap) ∧
    (∀ transparency, (load decoders limits target stream).outcome = .ok transparency →
      limits.Admits (load decoders limits target stream).bitmap) ∧
    (∀ headerSize first rest info, Dib.readInfo headerSize first = (.ok info, rest) →
      limits.Exact info.width info.height) ∧
    (∀ info : Jpeg.Info, limits.Exact info.width.toUInt32 info.height.toUInt32) ∧
    (∀ limit source image, (decoders.png.image limit source).1 = some image →
      limits.Exact image.width image.height) ∧
    (∀ width height, Sides width height → limits.Exact width height) := by
  refine ⟨?_, ?_, ?_, ?_, ?_, ?_, ?_, ?_⟩
  · intro loaded
    exact (Dispatched.dib loaded).admits bounded
  · intro loaded
    exact (Dispatched.jpeg loaded).admits bounded
  · intro transparency loaded
    exact (Dispatched.png loaded).admits bounded
  · intro transparency loaded
    exact (load_dispatched loaded).admits bounded
  · intro headerSize first rest info read
    exact Limits.exact_of_sides (Dib.readInfo_sides read)
  · intro info
    exact Limits.exact_of_sides info.sides
  · intro limit source image found
    obtain ⟨narrow, low⟩ := bounded limit source image found
    exact Limits.exact_of_sides ⟨narrow, Nat.le_of_lt low⟩
  · intro width height sides
    exact Limits.exact_of_sides sides

def Dib.vastHeader : Array UInt8 := #[
    0xff, 0xff, 0xff, 0x7f, 0x00, 0x00, 0x00, 0x80, 0x01, 0x00, 0x18, 0x00, 0x00, 0x00, 0x00, 0x00,
    0x00, 0x00, 0x00, 0x00, 0x00, 0x00, 0x00, 0x00, 0x00, 0x00, 0x00, 0x00, 0x00, 0x00, 0x00, 0x00,
    0x00, 0x00, 0x00, 0x00]

theorem load_within_limits_samples :
    Decoders.known.png.Bounded ∧
    ((loadDib ⟨16⟩ Bitmap.marked Dib.Tiles.stream).outcome = .ok () ∧
      Limits.Admits ⟨16⟩ (loadDib ⟨16⟩ Bitmap.marked Dib.Tiles.stream).bitmap) ∧
    ((loadJpeg Decoders.known Limits.standard Bitmap.empty (Schedule.whole Jpeg.speck 0)).outcome =
        .ok () ∧
      Limits.standard.Admits
        (loadJpeg Decoders.known Limits.standard Bitmap.empty
          (Schedule.whole Jpeg.speck 0)).bitmap) ∧
    ((loadPng Decoders.known Limits.standard .replace Bitmap.empty
        (Schedule.whole Png.mote.bytes 0)).outcome = .ok .translucent ∧
      Limits.standard.Admits (loadPng Decoders.known Limits.standard .replace Bitmap.empty
        (Schedule.whole Png.mote.bytes 0)).bitmap) ∧
    ((load Decoders.known Limits.standard Bitmap.empty (Schedule.whole Jpeg.speck 0)).outcome =
        .ok .solid ∧
      Limits.standard.Admits
        (load Decoders.known Limits.standard Bitmap.empty (Schedule.whole Jpeg.speck 0)).bitmap) ∧
    (∃ info rest, Dib.readInfo 40 (Stream.ofBytes Dib.vastHeader 0 FaultPlan.none) =
      (.ok info, rest) ∧ info.width = 2147483647 ∧ info.height = 2147483648 ∧
      Limits.Exact ⟨16⟩ info.width info.height) ∧
    Limits.Exact ⟨16⟩ (0xffff : UInt16).toUInt32 (0xffff : UInt16).toUInt32 ∧
    ((Decoders.known.png.image 4 (Schedule.whole Png.mote.bytes 0)).1 = some Png.mote.image ∧
      Limits.Exact ⟨16⟩ Png.mote.image.width Png.mote.image.height) ∧
    Sides 2147483647 2147483648 ∧ Limits.Exact ⟨16⟩ 2147483647 2147483648 := by
  have bounded := Decoders.known_bounded
  obtain ⟨dib, -, -, -, described, sixteen, announced, sides⟩ :=
    load_within_limits bounded ⟨16⟩ Bitmap.marked Dib.Tiles.stream
  obtain ⟨-, jpeg, -, automatic, -⟩ :=
    load_within_limits bounded Limits.standard Bitmap.empty (Schedule.whole Jpeg.speck 0)
  obtain ⟨-, -, png, -⟩ :=
    load_within_limits bounded Limits.standard Bitmap.empty (Schedule.whole Png.mote.bytes 0)
  have dibLoads : (loadDib ⟨16⟩ Bitmap.marked Dib.Tiles.stream).outcome = .ok () := by
    obtain ⟨bitmap, rest, read, -⟩ := @Dib.Description.readBitmap_eq_ok _ ⟨16⟩ _
      Dib.Tiles.stream_quiet Dib.Tiles.file_stands (by decide) (by decide) (by decide)
    rw [loadDib_eq, read]
    rfl
  have vast : (Dib.readInfo 40 (Stream.ofBytes Dib.vastHeader 0 FaultPlan.none)).1 =
      .ok ⟨2147483647, 2147483648, true, .blueGreenRed24⟩ := by decide +kernel
  have found : (Decoders.known.png.image 4 (Schedule.whole Png.mote.bytes 0)).1 =
      some Png.mote.image :=
    Decoders.known_png (Schedule.whole_torn ..).left (Stream.ahead_ofBytes ..) 4
  have longest : Sides 2147483647 2147483648 := ⟨by decide, by decide⟩
  refine ⟨bounded, ⟨dibLoads, dib dibLoads⟩,
    ⟨Schedule.speck_loaded.1, jpeg Schedule.speck_loaded.1⟩,
    ⟨Schedule.mote_loaded.1, png _ Schedule.mote_loaded.1⟩,
    ⟨speck_loaded, automatic _ speck_loaded⟩, ?_, sixteen ⟨0xffff, 0xffff, .gray8⟩,
    ⟨found, announced _ _ _ found⟩, longest, sides _ _ longest⟩
  cases read : Dib.readInfo 40 (Stream.ofBytes Dib.vastHeader 0 FaultPlan.none) with
  | mk outcome rest =>
      rw [read] at vast
      cases vast
      exact ⟨_, rest, rfl, rfl, rfl, described _ _ _ _ read⟩

end Raster
