import Raster.Proofs.Failure
import Raster.Proofs.Jpeg.Decoded
import Raster.Proofs.Png.Decoded
import Raster.Proofs.Rewinding

/-!
How reads are cut up and interrupted. Where nothing fails, every way of serving the same bytes gives
a patient reader the same, so formats are told apart and images are decoded alike.
-/

namespace Raster

namespace Stream

/-- The same bytes at the same position; nothing fails, but reads may be cut up in two ways. -/
structure Rescheduled (left right : Stream) : Prop where
  bytes : left.bytes = right.bytes
  position : left.position = right.position
  left : left.Quiet
  right : right.Quiet

theorem Rescheduled.moved {left right rest other : Stream} {place : Nat}
    (same : left.Rescheduled right) (moved : left.MovedTo place rest)
    (otherMoved : right.MovedTo place other) : rest.Rescheduled other where
  bytes := moved.bytes.trans (same.bytes.trans otherMoved.bytes.symm)
  position := moved.position.trans otherMoved.position.symm
  left := moved.quiet same.left
  right := otherMoved.quiet same.right

end Stream

theorem Stream.readExactly_rescheduled {left right : Stream} (same : left.Rescheduled right)
    (count : Nat) (before : Array UInt8) :
    (left.readExactly count before).1 = (right.readExactly count before).1 ∧
      (left.readExactly count before).2.Rescheduled (right.readExactly count before).2 := by
  rcases Nat.eq_zero_or_pos count with none | wanted
  · rw [readExactly, readExactly.eq_def right, if_pos none, if_pos none]
    exact ⟨rfl, same⟩
  · by_cases inside : left.position + count ≤ left.bytes.size
    · obtain ⟨rest, read, moved⟩ := same.left.readExactly_eq_some before inside
      rw [same.bytes, same.position] at inside read
      rw [same.position] at moved
      obtain ⟨other, otherRead, otherMoved⟩ := same.right.readExactly_eq_some before inside
      rw [read, otherRead]
      exact ⟨rfl, same.moved moved otherMoved⟩
    · have short : left.bytes.size < left.position + count := Nat.lt_of_not_le inside
      obtain ⟨rest, refused, moved⟩ := same.left.readExactly_eq_none before wanted short
      rw [same.bytes, same.position] at short moved
      obtain ⟨other, otherRefused, otherMoved⟩ := same.right.readExactly_eq_none before wanted short
      rw [refused, otherRefused]
      exact ⟨rfl, same.moved moved otherMoved⟩

namespace Reading

theorem exactly_rescheduled (count : Nat) (error : Error) :
    Related Stream.Rescheduled (exactly count error) (exactly count error) := by
  intro left right same
  obtain ⟨answers, rests⟩ := Stream.readExactly_rescheduled same count #[]
  rw [exactly_eq, exactly_eq, answers]
  exact ⟨rfl, rests⟩

theorem position_rescheduled (error : Error) :
    Related Stream.Rescheduled (position error) (position error) := by
  intro left right same
  obtain ⟨rest, asked, moved⟩ := position_eq error same.left
  obtain ⟨other, otherAsked, otherMoved⟩ := position_eq error same.right
  rw [← same.position] at otherAsked otherMoved
  rw [asked, otherAsked]
  exact ⟨rfl, same.moved moved otherMoved⟩

theorem seek_rescheduled (target : Nat) (error : Error) :
    Related Stream.Rescheduled (seek target error) (seek target error) := by
  intro left right same
  obtain ⟨rest, sought, moved⟩ := seek_eq target error same.left
  obtain ⟨other, otherSought, otherMoved⟩ := seek_eq target error same.right
  rw [sought, otherSought]
  exact ⟨rfl, same.moved moved otherMoved⟩

theorem rescheduled_compositional :
    Compositional fun work => Related Stream.Rescheduled work work :=
  related_compositional exactly_rescheduled

end Reading

theorem Dib.readBitmap_rescheduled (limits : Limits) :
    Reading.Related Stream.Rescheduled (readBitmap limits) (readBitmap limits) := by
  have compositional := Reading.rescheduled_compositional
  refine compositional.bind (Reading.position_rescheduled _) fun start => ?_
  refine compositional.bind (readFileHeader_has compositional) fun file => ?_
  refine compositional.bind (readInfo_has compositional _) fun info => ?_
  refine compositional.bind (compositional.lift _) fun _ => ?_
  refine compositional.bind (Reading.seek_rescheduled _ _) fun _ => ?_
  refine compositional.bind (compositional.lift _) fun bitmap => ?_
  exact compositional.bind (readRows_has compositional _ _ _ _) fun _ => compositional.pure _

namespace Jpeg

theorem verifyHeader_marked {decoder : Decoder} (marked : decoder.Marked) {stream : Stream}
    (quiet : stream.Quiet) (accepted : (verifyHeader decoder stream).1.isOk = true) :
    (Input.ofStream stream).first? 2 = some #[0xff, 0xd8] := by
  apply marked none stream quiet
  rw [verifyHeader_eq] at accepted
  cases read : (decoder.readInfo none (.ofStream stream)).1 with
  | none =>
      rw [read] at accepted
      cases accepted
  | some state => rfl

end Jpeg

theorem probe_jpeg_matched {decoders : Decoders} {stream : Stream} :
    (probe decoders .jpeg stream).matched =
      (decoders.jpeg.answer none (.ofStream stream)).isSome := by
  change (Jpeg.verifyHeader decoders.jpeg stream).1.isOk = _
  rw [Jpeg.verifyHeader_fst]
  cases decoders.jpeg.answer none (.ofStream stream) <;> rfl

section Rescheduling

variable {left right : Stream} (same : left.Rescheduled right)

include same

theorem Png.verifyHeader_rescheduled : (verifyHeader left).1 = (verifyHeader right).1 := by
  rw [verifyHeader_eq, verifyHeader_eq, (Stream.readExactly_rescheduled same 8 #[]).1]

theorem Jpeg.Input.first?_rescheduled (count : Nat) :
    (ofStream left).first? count = (ofStream right).first? count := by
  have remaining : left.remaining = right.remaining := by
    rw [Stream.remaining, Stream.remaining, same.bytes, same.position]
  have padded (index : Nat) : padded left index = padded right index := by
    rw [Jpeg.padded, Jpeg.padded, remaining, same.bytes, same.position]
  rcases Nat.eq_zero_or_pos count with none | some
  · rw [none, first?, first?, readExactly, readExactly, if_pos rfl, if_pos rfl]
  · rcases Nat.eq_zero_or_pos left.remaining with empty | data
    · rw [first?_eq_none same.left count some empty,
        first?_eq_none same.right count some (remaining ▸ empty)]
    · obtain ⟨bytes, read, size, shows⟩ := first?_eq_some same.left count data
      obtain ⟨others, otherRead, otherSize, otherShows⟩ :=
        first?_eq_some same.right count (remaining ▸ data)
      have common : Shows left 0 others := by
        intro index inside
        rw [otherShows index inside, padded]
      rw [read, otherRead, shows.unique common (size.trans otherSize.symm)]

variable {decoders : Decoders} (bytewise : decoders.jpeg.Bytewise)

include bytewise

theorem Jpeg.answer_rescheduled (limit : Option UInt64) :
    decoders.jpeg.answer limit (.ofStream left) = decoders.jpeg.answer limit (.ofStream right) :=
  bytewise limit left right same.left same.right (Input.first?_rescheduled same)

theorem probe_rescheduled (format : ImageFormat) :
    (probe decoders format left).matched = (probe decoders format right).matched := by
  cases format with
  | png => exact congrArg Except.isOk (Png.verifyHeader_rescheduled same)
  | jpeg => rw [probe_jpeg_matched, probe_jpeg_matched, Jpeg.answer_rescheduled same bytewise]
  | dib =>
      have verified := Dib.verifyHeader_has Reading.rescheduled_compositional left right same
      exact congrArg Except.isOk verified.1
  | unknown => rfl

end Rescheduling

section Detecting

variable {decoders : Decoders}

theorem rewound_rescheduled {original stream : Stream} (same : original.Rescheduled stream)
    (format : ImageFormat) :
    original.Rescheduled (rewound decoders original.position format stream) := by
  have read := probe_onlyRead decoders format stream
  have moved : stream.MovedTo original.position
      (rewound decoders original.position format stream) :=
    ⟨read.bytes, read.faults, rfl⟩
  exact ⟨same.bytes.trans moved.bytes.symm, rfl, same.left, moved.quiet same.right⟩

theorem tryFormats_format (bytewise : decoders.jpeg.Bytewise) {original stream : Stream}
    (same : original.Rescheduled stream) (formats : List ImageFormat) (events : List Event) :
    (tryFormats decoders original.position formats stream events).format =
      (formats.find? fun format => (probe decoders format original).matched).getD .unknown := by
  induction formats generalizing stream events with
  | nil => rfl
  | cons format later ih =>
      rw [tryFormats_of_succeeds later events (same.right.seeks _), List.find?_cons,
        probe_rescheduled same bytewise]
      cases (probe decoders format stream).matched with
      | true => rfl
      | false => exact ih (rewound_rescheduled same format) _

def detectAmong (decoders : Decoders) (order : List ImageFormat) (stream : Stream) : Detection :=
  match stream.query with
  | (none, rest) => ⟨.unknown, rest, []⟩
  | (some start, rest) => tryFormats decoders start order rest []

theorem detectFormat_eq (stream : Stream) :
    detectFormat decoders stream = detectAmong decoders probeOrder stream :=
  rfl

theorem detectAmong_format (bytewise : decoders.jpeg.Bytewise) {stream : Stream}
    (quiet : stream.Quiet) (order : List ImageFormat) :
    (detectAmong decoders order stream).format =
      (order.find? fun format => (probe decoders format stream).matched).getD .unknown := by
  have same : stream.Rescheduled { stream with queries := stream.queries + 1 } :=
    ⟨rfl, rfl, quiet, ⟨quiet.reads, quiet.seeks, quiet.queries⟩⟩
  have answered : stream.query =
      (some stream.position, { stream with queries := stream.queries + 1 }) := by
    simp [Stream.query, quiet.queries]
  rw [detectAmong, answered]
  exact tryFormats_format bytewise same order []

end Detecting

theorem detectFormat_rest (decoders : Decoders) {stream : Stream} (quiet : stream.Quiet) :
    stream.Rescheduled (detectFormat decoders stream).stream := by
  have returned : (detectFormat decoders stream).Returned stream.position stream :=
    detectFormat_returned (quiet.queries _)
  have position := returned.position fun number _ => quiet.seeks number
  have moved : stream.MovedTo stream.position (detectFormat decoders stream).stream :=
    ⟨returned.bytes, returned.faults, position⟩
  exact ⟨moved.bytes.symm, moved.position.symm, quiet, moved.quiet quiet⟩

structure Load.Same {α : Type} (one two : Load α) : Prop where
  outcome : one.outcome = two.outcome
  bitmap : one.bitmap = two.bitmap

theorem Load.Same.map {α β : Type} {one two : Load α} (same : one.Same two) (change : α → β) :
    (one.map change).Same (two.map change) :=
  ⟨congrArg (Except.map change) same.outcome, same.bitmap⟩

theorem Load.replacing_same {α : Type} (reporter : Reporter) (target : Bitmap)
    (outcome : Except Failure (Bitmap × α)) (stream other : Stream) (events more : List Event) :
    (replacing reporter target outcome stream events).Same
      (replacing reporter target outcome other more) := by
  cases outcome with
  | ok decoded => exact ⟨rfl, rfl⟩
  | error failure => cases failure <;> exact ⟨rfl, rfl⟩

section Loaders

variable (decoders : Decoders) (limits : Limits) (target : Bitmap) (stream : Stream)

theorem load_of_jpeg (detected : (detectFormat decoders stream).format = .jpeg) :
    (load decoders limits target stream).bitmap =
      (loadJpeg decoders limits target (detectFormat decoders stream).stream).bitmap := by
  simp only [load, detected]
  rfl

end Loaders

section Loading

variable {left right : Stream} (same : left.Rescheduled right) (limits : Limits) (target : Bitmap)

include same

theorem loadDib_rescheduled : (loadDib limits target left).Same (loadDib limits target right) := by
  rw [loadDib_eq, loadDib_eq, (Dib.readBitmap_rescheduled limits left right same).1]
  exact Load.replacing_same ..

variable {decoders : Decoders} (bytewise : decoders.jpeg.Bytewise)

include bytewise

theorem loadJpeg_rescheduled :
    (loadJpeg decoders limits target left).Same (loadJpeg decoders limits target right) := by
  rw [loadJpeg_eq, loadJpeg_eq, Jpeg.readBitmap_outcome, Jpeg.readBitmap_outcome,
    Jpeg.answer_rescheduled same bytewise]
  exact Load.replacing_same ..

theorem detectFormat_rescheduled :
    (detectFormat decoders left).format = (detectFormat decoders right).format := by
  rw [detectFormat_eq, detectFormat_eq, detectAmong_format bytewise same.left,
    detectAmong_format bytewise same.right]
  simp only [probe_rescheduled same bytewise]

end Loading

/-- However the reads of a stream are cut up and interrupted, the same format is detected, and
device independent bitmaps and JPEG images are loaded with the same outcome. -/
theorem load_rescheduled {decoders : Decoders} (bytewise : decoders.jpeg.Bytewise)
    {left right : Stream} (same : left.Rescheduled right) (limits : Limits) (target : Bitmap) :
    (detectFormat decoders left).format = (detectFormat decoders right).format ∧
    (loadDib limits target left).Same (loadDib limits target right) ∧
    (loadJpeg decoders limits target left).Same (loadJpeg decoders limits target right) :=
  ⟨detectFormat_rescheduled same bytewise, loadDib_rescheduled same limits target,
    loadJpeg_rescheduled same limits target bytewise⟩

namespace Schedule

def dot : Array UInt8 := #[
  1, 2, 3, 0x42, 0x4d, 30, 0, 0, 0, 0, 0, 0, 0, 26, 0, 0, 0, 12, 0, 0, 0, 1, 0, 1, 0, 1, 0, 24, 0,
  0x33, 0x22, 0x11, 0]

def whole (bytes : Array UInt8) (start : Nat) : Stream :=
  Stream.ofBytes bytes start FaultPlan.none

def torn (bytes : Array UInt8) (start : Nat) : Stream :=
  Stream.ofBytes bytes start ((FaultPlan.none.shorten 1).interruptEach)

theorem whole_torn (bytes : Array UInt8) (start : Nat) :
    (whole bytes start).Rescheduled (torn bytes start) where
  bytes := rfl
  position := rfl
  left := ⟨fun _ _ => ReadOutcome.noConfusion, fun _ => rfl, fun _ => rfl⟩
  right := ⟨fun _ _ => ReadOutcome.noConfusion, fun _ => rfl, fun _ => rfl⟩

theorem speck_detected : (detectFormat Decoders.known (whole Jpeg.speck 0)).format = .jpeg := by
  have quiet := (whole_torn Jpeg.speck 0).left
  have unsigned : (probe Decoders.known .png (whole Jpeg.speck 0)).matched = false := by
    decide +kernel
  have marked : (probe Decoders.known .jpeg (whole Jpeg.speck 0)).matched = true := by
    rw [probe_jpeg_matched, Decoders.known_jpeg quiet (Stream.ahead_ofBytes ..)]
    rfl
  rw [detectFormat_eq, detectAmong_format Decoders.known_bytewise quiet]
  simp [probeOrder, unsigned, marked]

theorem speck_loaded :
    (loadJpeg Decoders.known Limits.standard Bitmap.empty (whole Jpeg.speck 0)).outcome = .ok () ∧
    (loadJpeg Decoders.known Limits.standard Bitmap.empty (whole Jpeg.speck 0)).bitmap =
      ⟨1, 1, 1, #[⟨0xff808080⟩]⟩ := by
  have quiet := (whole_torn Jpeg.speck 0).left
  rw [loadJpeg_eq, Jpeg.readBitmap_outcome,
    Decoders.known_jpeg quiet (Stream.ahead_ofBytes ..)]
  exact ⟨rfl, rfl⟩

theorem mote_loaded :
    (loadPng Decoders.known Limits.standard .replace Bitmap.empty
      (whole Png.mote.bytes 0)).outcome = .ok .translucent ∧
    (loadPng Decoders.known Limits.standard .replace Bitmap.empty
      (whole Png.mote.bytes 0)).bitmap = ⟨1, 1, 1, #[⟨0x80112233⟩]⟩ := by
  have quiet := (whole_torn Png.mote.bytes 0).left
  have made : Png.mote.image.toBitmap Limits.standard =
      .ok (⟨1, 1, 1, #[⟨0x80112233⟩]⟩, .translucent) := by decide +kernel
  rw [loadPng_replace_eq, Png.readBitmap_fst,
    Decoders.known_png quiet (Stream.ahead_ofBytes ..), Option.elim_some, made]
  exact ⟨rfl, rfl⟩

theorem dot_detected : (detectFormat Decoders.known (whole dot 3)).format = .dib := by
  have quiet := (whole_torn dot 3).left
  have unmarked : (probe Decoders.known .jpeg (whole dot 3)).matched = false := by
    apply Bool.eq_false_iff.mpr
    intro matched
    have first := Jpeg.verifyHeader_marked Decoders.known_marked quiet matched
    revert first
    decide +kernel
  rw [detectFormat_eq, detectAmong_format Decoders.known_bytewise quiet]
  simp only [probeOrder, List.find?_cons, unmarked]
  decide +kernel

end Schedule

theorem load_rescheduled_dot :
    Decoders.known.jpeg.Bytewise ∧
    ((Schedule.whole Schedule.dot 3).Rescheduled (Schedule.torn Schedule.dot 3) ∧
      (Schedule.torn Schedule.dot 3).planned = ⟨1, .gives 1⟩ ∧
      (detectFormat Decoders.known (Schedule.torn Schedule.dot 3)).format = .dib ∧
      (loadDib Limits.standard Bitmap.empty (Schedule.torn Schedule.dot 3)).outcome.isOk ∧
      (loadDib Limits.standard Bitmap.empty (Schedule.torn Schedule.dot 3)).bitmap =
        ⟨1, 1, 1, #[⟨0xff112233⟩]⟩) ∧
    ((Schedule.whole Jpeg.speck 0).Rescheduled (Schedule.torn Jpeg.speck 0) ∧
      (detectFormat Decoders.known (Schedule.torn Jpeg.speck 0)).format = .jpeg ∧
      (loadJpeg Decoders.known Limits.standard Bitmap.empty
        (Schedule.torn Jpeg.speck 0)).outcome = .ok () ∧
      (loadJpeg Decoders.known Limits.standard Bitmap.empty
        (Schedule.torn Jpeg.speck 0)).bitmap = ⟨1, 1, 1, #[⟨0xff808080⟩]⟩) := by
  obtain ⟨format, dib, -⟩ := load_rescheduled Decoders.known_bytewise
    (Schedule.whole_torn Schedule.dot 3) Limits.standard Bitmap.empty
  obtain ⟨jpegFormat, -, jpeg⟩ := load_rescheduled Decoders.known_bytewise
    (Schedule.whole_torn Jpeg.speck 0) Limits.standard Bitmap.empty
  rw [← format, ← dib.outcome, ← dib.bitmap, ← jpegFormat, ← jpeg.outcome, ← jpeg.bitmap]
  refine ⟨Decoders.known_bytewise,
    ⟨Schedule.whole_torn .., by decide, Schedule.dot_detected, ?_, ?_⟩,
    Schedule.whole_torn .., Schedule.speck_detected, Schedule.speck_loaded⟩
  · decide +kernel
  · decide +kernel

end Raster
