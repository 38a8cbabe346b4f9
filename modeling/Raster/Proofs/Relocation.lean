import Raster.Proofs.Schedule

/-!
Images inside longer streams. With other bytes before it, and its position and its faults moved by
as much, a stream is read just as before: the same formats are detected, the same bitmaps loaded.
-/

namespace Raster

def FaultPlan.behind (plan : FaultPlan) (offset : Nat) : FaultPlan :=
  { plan with read := fun number position => plan.read number (position - offset) }

namespace Stream

/-- The same stream with other bytes before it. -/
def behind (stream : Stream) (lead : Array UInt8) : Stream :=
  { stream with
    bytes := lead ++ stream.bytes
    position := lead.size + stream.position
    faults := stream.faults.behind lead.size }

example (lead bytes : Array UInt8) : (ofBytes bytes 0 FaultPlan.none).behind lead =
    ofBytes (lead ++ bytes) lead.size FaultPlan.none := rfl

variable (stream : Stream) (lead : Array UInt8)

theorem remaining_behind : (stream.behind lead).remaining = stream.remaining := by
  simp only [remaining, behind, Array.size_append, Nat.add_sub_add_left]

theorem extract_behind (first last : Nat) :
    (stream.behind lead).bytes.extract (lead.size + first) (lead.size + last) =
      stream.bytes.extract first last := by
  simp only [behind, Array.extract_append, Nat.add_sub_cancel_left]
  rw [Array.extract_empty_of_size_le_start (Nat.le_add_right lead.size first), Array.empty_append]

theorem serve_behind (count : Nat) (outcome : ReadOutcome) :
    (stream.behind lead).serve count outcome =
      ((stream.serve count outcome).1, (stream.serve count outcome).2.behind lead) := by
  cases outcome with
  | fails => rfl
  | gives limit =>
      have bytes (size : Nat) : (stream.behind lead).bytes.extract (stream.behind lead).position
          ((stream.behind lead).position + size) =
            stream.bytes.extract stream.position (stream.position + size) := by
        rw [show (stream.behind lead).position = lead.size + stream.position from rfl,
          Nat.add_assoc, extract_behind]
      simp only [serve, remaining_behind, bytes]
      simp only [behind, Nat.add_assoc]

theorem planned_behind : (stream.behind lead).planned = stream.planned := by
  simp only [planned, behind, FaultPlan.behind, Nat.add_sub_cancel_left]

theorem read_behind (count : Nat) : (stream.behind lead).read count =
    ((stream.read count).1, (stream.read count).2.behind lead) := by
  rw [read_eq, read_eq, planned_behind, serve_behind]

theorem attempt_behind (count : Nat) : (stream.behind lead).attempt count =
    ((stream.attempt count).1, (stream.attempt count).2.behind lead) := by
  have interrupted : (stream.behind lead).interrupted = stream.interrupted := rfl
  simp only [attempt, planned_behind, serve_behind, interrupted]
  split
  · rfl
  · cases stream.serve count stream.planned.outcome with
    | mk answer rest => cases answer <;> rfl

theorem tried_behind (requests : List Nat) :
    (stream.behind lead).tried requests = (stream.tried requests).behind lead := by
  induction requests generalizing stream with
  | nil => rfl
  | cons count later ih => rw [tried, tried, attempt_behind, ih]

theorem behind_repliesAlike : (stream.behind lead).RepliesAlike stream := by
  intro requests count
  rw [tried_behind, attempt_behind]

theorem readExactly_behind (count : Nat) (before : Array UInt8) :
    (stream.behind lead).readExactly count before =
      ((stream.readExactly count before).1, (stream.readExactly count before).2.behind lead) := by
  induction count using Nat.strongRecOn generalizing stream before with
  | ind count ih =>
      rw [readExactly, readExactly.eq_def stream, read_behind]
      split
      · rfl
      · rename_i wanted
        cases served : stream.read count with
        | mk answer rest =>
            cases answer with
            | none => rfl
            | some block =>
                simp only
                split
                · rfl
                · rename_i filled
                  exact ih (count - block.size) (by omega) rest (before ++ block)

theorem query_behind : (stream.behind lead).query =
    (stream.query.1.map (lead.size + ·), stream.query.2.behind lead) := by
  simp only [query]
  have asked : (stream.behind lead).faults.queryFails (stream.behind lead).queries =
    stream.faults.queryFails stream.queries := rfl
  rw [asked]
  split <;> rfl

theorem seek_behind (target : Nat) : (stream.behind lead).seek (lead.size + target) =
    ((stream.seek target).1, (stream.seek target).2.behind lead) := by
  simp only [seek]
  have asked : (stream.behind lead).faults.seekFails (stream.behind lead).seeks =
    stream.faults.seekFails stream.seeks := rfl
  rw [asked]
  split <;> rfl

def Behind (lead : Array UInt8) (stream later : Stream) : Prop := later = stream.behind lead

end Stream

namespace Reading

variable (lead : Array UInt8)

theorem exactly_behind (count : Nat) (error : Error) :
    Related (Stream.Behind lead) (exactly count error) (exactly count error) := by
  rintro stream _ rfl
  rw [exactly_eq, exactly_eq, Stream.readExactly_behind]
  exact ⟨rfl, rfl⟩

theorem behind_compositional :
    Compositional fun work => Related (Stream.Behind lead) work work :=
  related_compositional (exactly_behind lead)

theorem seek_behind (target : Nat) (error : Error) :
    Related (Stream.Behind lead) (seek target error) (seek (lead.size + target) error) := by
  rintro stream _ rfl
  rw [seek, seek, Stream.seek_behind]
  cases stream.seek target with
  | mk outcome rest => cases outcome <;> exact ⟨rfl, rfl⟩

theorem position_bind_behind {α : Type} {next : Nat → Reading α}
    (later : ∀ start, Related (Stream.Behind lead) (next start) (next (lead.size + start)))
    (error : Error) :
    Related (Stream.Behind lead) (position error >>= next) (position error >>= next) := by
  rintro stream _ rfl
  cases asked : stream.query with
  | mk answer rest =>
      have moved := Stream.query_behind stream lead
      rw [asked] at moved
      cases answer with
      | none =>
          have failed : position error stream = (.error (.refused error), rest) := by
            rw [position, asked]
          have otherFailed : position error (stream.behind lead) =
              (.error (.refused error), rest.behind lead) := by
            rw [position, moved]
            rfl
          rw [bind_error failed, bind_error otherFailed]
          exact ⟨rfl, rfl⟩
      | some start =>
          have placed : position error stream = (.ok start, rest) := by rw [position, asked]
          have otherPlaced : position error (stream.behind lead) =
              (.ok (lead.size + start), rest.behind lead) := by
            rw [position, moved]
            rfl
          rw [bind_ok placed, bind_ok otherPlaced]
          exact later start rest (rest.behind lead) rfl

end Reading

theorem Dib.readBitmap_behind (lead : Array UInt8) (limits : Limits) :
    Reading.Related (Stream.Behind lead) (readBitmap limits) (readBitmap limits) := by
  have compositional := Reading.behind_compositional lead
  -- The start is the only place that is asked for, and the pixels are sought from there.
  refine Reading.position_bind_behind lead (fun start => ?_) _
  refine Reading.related_bind (readFileHeader_has compositional) fun file => ?_
  refine Reading.related_bind (readInfo_has compositional _) fun info => ?_
  refine Reading.related_bind (compositional.lift _) fun _ => ?_
  rw [Nat.add_assoc]
  refine Reading.related_bind (Reading.seek_behind lead _ _) fun _ => ?_
  refine Reading.related_bind (compositional.lift _) fun bitmap => ?_
  exact compositional.bind (readRows_has compositional _ _ _ _) fun _ => compositional.pure _

namespace Jpeg

def Input.behind (input : Input) (lead : Array UInt8) : Input :=
  { input with stream := input.stream.behind lead }

namespace Input

variable (input : Input) (lead : Array UInt8)

theorem fill_behind : (input.behind lead).fill = (input.fill.1, input.fill.2.behind lead) := by
  have served : (input.behind lead).stream.read blockSize = _ :=
    Stream.read_behind input.stream lead blockSize
  rw [fill, fill, served]
  cases input.stream.read blockSize with
  | mk answer rest =>
      cases answer with
      | none => rfl
      | some block =>
          simp only
          split
          · have started : (input.behind lead).started = input.started := rfl
            rw [started]
            split <;> rfl
          · rfl

theorem read_behind (count : Nat) : (input.behind lead).read count =
    ((input.read count).1, (input.read count).2.behind lead) := by
  rw [read, read, fill_behind]
  split
  · rfl
  · have buffered : ((input.behind lead).consumed = (input.behind lead).buffer.size) =
        (input.consumed = input.buffer.size) := rfl
    simp only [buffered]
    split
    · cases input.fill with
      | mk outcome rest => cases outcome <;> rfl
    · rfl

theorem after_behind (requests : List Nat) :
    (input.behind lead).after requests = (input.after requests).behind lead := by
  induction requests generalizing input with
  | nil => rfl
  | cons count later ih => rw [after, after, read_behind, ih]

theorem behind_repliesAlike : (input.behind lead).RepliesAlike input := by
  intro requests count
  rw [after_behind, read_behind]

end Input

section Sequential

variable {decoder : Decoder} (sequential : decoder.Sequential) (stream : Stream)
  (lead : Array UInt8)

include sequential

theorem answer_behind (limit : Option UInt64) :
    decoder.answer limit (.ofStream (stream.behind lead)) =
      decoder.answer limit (.ofStream stream) :=
  (sequential limit _ _ (Input.behind_repliesAlike (.ofStream stream) lead)).1

theorem verifyHeader_behind : verifyHeader decoder (stream.behind lead) =
    ((verifyHeader decoder stream).1, (verifyHeader decoder stream).2.behind lead) := by
  obtain ⟨-, requests, moved, first⟩ :=
    sequential none _ _ (Input.behind_repliesAlike (.ofStream stream) lead)
  have outcomes : (verifyHeader decoder (stream.behind lead)).1 =
      (verifyHeader decoder stream).1 := by
    rw [verifyHeader_fst, verifyHeader_fst, answer_behind sequential]
  -- Both runs leave their inputs behind the same requests.
  have rests : (verifyHeader decoder (stream.behind lead)).2 =
      (verifyHeader decoder stream).2.behind lead := by
    rw [verifyHeader_eq, verifyHeader_eq, first, ← Input.after_behind]
    exact moved
  exact Prod.ext outcomes rests

theorem readBitmap_behind (limits : Limits) :
    (readBitmap decoder limits (stream.behind lead)).1 = (readBitmap decoder limits stream).1 := by
  rw [readBitmap_outcome, readBitmap_outcome, answer_behind sequential]

end Sequential

end Jpeg

namespace Png

variable (stream : Stream) (lead : Array UInt8)

theorem verifyHeader_behind : verifyHeader (stream.behind lead) =
    ((verifyHeader stream).1, (verifyHeader stream).2.behind lead) := by
  rw [verifyHeader_eq, verifyHeader_eq, Stream.readExactly_behind]

theorem readBitmap_behind {decoder : Decoder} (sequential : decoder.Sequential)
    (limits : Limits) :
    (readBitmap decoder limits (stream.behind lead)).1 = (readBitmap decoder limits stream).1 := by
  have images := sequential limits.maxDecodeBytes _ _ (Stream.behind_repliesAlike stream lead)
  rw [readBitmap_fst, readBitmap_fst, images]

end Png

section Detecting

variable (lead : Array UInt8) {decoders : Decoders} (sequential : decoders.jpeg.Sequential)

include sequential

theorem probe_behind (format : ImageFormat) (stream : Stream) :
    probe decoders format (stream.behind lead) =
      { probe decoders format stream with
        stream := (probe decoders format stream).stream.behind lead } := by
  cases format with
  | png => simp only [probe, Png.verifyHeader_behind]
  | jpeg =>
      simp only [probe, Jpeg.verifyHeader_behind sequential, Jpeg.Input.behind, Jpeg.Input.events]
  | dib =>
      obtain ⟨outcome, moved⟩ := Dib.verifyHeader_has (Reading.behind_compositional lead)
        stream (stream.behind lead) rfl
      change Probe.mk (Dib.verifyHeader (stream.behind lead)).1.isOk
        (Dib.verifyHeader (stream.behind lead)).2 [] = _
      rw [moved, ← outcome]
      rfl
  | unknown => rfl

theorem tryFormats_behind (start : Nat) (formats : List ImageFormat) (stream : Stream)
    (events : List Event) :
    tryFormats decoders (lead.size + start) formats (stream.behind lead) events =
      { tryFormats decoders start formats stream events with
        stream := (tryFormats decoders start formats stream events).stream.behind lead } := by
  induction formats generalizing stream events with
  | nil => rfl
  | cons format later ih =>
      simp only [tryFormats, probe_behind lead sequential, Stream.seek_behind]
      cases (probe decoders format stream).stream.seek start with
      | mk answer rest =>
          cases answer with
          | none => rfl
          | some sought =>
              simp only
              split
              · rfl
              · exact ih rest _

theorem detectFormat_behind (stream : Stream) : detectFormat decoders (stream.behind lead) =
    { detectFormat decoders stream with
      stream := (detectFormat decoders stream).stream.behind lead } := by
  simp only [detectFormat, Stream.query_behind]
  cases stream.query with
  | mk answer rest =>
      cases answer with
      | none => rfl
      | some start => exact tryFormats_behind lead sequential start probeOrder rest []

end Detecting

def Load.behind {α : Type} (load : Load α) (lead : Array UInt8) : Load α :=
  { load with stream := load.stream.behind lead }

theorem Load.replacing_behind {α : Type} (reporter : Reporter) (target : Bitmap)
    (outcome : Except Failure (Bitmap × α)) (stream : Stream) (events : List Event)
    (lead : Array UInt8) : replacing reporter target outcome (stream.behind lead) events =
      (replacing reporter target outcome stream events).behind lead := by
  cases outcome with
  | ok decoded => rfl
  | error failure => cases failure <;> rfl

section Loading

variable (lead : Array UInt8) (limits : Limits) (target : Bitmap) (stream : Stream)

theorem loadDib_behind :
    loadDib limits target (stream.behind lead) = (loadDib limits target stream).behind lead := by
  obtain ⟨outcome, moved⟩ := Dib.readBitmap_behind lead limits stream (stream.behind lead) rfl
  rw [loadDib_eq, loadDib_eq, moved, ← outcome]
  exact Load.replacing_behind ..

variable {decoders : Decoders} (jpeg : decoders.jpeg.Sequential) (png : decoders.png.Sequential)

include jpeg png

theorem loadFormat_behind (format : ImageFormat) :
    (loadFormat decoders limits format target (stream.behind lead)).Same
      (loadFormat decoders limits format target stream) := by
  cases format with
  | png =>
      simp only [loadFormat]
      rw [loadPng_replace_eq, loadPng_replace_eq, Png.readBitmap_behind stream lead png]
      exact Load.replacing_same ..
  | jpeg =>
      simp only [loadFormat]
      rw [loadJpeg_eq, loadJpeg_eq, Jpeg.readBitmap_behind jpeg]
      exact (Load.replacing_same ..).map _
  | dib =>
      simp only [loadFormat, loadDib_behind]
      exact ⟨rfl, rfl⟩
  | unknown => exact ⟨rfl, rfl⟩

theorem load_behind : (load decoders limits target (stream.behind lead)).Same
    (load decoders limits target stream) := by
  simp only [load, detectFormat_behind lead jpeg]
  obtain ⟨outcome, bitmap⟩ := loadFormat_behind lead limits target
    (detectFormat decoders stream).stream jpeg png (detectFormat decoders stream).format
  exact ⟨outcome, bitmap⟩

end Loading

/-- Where an image begins in its stream makes no difference: bytes before it change neither the
format, nor the outcome, nor the bitmap, and move the end of a device independent bitmap by as much
as its beginning. -/
theorem load_relative {decoders : Decoders} (jpeg : decoders.jpeg.Sequential)
    (png : decoders.png.Sequential) (lead : Array UInt8) (stream : Stream) (limits : Limits)
    (target : Bitmap) :
    (detectFormat decoders (stream.behind lead)).format = (detectFormat decoders stream).format ∧
    (load decoders limits target (stream.behind lead)).Same (load decoders limits target stream) ∧
    (loadDib limits target (stream.behind lead)).Same (loadDib limits target stream) ∧
    (loadDib limits target (stream.behind lead)).stream.position =
      lead.size + (loadDib limits target stream).stream.position := by
  rw [detectFormat_behind lead jpeg, loadDib_behind]
  exact ⟨rfl, load_behind lead limits target stream jpeg png, ⟨rfl, rfl⟩, rfl⟩

theorem load_relative_dot :
    (Decoders.known.jpeg.Sequential ∧ Decoders.known.png.Sequential) ∧
    ((detectFormat Decoders.known ((Schedule.whole Jpeg.speck 0).behind #[1, 2])).format = .jpeg ∧
      (load Decoders.known Limits.standard Bitmap.empty
        ((Schedule.whole Jpeg.speck 0).behind #[1, 2])).bitmap = ⟨1, 1, 1, #[⟨0xff808080⟩]⟩) ∧
    ((loadDib Limits.standard Bitmap.empty
        ((Schedule.torn Schedule.dot 3).behind #[1, 2])).bitmap = ⟨1, 1, 1, #[⟨0xff112233⟩]⟩ ∧
      (loadDib Limits.standard Bitmap.empty
        ((Schedule.torn Schedule.dot 3).behind #[1, 2])).stream.position = 35) := by
  have jpeg : Decoders.known.jpeg.Sequential := Jpeg.Decoder.ofFile_sequential _ _ _
  have png : Decoders.known.png.Sequential := Png.Decoder.knowing_sequential _
  obtain ⟨format, same, -⟩ := load_relative jpeg png #[1, 2] (Schedule.whole Jpeg.speck 0)
    Limits.standard Bitmap.empty
  obtain ⟨-, -, dib, moved⟩ := load_relative jpeg png #[1, 2] (Schedule.torn Schedule.dot 3)
    Limits.standard Bitmap.empty
  have returned := detectFormat_rest Decoders.known (Schedule.whole_torn Jpeg.speck 0).left
  have loaded : (load Decoders.known Limits.standard Bitmap.empty
      (Schedule.whole Jpeg.speck 0)).bitmap = ⟨1, 1, 1, #[⟨0xff808080⟩]⟩ := by
    have direct := (loadJpeg_rescheduled returned Limits.standard Bitmap.empty
      Decoders.known_bytewise).bitmap
    rw [load_of_jpeg _ _ _ _ Schedule.speck_detected, ← direct, Schedule.speck_loaded.2]
  refine ⟨⟨jpeg, png⟩, ⟨format.trans Schedule.speck_detected, same.bitmap.trans loaded⟩,
    dib.bitmap.trans ?_, moved.trans ?_⟩
  · decide +kernel
  · decide +kernel

end Raster
