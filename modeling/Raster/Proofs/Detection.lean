import Raster.Proofs.Dib.Decoded
import Raster.Proofs.Schedule

/-!
What header checks accept. The data of each format has a mark of its own at its start, so at most
one check accepts a stream. With decoders that keep to the marks, a loader reads nothing that the
check of its format refuses.
-/

namespace Raster

namespace Stream

variable {stream : Stream}

theorem getElem?_of_extract {bytes : Array UInt8} {start stop index : Nat} {value : UInt8}
    (found : (bytes.extract start stop)[index]? = some value) :
    bytes[start + index]? = some value := by
  rw [Array.getElem?_extract] at found
  split at found
  · exact found
  · cases found

theorem StartsWith.first {mark : Array UInt8} (starts : stream.StartsWith mark)
    (filled : 0 < mark.size) : stream.bytes[stream.position]? = mark[0]? := by
  obtain ⟨value, found⟩ : ∃ value, mark[0]? = some value :=
    ⟨_, Array.getElem?_eq_getElem filled⟩
  rw [found]
  rw [← starts] at found
  exact getElem?_of_extract found

theorem startsWith_pair {first second : UInt8}
    (here : stream.bytes[stream.position]? = some first)
    (next : stream.bytes[stream.position + 1]? = some second) :
    stream.StartsWith #[first, second] := by
  have inside := (Array.getElem?_eq_some_iff.mp next).1
  apply Array.ext_getElem?
  intro index
  have pair : min (stream.position + 2) stream.bytes.size - stream.position = 2 := by omega
  rw [Array.getElem?_extract]
  rcases index with _ | _ | later
  · simp [pair, here]
  · simp [pair, next]
  · simp [pair, show ¬later + 1 + 1 < 2 by omega]

end Stream

namespace Png

variable {stream : Stream}

theorem verifyHeader_eq_ok (quiet : stream.Quiet) (signed : stream.StartsWith signature) :
    (verifyHeader stream).1 = .ok () := by
  have whole : stream.bytes.extract stream.position (stream.position + 8) = signature := signed
  have inside : stream.position + 8 ≤ stream.bytes.size := by
    have size := congrArg Array.size whole
    rw [Array.size_extract] at size
    change _ = 8 at size
    omega
  obtain ⟨rest, read, -⟩ := quiet.readExactly_eq_some #[] inside
  rw [verifyHeader_eq, read, checkSignature, Array.empty_append, if_pos whole]

theorem verifyHeader_mark (accepted : (verifyHeader stream).1.isOk = true) :
    stream.StartsWith signature := by
  rw [verifyHeader] at accepted
  split at accepted
  · cases accepted
  · rename_i bytes rest served
    split at accepted
    · rename_i signed
      rw [(Stream.readExactly_eq_some served).1, Array.empty_append] at signed
      exact signed
    · cases accepted

theorem readBitmap_matched {decoder : Decoder} (signed : decoder.Signed) {limits : Limits}
    (quiet : stream.Quiet) (read : (readBitmap decoder limits stream).1.isOk = true) :
    (verifyHeader stream).1 = .ok () := by
  apply verifyHeader_eq_ok quiet
  apply signed limits.maxDecodeBytes stream quiet
  rw [readBitmap_fst] at read
  cases found : (decoder.image limits.maxDecodeBytes stream).1 with
  | none =>
      rw [found] at read
      cases read
  | some image => rfl

end Png

namespace Jpeg

variable {stream : Stream} {decoder : Decoder}

theorem Input.startsWith_of_first? (quiet : stream.Quiet)
    (first : (Input.ofStream stream).first? 2 = some #[0xff, 0xd8]) :
    stream.StartsWith #[0xff, 0xd8] := by
  rcases Nat.eq_zero_or_pos stream.remaining with none | data
  · rw [first?_eq_none quiet 2 (by decide) none] at first
    cases first
  · obtain ⟨bytes, read, -, shows⟩ := first?_eq_some quiet 2 data
    rw [read] at first
    cases first
    have here := shows 0 (by decide)
    have next := shows 1 (by decide)
    have real : 1 < stream.remaining := by
      by_contra alone
      have last : stream.remaining = 1 := by omega
      rw [padded, last] at next
      cases next
    have inside : stream.position + 1 < stream.bytes.size := by
      rw [Stream.remaining] at real
      omega
    rw [padded, if_pos data] at here
    rw [padded, if_pos real] at next
    apply Stream.startsWith_pair
    · rw [Array.getElem?_eq_getElem (by omega), Array.getElem_eq_getD 0]
      exact congrArg some here.symm
    · rw [Array.getElem?_eq_getElem inside, Array.getElem_eq_getD 0]
      exact congrArg some next.symm

theorem verifyHeader_mark (marked : decoder.Marked) (quiet : stream.Quiet)
    (accepted : (verifyHeader decoder stream).1.isOk = true) : stream.StartsWith #[0xff, 0xd8] :=
  Input.startsWith_of_first? quiet (verifyHeader_marked marked quiet accepted)

theorem readInfo_of_readBitmap {limits : Limits}
    (read : (readBitmap decoder limits stream).1.isOk = true) :
    (decoder.readInfo (some limits.maxDecodeBytes) (.ofStream stream)).1.isSome = true := by
  rw [readBitmap] at read
  split at read
  · cases read
  · rename_i started
    rw [started]
    rfl

theorem readBitmap_matched (capped : decoder.Capped) {limits : Limits} (quiet : stream.Quiet)
    (read : (readBitmap decoder limits stream).1.isOk = true) :
    (verifyHeader decoder stream).1 = .ok () := by
  have accepted := capped _ stream quiet (readInfo_of_readBitmap read)
  rw [verifyHeader_eq]
  cases started : (decoder.readInfo none (.ofStream stream)).1 with
  | none =>
      rw [started] at accepted
      cases accepted
  | some state => rfl

end Jpeg

namespace Dib

variable {stream : Stream}

theorem verifyHeader_mark (accepted : (verifyHeader stream).1.isOk = true) :
    stream.StartsWith #[0x42, 0x4d] := by
  cases checked : verifyHeader stream with
  | mk outcome rest =>
      rw [checked] at accepted
      cases outcome with
      | error error => cases accepted
      | ok value =>
          obtain ⟨file, between, header, -⟩ := Reading.bind_eq_ok checked
          obtain ⟨bytes, last, block, parsed⟩ := Reading.bind_eq_ok header
          obtain ⟨⟨first, second⟩, -⟩ := FileHeader.ofBytes_eq_ok (Reading.lift_eq_ok parsed).1
          rw [Reading.exactly_extract block] at first second
          exact Stream.startsWith_pair (Stream.getElem?_of_extract first)
            (Stream.getElem?_of_extract second)

theorem readBitmap_matched {limits : Limits} (quiet : stream.Quiet)
    (read : (readBitmap limits stream).1.isOk = true) : (verifyHeader stream).1 = .ok () := by
  obtain ⟨rest, asked, moved⟩ := Reading.position_eq (.during .dibPosition) quiet
  have same : stream.Rescheduled rest :=
    ⟨moved.bytes.symm, moved.position.symm, quiet, moved.quiet quiet⟩
  have headers := (readFileHeader_has Reading.rescheduled_compositional stream rest same).1
  rw [readBitmap, Reading.bind_ok asked] at read
  cases done : readFileHeader stream with
  | mk outcome last =>
      cases otherDone : readFileHeader rest with
      | mk otherOutcome otherLast =>
          rw [done, otherDone] at headers
          simp only at headers
          subst headers
          cases outcome with
          | error error =>
              rw [Reading.bind_error otherDone] at read
              cases read
          | ok header =>
              rw [verifyHeader, Reading.bind_ok done]
              rfl

end Dib

namespace ImageFormat

def mark : ImageFormat → Array UInt8
  | .png => Png.signature
  | .jpeg => #[0xff, 0xd8]
  | .dib => #[0x42, 0x4d]
  | .unknown => #[]

theorem mark_filled {format : ImageFormat} (known : format ≠ .unknown) : 0 < format.mark.size := by
  revert known
  cases format <;> decide

theorem mark_inj {one two : ImageFormat} (known : one ≠ .unknown)
    (same : one.mark[0]? = two.mark[0]?) : one = two := by
  revert known same
  cases one <;> cases two <;> decide

end ImageFormat

variable {decoders : Decoders} {stream : Stream} {format other : ImageFormat}

theorem probe_known (matched : (probe decoders format stream).matched = true) :
    format ≠ .unknown := by
  rintro rfl
  cases matched

section Marks

variable (marked : decoders.jpeg.Marked) (quiet : stream.Quiet)
  (matched : (probe decoders format stream).matched = true)

include marked quiet matched

theorem probe_mark : stream.StartsWith format.mark := by
  cases format with
  | png => exact Png.verifyHeader_mark matched
  | jpeg => exact Jpeg.verifyHeader_mark marked quiet matched
  | dib => exact Dib.verifyHeader_mark matched
  | unknown => cases matched

theorem probe_unique (otherMatched : (probe decoders other stream).matched = true) :
    format = other := by
  have known := probe_known matched
  have here := (probe_mark marked quiet matched).first (ImageFormat.mark_filled known)
  have there := (probe_mark marked quiet otherMatched).first
    (ImageFormat.mark_filled (probe_known otherMatched))
  exact ImageFormat.mark_inj known (here.symm.trans there)

end Marks

theorem isOk_map {α β : Type} (change : α → β) (outcome : Except Failure α) :
    (outcome.map change).isOk = outcome.isOk := by
  cases outcome <;> rfl

theorem Load.replacing_isOk {α : Type} (reporter : Reporter) (target : Bitmap)
    (outcome : Except Failure (Bitmap × α)) (stream : Stream) (events : List Event) :
    (replacing reporter target outcome stream events).outcome.isOk = outcome.isOk := by
  cases outcome with
  | ok decoded => rfl
  | error failure => cases failure <;> rfl

section Loaders

variable (decoders : Decoders) (limits : Limits) (target : Bitmap) (stream : Stream)

theorem loadPng_isOk : (loadPng decoders limits .replace target stream).outcome.isOk =
    (Png.readBitmap decoders.png limits stream).1.isOk := by
  rw [loadPng_replace_eq, Load.replacing_isOk]

theorem loadJpeg_isOk : (loadJpeg decoders limits target stream).outcome.isOk =
    (Jpeg.readBitmap decoders.jpeg limits stream).1.isOk := by
  rw [loadJpeg_eq, Load.replacing_isOk, isOk_map]

theorem loadDib_isOk : (loadDib limits target stream).outcome.isOk =
    (Dib.readBitmap limits stream).1.isOk := by
  rw [loadDib_eq, Load.replacing_isOk, isOk_map]

end Loaders

theorem loadFormat_matched (signed : decoders.png.Signed) (capped : decoders.jpeg.Capped)
    {limits : Limits} {target : Bitmap} (quiet : stream.Quiet)
    (loaded : (loadFormat decoders limits format target stream).outcome.isOk = true) :
    (probe decoders format stream).matched = true := by
  cases format with
  | png =>
      rw [loadFormat, loadPng_isOk] at loaded
      exact congrArg Except.isOk (Png.readBitmap_matched signed quiet loaded)
  | jpeg =>
      rw [loadFormat, Load.map, isOk_map, loadJpeg_isOk] at loaded
      exact congrArg Except.isOk (Jpeg.readBitmap_matched capped quiet loaded)
  | dib =>
      rw [loadFormat, Load.map, isOk_map, loadDib_isOk] at loaded
      exact congrArg Except.isOk (Dib.readBitmap_matched quiet loaded)
  | unknown => cases loaded

end Raster
