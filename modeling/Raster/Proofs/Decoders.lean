import Raster.Decoders
import Raster.Proofs.Jpeg.Supplied

/-!
What results about loads ask of the decoders beyond their interfaces, each as a property of its own.
Decoders that know a single file have all of them.
-/

namespace Raster

namespace Stream

def ahead (stream : Stream) : Array UInt8 :=
  stream.bytes.extract stream.position stream.bytes.size

def StartsWith (stream : Stream) (mark : Array UInt8) : Prop :=
  stream.bytes.extract stream.position (stream.position + mark.size) = mark

instance (stream : Stream) (mark : Array UInt8) : Decidable (stream.StartsWith mark) :=
  inferInstanceAs (Decidable (_ = _))

def tried (stream : Stream) : List Nat → Stream
  | [] => stream
  | count :: later => (stream.attempt count).2.tried later

/-- Two streams that give the same to every attempt after the same attempts before it. -/
def RepliesAlike (stream other : Stream) : Prop :=
  ∀ requests count, ((stream.tried requests).attempt count).1 =
    ((other.tried requests).attempt count).1

theorem RepliesAlike.rest {stream other : Stream} (alike : stream.RepliesAlike other)
    (count : Nat) : (stream.attempt count).2.RepliesAlike (other.attempt count).2 :=
  fun requests => alike (count :: requests)

theorem read_alike {stream other : Stream} (alike : stream.RepliesAlike other) (count : Nat) :
    (stream.read count).1 = (other.read count).1 ∧
      (stream.read count).2.RepliesAlike (other.read count).2 := by
  have reply := alike [] count
  have rests := alike.rest count
  fun_induction read stream count generalizing other with
  | case1 stream rest interrupted ih =>
      simp only [tried, interrupted] at reply rests
      have otherTried : other.attempt count = (.interrupted, (other.attempt count).2) :=
        Prod.ext reply.symm rfl
      rw [read_attempt other, otherTried]
      exact ih rests (rests [] count) (rests.rest count)
  | case2 stream rest failed =>
      simp only [tried, failed] at reply rests
      have otherTried : other.attempt count = (.failed, (other.attempt count).2) :=
        Prod.ext reply.symm rfl
      rw [read_attempt other, otherTried]
      exact ⟨rfl, rests⟩
  | case3 stream block rest given =>
      simp only [tried, given] at reply rests
      have otherTried : other.attempt count = (.given block, (other.attempt count).2) :=
        Prod.ext reply.symm rfl
      rw [read_attempt other, otherTried]
      exact ⟨rfl, rests⟩

theorem readExactly_alike {stream other : Stream} (alike : stream.RepliesAlike other)
    (count : Nat) (before : Array UInt8) :
    (stream.readExactly count before).1 = (other.readExactly count before).1 := by
  induction count using Nat.strongRecOn generalizing stream other before with
  | ind count ih =>
      obtain ⟨answers, rests⟩ := read_alike alike count
      rw [readExactly, readExactly.eq_def other]
      split
      · rfl
      · rename_i wanted
        cases served : stream.read count with
        | mk answer rest =>
            have otherServed : other.read count = (answer, (other.read count).2) :=
              Prod.ext (by rw [← answers, served]) rfl
            rw [otherServed]
            rw [served] at rests
            cases answer with
            | none => rfl
            | some block =>
                dsimp only
                split
                · rfl
                · exact ih (count - block.size) (by omega) rests (before ++ block)

@[simp] theorem ahead_ofBytes (bytes : Array UInt8) (faults : FaultPlan) :
    (ofBytes bytes 0 faults).ahead = bytes :=
  Array.extract_size

@[simp] theorem size_ahead (stream : Stream) : stream.ahead.size = stream.remaining := by
  rw [ahead, Array.size_extract, Nat.min_self, remaining]

theorem Quiet.readExactly_ahead {stream : Stream} (quiet : stream.Quiet) (count : Nat) :
    (stream.readExactly count #[]).1 =
      if count ≤ stream.ahead.size then some (stream.ahead.extract 0 count) else none := by
  rw [size_ahead, remaining]
  by_cases inside : stream.position + count ≤ stream.bytes.size
  · obtain ⟨rest, read, -⟩ := quiet.readExactly_eq_some #[] inside
    rw [read, if_pos (by omega), ahead, Array.extract_extract, Nat.min_eq_left inside,
      Array.empty_append, Nat.add_zero]
  · by_cases wanted : 0 < count
    · obtain ⟨rest, refused, -⟩ :=
        quiet.readExactly_eq_none #[] wanted (Nat.lt_of_not_le inside)
      rw [refused, if_neg (by omega)]
    · have none : count = 0 := Nat.eq_zero_of_not_pos wanted
      rw [none, readExactly, if_pos rfl, if_pos (Nat.zero_le _), Array.extract_zero]

end Stream

namespace Jpeg

theorem Input.first?_extract {stream : Stream} (quiet : stream.Quiet) {count : Nat}
    {bytes : Array UInt8} (found : (ofStream stream).first? count = some bytes) {fewer : Nat}
    (le : fewer ≤ count) : (ofStream stream).first? fewer = some (bytes.extract 0 fewer) := by
  rcases Nat.eq_zero_or_pos stream.remaining with none | data
  · have nothing : count = 0 := by
      apply Nat.eq_zero_of_not_pos
      intro some
      rw [first?_eq_none quiet count some none] at found
      cases found
    have still : fewer = 0 := by omega
    rw [still, first?, readExactly, if_pos rfl, Array.extract_zero]
  · obtain ⟨all, read, size, shows⟩ := first?_eq_some quiet count data
    obtain ⟨some, readSome, sizeSome, showsSome⟩ := first?_eq_some quiet fewer data
    rw [read] at found
    cases found
    rw [readSome, showsSome.unique (shows.extract 0 fewer)]
    rw [Array.size_extract]
    omega

theorem Input.first?_ahead {stream : Stream} (quiet : stream.Quiet)
    (data : 0 < stream.remaining) :
    (ofStream stream).first? stream.remaining = some stream.ahead := by
  obtain ⟨bytes, read, size, shows⟩ := first?_eq_some quiet stream.remaining data
  have ahead : Shows stream 0 stream.ahead := by
    have shown := @shows_data stream 0 stream.remaining (by omega)
    have reach : stream.position + stream.remaining = stream.bytes.size := by
      rw [Stream.remaining] at data ⊢
      omega
    rw [Nat.add_zero, reach] at shown
    exact shown
  rw [read, shows.unique ahead (size.trans stream.size_ahead.symm)]

namespace Decoder

variable (decoder : Decoder)

def answer (limit : Option UInt64) (input : Input) :
    Option (Option Info × Option (Array UInt8)) :=
  match decoder.readInfo limit input with
  | (none, _) => none
  | (some state, rest) => some (decoder.info state, (decoder.decode state rest).1)

/-- The first two bytes of what is accepted begin an image. -/
def Marked : Prop :=
  ∀ limit stream, stream.Quiet → (decoder.readInfo limit (.ofStream stream)).1.isSome →
    (Input.ofStream stream).first? 2 = some #[0xff, 0xd8]

/-- A bound on the size of buffers does nothing but refuse. -/
def Capped : Prop :=
  ∀ limit stream, stream.Quiet → (decoder.readInfo (some limit) (.ofStream stream)).1.isSome →
    (decoder.readInfo none (.ofStream stream)).1.isSome

/-- Nothing but the delivered bytes decides what comes of an input. -/
def Bytewise : Prop :=
  ∀ limit left right, left.Quiet → right.Quiet →
    (∀ count, (Input.ofStream left).first? count = (Input.ofStream right).first? count) →
    decoder.answer limit (.ofStream left) = decoder.answer limit (.ofStream right)

/-- Nothing but the replies decides what comes of an input, and what is asked for. -/
def Sequential : Prop :=
  ∀ limit input other, input.RepliesAlike other →
    decoder.answer limit input = decoder.answer limit other ∧
    ∃ requests, (decoder.readInfo limit input).2 = input.after requests ∧
      (decoder.readInfo limit other).2 = other.after requests

def ofFile (file : Array UInt8) (info : Info) (data : Array UInt8) : Decoder where
  State := Unit
  readInfo _ input :=
    (if input.first? file.size = some file then some () else none,
      (input.readExactly file.size #[]).2)
  info _ := some info
  decode _ input := (some data, input)
  readInfo_reads _ input := input.readExactly_after file.size #[]
  decode_reads _ _ := ⟨[], rfl⟩

section File

variable (file : Array UInt8) (info : Info) (data : Array UInt8)

theorem ofFile_answer (limit : Option UInt64) (input : Input) :
    (ofFile file info data).answer limit input =
      if input.first? file.size = some file then some (some info, some data) else none := by
  by_cases accepted : input.first? file.size = some file <;> simp [answer, ofFile, accepted]

theorem ofFile_self {stream : Stream} (quiet : stream.Quiet) (here : stream.ahead = file)
    (filled : 0 < file.size) (limit : Option UInt64) :
    (ofFile file info data).answer limit (.ofStream stream) = some (some info, some data) := by
  rw [← here, Stream.size_ahead] at filled
  rw [ofFile_answer, ← here, Stream.size_ahead, Input.first?_ahead quiet filled, if_pos rfl]

theorem ofFile_accepts {limit : Option UInt64} {input : Input}
    (accepted : ((ofFile file info data).readInfo limit input).1.isSome) :
    input.first? file.size = some file := by
  dsimp only [ofFile] at accepted
  split at accepted
  · assumption
  · cases accepted

variable {file}

theorem ofFile_marked (marked : file.extract 0 2 = #[0xff, 0xd8]) :
    (ofFile file info data).Marked := by
  intro limit stream quiet accepted
  have size := congrArg Array.size marked
  simp only [Array.size_extract, List.size_toArray, List.length_cons, List.length_nil] at size
  rw [← marked]
  exact Input.first?_extract quiet (ofFile_accepts file info data accepted) (by omega)

variable (file)

theorem ofFile_capped : (ofFile file info data).Capped :=
  fun _ _ _ accepted => accepted

theorem ofFile_bytewise : (ofFile file info data).Bytewise := by
  intro limit left right _ _ same
  rw [ofFile_answer, ofFile_answer, same]

theorem ofFile_sequential : (ofFile file info data).Sequential := by
  intro limit input other alike
  obtain ⟨same, requests, ends⟩ := Input.readExactly_alike alike file.size #[]
  refine ⟨?_, requests, ends⟩
  rw [ofFile_answer, ofFile_answer, Input.first?, Input.first?, same]

end File

end Decoder

end Jpeg

namespace Png

namespace Decoder

variable (decoder : Decoder)

/-- Images are found behind the signature only. -/
def Signed : Prop :=
  ∀ limit stream, stream.Quiet → (decoder.image limit stream).1.isSome →
    stream.StartsWith signature

/-- Under one plan of faults nothing but the bytes ahead decides on the image. There may be plans
under which it is not so, since some decoders give up when they are interrupted. -/
def Bytewise (plan : FaultPlan) : Prop :=
  ∀ limit left right, left.faults = plan → right.faults = plan → left.Quiet → right.Quiet →
    left.ahead = right.ahead → (decoder.image limit left).1 = (decoder.image limit right).1

/-- Nothing but the replies to its attempts to read decides on the image. -/
def Sequential : Prop :=
  ∀ limit stream other, stream.RepliesAlike other →
    (decoder.image limit stream).1 = (decoder.image limit other).1

/-- No side of an image takes more than 31 bits. -/
def Bounded : Prop :=
  ∀ limit stream image, (decoder.image limit stream).1 = some image →
    image.width.toNat < 0x80000000 ∧ image.height.toNat < 0x80000000

end Decoder

structure KnownFile where
  bytes : Array UInt8
  image : Image
  mask : Mask

namespace KnownFile

def find? (files : List KnownFile) (stream : Stream) : Option KnownFile :=
  List.find? (fun file => (stream.readExactly file.bytes.size #[]).1 = some file.bytes) files

variable {files : List KnownFile} {stream : Stream} {file : KnownFile}

theorem find?_ahead (quiet : stream.Quiet) : find? files stream = List.find? (fun file =>
    file.bytes.size ≤ stream.ahead.size ∧ stream.ahead.extract 0 file.bytes.size = file.bytes)
      files := by
  rw [find?]
  congr 1
  funext file
  rw [quiet.readExactly_ahead, decide_eq_decide]
  by_cases fits : file.bytes.size ≤ stream.ahead.size
  · rw [if_pos fits, Option.some_inj]
    exact ⟨fun same => ⟨fits, same⟩, And.right⟩
  · rw [if_neg fits]
    exact ⟨nofun, fun both => absurd both.1 fits⟩

theorem mem_of_find? (found : find? files stream = some file) : file ∈ files :=
  List.mem_of_find?_eq_some found

theorem startsWith_of_find? (found : find? files stream = some file) {mark : Array UInt8}
    (marked : file.bytes.extract 0 mark.size = mark) : stream.StartsWith mark := by
  have read := List.find?_some found
  rw [decide_eq_true_eq] at read
  obtain ⟨same, -, -⟩ := Stream.readExactly_eq_some (Prod.ext read rfl)
  have size := congrArg Array.size marked
  rw [Array.size_extract] at size
  rw [Array.empty_append] at same
  rw [same, Array.extract_extract, Nat.add_zero, Nat.min_eq_left (by omega)] at marked
  exact marked

end KnownFile

namespace Decoder

def knowing (files : List KnownFile) : Decoder where
  image _ stream := ((KnownFile.find? files stream).map KnownFile.image, stream)
  rows _ stream := ((KnownFile.find? files stream).map KnownFile.mask, stream)

section Knowing

variable {files : List KnownFile}

theorem knowing_image {limit : UInt64} {stream : Stream} {image : Image}
    (read : ((knowing files).image limit stream).1 = some image) :
    ∃ file, KnownFile.find? files stream = some file ∧ file.image = image :=
  Option.map_eq_some_iff.mp read

theorem knowing_signed (signed : ∀ file ∈ files, file.bytes.extract 0 8 = signature) :
    (knowing files).Signed := by
  intro limit stream quiet accepted
  obtain ⟨image, read⟩ := Option.isSome_iff_exists.mp accepted
  obtain ⟨file, found, -⟩ := knowing_image read
  exact KnownFile.startsWith_of_find? found (signed file (KnownFile.mem_of_find? found))

theorem knowing_bounded
    (bounded : ∀ file ∈ files, file.image.width.toNat < 0x80000000 ∧
      file.image.height.toNat < 0x80000000) :
    (knowing files).Bounded := by
  intro limit stream image read
  obtain ⟨file, found, rfl⟩ := knowing_image read
  exact bounded file (KnownFile.mem_of_find? found)

variable (files)

theorem knowing_bytewise (plan : FaultPlan) : (knowing files).Bytewise plan := by
  intro limit left right _ _ quiet otherQuiet same
  simp only [knowing, KnownFile.find?_ahead quiet, KnownFile.find?_ahead otherQuiet, same]

theorem knowing_sequential : (knowing files).Sequential := by
  intro limit stream other alike
  simp only [knowing, KnownFile.find?, Stream.readExactly_alike alike]

end Knowing

end Decoder

end Png

def Jpeg.speck : Array UInt8 := #[0xff, 0xd8, 0xff, 0xdb, 0x00, 0x43, 0x00] ++
  Array.replicate 64 0x08 ++ #[
    0xff, 0xc0, 0x00, 0x0b, 0x08, 0x00, 0x01, 0x00, 0x01, 0x01, 0x01, 0x11, 0x00,
    0xff, 0xc4, 0x00, 0x14, 0x00, 0x01, 0x00, 0x00, 0x00, 0x00, 0x00, 0x00, 0x00, 0x00, 0x00,
    0x00, 0x00, 0x00, 0x00, 0x00, 0x00, 0x00,
    0xff, 0xc4, 0x00, 0x14, 0x10, 0x01, 0x00, 0x00, 0x00, 0x00, 0x00, 0x00, 0x00, 0x00, 0x00,
    0x00, 0x00, 0x00, 0x00, 0x00, 0x00, 0x00,
    0xff, 0xda, 0x00, 0x08, 0x01, 0x01, 0x00, 0x00, 0x3f, 0x00, 0x3f, 0xff, 0xd9]

def Png.mote : Png.KnownFile where
  bytes := #[
    0x89, 0x50, 0x4e, 0x47, 0x0d, 0x0a, 0x1a, 0x0a, 0x00, 0x00, 0x00, 0x0d, 0x49, 0x48, 0x44, 0x52,
    0x00, 0x00, 0x00, 0x01, 0x00, 0x00, 0x00, 0x01, 0x08, 0x06, 0x00, 0x00, 0x00, 0x1f, 0x15, 0xc4,
    0x89, 0x00, 0x00, 0x00, 0x10, 0x49, 0x44, 0x41, 0x54, 0x78, 0x01, 0x01, 0x05, 0x00, 0xfa, 0xff,
    0x00, 0x11, 0x22, 0x33, 0x80, 0x01, 0x95, 0x00, 0xe7, 0xb3, 0x85, 0xd1, 0x71, 0x00, 0x00, 0x00,
    0x00, 0x49, 0x45, 0x4e, 0x44, 0xae, 0x42, 0x60, 0x82]
  image := ⟨1, 1, #[⟨0x11, 0x22, 0x33, 0x80⟩]⟩
  mask := ⟨⟨1, 1, 8, .truecolourAlpha, false⟩, #[], [#[0x11, 0x22, 0x33, 0x80]], .exhausted⟩

namespace Decoders

/-- What the agreement of detection with the loaders asks of decoders, under a plan of faults. -/
structure Orderly (decoders : Decoders) (plan : FaultPlan) : Prop where
  signed : decoders.png.Signed
  imageBytewise : decoders.png.Bytewise plan
  marked : decoders.jpeg.Marked
  capped : decoders.jpeg.Capped
  bytewise : decoders.jpeg.Bytewise

/-- Decoders for two images of one pixel, a gray one and a translucent one. -/
def known : Decoders :=
  ⟨.ofFile Jpeg.speck ⟨1, 1, .gray8⟩ #[0x80], .knowing [Png.mote]⟩

theorem known_marked : known.jpeg.Marked := Jpeg.Decoder.ofFile_marked _ _ (by decide +kernel)

theorem known_bytewise : known.jpeg.Bytewise := Jpeg.Decoder.ofFile_bytewise _ _ _

theorem known_jpeg {stream : Stream} (quiet : stream.Quiet) (here : stream.ahead = Jpeg.speck)
    (limit : Option UInt64) :
    known.jpeg.answer limit (.ofStream stream) = some (some ⟨1, 1, .gray8⟩, some #[0x80]) :=
  Jpeg.Decoder.ofFile_self _ _ _ quiet here (by decide +kernel) limit

theorem known_png {stream : Stream} (quiet : stream.Quiet) (here : stream.ahead = Png.mote.bytes)
    (limit : UInt64) : (known.png.image limit stream).1 = some Png.mote.image := by
  simp [known, Png.Decoder.knowing, Png.KnownFile.find?_ahead quiet, here]

theorem known_signed : known.png.Signed := by
  refine Png.Decoder.knowing_signed fun file listed => ?_
  rw [List.mem_singleton.mp listed]
  decide +kernel

theorem known_bounded : known.png.Bounded := by
  refine Png.Decoder.knowing_bounded fun file listed => ?_
  rw [List.mem_singleton.mp listed]
  decide

theorem known_orderly (plan : FaultPlan) : known.Orderly plan where
  signed := known_signed
  imageBytewise := Png.Decoder.knowing_bytewise _ plan
  marked := known_marked
  capped := Jpeg.Decoder.ofFile_capped _ _ _
  bytewise := known_bytewise

end Decoders

end Raster
