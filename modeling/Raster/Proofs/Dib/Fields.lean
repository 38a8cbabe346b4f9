import Raster.Proofs.Dib.Exact

/-!
Bitmaps with their colours in fields of the pixel, which masks cut out. The three colour masks must
be runs of adjacent bits, or else the headers are refused. Of the alpha mask nothing is asked: one
whose bits have gaps counts as none.
-/

namespace Raster

namespace Reading

variable {α β : Type} {stream : Stream}

/-- Work comes to this outcome, unless it meets a fault first. -/
def Settles (work : Reading α) (outcome : Except Failure α) (stream : Stream) : Prop :=
  (∃ rest, work stream = (outcome, rest)) ∨
    ¬stream.Quiet ∧ ∃ error rest, work stream = (.error error, rest)

def Gives (work : Reading α) (value : α) (place : Nat) (stream : Stream) : Prop :=
  (∃ rest, work stream = (.ok value, rest) ∧ stream.MovedTo place rest) ∨
    ¬stream.Quiet ∧ ∃ error rest, work stream = (.error error, rest)

variable {work : Reading α} {next : α → Reading β} {value : α} {place : Nat}

theorem Settles.after {later : Reading α} {outcome : Except Failure α} {middle : Stream}
    (settles : Settles later outcome middle) (moved : stream.MovedTo place middle)
    (same : work stream = later middle) : Settles work outcome stream := by
  rcases settles with ⟨rest, settled⟩ | ⟨faulty, error, rest, failed⟩
  · exact .inl ⟨rest, same.trans settled⟩
  · exact .inr ⟨mt moved.quiet faulty, error, rest, same.trans failed⟩

theorem Gives.bind {outcome : Except Failure β} (gives : Gives work value place stream)
    (later : ∀ rest, stream.MovedTo place rest → Settles (next value) outcome rest) :
    Settles (work >>= next) outcome stream := by
  rcases gives with ⟨middle, given, moved⟩ | ⟨faulty, error, rest, failed⟩
  · exact (later middle moved).after moved (bind_ok given)
  · exact .inr ⟨faulty, error, rest, bind_error failed⟩

theorem Gives.lift (gives : Gives work value place stream) {result : β}
    (done : ∀ rest, next value rest = (.ok result, rest)) :
    Gives (work >>= next) result place stream := by
  rcases gives with ⟨middle, given, moved⟩ | ⟨faulty, error, rest, failed⟩
  · exact .inl ⟨middle, (bind_ok given).trans (done middle), moved⟩
  · exact .inr ⟨faulty, error, rest, bind_error failed⟩

theorem Settles.map {outcome : Except Failure α} (settles : Settles work outcome stream)
    (change : α → β) :
    Settles (work >>= fun value => pure (change value)) (outcome.map change) stream := by
  rcases settles with ⟨rest, settled⟩ | ⟨faulty, error, rest, failed⟩
  · cases outcome with
    | error error => exact .inl ⟨rest, bind_error settled⟩
    | ok value => exact .inl ⟨rest, bind_ok settled⟩
  · exact .inr ⟨faulty, error, rest, bind_error failed⟩

theorem Settles.eq_ok {outcome : Except Failure α} (settles : Settles work outcome stream)
    {rest : Stream} (done : work stream = (.ok value, rest)) : outcome = .ok value := by
  rcases settles with ⟨rest, settled⟩ | ⟨-, error, rest, failed⟩
  · cases settled.symm.trans done
    rfl
  · cases failed.symm.trans done

theorem Settles.eq_of_quiet {outcome : Except Failure α} (settles : Settles work outcome stream)
    (quiet : stream.Quiet) : (work stream).1 = outcome := by
  rcases settles with ⟨rest, settled⟩ | ⟨faulty, -⟩
  · rw [settled]
  · exact absurd quiet faulty

theorem gives_exactly {count : Nat} (error : Error)
    (inside : stream.position + count ≤ stream.bytes.size) :
    Gives (exactly count error)
      (stream.bytes.extract stream.position (stream.position + count))
      (stream.position + count) stream := by
  cases read : stream.readExactly count #[] with
  | mk answer rest =>
      cases answer with
      | none =>
          have failed : exactly count error stream = (.error (.refused error), rest) := by
            rw [exactly, read]
          refine .inr ⟨fun quiet => ?_, .refused error, rest, failed⟩
          obtain ⟨other, done, -⟩ := exactly_eq_ok error quiet inside
          cases failed.symm.trans done
      | some block =>
          obtain ⟨same, moved, -⟩ := Stream.readExactly_eq_some read
          rw [Array.empty_append] at same
          refine .inl ⟨rest, ?_, moved⟩
          rw [exactly, read, same]

theorem gives_position (error : Error) (stream : Stream) :
    Gives (position error) stream.position stream.position stream := by
  cases failing : stream.faults.queryFails stream.queries with
  | true =>
      refine .inr
        ⟨fun quiet => ?_, .refused error, { stream with queries := stream.queries + 1 }, ?_⟩
      · cases failing.symm.trans (quiet.queries _)
      · simp only [position, Stream.query, failing, if_true]
  | false =>
      refine .inl ⟨{ stream with queries := stream.queries + 1 }, ?_, rfl, rfl, rfl⟩
      simp only [position, Stream.query, failing, Bool.false_eq_true, if_false]

end Reading

namespace Dib

def Contiguous (word : Nat) : Prop := ∃ run : BitRun, run.word = word

/-- An info header of some size that says that pixels have 32 bits, with fields cut out by masks.
The masks are in the header, or behind it if that has just 40 bytes; an alpha mask is there from
56 bytes on. -/
structure FieldsStand (bytes : Array UInt8) (start size red green blue alpha : Nat) : Prop where
  signature : byteOf bytes start = 0x42 ∧ byteOf bytes (start + 1) = 0x4d
  gap : 14 + size ≤ wordOf bytes (start + 10)
  headerSize : wordOf bytes (start + 14) = size
  known : size ∈ [40, 52, 56, 108, 124]
  whole : start + 14 + max size 52 ≤ bytes.size
  columns : 0 < wordOf bytes (start + 18) ∧ wordOf bytes (start + 18) < 2 ^ 31
  rows : wordOf bytes (start + 22) ≠ 0
  planes : shortOf bytes (start + 26) = 1
  bits : shortOf bytes (start + 28) = 32
  method : wordOf bytes (start + 30) = 3
  red : wordOf bytes (start + 54) = red
  green : wordOf bytes (start + 58) = green
  blue : wordOf bytes (start + 62) = blue
  alpha : (if 56 ≤ size then wordOf bytes (start + 66) else 0) = alpha

theorem ofWord?_eq_none_iff {word : Nat} (small : word < 2 ^ 32) :
    Mask.ofWord? (UInt32.ofNat word) = none ↔ ¬Contiguous word := by
  constructor
  · rintro none ⟨run, rfl⟩
    cases none.symm.trans run.ofWord?_word
  · intro scattered
    cases made : Mask.ofWord? (UInt32.ofNat word) with
    | none => rfl
    | some mask =>
        obtain ⟨run, same, -⟩ := Mask.ofWord?_eq_some made
        rw [UInt32.toNat_ofNat_of_lt' small] at same
        exact absurd ⟨run, same⟩ scattered

theorem ofWord?_cases {word : Nat} (small : word < 2 ^ 32) :
    (∃ run : BitRun, run.word = word ∧ Mask.ofWord? (UInt32.ofNat word) = some run.mask) ∨
      ¬Contiguous word ∧ Mask.ofWord? (UInt32.ofNat word) = none := by
  by_cases whole : Contiguous word
  · obtain ⟨run, rfl⟩ := whole
    exact .inl ⟨run, rfl, run.ofWord?_word⟩
  · exact .inr ⟨whole, (ofWord?_eq_none_iff small).mpr whole⟩

theorem maskOrError_of_not_contiguous {word : Nat} (small : word < 2 ^ 32)
    (scattered : ¬Contiguous word) :
    maskOrError (UInt32.ofNat word) = .error (.refused (.unsupported .scatteredMask)) := by
  rw [maskOrError, (ofWord?_eq_none_iff small).mpr scattered]

theorem ofMasks_of_not_contiguous {red green blue : Nat} (alpha : UInt32)
    (redSmall : red < 2 ^ 32) (greenSmall : green < 2 ^ 32) (blueSmall : blue < 2 ^ 32)
    (scattered : ¬(Contiguous red ∧ Contiguous green ∧ Contiguous blue)) :
    Layout.ofMasks (UInt32.ofNat red) (UInt32.ofNat green) (UInt32.ofNat blue) alpha =
      .error (.refused (.unsupported .scatteredMask)) := by
  rw [Layout.ofMasks]
  by_cases redWhole : Contiguous red
  · obtain ⟨redRun, rfl⟩ := redWhole
    rw [maskOrError_word, ok_bind]
    by_cases greenWhole : Contiguous green
    · obtain ⟨greenRun, rfl⟩ := greenWhole
      have blueScattered : ¬Contiguous blue := fun blueWhole =>
        scattered ⟨⟨redRun, rfl⟩, ⟨greenRun, rfl⟩, blueWhole⟩
      rw [maskOrError_word, ok_bind, maskOrError_of_not_contiguous blueSmall blueScattered]
      rfl
    · rw [maskOrError_of_not_contiguous greenSmall greenWhole]
      rfl
  · rw [maskOrError_of_not_contiguous redSmall redWhole]
    rfl

namespace FieldsStand

variable {bytes : Array UInt8} {start size red green blue alpha : Nat}
  (stands : FieldsStand bytes start size red green blue alpha)

include stands

theorem fileHeader_eq : FileHeader.ofBytes (bytes.extract start (start + 18)) =
    .ok ⟨UInt32.ofNat (wordOf bytes (start + 10)), UInt32.ofNat size⟩ := by
  have whole := stands.whole
  exact FileHeader.ofBytes_eq stands.signature rfl stands.headerSize
    (List.mem_cons_of_mem _ stands.known) stands.gap (by omega)

theorem readLayout_settles {stream : Stream} (same : stream.bytes = bytes)
    (behind : stream.position = start + 14 + size) :
    Reading.Settles (readLayout (UInt32.ofNat size)
        (bytes.extract (start + 18) (start + 18 + (size - 4))))
      (Layout.ofMasks (UInt32.ofNat red) (UInt32.ofNat green) (UInt32.ofNat blue)
        (UInt32.ofNat alpha)) stream := by
  have bounds := infoSize_bounds stands.known
  have whole := stands.whole
  have opacity := stands.alpha
  rw [readLayout_fields stands.known (by omega) stands.bits stands.method, stands.red,
    stands.green, stands.blue, opacity]
  by_cases long : 52 ≤ size
  · rw [if_pos long]
    exact .inl ⟨stream, rfl⟩
  · have sizes : ∀ size ∈ [40, 52, 56, 108, 124], ¬52 ≤ size → size = 40 := by decide
    have place : stream.position = start + 54 := by
      rw [behind, sizes size stands.known long]
    rw [if_neg (by omega)] at opacity
    rw [if_neg long, ← opacity]
    have inside : stream.position + 12 ≤ stream.bytes.size := by
      rw [same, place]
      omega
    refine (Reading.gives_exactly _ inside).bind fun rest _ => ?_
    rw [place, same, ofExtraMasks_eq (by omega), stands.red, stands.green, stands.blue]
    exact .inl ⟨rest, rfl⟩

theorem readInfo_settles {stream : Stream} (same : stream.bytes = bytes)
    (behind : stream.position = start + 18) :
    Reading.Settles (readInfo (UInt32.ofNat size))
      ((Layout.ofMasks (UInt32.ofNat red) (UInt32.ofNat green) (UInt32.ofNat blue)
        (UInt32.ofNat alpha)).map (infoOf bytes start)) stream := by
  have bounds := infoSize_bounds stands.known
  have whole := stands.whole
  have within : start + 18 + (size - 4) ≤ bytes.size := by omega
  have inside : stream.position + (size - 4) ≤ stream.bytes.size := by
    rw [same, behind]
    exact within
  rcases Reading.gives_exactly (.decode (.dibTruncated .infoHeader)) inside with
    ⟨rest, read, moved⟩ | ⟨faulty, error, rest, failed⟩
  · rw [behind, same] at read
    rw [behind] at moved
    have layout := stands.readLayout_settles (moved.bytes.trans same)
      (by rw [moved.position]; omega)
    exact (layout.map (infoOf bytes start)).after moved
      (readInfo_of_block stands.known within stands.columns stands.rows stands.planes read)
  · refine .inr ⟨faulty, error, rest, ?_⟩
    rw [readInfo, infoSize_toNat stands.known]
    exact Reading.bind_error failed

theorem readHeaders_settles {stream : Stream} (same : stream.bytes = bytes)
    (place : stream.position = start) :
    Reading.Settles readHeaders
      ((Layout.ofMasks (UInt32.ofNat red) (UInt32.ofNat green) (UInt32.ofNat blue)
        (UInt32.ofNat alpha)).map (infoOf bytes start)) stream := by
  have whole := stands.whole
  refine (Reading.gives_position _ stream).bind fun second asked => ?_
  have inside : second.position + 18 ≤ second.bytes.size := by
    rw [asked.position, asked.bytes, same, place]
    omega
  have header : Reading.Gives readFileHeader
      ⟨UInt32.ofNat (wordOf bytes (start + 10)), UInt32.ofNat size⟩ (start + 18) second := by
    have read := Reading.gives_exactly (.decode (.dibTruncated .fileHeader)) inside
    rw [asked.position, asked.bytes, same, place] at read
    refine read.lift fun rest => ?_
    rw [stands.fileHeader_eq]
    rfl
  refine header.bind fun third moved => ?_
  exact stands.readInfo_settles (moved.bytes.trans (asked.bytes.trans same)) moved.position

theorem small : red < 2 ^ 32 ∧ green < 2 ^ 32 ∧ blue < 2 ^ 32 ∧ alpha < 2 ^ 32 := by
  refine ⟨?_, ?_, ?_, ?_⟩
  · rw [← stands.red]
    exact wordOf_lt bytes _
  · rw [← stands.green]
    exact wordOf_lt bytes _
  · rw [← stands.blue]
    exact wordOf_lt bytes _
  · rw [← stands.alpha]
    split
    · exact wordOf_lt bytes _
    · decide

end FieldsStand

theorem readBitmap_eq_error_of_headers (limits : Limits) {stream rest : Stream}
    {failure : Failure} (refused : readHeaders stream = (.error failure, rest)) :
    readBitmap limits stream = (.error failure, rest) := by
  rw [readHeaders] at refused
  rw [readBitmap]
  cases asked : Reading.position (.during .dibPosition) stream with
  | mk outcome second =>
      cases outcome with
      | error failure =>
          rw [Reading.bind_error asked] at refused ⊢
          cases refused
          rfl
      | ok start =>
          rw [Reading.bind_ok asked] at refused ⊢
          cases header : readFileHeader second with
          | mk outcome third =>
              cases outcome with
              | error failure =>
                  rw [Reading.bind_error header] at refused ⊢
                  cases refused
                  rfl
              | ok file =>
                  rw [Reading.bind_ok header] at refused ⊢
                  exact Reading.bind_error refused

end Dib

/-- The headers of a file with masked fields are read just if each colour mask is a run of bits, and
else are refused for their masks. An alpha mask that is a run gives the alpha; one with gaps is not
refused, but taken as none, like an empty one. -/
theorem dib_masks_checked (limits : Limits) {stream : Stream} {size red green blue alpha : Nat}
    (stands : Dib.FieldsStand stream.bytes stream.position size red green blue alpha) :
    (∀ info rest, Dib.readHeaders stream = (.ok info, rest) →
      ∃ redRun greenRun blueRun : Dib.BitRun,
        (redRun.word = red ∧ greenRun.word = green ∧ blueRun.word = blue) ∧
        ∃ opacity, info.layout = .masked32 redRun.mask greenRun.mask blueRun.mask opacity ∧
          ((∃ run : Dib.BitRun, run.word = alpha ∧ opacity = some run.mask) ∨
            ¬Dib.Contiguous alpha ∧ opacity = none)) ∧
    (stream.Quiet →
      ((Dib.readHeaders stream).1.isOk = true ↔
        Dib.Contiguous red ∧ Dib.Contiguous green ∧ Dib.Contiguous blue) ∧
      (¬(Dib.Contiguous red ∧ Dib.Contiguous green ∧ Dib.Contiguous blue) →
        (Dib.readHeaders stream).1 = .error (.refused (.unsupported .scatteredMask)) ∧
        (Dib.readBitmap limits stream).1 = .error (.refused (.unsupported .scatteredMask)))) := by
  obtain ⟨redSmall, greenSmall, blueSmall, alphaSmall⟩ := stands.small
  have headers := stands.readHeaders_settles rfl rfl
  by_cases whole : Dib.Contiguous red ∧ Dib.Contiguous green ∧ Dib.Contiguous blue
  · obtain ⟨⟨redRun, rfl⟩, ⟨greenRun, rfl⟩, ⟨blueRun, rfl⟩⟩ := whole
    rw [Dib.ofMasks_runs] at headers
    have whole : Dib.Contiguous redRun.word ∧ Dib.Contiguous greenRun.word ∧
        Dib.Contiguous blueRun.word := ⟨⟨_, rfl⟩, ⟨_, rfl⟩, ⟨_, rfl⟩⟩
    refine ⟨?_, fun quiet => ⟨?_, fun scattered => absurd whole scattered⟩⟩
    · intro info rest read
      cases headers.eq_ok read
      refine ⟨redRun, greenRun, blueRun, ⟨rfl, rfl, rfl⟩, _, rfl, ?_⟩
      exact Dib.ofWord?_cases alphaSmall
    · rw [headers.eq_of_quiet quiet]
      exact iff_of_true rfl whole
  · rw [Dib.ofMasks_of_not_contiguous _ redSmall greenSmall blueSmall whole] at headers
    constructor
    · intro info rest read
      cases headers.eq_ok read
    · intro quiet
      have refused := headers.eq_of_quiet quiet
      have failed : Dib.readHeaders stream =
          (.error (.refused (.unsupported .scatteredMask)), (Dib.readHeaders stream).2) :=
        Prod.ext refused rfl
      rw [Dib.readBitmap_eq_error_of_headers limits failed, refused]
      exact ⟨iff_of_false nofun whole, fun _ => ⟨rfl, rfl⟩⟩

namespace Dib

def fieldsFront (size : UInt8) : Array UInt8 := #[
  0x42, 0x4d, 74, 0, 0, 0, 0, 0, 0, 0, 70, 0, 0, 0, size, 0, 0, 0, 1, 0, 0, 0, 1, 0, 0, 0, 1, 0, 32,
  0, 3, 0, 0, 0, 0, 0, 0, 0, 0, 0, 0, 0, 0, 0, 0, 0, 0, 0, 0, 0, 0, 0, 0, 0]

def torn : Stream := .ofBytes
  (fieldsFront 40 ++ #[0, 0x0f, 0xf0, 0, 0, 0xf0, 0, 0, 0xff, 0, 0, 0, 0, 0, 0, 0, 0, 0, 0, 0]) 0
  (FaultPlan.none.shorten 7)

def holed : Stream := .ofBytes
  (fieldsFront 56 ++
    #[0, 0, 0xff, 0, 0, 0xff, 0, 0, 0xff, 0, 0, 0, 0, 0, 0, 0x81, 0x33, 0x22, 0x11, 0x80]) 0
  FaultPlan.none

theorem torn_stands : FieldsStand torn.bytes 0 40 0xf00f00 0xf000 0xff 0 := by
  constructor <;> decide

theorem torn_quiet : torn.Quiet := ⟨fun _ _ => nofun, fun _ => rfl, fun _ => rfl⟩

theorem holed_stands : FieldsStand holed.bytes 0 56 0xff0000 0xff00 0xff 0x81000000 := by
  constructor <;> decide

theorem holed_quiet : holed.Quiet := ⟨fun _ _ => nofun, fun _ => rfl, fun _ => rfl⟩

end Dib

theorem dib_masks_checked_samples :
    (Dib.FieldsStand Dib.torn.bytes 0 40 0xf00f00 0xf000 0xff 0 ∧ Dib.torn.Quiet ∧
      ¬(Dib.Contiguous 0xf00f00 ∧ Dib.Contiguous 0xf000 ∧ Dib.Contiguous 0xff) ∧
      (Dib.readBitmap Limits.standard Dib.torn).1 =
        .error (.refused (.unsupported .scatteredMask))) ∧
    (Dib.FieldsStand Dib.holed.bytes 0 56 0xff0000 0xff00 0xff 0x81000000 ∧ Dib.holed.Quiet ∧
      (Dib.readHeaders Dib.holed).1.isOk = true ∧ Dib.Contiguous 0xff0000) := by
  have scattered : ¬Dib.Contiguous 0xf00f00 :=
    (Dib.ofWord?_eq_none_iff (by decide)).mp (by decide)
  have refuses := (dib_masks_checked Limits.standard Dib.torn_stands).2 Dib.torn_quiet
  have reads := (dib_masks_checked Limits.standard Dib.holed_stands).2 Dib.holed_quiet
  have passes : (Dib.readHeaders Dib.holed).1.isOk = true := by decide +kernel
  exact ⟨⟨Dib.torn_stands, Dib.torn_quiet, fun whole => scattered whole.1,
    (refuses.2 fun whole => scattered whole.1).2⟩, Dib.holed_stands, Dib.holed_quiet, passes,
    (reads.1.mp passes).1⟩

/-- An alpha mask with a gap is accepted, and the pixel comes out solid. -/
theorem dib_scattered_alpha_accepted :
    Dib.FieldsStand Dib.holed.bytes 0 56 0xff0000 0xff00 0xff 0x81000000 ∧ Dib.holed.Quiet ∧
    ¬(0x81000000 = 0 ∨ Dib.Contiguous 0x81000000) ∧
    (Dib.readHeaders Dib.holed).1.isOk = true ∧
    (loadDib Limits.standard Bitmap.empty Dib.holed).outcome.isOk = true ∧
    (loadDib Limits.standard Bitmap.empty Dib.holed).bitmap = ⟨1, 1, 1, #[⟨0xff112233⟩]⟩ := by
  have scattered : ¬Dib.Contiguous 0x81000000 :=
    (Dib.ofWord?_eq_none_iff (by decide)).mp (by decide)
  refine ⟨Dib.holed_stands, Dib.holed_quiet, ?_, by decide +kernel, by decide +kernel,
    by decide +kernel⟩
  rintro (none | whole)
  · cases none
  · exact scattered whole

end Raster
