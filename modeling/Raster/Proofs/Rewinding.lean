import Raster.Backend.Decoders
import Raster.Loader
import Raster.Proofs.Composition

/-!
What detection leaves of the stream it looks into. A header check only reads, and is followed by a
rewind, so the stream is back at its start unless a rewind failed; then no format is reported.
-/

namespace Raster

namespace Reading

variable {α : Type}

def OnlyReads (work : Reading α) : Prop :=
  ∀ {stream rest : Stream} {outcome : Except Failure α},
    work stream = (outcome, rest) → stream.OnlyRead rest

theorem onlyReads_compositional : Compositional OnlyReads where
  lift outcome := by
    intro stream rest answer done
    cases done
    exact .refl _
  exactly count error := by
    intro stream rest answer done
    rw [exactly_eq] at done
    cases done
    exact Stream.readExactly_onlyRead rfl
  bind {_ _ work next} first later := by
    intro stream rest answer finished
    cases done : work stream with
    | mk outcome middle =>
        cases outcome with
        | error error =>
            rw [bind_error done] at finished
            cases finished
            exact first done
        | ok value =>
            rw [bind_ok done] at finished
            exact (first done).trans (later value finished)

end Reading

namespace Png

def checkSignature : Option (Array UInt8) → Except Failure Unit
  | none => .error (.refused (.decode .pngSignatureTruncated))
  | some bytes =>
      if bytes = signature then .ok () else .error (.refused (.decode .pngSignatureMissing))

theorem verifyHeader_eq (stream : Stream) : verifyHeader stream =
    (checkSignature (stream.readExactly 8 #[]).1, (stream.readExactly 8 #[]).2) := by
  rw [verifyHeader]
  split <;> rename_i served <;> rw [served] <;> rfl

theorem verifyHeader_onlyRead {stream rest : Stream} {outcome : Except Failure Unit}
    (checked : verifyHeader stream = (outcome, rest)) : stream.OnlyRead rest := by
  rw [verifyHeader_eq] at checked
  cases checked
  exact Stream.readExactly_onlyRead rfl

end Png

namespace Jpeg.Input

variable {input rest : Input} {count : Nat}

theorem fill_onlyRead {outcome : Except InputError Unit} (filled : input.fill = (outcome, rest)) :
    input.stream.OnlyRead rest.stream := by
  rw [fill] at filled
  split at filled
  · rename_i served
    cases filled
    exact Stream.read_onlyRead served
  · rename_i served
    have read := Stream.read_onlyRead served
    split at filled
    · split at filled <;> cases filled <;> exact read
    · cases filled
      exact read

theorem read_onlyRead {outcome : Except InputError (Array UInt8)}
    (served : input.read count = (outcome, rest)) : input.stream.OnlyRead rest.stream := by
  rw [read] at served
  split at served
  · cases served
    exact .refl _
  · split at served
    · split at served
      · rename_i filled
        cases served
        exact fill_onlyRead filled
      · rename_i filled
        cases served
        exact (fill_onlyRead filled).trans ⟨rfl, rfl, rfl, rfl⟩
    · cases served
      exact .refl _

theorem after_onlyRead (input : Input) (requests : List Nat) :
    input.stream.OnlyRead (input.after requests).stream := by
  induction requests generalizing input with
  | nil => exact .refl _
  | cons count later ih => exact (read_onlyRead rfl).trans (ih (input.read count).2)

end Jpeg.Input

theorem Jpeg.verifyHeader_eq (decoder : Decoder) (stream : Stream) : verifyHeader decoder stream =
    ((decoder.readInfo none (.ofStream stream)).1.elim (.error aborted) fun _ => .ok (),
      (decoder.readInfo none (.ofStream stream)).2) := by
  rw [verifyHeader]
  split <;> rename_i read <;> rw [read] <;> rfl

theorem probe_onlyRead (decoders : Decoders) (format : ImageFormat) (stream : Stream) :
    stream.OnlyRead (probe decoders format stream).stream := by
  cases format with
  | png => exact Png.verifyHeader_onlyRead rfl
  | jpeg =>
      obtain ⟨requests, reads⟩ := decoders.jpeg.readInfo_reads none (.ofStream stream)
      simp only [probe, Jpeg.verifyHeader_eq, reads]
      exact Jpeg.Input.after_onlyRead (.ofStream stream) requests
  | dib => exact Dib.verifyHeader_has Reading.onlyReads_compositional rfl
  | unknown => exact .refl stream

/-- Where the check of a format leaves its stream once that has been rewound. -/
def rewound (decoders : Decoders) (start : Nat) (format : ImageFormat) (stream : Stream) : Stream :=
  { (probe decoders format stream).stream with seeks := stream.seeks + 1, position := start }

section Trying

variable {decoders : Decoders} {start : Nat} {stream : Stream} {format : ImageFormat}

theorem tryFormats_of_fails (later : List ImageFormat) (events : List Event)
    (fails : stream.faults.seekFails stream.seeks = true) :
    tryFormats decoders start (format :: later) stream events =
      ⟨.unknown, { (probe decoders format stream).stream with seeks := stream.seeks + 1 },
        events ++ (probe decoders format stream).events ++ [.rewindFailed]⟩ := by
  have read := probe_onlyRead decoders format stream
  simp only [tryFormats, Stream.seek, read.faults, read.seeks, fails, if_true]

theorem tryFormats_of_succeeds (later : List ImageFormat) (events : List Event)
    (succeeds : stream.faults.seekFails stream.seeks = false) :
    tryFormats decoders start (format :: later) stream events =
      if (probe decoders format stream).matched then
        ⟨format, rewound decoders start format stream,
          events ++ (probe decoders format stream).events ++ [.detected format]⟩
      else
        tryFormats decoders start later (rewound decoders start format stream)
          (events ++ (probe decoders format stream).events) := by
  have read := probe_onlyRead decoders format stream
  simp only [tryFormats, Stream.seek, read.faults, read.seeks, succeeds, Bool.false_eq_true,
    if_false, rewound]

theorem tryFormats_seeks (later : List ImageFormat) (events : List Event) :
    stream.seeks < (tryFormats decoders start (format :: later) stream events).stream.seeks := by
  induction later generalizing format stream events with
  | nil =>
      cases outcome : stream.faults.seekFails stream.seeks with
      | true =>
          rw [tryFormats_of_fails _ _ outcome]
          exact Nat.lt_succ_self _
      | false =>
          rw [tryFormats_of_succeeds _ _ outcome]
          split <;> exact Nat.lt_succ_self _
  | cons next later ih =>
      cases outcome : stream.faults.seekFails stream.seeks with
      | true =>
          rw [tryFormats_of_fails _ _ outcome]
          exact Nat.lt_succ_self _
      | false =>
          rw [tryFormats_of_succeeds _ _ outcome]
          split
          · exact Nat.lt_succ_self _
          · exact Nat.lt_trans (Nat.lt_succ_self _)
              (@ih (rewound decoders start format stream) next _)

end Trying

/-- The numbers of the attempts to seek that were made between two states of a stream. -/
def Stream.SoughtUntil (stream rest : Stream) (number : Nat) : Prop :=
  stream.seeks ≤ number ∧ number < rest.seeks

structure Detection.Returned (start : Nat) (stream : Stream) (detection : Detection) : Prop where
  bytes : detection.stream.bytes = stream.bytes
  faults : detection.stream.faults = stream.faults
  position : (∀ number, stream.SoughtUntil detection.stream number →
    stream.faults.seekFails number = false) → detection.stream.position = start
  format : ∀ number, stream.SoughtUntil detection.stream number →
    stream.faults.seekFails number = true → detection.format = .unknown

theorem tryFormats_returned {decoders : Decoders} {start : Nat} {stream : Stream}
    (formats : List ImageFormat)
    (events : List Event) (place : stream.position = start) :
    (tryFormats decoders start formats stream events).Returned start stream := by
  induction formats generalizing stream events with
  | nil =>
      refine ⟨rfl, rfl, fun _ => place, ?_⟩
      rintro number ⟨lower, upper⟩
      exact absurd upper (Nat.not_lt.mpr lower)
  | cons format later ih =>
      have read := probe_onlyRead decoders format stream
      cases outcome : stream.faults.seekFails stream.seeks with
      | true =>
          rw [tryFormats_of_fails _ _ outcome]
          refine ⟨read.bytes, read.faults, ?_, fun _ _ _ => rfl⟩
          intro succeed
          rw [succeed stream.seeks ⟨Nat.le_refl _, Nat.lt_succ_self _⟩] at outcome
          cases outcome
      | false =>
          rw [tryFormats_of_succeeds _ _ outcome]
          have first {number : Nat} (fails : stream.faults.seekFails number = true) :
              number ≠ stream.seeks := by
            rintro rfl
            rw [outcome] at fails
            cases fails
          split
          · refine ⟨read.bytes, read.faults, fun _ => rfl, ?_⟩
            rintro number ⟨lower, upper⟩ fails
            exact absurd (Nat.le_antisymm (Nat.le_of_lt_succ upper) lower) (first fails)
          · have rest : Detection.Returned start (rewound decoders start format stream) _ :=
              ih (events ++ (probe decoders format stream).events) rfl
            obtain ⟨bytes, faults, position, format⟩ := rest
            refine ⟨bytes.trans read.bytes, faults.trans read.faults, ?_, ?_⟩
            · intro succeed
              apply position
              rintro number ⟨lower, upper⟩
              rw [rewound, read.faults]
              exact succeed number ⟨Nat.le_of_succ_le lower, upper⟩
            · rintro number ⟨lower, upper⟩ fails
              apply format number
              · exact ⟨Nat.lt_of_le_of_ne lower (first fails).symm, upper⟩
              · rw [rewound, read.faults]
                exact fails

theorem detectFormat_of_succeeds {decoders : Decoders} {stream : Stream}
    (succeeds : stream.faults.queryFails stream.queries = false) :
    detectFormat decoders stream = tryFormats decoders stream.position probeOrder
      { stream with queries := stream.queries + 1 } [] := by
  simp only [detectFormat, Stream.query, succeeds, Bool.false_eq_true, if_false]

theorem detectFormat_returned {decoders : Decoders} {stream : Stream}
    (succeeds : stream.faults.queryFails stream.queries = false) :
    (detectFormat decoders stream).Returned stream.position stream := by
  have place : { stream with queries := stream.queries + 1 }.position = stream.position := rfl
  obtain ⟨bytes, faults, position, format⟩ := tryFormats_returned probeOrder [] place
  rw [detectFormat_of_succeeds succeeds]
  exact ⟨bytes, faults, position, format⟩

/-- Detection shows on its stream by nothing but the position, and by that only if a rewind fails. A
failed rewind and a failed query let it report no format. -/
theorem detectFormat_unnoticed (decoders : Decoders) (stream : Stream) :
    (stream.faults.queryFails stream.queries = true →
      detectFormat decoders stream =
        ⟨.unknown, { stream with queries := stream.queries + 1 }, []⟩) ∧
    (stream.faults.queryFails stream.queries = false →
      (detectFormat decoders stream).stream.bytes = stream.bytes ∧
      stream.seeks < (detectFormat decoders stream).stream.seeks ∧
      ((∀ number, stream.SoughtUntil (detectFormat decoders stream).stream number →
          stream.faults.seekFails number = false) →
        (detectFormat decoders stream).stream.position = stream.position) ∧
      (∀ number, stream.SoughtUntil (detectFormat decoders stream).stream number →
        stream.faults.seekFails number = true →
        (detectFormat decoders stream).format = .unknown)) := by
  constructor
  · intro fails
    simp only [detectFormat, Stream.query, fails, if_true]
  · intro succeeds
    obtain ⟨bytes, -, position, format⟩ := detectFormat_returned succeeds
    refine ⟨bytes, ?_, position, format⟩
    rw [detectFormat_of_succeeds succeeds]
    exact @tryFormats_seeks decoders _ { stream with queries := stream.queries + 1 } .png
      [.jpeg, .dib] []

namespace Detection

def torn : Stream :=
  Stream.ofBytes #[1, 2, 3, 4, 5, 0x42, 0x4d, 0, 0, 0, 0, 0, 0, 0, 0, 0, 0] 5
    (((FaultPlan.none.shorten 3).interruptEach).failFrom 16)

def stuck : Stream := Stream.ofBytes Png.signature 0 (FaultPlan.none.failSeek 1)

def unplaced : Stream := Stream.ofBytes Png.signature 0 FaultPlan.none.failQueries

end Detection

theorem detectFormat_unnoticed_samples :
    (∀ number, Detection.torn.faults.seekFails number = false) ∧
    (detectFormat Backend.decoders Detection.torn).stream.position = 5 ∧
    ((probe Backend.decoders .png Detection.stuck).matched = true ∧
      Detection.stuck.faults.seekFails 0 = true ∧
      (detectFormat Backend.decoders Detection.stuck).format = .unknown) ∧
    (Detection.unplaced.faults.queryFails 0 = true ∧
      (detectFormat Backend.decoders Detection.unplaced).format = .unknown ∧
      (detectFormat Backend.decoders Detection.unplaced).stream.reads = 0) := by
  obtain ⟨-, asked⟩ := detectFormat_unnoticed Backend.decoders Detection.torn
  obtain ⟨-, -, position, -⟩ := asked rfl
  obtain ⟨-, placed⟩ := detectFormat_unnoticed Backend.decoders Detection.stuck
  obtain ⟨-, seeks, -, format⟩ := placed rfl
  obtain ⟨unplaced, -⟩ := detectFormat_unnoticed Backend.decoders Detection.unplaced
  refine ⟨fun _ => rfl, position fun _ _ => rfl, ⟨?_, rfl, ?_⟩, rfl, ?_, ?_⟩
  · decide +kernel
  · exact format 0 ⟨Nat.le_refl 0, seeks⟩ rfl
  · rw [unplaced rfl]
  · rw [unplaced rfl]
    rfl

end Raster
