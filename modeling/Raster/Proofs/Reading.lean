import Raster.Dib.Header

/-!
Reading from streams on which nothing fails. Short reads and interruptions do not show: an exact
read gives the bytes at the position, or nothing where the data ends before. On any stream at all, a
read changes nothing but the position, and work that succeeded has succeeded in each of its steps.
-/

namespace Raster

theorem ok_bind {error α β : Type} (value : α) (next : α → Except error β) :
    (Except.ok value >>= next) = next value := rfl

theorem bind_eq_ok {error α β : Type} {outcome : Except error α} {next : α → Except error β}
    {value : β} (done : (outcome >>= next) = .ok value) :
    ∃ middle, outcome = .ok middle ∧ next middle = .ok value := by
  cases outcome with
  | error cause => cases done
  | ok middle => exact ⟨middle, rfl, done⟩

namespace Stream

/-- The same data and plan after some reads: nothing has been sought or asked. -/
structure OnlyRead (stream rest : Stream) : Prop where
  bytes : rest.bytes = stream.bytes
  faults : rest.faults = stream.faults
  seeks : rest.seeks = stream.seeks
  queries : rest.queries = stream.queries

theorem OnlyRead.refl (stream : Stream) : stream.OnlyRead stream := ⟨rfl, rfl, rfl, rfl⟩

theorem OnlyRead.trans {first second third : Stream} (one : first.OnlyRead second)
    (two : second.OnlyRead third) : first.OnlyRead third :=
  ⟨two.bytes.trans one.bytes, two.faults.trans one.faults, two.seeks.trans one.seeks,
    two.queries.trans one.queries⟩

variable {stream rest : Stream} {count : Nat} {answer : Option (Array UInt8)}

theorem serve_onlyRead {outcome : ReadOutcome}
    (served : stream.serve count outcome = (answer, rest)) : stream.OnlyRead rest := by
  cases outcome with
  | fails =>
      cases served
      exact ⟨rfl, rfl, rfl, rfl⟩
  | gives limit =>
      cases served
      exact ⟨rfl, rfl, rfl, rfl⟩

theorem attempt_interrupted (interrupted : stream.attempt count = (.interrupted, rest)) :
    rest = { stream with interrupted := stream.interrupted + 1 } := by
  rw [attempt] at interrupted
  split at interrupted
  · cases interrupted
    rfl
  · split at interrupted <;> cases interrupted

theorem read_attempt (stream : Stream) (count : Nat) : stream.read count =
    match stream.attempt count with
    | (.interrupted, rest) => rest.read count
    | (.failed, rest) => (none, rest)
    | (.given block, rest) => (some block, rest) := by
  rw [read]
  split <;> rename_i tried <;> rw [tried]

theorem read_eq (stream : Stream) (count : Nat) :
    stream.read count = stream.serve count stream.planned.outcome := by
  fun_induction read stream count with
  | case1 stream rest interrupted ih =>
      rw [attempt_interrupted interrupted] at ih
      rw [attempt_interrupted interrupted, ih]
      simp only [planned]
      cases (stream.faults.read stream.reads stream.position).outcome <;> rfl
  | case2 stream rest failed =>
      rw [attempt] at failed
      split at failed
      · cases failed
      · split at failed
        · rename_i served
          cases failed
          exact served.symm
        · cases failed
  | case3 stream block rest given =>
      rw [attempt] at given
      split at given
      · cases given
      · split at given
        · cases given
        · rename_i served
          cases given
          exact served.symm

theorem read_onlyRead (served : stream.read count = (answer, rest)) : stream.OnlyRead rest :=
  serve_onlyRead ((stream.read_eq count).symm.trans served)

theorem readExactly_onlyRead {before : Array UInt8}
    (served : stream.readExactly count before = (answer, rest)) : stream.OnlyRead rest := by
  induction count using Nat.strongRecOn generalizing stream before with
  | ind count ih =>
      rw [readExactly] at served
      split at served
      · cases served
        exact .refl _
      · rename_i wanted
        split at served
        · rename_i middle first
          cases served
          exact read_onlyRead first
        · rename_i block middle first
          split at served
          · cases served
            exact read_onlyRead first
          · exact (read_onlyRead first).trans (ih (count - block.size) (by omega) served)

/-- No read, seek or query fails. Reads may be short, and interrupted. -/
structure Quiet (stream : Stream) : Prop where
  reads : ∀ number position, (stream.faults.read number position).outcome ≠ .fails
  seeks : ∀ number, stream.faults.seekFails number = false
  queries : ∀ number, stream.faults.queryFails number = false

/-- The same data under the same plan, at a position; the counts of attempts are left open. -/
structure MovedTo (stream : Stream) (position : Nat) (rest : Stream) : Prop where
  bytes : rest.bytes = stream.bytes
  faults : rest.faults = stream.faults
  position : rest.position = position

theorem MovedTo.trans {first second third : Stream} {middle last : Nat}
    (one : first.MovedTo middle second) (two : second.MovedTo last third) :
    first.MovedTo last third :=
  ⟨two.bytes.trans one.bytes, two.faults.trans one.faults, two.position⟩

theorem MovedTo.quiet {position : Nat} (moved : stream.MovedTo position rest)
    (quiet : stream.Quiet) : rest.Quiet := by
  obtain ⟨reads, seeks, queries⟩ := quiet
  rw [← moved.faults] at reads seeks queries
  exact ⟨reads, seeks, queries⟩

theorem read_cases (stream : Stream) (count : Nat) :
    stream.planned.outcome = .fails ∧
      stream.read count = (none, { stream with reads := stream.reads + 1, interrupted := 0 }) ∨
    stream.planned.outcome ≠ .fails ∧
      ∃ size, stream.read count =
          (some (stream.bytes.extract stream.position (stream.position + size)),
            { stream with
              position := stream.position + size
              reads := stream.reads + 1
              interrupted := 0 }) ∧
        size ≤ count ∧ size ≤ stream.remaining ∧
        (0 < count → 0 < stream.remaining → 0 < size) := by
  rw [read_eq]
  cases outcome : stream.planned.outcome with
  | fails => exact .inl ⟨rfl, rfl⟩
  | gives limit =>
      refine .inr ⟨nofun, min (min count (max 1 limit)) stream.remaining, rfl, ?_, ?_, ?_⟩
      · omega
      · omega
      · omega

theorem Quiet.read_eq (quiet : stream.Quiet) (count : Nat) :
    ∃ size rest, stream.read count =
        (some (stream.bytes.extract stream.position (stream.position + size)), rest) ∧
      stream.MovedTo (stream.position + size) rest ∧ size ≤ count ∧ size ≤ stream.remaining ∧
      (0 < count → 0 < stream.remaining → 0 < size) := by
  rcases stream.read_cases count with ⟨failing, -⟩ | ⟨-, size, served, asked, inside, progress⟩
  · exact absurd failing (quiet.reads _ _)
  · exact ⟨size, _, served, ⟨rfl, rfl, rfl⟩, asked, inside, progress⟩

theorem Quiet.readExactly_eq_some (before : Array UInt8) (quiet : stream.Quiet)
    (inside : stream.position + count ≤ stream.bytes.size) :
    ∃ rest, stream.readExactly count before =
        (some (before ++ stream.bytes.extract stream.position (stream.position + count)), rest) ∧
      stream.MovedTo (stream.position + count) rest := by
  induction count using Nat.strongRecOn generalizing stream before with
  | ind count ih =>
      rw [readExactly]
      split
      · rename_i none
        refine ⟨stream, ?_, rfl, rfl, ?_⟩
        · rw [none, Nat.add_zero, Array.extract_empty_of_stop_le_start (Nat.le_refl _),
            Array.append_empty]
        · rw [none, Nat.add_zero]
      · rename_i some
        obtain ⟨size, rest, served, moved, asked, -, positive⟩ := quiet.read_eq count
        have left : 0 < stream.remaining := by
          rw [remaining]
          omega
        have progress := positive (Nat.pos_of_ne_zero some) left
        have blockSize :
            (stream.bytes.extract stream.position (stream.position + size)).size = size := by
          rw [Array.size_extract]
          omega
        obtain ⟨last, continued, movedOn⟩ := ih (count - size) (by omega)
          (before ++ stream.bytes.extract stream.position (stream.position + size))
          (moved.quiet quiet) (by rw [moved.position, moved.bytes]; omega)
        have reach : stream.position + size + (count - size) = stream.position + count := by omega
        rw [moved.position, reach] at movedOn
        refine ⟨last, ?_, moved.trans movedOn⟩
        simp only [served, blockSize, if_neg (Nat.ne_of_gt progress)]
        rw [continued, moved.position, moved.bytes, reach, Array.append_assoc,
          Array.extract_append_extract, Nat.min_eq_left (by omega), Nat.max_eq_right (by omega)]

theorem Quiet.readExactly_eq_none (before : Array UInt8) (quiet : stream.Quiet)
    (wanted : 0 < count) (short : stream.bytes.size < stream.position + count) :
    ∃ rest, stream.readExactly count before = (none, rest) ∧
      stream.MovedTo (max stream.position stream.bytes.size) rest := by
  induction count using Nat.strongRecOn generalizing stream before with
  | ind count ih =>
      obtain ⟨size, rest, served, moved, asked, inside, positive⟩ := quiet.read_eq count
      rw [remaining] at inside positive
      have blockSize :
          (stream.bytes.extract stream.position (stream.position + size)).size = size := by
        rw [Array.size_extract]
        omega
      rw [readExactly, if_neg (Nat.ne_of_gt wanted)]
      simp only [served, blockSize]
      split
      · rename_i none
        have ended : max stream.position stream.bytes.size = stream.position + size := by omega
        rw [ended]
        exact ⟨rest, rfl, moved⟩
      · rename_i some
        have ended : max (stream.position + size) stream.bytes.size =
            max stream.position stream.bytes.size := by omega
        obtain ⟨last, refused, movedOn⟩ := ih (count - size) (by omega)
          (before ++ stream.bytes.extract stream.position (stream.position + size))
          (moved.quiet quiet) (by omega) (by rw [moved.position, moved.bytes]; omega)
        rw [moved.position, moved.bytes, ended] at movedOn
        exact ⟨last, refused, moved.trans movedOn⟩

theorem readExactly_eq_some {before block : Array UInt8}
    (served : stream.readExactly count before = (some block, rest)) :
    block = before ++ stream.bytes.extract stream.position (stream.position + count) ∧
      stream.MovedTo (stream.position + count) rest ∧ count ≤ stream.remaining := by
  induction count using Nat.strongRecOn generalizing stream before with
  | ind count ih =>
      rw [readExactly] at served
      split at served
      · rename_i none
        cases served
        rw [none, Nat.add_zero, Array.extract_empty_of_stop_le_start (Nat.le_refl _),
          Array.append_empty]
        exact ⟨rfl, ⟨rfl, rfl, rfl⟩, Nat.zero_le _⟩
      · rcases stream.read_cases count with ⟨-, refused⟩ | ⟨-, size, given, asked, inside, -⟩
        · rw [refused] at served
          cases served
        · have blockSize :
              (stream.bytes.extract stream.position (stream.position + size)).size = size := by
            rw [remaining] at inside
            rw [Array.size_extract]
            omega
          simp only [given, blockSize] at served
          split at served
          · cases served
          · obtain ⟨rfl, moved, left⟩ := ih (count - size) (by omega) served
            have reach : stream.position + size + (count - size) = stream.position + count := by
              omega
            simp only [remaining] at inside left
            rw [reach] at moved
            refine ⟨?_, ⟨moved.bytes, moved.faults, moved.position⟩, by rw [remaining]; omega⟩
            rw [reach, Array.append_assoc, Array.extract_append_extract,
              Nat.min_eq_left (by omega), Nat.max_eq_right (by omega)]

theorem readExactly_size {before block : Array UInt8}
    (served : stream.readExactly count before = (some block, rest)) :
    block.size = before.size + count := by
  obtain ⟨rfl, -, inside⟩ := readExactly_eq_some served
  rw [remaining] at inside
  rw [Array.size_append, Array.size_extract]
  omega

end Stream

namespace Reading

variable {α β : Type} {work : Reading α} {next : α → Reading β} {stream rest : Stream}

theorem bind_ok {value : α} (done : work stream = (.ok value, rest)) :
    (work >>= next) stream = next value rest := by
  change (ExceptT.bind work next : Reading β) stream = _
  simp only [ExceptT.bind, ExceptT.mk, bind, StateT.bind, done]
  rfl

theorem bind_error {failure : Failure} (failed : work stream = (.error failure, rest)) :
    (work >>= next) stream = (.error failure, rest) := by
  change (ExceptT.bind work next : Reading β) stream = _
  simp only [ExceptT.bind, ExceptT.mk, bind, StateT.bind, failed]
  rfl

theorem bind_eq_ok {value : β} (done : (work >>= next) stream = (.ok value, rest)) :
    ∃ middle between, work stream = (.ok middle, between) ∧
      next middle between = (.ok value, rest) := by
  cases first : work stream with
  | mk outcome between =>
      cases outcome with
      | error failure =>
          rw [bind_error first] at done
          cases done
      | ok middle =>
          rw [bind_ok first] at done
          exact ⟨middle, between, rfl, done⟩

theorem lift_eq (outcome : Except Failure α) :
    (liftM outcome : Reading α) stream = (outcome, stream) := rfl

theorem lift_eq_ok {outcome : Except Failure α} {value : α}
    (done : (liftM outcome : Reading α) stream = (.ok value, rest)) :
    outcome = .ok value ∧ rest = stream := by
  rw [lift_eq] at done
  cases done
  exact ⟨rfl, rfl⟩

theorem lift_bind_eq_ok {outcome : Except Failure α} {value : β}
    (done : ((liftM outcome : Reading α) >>= next) stream = (.ok value, rest)) :
    ∃ middle, outcome = .ok middle ∧ next middle stream = (.ok value, rest) := by
  obtain ⟨middle, between, lifted, continued⟩ := bind_eq_ok done
  obtain ⟨made, rfl⟩ := lift_eq_ok lifted
  exact ⟨middle, made, continued⟩

theorem exactly_eq (count : Nat) (error : Error) (stream : Stream) : exactly count error stream =
    ((stream.readExactly count #[]).1.elim (.error (.refused error)) .ok,
      (stream.readExactly count #[]).2) := by
  rw [exactly]
  split <;> rename_i served <;> rw [served] <;> rfl

theorem exactly_eq_ok {count : Nat} (error : Error) (quiet : stream.Quiet)
    (inside : stream.position + count ≤ stream.bytes.size) :
    ∃ rest, exactly count error stream =
        (.ok (stream.bytes.extract stream.position (stream.position + count)), rest) ∧
      stream.MovedTo (stream.position + count) rest := by
  obtain ⟨rest, served, moved⟩ := quiet.readExactly_eq_some #[] inside
  refine ⟨rest, ?_, moved⟩
  rw [exactly, served, Array.empty_append]

theorem exactly_size {count : Nat} {error : Error} {block : Array UInt8}
    (read : exactly count error stream = (.ok block, rest)) : block.size = count := by
  rw [exactly] at read
  split at read
  · rename_i bytes between served
    cases read
    rw [Stream.readExactly_size served, Array.size_empty, Nat.zero_add]
  · cases read

theorem exactly_inside {count : Nat} {error : Error} {block : Array UInt8}
    (read : exactly count error stream = (.ok block, rest)) : count ≤ stream.remaining := by
  rw [exactly] at read
  split at read
  · rename_i bytes between served
    exact (Stream.readExactly_eq_some served).2.2
  · cases read

theorem exactly_extract {count : Nat} {error : Error} {block : Array UInt8}
    (read : exactly count error stream = (.ok block, rest)) :
    block = stream.bytes.extract stream.position (stream.position + count) := by
  rw [exactly] at read
  split at read
  · rename_i bytes between served
    cases read
    rw [(Stream.readExactly_eq_some served).1, Array.empty_append]
  · cases read

theorem exactly_moved {count : Nat} {error : Error} {block : Array UInt8}
    (read : exactly count error stream = (.ok block, rest)) :
    stream.MovedTo (stream.position + count) rest := by
  rw [exactly] at read
  split at read
  · rename_i bytes between served
    cases read
    exact (Stream.readExactly_eq_some served).2.1
  · cases read

theorem exactly_eq_error {count : Nat} (error : Error) (quiet : stream.Quiet)
    (wanted : 0 < count) (short : stream.bytes.size < stream.position + count) :
    ∃ rest, exactly count error stream = (.error (.refused error), rest) ∧
      stream.MovedTo (max stream.position stream.bytes.size) rest := by
  obtain ⟨rest, refused, moved⟩ := quiet.readExactly_eq_none #[] wanted short
  refine ⟨rest, ?_, moved⟩
  rw [exactly, refused]

theorem position_eq (error : Error) (quiet : stream.Quiet) :
    ∃ rest, position error stream = (.ok stream.position, rest) ∧
      stream.MovedTo stream.position rest := by
  refine ⟨{ stream with queries := stream.queries + 1 }, ?_, rfl, rfl, rfl⟩
  simp [position, Stream.query, quiet.queries]

theorem seek_eq (target : Nat) (error : Error) (quiet : stream.Quiet) :
    ∃ rest, seek target error stream = (.ok (), rest) ∧ stream.MovedTo target rest := by
  refine ⟨{ stream with seeks := stream.seeks + 1, position := target }, ?_, rfl, rfl, rfl⟩
  simp [seek, Stream.seek, quiet.seeks]

theorem position_moved {error : Error} {place : Nat}
    (asked : position error stream = (.ok place, rest)) :
    place = stream.position ∧ stream.MovedTo stream.position rest := by
  rw [position, Stream.query] at asked
  split at asked
  · rename_i answered
    split at answered
    · cases answered
    · cases answered
      cases asked
      exact ⟨rfl, rfl, rfl, rfl⟩
  · cases asked

theorem seek_moved {target : Nat} {error : Error}
    (sought : seek target error stream = (.ok (), rest)) : stream.MovedTo target rest := by
  rw [seek, Stream.seek] at sought
  split at sought
  · rename_i answered
    split at answered
    · cases answered
    · cases answered
      cases sought
      exact ⟨rfl, rfl, rfl⟩
  · cases sought

end Reading

end Raster
