import Raster.Stream

/-!
Buffered input for JPEG data. The stream is read in blocks of up to 4096 bytes. Where it ends
after some data, end-of-image markers follow without end, so that a file cut short still comes to
an end; a stream without any data is an error.
-/

namespace Raster.Jpeg

inductive InputError where
  | empty
  | failed
deriving DecidableEq, Repr

structure Input where
  stream : Stream
  buffer : Array UInt8
  consumed : Nat
  started : Bool
  /-- Number of end-of-image markers put in for missing data. -/
  markersInserted : Nat

namespace Input

def blockSize : Nat := 4096

def endOfImage : Array UInt8 := #[0xff, 0xd9]

def ofStream (stream : Stream) : Input := ⟨stream, #[], 0, false, 0⟩

def fill (input : Input) : Except InputError Unit × Input :=
  match input.stream.read blockSize with
  | (none, rest) => (.error .failed, { input with stream := rest })
  | (some block, rest) =>
      if block.isEmpty then
        if input.started then
          (.ok (), ⟨rest, endOfImage, 0, true, input.markersInserted + 1⟩)
        else (.error .empty, { input with stream := rest })
      else (.ok (), ⟨rest, block, 0, true, input.markersInserted⟩)

def take (input : Input) (count : Nat) : Array UInt8 × Input :=
  let size := min count (input.buffer.size - input.consumed)
  (input.buffer.extract input.consumed (input.consumed + size),
    { input with consumed := input.consumed + size })

def read (input : Input) (count : Nat) : Except InputError (Array UInt8) × Input :=
  if count = 0 then (.ok #[], input)
  else if input.consumed = input.buffer.size then
    match input.fill with
    | (.error error, rest) => (.error error, rest)
    | (.ok (), rest) =>
        let (bytes, rest) := rest.take count
        (.ok bytes, rest)
  else
    let (bytes, rest) := input.take count
    (.ok bytes, rest)

def after (input : Input) : List Nat → Input
  | [] => input
  | count :: later => (input.read count).2.after later

/-- Reads exactly `count` bytes after those in `before`; `none` if the input fails on the way. -/
def readExactly (input : Input) (count : Nat) (before : Array UInt8) :
    Option (Array UInt8) × Input :=
  if count = 0 then (some before, input)
  else
    match input.read count with
    | (.error _, rest) => (none, rest)
    | (.ok bytes, rest) =>
        if bytes.size = 0 then (none, rest)
        else rest.readExactly (count - bytes.size) (before ++ bytes)
termination_by count
decreasing_by omega

def first? (input : Input) (count : Nat) : Option (Array UInt8) := (input.readExactly count #[]).1

/-- Two inputs that give the same for every request after the same requests before it. -/
def RepliesAlike (input other : Input) : Prop :=
  ∀ requests count, ((input.after requests).read count).1 = ((other.after requests).read count).1

theorem RepliesAlike.rest {input other : Input} (alike : input.RepliesAlike other) (count : Nat) :
    (input.read count).2.RepliesAlike (other.read count).2 :=
  fun requests => alike (count :: requests)

theorem readExactly_alike {input other : Input} (alike : input.RepliesAlike other) (count : Nat)
    (before : Array UInt8) :
    (input.readExactly count before).1 = (other.readExactly count before).1 ∧
      ∃ requests, (input.readExactly count before).2 = input.after requests ∧
        (other.readExactly count before).2 = other.after requests := by
  induction count using Nat.strongRecOn generalizing input other before with
  | ind count ih =>
      have reply := alike [] count
      have rests := alike.rest count
      rw [readExactly, readExactly.eq_def other]
      split
      · exact ⟨rfl, [], rfl, rfl⟩
      · rename_i wanted
        cases given : input.read count with
        | mk outcome rest =>
            cases otherGiven : other.read count with
            | mk otherOutcome otherRest =>
                simp only [after, given, otherGiven] at reply rests
                subst reply
                have once : input.after [count] = rest ∧ other.after [count] = otherRest := by
                  simp only [after, given, otherGiven, and_self]
                cases outcome with
                | error error => exact ⟨rfl, [count], once.1.symm, once.2.symm⟩
                | ok bytes =>
                    dsimp only
                    split
                    · exact ⟨rfl, [count], once.1.symm, once.2.symm⟩
                    · obtain ⟨same, requests, ends, otherEnds⟩ :=
                        ih (count - bytes.size) (by omega) rests (before ++ bytes)
                      refine ⟨same, count :: requests, ?_, ?_⟩
                      · rw [after, given, ends]
                      · rw [after, otherGiven, otherEnds]

theorem readExactly_after (input : Input) (count : Nat) (before : Array UInt8) :
    ∃ requests, (input.readExactly count before).2 = input.after requests := by
  have alike : input.RepliesAlike input := fun _ _ => rfl
  obtain ⟨-, requests, ends, -⟩ := readExactly_alike alike count before
  exact ⟨requests, ends⟩

end Input

end Raster.Jpeg
