/-!
Byte streams as values. A stream holds its bytes, its position and a plan of faults; each read
attempt may be interrupted, may fail, or may give fewer bytes than asked for, and the position
query and each seek may fail. A result therefore depends on nothing but the stream itself.
-/

namespace Raster

inductive ReadOutcome where
  | fails
  /-- At most `limit` bytes, and at least one where bytes are left. -/
  | gives (limit : Nat)
deriving DecidableEq, Repr

/-- What a read comes to: attempts that are interrupted, then one that has the outcome. -/
structure PlannedRead where
  interruptions : Nat
  outcome : ReadOutcome
deriving DecidableEq, Repr

/-- Faults by the number of the read, counted from zero; reads also by their position. -/
structure FaultPlan where
  read : Nat → Nat → PlannedRead
  seekFails : Nat → Bool
  queryFails : Nat → Bool

namespace FaultPlan

def none : FaultPlan :=
  ⟨fun _ _ => ⟨0, .gives UInt64.size⟩, fun _ => false, fun _ => false⟩

def shorten (plan : FaultPlan) (limit : Nat) : FaultPlan :=
  { plan with read := fun number position =>
      match plan.read number position with
      | ⟨interruptions, .gives other⟩ => ⟨interruptions, .gives (min limit other)⟩
      | failing => failing }

def interruptEach (plan : FaultPlan) : FaultPlan :=
  { plan with read := fun number position =>
      ⟨(plan.read number position).interruptions + 1, (plan.read number position).outcome⟩ }

/-- Reads from `offset` on fail, and reads that would pass it stop there. -/
def failFrom (plan : FaultPlan) (offset : Nat) : FaultPlan :=
  { plan with read := fun number position =>
      match plan.read number position with
      | ⟨interruptions, .gives other⟩ =>
          if offset ≤ position then ⟨interruptions, .fails⟩
          else ⟨interruptions, .gives (min (offset - position) other)⟩
      | failing => failing }

def failSeek (plan : FaultPlan) (number : Nat) : FaultPlan :=
  { plan with seekFails := fun earlier => plan.seekFails earlier || earlier + 1 == number }

def failQueries (plan : FaultPlan) : FaultPlan :=
  { plan with queryFails := fun _ => true }

end FaultPlan

structure Stream where
  bytes : Array UInt8
  position : Nat
  faults : FaultPlan
  reads : Nat
  interrupted : Nat
  seeks : Nat
  queries : Nat

/-- What a single attempt to read gives. An empty block for a real request is the end of the
data. -/
inductive Reply where
  | interrupted
  | failed
  | given (block : Array UInt8)
deriving DecidableEq, Repr

namespace Stream

def ofBytes (bytes : Array UInt8) (position : Nat) (faults : FaultPlan) : Stream :=
  ⟨bytes, position, faults, 0, 0, 0, 0⟩

def remaining (stream : Stream) : Nat := stream.bytes.size - stream.position

def planned (stream : Stream) : PlannedRead := stream.faults.read stream.reads stream.position

def serve (stream : Stream) (count : Nat) : ReadOutcome → Option (Array UInt8) × Stream
  | .fails => (none, { stream with reads := stream.reads + 1, interrupted := 0 })
  | .gives limit =>
      let size := min (min count (max 1 limit)) stream.remaining
      (some (stream.bytes.extract stream.position (stream.position + size)),
        { stream with
          position := stream.position + size
          reads := stream.reads + 1
          interrupted := 0 })

def attempt (stream : Stream) (count : Nat) : Reply × Stream :=
  if stream.interrupted < stream.planned.interruptions then
    (.interrupted, { stream with interrupted := stream.interrupted + 1 })
  else
    match stream.serve count stream.planned.outcome with
    | (none, rest) => (.failed, rest)
    | (some block, rest) => (.given block, rest)

def interruptionsLeft (stream : Stream) : Nat :=
  stream.planned.interruptions - stream.interrupted

theorem interruptionsLeft_lt {stream rest : Stream} {count : Nat}
    (interrupted : stream.attempt count = (.interrupted, rest)) :
    rest.interruptionsLeft < stream.interruptionsLeft := by
  rw [attempt] at interrupted
  split at interrupted
  · rename_i more
    cases interrupted
    simp only [interruptionsLeft, planned] at more ⊢
    omega
  · split at interrupted <;> simp at interrupted

def read (stream : Stream) (count : Nat) : Option (Array UInt8) × Stream :=
  match _attempted : stream.attempt count with
  | (.interrupted, rest) => rest.read count
  | (.failed, rest) => (none, rest)
  | (.given block, rest) => (some block, rest)
termination_by stream.interruptionsLeft
decreasing_by exact interruptionsLeft_lt _attempted

/-- Reads exactly `count` bytes after those in `before`; `none` at a failure or the end of data. -/
def readExactly (stream : Stream) (count : Nat) (before : Array UInt8) :
    Option (Array UInt8) × Stream :=
  if count = 0 then (some before, stream)
  else
    match stream.read count with
    | (none, rest) => (none, rest)
    | (some block, rest) =>
        if block.size = 0 then (none, rest)
        else rest.readExactly (count - block.size) (before ++ block)
termination_by count
decreasing_by
  omega

def query (stream : Stream) : Option Nat × Stream :=
  let rest := { stream with queries := stream.queries + 1 }
  if stream.faults.queryFails stream.queries then (none, rest) else (some stream.position, rest)

/-- Moves to a position, which may lie past the end; `none` if the seek fails. -/
def seek (stream : Stream) (target : Nat) : Option Unit × Stream :=
  let rest := { stream with seeks := stream.seeks + 1 }
  if stream.faults.seekFails stream.seeks then (none, rest)
  else (some (), { rest with position := target })

end Stream

end Raster
