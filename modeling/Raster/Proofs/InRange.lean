import Mathlib.Algebra.Group.Nat.Defs
import Raster.Proofs.Reading

/-!
Work with every step checked on the way: a number that does not fit, a difference below zero, a
division by zero, a shift by a whole word, and a part of some storage that is not there, all make it
panic. Checked work passes if it does what the plain work does and none of that happens.
-/

namespace Raster

/-- Nothing outside of some storage or some range was asked for. -/
def InRange {α : Type} (outcome : Except Failure α) : Prop := outcome ≠ .error .panicked

theorem inRange_ok {α : Type} (value : α) : InRange (.ok value) := nofun

theorem inRange_refused {α : Type} (error : Error) :
    InRange (.error (.refused error) : Except Failure α) := nofun

theorem InRange.bind {α β : Type} {outcome : Except Failure α} {next : α → Except Failure β}
    (first : InRange outcome) (later : ∀ value, outcome = .ok value → InRange (next value)) :
    InRange (outcome >>= next) := by
  cases outcome with
  | error failure =>
      intro same
      apply first
      cases same
      rfl
  | ok value => exact later value rfl

def demand {α : Type} : Option α → Except Failure α
  | some value => .ok value
  | none => .error .panicked

def difference? (whole part : Nat) : Option Nat :=
  if part ≤ whole then some (whole - part) else none

def quotient? (whole part : Nat) : Option Nat :=
  if part = 0 then none else some (whole / part)

def byte? (number : Nat) : Option UInt8 :=
  if number < 2 ^ 8 then some (UInt8.ofNat number) else none

def shifted? (word places : UInt32) : Option UInt32 :=
  if places < 32 then some (word >>> places) else none

theorem shifted?_eq_some {word places : UInt32} (within : places < 32) :
    shifted? word places = some (word >>> places) := if_pos within

namespace Reading

variable {α β : Type} {stream : Stream} {granted : Prop}

/-- Checked work does what the plain work does, which panics only where that is granted. -/
structure Passes (granted : Prop) (checked plain : Reading α) (stream : Stream) : Prop where
  same : checked stream = plain stream
  inRange : InRange (plain stream).1 ∨ granted

theorem Passes.bind {checked plain : Reading α} {checkedNext plainNext : α → Reading β}
    (first : Passes granted checked plain stream)
    (later : ∀ value rest, plain stream = (.ok value, rest) →
      Passes granted (checkedNext value) (plainNext value) rest) :
    Passes granted (checked >>= checkedNext) (plain >>= plainNext) stream := by
  obtain ⟨same, inRange⟩ := first
  cases done : plain stream with
  | mk outcome rest =>
      rw [done] at same inRange
      cases outcome with
      | error failure =>
          refine ⟨(bind_error same).trans (bind_error done).symm, ?_⟩
          rw [bind_error done]
          refine inRange.imp_left fun inRange panicked => ?_
          cases panicked
          exact inRange rfl
      | ok value =>
          obtain ⟨sameNext, inRangeNext⟩ := later value rest done
          refine ⟨?_, ?_⟩
          · rw [bind_ok same, bind_ok done, sameNext]
          · rw [bind_ok done]
            exact inRangeNext

theorem passes_lift {checked plain : Except Failure α} (same : checked = plain)
    (inRange : InRange plain) : Passes granted (liftM checked) (liftM plain) stream :=
  ⟨congrArg (fun outcome => (outcome, stream)) same, .inl inRange⟩

theorem passes_pure (value : α) : Passes granted (pure value) (pure value) stream :=
  passes_lift rfl (inRange_ok value)

theorem passes_throw (error : Error) :
    Passes (α := α) granted (throw (.refused error)) (throw (.refused error)) stream :=
  passes_lift rfl (inRange_refused error)

theorem passes_granted (work : Except Failure α) (grants : work = .error .panicked → granted) :
    Passes granted (liftM work) (liftM work) stream := by
  refine ⟨rfl, ?_⟩
  by_cases panicked : work = .error .panicked
  · exact .inr (grants panicked)
  · exact .inl panicked

theorem passes_demand {found : Option α} {value : α} {checked : α → Reading β} {plain : Reading β}
    (there : found = some value) (passes : Passes granted (checked value) plain stream) :
    Passes granted (liftM (demand found) >>= checked) plain stream := by
  rw [there]
  exact passes

theorem passes_exactly (count : Nat) (error : Error) :
    Passes granted (exactly count error) (exactly count error) stream := by
  refine ⟨rfl, .inl ?_⟩
  rw [exactly_eq]
  cases (stream.readExactly count #[]).1 with
  | none => exact inRange_refused error
  | some bytes => exact inRange_ok bytes

theorem passes_position (error : Error) :
    Passes granted (position error) (position error) stream := by
  refine ⟨rfl, .inl ?_⟩
  rw [position]
  split
  · exact inRange_ok _
  · exact inRange_refused error

theorem passes_seek (target : Nat) (error : Error) :
    Passes granted (seek target error) (seek target error) stream := by
  refine ⟨rfl, .inl ?_⟩
  rw [seek]
  split
  · exact inRange_ok _
  · exact inRange_refused error

end Reading

end Raster
