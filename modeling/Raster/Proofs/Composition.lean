import Raster.Dib.Decode
import Raster.Proofs.Reading

/-!
Properties of work on a stream that pass from its steps to the whole. What holds of exact reads and
of sequences of work holds of the readers of headers and of rows.
-/

namespace Raster

/-- A property that plain outcomes and exact reads have, and that sequences inherit. -/
structure Reading.Compositional (property : {α : Type} → Reading α → Prop) : Prop where
  lift : ∀ {α : Type} (outcome : Except Failure α), property (liftM outcome : Reading α)
  exactly : ∀ (count : Nat) (error : Error), property (exactly count error)
  bind : ∀ {α β : Type} {work : Reading α} {next : α → Reading β},
    property work → (∀ value, property (next value)) → property (work >>= next)

namespace Reading.Compositional

variable {property : {α : Type} → Reading α → Prop} (compositional : Compositional property)

include compositional

theorem pure {α : Type} (value : α) : property (Pure.pure value : Reading α) :=
  compositional.lift (.ok value)

theorem throw {α : Type} (failure : Failure) : property (MonadExcept.throw failure : Reading α) :=
  compositional.lift (.error failure)

end Reading.Compositional

namespace Reading

variable {α β : Type} {related : Stream → Stream → Prop}

def Related (related : Stream → Stream → Prop) (work other : Reading α) : Prop :=
  ∀ left right, related left right →
    (work left).1 = (other right).1 ∧ related (work left).2 (other right).2

theorem related_lift (outcome : Except Failure α) :
    Related related (liftM outcome) (liftM outcome) :=
  fun _ _ streams => ⟨rfl, streams⟩

theorem related_bind {work other : Reading α} {next otherNext : α → Reading β}
    (first : Related related work other)
    (later : ∀ value, Related related (next value) (otherNext value)) :
    Related related (work >>= next) (other >>= otherNext) := by
  intro left right streams
  obtain ⟨outcomes, rests⟩ := first left right streams
  cases done : work left with
  | mk outcome rest =>
      cases otherDone : other right with
      | mk otherOutcome otherRest =>
          rw [done, otherDone] at outcomes rests
          simp only at outcomes rests
          subst outcomes
          cases outcome with
          | error failure =>
              rw [bind_error done, bind_error otherDone]
              exact ⟨rfl, rests⟩
          | ok value =>
              rw [bind_ok done, bind_ok otherDone]
              exact later value rest otherRest rests

theorem related_compositional (reads : ∀ count error,
    Related related (exactly count error) (exactly count error)) :
    Compositional fun work => Related related work work where
  lift := related_lift
  exactly := reads
  bind := related_bind

end Reading

namespace Dib

variable {property : {α : Type} → Reading α → Prop}
  (compositional : Reading.Compositional property)

include compositional

theorem readFileHeader_has : property readFileHeader :=
  compositional.bind (compositional.exactly _ _) fun _ => compositional.lift _

theorem verifyHeader_has : property verifyHeader :=
  compositional.bind (readFileHeader_has compositional) fun _ => compositional.pure ()

theorem readLayout_has (headerSize : UInt32) (bytes : Array UInt8) :
    property (readLayout headerSize bytes) := by
  refine compositional.bind (compositional.lift _) fun bits => ?_
  refine compositional.bind (compositional.lift _) fun compression => ?_
  split
  · exact compositional.pure _
  · split
    · exact compositional.pure _
    · split
      · exact compositional.pure _
      · split
        · split
          · exact compositional.lift _
          · exact compositional.bind (compositional.exactly _ _) fun _ => compositional.lift _
        · exact compositional.throw _

theorem readInfo_has (headerSize : UInt32) : property (readInfo headerSize) := by
  refine compositional.bind (compositional.exactly _ _) fun bytes => ?_
  split
  · exact compositional.lift _
  · refine compositional.bind (compositional.lift _) fun width => ?_
    refine compositional.bind (compositional.lift _) fun height => ?_
    have rest : property (do
        unless (← shortAt bytes 8) = 1 do
          throw (.refused (.decode .dibPlaneCount))
        let layout ← readLayout headerSize bytes
        return (⟨magnitude width, magnitude height, isNegative height, layout⟩ : Info)) := by
      refine compositional.bind (compositional.lift _) fun planes => ?_
      have layout : property (do
          let layout ← readLayout headerSize bytes
          return (⟨magnitude width, magnitude height, isNegative height, layout⟩ : Info)) :=
        compositional.bind (readLayout_has compositional _ _) fun _ => compositional.pure _
      split
      · exact layout
      · exact compositional.bind (compositional.throw _) fun _ => layout
    split
    · exact compositional.bind (compositional.throw _) fun _ => rest
    · exact rest

theorem readRows_has (info : Info) (count stored : Nat) (progress : Progress) :
    property (readRows info stored count progress) := by
  induction count generalizing stored progress with
  | zero => exact compositional.pure _
  | succ count ih =>
      refine compositional.bind (compositional.exactly _ _) fun row => ?_
      exact compositional.bind (compositional.lift _) fun next => ih (stored + 1) next

end Dib

end Raster
