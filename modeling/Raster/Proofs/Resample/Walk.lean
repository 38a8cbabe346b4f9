import Raster.Proofs.Resample.Area

/-!
Walks along a span, chunk by chunk, with every position checked. A walk fails as soon as a position
does not fit its word, where a visit fails, and when it takes more turns than its span has pixels.
Where the span ends within a word it does what the unchecked loop does; elsewhere it always fails.
-/

namespace Raster

namespace Resample

def word? (number : Nat) : Option UInt32 :=
  if number < 2 ^ 32 then some (UInt32.ofNat number) else none

def doubleWord? (number : Nat) : Option UInt64 :=
  if number < 2 ^ 64 then some (UInt64.ofNat number) else none

section Words

variable {left right : UInt32}

theorem toNat_add_of_fits (fits : left.toNat + right.toNat < 2 ^ 32) :
    (left + right).toNat = left.toNat + right.toNat := by
  rw [UInt32.toNat_add, Nat.mod_eq_of_lt fits]

theorem toNat_mul_of_fits (fits : left.toNat * right.toNat < 2 ^ 32) :
    (left * right).toNat = left.toNat * right.toNat := by
  rw [UInt32.toNat_mul, Nat.mod_eq_of_lt fits]

theorem word?_eq_none {number : Nat} (large : 2 ^ 32 ≤ number) : word? number = none :=
  if_neg (Nat.not_lt.mpr large)

theorem doubleWord?_eq_some {number : Nat} (fits : number < 2 ^ 64) :
    doubleWord? number = some (UInt64.ofNat number) := if_pos fits

theorem word?_add (fits : left.toNat + right.toNat < 2 ^ 32) :
    word? (left.toNat + right.toNat) = some (left + right) := by
  rw [word?, if_pos fits, UInt32.ofNat_add, UInt32.ofNat_toNat, UInt32.ofNat_toNat]

theorem word?_mul (fits : left.toNat * right.toNat < 2 ^ 32) :
    word? (left.toNat * right.toNat) = some (left * right) := by
  rw [word?, if_pos fits, UInt32.ofNat_mul, UInt32.ofNat_toNat, UInt32.ofNat_toNat]

theorem toNat_mul_toUInt64 (left right : UInt32) :
    (left.toUInt64 * right.toUInt64).toNat = left.toNat * right.toNat := by
  have product : left.toNat * right.toNat < 2 ^ 32 * 2 ^ 32 :=
    Nat.mul_lt_mul_of_lt_of_lt left.toNat_lt right.toNat_lt
  rw [UInt64.toNat_mul, UInt32.toNat_toUInt64, UInt32.toNat_toUInt64, Nat.mod_eq_of_lt (by omega)]

theorem doubleWord?_mul (left right : UInt32) :
    doubleWord? (left.toNat * right.toNat) = some (left.toUInt64 * right.toUInt64) := by
  rw [← toNat_mul_toUInt64, doubleWord?, if_pos (UInt64.toNat_lt _), UInt64.ofNat_toNat]

end Words

section Walk

variable {State : Type}

/-- Visits a span chunk by chunk, each with the source pixel it lies in; fails where a visit or a
position does, and when the turns do not suffice. -/
def walk? (visit : UInt32 → UInt32 → State → Option State) :
    Nat → UInt32 → UInt32 → State → Option State
  | 0, _, remaining, state => if remaining = 0 then some state else none
  | turns + 1, position, remaining, state =>
      if remaining = 0 then some state
      else do
        let visited ← visit (position >>> 12) (chunk position remaining) state
        let next ← word? (position.toNat + (chunk position remaining).toNat)
        walk? visit turns next (remaining - chunk position remaining) visited

variable {visit : UInt32 → UInt32 → State → Option State}

theorem toNat_ne_zero {number : UInt32} (nonzero : number ≠ 0) : number.toNat ≠ 0 :=
  Nat.ne_of_gt (UInt32.lt_iff_toNat_lt.mp (UInt32.pos_iff_ne_zero.mpr nonzero))

theorem walk?_zero (turns : Nat) (position : UInt32) (state : State) :
    walk? visit turns position 0 state = some state := by
  cases turns <;> exact if_pos rfl

/-- A loop that does what the visits of a walk do. `Ready` is what visits need and keep, by how much
of the span is still to come. -/
structure Follows (run : UInt32 → UInt32 → State → State)
    (visit : UInt32 → UInt32 → State → Option State) (Ready : Nat → State → Prop) : Prop where
  done : ∀ position state, run position 0 state = state
  turn : ∀ (position remaining : UInt32) state, remaining ≠ 0 → Ready remaining.toNat state →
    ∃ visited, visit (position >>> 12) (chunk position remaining) state = some visited ∧
      Ready (remaining - chunk position remaining).toNat visited ∧
      run position remaining state =
        run (position + chunk position remaining) (remaining - chunk position remaining) visited

theorem Follows.walk?_eq_some {run : UInt32 → UInt32 → State → State} {Ready : Nat → State → Prop}
    (follows : Follows run visit Ready) {turns : Nat} {position remaining : UInt32} {state : State}
    (enough : remaining ≠ 0 → position.toNat % 4096 + remaining.toNat ≤ 4096 * turns)
    (fits : position.toNat + remaining.toNat < 2 ^ 32) (ready : Ready remaining.toNat state) :
    walk? visit turns position remaining state = some (run position remaining state) ∧
      Ready 0 (run position remaining state) := by
  induction turns generalizing position remaining state with
  | zero =>
      have ended : remaining = 0 := by
        by_contra more
        have bounded := enough more
        have left := toNat_ne_zero more
        omega
      subst ended
      rw [walk?_zero, follows.done]
      exact ⟨rfl, ready⟩
  | succ turns ih =>
      by_cases ended : remaining = 0
      · subst ended
        rw [walk?_zero, follows.done]
        exact ⟨rfl, ready⟩
      · have size := toNat_chunk position remaining
        have rest := toNat_remaining position remaining
        have bounded := enough ended
        have small : position.toNat + (chunk position remaining).toNat < 2 ^ 32 := by
          omega
        have forward := toNat_add_of_fits small
        have within : (position + chunk position remaining).toNat +
            (remaining - chunk position remaining).toNat < 2 ^ 32 := by
          omega
        obtain ⟨visited, found, kept, same⟩ := follows.turn position remaining state ended ready
        rw [walk?, if_neg ended, found, word?_add small, same]
        refine ih ?_ within kept
        -- A chunk that leaves something to visit ended where its source pixel does.
        intro more
        have left := toNat_ne_zero more
        omega

theorem remaining_ne_zero {position remaining : UInt32}
    (large : 2 ^ 32 ≤ position.toNat + remaining.toNat) : remaining ≠ 0 := by
  rintro rfl
  exact Nat.not_lt.mpr large position.toNat_lt

theorem walk?_eq_none {turns : Nat} {position remaining : UInt32} {state : State}
    (large : 2 ^ 32 ≤ position.toNat + remaining.toNat) :
    walk? visit turns position remaining state = none := by
  induction turns generalizing position remaining state with
  | zero => exact if_neg (remaining_ne_zero large)
  | succ turns ih =>
      have rest := toNat_remaining position remaining
      rw [walk?, if_neg (remaining_ne_zero large)]
      cases visit (position >>> 12) (chunk position remaining) state with
      | none => rfl
      | some visited =>
          rw [Option.bind_eq_bind, Option.bind_some]
          by_cases fits : position.toNat + (chunk position remaining).toNat < 2 ^ 32
          · have forward := toNat_add_of_fits fits
            have beyond : 2 ^ 32 ≤ (position + chunk position remaining).toNat +
                (remaining - chunk position remaining).toNat := by
              omega
            rw [word?_add fits, Option.bind_eq_bind, Option.bind_some]
            exact ih beyond
          · rw [word?_eq_none (Nat.not_lt.mp fits)]
            rfl

theorem walk?_eq_none_of_visits (never : ∀ place taken state, visit place taken state = none)
    {turns : Nat} {position remaining : UInt32} {state : State} (more : remaining ≠ 0) :
    walk? visit turns position remaining state = none := by
  cases turns with
  | zero => exact if_neg more
  | succ turns =>
      rw [walk?, if_neg more, never]
      rfl

end Walk

def turns (step : UInt32) : Nat := step.toNat / 4096 + 2

theorem turns_enough (start step : UInt32) :
    start.toNat % 4096 + step.toNat ≤ 4096 * turns step := by
  rw [turns]
  omega

end Resample

end Raster
