import Raster.Proofs.Png.Plane
import Raster.Proofs.Png.Unpacking

/-!
Masks are read row by row, each row for the turn of one row of a pass. Main statement: the samples
that a turn gets are those packed into its row; a mask with a row that is too short for its turn is
refused there.
-/

namespace Raster.Png

/-- A row that is to come: which row of which pass it is, and how many pixels it has. -/
structure Turn where
  pass : Pass
  width : Nat
  y : Nat
deriving DecidableEq

def Pass.turns (pass : Pass) (width height : UInt32) : List Turn :=
  if pass.isEmpty width height then []
  else (List.range (pass.height height).toNat).map fun y => ⟨pass, (pass.width width).toNat, y⟩

namespace Mask

variable (mask : Mask)

def turns : List Turn :=
  (Pass.all mask.header.interlaced).flatMap fun pass =>
    pass.turns mask.header.width mask.header.height

def blank : Array UInt8 := Array.replicate (mask.header.width.toNat * mask.header.height.toNat) 0

def Short (turn : Turn) (row : Array UInt8) : Prop :=
  row.size * 8 < turn.width * mask.header.colour.samples * mask.header.depth

end Mask

def readTurns (mask : Mask) : List Turn → List (Array UInt8) → Array UInt8 →
    Except Failure (Array UInt8 × List (Array UInt8))
  | [], rows, plane => .ok (plane, rows)
  | turn :: later, rows, plane =>
      match readPass mask turn.pass turn.width turn.y 1 rows plane with
      | .error error => .error error
      | .ok (plane, rows) => readTurns mask later rows plane

section Turns

variable (mask : Mask)

theorem readTurns_append (first second : List Turn) (rows : List (Array UInt8))
    (plane : Array UInt8) :
    readTurns mask (first ++ second) rows plane =
      match readTurns mask first rows plane with
      | .error error => .error error
      | .ok (plane, rows) => readTurns mask second rows plane := by
  induction first generalizing rows plane with
  | nil => rfl
  | cons turn later ih =>
      rw [List.cons_append, readTurns, readTurns]
      cases readPass mask turn.pass turn.width turn.y 1 rows plane with
      | error error => rfl
      | ok read => exact ih _ _

theorem readPass_eq_readTurns (pass : Pass) (width y count : Nat) (rows : List (Array UInt8))
    (plane : Array UInt8) :
    readPass mask pass width y count rows plane =
      readTurns mask ((List.range' y count).map fun y => ⟨pass, width, y⟩) rows plane := by
  induction count generalizing y rows plane with
  | zero => rfl
  | succ count ih =>
      rw [List.range'_succ, List.map_cons, readTurns]
      cases rows with
      | nil =>
          simp only [readPass]
          split <;> rfl
      | cons row rest =>
          simp only [readPass]
          split
          · rfl
          · split
            · rfl
            · exact ih _ _ _

theorem readPasses_eq_readTurns (passes : List Pass) (rows : List (Array UInt8))
    (plane : Array UInt8) :
    readPasses mask passes rows plane =
      (readTurns mask (passes.flatMap fun pass =>
        pass.turns mask.header.width mask.header.height) rows plane).map Prod.fst := by
  induction passes generalizing rows plane with
  | nil => rfl
  | cons pass later ih =>
      rw [List.flatMap_cons, readTurns_append, readPasses, Pass.turns]
      split
      · exact ih _ _
      · rw [readPass_eq_readTurns, ← List.range_eq_range']
        cases readTurns mask ((List.range (pass.height mask.header.height).toNat).map fun y =>
            ⟨pass, (pass.width mask.header.width).toNat, y⟩) rows plane with
        | error error => rfl
        | ok read => exact ih _ _

theorem Mask.alphas_eq_readTurns :
    mask.alphas = (readTurns mask mask.turns mask.rows mask.blank).map Prod.fst :=
  readPasses_eq_readTurns mask _ _ _

variable {mask}
variable (legal : mask.header.depth = 1 ∨ mask.header.depth = 2 ∨ mask.header.depth = 4 ∨
  mask.header.depth = 8)

include legal

theorem readTurn_cases (turn : Turn) (row : Array UInt8) (rest : List (Array UInt8))
    (plane : Array UInt8) :
    (mask.Short turn row ∧ readPass mask turn.pass turn.width turn.y 1 (row :: rest) plane =
      .error (.refused (.decode .pngRowShort))) ∨
    (¬mask.Short turn row ∧
      ∀ next later, readPass mask turn.pass turn.width turn.y 1 (row :: rest) plane =
        .ok (next, later) → later = rest) := by
  have short := unpackRow_size_lt_iff row mask.header.colour legal
    (turn.width * mask.header.colour.samples)
  rw [readPass]
  split
  · rename_i few
    exact .inl ⟨short.mp few, rfl⟩
  · rename_i all
    refine .inr ⟨fun few => all (short.mpr few), ?_⟩
    intro next later read
    split at read
    · simp at read
    · simp only [readPass, Except.ok.injEq, Prod.mk.injEq] at read
      exact read.2.symm

theorem readTurns_of_short {earlier later : List Turn} {turn : Turn}
    {rows rest : List (Array UInt8)} {row plane next : Array UInt8}
    (read : readTurns mask earlier rows plane = .ok (next, row :: rest))
    (short : mask.Short turn row) :
    readTurns mask (earlier ++ turn :: later) rows plane =
      .error (.refused (.decode .pngRowShort)) := by
  rw [readTurns_append, read]
  dsimp only
  rw [readTurns]
  obtain ⟨-, failed⟩ | ⟨enough, -⟩ := readTurn_cases legal turn row rest next
  · rw [failed]
  · exact absurd short enough

theorem readTurns_eq_ok {turns : List Turn} {rows rest : List (Array UInt8)}
    {plane next : Array UInt8} (read : readTurns mask turns rows plane = .ok (next, rest)) :
    ∃ used, rows = used ++ rest ∧
      List.Forall₂ (fun turn row => ¬mask.Short turn row) turns used := by
  induction turns generalizing rows plane with
  | nil =>
      simp only [readTurns, Except.ok.injEq, Prod.mk.injEq] at read
      exact ⟨[], read.2, .nil⟩
  | cons turn later ih =>
      rw [readTurns] at read
      cases rows with
      | nil =>
          cases ended : mask.rowsEnd <;> simp [readPass, ended] at read
      | cons row following =>
          obtain ⟨-, failed⟩ | ⟨enough, takes⟩ := readTurn_cases legal turn row following plane
          · simp [failed] at read
          · split at read
            · simp at read
            · rename_i taken
              obtain ⟨used, parts, whole⟩ := ih read
              rw [takes _ _ taken] at parts
              exact ⟨row :: used, by rw [parts]; rfl, .cons enough whole⟩

end Turns

/-- Unpacking gives back the samples of every packed row, gray ones on the scale of 255, by steps
that stay within a byte. A row that is too short gives fewer samples than asked for; a mask is
refused at the first such row, and is never read with one. -/
theorem unpackRow_exact {depth : Nat} (legal : depth = 1 ∨ depth = 2 ∨ depth = 4 ∨ depth = 8) :
    (∀ colour samples free, (∀ sample ∈ samples, sample < 2 ^ depth) →
      8 ∣ samples.length * depth + free.length →
      (unpackRow (packRow depth samples free) samples.length depth colour).toList.map
          UInt8.toNat =
        samples.map fun sample =>
          if colour = .palette then sample else sample * 255 / (2 ^ depth - 1)) ∧
    (∀ row count colour,
      Checked.unpackRow? row count depth colour = some (unpackRow row count depth colour)) ∧
    (∀ row count colour,
      (unpackRow row count depth colour).size < count ↔ row.size * 8 < count * depth) ∧
    (∀ mask : Mask, mask.header.depth = depth → ∀ bitmap, mask.check bitmap = .ok () →
      ∀ earlier turn later plane row rest, mask.turns = earlier ++ turn :: later →
        readTurns mask earlier mask.rows mask.blank = .ok (plane, row :: rest) →
        mask.Short turn row →
          mask.apply bitmap = (.error (.refused (.decode .pngRowShort)), bitmap)) ∧
    (∀ mask : Mask, mask.header.depth = depth → ∀ plane, mask.alphas = .ok plane →
      ∃ used rest, mask.rows = used ++ rest ∧
        List.Forall₂ (fun turn row => ¬mask.Short turn row) mask.turns used) := by
  refine ⟨?_, ?_, ?_, ?_, ?_⟩
  · intro colour samples free small whole
    exact unpackRow_packRow colour legal small whole
  · intro row count colour
    exact Checked.unpackRow?_eq row colour legal count
  · intro row count colour
    exact unpackRow_size_lt_iff row colour legal count
  · rintro mask rfl bitmap checked earlier turn later plane row rest turns read short
    have failed : mask.alphas = .error (.refused (.decode .pngRowShort)) := by
      rw [mask.alphas_eq_readTurns, turns, readTurns_of_short legal read short]
      rfl
    rw [Mask.apply, checked, failed]
  · rintro mask rfl plane read
    rw [mask.alphas_eq_readTurns] at read
    cases turned : readTurns mask mask.turns mask.rows mask.blank with
    | error error => simp [turned, Except.map] at read
    | ok last =>
        obtain ⟨next, rest⟩ := last
        obtain ⟨used, parts, whole⟩ := readTurns_eq_ok legal turned
        exact ⟨used, rest, parts, whole⟩

namespace Fringe

def header : Header := ⟨5, 2, 2, .gray, false⟩

def torn : Mask := ⟨header, #[], [#[0xc9, 0xff], #[0xe4]], .exhausted⟩

def whole : Mask := ⟨header, #[], [#[0xc9, 0xff], #[0xe4, 0x3f, 0x07]], .exhausted⟩

def bitmap : Bitmap := .blank 5 2

def free : List Bool := [true, false, true, true, false, true] ++ bitsOf 8 7

end Fringe

theorem unpackRow_exact_fringe :
    ((∀ sample ∈ [3, 0, 2, 1, 3], sample < 2 ^ 2) ∧
      8 ∣ [3, 0, 2, 1, 3].length * 2 + Fringe.free.length ∧
      (unpackRow (packRow 2 [3, 0, 2, 1, 3] Fringe.free) 5 2 .gray).toList.map UInt8.toNat =
        [255, 0, 170, 85, 255]) ∧
    ((#[0xe4] : Array UInt8).size * 8 < 5 * 2 ∧ (unpackRow #[0xe4] 5 2 .gray).size < 5) ∧
    (Fringe.torn.check Fringe.bitmap = .ok () ∧
      Fringe.torn.turns = [⟨.single, 5, 0⟩] ++ ⟨.single, 5, 1⟩ :: [] ∧
      Fringe.torn.Short ⟨.single, 5, 1⟩ #[0xe4] ∧
      Fringe.torn.apply Fringe.bitmap = (.error (.refused (.decode .pngRowShort)), Fringe.bitmap)) ∧
    (∃ plane, Fringe.whole.alphas = .ok plane ∧
      ∃ used rest, Fringe.whole.rows = used ++ rest ∧
        List.Forall₂ (fun turn row => ¬Fringe.whole.Short turn row) Fringe.whole.turns used) := by
  obtain ⟨inverts, -, few, refused, read⟩ := @unpackRow_exact 2 (by decide)
  have small : ∀ sample ∈ [3, 0, 2, 1, 3], sample < 2 ^ 2 := by decide
  have filled : 8 ∣ [3, 0, 2, 1, 3].length * 2 + Fringe.free.length := by decide
  have checked : Fringe.torn.check Fringe.bitmap = .ok () := by decide
  have turns : Fringe.torn.turns = [⟨.single, 5, 0⟩] ++ ⟨.single, 5, 1⟩ :: [] := by decide
  have short : Fringe.torn.Short ⟨.single, 5, 1⟩ #[0xe4] := by
    rw [Mask.Short]
    decide
  have first : readTurns Fringe.torn [⟨.single, 5, 0⟩] Fringe.torn.rows Fringe.torn.blank =
      .ok (#[255, 0, 170, 85, 255, 0, 0, 0, 0, 0], [#[0xe4]]) := by rfl
  have all : Fringe.whole.alphas = .ok #[255, 0, 170, 85, 255, 255, 170, 85, 0, 0] := by rfl
  exact ⟨⟨small, filled, inverts .gray _ _ small filled⟩,
    ⟨by decide, (few #[0xe4] 5 .gray).mpr (by decide)⟩,
    ⟨checked, turns, short, refused Fringe.torn rfl _ checked _ _ _ _ _ _ turns first short⟩,
    _, all, read Fringe.whole rfl _ all⟩

end Raster.Png
