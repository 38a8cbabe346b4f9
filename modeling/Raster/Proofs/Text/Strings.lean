import Mathlib.Data.Char
import Raster.Proofs.Text.Scanning

/-!
Strings are read as the grammar describes them: the pieces up to the closing quote, and the one text
whose code units the pieces spell.
-/

namespace Raster.Backend.Json

open Text Text.Grammar
open Text.Json (Piece)

/-! Pieces -/

theorem hexDigit?_eq_some {char : Char} {digit : Nat} :
    hexDigit? char = some digit ↔ HexDigit char digit := by
  constructor
  · intro found
    unfold hexDigit? at found
    split_ifs at found with range range range
    all_goals
      obtain rfl := Option.some.inj found
      obtain ⟨code, least, most, rfl⟩ := exists_code range
      simp only [Char.reduceToNat] at least most
    · interval_cases code <;> exact ⟨by decide, .inl rfl⟩
    · interval_cases code <;> exact ⟨by decide, .inl rfl⟩
    · interval_cases code <;> exact ⟨by decide, .inr rfl⟩
  · rintro ⟨small, rfl | rfl⟩ <;> interval_cases digit <;> rfl

theorem codeUnit_eq_some {first second third fourth : Char} {code : Nat} :
    codeUnit first second third fourth = some code ↔
      ∃ digit₁ digit₂ digit₃ digit₄, HexDigit first digit₁ ∧ HexDigit second digit₂ ∧
        HexDigit third digit₃ ∧ HexDigit fourth digit₄ ∧
        ((digit₁ * 16 + digit₂) * 16 + digit₃) * 16 + digit₄ = code := by
  simp only [codeUnit, Option.bind_eq_bind, Option.pure_def, Option.bind_eq_some_iff,
    Option.some.injEq, hexDigit?_eq_some]
  tauto

theorem escaped?_eq_some {mark char : Char} :
    escaped? mark = some char ↔ (mark, char) ∈ shortEscapes := by
  simp only [shortEscapes, List.mem_cons, List.not_mem_nil, or_false, Prod.mk.injEq]
  constructor
  · intro found
    unfold escaped? at found
    split_ifs at found with same <;> obtain rfl := Option.some.inj found
    · tauto
    all_goals simp_all
  · rintro (⟨rfl, rfl⟩ | ⟨rfl, rfl⟩ | ⟨rfl, rfl⟩ | ⟨rfl, rfl⟩ | ⟨rfl, rfl⟩ | ⟨rfl, rfl⟩ |
      ⟨rfl, rfl⟩ | ⟨rfl, rfl⟩) <;> rfl

theorem pieces_piece {piece : Piece} {used : List Char} (written : Grammar.Piece piece used)
    (rest : List Char) :
    pieces (used ++ rest) = (pieces rest).map fun (found, rest) => (piece :: found, rest) := by
  cases written with
  | plain quote slash shown =>
      rw [List.singleton_append, pieces.eq_def]
      split <;> simp_all
  | @short mark char escape =>
      have known := escaped?_eq_some.mpr escape
      -- The letter of a code unit would be taken for one before short escapes are tried.
      have notUnit : mark ≠ 'u' := by
        rintro rfl
        contradiction
      simp [pieces, known, notUnit]
  | unit first second third fourth =>
      have code := codeUnit_eq_some.mpr ⟨_, _, _, _, first, second, third, fourth, rfl⟩
      simp only [List.cons_append, List.nil_append, pieces, code]

theorem pieces_append {found : List Piece} {used : List Char} (written : Pieces found used)
    (rest : List Char) : pieces (used ++ '"' :: rest) = some (found, rest) := by
  induction written with
  | none => simp [pieces]
  | more written _ ih => rw [List.append_assoc, pieces_piece written, ih, Option.map_some]

theorem pieces_more {piece : Piece} {first later rest : List Char} {found : List Piece}
    (written : Grammar.Piece piece first)
    (sound : ∀ {found}, pieces later = some (found, rest) →
      ∃ used, Pieces found used ∧ later = used ++ '"' :: rest)
    (read : (pieces later).map (fun (found, rest) => (piece :: found, rest)) =
      some (found, rest)) :
    ∃ used, Pieces found used ∧ first ++ later = used ++ '"' :: rest := by
  simp only [Option.map_eq_some_iff, Prod.exists, Prod.mk.injEq] at read
  obtain ⟨others, _, read, rfl, rfl⟩ := read
  obtain ⟨used, behind, same⟩ := sound read
  exact ⟨_, .more written behind, by rw [same, List.append_assoc]⟩

theorem pieces_sound {text rest : List Char} {found : List Piece}
    (read : pieces text = some (found, rest)) :
    ∃ used, Pieces found used ∧ text = used ++ '"' :: rest := by
  fun_induction pieces text generalizing found with
  -- Nothing is read at the end of a text, at an unknown escape and at a control character.
  | case1 | case3 | case5 | case7 => contradiction
  | case2 =>
      cases read
      exact ⟨_, .none, rfl⟩
  | case4 _ _ _ _ _ _ known sound =>
      obtain ⟨_, _, _, _, first, second, third, fourth, rfl⟩ := codeUnit_eq_some.mp known
      exact pieces_more (.unit first second third fourth) sound read
  | case6 _ _ _ _ known sound =>
      exact pieces_more (.short (escaped?_eq_some.mp known)) sound read
  | case8 char _ quote _ _ plain sound =>
      push Not at plain
      exact pieces_more (.plain quote plain.1 plain.2) sound read

/-! Texts -/

theorem isLead_iff {code : Nat} : isLead code = true ↔ 0xd800 ≤ code ∧ code < 0xdc00 := by
  simp [isLead]

theorem isTrail_iff {code : Nat} : isTrail code = true ↔ 0xdc00 ≤ code ∧ code < 0xe000 := by
  simp [isTrail]

theorem code_bounds (char : Char) :
    char.toNat < 0xd800 ∨ 0xdfff < char.toNat ∧ char.toNat < 0x110000 := char.valid

theorem utf16_append_inj {first second : Char} {rest later : List Nat}
    (same : utf16 first ++ rest = utf16 second ++ later) : first = second ∧ rest = later := by
  have firstBounds := code_bounds first
  have secondBounds := code_bounds second
  have codes : first.toNat = second.toNat ∧ rest = later := by
    unfold utf16 at same
    split_ifs at same <;> simp only [List.cons_append, List.nil_append, List.cons.injEq] at same
    · exact same
    · omega
    · omega
    · exact ⟨by omega, same.2.2⟩
  exact ⟨Char.toNat_inj.mp codes.1, codes.2⟩

theorem code_ofNat {code : Nat} (valid : code.isValidChar) : (Char.ofNat code).toNat = code := by
  rw [Char.ofNat, dif_pos valid]
  rfl

theorem utf16_ofNat {code : Nat} (small : code < 0x10000) (lead : ¬ isLead code = true)
    (trail : ¬ isTrail code = true) : utf16 (Char.ofNat code) = [code] := by
  rw [isLead_iff] at lead
  rw [isTrail_iff] at trail
  have valid : code.isValidChar := by
    simp only [Nat.isValidChar]
    omega
  rw [utf16, code_ofNat valid, if_pos small]

theorem utf16_pair {lead trail : Nat} (first : isLead lead = true) (second : isTrail trail = true) :
    utf16 (Char.ofNat (0x10000 + (lead - 0xd800) * 0x400 + (trail - 0xdc00))) = [lead, trail] := by
  rw [isLead_iff] at first
  rw [isTrail_iff] at second
  have valid : (0x10000 + (lead - 0xd800) * 0x400 + (trail - 0xdc00)).isValidChar := by
    simp only [Nat.isValidChar]
    omega
  rw [utf16, code_ofNat valid, if_neg (by omega)]
  simp only [List.cons.injEq, and_true]
  omega

theorem utf16_starts {char : Char} {code : Nat} {later rest : List Nat}
    (same : code :: later = utf16 char ++ rest) :
    ¬ isTrail code = true ∧
      (isLead code = true → ∃ trail behind, isTrail trail = true ∧ later = trail :: behind) := by
  have bounds := code_bounds char
  rw [isTrail_iff, isLead_iff]
  unfold utf16 at same
  split_ifs at same <;> simp only [List.cons_append, List.nil_append, List.cons.injEq] at same
  · omega
  · exact ⟨by omega, fun _ => ⟨_, _, isTrail_iff.mpr (by omega), same.2⟩⟩

theorem text_starts {chars : List Char} {code : Nat} {later : List Nat}
    (same : code :: later = chars.flatMap utf16) :
    ¬ isTrail code = true ∧
      (isLead code = true → ∃ trail behind, isTrail trail = true ∧ later = trail :: behind) := by
  cases chars with
  | nil => contradiction
  | cons char others => exact utf16_starts same

theorem utf16_ne_nil (char : Char) : utf16 char ≠ [] := by
  unfold utf16
  split_ifs <;> simp

theorem characters_cons {char : Char} {rest : List Piece}
    (known : ∀ {chars}, characters rest = some chars ↔
      rest.flatMap units = chars.flatMap utf16) (chars : List Char) :
    (characters rest).map (char :: ·) = some chars ↔
      utf16 char ++ rest.flatMap units = chars.flatMap utf16 := by
  simp only [Option.map_eq_some_iff, known]
  constructor
  · rintro ⟨others, same, rfl⟩
    rw [same, List.flatMap_cons]
  · intro same
    cases chars with
    | nil => exact absurd (List.append_eq_nil_iff.mp same).1 (utf16_ne_nil char)
    | cons first others =>
        obtain ⟨rfl, behind⟩ := utf16_append_inj same
        exact ⟨others, behind, rfl⟩

theorem characters_eq_some {found : List Piece} {chars : List Char}
    (small : ∀ code, .unit code ∈ found → code < 0x10000) :
    characters found = some chars ↔ found.flatMap units = chars.flatMap utf16 := by
  fun_induction characters found generalizing chars with
  | case1 =>
      cases chars with
      | nil => simp
      | cons char others => simp [utf16_ne_nil]
  | case2 char rest known =>
      exact characters_cons (known fun code held => small code (.tail _ held)) chars
  | case3 code rest trail =>
      exact iff_of_false nofun fun same => (text_starts same).1 trail
  | case4 lead _ first trail rest second known =>
      rw [characters_cons (known fun code held => small code (.tail _ (.tail _ held))),
        utf16_pair first second]
      rfl
  | case5 lead _ first trail rest other =>
      refine iff_of_false nofun fun same => ?_
      obtain ⟨_, _, second, behind⟩ := (text_starts same).2 first
      obtain ⟨rfl, -⟩ := List.cons.inj behind
      exact other second
  | case6 lead rest _ first other =>
      refine iff_of_false nofun fun same => ?_
      obtain ⟨_, _, second, behind⟩ := (text_starts same).2 first
      -- The second half would have to be a unit of its own, since no character begins with one.
      match rest with
      | [] => contradiction
      | .unit _ :: _ => exact other _ _ rfl
      | .char _ :: _ => exact (utf16_starts behind.symm).1 second
  | case7 code rest trail lead known =>
      rw [characters_cons (known fun code held => small code (.tail _ held)),
        utf16_ofNat (small code (.head _)) lead trail]
      rfl

theorem unit_small {found : List Piece} {used : List Char} (written : Pieces found used) :
    ∀ code, .unit code ∈ found → code < 0x10000 := by
  induction written with
  | none => nofun
  | more written _ ih =>
      intro code held
      cases held with
      | tail _ held => exact ih code held
      | head =>
          cases written with
          | unit first second third fourth =>
              have := first.1
              have := second.1
              have := third.1
              have := fourth.1
              omega

theorem contents_iff {found : List Piece} {used : List Char} (written : Pieces found used)
    (contents : Option String) : Contents found contents ↔ contents = stringText found := by
  have read {chars : List Char} : characters found = some chars ↔
      found.flatMap units = chars.flatMap utf16 := characters_eq_some (unit_small written)
  unfold stringText
  constructor
  · rintro (same | absent)
    · rw [read.mpr same, Option.map_some, String.ofList_toList]
    · cases known : characters found with
      | none => rfl
      | some chars => exact absurd (read.mp known) (by simpa using absent (String.ofList chars))
  · rintro rfl
    cases known : characters found with
    | none =>
        refine .none fun text same => ?_
        rw [read.mpr same] at known
        contradiction
    | some chars => exact .some (by simpa using read.mp known)

end Raster.Backend.Json
