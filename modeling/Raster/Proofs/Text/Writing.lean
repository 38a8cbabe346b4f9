import Raster.Proofs.Text.Parsing

/-!
What is written for a plain value stands for it, so texts are read and written as a strict format
does.
-/

namespace Raster.Backend.Json

open Text Text.Grammar

theorem blank_nil : Blank [] := by
  simp [Blank]

/-! Strings -/

theorem escape_spelled (char : Char) :
    ∃ piece, Grammar.Piece piece (escape char) ∧ units piece = utf16 char := by
  unfold escape
  split_ifs with mark control
  · exact ⟨.char char, .short (by rcases mark with rfl | rfl <;> simp [shortEscapes]), rfl⟩
  · have zero : HexDigit '0' 0 := ⟨by decide, .inl rfl⟩
    have high : HexDigit (Nat.digitChar (char.toNat / 16)) (char.toNat / 16) :=
      ⟨by omega, .inl rfl⟩
    have low : HexDigit (Nat.digitChar (char.toNat % 16)) (char.toNat % 16) :=
      ⟨by omega, .inl rfl⟩
    refine ⟨_, .unit zero zero high low, ?_⟩
    simp only [units, utf16, if_pos (show char.toNat < 0x10000 by omega), List.cons.injEq,
      and_true]
    omega
  · simp only [not_or] at mark
    exact ⟨.char char, .plain mark.1 mark.2 (by omega), rfl⟩

theorem escapes_spelled (chars : List Char) :
    ∃ pieces, Pieces pieces (chars.flatMap escape) ∧
      pieces.flatMap units = chars.flatMap utf16 := by
  induction chars with
  | nil => exact ⟨[], .none, rfl⟩
  | cons char later ih =>
      obtain ⟨piece, spelled, same⟩ := escape_spelled char
      obtain ⟨pieces, behind, rest⟩ := ih
      refine ⟨piece :: pieces, ?_, ?_⟩
      · rw [List.flatMap_cons]
        exact .more spelled behind
      · simp only [List.flatMap_cons, same, rest]

theorem string_spelled (text : String) :
    ∃ pieces, Pieces pieces (text.toList.flatMap escape) ∧ Contents pieces (some text) := by
  obtain ⟨pieces, spelled, same⟩ := escapes_spelled text.toList
  exact ⟨pieces, spelled, .some same⟩

/-! Values -/

/-- Whatever text stands for the value, its own text does so too. -/
def Rewritten (json : Json) : Prop := ∀ text, Value json text → Value json (valueText json)

theorem Rewritten.padded {json : Json} (rewritten : Rewritten json) {text : List Char}
    (written : Padded json text) : Padded json (valueText json) := by
  obtain ⟨-, value, -⟩ := written
  simpa using Padded.mk blank_nil (rewritten _ value) blank_nil

theorem number_rewritten (digits : List Nat) :
    Rewritten (.number ⟨false, digits, [], none⟩) := by
  intro text written
  cases written with
  | number written =>
      cases written with
      | plain positive unsigned =>
          obtain ⟨lead, whole, -, -, spelled, -, -, -⟩ := unsigned
          have own : numberText ⟨false, digits, [], none⟩ = whole := by
            simp [numberText, digitsText, spelled.spelled]
          rw [valueText, own]
          exact .number (.plain rfl ⟨lead, _, _, _, spelled, .absent, .absent, by simp⟩)
      | negative minus => cases minus

theorem items_rewritten {items : List Json} (each : ∀ item ∈ items, Rewritten item)
    {text : List Char} (written : Items items text) :
    ∃ first later, items = first :: later ∧ Items items (valueText first ++ itemsText later) := by
  induction items generalizing text with
  | nil => cases written
  | cons first later ih =>
      obtain ⟨head, each⟩ := List.forall_mem_cons.mp each
      refine ⟨first, later, rfl, ?_⟩
      cases written with
      | last padded => simpa [itemsText] using Items.last (head.padded padded)
      | more padded behind =>
          obtain ⟨second, others, rfl, rest⟩ := ih each behind
          exact .more (head.padded padded) rest

theorem member_rewritten {key : String} {json : Json} (rewritten : Rewritten json)
    {text : List Char} (written : Member (some key, json) text) :
    Member (some key, json) (memberText (some key, json)) := by
  obtain ⟨-, -, -, -, padded⟩ := written
  obtain ⟨pieces, spelled, contents⟩ := string_spelled key
  simpa [memberText, quoted] using
    Member.mk blank_nil spelled contents blank_nil (rewritten.padded padded)

theorem members_rewritten {members : List (Option String × Json)}
    (named : ∀ member ∈ members, member.1 ≠ none)
    (each : ∀ member ∈ members, Rewritten member.2) {text : List Char}
    (written : Members members text) :
    ∃ first later, members = first :: later ∧
      Members members (memberText first ++ membersText later) := by
  induction members generalizing text with
  | nil => cases written
  | cons first later ih =>
      obtain ⟨⟨name, namedLater⟩, head, eachLater⟩ :=
        And.intro (List.forall_mem_cons.mp named) (List.forall_mem_cons.mp each)
      obtain ⟨key, json⟩ := first
      obtain ⟨key, rfl⟩ := Option.ne_none_iff_exists'.mp name
      refine ⟨_, later, rfl, ?_⟩
      cases written with
      | last member => simpa [membersText] using Members.last (member_rewritten head member)
      | more member behind =>
          obtain ⟨second, others, rfl, rest⟩ := ih namedLater eachLater behind
          exact .more (member_rewritten head member) rest

theorem value_rewritten {depth : Nat} {json : Json} (plain : Plain depth json) :
    Rewritten json := by
  induction plain with
  | null => exact fun _ _ => .null
  | @bool _ value =>
      cases value with
      | false => exact fun _ _ => .false
      | true => exact fun _ _ => .true
  | number small => exact number_rewritten _
  | @string _ text =>
      intro _ _
      obtain ⟨pieces, spelled, contents⟩ := string_spelled text
      exact .string spelled contents
  | array _ each =>
      intro _ written
      cases written with
      | emptyArray => exact .emptyArray blank_nil
      | array items =>
          obtain ⟨first, later, rfl, rest⟩ := items_rewritten each items
          simpa [valueText] using Value.array rest
  | object named _ each =>
      intro _ written
      cases written with
      | emptyObject => exact .emptyObject blank_nil
      | object members =>
          obtain ⟨first, later, rfl, rest⟩ := members_rewritten named each members
          simpa [valueText] using Value.object rest

theorem format_strict : Strict format where
  sound := parse?_eq_some.mp
  complete stands _ := parse?_eq_some.mpr stands
  written stands plain := by
    have padded := (value_rewritten plain).padded stands
    simpa only [Stands, format, text, String.toList_ofList] using padded

end Raster.Backend.Json
