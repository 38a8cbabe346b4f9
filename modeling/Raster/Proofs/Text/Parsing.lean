import Raster.Proofs.Text.Strings

/-!
A text is read as the value it stands for, and as nothing if it stands for none. Readers are given
fuel; a text has fewer values within one another than characters, so its length is enough.
-/

namespace Raster.Backend.Json

open Text Text.Grammar
open Text.Json (Piece)

/-! Space in front of what is read -/

theorem value_skipBlanks (fuel : Nat) (text : List Char) :
    value fuel (skipBlanks text) = value fuel text := by
  cases fuel <;> simp only [value, skipBlanks_idem]

theorem items_skipBlanks (fuel : Nat) (text : List Char) :
    items fuel (skipBlanks text) = items fuel text := by
  cases fuel <;> simp only [items, value_skipBlanks]

theorem members_skipBlanks (fuel : Nat) (text : List Char) :
    members fuel (skipBlanks text) = members fuel text := by
  cases fuel <;> simp only [members, skipBlanks_idem]

/-! Soundness -/

/-- Readers with some fuel read what the grammar describes. -/
structure Sound (fuel : Nat) : Prop where
  ofValue : ∀ {text json rest}, value fuel text = some (json, rest) →
    ∃ gap body, Blank gap ∧ Value json body ∧ text = gap ++ (body ++ rest)
  ofItems : ∀ {text found rest}, items fuel text = some (found, rest) →
    ∃ body, Items found body ∧ text = body ++ ']' :: rest
  ofMembers : ∀ {text found rest}, members fuel text = some (found, rest) →
    ∃ body, Members found body ∧ text = body ++ '}' :: rest

theorem Sound.value_succ {fuel : Nat} (sound : Sound fuel) {text rest : List Char} {json : Json}
    (read : value (fuel + 1) text = some (json, rest)) :
    ∃ gap body, Blank gap ∧ Value json body ∧ text = gap ++ (body ++ rest) := by
  suffices ∃ body, Value json body ∧ skipBlanks text = body ++ rest by
    obtain ⟨gap, blank, split⟩ := skipBlanks_split text
    obtain ⟨body, written, same⟩ := this
    exact ⟨gap, body, blank, written, by rw [← same, ← split]⟩
  unfold value at read
  split at read
  case h_1 _ behind same =>
    cases read
    exact ⟨_, .null, same⟩
  case h_2 _ behind same =>
    cases read
    exact ⟨_, .true, same⟩
  case h_3 _ behind same =>
    cases read
    exact ⟨_, .false, same⟩
  case h_4 _ behind same =>
    simp only [Option.map_eq_some_iff, Prod.exists, Prod.mk.injEq] at read
    obtain ⟨found, _, read, rfl, rfl⟩ := read
    obtain ⟨used, written, rfl⟩ := pieces_sound read
    exact ⟨_, .string written ((contents_iff written _).mpr rfl), by simp [same]⟩
  case h_5 _ behind same =>
    obtain ⟨gap, blank, split⟩ := skipBlanks_split behind
    split at read
    · rename_i closed
      cases read
      exact ⟨_, .emptyArray blank, by rw [same, split, closed]; simp⟩
    · simp only [Option.map_eq_some_iff, Prod.exists, Prod.mk.injEq, items_skipBlanks] at read
      obtain ⟨found, _, read, rfl, rfl⟩ := read
      obtain ⟨body, written, rfl⟩ := sound.ofItems read
      exact ⟨_, .array written, by simp [same]⟩
  case h_6 _ behind same =>
    obtain ⟨gap, blank, split⟩ := skipBlanks_split behind
    split at read
    · rename_i closed
      cases read
      exact ⟨_, .emptyObject blank, by rw [same, split, closed]; simp⟩
    · simp only [Option.map_eq_some_iff, Prod.exists, Prod.mk.injEq, members_skipBlanks] at read
      obtain ⟨found, _, read, rfl, rfl⟩ := read
      obtain ⟨body, written, rfl⟩ := sound.ofMembers read
      exact ⟨_, .object written, by simp [same]⟩
  case h_7 _ behind same =>
    simp only [Option.map_eq_some_iff, Prod.exists, Prod.mk.injEq] at read
    obtain ⟨literal, _, read, rfl, rfl⟩ := read
    obtain ⟨negative, used, written, rfl⟩ := unsignedNumber_sound read
    exact ⟨_, .number (.negative negative written), same⟩
  case h_8 =>
    simp only [Option.map_eq_some_iff, Prod.exists, Prod.mk.injEq] at read
    obtain ⟨literal, _, read, rfl, rfl⟩ := read
    obtain ⟨negative, used, written, same⟩ := unsignedNumber_sound read
    exact ⟨_, .number (.plain negative written), same⟩

theorem Sound.items_succ {fuel : Nat} (sound : Sound fuel) {text rest : List Char}
    {found : List Json} (read : items (fuel + 1) text = some (found, rest)) :
    ∃ body, Items found body ∧ text = body ++ ']' :: rest := by
  simp only [items, Option.bind_eq_bind, Option.bind_eq_some_iff, Prod.exists] at read
  obtain ⟨first, behind, readFirst, read⟩ := read
  obtain ⟨gap, body, blank, written, rfl⟩ := sound.ofValue readFirst
  obtain ⟨after, blankAfter, split⟩ := skipBlanks_split behind
  have padded := Padded.mk blank written blankAfter
  split at read
  · rename_i later same
    simp only [Option.bind_eq_some_iff, Prod.exists, Option.pure_def, Option.some.injEq,
      Prod.mk.injEq] at read
    obtain ⟨others, _, readLater, rfl, rfl⟩ := read
    obtain ⟨used, writtenLater, rfl⟩ := sound.ofItems readLater
    exact ⟨_, .more padded writtenLater, by rw [split, same]; simp⟩
  · rename_i later same
    cases read
    exact ⟨_, .last padded, by rw [split, same]; simp⟩
  · contradiction

theorem Sound.members_succ {fuel : Nat} (sound : Sound fuel) {text rest : List Char}
    {found : List (Option String × Json)} (read : members (fuel + 1) text = some (found, rest)) :
    ∃ body, Members found body ∧ text = body ++ '}' :: rest := by
  obtain ⟨front, blankFront, splitFront⟩ := skipBlanks_split text
  unfold members at read
  split at read
  · rename_i quote
    simp only [Option.bind_eq_bind, Option.bind_eq_some_iff, Prod.exists] at read
    obtain ⟨found, behind, readName, read⟩ := read
    obtain ⟨name, spelled, rfl⟩ := pieces_sound readName
    obtain ⟨gap, blank, splitGap⟩ := skipBlanks_split behind
    split at read
    · rename_i colon
      simp only [Option.bind_eq_some_iff, Prod.exists] at read
      obtain ⟨first, behind, readFirst, read⟩ := read
      obtain ⟨before, body, blankBefore, written, rfl⟩ := sound.ofValue readFirst
      obtain ⟨after, blankAfter, splitAfter⟩ := skipBlanks_split behind
      have member := Member.mk blankFront spelled ((contents_iff spelled _).mpr rfl) blank
        (.mk blankBefore written blankAfter)
      split at read
      · rename_i comma
        simp only [Option.bind_eq_some_iff, Prod.exists, Option.pure_def, Option.some.injEq,
          Prod.mk.injEq] at read
        obtain ⟨others, _, readLater, rfl, rfl⟩ := read
        obtain ⟨used, writtenLater, rfl⟩ := sound.ofMembers readLater
        exact ⟨_, .more member writtenLater, by
          rw [splitFront, quote, splitGap, colon, splitAfter, comma]; simp⟩
      · rename_i close
        cases read
        exact ⟨_, .last member, by
          rw [splitFront, quote, splitGap, colon, splitAfter, close]; simp⟩
      · contradiction
    · contradiction
  · contradiction

theorem sound (fuel : Nat) : Sound fuel := by
  induction fuel with
  | zero => exact ⟨nofun, nofun, nofun⟩
  | succ fuel ih => exact ⟨ih.value_succ, ih.items_succ, ih.members_succ⟩

/-! Completeness -/

/-- Readers with some fuel read everything the grammar describes that is shorter. -/
structure Complete (fuel : Nat) : Prop where
  ofValue : ∀ {gap body json rest}, Blank gap → Value json body → Ends rest →
    body.length < fuel → value fuel (gap ++ (body ++ rest)) = some (json, rest)
  ofItems : ∀ {found body}, Items found body → body.length + 1 < fuel → ∀ rest,
    items fuel (body ++ ']' :: rest) = some (found, rest)
  ofMembers : ∀ {found body}, Members found body → body.length + 1 < fuel → ∀ rest,
    members fuel (body ++ '}' :: rest) = some (found, rest)

theorem ends_cons {char : Char} (close : char ∈ [',', ']', '}']) (rest : List Char) :
    Ends (char :: rest) := by
  intro other held
  obtain rfl : char = other := by simpa using held
  simp only [List.mem_cons, List.not_mem_nil, or_false] at close ⊢
  tauto

theorem items_close (fuel : Nat) (rest : List Char) : items fuel (']' :: rest) = none := by
  match fuel with
  | 0 => rfl
  | 1 => rfl
  | _ + 2 => rfl

theorem members_close (fuel : Nat) (rest : List Char) : members fuel ('}' :: rest) = none := by
  cases fuel <;> rfl

theorem value_bracket (fuel : Nat) (text : List Char) :
    value (fuel + 1) ('[' :: text) = match skipBlanks text with
      | ']' :: rest => some (.array [], rest)
      | rest => (items fuel rest).map fun (found, rest) => (.array found, rest) := rfl

theorem value_brace (fuel : Nat) (text : List Char) :
    value (fuel + 1) ('{' :: text) = match skipBlanks text with
      | '}' :: rest => some (.object [], rest)
      | rest => (members fuel rest).map fun (found, rest) => (.object found, rest) := rfl

theorem value_array {fuel : Nat} {text rest : List Char} {found : List Json}
    (read : items fuel text = some (found, rest)) :
    value (fuel + 1) ('[' :: text) = some (.array found, rest) := by
  rw [value_bracket]
  split
  · rename_i closed
    rw [← items_skipBlanks, closed, items_close] at read
    contradiction
  · rw [items_skipBlanks, read, Option.map_some]

theorem value_object {fuel : Nat} {text rest : List Char}
    {found : List (Option String × Json)} (read : members fuel text = some (found, rest)) :
    value (fuel + 1) ('{' :: text) = some (.object found, rest) := by
  rw [value_brace]
  split
  · rename_i closed
    rw [← members_skipBlanks, closed, members_close] at read
    contradiction
  · rw [members_skipBlanks, read, Option.map_some]

theorem value_digit (fuel : Nat) {digit : Nat} (small : digit < 10) (text : List Char) :
    value (fuel + 1) (digit.digitChar :: text) =
      (unsignedNumber false (digit.digitChar :: text)).map
        fun (found, rest) => (.number found, rest) := by
  interval_cases digit <;> rfl

theorem value_number {fuel : Nat} {literal : NumberLiteral} {used rest : List Char}
    (written : Number literal used) (ends : Ends rest) :
    value (fuel + 1) (used ++ rest) = some (.number literal, rest) := by
  cases written with
  | plain positive unsigned =>
      have read := unsignedNumber_append unsigned ends
      obtain ⟨_, whole, _, _, digits, _, _, rfl⟩ := unsigned
      obtain ⟨digit, later, same⟩ := List.exists_cons_of_ne_nil digits.filled
      have small := digits.small digit (by simp [same])
      simp only [digits.spelled, same, List.map_cons, List.cons_append] at read ⊢
      rw [value_digit fuel small, ← positive, read, Option.map_some]
  | negative minus unsigned =>
      have read := unsignedNumber_append unsigned ends
      rw [minus] at read
      rw [List.cons_append, value.eq_def]
      simp only [skipBlanks_cons (show isBlank '-' = false from rfl), read, Option.map_some]

theorem Complete.value_succ {fuel : Nat} (complete : Complete fuel) {gap body rest : List Char}
    {json : Json} (blank : Blank gap) (written : Value json body) (ends : Ends rest)
    (short : body.length < fuel + 1) :
    value (fuel + 1) (gap ++ (body ++ rest)) = some (json, rest) := by
  rw [← value_skipBlanks, skipBlanks_append blank, value_skipBlanks]
  cases written with
  | null => rfl
  | true => rfl
  | false => rfl
  | number number => exact value_number number ends
  | string spelled contents =>
      obtain rfl := (contents_iff spelled _).mp contents
      unfold value
      rw [List.cons_append, skipBlanks_cons rfl]
      simp only [List.append_assoc, List.singleton_append, pieces_append spelled, Option.map_some]
  | emptyArray inner =>
      rw [List.cons_append, List.append_assoc, value_bracket, skipBlanks_append inner]
      rfl
  | array written =>
      simp only [List.length_cons, List.length_append, List.length_nil] at short
      rw [List.cons_append, List.append_assoc]
      exact value_array (complete.ofItems written (by omega) rest)
  | emptyObject inner =>
      rw [List.cons_append, List.append_assoc, value_brace, skipBlanks_append inner]
      rfl
  | object written =>
      simp only [List.length_cons, List.length_append, List.length_nil] at short
      rw [List.cons_append, List.append_assoc]
      exact value_object (complete.ofMembers written (by omega) rest)

theorem Complete.padded {fuel : Nat} (complete : Complete fuel) {json : Json} {body : List Char}
    (written : Padded json body) (short : body.length < fuel) {char : Char}
    (close : char ∈ [',', ']', '}']) (rest : List Char) :
    ∃ behind, value fuel (body ++ char :: rest) = some (json, behind) ∧
      skipBlanks behind = char :: rest := by
  obtain ⟨before, written, after⟩ := written
  simp only [List.length_append] at short
  have ends := Ends.blank_append after (ends_cons close rest)
  refine ⟨_, by simpa only [List.append_assoc] using
    complete.ofValue before written ends (by omega), ?_⟩
  rw [skipBlanks_append after]
  simp only [List.mem_cons, List.not_mem_nil, or_false] at close
  rcases close with rfl | rfl | rfl <;> rfl

theorem Complete.items_succ {fuel : Nat} (complete : Complete fuel) {found : List Json}
    {body : List Char} (written : Items found body) (short : body.length + 1 < fuel + 1)
    (rest : List Char) : items (fuel + 1) (body ++ ']' :: rest) = some (found, rest) := by
  cases written with
  | last padded =>
      obtain ⟨behind, read, close⟩ := complete.padded padded (by omega) (by simp : ']' ∈ _) rest
      simp only [items, read, close, Option.bind_eq_bind, Option.bind_some, Option.pure_def]
  | @more _ _ first second padded later =>
      simp only [List.length_append, List.length_cons] at short
      obtain ⟨behind, read, comma⟩ :=
        complete.padded padded (by omega) (by simp : ',' ∈ _) (second ++ ']' :: rest)
      rw [List.append_assoc, List.cons_append]
      simp only [items, read, comma, Option.bind_eq_bind, Option.bind_some, Option.pure_def,
        complete.ofItems later (by omega)]

theorem Complete.member {fuel : Nat} (complete : Complete fuel) {member : Option String × Json}
    {body : List Char} (written : Member member body) (short : body.length < fuel) {char : Char}
    (close : char ∈ [',', ']', '}']) (rest : List Char) :
    members (fuel + 1) (body ++ char :: rest) = match char :: rest with
      | ',' :: rest => (members fuel rest).map fun (later, rest) => (member :: later, rest)
      | '}' :: rest => some ([member], rest)
      | _ => none := by
  obtain ⟨before, spelled, contents, gap, padded⟩ := written
  obtain rfl := (contents_iff spelled _).mp contents
  simp only [List.length_append, List.length_cons] at short
  obtain ⟨behind, read, ends⟩ := complete.padded padded (by omega) close rest
  simp only [List.append_assoc, List.cons_append, members, skipBlanks_append before,
    skipBlanks_cons (show isBlank '"' = false from rfl), pieces_append spelled,
    skipBlanks_append gap, skipBlanks_cons (show isBlank ':' = false from rfl), read, ends,
    Option.bind_eq_bind, Option.bind_some, Option.pure_def]
  simp only [List.mem_cons, List.not_mem_nil, or_false] at close
  rcases close with rfl | rfl | rfl
  · simp only [Option.map_eq_bind, Function.comp_def]
  · rfl
  · rfl

theorem Complete.members_succ {fuel : Nat} (complete : Complete fuel)
    {found : List (Option String × Json)} {body : List Char} (written : Members found body)
    (short : body.length + 1 < fuel + 1) (rest : List Char) :
    members (fuel + 1) (body ++ '}' :: rest) = some (found, rest) := by
  cases written with
  | last member => exact complete.member member (by omega) (by simp) rest
  | more member later =>
      simp only [List.length_append, List.length_cons] at short
      rw [List.append_assoc, List.cons_append, complete.member member (by omega) (by simp)]
      simp only [complete.ofMembers later (by omega), Option.map_some]

theorem complete (fuel : Nat) : Complete fuel := by
  -- The brackets of a list pay for the fuel that its own reader and that of its items take.
  induction fuel with
  | zero => exact ⟨nofun, nofun, nofun⟩
  | succ fuel ih => exact ⟨ih.value_succ, ih.items_succ, ih.members_succ⟩

theorem parse?_eq_some {text : String} {json : Json} :
    parse? text = some json ↔ Stands text json := by
  unfold parse?
  constructor
  · intro read
    split at read
    · rename_i found rest known
      split_ifs at read with blank
      cases read
      obtain ⟨gap, body, front, written, same⟩ := (sound _).ofValue known
      unfold Stands
      rw [same]
      exact .mk front written (skipBlanks_eq_nil.mp blank)
    · contradiction
  · unfold Stands
    rw [← String.length_toList]
    generalize text.toList = chars
    rintro ⟨before, written, after⟩
    have ends := Ends.blank_append after Ends.nil
    rw [List.append_nil] at ends
    rw [(complete _).ofValue before written ends (by simp only [List.length_append]; omega)]
    exact if_pos (skipBlanks_eq_nil.mpr after)

end Raster.Backend.Json
