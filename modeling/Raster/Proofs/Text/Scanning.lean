import Mathlib.Data.List.TakeWhile
import Mathlib.Tactic.IntervalCases
import Raster.Backend.Json
import Raster.Proofs.Text.Grammar

/-!
Space and numbers are read as the grammar describes them. What is read is followed by the text that
is left, so soundness splits a text and completeness puts one together.
-/

namespace Raster.Backend.Json

open Text Text.Grammar

/-! Space -/

theorem isBlank_iff (char : Char) : isBlank char = true ↔ char ∈ [' ', '\t', '\n', '\r'] := by
  simp only [isBlank, Bool.or_eq_true, beq_iff_eq, List.mem_cons, List.not_mem_nil, or_false]
  grind

theorem blank_iff {gap : List Char} : Blank gap ↔ ∀ char ∈ gap, isBlank char = true := by
  simp only [Blank, isBlank_iff]

theorem blank_takeWhile (text : List Char) : Blank (text.takeWhile isBlank) :=
  blank_iff.mpr fun _ held => List.mem_takeWhile_imp held

theorem skipBlanks_split (text : List Char) :
    ∃ gap, Blank gap ∧ text = gap ++ skipBlanks text :=
  ⟨_, blank_takeWhile text, List.takeWhile_append_dropWhile.symm⟩

theorem skipBlanks_append {gap : List Char} (blank : Blank gap) (rest : List Char) :
    skipBlanks (gap ++ rest) = skipBlanks rest :=
  List.dropWhile_append_of_pos (blank_iff.mp blank)

@[simp]
theorem skipBlanks_idem (text : List Char) : skipBlanks (skipBlanks text) = skipBlanks text := by
  obtain ⟨gap, blank, same⟩ := skipBlanks_split text
  rw [← skipBlanks_append blank, ← same]

theorem skipBlanks_eq_nil {text : List Char} : skipBlanks text = [] ↔ Blank text := by
  rw [skipBlanks, List.dropWhile_eq_nil_iff, blank_iff]

theorem skipBlanks_cons {char : Char} (dark : isBlank char = false) (rest : List Char) :
    skipBlanks (char :: rest) = char :: rest :=
  List.dropWhile_cons_of_neg (by simp [dark])

/-! Numbers -/

/-- What may stand behind a value: nothing, space, or what goes on with a list or ends it. -/
def Ends (rest : List Char) : Prop :=
  ∀ char ∈ rest.head?, char ∈ [' ', '\t', '\n', '\r', ',', ']', '}']

theorem Ends.blank_append {gap rest : List Char} (blank : Blank gap) (ends : Ends rest) :
    Ends (gap ++ rest) := by
  cases gap with
  | nil => exact ends
  | cons char later =>
      intro other held
      obtain rfl : char = other := by simpa using held
      have := blank char List.mem_cons_self
      simp only [List.mem_cons, List.not_mem_nil, or_false] at this ⊢
      tauto

theorem Ends.nil : Ends [] := by
  simp [Ends]

theorem exists_code {low high char : Char} (range : low ≤ char ∧ char ≤ high) :
    ∃ code, low.toNat ≤ code ∧ code ≤ high.toNat ∧ Char.ofNat code = char :=
  ⟨char.toNat, range.1, range.2, Char.ofNat_toNat char⟩

theorem digit?_eq_some {char : Char} {digit : Nat} :
    digit? char = some digit ↔ digit < 10 ∧ char = Nat.digitChar digit := by
  constructor
  · intro found
    simp only [digit?, Option.ite_none_right_eq_some, Option.some.injEq] at found
    obtain ⟨range, rfl⟩ := found
    obtain ⟨code, least, most, rfl⟩ := exists_code range
    simp only [Char.reduceToNat] at least most
    interval_cases code <;> decide
  · rintro ⟨small, rfl⟩
    interval_cases digit <;> rfl

theorem digits_sound (text : List Char) :
    (∀ digit ∈ (digits text).1, digit < 10) ∧
      text = (digits text).1.map Nat.digitChar ++ (digits text).2 := by
  induction text with
  | nil => simp [digits]
  | cons char rest ih =>
      cases found : digit? char with
      | none => simp [digits, found]
      | some digit =>
          obtain ⟨small, spelled⟩ := digit?_eq_some.mp found
          simp only [digits, found, List.forall_mem_cons, List.map_cons, List.cons_append]
          exact ⟨⟨small, ih.1⟩, by rw [← ih.2, spelled]⟩

theorem digits_append {ns : List Nat} {rest : List Char} (small : ∀ digit ∈ ns, digit < 10)
    (stops : ∀ char ∈ rest.head?, digit? char = none) :
    digits (ns.map Nat.digitChar ++ rest) = (ns, rest) := by
  induction ns with
  | nil =>
      cases rest with
      | nil => rfl
      | cons char later => simp [digits, stops char (by simp)]
  | cons digit later ih =>
      obtain ⟨first, small⟩ := List.forall_mem_cons.mp small
      simp [digits, digit?_eq_some.mpr ⟨first, rfl⟩, ih small]

theorem someDigits_sound {text rest : List Char} {ns : List Nat}
    (read : someDigits text = some (ns, rest)) :
    ∃ used, Digits ns used ∧ text = used ++ rest := by
  unfold someDigits at read
  split at read
  · contradiction
  · rename_i nonempty
    obtain ⟨small, spelled⟩ := digits_sound text
    rw [Option.some.inj read] at small spelled nonempty
    refine ⟨_, ⟨?_, small, rfl⟩, spelled⟩
    rintro rfl
    exact nonempty rest rfl

theorem someDigits_append {ns : List Nat} {used rest : List Char} (written : Digits ns used)
    (stops : ∀ char ∈ rest.head?, digit? char = none) :
    someDigits (used ++ rest) = some (ns, rest) := by
  rw [written.spelled]
  cases ns with
  | nil => exact absurd rfl written.filled
  | cons digit later => simp only [someDigits, digits_append written.small stops]

theorem fraction_sound {text rest : List Char} {ns : List Nat}
    (read : fraction text = some (ns, rest)) : ∃ used, Fraction ns used ∧ text = used ++ rest := by
  unfold fraction at read
  split at read
  · obtain ⟨used, written, rfl⟩ := someDigits_sound read
    exact ⟨_, .present written, rfl⟩
  · cases read
    exact ⟨[], .absent, rfl⟩

theorem fraction_append {ns : List Nat} {used rest : List Char} (written : Fraction ns used)
    (stops : ∀ char ∈ rest.head?, digit? char = none ∧ char ≠ '.') :
    fraction (used ++ rest) = some (ns, rest) := by
  cases written with
  | absent =>
      rw [List.nil_append]
      unfold fraction
      split
      · exact absurd rfl (stops '.' rfl).2
      · rfl
  | present written => exact someDigits_append written fun char held => (stops char held).1

theorem exponentSign_sound (text : List Char) :
    ∃ used, Sign (exponentSign text).1 used ∧ text = used ++ (exponentSign text).2 := by
  unfold exponentSign
  split
  · exact ⟨_, .minus, rfl⟩
  · exact ⟨_, .plus, rfl⟩
  · exact ⟨_, .absent, rfl⟩

theorem exponentSign_append {negative : Bool} {used : List Char} (written : Sign negative used)
    {ns : List Nat} {behind : List Char} (digits : Digits ns behind) (rest : List Char) :
    exponentSign (used ++ (behind ++ rest)) = (negative, behind ++ rest) := by
  cases written with
  | plus => rfl
  | minus => rfl
  | absent =>
      obtain ⟨digit, later, rfl⟩ := List.exists_cons_of_ne_nil digits.filled
      have small := digits.small digit List.mem_cons_self
      rw [digits.spelled]
      interval_cases digit <;> rfl

theorem exponent_sound {text rest : List Char} {found : Option (Bool × List Nat)}
    (read : exponent text = some (found, rest)) :
    ∃ used, Exponent found used ∧ text = used ++ rest := by
  unfold exponent at read
  split at read
  · rename_i mark later
    split at read
    · rename_i marked
      obtain ⟨sign, signed, split⟩ := exponentSign_sound later
      simp only [Option.map_eq_some_iff, Prod.exists, Prod.mk.injEq] at read
      obtain ⟨ns, _, read, rfl, rfl⟩ := read
      obtain ⟨used, written, spelled⟩ := someDigits_sound read
      refine ⟨_, .present (by simpa using marked) signed written, ?_⟩
      rw [split, spelled, List.cons_append, List.append_assoc]
    · cases read
      exact ⟨[], .absent, rfl⟩
  · cases read
    exact ⟨[], .absent, rfl⟩

theorem exponent_append {found : Option (Bool × List Nat)} {used rest : List Char}
    (written : Exponent found used)
    (stops : ∀ char ∈ rest.head?, digit? char = none ∧ char ≠ 'e' ∧ char ≠ 'E') :
    exponent (used ++ rest) = some (found, rest) := by
  cases written with
  | absent =>
      cases rest with
      | nil => rfl
      | cons char later =>
          obtain ⟨-, small, large⟩ := stops char rfl
          simp [exponent, small, large]
  | present marked signed written =>
      rw [List.cons_append, List.append_assoc, exponent, if_pos (by simpa using marked),
        exponentSign_append signed written]
      simp only [someDigits_append written fun char held => (stops char held).1, Option.map_some]

theorem digit?_of_ends {rest : List Char} (ends : Ends rest) :
    ∀ char ∈ rest.head?, digit? char = none ∧ char ≠ '.' ∧ char ≠ 'e' ∧ char ≠ 'E' := by
  intro char held
  have close := ends char held
  simp only [List.mem_cons, List.not_mem_nil, or_false] at close
  rcases close with rfl | rfl | rfl | rfl | rfl | rfl | rfl <;> decide

theorem digit?_of_exponent {found : Option (Bool × List Nat)} {used rest : List Char}
    (written : Exponent found used) (ends : Ends rest) :
    ∀ char ∈ (used ++ rest).head?, digit? char = none ∧ char ≠ '.' := by
  cases written with
  | absent => exact fun char held => ⟨(digit?_of_ends ends char held).1,
      (digit?_of_ends ends char held).2.1⟩
  | present marked signed written =>
      simp only [List.mem_cons, List.not_mem_nil, or_false] at marked
      rcases marked with rfl | rfl <;> simp +decide

theorem digit?_of_fraction {ns : List Nat} {used rest : List Char} (written : Fraction ns used)
    (stops : ∀ char ∈ rest.head?, digit? char = none ∧ char ≠ '.') :
    ∀ char ∈ (used ++ rest).head?, digit? char = none := by
  cases written with
  | absent => exact fun char held => (stops char held).1
  | present written => simp +decide

theorem unsignedNumber_sound {negative : Bool} {text rest : List Char} {literal : NumberLiteral}
    (read : unsignedNumber negative text = some (literal, rest)) :
    literal.negative = negative ∧ ∃ used, Unsigned literal used ∧ text = used ++ rest := by
  simp only [unsignedNumber, Option.bind_eq_bind, Option.pure_def, Option.bind_eq_some_iff,
    Prod.exists, Option.some.injEq, Prod.mk.injEq] at read
  obtain ⟨whole, _, readWhole, _, lead, ns, _, readFraction, power, _, readExponent, rfl, rfl⟩ :=
    read
  obtain ⟨used, wholeWritten, rfl⟩ := someDigits_sound readWhole
  obtain ⟨point, fractionWritten, rfl⟩ := fraction_sound readFraction
  obtain ⟨mark, exponentWritten, rfl⟩ := exponent_sound readExponent
  refine ⟨rfl, used ++ (point ++ mark), ⟨?_, _, _, _, wholeWritten, fractionWritten,
    exponentWritten, rfl⟩, by simp only [List.append_assoc]⟩
  intro zero
  have alone : whole.length = 1 := by simpa [guard, zero] using lead
  obtain ⟨digit, rfl⟩ := List.length_eq_one_iff.mp alone
  simpa using zero

theorem unsignedNumber_append {literal : NumberLiteral} {used rest : List Char}
    (written : Unsigned literal used) (ends : Ends rest) :
    unsignedNumber literal.negative (used ++ rest) = some (literal, rest) := by
  obtain ⟨single, whole, point, mark, wholeWritten, fractionWritten, exponentWritten, rfl⟩ :=
    written
  have behindPoint := digit?_of_exponent exponentWritten ends
  have behindWhole := digit?_of_fraction fractionWritten behindPoint
  have lead : literal.whole.head? ≠ some 0 ∨ literal.whole.length = 1 := by
    by_cases zero : literal.whole.head? = some 0
    · exact .inr (by rw [single zero, List.length_singleton])
    · exact .inl zero
  simp only [List.append_assoc, unsignedNumber, someDigits_append wholeWritten behindWhole,
    fraction_append fractionWritten behindPoint,
    exponent_append exponentWritten fun char held =>
      ⟨(digit?_of_ends ends char held).1, (digit?_of_ends ends char held).2.2⟩,
    Option.bind_eq_bind, Option.bind_some, guard, if_pos lead, Option.pure_def]

end Raster.Backend.Json
