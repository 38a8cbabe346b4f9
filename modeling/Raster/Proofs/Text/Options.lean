import Raster.Proofs.Text.Writing
import Raster.Text.Codec

/-!
Options texts. Limits are taken from exactly the texts that stand for an object or an array that
asks for them; any other text fails, and the text written for limits gives them back.
-/

namespace Raster.Limits

open Text Text.Grammar

/-- A number written with digits alone: a sign, even before zero, a point or an exponent make
another one. -/
def Integer (json : Json) (number : Nat) : Prop :=
  ∃ digits, json = .number ⟨false, digits, [], none⟩ ∧ Nat.ofDigits 10 digits.reverse = number

/-- Limits that values ask for: one at most, and without one the standard. -/
structure Granted (values : List Json) (limits : Limits) : Prop where
  once : values.length ≤ 1
  written : ∀ value ∈ values, Integer value limits.maxDecodeBytes.toNat
  absent : values = [] → limits.maxDecodeBytes = 134217728

inductive Asks : Json → Limits → Prop
  | object {members limits} : (∀ member ∈ members, member.1 = some "max_decode_bytes") →
      Granted (members.map Prod.snd) limits → Asks (.object members) limits
  | array {items limits} : Granted items limits → Asks (.array items) limits

/-- What a text grants is said by the value that it stands for. -/
def Grants (text : String) (limits : Limits) : Prop := ∃ json, Stands text json ∧ Asks json limits

/-! Values -/

theorem numberOf_eq (digits : List Nat) :
    NumberLiteral.numberOf digits = Nat.ofDigits 10 digits.reverse := by
  rw [NumberLiteral.numberOf, Nat.ofDigits_eq_foldr, List.foldr_reverse]
  congr 1
  funext sum digit
  simp only [Nat.cast_id]
  ring

theorem natBelow?_eq_some {bound number : Nat} {json : Json} :
    natBelow? bound json = some number ↔ Integer json number ∧ number < bound := by
  unfold Integer natBelow?
  cases json with
  | number literal =>
      obtain ⟨negative, whole, fraction, exponent⟩ := literal
      simp only [NumberLiteral.toNatBelow?, NumberLiteral.isWhole, numberOf_eq,
        Option.ite_none_right_eq_some, Option.some.injEq, Json.number.injEq,
        NumberLiteral.mk.injEq, Bool.and_eq_true, List.isEmpty_iff, Option.isNone_iff_eq_none]
      constructor
      · rintro ⟨⟨⟨rfl, rfl⟩, rfl, below⟩, rfl⟩
        exact ⟨⟨whole, ⟨rfl, rfl, rfl, rfl⟩, rfl⟩, below⟩
      · rintro ⟨⟨_, ⟨rfl, rfl, rfl, rfl⟩, rfl⟩, below⟩
        exact ⟨⟨⟨rfl, rfl⟩, rfl, below⟩, rfl⟩
  | _ => simp

theorem ofValue?_eq_some {json : Json} {limits : Limits} :
    ofValue? json = some limits ↔ Integer json limits.maxDecodeBytes.toNat := by
  simp only [ofValue?, Option.map_eq_some_iff, natBelow?_eq_some]
  constructor
  · rintro ⟨number, ⟨integer, below⟩, rfl⟩
    rwa [UInt64.toNat_ofNat_of_lt' below]
  · intro integer
    exact ⟨_, ⟨integer, limits.maxDecodeBytes.toNat_lt⟩, by rw [UInt64.ofNat_toNat]⟩

theorem granted_nil {limits : Limits} : Granted [] limits ↔ limits = standard := by
  constructor
  · rintro ⟨-, -, absent⟩
    exact congrArg Limits.mk (absent rfl)
  · rintro rfl
    exact ⟨by simp, by simp, fun _ => rfl⟩

theorem granted_singleton {value : Json} {limits : Limits} :
    Granted [value] limits ↔ Integer value limits.maxDecodeBytes.toNat :=
  ⟨fun granted => granted.written value (by simp), fun integer => ⟨by simp, by simpa, by simp⟩⟩

theorem not_granted_of_many {first second : Json} {others : List Json} {limits : Limits} :
    ¬ Granted (first :: second :: others) limits := by
  intro granted
  simpa using granted.once

theorem ofItems?_eq_some {items : List Json} {limits : Limits} :
    ofJson? (.array items) = some limits ↔ Granted items limits := by
  match items with
  | [] => rw [granted_nil, ofJson?, Option.some.injEq, eq_comm]
  | [value] => rw [granted_singleton, ← ofValue?_eq_some]; rfl
  | _ :: _ :: _ => exact iff_of_false nofun not_granted_of_many

theorem ofMembers?_eq_some {members : List (Option String × Json)} {limits : Limits} :
    ofJson? (.object members) = some limits ↔
      (∀ member ∈ members, member.1 = some "max_decode_bytes") ∧
        Granted (members.map Prod.snd) limits := by
  match members with
  | [] =>
      rw [List.map_nil, granted_nil, ofJson?, Option.some.injEq, eq_comm]
      simp
  | [(none, value)] => simp [ofJson?]
  | [(some name, value)] =>
      rw [List.map_singleton, granted_singleton, ← ofValue?_eq_some, ofJson?,
        Option.ite_none_right_eq_some]
      simp [key]
  | (none, _) :: _ :: _ => simp [ofJson?]
  | (some _, _) :: _ :: _ => exact iff_of_false nofun fun asked => not_granted_of_many asked.2

theorem ofJson?_eq_some {json : Json} {limits : Limits} :
    ofJson? json = some limits ↔ Asks json limits := by
  cases json with
  | array items =>
      exact ofItems?_eq_some.trans ⟨.array, fun | .array granted => granted⟩
  | object members =>
      exact ofMembers?_eq_some.trans ⟨fun asked => .object asked.1 asked.2,
        fun | .object known granted => ⟨known, granted⟩⟩
  | _ => exact iff_of_false nofun nofun

theorem Integer.plain {json : Json} {limits : Limits} (depth : Nat)
    (integer : Integer json limits.maxDecodeBytes.toNat) : Plain depth json := by
  obtain ⟨digits, rfl, same⟩ := integer
  exact .number (same ▸ limits.maxDecodeBytes.toNat_lt)

theorem Granted.plain {values : List Json} {limits : Limits} (granted : Granted values limits)
    (depth : Nat) : ∀ value ∈ values, Plain depth value :=
  fun value held => (granted.written value held).plain depth

theorem Asks.plain {json : Json} {limits : Limits} (asks : Asks json limits) (depth : Nat) :
    Plain (depth + 1) json := by
  cases asks with
  | object named granted =>
      refine .object (fun member held => ?_) fun member held => ?_
      · simp [named member held]
      · exact granted.plain depth member.2 (List.mem_map_of_mem held)
  | array granted => exact .array (granted.plain depth)

theorem ofText_eq_ok {format : Format} (strict : Strict format) {text : String}
    {limits : Limits} : ofText format text = .ok limits ↔ Grants text limits := by
  have taken : ofText format text = .ok limits ↔
      ∃ json, format.read text = some json ∧ ofJson? json = some limits := by
    unfold ofText Format.readAs?
    cases format.read text with
    | none => simp
    | some json => cases same : ofJson? json <;> simp [same]
  rw [taken]
  constructor
  · rintro ⟨json, read, asked⟩
    exact ⟨json, strict.sound read, ofJson?_eq_some.mp asked⟩
  · rintro ⟨json, stands, asks⟩
    exact ⟨json, strict.complete stands (asks.plain 126), ofJson?_eq_some.mpr asks⟩

/-! Written limits -/

theorem exists_digits (number : Nat) : ∃ digits, Digits digits (Nat.toDigits 10 number) ∧
    (digits.head? = some 0 → digits = [0]) ∧ Nat.ofDigits 10 digits.reverse = number := by
  induction number using Nat.strongRecOn with
  | ind number ih =>
      by_cases small : number < 10
      · refine ⟨[number], ⟨by simp, by simpa, ?_⟩, by simp, by simp⟩
        rw [Nat.toDigits_of_lt_base small, List.map_singleton]
      · obtain ⟨digits, written, lead, same⟩ := ih (number / 10) (by omega)
        obtain ⟨first, others, rfl⟩ := List.exists_cons_of_ne_nil written.filled
        refine ⟨first :: others ++ [number % 10], ⟨by simp, ?_, ?_⟩, ?_, ?_⟩
        · simp only [List.forall_mem_append, List.forall_mem_singleton]
          exact ⟨written.small, Nat.mod_lt _ (by decide)⟩
        · rw [Nat.toDigits_of_base_le (by decide) (by omega), written.spelled]
          simp
        · intro zero
          have alone := lead (by simpa using zero)
          rw [alone, List.reverse_singleton, Nat.ofDigits_singleton] at same
          omega
        · rw [List.reverse_append, List.reverse_singleton, List.singleton_append,
            Nat.ofDigits_cons, same]
          exact Nat.mod_add_div number 10

theorem digits_values {digits : List Nat} {text : List Char} (written : Digits digits text) :
    (text.map fun char => char.toNat - 48) = digits := by
  rw [written.spelled, List.map_map]
  refine (List.map_congr_left fun digit held => ?_).trans (List.map_id digits)
  have value := Nat.toNat_digitChar_of_lt_ten (written.small digit held)
  simp [value]

theorem ofNat_eq {number : Nat} {digits : List Nat}
    (written : Digits digits (Nat.toDigits 10 number)) :
    NumberLiteral.ofNat number = ⟨false, digits, [], none⟩ := by
  rw [NumberLiteral.ofNat, digits_values written]

theorem integer_ofNat (number : Nat) : Integer (.number (.ofNat number)) number := by
  obtain ⟨digits, written, -, same⟩ := exists_digits number
  exact ⟨digits, by rw [ofNat_eq written], same⟩

theorem number_ofNat (number : Nat) : Number (.ofNat number) (Nat.toDigits 10 number) := by
  obtain ⟨digits, written, lead, -⟩ := exists_digits number
  rw [ofNat_eq written]
  exact .plain rfl ⟨lead, _, _, _, written, .absent, .absent, by simp⟩

theorem toJson_asks (limits : Limits) : Asks limits.toJson limits :=
  .object (by simp [key]) (granted_singleton.mpr (integer_ofNat _))

theorem toJson_stands (limits : Limits) : ∃ text, Stands text limits.toJson := by
  obtain ⟨pieces, spelled, contents⟩ := Backend.Json.string_spelled key
  have blank := Backend.Json.blank_nil
  have number := Padded.mk blank (.number (number_ofNat limits.maxDecodeBytes.toNat)) blank
  have member := Member.mk blank spelled contents blank number
  have padded := Padded.mk blank (.object (.last member)) blank
  exact ⟨String.ofList _, by rwa [Stands, String.toList_ofList]⟩

theorem ofText_toText {format : Format} (strict : Strict format) (limits : Limits) :
    ofText format (limits.toText format) = .ok limits := by
  obtain ⟨text, stands⟩ := toJson_stands limits
  have asks := toJson_asks limits
  exact (ofText_eq_ok strict).mpr ⟨_, strict.written stands (asks.plain 126), asks⟩

/-- Limits come back from their own text, and for all texts limits are granted exactly where the
text asks for them; any other text is refused as no options text. -/
theorem ofText_exact {format : Format} (strict : Strict format) :
    (∀ limits : Limits, ofText format (limits.toText format) = .ok limits) ∧
      ∀ text,
        (∀ limits, ofText format text = .ok limits ↔ Grants text limits) ∧
        (ofText format text = .error (.refused (.during .optionsText)) ↔
          ∀ limits, ¬ Grants text limits) := by
  refine ⟨ofText_toText strict, fun text => ⟨fun limits => ofText_eq_ok strict, ?_⟩⟩
  simp only [← ofText_eq_ok strict]
  unfold ofText
  split <;> simp

theorem ofText_exact_samples : Strict Backend.Json.format ∧
    (toText Backend.Json.format ⟨4096⟩ = "\x7b\"max_decode_bytes\":4096\x7d" ∧
      ofText Backend.Json.format (toText Backend.Json.format ⟨4096⟩) = .ok ⟨4096⟩) ∧
    Grants " \x7b\"max_decode_by\\u0074es\" : 18446744073709551615\n\x7d"
      ⟨18446744073709551615⟩ ∧
    ∀ limits, ¬ Grants "[-0]" limits := by
  obtain ⟨back, exact⟩ := ofText_exact Backend.Json.format_strict
  have read : Backend.Json.format.readAs? ofJson?
      " \x7b\"max_decode_by\\u0074es\" : 18446744073709551615\n\x7d" =
        some ⟨18446744073709551615⟩ := by decide +kernel
  have signed : ofText Backend.Json.format "[-0]" = .error (.refused (.during .optionsText)) := by
    decide +kernel
  refine ⟨Backend.Json.format_strict, ⟨by decide +kernel, back ⟨4096⟩⟩, ((exact _).1 _).mp ?_,
    (exact _).2.mp signed⟩
  rw [ofText, read]

-- Not granted: numbers of more than 64 bits or with a point, more than a value, and a key that
-- stands twice or is another.
example : ∀ text ∈ ["[18446744073709551616]", "[1.0]", "[1] 2",
    "\x7b\"max_decode_bytes\":1,\"max_decode_bytes\":1\x7d", "\x7b\"max_bytes\":1\x7d"],
    (ofText Backend.Json.format text).toOption = none := by
  decide +kernel

end Raster.Limits
