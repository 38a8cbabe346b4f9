import Mathlib.Data.Nat.Digits.Defs
import Raster.Text.Json

/-!
JSON texts as the grammar describes them: which characters stand for a value, and which values a
text may stand for. Nothing here refers to how a text is read.
-/

namespace Raster.Text.Grammar

def Blank (text : List Char) : Prop := ∀ char ∈ text, char ∈ [' ', '\t', '\n', '\r']

/-! Numbers -/

structure Digits (digits : List Nat) (text : List Char) : Prop where
  filled : digits ≠ []
  small : ∀ digit ∈ digits, digit < 10
  spelled : text = digits.map Nat.digitChar

inductive Fraction : List Nat → List Char → Prop
  | absent : Fraction [] []
  | present {digits text} : Digits digits text → Fraction digits ('.' :: text)

inductive Sign : Bool → List Char → Prop
  | absent : Sign false []
  | plus : Sign false ['+']
  | minus : Sign true ['-']

inductive Exponent : Option (Bool × List Nat) → List Char → Prop
  | absent : Exponent none []
  | present {mark negative sign digits text} : mark ∈ ['e', 'E'] → Sign negative sign →
      Digits digits text → Exponent (some (negative, digits)) (mark :: (sign ++ text))

/-- A number behind its sign; more than one digit do not begin with a zero. -/
structure Unsigned (literal : NumberLiteral) (text : List Char) : Prop where
  noLeadingZero : literal.whole.head? = some 0 → literal.whole = [0]
  spelled : ∃ whole fraction exponent, Digits literal.whole whole ∧
    Fraction literal.fraction fraction ∧ Exponent literal.exponent exponent ∧
    text = whole ++ (fraction ++ exponent)

inductive Number : NumberLiteral → List Char → Prop
  | plain {literal text} : literal.negative = false → Unsigned literal text → Number literal text
  | negative {literal text} : literal.negative = true → Unsigned literal text →
      Number literal ('-' :: text)

/-! Strings -/

def HexDigit (char : Char) (digit : Nat) : Prop :=
  digit < 16 ∧ (char = Nat.digitChar digit ∨ char = (Nat.digitChar digit).toUpper)

def shortEscapes : List (Char × Char) := [
  ('"', '"'), ('\\', '\\'), ('/', '/'), ('b', '\x08'), ('f', '\x0c'), ('n', '\n'), ('r', '\r'),
  ('t', '\t')]

inductive Piece : Json.Piece → List Char → Prop
  | plain {char : Char} : char ≠ '"' → char ≠ '\\' → 32 ≤ char.toNat → Piece (.char char) [char]
  | short {mark char : Char} : (mark, char) ∈ shortEscapes → Piece (.char char) ['\\', mark]
  | unit {char₁ char₂ char₃ char₄ digit₁ digit₂ digit₃ digit₄} : HexDigit char₁ digit₁ →
      HexDigit char₂ digit₂ → HexDigit char₃ digit₃ → HexDigit char₄ digit₄ →
      Piece (.unit (((digit₁ * 16 + digit₂) * 16 + digit₃) * 16 + digit₄))
        ['\\', 'u', char₁, char₂, char₃, char₄]

inductive Pieces : List Json.Piece → List Char → Prop
  | none : Pieces [] []
  | more {piece later first rest} : Piece piece first → Pieces later rest →
      Pieces (piece :: later) (first ++ rest)

/-- Code units of 16 bits; characters that do not fit into one take two. -/
def utf16 (char : Char) : List Nat :=
  if char.toNat < 0x10000 then [char.toNat]
  else [0xd800 + (char.toNat - 0x10000) / 0x400, 0xdc00 + (char.toNat - 0x10000) % 0x400]

def units : Json.Piece → List Nat
  | .char value => utf16 value
  | .unit code => [code]

/-- The text whose code units are those of the pieces; there is none for half a pair. -/
inductive Contents (pieces : List Json.Piece) : Option String → Prop
  | some {text : String} : pieces.flatMap units = text.toList.flatMap utf16 →
      Contents pieces (some text)
  | none : (∀ text : String, pieces.flatMap units ≠ text.toList.flatMap utf16) →
      Contents pieces none

/-! Values -/

mutual

inductive Value : Json → List Char → Prop
  | null : Value .null ['n', 'u', 'l', 'l']
  | true : Value (.bool true) ['t', 'r', 'u', 'e']
  | false : Value (.bool false) ['f', 'a', 'l', 's', 'e']
  | number {literal text} : Number literal text → Value (.number literal) text
  | string {pieces contents text} : Pieces pieces text → Contents pieces contents →
      Value (.string contents) ('"' :: (text ++ ['"']))
  | emptyArray {gap} : Blank gap → Value (.array []) ('[' :: (gap ++ [']']))
  | array {items text} : Items items text → Value (.array items) ('[' :: (text ++ [']']))
  | emptyObject {gap} : Blank gap → Value (.object []) ('{' :: (gap ++ ['}']))
  | object {members text} : Members members text →
      Value (.object members) ('{' :: (text ++ ['}']))

inductive Padded : Json → List Char → Prop
  | mk {json before text after} : Blank before → Value json text → Blank after →
      Padded json (before ++ (text ++ after))

inductive Items : List Json → List Char → Prop
  | last {item text} : Padded item text → Items [item] text
  | more {item later first rest} : Padded item first → Items later rest →
      Items (item :: later) (first ++ ',' :: rest)

inductive Member : Option String × Json → List Char → Prop
  | mk {pieces key json before name gap text} : Blank before → Pieces pieces name →
      Contents pieces key → Blank gap → Padded json text →
      Member (key, json) (before ++ '"' :: (name ++ '"' :: (gap ++ ':' :: text)))

inductive Members : List (Option String × Json) → List Char → Prop
  | last {member text} : Member member text → Members [member] text
  | more {member later first rest} : Member member first → Members later rest →
      Members (member :: later) (first ++ ',' :: rest)

end

def Stands (text : String) (json : Json) : Prop := Padded json text.toList

/-! Formats -/

/-- Values within the limits of common readers: whole numbers of 64 bits, strings of characters, and
lists in one another up to a depth. -/
inductive Plain : Nat → Json → Prop
  | null {depth} : Plain depth .null
  | bool {depth value} : Plain depth (.bool value)
  | number {depth digits} : Nat.ofDigits 10 digits.reverse < 2 ^ 64 →
      Plain depth (.number ⟨false, digits, [], none⟩)
  | string {depth text} : Plain depth (.string (some text))
  | array {depth items} : (∀ item ∈ items, Plain depth item) → Plain (depth + 1) (.array items)
  | object {depth members} : (∀ member ∈ members, member.1 ≠ none) →
      (∀ member ∈ members, Plain depth member.2) → Plain (depth + 1) (.object members)

/-- A format of JSON texts: no other text is read, plain values are, and what is written for one
that can be written stands for it. -/
structure Strict (format : Format) : Prop where
  sound : ∀ {text json}, format.read text = some json → Stands text json
  complete : ∀ {text json}, Stands text json → Plain 127 json → format.read text = some json
  written : ∀ {text json}, Stands text json → Plain 127 json → Stands (format.write json) json

end Raster.Text.Grammar
