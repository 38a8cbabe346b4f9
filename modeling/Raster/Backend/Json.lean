import Raster.Text.Json

/-!
Reading and writing of JSON texts, to run the library with.
-/

namespace Raster.Backend.Json

open Raster.Text
open Raster.Text.Json (Piece)

def isBlank (char : Char) : Bool :=
  char == ' ' || char == '\t' || char == '\r' || char == '\n'

def skipBlanks (text : List Char) : List Char := text.dropWhile isBlank

def digit? (char : Char) : Option Nat :=
  if '0' ≤ char ∧ char ≤ '9' then some (char.toNat - 48) else none

def hexDigit? (char : Char) : Option Nat :=
  if '0' ≤ char ∧ char ≤ '9' then some (char.toNat - 48)
  else if 'a' ≤ char ∧ char ≤ 'f' then some (char.toNat - 87)
  else if 'A' ≤ char ∧ char ≤ 'F' then some (char.toNat - 55)
  else none

def digits : List Char → List Nat × List Char
  | [] => ([], [])
  | char :: rest =>
      match digit? char with
      | some digit => (digit :: (digits rest).1, (digits rest).2)
      | none => ([], char :: rest)

def someDigits (text : List Char) : Option (List Nat × List Char) :=
  match digits text with
  | ([], _) => none
  | found => some found

def exponentSign : List Char → Bool × List Char
  | '-' :: rest => (true, rest)
  | '+' :: rest => (false, rest)
  | rest => (false, rest)

def exponent : List Char → Option (Option (Bool × List Nat) × List Char)
  | char :: rest =>
      if char = 'e' ∨ char = 'E' then
        let (negative, rest) := exponentSign rest
        (someDigits rest).map fun (digits, rest) => (some (negative, digits), rest)
      else some (none, char :: rest)
  | [] => some (none, [])

def fraction : List Char → Option (List Nat × List Char)
  | '.' :: rest => someDigits rest
  | rest => some ([], rest)

def unsignedNumber (negative : Bool) (text : List Char) :
    Option (NumberLiteral × List Char) := do
  let (whole, rest) ← someDigits text
  guard (whole.head? ≠ some 0 ∨ whole.length = 1)
  let (fraction, rest) ← fraction rest
  let (exponent, rest) ← exponent rest
  return (⟨negative, whole, fraction, exponent⟩, rest)

def isLead (code : Nat) : Bool := 0xd800 ≤ code && code < 0xdc00

def isTrail (code : Nat) : Bool := 0xdc00 ≤ code && code < 0xe000

def characters : List Piece → Option (List Char)
  | [] => some []
  | .char value :: rest => (characters rest).map (value :: ·)
  | .unit code :: rest =>
      if isTrail code then none
      else if isLead code then
        match rest with
        | .unit trail :: rest =>
            if isTrail trail then
              (characters rest).map
                (Char.ofNat (0x10000 + (code - 0xd800) * 0x400 + (trail - 0xdc00)) :: ·)
            else none
        | _ => none
      else (characters rest).map (Char.ofNat code :: ·)

def escaped? (char : Char) : Option Char :=
  if char = '"' ∨ char = '\\' ∨ char = '/' then some char
  else if char = 'b' then some '\x08'
  else if char = 'f' then some '\x0c'
  else if char = 'n' then some '\n'
  else if char = 'r' then some '\r'
  else if char = 't' then some '\t'
  else none

def codeUnit (first second third fourth : Char) : Option Nat := do
  return (((← hexDigit? first) * 16 + (← hexDigit? second)) * 16 + (← hexDigit? third)) * 16
    + (← hexDigit? fourth)

def pieces : List Char → Option (List Piece × List Char)
  | [] => none
  | '"' :: rest => some ([], rest)
  | '\\' :: 'u' :: first :: second :: third :: fourth :: rest =>
      match codeUnit first second third fourth with
      | none => none
      | some code => (pieces rest).map fun (found, rest) => (.unit code :: found, rest)
  | '\\' :: char :: rest =>
      match escaped? char with
      | none => none
      | some value => (pieces rest).map fun (found, rest) => (.char value :: found, rest)
  | char :: rest =>
      if char = '\\' ∨ char.toNat < 32 then none
      else (pieces rest).map fun (found, rest) => (.char char :: found, rest)

def stringText (found : List Piece) : Option String := (characters found).map String.ofList

mutual

def value : Nat → List Char → Option (Json × List Char)
  | 0, _ => none
  | fuel + 1, text =>
      match skipBlanks text with
      | 'n' :: 'u' :: 'l' :: 'l' :: rest => some (.null, rest)
      | 't' :: 'r' :: 'u' :: 'e' :: rest => some (.bool true, rest)
      | 'f' :: 'a' :: 'l' :: 's' :: 'e' :: rest => some (.bool false, rest)
      | '"' :: rest => (pieces rest).map fun (found, rest) => (.string (stringText found), rest)
      | '[' :: rest =>
          match skipBlanks rest with
          | ']' :: rest => some (.array [], rest)
          | rest => (items fuel rest).map fun (found, rest) => (.array found, rest)
      | '{' :: rest =>
          match skipBlanks rest with
          | '}' :: rest => some (.object [], rest)
          | rest => (members fuel rest).map fun (found, rest) => (.object found, rest)
      | '-' :: rest => (unsignedNumber true rest).map fun (found, rest) => (.number found, rest)
      | rest => (unsignedNumber false rest).map fun (found, rest) => (.number found, rest)

def items : Nat → List Char → Option (List Json × List Char)
  | 0, _ => none
  | fuel + 1, text => do
      let (first, rest) ← value fuel text
      match skipBlanks rest with
      | ',' :: rest =>
          let (later, rest) ← items fuel rest
          return (first :: later, rest)
      | ']' :: rest => return ([first], rest)
      | _ => none

def members : Nat → List Char → Option (List (Option String × Json) × List Char)
  | 0, _ => none
  | fuel + 1, text =>
      match skipBlanks text with
      | '"' :: rest => do
          let (key, rest) ← pieces rest
          match skipBlanks rest with
          | ':' :: rest =>
              let (first, rest) ← value fuel rest
              match skipBlanks rest with
              | ',' :: rest =>
                  let (later, rest) ← members fuel rest
                  return ((stringText key, first) :: later, rest)
              | '}' :: rest => return ([(stringText key, first)], rest)
              | _ => none
          | _ => none
      | _ => none

end

def parse? (text : String) : Option Json :=
  match value (text.length + 1) text.toList with
  | some (found, rest) => if skipBlanks rest = [] then some found else none
  | none => none

/-! Writing, without any space -/

def escape (char : Char) : List Char :=
  if char = '"' ∨ char = '\\' then ['\\', char]
  else if char.toNat < 32 then
    ['\\', 'u', '0', '0', Nat.digitChar (char.toNat / 16), Nat.digitChar (char.toNat % 16)]
  else [char]

def quoted (text : Option String) : List Char :=
  '"' :: ((text.getD "").toList.flatMap escape ++ ['"'])

def digitsText (digits : List Nat) : List Char := digits.map Nat.digitChar

def numberText (literal : NumberLiteral) : List Char :=
  let sign := if literal.negative then ['-'] else []
  let fraction := if literal.fraction = [] then [] else '.' :: digitsText literal.fraction
  let exponent := match literal.exponent with
    | some (negative, digits) => 'e' :: ((if negative then ['-'] else []) ++ digitsText digits)
    | none => []
  sign ++ (digitsText literal.whole ++ (fraction ++ exponent))

mutual

def valueText : Json → List Char
  | .null => ['n', 'u', 'l', 'l']
  | .bool true => ['t', 'r', 'u', 'e']
  | .bool false => ['f', 'a', 'l', 's', 'e']
  | .number literal => numberText literal
  | .string text => quoted text
  | .array [] => ['[', ']']
  | .array (first :: later) => '[' :: (valueText first ++ (itemsText later ++ [']']))
  | .object [] => ['{', '}']
  | .object (first :: later) => '{' :: (memberText first ++ (membersText later ++ ['}']))

def itemsText : List Json → List Char
  | [] => []
  | first :: later => ',' :: (valueText first ++ itemsText later)

def memberText : Option String × Json → List Char
  | (key, value) => quoted key ++ ':' :: valueText value

def membersText : List (Option String × Json) → List Char
  | [] => []
  | first :: later => ',' :: (memberText first ++ membersText later)

end

def text (value : Json) : String := String.ofList (valueText value)

def format : Format := ⟨parse?, text⟩

end Raster.Backend.Json
