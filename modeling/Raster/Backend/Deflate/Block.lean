import Raster.Backend.Deflate.Bits

/-!
Headers of deflate blocks: stored lengths, and the two prefix codes of compressed blocks. A header
is read only once all of its bits have arrived, but faults show as soon as the bits that reveal
them have.
-/

namespace Raster.Backend.Deflate

inductive Fault where
  | header
  | blockKind
  | storedLength
  | codeCounts
  | lengthRepeat
  | incompleteCode
  | literal
  | distance
deriving DecidableEq, Repr

structure Codes where
  literals : PrefixCode
  distances : PrefixCode

inductive Header where
  | waiting
  | stored (last : Bool) (length next : Nat)
  | empty (last : Bool) (next : Nat)
  | compressed (last : Bool) (codes : Codes) (next : Nat)

def fixedLengths : Array Nat :=
  Array.replicate 144 8 ++ Array.replicate 112 9 ++ Array.replicate 24 7 ++ Array.replicate 8 8

def fixedCodes : Codes :=
  ⟨PrefixCode.ofLengths 15 fixedLengths, PrefixCode.ofLengths 15 (Array.replicate 32 5)⟩

def lengthOrder : List Nat :=
  [16, 17, 18, 0, 8, 7, 9, 6, 10, 5, 11, 4, 12, 3, 13, 2, 14, 1, 15]

def lengthCode (source : Source) (index count : Nat) : PrefixCode :=
  PrefixCode.ofLengths 7
    (((lengthOrder.take count).zipIdx).foldl
      (fun lengths sent =>
        lengths.setIfInBounds sent.1 (source.number (index + 3 * sent.2) 3))
      (Array.replicate 19 0))

def codeLengths (source : Source) (code : PrefixCode) (total : Nat) :
    Nat → Nat → Array Nat → Except Fault (Option (Array Nat × Nat))
  | 0, _, _ => .ok none
  | fuel + 1, index, lengths =>
      if total ≤ lengths.size then .ok (some (lengths, index))
      else if source.limit < index + 7 then .ok none
      else
        match source.symbol? index code with
        | none => .error .incompleteCode
        | some (symbol, width) =>
            if symbol < 16 then
              codeLengths source code total fuel (index + width) (lengths.push symbol)
            else
              let (base, extra) :=
                if symbol = 16 then (3, 2) else if symbol = 17 then (3, 3) else (11, 7)
              if source.limit < index + width + extra then .ok none
              else
                let times := base + source.number (index + width) extra
                let repeated := if symbol = 16 then lengths.back? else some 0
                match repeated with
                | none => .error .lengthRepeat
                | some length =>
                    if total < lengths.size + times then .error .lengthRepeat
                    else codeLengths source code total fuel (index + width + extra)
                      (lengths ++ Array.replicate times length)

def isDistanceCode (code : PrefixCode) : Bool :=
  PrefixCode.isComplete code.counts || code.symbols.isEmpty ||
    (code.symbols.size == 1 && code.counts.head? == some 1)

def Codes.ofLengths (lengths : Array Nat) (literalCount : Nat) : Except Fault Codes :=
  if lengths.getD 256 0 = 0 then .error .incompleteCode
  else
    let literals := PrefixCode.ofLengths 15 (lengths.extract 0 literalCount)
    let distances := PrefixCode.ofLengths 15 (lengths.extract literalCount lengths.size)
    if PrefixCode.isComplete literals.counts && isDistanceCode distances then
      .ok ⟨literals, distances⟩
    else .error .incompleteCode

def dynamicHeader (source : Source) (last : Bool) (index : Nat) : Except Fault Header :=
  if source.limit < index + 14 then .ok .waiting
  else
    let literalCount := 257 + source.number index 5
    let distanceCount := 1 + source.number (index + 5) 5
    let lengthCount := 4 + source.number (index + 10) 4
    let index := index + 14
    if 286 < literalCount ∨ 30 < distanceCount then .error .codeCounts
    else if source.limit < index + 3 * lengthCount then .ok .waiting
    else
      let code := lengthCode source index lengthCount
      if PrefixCode.isComplete code.counts then
        match codeLengths source code (literalCount + distanceCount)
            (literalCount + distanceCount + 1) (index + 3 * lengthCount) #[] with
        | .error fault => .error fault
        | .ok none => .ok .waiting
        | .ok (some (lengths, next)) =>
            match Codes.ofLengths lengths literalCount with
            | .error fault => .error fault
            | .ok codes => .ok (.compressed last codes next)
      else .error .incompleteCode

def storedHeader (source : Source) (last : Bool) (index : Nat) : Except Fault Header :=
  let index := (index + 7) / 8 * 8
  if source.limit < index + 32 then .ok .waiting
  else
    let length := source.number index 16
    if length + source.number (index + 16) 16 = 65535 then
      .ok (.stored last length (index + 32))
    else .error .storedLength

def blockHeader (source : Source) (index : Nat) : Except Fault Header :=
  if source.limit < index + 10 then .ok .waiting
  else
    let last := source.bit index == 1
    match source.number (index + 1) 2 with
    | 0 => storedHeader source last (index + 3)
    | 1 =>
        if source.number (index + 3) 7 = 0 then
          .ok (.empty last (index + 10))
        else .ok (.compressed last fixedCodes (index + 3))
    | 2 => dynamicHeader source last (index + 3)
    | _ => .error .blockKind

end Raster.Backend.Deflate
