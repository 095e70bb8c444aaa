import EtlSurvey.Zip.PrefixCode

/-! Inflating deflated data: blocks of literal bytes and of repetitions of what lies some distance
back in the output. -/

namespace EtlSurvey.Zip
open Text

/-- Least length and number of extra bits of the length symbols from 257 on. -/
def lengthClasses : List (Nat × Nat) := [
  (3, 0), (4, 0), (5, 0), (6, 0), (7, 0), (8, 0), (9, 0), (10, 0),
  (11, 1), (13, 1), (15, 1), (17, 1), (19, 2), (23, 2), (27, 2), (31, 2),
  (35, 3), (43, 3), (51, 3), (59, 3), (67, 4), (83, 4), (99, 4), (115, 4),
  (131, 5), (163, 5), (195, 5), (227, 5), (258, 0)]

/-- Least distance and number of extra bits of the distance symbols. -/
def distanceClasses : List (Nat × Nat) := [
  (1, 0), (2, 0), (3, 0), (4, 0), (5, 1), (7, 1), (9, 2), (13, 2), (17, 3), (25, 3),
  (33, 4), (49, 4), (65, 5), (97, 5), (129, 6), (193, 6), (257, 7), (385, 7), (513, 8), (769, 8),
  (1025, 9), (1537, 9), (2049, 10), (3073, 10), (4097, 11), (6145, 11), (8193, 12), (12289, 12),
  (16385, 13), (24577, 13)]

/-- The number that a symbol of some classes and the bits after it stand for. -/
def classNumber? (classes : List (Nat × Nat)) (symbol : Nat) (bits : Bits) :
    Option (Nat × Bits) := do
  let (least, extra) ← classes[symbol]?
  let (more, rest) ← number? extra bits
  return (least + more, rest)

/-- Repeats a number of bytes from some distance back, one by one; none if that is in front of the
output. -/
def copyBack (distance : Nat) : Nat → Array UInt8 → Option (Array UInt8)
  | 0, out => some out
  | count + 1, out =>
    if distance ≤ out.size then do
      let b ← out[out.size - distance]?
      copyBack distance count (out.push b)
    else none

/-- Data of a compressed block up to its end mark. Each step takes at least one bit, so as much
fuel as there are bits is enough. -/
def inflateSymbols (literals distances : PrefixCode) :
    Nat → Bits → Array UInt8 → Option (Bits × Array UInt8)
  | 0, _, _ => none
  | fuel + 1, bits, out => do
    let (symbol, bits) ← literals.read? bits
    if symbol < 256 then inflateSymbols literals distances fuel bits (out.push (UInt8.ofNat symbol))
    else if symbol == 256 then return (bits, out)
    else
      let (count, bits) ← classNumber? lengthClasses (symbol - 257) bits
      let (symbol, bits) ← distances.read? bits
      let (distance, bits) ← classNumber? distanceClasses symbol bits
      let out ← copyBack distance count out
      inflateSymbols literals distances fuel bits out

def fixedLiterals : PrefixCode := .ofLengths
  (List.replicate 144 8 ++ List.replicate 112 9 ++ List.replicate 24 7 ++ List.replicate 8 8)

def fixedDistances : PrefixCode := .ofLengths (List.replicate 30 5)

/-- Order in which the lengths of the words for lengths are given. -/
def lengthOrder : List Nat := [16, 17, 18, 0, 8, 7, 9, 6, 10, 5, 11, 4, 12, 3, 13, 2, 14, 1, 15]

/-- Numbers of three bits each. -/
def shortNumbers? : Nat → Bits → Option (List Nat × Bits)
  | 0, bits => some ([], bits)
  | count + 1, bits => do
    let (n, bits) ← number? 3 bits
    let (others, bits) ← shortNumbers? count bits
    return (n :: others, bits)

/-- Exactly `wanted` word lengths, where three symbols stand for repetitions. The lengths so far are
given last one first. -/
def wordLengths? (code : PrefixCode) (wanted : Nat) :
    Nat → List Nat → Bits → Option (List Nat × Bits)
  | 0, _, _ => none
  | fuel + 1, lengths, bits =>
    if lengths.length == wanted then some (lengths.reverse, bits)
    else if lengths.length > wanted then none
    else do
      let (symbol, bits) ← code.read? bits
      if symbol < 16 then wordLengths? code wanted fuel (symbol :: lengths) bits
      else
        let (length, least, extra) ← match symbol with
          | 16 => lengths.head?.map (·, 3, 2)
          | 17 => some (0, 3, 3)
          | _ => some (0, 11, 7)
        let (more, bits) ← number? extra bits
        wordLengths? code wanted fuel (List.replicate (least + more) length ++ lengths) bits

/-- The two codes at the head of a block that brings its own. -/
def ownCodes? (bits : Bits) : Option (PrefixCode × PrefixCode × Bits) := do
  let (literals, bits) ← number? 5 bits
  let (distances, bits) ← number? 5 bits
  let (lengths, bits) ← number? 4 bits
  let literals := literals + 257
  let distances := distances + 1
  if literals > 286 || distances > 30 then none
  else
    let (given, bits) ← shortNumbers? (lengths + 4) bits
    let pairs := lengthOrder.zip given
    let lengthCode := PrefixCode.ofLengths <|
      (List.range 19).map fun symbol => (pairs.lookup symbol).getD 0
    if !lengthCode.isComplete then none
    else
      let wanted := literals + distances
      let (lengths, bits) ← wordLengths? lengthCode wanted (wanted + 1) [] bits
      let literalCode := PrefixCode.ofLengths (lengths.take literals)
      let distanceCode := PrefixCode.ofLengths (lengths.drop literals)
      if literalCode.isUsable && distanceCode.isUsable then
        return (literalCode, distanceCode, bits)
      else none

/-- Bits from the next whole byte on. The number of all bits is a multiple of eight. -/
def alignBits (bits : Bits) : Bits := bits.drop (bits.length % 8)

/-- Bytes that are stored as they are. -/
def storedBytes? : Nat → Bits → Array UInt8 → Option (Bits × Array UInt8)
  | 0, bits, out => some (bits, out)
  | count + 1, bits, out => do
    let (b, bits) ← number? 8 bits
    storedBytes? count bits (out.push (UInt8.ofNat b))

/-- A stored block: its size, the complement of its size and its bytes. -/
def storedBlock? (bits : Bits) (out : Array UInt8) : Option (Bits × Array UInt8) := do
  let (size, bits) ← number? 16 (alignBits bits)
  let (complement, bits) ← number? 16 bits
  if size + complement != 0xFFFF then none
  else storedBytes? size bits out

def block? (kind : Nat) (bits : Bits) (out : Array UInt8) : Option (Bits × Array UInt8) :=
  match kind with
  | 0 => storedBlock? bits out
  | 1 => inflateSymbols fixedLiterals fixedDistances (bits.length + 1) bits out
  | 2 => do
    let (literals, distances, bits) ← ownCodes? bits
    inflateSymbols literals distances (bits.length + 1) bits out
  | _ => none

/-- Blocks up to the one that is marked as the last. -/
def inflateBlocks : Nat → Bits → Array UInt8 → Option Bytes
  | 0, _, _ => none
  | fuel + 1, bits, out => do
    let (last, bits) ← number? 1 bits
    let (kind, bits) ← number? 2 bits
    let (bits, out) ← block? kind bits out
    if last == 1 then return out.toList else inflateBlocks fuel bits out

/-- The data of a deflated stream; what comes after its last block does not count. -/
def inflate? (bytes : Bytes) : Option Bytes :=
  let bits := bitsOf bytes
  inflateBlocks (bits.length + 1) bits #[]

end EtlSurvey.Zip
