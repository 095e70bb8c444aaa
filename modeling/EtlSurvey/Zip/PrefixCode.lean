import EtlSurvey.Text.Utf8

/-! Bit streams and the canonical prefix codes of compressed data. A code is given by the lengths of
its code words: words of one length are consecutive numbers in the order of their symbols. -/

namespace EtlSurvey.Zip
open Text

abbrev Bits := List Bool

/-- Bits of bytes, the lowest of each byte first. -/
def bitsOf (bytes : Bytes) : Bits :=
  bytes.flatMap fun b => (List.range 8).map fun i => b.toNat.testBit i

/-- A number of some bits, the lowest first, and the bits after it. -/
def number? : Nat → Bits → Option (Nat × Bits)
  | 0, bits => some (0, bits)
  | _ + 1, [] => none
  | width + 1, b :: bits => (number? width bits).map fun (n, rest) => (b.toNat + 2 * n, rest)

/-- Longest code word. -/
def longestWord : Nat := 15

structure PrefixCode where
  /-- How many words there are of each length, from one on. -/
  counts : List Nat
  /-- Symbols in the order of their words. -/
  symbols : List Nat

namespace PrefixCode

/-- The code of symbols 0, 1, … with these lengths; symbols of length zero have no word. -/
def ofLengths (lengths : List Nat) : PrefixCode :=
  let sizes := (List.range longestWord).map (· + 1)
  { counts := sizes.map lengths.count
    symbols := sizes.flatMap fun size =>
      (lengths.zipIdx.filter fun (length, _) => length == size).map (·.2) }

/-- What part of all words of the longest size begins with a word of the code, in units of one
such word. -/
def covered (c : PrefixCode) : Nat :=
  c.counts.foldl (fun total count => 2 * total + count) 0

/-- Every sequence of bits begins with exactly one word. -/
def isComplete (c : PrefixCode) : Bool := c.covered == 1 <<< longestWord

/-- Complete, or without words, or with one word of one bit. -/
def isUsable (c : PrefixCode) : Bool :=
  c.isComplete || c.symbols.isEmpty ||
    (c.symbols.length == 1 && c.covered == 1 <<< (longestWord - 1))

/-- Follows the bits of a word through the lengths. `word` is what has been read, `first` the first
word of the length, and `symbols` begins with its symbol. -/
def readFrom : List Nat → List Nat → Nat → Nat → Bits → Option (Nat × Bits)
  | [], _, _, _, _ => none
  | _, _, _, _, [] => none
  | count :: counts, symbols, word, first, b :: bits =>
    let word := 2 * word + b.toNat
    let first := 2 * first
    if word < first + count then symbols[word - first]?.map (·, bits)
    else readFrom counts (symbols.drop count) word (first + count) bits

/-- The symbol whose word the bits begin with, and the bits after it. -/
def read? (c : PrefixCode) (bits : Bits) : Option (Nat × Bits) :=
  readFrom c.counts c.symbols 0 0 bits

end PrefixCode
end EtlSurvey.Zip
