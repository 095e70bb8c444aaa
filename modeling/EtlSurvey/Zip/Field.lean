import EtlSurvey.Text.Utf8

/-! Numbers in the records of a zip archive, lowest byte first, and the cyclic redundancy check that
an archive keeps for each entry. -/

namespace EtlSurvey.Zip
open Text

def littleEndian : Nat → Nat → Bytes
  | 0, _ => []
  | width + 1, n => UInt8.ofNat (n % 256) :: littleEndian width (n / 256)

def numberOf : Bytes → Nat
  | [] => 0
  | b :: rest => b.toNat + 256 * numberOf rest

/-- A number of bytes and the bytes after them. -/
def splitBytes? (count : Nat) (bytes : Bytes) : Option (Bytes × Bytes) :=
  let part := bytes.take count
  if part.length == count then some (part, bytes.drop count) else none

/-- Numbers of the given widths and the bytes after them. -/
def fields? : List Nat → Bytes → Option (List Nat × Bytes)
  | [], bytes => some ([], bytes)
  | width :: widths, bytes => do
    let (field, rest) ← splitBytes? width bytes
    let (fields, rest) ← fields? widths rest
    return (numberOf field :: fields, rest)

/-- Numbers with their widths, one after another. -/
def printFields (fields : List (Nat × Nat)) : Bytes :=
  fields.flatMap fun (width, n) => littleEndian width n

/-- Suffixes that begin with a signature of four bytes, with their positions. -/
def occurrencesFrom (signature : Nat) : Nat → Bytes → List (Nat × Bytes)
  | _, [] => []
  | position, b :: rest =>
    let others := occurrencesFrom signature (position + 1) rest
    if (b :: rest).take 4 == littleEndian 4 signature then (position, b :: rest) :: others
    else others

def occurrences (signature : Nat) (bytes : Bytes) : List (Nat × Bytes) :=
  occurrencesFrom signature 0 bytes

/-- Divides by the generator polynomial for one bit, lowest bit first. -/
def crcBit (crc : UInt32) : UInt32 :=
  if crc &&& 1 == 1 then (crc >>> 1) ^^^ 0xEDB88320 else crc >>> 1

def crcByte (crc : UInt32) (b : UInt8) : UInt32 :=
  (List.range 8).foldl (fun crc _ => crcBit crc) (crc ^^^ b.toUInt32)

def crc32 (bytes : Bytes) : UInt32 := bytes.foldl crcByte 0xFFFFFFFF ^^^ 0xFFFFFFFF

end EtlSurvey.Zip
