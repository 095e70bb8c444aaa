import EtlSurvey.Zip.Listing

/-! Records of a zip archive: the headers in front of the entries, the directory that lists them
all, and the end records that tell where the directory is. An archive with many entries has a wide
end record too, and a locator that tells where that is. -/

namespace EtlSurvey.Zip
open Text

def headerSignature : Nat := 0x04034B50

def listingSignature : Nat := 0x02014B50

def endSignature : Nat := 0x06054B50

def wideEndSignature : Nat := 0x06064B50

def locatorSignature : Nat := 0x07064B50

/-- A listing and the bytes after it. -/
def Listing.read? (bytes : Bytes) : Option (Listing × Bytes) := do
  match ← fields? [4, 2, 2, 2, 2, 2, 2, 4, 4, 4, 2, 2, 2, 2, 2, 4, 4] bytes with
  | ([signature, _, _, flags, method, _, _, crc, compressedSize, size, nameSize, extraSize,
      commentSize, _, _, _, headerPosition], rest) =>
    if signature != listingSignature then none
    else
      let (rawName, rest) ← splitBytes? nameSize rest
      let (extra, rest) ← splitBytes? extraSize rest
      let (comment, rest) ← splitBytes? commentSize rest
      let plain : Listing :=
        { flags, method, crc, compressedSize, size, rawName, headerPosition
          name := textOf flags rawName
          comment := textOf flags comment
          hasStrongKey := false }
      let listing ← plain.extend? extra
      if listing.isCoherent then return (listing, rest) else none
  | _ => none

/-- A number of listings. -/
def listings? : Nat → Bytes → Option (List Listing)
  | 0, _ => some []
  | count + 1, bytes => do
    let (first, rest) ← Listing.read? bytes
    let others ← listings? count rest
    return first :: others

/-- A listing takes at least this many bytes. -/
def leastListingSize : Nat := 46

/-- Distance from the header of an entry to its data. -/
def headerSize? (bytes : Bytes) : Option Nat := do
  match ← fields? [4, 2, 2, 2, 2, 2, 4, 4, 4, 2, 2] bytes with
  | ([signature, _, _, _, _, _, _, _, _, nameSize, extraSize], _) =>
    if signature == headerSignature then some (30 + nameSize + extraSize) else none
  | _ => none

structure EndRecord where
  disk : Nat
  directoryDisk : Nat
  entriesHere : Nat
  entries : Nat
  directoryPosition : Nat

namespace EndRecord

/-- The end record that bytes begin with; its comment must be complete. -/
def read? (bytes : Bytes) : Option EndRecord := do
  match ← fields? [4, 2, 2, 2, 2, 4, 4, 2] bytes with
  | ([signature, disk, directoryDisk, entriesHere, entries, _, directoryPosition, commentSize],
      rest) =>
    if signature == endSignature && commentSize ≤ rest.length then
      some { disk, directoryDisk, entriesHere, entries, directoryPosition }
    else none
  | _ => none

/-- Something has no room in the record. -/
def isSaturated (r : EndRecord) : Bool :=
  r.entries == 0xFFFF || r.directoryPosition == saturated

end EndRecord

/-- Where the wide end record is. -/
structure Locator where
  directoryDisk : Nat
  recordPosition : Nat
  disks : Nat

namespace Locator

def size : Nat := 20

/-- The locator right in front of an end record. -/
def before? (position : Nat) (bytes : Bytes) : Option Locator :=
  if position < size then none
  else do
    match ← fields? [4, 4, 8, 4] (bytes.drop (position - size)) with
    | ([signature, directoryDisk, recordPosition, disks], _) =>
      if signature == locatorSignature then some { directoryDisk, recordPosition, disks } else none
    | _ => none

end Locator

structure WideEndRecord extends EndRecord where
  /-- Version of the format that the archive was made with. -/
  madeWith : Nat
  /-- Version of the format that is needed to read the archive. -/
  neededVersion : Nat

namespace WideEndRecord

/-- The wide end record that the bytes are, with whatever it holds after its numbers. -/
def read? (bytes : Bytes) : Option WideEndRecord := do
  match ← fields? [4, 8, 2, 2, 4, 4, 8, 8, 8, 8] bytes with
  | ([signature, size, madeWith, neededVersion, disk, directoryDisk, entriesHere, entries, _,
      directoryPosition], _) =>
    if signature == wideEndSignature && size + 12 == bytes.length then
      some { madeWith, neededVersion, disk, directoryDisk, entriesHere, entries, directoryPosition }
    else none
  | _ => none

/-- Nothing in the record contradicts the rest. -/
def isCoherent (r : WideEndRecord) : Bool :=
  r.entriesHere ≤ r.entries && r.neededVersion ≤ r.madeWith

end WideEndRecord
end EtlSurvey.Zip
