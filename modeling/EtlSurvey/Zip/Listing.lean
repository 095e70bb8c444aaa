import EtlSurvey.Text.Percent
import EtlSurvey.Zip.Field

/-! What the directory of a zip archive says of an entry. The extra fields of a listing have a kind,
a size and content each. Fields of known kinds replace what the listing says or must at least be
well-formed; others do not count. Where the bytes end within a field, what has been read up to there
holds. -/

namespace EtlSurvey.Zip
open Text

structure Listing where
  flags : Nat
  method : Nat
  crc : Nat
  compressedSize : Nat
  size : Nat
  rawName : Bytes
  name : String
  comment : String
  headerPosition : Nat
  /-- The data are encrypted with a key of fixed size, which an extra field says. -/
  hasStrongKey : Bool

namespace Listing

def isEncrypted (l : Listing) : Bool := l.flags.testBit 0 || l.hasStrongKey

/-- Texts of an entry are UTF-8 if its flags say so. -/
def textOf (flags : Nat) (raw : Bytes) : String :=
  if flags.testBit 11 then Utf8.decodeLossy raw else CodePage437.decode raw

/-- The method of entries with a key of fixed size; their own method stands in the extra field. -/
def strongKeyMethod : Nat := 99

/-- The method agrees with what the extra fields say of a key. -/
def isCoherent (l : Listing) : Bool := l.method != strongKeyMethod || l.hasStrongKey

end Listing

/-- What comes of reading a part of an extra field. -/
inductive Extension where
  /-- The listing with that part, and the bytes after it. -/
  | extended (listing : Listing) (rest : Bytes)
  /-- The bytes have ended. -/
  | cutShort (listing : Listing)
  | malformed

namespace Extension

/-- Goes on with the next bytes and those after them, if there are enough. -/
def withBytes (count : Nat) (l : Listing) (bytes : Bytes)
    (next : Bytes → Bytes → Extension) : Extension :=
  match splitBytes? count bytes with
  | some (part, rest) => next part rest
  | none => .cutShort l

/-- Goes on with the number that the next bytes hold. -/
def withNumber (width : Nat) (l : Listing) (bytes : Bytes)
    (next : Nat → Bytes → Extension) : Extension :=
  withBytes width l bytes fun part => next (numberOf part)

def skip (count : Nat) (l : Listing) (bytes : Bytes) : Extension :=
  withBytes count l bytes fun _ rest => .extended l rest

end Extension

/-- Stands for a number that has no room in four bytes. -/
def saturated : Nat := 0xFFFFFFFF

/-- The numbers that a field of wide numbers can hold, in its order. -/
def wideNumbers : List ((Listing → Nat) × (Nat → Listing → Listing)) := [
  (Listing.size, fun n l => { l with size := n }),
  (Listing.compressedSize, fun n l => { l with compressedSize := n }),
  (Listing.headerPosition, fun n l => { l with headerPosition := n })]

/-- Sizes and position in eight bytes each. A field that has room for all holds all; a shorter one
those that are saturated. -/
def wideField (size : Nat) : List ((Listing → Nat) × (Nat → Listing → Listing)) →
    Nat → Listing → Bytes → Extension
  | [], used, l, bytes => if used > size then .malformed else .skip (size - used) l bytes
  | (get, set) :: others, used, l, bytes =>
    if size ≥ 24 || get l == saturated then
      .withNumber 8 l bytes fun n rest => wideField size others (used + 8) (set n l) rest
    else wideField size others used l bytes

/-- Three times of one size under one tag. -/
def preciseTimesField (size : Nat) (l : Listing) (bytes : Bytes) : Extension :=
  if size != 32 then .malformed
  else .withBytes 4 l bytes fun _ bytes => .withNumber 2 l bytes fun tag bytes =>
    if tag != 1 then .malformed
    else .withNumber 2 l bytes fun width bytes =>
      if width != 24 then .malformed else .skip 24 l bytes

/-- Flags and a time of four bytes for each of them, of which there are three. A field with room
for one time holds that of the last change, whatever the flags say. -/
def timesField (size : Nat) (l : Listing) (bytes : Bytes) : Extension :=
  .withNumber 1 l bytes fun flags bytes =>
    let times := (List.range 8).countP flags.testBit
    if (size != 5 && size != 1 + 4 * times) || flags ≥ 8 then .malformed
    else .skip (size - 1) l bytes

def strongKeyVendor : Nat := 0x4541

/-- Version and vendor of an encryption, the strength of its key and the method below it. -/
def strongKeyField (size : Nat) (l : Listing) (bytes : Bytes) : Extension :=
  if size != 7 then .malformed
  else .withNumber 2 l bytes fun version bytes => .withNumber 2 l bytes fun vendor bytes =>
    .withNumber 1 l bytes fun strength bytes => .withNumber 2 l bytes fun method bytes =>
      if vendor == strongKeyVendor && (version == 1 || version == 2) &&
        (1 ≤ strength && strength ≤ 3) then
        .extended { l with method, hasStrongKey := true } bytes
      else .malformed

/-- A version, the check of a text as it was, and the text in UTF-8 that takes its place. -/
def textField (old : Bytes) (put : Bytes → String → Listing) (size : Nat) (l : Listing)
    (bytes : Bytes) : Extension :=
  .withBytes 1 l bytes fun _ bytes => .withNumber 4 l bytes fun crc bytes =>
    if size < 5 then .malformed
    else .withBytes (size - 5) l bytes fun raw bytes =>
      match Utf8.decode? raw with
      | some text =>
        if crc == (crc32 old).toNat then .extended (put raw text) bytes else .malformed
      | none => .malformed

/-- The content of a field of some kind. -/
def fieldContent (kind size : Nat) (l : Listing) (bytes : Bytes) : Extension :=
  match kind with
  | 0x0001 => wideField size wideNumbers 0 l bytes
  | 0x000A => preciseTimesField size l bytes
  | 0x5455 => timesField size l bytes
  | 0x6375 =>
    textField (Utf8.encode l.comment) (fun _ comment => { l with comment }) size l bytes
  | 0x7075 => textField l.rawName (fun rawName name => { l with rawName, name }) size l bytes
  | 0x9901 => strongKeyField size l bytes
  | _ => .skip size l bytes

def extraField (l : Listing) (bytes : Bytes) : Extension :=
  .withNumber 2 l bytes fun kind bytes => .withNumber 2 l bytes fun size bytes =>
    fieldContent kind size l bytes

/-- The listing with its extra fields. Each takes at least four bytes, so as much fuel as there are
bytes is enough. -/
def Listing.extendFrom? : Nat → Listing → Bytes → Option Listing
  | _, l, [] => some l
  | 0, l, _ => some l
  | fuel + 1, l, bytes =>
    match extraField l bytes with
    | .extended l rest => extendFrom? fuel l rest
    | .cutShort l => some l
    | .malformed => none

/-- The listing as its extra fields have it, if none of them is malformed. -/
def Listing.extend? (l : Listing) (extra : Bytes) : Option Listing :=
  extendFrom? extra.length l extra

end EtlSurvey.Zip
