import EtlSurvey.Zip.Inflate
import EtlSurvey.Zip.Record

/-! Reading and writing zip archives. Something may stand in front of an archive: positions in it
count from where its first record would be. -/

namespace EtlSurvey.Zip
open Text

/-- Where the directory begins, how many entries it lists, and by how much positions are
shifted. -/
structure Directory where
  start : Nat
  shift : Nat
  entries : Nat

namespace Directory

/-- The directory that an end record at some position leads to. -/
def ofEnd? (bytes : Bytes) (position : Nat) (r : EndRecord) : Option Directory :=
  if r.disk != r.directoryDisk then none
  else if r.entries == 0 then
    let shift := position - r.directoryPosition
    some { start := r.directoryPosition + shift, shift, entries := r.entriesHere }
  else
    ((occurrences listingSignature (bytes.take position)).find? fun (start, _) =>
      r.directoryPosition ≤ start).map fun (start, _) =>
        { start, shift := start - r.directoryPosition, entries := r.entriesHere }

/-- The wide end record in front of a locator at some position: the first that ends where the
locator begins and that has room for its directory in front of it. -/
def wideEnd? (bytes : Bytes) (position : Nat) (l : Locator) : Option (Nat × WideEndRecord) :=
  ((occurrences wideEndSignature (bytes.take position)).filter fun (start, _) =>
    l.recordPosition ≤ start).findSome? fun (start, record) => do
      let r ← WideEndRecord.read? record
      if r.directoryDisk == l.directoryDisk &&
          r.entries * leastListingSize + r.directoryPosition ≤ start then
        return (start, r)
      else none

/-- The directory that a locator at some position leads to. -/
def ofLocator? (bytes : Bytes) (position : Nat) (l : Locator) : Option Directory :=
  if position ≤ l.recordPosition || l.disks > 1 then none
  else do
    let (start, r) ← wideEnd? bytes position l
    let shift := start - l.recordPosition
    if r.isCoherent && r.disk == r.directoryDisk then
      return { start := r.directoryPosition + shift, shift, entries := r.entries }
    else none

/-- The directory that an end record, with a locator in front of it if it is saturated, leads
to. -/
def find? (bytes : Bytes) (position : Nat) (record : Bytes) : Option Directory := do
  let r ← EndRecord.read? record
  match if r.isSaturated then Locator.before? position bytes else none with
  | some l => ofLocator? bytes (position - Locator.size) l
  | none => ofEnd? bytes position r

end Directory

/-- An entry and where its header is. -/
structure Entry where
  listing : Listing
  position : Nat

/-- Positions have room in eight bytes. -/
def entryOf? (shift : Nat) (listing : Listing) : Option Entry :=
  let position := listing.headerPosition + shift
  if position < 0x10000000000000000 then some { listing, position } else none

/-- The entries that an end record leads to. -/
def entriesAt? (bytes : Bytes) (position : Nat) (record : Bytes) : Option (List Entry) := do
  let d ← Directory.find? bytes position record
  let listings ← listings? d.entries (bytes.drop d.start)
  listings.mapM (entryOf? d.shift)

/-- Entries by the last end record that leads to any. -/
def entries? (bytes : Bytes) : Option (List Entry) :=
  (occurrences endSignature bytes).reverse.findSome? fun (position, record) =>
    entriesAt? bytes position record

/-- Puts an entry in the place of one with the same name, or at the end. -/
def putNamed (name : String) (e : Entry) : List (String × Entry) → List (String × Entry)
  | [] => [(name, e)]
  | (n, f) :: rest => if n == name then (n, e) :: rest else (n, f) :: putNamed name e rest

/-- Entries by name; of entries with one name the last counts. -/
def namedEntries (entries : List Entry) : List (String × Entry) :=
  entries.foldl (fun named e => putNamed e.listing.name e named) []

/-- Data as they are or deflated. -/
def expand? (method : Nat) (data : Bytes) : Option Bytes :=
  match method with
  | 0 => some data
  | 8 => inflate? data
  | _ => none

/-- The name of a folder ends in a slash of either kind. -/
def isFolderName (name : String) : Bool :=
  match name.toList.getLast? with
  | some c => c == '/' || c == '\\'
  | none => false

/-- The data of an entry as the archive holds them, if it has a header, is not encrypted and its
method is known. -/
def Entry.data? (bytes : Bytes) (e : Entry) : Option Bytes := do
  let header := bytes.drop e.position
  let size ← headerSize? header
  if !e.listing.isEncrypted && (e.listing.method == 0 || e.listing.method == 8) then
    return (header.drop size).take e.listing.compressedSize
  else none

/-- The content of an entry with these data, if it is intact. -/
def Entry.content? (e : Entry) (data : Bytes) : Option Bytes := do
  let content ← expand? e.listing.method data
  if (crc32 content).toNat == e.listing.crc then return content else none

/-- The file that an entry is, or nothing for a folder; none if anything is wrong with it. -/
def Entry.file? (bytes : Bytes) (name : String) (e : Entry) :
    Option (Option (String × Bytes)) := do
  let data ← e.data? bytes
  if isFolderName name then return none
  else return some (name, ← e.content? data)

/-- The files of an archive in order, by name; none if anything is wrong with one of them. -/
def files? (bytes : Bytes) : Option (List (String × Bytes)) := do
  let opened ← (namedEntries (← entries? bytes)).mapM fun (name, e) => e.file? bytes name
  return opened.filterMap id

/-! An archive is written with all files stored and named in UTF-8. -/

def nameFlags : Nat := 0x0800

/-- Fields that header and listing of a file have in common, from the flags on. -/
def sharedFields (name content : Bytes) : Bytes := printFields [
  (2, nameFlags), (2, 0), (2, 0), (2, 0x21), (4, (crc32 content).toNat), (4, content.length),
  (4, content.length), (2, name.length), (2, 0)]

def printHeader (name content : Bytes) : Bytes :=
  printFields [(4, headerSignature), (2, 20)] ++ sharedFields name content ++ name ++ content

def printListing (name content : Bytes) (position : Nat) : Bytes :=
  printFields [(4, listingSignature), (2, 20), (2, 20)] ++ sharedFields name content ++
    printFields [(2, 0), (2, 0), (2, 0), (4, 0), (4, position)] ++ name

/-- Files with their headers, and the directory that lists them from a position on. -/
def printFiles : Nat → List (String × Bytes) → Bytes × Bytes
  | _, [] => ([], [])
  | position, (name, content) :: rest =>
    let name := Utf8.encode name
    let header := printHeader name content
    let (headers, listings) := printFiles (position + header.length) rest
    (header ++ headers, printListing name content position ++ listings)

def print (files : List (String × Bytes)) : Bytes :=
  let (headers, listings) := printFiles 0 files
  headers ++ listings ++ printFields [(4, endSignature), (2, 0), (2, 0), (2, files.length),
    (2, files.length), (4, listings.length), (4, headers.length), (2, 0)]

end EtlSurvey.Zip
