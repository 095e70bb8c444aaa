/-! UTF-8 as lists of bytes. Decoding splits a byte string into well-formed characters and
maximal ill-formed sequences: strict decoding refuses the latter, lossy decoding puts U+FFFD
in the place of each. -/

namespace EtlSurvey.Text

abbrev Bytes := List UInt8

namespace Utf8

/-- The byte is in the closed range; used to spell out the table of well-formed sequences. -/
def within (low high b : UInt8) : Bool := low ≤ b && b ≤ high

def isContinuation (b : UInt8) : Bool := within 0x80 0xBF b

/-- Range of the second byte that each lead byte of a longer sequence allows; this keeps out
overlong forms, surrogates and values past U+10FFFF. -/
def secondAllowed (lead b : UInt8) : Bool :=
  if lead == 0xE0 then within 0xA0 0xBF b
  else if lead == 0xED then within 0x80 0x9F b
  else if lead == 0xF0 then within 0x90 0xBF b
  else if lead == 0xF4 then within 0x80 0x8F b
  else isContinuation b

/-- Number of bytes that a lead byte announces, none for a byte that starts no sequence. -/
def announced (lead : UInt8) : Option Nat :=
  if lead < 0x80 then some 1
  else if within 0xC2 0xDF lead then some 2
  else if within 0xE0 0xEF lead then some 3
  else if within 0xF0 0xF4 lead then some 4
  else none

/-- The low bits that a continuation byte carries. -/
def low6 (b : UInt8) : Nat := b.toNat % 64

/-- What a byte string begins with: a character or an ill-formed sequence (`none`), and the
number of bytes after the first that belong to it. -/
def first (lead : UInt8) (rest : Bytes) : Option Char × Nat :=
  match announced lead with
  | none => (none, 0)
  | some 1 => (some (Char.ofNat lead.toNat), 0)
  | some size =>
    match rest with
    | [] => (none, 0)
    | b :: r =>
      if !secondAllowed lead b then (none, 0)
      else if size == 2 then (some (Char.ofNat (lead.toNat % 32 * 64 + low6 b)), 1)
      else match r with
        | [] => (none, 1)
        | c :: r =>
          if !isContinuation c then (none, 1)
          else if size == 3 then
            (some (Char.ofNat ((lead.toNat % 16 * 64 + low6 b) * 64 + low6 c)), 2)
          else match r with
            | [] => (none, 2)
            | d :: _ =>
              if !isContinuation d then (none, 2)
              else (some (Char.ofNat
                (((lead.toNat % 8 * 64 + low6 b) * 64 + low6 c) * 64 + low6 d)), 3)

/-- Characters and ill-formed sequences (`none`) from left to right. The first argument counts
bytes that the sequence before has already taken. -/
def piecesFrom : Nat → Bytes → List (Option Char)
  | _, [] => []
  | taken + 1, _ :: rest => piecesFrom taken rest
  | 0, lead :: rest =>
    let (piece, more) := first lead rest
    piece :: piecesFrom more rest

def pieces (bytes : Bytes) : List (Option Char) := piecesFrom 0 bytes

/-- The text of well-formed bytes. -/
def decode? (bytes : Bytes) : Option String := ((pieces bytes).mapM id).map String.ofList

/-- The text with U+FFFD for each maximal ill-formed sequence. -/
def decodeLossy (bytes : Bytes) : String :=
  String.ofList ((pieces bytes).map (·.getD '\uFFFD'))

def encode (s : String) : Bytes := s.toList.flatMap String.utf8EncodeChar

theorem encode_ofList (cs : List Char) :
    encode (String.ofList cs) = cs.flatMap String.utf8EncodeChar := by
  rw [encode, String.toList_ofList]

theorem encode_injective : Function.Injective encode := by
  intro s t h
  have hbytes : s.toList.utf8Encode = t.toList.utf8Encode := congrArg List.toByteArray h
  rw [String.utf8Encode_toList, String.utf8Encode_toList] at hbytes
  exact String.toByteArray_inj.mp hbytes

/-- Length of the encoded text. -/
def size (s : String) : Nat := (encode s).length

end Utf8
end EtlSurvey.Text
