import EtlSurvey.Json.Value
import EtlSurvey.Text.Basic

/-! Reading JSON text. A reading function takes the characters that are left and returns what it
has read and the rest. Nesting is bounded by the length of the text. -/

namespace EtlSurvey.Json.Reader

def skipSpace (s : List Char) : List Char := s.dropWhile isSpace

/-- A piece of a string: a character, or half of a surrogate pair given by an escape. -/
inductive Piece where
  | char (c : Char)
  | half (unit : Nat)

/-- Joins neighbouring halves; none if a half is left alone. -/
def joinPieces : List Piece → Option (List Char)
  | [] => some []
  | .char c :: rest => (joinPieces rest).map (c :: ·)
  | .half high :: .half low :: rest =>
    if high < 0xDC00 && 0xDC00 ≤ low then
      (joinPieces rest).map
        (Char.ofNat (0x10000 + (high - 0xD800) * 0x400 + (low - 0xDC00)) :: ·)
    else none
  | .half _ :: _ => none

def hex4? (a b c d : Char) : Option Nat := do
  let a ← Text.hexValue? a
  let b ← Text.hexValue? b
  let c ← Text.hexValue? c
  let d ← Text.hexValue? d
  return ((a * 16 + b) * 16 + c) * 16 + d

def pieceOfUnit (n : Nat) : Piece :=
  if 0xD800 ≤ n && n ≤ 0xDFFF then .half n else .char (Char.ofNat n)

/-- Meaning of the character after a backslash, for the short escapes. -/
def shortEscape? (c : Char) : Option Char :=
  if c == '"' || c == '\\' || c == '/' then some c
  else if c == 'b' then some '\x08'
  else if c == 'f' then some '\x0c'
  else if c == 'n' then some '\n'
  else if c == 'r' then some '\r'
  else if c == 't' then some '\t'
  else none

/-- The pieces of a string after its opening quote, and what follows the closing one. -/
def stringBody : List Char → Option (List Piece × List Char)
  | [] => none
  | '"' :: rest => some ([], rest)
  | '\\' :: 'u' :: a :: b :: c :: d :: rest => do
    let n ← hex4? a b c d
    let (pieces, after) ← stringBody rest
    return (pieceOfUnit n :: pieces, after)
  | '\\' :: e :: rest => do
    let c ← shortEscape? e
    let (pieces, after) ← stringBody rest
    return (.char c :: pieces, after)
  | c :: rest =>
    if c == '\\' || c.toNat < 0x20 then none
    else do
      let (pieces, after) ← stringBody rest
      return (.char c :: pieces, after)

/-- A string after its opening quote; none inside stands for a string that is no text. -/
def string? (s : List Char) : Option (Option String × List Char) :=
  (stringBody s).map fun (pieces, after) => ((joinPieces pieces).map String.ofList, after)

def digits (s : List Char) : List Char := s.takeWhile Char.isDigit

def afterDigits (s : List Char) : List Char := s.dropWhile Char.isDigit

/-- The fraction, if any. -/
def fraction? (s : List Char) : Option (List Char × List Char) :=
  match s with
  | '.' :: rest =>
    if (digits rest).isEmpty then none else some ('.' :: digits rest, afterDigits rest)
  | _ => some ([], s)

/-- The exponent, if any. -/
def exponent? (s : List Char) : Option (List Char × List Char) :=
  match s with
  | e :: rest =>
    if e == 'e' || e == 'E' then
      let (sign, rest) := match rest with
        | '+' :: r => (['+'], r)
        | '-' :: r => (['-'], r)
        | r => ([], r)
      if (digits rest).isEmpty then none
      else some (e :: sign ++ digits rest, afterDigits rest)
    else some ([], s)
  | [] => some ([], s)

/-- A number after its sign. Leading zeros are refused, and a negative zero is no integer. -/
def number? (negative : Bool) (s : List Char) : Option (Value × List Char) := do
  let whole := digits s
  if whole.isEmpty || (whole.head? == some '0' && whole.length != 1) then none
  let (fraction, rest) ← fraction? (afterDigits s)
  let (exponent, rest) ← exponent? rest
  let n ← Text.natural? whole
  if fraction.isEmpty && exponent.isEmpty && !(negative && n == 0) then
    return (.int (if negative then -(n : Int) else n), rest)
  else
    let sign := if negative then ['-'] else []
    return (.number (String.ofList (sign ++ whole ++ fraction ++ exponent)), rest)

/-- The rest after an expected word. -/
def word? (w : String) (s : List Char) : Option (List Char) :=
  if w.toList.isPrefixOf s then some (s.drop w.length) else none

mutual

def value? : Nat → List Char → Option (Value × List Char)
  | 0, _ => none
  | fuel + 1, s =>
    match s with
    | 'n' :: _ => (word? "null" s).map fun rest => (.null, rest)
    | 't' :: _ => (word? "true" s).map fun rest => (.bool true, rest)
    | 'f' :: _ => (word? "false" s).map fun rest => (.bool false, rest)
    | '"' :: rest => (string? rest).map fun (t, after) =>
      (match t with | some t => .text t | none => .brokenText, after)
    | '[' :: rest =>
      match skipSpace rest with
      | ']' :: after => some (.list [], after)
      | rest => do
        let (item, rest) ← value? fuel rest
        let (items, after) ← items? fuel (skipSpace rest)
        return (.list (item :: items), after)
    | '\x7b' :: rest =>
      match skipSpace rest with
      | '\x7d' :: after => some (.object [], after)
      | rest => do
        let (first, rest) ← member? fuel rest
        let (members, after) ← members? fuel (skipSpace rest)
        return (.object (first :: members), after)
    | '-' :: rest => number? true rest
    | _ => number? false s

/-- Key, colon and value. -/
def member? : Nat → List Char → Option ((Option String × Value) × List Char)
  | 0, _ => none
  | fuel + 1, s =>
    match s with
    | '"' :: rest => do
      let (key, rest) ← string? rest
      match skipSpace rest with
      | ':' :: rest =>
        let (value, rest) ← value? fuel (skipSpace rest)
        return ((key, value), rest)
      | _ => none
    | _ => none

/-- The items after the first, and the closing bracket. -/
def items? : Nat → List Char → Option (List Value × List Char)
  | 0, _ => none
  | fuel + 1, s =>
    match s with
    | ']' :: after => some ([], after)
    | ',' :: rest => do
      let (item, rest) ← value? fuel (skipSpace rest)
      let (items, after) ← items? fuel (skipSpace rest)
      return (item :: items, after)
    | _ => none

/-- The members after the first, and the closing brace. -/
def members? : Nat → List Char → Option (List (Option String × Value) × List Char)
  | 0, _ => none
  | fuel + 1, s =>
    match s with
    | '\x7d' :: after => some ([], after)
    | ',' :: rest => do
      let (first, rest) ← member? fuel (skipSpace rest)
      let (members, after) ← members? fuel (skipSpace rest)
      return (first :: members, after)
    | _ => none

end

end Reader

/-- The value that a whole text holds. Each level of reading takes at least one character or is
followed by one that does, so twice the length bounds the depth. -/
def Value.read? (s : String) : Option Value := do
  let chars := s.toList
  let (value, rest) ← Reader.value? (2 * chars.length + 2) (Reader.skipSpace chars)
  if (Reader.skipSpace rest).isEmpty then some value else none

end EtlSurvey.Json
