/-! Texts: folding, comparison and digits, white space, decimal integers, ascending order. Folding
and comparison touch ASCII letters only; white space is that of the Unicode White_Space property. -/

namespace EtlSurvey.Text

def asciiLower (s : String) : String := String.ofList (s.toList.map Char.toLower)

def asciiUpper (s : String) : String := String.ofList (s.toList.map Char.toUpper)

/-- Equality up to the case of ASCII letters. -/
def eqIgnoringCase (a b : String) : Bool :=
  a.toList.map Char.toLower == b.toList.map Char.toLower

/-- Value of a hexadecimal digit of either case. -/
def hexValue? (c : Char) : Option Nat :=
  if '0' ≤ c && c ≤ '9' then some (c.toNat - '0'.toNat)
  else if 'a' ≤ c && c ≤ 'f' then some (c.toNat - 'a'.toNat + 10)
  else if 'A' ≤ c && c ≤ 'F' then some (c.toNat - 'A'.toNat + 10)
  else none

/-- Digit of a value below sixteen, lower case. -/
def hexDigit (n : Nat) : Char :=
  if n < 10 then Char.ofNat ('0'.toNat + n) else Char.ofNat ('a'.toNat + (n - 10))

/-- Hexadecimal digits of a number without leading zeros. -/
def hexDigits (n : Nat) : List Char := Nat.toDigits 16 n

def blankRanges : List (Nat × Nat) := [
  (0x9, 0xd), (0x20, 0x20), (0x85, 0x85), (0xa0, 0xa0), (0x1680, 0x1680), (0x2000, 0x200a),
  (0x2028, 0x2029), (0x202f, 0x202f), (0x205f, 0x205f), (0x3000, 0x3000)]

/-- Membership of a code point in a table of inclusive ranges. -/
def inRanges (table : List (Nat × Nat)) (c : Char) : Bool :=
  table.any fun (low, high) => low ≤ c.toNat && c.toNat ≤ high

def isBlank (c : Char) : Bool := inRanges blankRanges c

def trimStartList (s : List Char) : List Char := s.dropWhile isBlank

def trimEndList (s : List Char) : List Char := (s.reverse.dropWhile isBlank).reverse

def trimList (s : List Char) : List Char := trimEndList (trimStartList s)

/-- The text without blanks at either end. -/
def trim (s : String) : String := String.ofList (trimList s.toList)

/-- The trimmed text, none if nothing is left. -/
def trimmed? (s : String) : Option String :=
  let t := trim s
  if t.isEmpty then none else some t

/-- The text unless it is empty. -/
def nonEmpty? (s : String) : Option String := if s.isEmpty then none else some s

def decimalDigit? (c : Char) : Option Nat :=
  if '0' ≤ c && c ≤ '9' then some (c.toNat - '0'.toNat) else none

/-- Value of a nonempty run of decimal digits. -/
def natural? (digits : List Char) : Option Nat :=
  if digits.isEmpty then none
  else digits.foldlM (fun n c => (decimalDigit? c).map (n * 10 + ·)) 0

/-- Magnitude of the least integer of 64 bits. -/
def int64Limit : Nat := 0x8000000000000000

/-- An optional sign and decimal digits, if the number has 64 bits. -/
def int64? (s : String) : Option Int :=
  let value := match s.toList with
    | '-' :: digits => (natural? digits).map fun n => -(n : Int)
    | '+' :: digits => (natural? digits).map fun n => (n : Int)
    | digits => (natural? digits).map fun n => (n : Int)
  value.filter fun n => -(int64Limit : Int) ≤ n && n < int64Limit

/-- Puts a text into an ascending list unless it is there. -/
def putText (s : String) : List String → List String
  | [] => [s]
  | t :: rest =>
    if s < t then s :: t :: rest
    else if s = t then t :: rest
    else t :: putText s rest

/-- The different texts of a list in ascending order. -/
def sortedDistinct (items : List String) : List String := items.foldr putText []

/-- Puts an item before the first one whose key is greater. -/
def putByKey (key : α → String) (a : α) : List α → List α
  | [] => [a]
  | b :: rest => if key b < key a then b :: putByKey key a rest else a :: b :: rest

/-- Items in ascending order of their keys; items of one key keep their order. -/
def sortByKey (key : α → String) (items : List α) : List α := items.foldr (putByKey key) []

end EtlSurvey.Text
