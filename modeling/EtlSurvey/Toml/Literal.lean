import EtlSurvey.Text.Basic

/-! Which runs of characters are numbers, dates or times. -/

namespace EtlSurvey.Toml
open Text

/-- Digits with single underscores between them, without the underscores. -/
def groupedDigits? (isDigit : Char → Bool) : List Char → Option (List Char)
  | [] => none
  | [c] => if isDigit c then some [c] else none
  | c :: '_' :: rest =>
    if isDigit c then (groupedDigits? isDigit rest).map (c :: ·) else none
  | c :: rest => if isDigit c then (groupedDigits? isDigit rest).map (c :: ·) else none

def dropSign (s : List Char) : List Char :=
  match s with
  | '+' :: rest | '-' :: rest => rest
  | _ => s

def isNegative (s : List Char) : Bool := s.head? == some '-'

/-- A decimal number without leading zeros. -/
def decimalDigits? (s : List Char) : Option (List Char) :=
  (groupedDigits? Char.isDigit s).filter fun digits => digits.head? != some '0' || s.length == 1

def radixValue (radix : Nat) (digits : List Char) : Nat :=
  digits.foldl (fun n c => n * radix + (hexValue? c).getD 0) 0

def isDigitBelow (radix : Nat) (c : Char) : Bool := (hexValue? c).any (· < radix)

/-- An integer of 64 bits: decimal with an optional sign, or in another base without. -/
def isInteger (s : List Char) : Bool :=
  let based := fun radix rest =>
    (groupedDigits? (isDigitBelow radix) rest).any (radixValue radix · < int64Limit)
  match s with
  | '0' :: 'x' :: rest => based 16 rest
  | '0' :: 'o' :: rest => based 8 rest
  | '0' :: 'b' :: rest => based 2 rest
  | _ => (decimalDigits? (dropSign s)).any fun digits =>
    let n := radixValue 10 digits
    if isNegative s then n ≤ int64Limit else n < int64Limit

/-- Whether digits times a power of ten round to something beyond the largest double. -/
def isBeyondDouble (digits : List Char) (exponent : Int) : Bool :=
  let digits := digits.dropWhile (· == '0')
  let n := radixValue 10 digits
  let limit := (1 <<< 1024) - (1 <<< 970)
  let magnitude := digits.length + exponent
  if digits.isEmpty || magnitude < 300 then false
  else if magnitude > 320 then true
  else if 0 ≤ exponent then n * Nat.pow 10 exponent.toNat ≥ limit
  else n ≥ limit * Nat.pow 10 (-exponent).toNat

def isDigitOrGap (c : Char) : Bool := c.isDigit || c == '_'

/-- Digits of a fraction and what comes after it. Without a point there are none. -/
def fraction? (s : List Char) : Option (List Char × List Char) :=
  match s with
  | '.' :: rest =>
    let digits := rest.takeWhile isDigitOrGap
    (groupedDigits? Char.isDigit digits).map fun d => (d, rest.drop digits.length)
  | _ => some ([], s)

/-- The exponent that ends a float. Without one it is zero. -/
def exponent? (s : List Char) : Option Int :=
  match s with
  | [] => some 0
  | 'e' :: rest | 'E' :: rest =>
    (groupedDigits? Char.isDigit (dropSign rest)).map fun digits =>
      let size : Int := radixValue 10 digits
      if isNegative rest then -size else size
  | _ => none

/-- A float with a fraction, an exponent or both. Positive ones must be finite. -/
def isDecimalFloat (s : List Char) : Bool :=
  let unsigned := dropSign s
  let whole := unsigned.takeWhile isDigitOrGap
  let tail := unsigned.drop whole.length
  match decimalDigits? whole, fraction? tail with
  | some digits, some (fraction, rest) => !tail.isEmpty && (exponent? rest).any fun exponent =>
    isNegative s || !isBeyondDouble (digits ++ fraction) (exponent - fraction.length)
  | _, _ => false

def isFloat (s : List Char) : Bool :=
  dropSign s == "inf".toList || dropSign s == "nan".toList || isDecimalFloat s

/-- Value of a field of the given number of digits. -/
def fixedDigits? (width : Nat) (s : List Char) : Option Nat :=
  if s.length == width then natural? s else none

def daysInMonth (year month : Nat) : Nat :=
  if month == 2 then
    if year % 4 == 0 && (year % 100 != 0 || year % 400 == 0) then 29 else 28
  else if month == 4 || month == 6 || month == 9 || month == 11 then 30
  else 31

/-- A day of the calendar, as year, month and day. -/
def isDate (s : List Char) : Bool :=
  match fixedDigits? 4 (s.take 4), fixedDigits? 2 ((s.drop 5).take 2), fixedDigits? 2 (s.drop 8) with
  | some year, some month, some day =>
    s[4]? == some '-' && s[7]? == some '-' && 1 ≤ month && month ≤ 12 && 1 ≤ day &&
      day ≤ daysInMonth year month
  | _, _, _ => false

/-- Hours and minutes. -/
def isClock (s : List Char) : Bool :=
  match fixedDigits? 2 (s.take 2), fixedDigits? 2 (s.drop 3) with
  | some hour, some minute => s[2]? == some ':' && hour ≤ 23 && minute ≤ 59
  | _, _ => false

/-- A time of day with seconds and perhaps a fraction of them. -/
def isTime (s : List Char) : Bool :=
  let seconds := (s.drop 6).take 2
  isClock (s.take 5) && s[5]? == some ':' && (fixedDigits? 2 seconds).any (· ≤ 60) &&
    match s.drop 8 with
    | [] => true
    | '.' :: fraction => !fraction.isEmpty && fraction.all Char.isDigit
    | _ => false

/-- Offset from universal time. -/
def isOffset (s : List Char) : Bool :=
  match s with
  | ['Z'] | ['z'] => true
  | '+' :: rest | '-' :: rest => isClock rest
  | _ => false

/-- A date and a time, with an offset or without. -/
def isDateTime (s : List Char) : Bool :=
  let time := s.drop 11
  let clock := time.takeWhile fun c => c.isDigit || c == ':' || c == '.'
  let offset := time.drop clock.length
  isDate (s.take 10) && (s[10]? == some 'T' || s[10]? == some 't' || s[10]? == some ' ') &&
    isTime clock && (offset.isEmpty || isOffset offset)

def isLiteral (s : List Char) : Bool :=
  isInteger s || isFloat s || isDate s || isTime s || isDateTime s

end EtlSurvey.Toml
