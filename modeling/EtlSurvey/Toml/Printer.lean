import EtlSurvey.Toml.Reader

/-! Writing keys and values of TOML documents. A text is written in the first way that it has no
need of escapes in: between double or single quotes, on one line or on several. -/

namespace EtlSurvey.Toml

def upperHexDigit (n : Nat) : Char := (Text.hexDigit n).toUpper

def escaped (c : Char) : List Char :=
  if c == '"' then ['\\', '"']
  else if c == '\\' then ['\\', '\\']
  else if c == '\n' then ['\\', 'n']
  else if c == '\r' then ['\\', 'r']
  else if c == '\t' then ['\\', 't']
  else if c == '\x08' then ['\\', 'b']
  else if c == '\x0c' then ['\\', 'f']
  else if c.toNat < 0x20 || c.toNat == 0x7F then
    ['\\', 'u', '0', '0', upperHexDigit (c.toNat / 16), upperHexDigit (c.toNat % 16)]
  else [c]

/-- The character can only be written as an escape. A tab and a line break can stand as they are in
some way of writing. -/
def needsEscape (c : Char) : Bool :=
  (c.toNat < 0x20 && c != '\t' && c != '\n') || c.toNat == 0x7F

/-- Length of the longest run of a character. -/
def longestRun (c : Char) (cs : List Char) : Nat :=
  (cs.foldl (fun (run, longest) d =>
    let run := if d == c then run + 1 else 0
    (run, max run longest)) (0, 0)).2

/-- Ways to write a text. -/
inductive TextStyle where
  /-- In double quotes, with escapes. -/
  | basic
  /-- In single quotes, as it is. -/
  | literal
  /-- In three double quotes, with escapes; lines break as they are. -/
  | longBasic
  /-- In three single quotes, as it is. -/
  | longLiteral
  deriving DecidableEq, Repr

namespace TextStyle

/-- The way to write a text, by what it holds. -/
def ofText (cs : List Char) : TextStyle :=
  let plain := !cs.any needsEscape
  let noBackslash := !cs.contains '\\'
  let oneLine := !cs.contains '\n'
  let double := longestRun '"' cs
  let single := longestRun '\x27' cs
  if plain && noBackslash && double == 0 && oneLine then basic
  else if plain && single == 0 && oneLine then literal
  else if plain && noBackslash && double ≤ 2 then longBasic
  else if plain && single ≤ 2 then longLiteral
  else if oneLine then basic
  else longBasic

/-- The way to write a key that is not bare. Keys stand on one line. -/
def ofKey (cs : List Char) : TextStyle :=
  let plain := !cs.any needsEscape && !cs.contains '\n'
  if plain && !cs.contains '\\' && !cs.contains '"' then basic
  else if plain && !cs.contains '\x27' then literal
  else basic

end TextStyle

/-- A text between three double quotes: of three quotes in a row the last is escaped. -/
def longEscaped : Nat → List Char → List Char
  | _, [] => []
  | quotes, c :: rest =>
    if c == '"' then
      if quotes == 2 then escaped c ++ longEscaped 0 rest else c :: longEscaped (quotes + 1) rest
    else (if c == '\n' then [c] else escaped c) ++ longEscaped 0 rest

/-- A line break behind three quotes does not count, so one stands in front of a text with lines. -/
def longQuoted (quote : Char) (cs body : List Char) : List Char :=
  List.replicate 3 quote ++ (if cs.contains '\n' then ['\n'] else []) ++ body ++
    List.replicate 3 quote

def printStyled (style : TextStyle) (cs : List Char) : String :=
  String.ofList <| match style with
  | .basic => '"' :: cs.flatMap escaped ++ ['"']
  | .literal => '\x27' :: cs ++ ['\x27']
  | .longBasic => longQuoted '"' cs (longEscaped 0 cs)
  | .longLiteral => longQuoted '\x27' cs cs

def printText (s : String) : String := printStyled (.ofText s.toList) s.toList

def printKey (s : String) : String :=
  if !s.isEmpty && s.toList.all Reader.isBareKeyChar then s
  else printStyled (.ofKey s.toList) s.toList

def printBool (b : Bool) : String := if b then "true" else "false"

/-- A list of texts, on lines of their own if there are several. -/
def printTexts (items : List String) : String :=
  match items with
  | [] => "[]"
  | [item] => "[" ++ printText item ++ "]"
  | _ => "[\n" ++ String.join (items.map fun item => "    " ++ printText item ++ ",\n") ++ "]"

end EtlSurvey.Toml
