import EtlSurvey.Text.Basic
import EtlSurvey.Toml.Literal
import EtlSurvey.Toml.Value

/-! Reading the lines of a TOML document. A reading function takes the characters that are left
and returns what it has read and the rest. -/

namespace EtlSurvey.Toml.Reader
open Text

def isSpace (c : Char) : Bool := c == ' ' || c == '\t'

def skipSpace (s : List Char) : List Char := s.dropWhile isSpace

/-- Characters that comments may hold. -/
def isCommentChar (c : Char) : Bool := c == '\t' || (0x20 ≤ c.toNat && c.toNat != 0x7F)

/-- The rest after a line break. -/
def newline? : List Char → Option (List Char)
  | '\n' :: rest => some rest
  | '\r' :: '\n' :: rest => some rest
  | _ => none

def skipComment (s : List Char) : List Char :=
  match s with
  | '#' :: rest => rest.dropWhile isCommentChar
  | _ => s

/-- Skips blanks, comments and line breaks. A comment that is not ended by a line break or by the
end of the text leaves a rest that nothing accepts. -/
def skipLines : Nat → List Char → List Char
  | 0, s => s
  | fuel + 1, s =>
    let s := skipComment (skipSpace s)
    match newline? s with
    | some rest => skipLines fuel rest
    | none => s

def unicodeEscape? (width : Nat) (s : List Char) : Option (Char × List Char) := do
  let digits := s.take width
  if digits.length != width then none
  let n ← digits.foldlM (fun n c => (hexValue? c).map (n * 16 + ·)) 0
  if n.isValidChar then some (Char.ofNat n, s.drop width) else none

/-- Meaning of an escape after its backslash. -/
def escape? : List Char → Option (Char × List Char)
  | 'b' :: rest => some ('\x08', rest)
  | 't' :: rest => some ('\t', rest)
  | 'n' :: rest => some ('\n', rest)
  | 'f' :: rest => some ('\x0c', rest)
  | 'r' :: rest => some ('\r', rest)
  | '"' :: rest => some ('"', rest)
  | '\\' :: rest => some ('\\', rest)
  | 'u' :: rest => unicodeEscape? 4 rest
  | 'U' :: rest => unicodeEscape? 8 rest
  | _ => none

/-- A string in double quotes after the opening one. -/
def basic? : Nat → List Char → Option (List Char × List Char)
  | 0, _ => none
  | fuel + 1, s =>
    match s with
    | [] => none
    | '"' :: rest => some ([], rest)
    | '\\' :: rest => do
      let (c, rest) ← escape? rest
      let (cs, after) ← basic? fuel rest
      return (c :: cs, after)
    | c :: rest =>
      if !isCommentChar c then none
      else do
        let (cs, after) ← basic? fuel rest
        return (c :: cs, after)

/-- A string in single quotes after the opening one. -/
def literal? (s : List Char) : Option (List Char × List Char) :=
  let body := s.takeWhile fun c => c != '\x27' && isCommentChar c
  match s.drop body.length with
  | '\x27' :: after => some (body, after)
  | _ => none

/-- The end of a string of several lines: three quotes, of which the first may be preceded by two
more that belong to the string. -/
def closing? (quote : Char) (s : List Char) : Option (List Char × List Char) :=
  let run := (s.takeWhile (· == quote)).length
  if run < 3 then none
  else
    let taken := min run 5
    some (List.replicate (taken - 3) quote, s.drop taken)

/-- Skips blanks and line breaks. -/
def skipBlankLines : List Char → List Char
  | '\r' :: '\n' :: rest => skipBlankLines rest
  | c :: rest => if isSpace c || c == '\n' then skipBlankLines rest else c :: rest
  | [] => []

/-- The rest after a backslash at the end of a line, the line break and all blanks after it. -/
def joinedLine? (s : List Char) : Option (List Char) :=
  (newline? (skipSpace s)).map skipBlankLines

/-- A string of several lines after its opening quotes; single quotes know no escapes. Line breaks
count as one line feed. -/
def multiline? (quote : Char) : Nat → List Char → Option (List Char × List Char)
  | 0, _ => none
  | fuel + 1, s =>
    match closing? quote s with
    | some (quotes, after) => some (quotes, after)
    | none =>
      match newline? s with
      | some rest => do
        let (cs, after) ← multiline? quote fuel rest
        return ('\n' :: cs, after)
      | none =>
        match s with
        | [] => none
        | c :: rest =>
          if c == '\\' && quote == '"' then
            match joinedLine? rest with
            | some rest => multiline? quote fuel rest
            | none => do
              let (c, rest) ← escape? rest
              let (cs, after) ← multiline? quote fuel rest
              return (c :: cs, after)
          else if !isCommentChar c then none
          else do
            let (cs, after) ← multiline? quote fuel rest
            return (c :: cs, after)

/-- A line break right after the opening quotes does not count. -/
def dropFirstBreak (s : List Char) : List Char := (newline? s).getD s

/-- A string of any form; none if the text does not begin with a quote. -/
def string? (s : List Char) : Option (List Char × List Char) :=
  match s with
  | '"' :: '"' :: '"' :: rest => multiline? '"' (rest.length + 1) (dropFirstBreak rest)
  | '\x27' :: '\x27' :: '\x27' :: rest =>
    multiline? '\x27' (rest.length + 1) (dropFirstBreak rest)
  | '"' :: rest => basic? (rest.length + 1) rest
  | '\x27' :: rest => literal? rest
  | _ => none

def isBareKeyChar (c : Char) : Bool := c.isAlphanum || c == '_' || c == '-'

/-- One part of a key: bare, or a string of one line. -/
def simpleKey? (s : List Char) : Option (String × List Char) :=
  match s with
  | '"' :: rest => (basic? (rest.length + 1) rest).map fun (cs, r) => (String.ofList cs, r)
  | '\x27' :: rest => (literal? rest).map fun (cs, r) => (String.ofList cs, r)
  | _ =>
    let body := s.takeWhile isBareKeyChar
    if body.isEmpty then none else some (String.ofList body, s.drop body.length)

/-- Nesting of values and keys ends below this depth. -/
def depthLimit : Nat := 80

/-- Parts of a dotted key, with blanks around the dots. -/
def keyPath? : Nat → List Char → Option (List String × List Char)
  | 0, _ => none
  | fuel + 1, s => do
    let (part, rest) ← simpleKey? (skipSpace s)
    match skipSpace rest with
    | '.' :: rest =>
      let (parts, after) ← keyPath? fuel rest
      return (part :: parts, after)
    | rest => return ([part], rest)

def key? (s : List Char) : Option (List String × List Char) := keyPath? (depthLimit - 1) s

/-- Longest run of characters that numbers, dates and words consist of; a date may be joined to a
time by a blank. -/
def bareToken (s : List Char) : List Char :=
  let isPart := fun c : Char => c.isAlphanum || c == '+' || c == '-' || c == '.' || c == '_' ||
    c == ':'
  let token := s.takeWhile isPart
  match s.drop token.length with
  | ' ' :: c :: rest =>
    if isDate token && c.isDigit then token ++ ' ' :: (c :: rest).takeWhile isPart else token
  | _ => token

def bareValue? (s : List Char) : Option (Value × List Char) :=
  let token := bareToken s
  let rest := s.drop token.length
  if token == "true".toList then some (.bool true, rest)
  else if token == "false".toList then some (.bool false, rest)
  else if isLiteral token then some (.literal (String.ofList token), rest)
  else none

/-- The table of an inline table's entries. -/
def inlineTable (entries : List (List String × Value)) : Option Value := do
  let entries ← entries.foldlM (fun (es : Entries) (path, v) => do
    let key ← path.getLast?
    assign path.dropLast key (.leaf v) es) []
  return .table (entriesToValues entries)

mutual

/-- A value at a depth of nesting. -/
def value? (depth : Nat) : Nat → List Char → Option (Value × List Char)
  | 0, _ => none
  | fuel + 1, s =>
    match s with
    | '[' :: rest =>
      if depth + 1 ≥ depthLimit then none
      else (items? (depth + 1) fuel (skipLines fuel rest)).map fun (items, after) =>
        (.list items, after)
    | '\x7b' :: rest =>
      if depth + 1 ≥ depthLimit then none
      else match skipSpace rest with
        | '\x7d' :: after => some (.table [], after)
        | rest => do
          let (entries, after) ← entries? (depth + 1) fuel rest
          return (← inlineTable entries, after)
    | '"' :: _ | '\x27' :: _ => (string? s).map fun (cs, rest) => (.text (String.ofList cs), rest)
    | _ => bareValue? s

/-- Items of a list up to the closing bracket; the last one may be followed by a comma. -/
def items? (depth : Nat) : Nat → List Char → Option (List Value × List Char)
  | 0, _ => none
  | fuel + 1, s =>
    match s with
    | ']' :: after => some ([], after)
    | _ => do
      let (item, rest) ← value? depth fuel s
      match skipLines fuel rest with
      | ',' :: rest =>
        let (items, after) ← items? depth fuel (skipLines fuel rest)
        return (item :: items, after)
      | ']' :: after => return ([item], after)
      | _ => none

/-- Entries of an inline table, at least one, up to the closing brace. -/
def entries? (depth : Nat) : Nat → List Char → Option (List (List String × Value) × List Char)
  | 0, _ => none
  | fuel + 1, s => do
    let (path, rest) ← key? s
    match rest with
    | '=' :: rest =>
      let (v, rest) ← value? depth fuel (skipSpace rest)
      match skipSpace rest with
      | ',' :: rest =>
        let (entries, after) ← entries? depth fuel rest
        return ((path, v) :: entries, after)
      | '\x7d' :: after => return ([(path, v)], after)
      | _ => none
    | _ => none

end

inductive Statement where
  | header (path : List String)
  | listHeader (path : List String)
  | assignment (path : List String) (v : Value)

/-- One statement, up to the blanks after it. -/
def statement? (fuel : Nat) (s : List Char) : Option (Statement × List Char) :=
  match s with
  | '[' :: '[' :: rest => do
    let (path, rest) ← key? rest
    match rest with
    | ']' :: ']' :: rest => return (.listHeader path, rest)
    | _ => none
  | '[' :: rest => do
    let (path, rest) ← key? rest
    match rest with
    | ']' :: rest => return (.header path, rest)
    | _ => none
  | _ => do
    let (path, rest) ← key? s
    match rest with
    | '=' :: rest =>
      let (v, rest) ← value? 0 fuel (skipSpace rest)
      return (.assignment path v, rest)
    | _ => none

/-- The statements of a text, each on lines of its own. -/
def statements? : Nat → List Char → Option (List Statement)
  | 0, _ => none
  | fuel + 1, s =>
    match skipLines fuel s with
    | [] => some []
    | s => do
      let (first, rest) ← statement? fuel s
      match skipComment (skipSpace rest) with
      | [] => return [first]
      | rest =>
        let rest ← newline? rest
        let others ← statements? fuel rest
        return first :: others

end EtlSurvey.Toml.Reader
