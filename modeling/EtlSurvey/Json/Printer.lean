import EtlSurvey.Json.Value
import EtlSurvey.Text.Basic

/-! JSON text: members in the order of the value, with the blanks of a layout. Control characters
are escaped, with a short form where there is one; all other characters stand for themselves. -/

namespace EtlSurvey.Json

def escapeChar (c : Char) : List Char :=
  if c == '"' then ['\\', '"']
  else if c == '\\' then ['\\', '\\']
  else if c == '\x08' then ['\\', 'b']
  else if c == '\x0c' then ['\\', 'f']
  else if c == '\n' then ['\\', 'n']
  else if c == '\r' then ['\\', 'r']
  else if c == '\t' then ['\\', 't']
  else if c.toNat < 0x20 then
    ['\\', 'u', '0', '0', Text.hexDigit (c.toNat / 16), Text.hexDigit (c.toNat % 16)]
  else [c]

def renderText (s : String) : List Char := '"' :: s.toList.flatMap escapeChar ++ ['"']

def renderInt : Int → List Char
  | .ofNat n => Nat.toDigits 10 n
  | .negSucc n => '-' :: Nat.toDigits 10 (n + 1)

/-- A string that is no text has no faithful form; a replacement character stands for it. -/
def renderKey (key : Option String) : List Char := renderText (key.getD "\uFFFD")

mutual

/-- The text of a value that stands inside as many brackets as `depth` says. -/
def Value.layOut (l : Layout) (depth : Nat) : Value → List Char
  | .null => "null".toList
  | .bool true => "true".toList
  | .bool false => "false".toList
  | .int n => renderInt n
  | .number literal => literal.toList
  | .text s => renderText s
  | .brokenText => renderKey none
  | .list [] => ['[', ']']
  | .list (item :: items) =>
    '[' :: l.lead (depth + 1) ++ item.layOut l (depth + 1) ++ layOutItems l depth items
  | .object [] => ['\x7b', '\x7d']
  | .object ((key, value) :: members) =>
    '\x7b' :: l.lead (depth + 1) ++ renderKey key ++ ':' :: l.gap ++ value.layOut l (depth + 1) ++
      layOutMembers l depth members

/-- The items after the first, and the closing bracket. -/
def layOutItems (l : Layout) (depth : Nat) : List Value → List Char
  | [] => l.lead depth ++ [']']
  | item :: items =>
    ',' :: l.lead (depth + 1) ++ item.layOut l (depth + 1) ++ layOutItems l depth items

/-- The members after the first, and the closing brace. -/
def layOutMembers (l : Layout) (depth : Nat) : List (Option String × Value) → List Char
  | [] => l.lead depth ++ ['\x7d']
  | (key, value) :: members =>
    ',' :: l.lead (depth + 1) ++ renderKey key ++ ':' :: l.gap ++ value.layOut l (depth + 1) ++
      layOutMembers l depth members

end

def Value.printWith (l : Layout) (v : Value) : String := String.ofList (v.layOut l 0)

def Value.print (v : Value) : String := v.printWith .compact

def Value.printIndented (v : Value) : String := v.printWith .indented

end EtlSurvey.Json
