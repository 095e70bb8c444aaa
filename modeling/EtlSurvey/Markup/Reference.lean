import EtlSurvey.Text.Basic
import EtlSurvey.Text.Utf8

/-! Character references in values and character data. A piece of text is replaced as a whole: if
one reference in it is bad, the piece stays as it was written. -/

namespace EtlSurvey.Markup
open Text

def namedReference? (name : String) : Option Char :=
  match name with
  | "lt" => some '<'
  | "gt" => some '>'
  | "amp" => some '&'
  | "apos" => some '\x27'
  | "quot" => some '"'
  | _ => none

def hexNatural? (digits : List Char) : Option Nat :=
  if digits.isEmpty then none
  else digits.foldlM (fun n c => (hexValue? c).map (n * 16 + ·)) 0

/-- Character of a code point that is neither zero nor a surrogate. -/
def scalar? (n : Nat) : Option Char :=
  if n != 0 && n.isValidChar then some (Char.ofNat n) else none

/-- Character that a reference between ampersand and semicolon stands for. -/
def reference? (body : List Char) : Option Char :=
  match body with
  | '#' :: 'x' :: digits => (hexNatural? digits).bind scalar?
  | '#' :: digits => (natural? digits).bind scalar?
  | name => namedReference? (String.ofList name)

/-- Text with its references replaced; none if one is bad. The first argument holds the body of
the reference that is being read, last character first. -/
def unescapeFrom : Option (List Char) → List Char → Option (List Char)
  | none, [] => some []
  | some _, [] => none
  | none, c :: rest =>
    if c == '&' then unescapeFrom (some []) rest
    else (unescapeFrom none rest).map (c :: ·)
  | some body, c :: rest =>
    if c == ';' then do
      let meant ← reference? body.reverse
      let after ← unescapeFrom none rest
      return meant :: after
    else if c == '&' then none
    else unescapeFrom (some (c :: body)) rest

/-- Text of a value or of character data. -/
def textOf (bytes : Bytes) : String :=
  match (Utf8.decode? bytes).bind fun s => unescapeFrom none s.toList with
  | some chars => String.ofList chars
  | none => Utf8.decodeLossy bytes

end EtlSurvey.Markup
