import EtlSurvey.Markup.Reference
import EtlSurvey.Markup.Token

/-! Names and attributes inside the brackets of a start tag. -/

namespace EtlSurvey.Markup
open Text

/-- A start tag as written: its name and its attributes, in order, with prefixes. -/
structure Tag where
  name : String
  attributes : List (String × String)
  deriving DecidableEq, Repr

/-- Attributes of what follows the name. A key goes from its first byte, which may be an equals
sign, to the next equals sign or space. A key without an equals sign after it is skipped, and so is
one whose value has no quotes; the scan ends where a quote stays open. -/
def attributesFrom : Nat → Bytes → List (Bytes × Bytes)
  | 0, _ => []
  | fuel + 1, bytes =>
    match bytes.dropWhile isSpaceByte with
    | [] => []
    | first :: rest =>
      let more := rest.takeWhile fun b => b != 0x3D && !isSpaceByte b
      match (rest.drop more.length).dropWhile isSpaceByte with
      | 0x3D :: rest =>
        match rest.dropWhile isSpaceByte with
        | [] => []
        | quote :: rest =>
          if quote == 0x22 || quote == 0x27 then
            let value := rest.takeWhile (· != quote)
            match rest.drop value.length with
            | [] => []
            | _ :: rest => (first :: more, value) :: attributesFrom fuel rest
          else attributesFrom fuel (rest.dropWhile fun b => !isSpaceByte b)
      | rest => attributesFrom fuel rest

/-- Each attribute takes at least one byte. -/
def attributePieces (bytes : Bytes) : List (Bytes × Bytes) := attributesFrom bytes.length bytes

def Tag.ofContent (content : Bytes) : Tag :=
  let name := content.takeWhile fun b => !isSpaceByte b
  { name := Utf8.decodeLossy name
    attributes := (attributePieces (content.drop name.length)).map fun (key, value) =>
      (Utf8.decodeLossy key, textOf value) }

end EtlSurvey.Markup
