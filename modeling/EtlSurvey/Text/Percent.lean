import EtlSurvey.Text.Basic
import EtlSurvey.Text.Utf8

/-! Names as archives write them: in code page 437 unless they say otherwise, and percent-encoded,
where a percent sign and two digits stand for one byte. -/

namespace EtlSurvey.Text

namespace CodePage437

/-- Characters of the bytes from 0x80 on. -/
def upperHalf : List Char :=
  "ÇüéâäàåçêëèïîìÄÅÉæÆôöòûùÿÖÜ¢£¥₧ƒáíóúñÑªº¿⌐¬½¼¡«»░▒▓│┤╡╢╖╕╣║╗╝╜╛┐└┴┬├─┼╞╟╚╔╩╦╠═╬╧╨╤╥╙╘╒╓╫╪┘┌█▄▌▐▀αßΓπΣσµτΦΘΩδ∞φε∩≡±≥≤⌠⌡÷≈°∙·√ⁿ²■\u00A0".toList

def char (b : UInt8) : Char :=
  if b < 0x80 then Char.ofNat b.toNat else upperHalf.getD (b.toNat - 0x80) '\uFFFD'

def decode (bytes : Bytes) : String := String.ofList (bytes.map char)

end CodePage437

namespace Percent

def digit? (b : UInt8) : Option Nat := if b < 0x80 then hexValue? (Char.ofNat b.toNat) else none

/-- Byte that a pair denotes: two hexadecimal digits, or one digit after a plus sign. -/
def pair? (a b : UInt8) : Option UInt8 :=
  if a == 0x2B then (digit? b).map UInt8.ofNat
  else match digit? a, digit? b with
    | some high, some low => some (UInt8.ofNat (high * 16 + low))
    | _, _ => none

/-- Replaces escapes from left to right; a percent sign that starts none stays. The first argument
counts bytes that the escape before has already taken. -/
def decodeFrom : Nat → Bytes → Bytes
  | _, [] => []
  | taken + 1, _ :: rest => decodeFrom taken rest
  | 0, c :: rest =>
    match if c == 0x25 then rest else [] with
    | a :: b :: _ =>
      match pair? a b with
      | some value => value :: decodeFrom 2 rest
      | none => c :: decodeFrom 0 rest
    | _ => c :: decodeFrom 0 rest

def decodeBytes (bytes : Bytes) : Bytes := decodeFrom 0 bytes

/-- The decoded name, or the name as it is when the bytes are not UTF-8. -/
def decode (name : String) : String :=
  (Utf8.decode? (decodeBytes (Utf8.encode name))).getD name

end Percent
end EtlSurvey.Text
