import EtlSurvey.Text.Utf8

/-! Cutting a document into markup tokens. A token is fixed once its closing byte is read; what
cannot be closed is a fault with a position in bytes. Comments, document types and processing
instructions yield no token. -/

namespace EtlSurvey.Markup
open Text

inductive Fault where
  /-- An exclamation mark that begins nothing known. -/
  | unknownMarkup
  | openInstruction
  | openComment
  | openDoctype
  | openCData
  | openTag
  | namelessDoctype
  deriving DecidableEq, Repr

def Fault.message : Fault → String
  | .unknownMarkup => "syntax error: unknown or missed symbol in markup"
  | .openInstruction => "syntax error: processing instruction or xml declaration not closed: " ++
      "`?>` not found before end of input"
  | .openComment => "syntax error: comment not closed: `-->` not found before end of input"
  | .openDoctype => "syntax error: DOCTYPE not closed: `>` not found before end of input"
  | .openCData => "syntax error: CDATA not closed: `]]>` not found before end of input"
  | .openTag => "syntax error: tag not closed: `>` not found before end of input"
  | .namelessDoctype => "ill-formed document: `<!DOCTYPE>` declaration does not contain a name " ++
      "of a document type"

/-- A fault and its place. -/
structure Failure where
  fault : Fault
  position : Nat
  deriving DecidableEq, Repr

inductive Token where
  /-- Character data without the blanks around it. -/
  | text (bytes : Bytes)
  | cdata (bytes : Bytes)
  /-- What stands between the brackets of a start tag. -/
  | opening (content : Bytes)
  /-- The same for an element without content, less the final slash. -/
  | empty (content : Bytes)
  | closing
  deriving DecidableEq, Repr

def isSpaceByte (b : UInt8) : Bool := b == 0x20 || b == 0x0A || b == 0x0D || b == 0x09

def trimEndBytes (bytes : Bytes) : Bytes := (bytes.reverse.dropWhile isSpaceByte).reverse

/-- Content up to the first closing bracket outside quotes, and the rest after the bracket. The
first argument is the quote that is open. -/
def tagEnd : Option UInt8 → Bytes → Option (Bytes × Bytes)
  | _, [] => none
  | quote, b :: rest =>
    if quote.isNone && b == 0x3E then some ([], rest)
    else
      let quote :=
        match quote with
        | some q => if b == q then none else some q
        | none => if b == 0x22 || b == 0x27 then some b else none
      (tagEnd quote rest).map fun (content, after) => (b :: content, after)

/-- Content up to the first closing bracket that comes after the given ending, at the given
distance from the start or later. `seen` is the content so far, last byte first. -/
def markEnd (ending : Bytes) (atLeast : Nat) (seen : Bytes) : Bytes → Option (Bytes × Bytes)
  | [] => none
  | b :: rest =>
    if b == 0x3E && ending.reverse.isPrefixOf seen && atLeast ≤ seen.length then
      some (seen.reverse, rest)
    else markEnd ending atLeast (b :: seen) rest

/-- Content of a document type up to the bracket that balances its opening one; `depth` brackets
are open besides. -/
def doctypeEnd (depth : Nat) : Bytes → Option (Bytes × Bytes)
  | [] => none
  | b :: rest =>
    if b == 0x3E && depth == 0 then some ([], rest)
    else
      let depth := if b == 0x3C then depth + 1 else if b == 0x3E then depth - 1 else depth
      (doctypeEnd depth rest).map fun (content, after) => (b :: content, after)

def cdataOpening : Bytes := "![CDATA[".toUTF8.toList
def doctypeOpening : Bytes := "!DOCTYPE".toUTF8.toList

def upperByte (b : UInt8) : UInt8 := if 0x61 ≤ b && b ≤ 0x7A then b - 0x20 else b

/-- A token, if there is one, the number of bytes between its brackets, and the rest. -/
structure Cut where
  token : Option Token
  size : Nat
  rest : Bytes

/-- Markup that begins with an exclamation mark, which `body` starts with. A fault comes with its
distance from the opening bracket. -/
def bangMarkup (body : Bytes) : Except (Fault × Nat) Cut :=
  match (body.drop 1).head? with
  | some 0x5B =>
    match markEnd [0x5D, 0x5D] 0 [] body with
    | some (content, rest) =>
      if cdataOpening.isPrefixOf content then
        .ok ⟨some (.cdata ((content.drop 8).take (content.length - 10))), content.length, rest⟩
      else .error (.openCData, 0)
    | none => .error (.openCData, 0)
  | some 0x2D =>
    match markEnd [0x2D, 0x2D] 5 [] body with
    | some (content, rest) =>
      if [0x21, 0x2D, 0x2D].isPrefixOf content then .ok ⟨none, content.length, rest⟩
      else .error (.openComment, 0)
    | none => .error (.openComment, 0)
  | some b =>
    if upperByte b != 0x44 then .error (.unknownMarkup, 0)
    else match doctypeEnd 0 body with
      | some (content, rest) =>
        if !doctypeOpening.isPrefixOf (content.map upperByte) then .error (.openDoctype, 0)
        else if ((content.drop 8).dropWhile isSpaceByte).isEmpty then
          .error (.namelessDoctype, content.length + 1)
        else .ok ⟨none, content.length, rest⟩
      | none => .error (.openDoctype, 0)
  | none => .error (.unknownMarkup, 0)

/-- Markup after its opening bracket. -/
def markup (body : Bytes) : Except (Fault × Nat) Cut :=
  match body with
  | [] => .error (.openTag, 0)
  | 0x21 :: _ => bangMarkup body
  | 0x3F :: _ =>
    match markEnd [0x3F] 0 [] body with
    | some (content, rest) =>
      if content.length == 1 then .error (.openInstruction, 0)
      else .ok ⟨none, content.length, rest⟩
    | none => .error (.openInstruction, 0)
  | first :: _ =>
    match tagEnd none body with
    | none => .error (.openTag, 0)
    | some (content, rest) =>
      let token :=
        if first == 0x2F then .closing
        else if content.getLast? == some 0x2F then .empty content.dropLast
        else .opening content
      .ok ⟨some token, content.length, rest⟩

/-- Tokens up to the end or the first fault. -/
def scanFrom : Nat → Nat → Bytes → List Token × Option Failure
  | 0, _, _ => ([], none)
  | fuel + 1, position, bytes =>
    let position := position + (bytes.takeWhile isSpaceByte).length
    let rest := bytes.dropWhile isSpaceByte
    match rest with
    | [] => ([], none)
    | 0x3C :: body =>
      match markup body with
      | .error (fault, distance) => ([], some ⟨fault, position + distance⟩)
      | .ok cut =>
        let (tokens, failure) := scanFrom fuel (position + cut.size + 2) cut.rest
        (cut.token.toList ++ tokens, failure)
    | _ =>
      let text := rest.takeWhile (· != 0x3C)
      let (tokens, failure) :=
        scanFrom fuel (position + text.length) (rest.dropWhile (· != 0x3C))
      (.text (trimEndBytes text) :: tokens, failure)

/-- Each round takes at least one byte, so the length bounds the rounds. A byte order mark in
front does not count. -/
def scan (bytes : Bytes) : List Token × Option Failure :=
  let bytes := if [0xEF, 0xBB, 0xBF].isPrefixOf bytes then bytes.drop 3 else bytes
  scanFrom (bytes.length + 1) 0 bytes

end EtlSurvey.Markup
