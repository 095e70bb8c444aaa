import EtlSurvey.Text.Basic
import EtlSurvey.Text.Glob

/-! References to variables and parameters inside expressions. A reference is written
`@[Scope::Name]`; its name runs to the next closing bracket and is not empty. -/

namespace EtlSurvey.Expression
open Text

/-- The two families of references. -/
inductive Family where
  | variable
  | parameter
  deriving DecidableEq, Repr

/-- Scopes of a family as they are written. -/
def Family.scopes : Family → List String
  | .variable => ["User", "System"]
  | .parameter => ["$Package", "$Project"]

structure Reference where
  scope : String
  name : String
  deriving DecidableEq, Repr

/-- Scope and name, as records list them. -/
def Reference.path (r : Reference) : String := r.scope ++ "::" ++ r.name

/-- A piece of an expression: a character of its own, or a reference. -/
inductive Piece where
  | plain (c : Char)
  | reference (r : Reference)
  deriving DecidableEq, Repr

/-- Characters up to the next closing bracket, if there is one and something before it. -/
def bracketed? (s : List Char) : Option (List Char) :=
  let body := s.takeWhile (· != ']')
  if body.isEmpty || body.length == s.length then none else some body

/-- The reference that a text begins with, and its length. -/
def referenceAt? (family : Family) (s : List Char) : Option (Reference × Nat) :=
  family.scopes.findSome? fun scope => do
    let opening := "@[" ++ scope ++ "::"
    let rest ← afterText? opening s
    let name ← bracketed? rest
    return (⟨scope, String.ofList name⟩, opening.length + name.length + 1)

/-- Cuts a text into pieces from left to right. The first argument counts characters that the
reference before has already taken. -/
def piecesFrom (family : Family) : Nat → List Char → List Piece
  | _, [] => []
  | taken + 1, _ :: rest => piecesFrom family taken rest
  | 0, c :: rest =>
    match referenceAt? family (c :: rest) with
    | some (r, size) => .reference r :: piecesFrom family (size - 1) rest
    | none => .plain c :: piecesFrom family 0 rest

def pieces (family : Family) (text : String) : List Piece := piecesFrom family 0 text.toList

/-- References of a family in the order of the text. -/
def references (family : Family) (text : String) : List Reference :=
  (pieces family text).filterMap fun | .reference r => some r | .plain _ => none

/-- Paths of the references, ascending and without repetition. -/
def paths (family : Family) (text : String) : List String :=
  sortedDistinct ((references family text).map Reference.path)

def variableRefs (text : String) : List String := paths .variable text

def parameterRefs (text : String) : List String := paths .parameter text

/-- A complete bracketed reference of any scope stands somewhere. -/
def hasReferencesList : List Char → Bool
  | [] => false
  | c :: rest =>
    ((afterText? "@[" (c :: rest)).bind bracketed?).isSome || hasReferencesList rest

def hasReferences (text : String) : Bool := hasReferencesList text.toList

end EtlSurvey.Expression
