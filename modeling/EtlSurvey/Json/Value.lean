/-! JSON values, the blanks of their text, and the places in which a printer puts them. Numbers that
are no integers are kept as they were written, since no record here holds one; a string that
contains half a surrogate pair is no text, but may still be skipped. -/

namespace EtlSurvey.Json

inductive Value where
  | null
  | bool (b : Bool)
  | int (n : Int)
  | number (literal : String)
  | text (s : String)
  | brokenText
  | list (items : List Value)
  | object (members : List (Option String × Value))
  deriving Inhabited

namespace Value

/-- An object with the members that have a value, in order. -/
def record (members : List (String × Option Value)) : Value :=
  .object (members.filterMap fun (key, value) => value.map fun v => (some key, v))

def texts (items : List String) : Value := .list (items.map .text)

def nat (n : Nat) : Value := .int n

/-- A value that may be absent, written as null. -/
def orNull (f : α → Value) : Option α → Value
  | none => .null
  | some a => f a

end Value

/-- Only these four characters may stand between the parts of a value. -/
def isSpace (c : Char) : Bool := c == ' ' || c == '\t' || c == '\n' || c == '\r'

/-- Blanks of printed text. Nothing else can stand in their places, so a layout changes how a value
looks and never what it is. -/
structure Layout where
  /-- In front of an item or a closing bracket, by the number of brackets that are open there. -/
  lead : Nat → List Char
  /-- Between the colon of a member and its value. -/
  gap : List Char
  lead_blank : ∀ depth, ∀ c ∈ lead depth, isSpace c = true
  gap_blank : ∀ c ∈ gap, isSpace c = true

namespace Layout

/-- No blanks at all. -/
def compact : Layout where
  lead _ := []
  gap := []
  lead_blank := by simp
  gap_blank := by simp

/-- Each item on a line of its own, two blanks further in than the bracket around it. -/
def indented : Layout where
  lead depth := '\n' :: List.replicate (2 * depth) ' '
  gap := [' ']
  lead_blank depth c hc := by
    rcases List.mem_cons.mp hc with rfl | hc
    · rfl
    · rw [List.eq_of_mem_replicate hc]; rfl
  gap_blank c hc := by rw [List.mem_singleton.mp hc]; rfl

end Layout

end EtlSurvey.Json
