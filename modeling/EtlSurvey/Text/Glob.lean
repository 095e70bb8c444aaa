import EtlSurvey.Text.Basic

/-! Parts of texts, and name patterns with a star. The first star of a pattern stands for any text;
case counts beside it. -/

namespace EtlSurvey.Text

def occursInList (part : List Char) : List Char → Bool
  | [] => part.isEmpty
  | c :: rest => part.isPrefixOf (c :: rest) || occursInList part rest

def occursIn (part whole : String) : Bool := occursInList part.toList whole.toList

/-- The rest after a piece of text that comes first. -/
def afterText? (front : String) (s : List Char) : Option (List Char) :=
  if front.toList.isPrefixOf s then some (s.drop front.toList.length) else none

namespace Glob

/-- `s` begins with `front` and ends with `back` and the two do not overlap. -/
def between (front back s : List Char) : Bool :=
  front.isPrefixOf s && back.reverse.isPrefixOf (s.drop front.length).reverse

theorem between_iff {front back s : List Char} :
    between front back s = true ↔ ∃ middle, s = front ++ (middle ++ back) := by
  rw [between, Bool.and_eq_true, List.isPrefixOf_iff_prefix, List.isPrefixOf_iff_prefix,
    List.reverse_prefix]
  constructor
  · rintro ⟨⟨rest, rfl⟩, hback⟩
    rw [List.drop_left] at hback
    obtain ⟨middle, rfl⟩ := hback
    exact ⟨middle, rfl⟩
  · rintro ⟨middle, rfl⟩
    rw [List.drop_left]
    exact ⟨List.prefix_append _ _, List.suffix_append _ _⟩

/-- A pattern without a star is compared up to the case of ASCII letters, one with a star
letter by letter; a double star alone matches all. -/
def isMatch (pattern name : String) : Bool :=
  let p := pattern.toList
  if !p.contains '*' then eqIgnoringCase pattern name
  else p == ['*', '*'] ||
    between (p.takeWhile (· != '*')) ((p.dropWhile (· != '*')).drop 1) name.toList

end Glob
end EtlSurvey.Text
