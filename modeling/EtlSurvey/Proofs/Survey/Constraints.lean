import EtlSurvey.Proofs.Dependencies.Condition
import EtlSurvey.Proofs.Executables.Mentions
import EtlSurvey.Proofs.Survey.Findings

/-! # What becomes of a constraint

A constraint gives an edge if both its ends are named, its value is known, and it has an expression
where that decides alone. Otherwise the first of these that it lacks is reported. The reader goes
over the constraints in order and does nothing else. -/

namespace EtlSurvey
open Text Markup

def complaint? : Except Cause α → Option Cause
  | .error cause => some cause
  | .ok _ => none

/-- Texts that may be the expression of a constraint, in the order in which they count: of its first
property with that name, of expression elements, of attributes inside its object data, and of its
own attribute. -/
def expressionTexts (c : Element) : List String :=
  ((c.descendants.find? fun p => p.isNamed Space.dts "Property" && p.attr? "Name" == some
    "Expression").map (·.head.text)).toList ++
  (c.descendants.filter (·.isNamed Space.dts "Expression")).map (·.head.text) ++
  ((c.children.find? (·.isNamed Space.dts "ObjectData")).toList.flatMap fun data =>
    data.descendants.filterMap (·.attr? "Expression")) ++
  (c.attr? "Expression").toList

/-- The expression of a constraint: the first of its texts that is not blank. -/
def firstExpression? (c : Element) : Option String := (expressionTexts c).findSome? trimmed?

/-- The way of evaluation that leaves the value of a constraint out. -/
def IsGuard (c : Element) (value : Condition) : Prop :=
  value = .expression ∨ c.attrText? "EvalOp" = some "0"

/-- Both ends of a constraint and its value. -/
structure Joins (c : Element) (source target : String) (value : Option Condition) : Prop where
  source : c.attrText? "From" = some source
  target : c.attrText? "To" = some target
  value : Condition.ofValue? (c.attr? "Value") = value

/-- What becomes of a constraint: its edge, or what is reported of it. -/
inductive ReadsAs (c : Element) : Except Cause Edge → Prop
  /-- An end is not named. -/
  | loose (h : c.attrText? "From" = none ∨ c.attrText? "To" = none) :
    ReadsAs c (.error (.openConstraint (c.attr? "refId")))
  /-- The value is none that is known. -/
  | unknown (hjoins : Joins c source target none) :
    ReadsAs c (.error
      (.unknownCondition ((c.attr? "Value").getD "") source target (c.attr? "refId")))
  /-- The expression decides alone, and there is none. -/
  | unexplained (hjoins : Joins c source target (some value)) (hguard : IsGuard c value)
      (hblank : firstExpression? c = none) :
    ReadsAs c (.error (.missingExpression source target (c.attr? "refId")))
  /-- The expression decides alone. -/
  | guarded (hjoins : Joins c source target (some value)) (hguard : IsGuard c value)
      (htext : firstExpression? c = some text) :
    ReadsAs c (.ok {
      source, target, condition := .expression, expression := some text
      logicalAnd := ((c.attr? "LogicalAnd").map fun v => isTrue (some v)).getD true })
  /-- The value decides, or it and the expression together if there is one. -/
  | valued (hjoins : Joins c source target (some value)) (hguard : ¬ IsGuard c value) :
    ReadsAs c (.ok {
      source, target, condition := value
      expression := if c.attrText? "EvalOp" ∈ [some "2", some "3"] then firstExpression? c else none
      logicalAnd := ((c.attr? "LogicalAnd").map fun v => isTrue (some v)).getD true })

section Expression

variable {raw text : String} {c : Element}

/-- Trimming leaves no blanks to be trimmed. -/
theorem trimmed?_trim (h : trimmed? raw = some text) : trimmed? (trim text) = some text := by
  have hempty : text.isEmpty = false := by
    rw [trimmed?] at h
    split at h
    · cases h
    · next hne => rwa [← Option.some.inj h, ← Bool.not_eq_true]
  rw [trim_of_trimmed h, trimmed?_eq_some hempty, trim_of_trimmed h]

theorem firstExpression?_trimmed (h : firstExpression? c = some text) :
    trimmed? text = some text := by
  obtain ⟨raw, -, hraw⟩ := List.exists_of_findSome?_eq_some h
  have htrimmed := trimmed?_trim hraw
  rwa [trim_of_trimmed hraw] at htrimmed

theorem map_trim_findSome?_trimmed (raws : List String) :
    (raws.findSome? trimmed?).map trim = raws.findSome? trimmed? := by
  cases h : raws.findSome? trimmed? with
  | none => rfl
  | some text =>
    obtain ⟨raw, -, hraw⟩ := List.exists_of_findSome?_eq_some h
    exact congrArg some (trim_of_trimmed hraw)

theorem findSome?_toList (raw : Option String) (f : String → Option String) :
    raw.toList.findSome? f = raw.bind f := by
  cases raw with
  | none => rfl
  | some raw => cases h : f raw <;> simp [h]

theorem findSome?_flatMap_toList (e : Option Element) (f : Element → List String)
    (g : String → Option String) :
    (e.toList.flatMap f).findSome? g = e.bind fun e => (f e).findSome? g := by
  cases e with
  | none => rfl
  | some e => simp

theorem findSome?_filterMap (es : List Element) (f : Element → Option String)
    (g : String → Option String) :
    (es.filterMap f).findSome? g = es.findSome? fun e => (f e).bind g := by
  rw [← List.head?_filterMap, List.filterMap_filterMap, List.head?_filterMap]

/-- Looking at one place after another finds the first text that is not blank. -/
theorem constraintExpression?_eq (c : Element) : constraintExpression? c = firstExpression? c := by
  have hproperty : (c.descendantsNamed Space.dts "Property").find?
      (·.attr? "Name" == some "Expression") =
        c.descendants.find? fun p => p.isNamed Space.dts "Property" &&
          p.attr? "Name" == some "Expression" := by
    simp only [Element.descendantsNamed, List.find?_filter, Bool.decide_and, Bool.decide_eq_true]
  have htext : (trimmed? ∘ fun e : Element => e.head.text) = Element.text? := by
    funext e
    rw [Function.comp_apply, Element.text?]
  rw [constraintExpression?, firstExpression?, ← map_trim_findSome?_trimmed, hproperty]
  simp only [expressionTexts, List.findSome?_append, List.findSome?_map, findSome?_toList,
    findSome?_flatMap_toList, findSome?_filterMap, Option.bind_map, htext,
    Element.descendantsNamed, Element.child?, Element.attrText?]

end Expression

section Outcome

variable {c : Element} {source target : String} {value : Condition}

/-- The condition and the expression that a constraint of known value gives its edge. -/
theorem conditionOf_of_isGuard (h : IsGuard c value) :
    conditionOf c value = (.expression, firstExpression? c) := by
  obtain rfl | halone := h
  · simp [conditionOf, constraintExpression?_eq]
  · simp [conditionOf, constraintExpression?_eq, halone]

theorem conditionOf_of_not_isGuard (h : ¬ IsGuard c value) :
    conditionOf c value = (value, if c.attrText? "EvalOp" ∈ [some "2", some "3"] then
      firstExpression? c else none) := by
  obtain ⟨hvalue, halone⟩ := not_or.mp h
  simp only [conditionOf, constraintExpression?_eq, beq_iff_eq, Bool.or_eq_true, halone, hvalue,
    if_false, false_or, List.mem_cons, List.not_mem_nil, or_false]
  split <;> rfl

/-- A result is the edge, or no edge and the one report. -/
structure Yields (result : Noted (Option Edge)) (outcome : Except Cause Edge) : Prop where
  value : result.value = outcome.toOption
  notes : notesOf result.remarks = (complaint? outcome).toList.map Cause.note

theorem exists_outcome (c : Element) :
    ∃ outcome, ReadsAs c outcome ∧ Yields (readConstraint c) outcome := by
  rw [readConstraint]
  cases hsource : c.attrText? "From" with
  | none => exact ⟨_, .loose (.inl hsource), rfl, rfl⟩
  | some source =>
    cases htarget : c.attrText? "To" with
    | none => exact ⟨_, .loose (.inr htarget), rfl, rfl⟩
    | some target =>
      cases hvalue : Condition.ofValue? (c.attr? "Value") with
      | none => exact ⟨_, .unknown ⟨hsource, htarget, hvalue⟩, rfl, rfl⟩
      | some value =>
        have hjoins : Joins c source target (some value) := ⟨hsource, htarget, hvalue⟩
        by_cases hguard : IsGuard c value
        · dsimp only
          rw [conditionOf_of_isGuard hguard]
          cases htext : firstExpression? c with
          | none =>
            exact ⟨_, .unexplained hjoins hguard htext, rfl, rfl⟩
          | some text => exact ⟨_, .guarded hjoins hguard htext, rfl, rfl⟩
        · have hother : (value == Condition.expression) = false :=
            beq_eq_false_iff_ne.mpr fun heq => hguard (.inl heq)
          dsimp only
          rw [conditionOf_of_not_isGuard hguard]
          simp only [hother, Bool.false_and, Bool.false_eq_true, if_false]
          exact ⟨_, .valued hjoins hguard, rfl, rfl⟩

theorem Joins.unique {source' target' : String} {known known' : Option Condition}
    (h : Joins c source target known) (h' : Joins c source' target' known') :
    source = source' ∧ target = target' ∧ known = known' :=
  ⟨Option.some.inj (h.source.symm.trans h'.source), Option.some.inj (h.target.symm.trans h'.target),
    h.value.symm.trans h'.value⟩

theorem Joins.not_loose {known : Option Condition} (h : Joins c source target known) :
    ¬ (c.attrText? "From" = none ∨ c.attrText? "To" = none) := by
  rw [h.source, h.target]
  rintro (h | h) <;> cases h

/-- A constraint becomes one thing only. -/
theorem ReadsAs.unique : Relator.RightUnique ReadsAs := by
  intro c outcome outcome' h h'
  cases h <;> cases h' <;> grind [Joins.unique, Joins.not_loose]

end Outcome

/-- The run over constraints, which puts together what becomes of each. -/
theorem exists_outcomes (constraints : List Element) :
    ∃ outcomes, List.Forall₂ ReadsAs constraints outcomes ∧
      (constraints.mapM readConstraint).value.reduceOption =
        outcomes.filterMap Except.toOption ∧
      notesOf (constraints.mapM readConstraint).remarks =
        (outcomes.filterMap complaint?).map Cause.note := by
  induction constraints with
  | nil => exact ⟨[], .nil, rfl, rfl⟩
  | cons c rest ih =>
    obtain ⟨outcomes, hreads, hvalues, hnotes⟩ := ih
    obtain ⟨outcome, hread, hyields⟩ := exists_outcome c
    refine ⟨outcome :: outcomes, .cons hread hreads, ?values, ?notes⟩
    case values =>
      rw [List.mapM_cons, Noted.value_bind, Noted.value_bind, Noted.value_pure, hyields.value]
      cases outcome with
      | error cause => exact hvalues
      | ok e => exact congrArg (e :: ·) hvalues
    case notes =>
      rw [List.mapM_cons, Noted.remarks_bind, Noted.remarks_bind, Noted.remarks_pure,
        List.append_nil, notesOf_append, hyields.notes, hnotes]
      cases outcome <;> rfl

theorem exists_constraint {constraints : List Element} {outcomes : List (Except Cause Edge)}
    (h : List.Forall₂ ReadsAs constraints outcomes) {outcome : Except Cause Edge}
    (houtcome : outcome ∈ outcomes) : ∃ c ∈ constraints, ReadsAs c outcome := by
  induction h with
  | nil => cases houtcome
  | cons hread hreads ih =>
    obtain rfl | hrest := List.mem_cons.mp houtcome
    · exact ⟨_, List.mem_cons_self, hread⟩
    · obtain ⟨c, hc, hread⟩ := ih hrest
      exact ⟨c, .tail _ hc, hread⟩

/-- An edge that depends on an expression has one that is not blank. -/
theorem ReadsAs.expression {c : Element} {e : Edge} (h : ReadsAs c (.ok e))
    (hcondition : e.condition = .expression) :
    ∃ text, e.expression = some text ∧ trimmed? text = some text := by
  cases h with
  | guarded hjoins hguard htext => exact ⟨_, rfl, firstExpression?_trimmed htext⟩
  | valued hjoins hguard => exact absurd (.inl hcondition) hguard

end EtlSurvey
