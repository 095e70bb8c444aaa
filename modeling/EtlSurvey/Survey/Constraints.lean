import EtlSurvey.Finding.Cause
import EtlSurvey.Markup.Element
import EtlSurvey.Record.Package

/-! Precedence constraints between executables. Each gives an edge or is reported. -/

namespace EtlSurvey
open Text Markup

/-- Expression of a constraint, from the first place that has one. -/
def constraintExpression? (c : Element) : Option String :=
  let property := ((c.descendantsNamed Space.dts "Property").find?
    (·.attr? "Name" == some "Expression")).bind Element.text?
  let element := (c.descendantsNamed Space.dts "Expression").findSome? Element.text?
  let object := (c.child? Space.dts "ObjectData").bind fun d =>
    d.descendants.findSome? (·.attrText? "Expression")
  (((property.or element).or object).or (c.attrText? "Expression")).map trim

/-- Condition and expression of a constraint, from its value and its way of evaluation: 0 means
the expression alone, 2 and 3 join it with the value. -/
def conditionOf (c : Element) (value : Condition) : Condition × Option String :=
  let way := c.attrText? "EvalOp"
  let condition := if way == some "0" then .expression else value
  if condition == .expression || way == some "2" || way == some "3" then
    (condition, constraintExpression? c)
  else (condition, none)

/-- The edge of a constraint; one that gives none is reported. -/
def readConstraint (c : Element) : Noted (Option Edge) := do
  let id := c.attr? "refId"
  match c.attrText? "From", c.attrText? "To" with
  | some source, some target =>
    match Condition.ofValue? (c.attr? "Value") with
    | none =>
      found (.unknownCondition ((c.attr? "Value").getD "") source target id)
      return none
    | some value =>
      let (condition, expression) := conditionOf c value
      if condition == .expression && expression.isNone then
        found (.missingExpression source target id)
        return none
      return some {
        source, target, condition, expression
        logicalAnd := ((c.attr? "LogicalAnd").map fun v => isTrue (some v)).getD true }
  | _, _ =>
    found (.openConstraint id)
    return none

/-- Edges in the order of their constraints. -/
def readConstraints (root : Element) : Noted (List Edge) := do
  let edges ← (root.descendantsNamed Space.dts "PrecedenceConstraint").mapM readConstraint
  return edges.reduceOption

end EtlSurvey
