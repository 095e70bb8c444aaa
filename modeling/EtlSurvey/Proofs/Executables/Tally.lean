import EtlSurvey.Proofs.Executables.Reading
import EtlSurvey.Proofs.Survey.Findings

/-! # Which executables a survey calls unsupported

Remarks on unknown kinds are made in one place, where the nodes of the outline are read, and one
for each node of an unknown kind. No other reader has findings of that code, so that the remarks of
a whole survey tell the outline's nodes of unknown kinds. -/

namespace EtlSurvey
open Text Markup

/-- Type names of the nodes of unknown kinds. -/
def unsupportedTypes (nodes : List OutlineNode) : List String :=
  (nodes.filter (!·.kind.isSupported)).map (·.typeName)

theorem remarks_found (c : Cause) : (found c).remarks = [.note c.note] := rfl

theorem readNode_remarks (policy : RedactionPolicy) (retain : Bool) (n : OutlineNode) :
    (readNode policy retain n).remarks =
      (if n.kind.isSupported then [] else
        [.note (Cause.unsupportedExecutable n.typeName n.name n.id).note,
          .unsupported n.typeName]) ++
      if n.isKept retain then
        (readExecutable policy (n.parentId? retain) n.toNamedExecutable).remarks else [] := by
  rw [readNode, OutlineNode.isKept]
  cases n.kind.isSupported <;> cases retain <;>
    simp only [Bool.not_true, Bool.not_false, Bool.false_eq_true, if_true, if_false,
      Bool.or_self, Bool.or_true, Bool.or_false, Noted.remarks_bind, Noted.remarks_pure,
      Noted.remarks_remark, remarks_found, List.append_nil, List.nil_append, List.cons_append]

/-- A node of an unknown kind is remarked on whether it is kept or not. -/
theorem readNode_unsupported (policy : RedactionPolicy) (retain : Bool) (n : OutlineNode) :
    unsupportedOf (readNode policy retain n).remarks = unsupportedTypes [n] := by
  have hread :
      unsupportedOf (readExecutable policy (n.parentId? retain) n.toNamedExecutable).remarks = [] :=
    (readExecutable_finds policy _ _).unsupportedOf_eq_nil (by decide)
  have hrecord : unsupportedOf (if n.isKept retain then
      (readExecutable policy (n.parentId? retain) n.toNamedExecutable).remarks else []) = [] := by
    split
    · exact hread
    · rfl
  rw [readNode_remarks, unsupportedOf_append, hrecord, unsupportedTypes, List.append_nil]
  cases hkind : n.kind.isSupported <;> simp [hkind, unsupportedOf]

theorem unsupportedTypes_append (nodes others : List OutlineNode) :
    unsupportedTypes (nodes ++ others) = unsupportedTypes nodes ++ unsupportedTypes others := by
  simp [unsupportedTypes]

theorem readSteps_unsupported (policy : RedactionPolicy) (retain : Bool)
    (steps : List OutlineStep) :
    unsupportedOf (readSteps policy retain steps).remarks =
      unsupportedTypes (outlineNodes steps) := by
  induction steps with
  | nil => rfl
  | cons step rest ih =>
    cases step with
    | note c => exact ih
    | node n =>
      rw [outlineNodes_node, ← List.singleton_append (l := outlineNodes rest),
        unsupportedTypes_append, ← readNode_unsupported policy retain n, ← ih, readSteps,
        Noted.remarks_bind, Noted.remarks_bind, Noted.remarks_pure, List.append_nil,
        unsupportedOf_append]

/-- What a package remarks on as unsupported are the nodes of unknown kinds, in order. -/
theorem readPackage_unsupported (policy : RedactionPolicy) (retain : Bool) (metadata : Metadata)
    (root : Element) : unsupportedOf (readPackage policy retain metadata root).remarks =
      unsupportedTypes (outlineNodes (outlineOf root)) := by
  have hparameters : unsupportedOf (readParameters policy root).remarks = [] :=
    (readParameters_finds policy root).unsupportedOf_eq_nil (by decide)
  have hvariables : unsupportedOf (readVariables root).remarks = [] :=
    (readVariables_finds root).unsupportedOf_eq_nil (by decide)
  have hconnections : unsupportedOf (readConnections policy root).remarks = [] :=
    (readConnections_finds policy root).unsupportedOf_eq_nil (by decide)
  have hexecutables : unsupportedOf (readExecutables policy retain root).remarks =
      unsupportedTypes (outlineNodes (outlineOf root)) := by
    rw [readExecutables_eq_readSteps, Noted.remarks_bind, Noted.remarks_pure, List.append_nil,
      readSteps_unsupported]
  have hconstraints : unsupportedOf (readConstraints root).remarks = [] :=
    (readConstraints_finds root).unsupportedOf_eq_nil (by decide)
  have hproblems : ∀ g : ControlFlow, unsupportedOf g.validate.remarks = [] :=
    fun g => (validate_finds g).unsupportedOf_eq_nil (by decide)
  have hexpressions : unsupportedOf (readExpressions policy root).remarks = [] :=
    (readExpressions_finds policy root).unsupportedOf_eq_nil (by decide)
  simp only [readPackage, Noted.remarks_bind, Noted.remarks_pure, unsupportedOf_append,
    hparameters, hvariables, hconnections, hexecutables, hconstraints, hproblems, hexpressions,
    List.append_nil, List.nil_append]

theorem length_unsupportedTypes (nodes : List OutlineNode) :
    nodes.length =
      (nodes.filter (·.kind.isSupported)).length + (unsupportedTypes nodes).length := by
  rw [unsupportedTypes, List.length_map]
  exact List.length_eq_length_filter_add fun n : OutlineNode => n.kind.isSupported

end EtlSurvey
