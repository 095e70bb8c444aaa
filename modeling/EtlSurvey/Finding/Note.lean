import EtlSurvey.Config
import EtlSurvey.Finding.Diagnostic

/-! Notes that a survey takes while it reads. A note says what was found and how much it weighs by
default; the configured severity is applied in one place, when a note becomes a diagnostic. -/

namespace EtlSurvey

/-- Default weight of a note. -/
inductive Weight where
  | fixed (severity : Severity)
  /-- A wiring problem: a warning, or an error if the configuration is strict on wiring. -/
  | wiring
  deriving DecidableEq, Repr

def Weight.severity (c : Config) : Weight → Severity
  | .fixed s => s
  | .wiring => if c.strictWiring then .error else .warn

structure Note where
  code : FindingCode
  weight : Weight
  message : String
  element : Option String := none
  related : List String := []
  deriving DecidableEq, Repr

/-- The diagnostic of a note in a source file. -/
def Note.diagnostic (c : Config) (source : String) (n : Note) : Diagnostic where
  code := n.code
  severity := c.severityOf n.code (n.weight.severity c)
  message := n.message
  location := some ⟨source, n.element⟩
  related := n.related

/-- What a survey writes down besides its result. -/
inductive Remark where
  | note (n : Note)
  /-- An executable of an unknown kind. -/
  | unsupported (raw : String)
  /-- A value that was not stored. -/
  | redacted (owner key : String)
  deriving DecidableEq, Repr

def notesOf (remarks : List Remark) : List Note :=
  remarks.filterMap fun | .note n => some n | _ => none

def unsupportedOf (remarks : List Remark) : List String :=
  remarks.filterMap fun | .unsupported raw => some raw | _ => none

/-- Owners and keys of redacted values, joined by a dot. -/
def redactedOf (remarks : List Remark) : List String :=
  remarks.filterMap fun | .redacted owner key => some (owner ++ "." ++ key) | _ => none

/-- Gives the last note, if there is one, other related elements. The remarks come last one
first. -/
def relateLatest (ids : List String) : List Remark → List Remark
  | [] => []
  | .note n :: rest => .note { n with related := ids } :: rest
  | r :: rest => r :: relateLatest ids rest

/-- Gives the last note, if there is one, other related elements. -/
def relateLast (ids : List String) (remarks : List Remark) : List Remark :=
  (relateLatest ids remarks.reverse).reverse

def diagnosticsOf (c : Config) (source : String) (remarks : List Remark) : List Diagnostic :=
  (notesOf remarks).map (Note.diagnostic c source)

/-- A result with the remarks made on the way to it, in order. -/
structure Noted (α : Type) where
  value : α
  remarks : List Remark := []

namespace Noted

instance : Monad Noted where
  pure a := ⟨a, []⟩
  bind x f := ⟨(f x.value).value, x.remarks ++ (f x.value).remarks⟩

@[simp] theorem value_pure (a : α) : (pure a : Noted α).value = a := rfl

@[simp] theorem remarks_pure (a : α) : (pure a : Noted α).remarks = [] := rfl

@[simp] theorem value_bind (x : Noted α) (f : α → Noted β) :
    (x >>= f).value = (f x.value).value := rfl

@[simp] theorem remarks_bind (x : Noted α) (f : α → Noted β) :
    (x >>= f).remarks = x.remarks ++ (f x.value).remarks := rfl

theorem ext {x y : Noted α} (hv : x.value = y.value) (hr : x.remarks = y.remarks) : x = y := by
  cases x; cases y; simp_all

instance : LawfulMonad Noted := LawfulMonad.mk' Noted
  (fun _ => ext rfl (by simp [Functor.map]))
  (fun _ _ => ext rfl (by simp))
  (fun _ _ _ => ext rfl (by simp))

theorem value_mapM (f : α → Noted β) (as : List α) :
    (as.mapM f).value = as.map fun a => (f a).value := by
  induction as with
  | nil => rfl
  | cons a rest ih => rw [List.mapM_cons, value_bind, value_bind, ih, value_pure, List.map_cons]

/-- Writes down remarks in order. -/
def remarkAll (rs : List Remark) : Noted Unit := ⟨(), rs⟩

def remark (r : Remark) : Noted Unit := remarkAll [r]

def note (n : Note) : Noted Unit := remark (.note n)

@[simp] theorem remarks_remarkAll (rs : List Remark) : (remarkAll rs).remarks = rs := rfl

@[simp] theorem remarks_remark (r : Remark) : (remark r).remarks = [r] := rfl

@[simp] theorem remarks_note (n : Note) : (note n).remarks = [.note n] := rfl

end Noted

/-- A candidate for a list whose keys must differ: it has been left out with a note, or it has a
key and a record. -/
inductive Candidate (κ α : Type) where
  | dropped
  | keyed (key : κ) (repeated : Note) (record : Noted α)

/-- Records of the first candidate of each key, in order. `seen` holds the keys so far. -/
def keepFirst [BEq κ] (seen : List κ) : List (Noted (Candidate κ α)) → Noted (List α)
  | [] => pure []
  | candidate :: rest => do
    match ← candidate with
    | .dropped => keepFirst seen rest
    | .keyed key repeated record =>
      if seen.contains key then
        Noted.note repeated
        keepFirst seen rest
      else
        let first ← record
        let others ← keepFirst (key :: seen) rest
        return first :: others

/-- Every record that is kept is the record of some candidate. -/
theorem mem_keepFirst [BEq κ] {seen : List κ} {sources : List σ}
    {candidate : σ → Noted (Candidate κ α)} {a : α}
    (h : a ∈ (keepFirst seen (sources.map candidate)).value) :
    ∃ s ∈ sources, ∃ key repeated record,
      (candidate s).value = .keyed key repeated record ∧ a = record.value := by
  induction sources generalizing seen with
  | nil => cases h
  | cons source rest ih =>
    rw [List.map_cons, keepFirst, Noted.value_bind] at h
    split at h
    next =>
      obtain ⟨s, hs, hrest⟩ := ih h
      exact ⟨s, .tail _ hs, hrest⟩
    next key repeated record hvalue =>
      split at h
      next =>
        obtain ⟨s, hs, hrest⟩ := ih h
        exact ⟨s, .tail _ hs, hrest⟩
      next =>
        obtain rfl | hothers := List.mem_cons.mp h
        · exact ⟨source, List.mem_cons_self, key, repeated, record, hvalue, rfl⟩
        · obtain ⟨s, hs, hrest⟩ := ih hothers
          exact ⟨s, .tail _ hs, hrest⟩

end EtlSurvey
