import EtlSurvey.Proofs.Text.Utf8
import EtlSurvey.Text.Percent

/-! # Names with escapes

Which pairs of bytes behind a percent sign stand for a byte is a parameter of the rule: two
hexadecimal digits, or loosely also a plus sign and one digit. Decoding follows the loose rule. It
gives what the strict rule gives unless a plus sign and a digit stand behind a percent sign, and
even then if the bytes that come out are not those of a text. -/

namespace EtlSurvey.Text.Percent
open Utf8

/-- The byte is a hexadecimal digit of either case. -/
def IsDigit (b : UInt8) (value : Nat) : Prop :=
  (value < 10 ∧ b.toNat = 0x30 + value) ∨
    (10 ≤ value ∧ value < 16 ∧ (b.toNat = 0x41 + (value - 10) ∨ b.toNat = 0x61 + (value - 10)))

/-- Two digits and the byte that they denote. -/
def IsPair (a b value : UInt8) : Prop :=
  ∃ high low, IsDigit a high ∧ IsDigit b low ∧ value = .ofNat (high * 16 + low)

/-- A plus sign and a digit. -/
def IsSignedDigit (a b value : UInt8) : Prop :=
  a = 0x2B ∧ ∃ low, IsDigit b low ∧ value = .ofNat low

/-- What counts as the byte behind a percent sign. -/
def IsLoosePair (a b value : UInt8) : Prop := IsPair a b value ∨ IsSignedDigit a b value

/-- A percent sign and a pair behind it. -/
inductive IsEscape (pair : UInt8 → UInt8 → UInt8 → Prop) : Bytes → Prop
  | intro {a b value rest} (h : pair a b value) : IsEscape pair (0x25 :: a :: b :: rest)

/-- From left to right, each percent sign with a pair behind it goes, with the pair, for the byte
of the pair, and every other byte stays. -/
inductive Unescapes (pair : UInt8 → UInt8 → UInt8 → Prop) : Bytes → Bytes → Prop
  | nil : Unescapes pair [] []
  | escape {a b value rest out} (h : pair a b value) (hrest : Unescapes pair rest out) :
      Unescapes pair (0x25 :: a :: b :: rest) (value :: out)
  | literal {c rest out} (h : ¬ IsEscape pair (c :: rest)) (hrest : Unescapes pair rest out) :
      Unescapes pair (c :: rest) (c :: out)

/-- The text of the bytes that the name's bytes come to, or the name itself if there is none. -/
def IsDecoded (pair : UInt8 → UInt8 → UInt8 → Prop) (name result : String) : Prop :=
  ∃ out, Unescapes pair (encode name) out ∧
    (encode result = out ∨ (¬ IsText out ∧ result = name))

/-- A plus sign and a digit stand behind a percent sign. -/
def HasSignedDigit (bytes : Bytes) : Prop :=
  ∃ b value, IsDigit b value ∧ [0x25, 0x2B, b] <:+: bytes

section Digits

theorem digit?_eq_some_iff {b : UInt8} {value : Nat} :
    digit? b = some value ↔ IsDigit b value := by
  have hascii : b < 0x80 ↔ b.toNat < 128 := Iff.rfl
  have hchar : ∀ h : b.toNat < 128, (Char.ofNat b.toNat).toNat = b.toNat :=
    fun h => toNat_ofNat (.inl (by omega))
  have hle : ∀ c d : Char, c ≤ d ↔ c.toNat ≤ d.toNat := fun _ _ => Iff.rfl
  rw [digit?, IsDigit]
  split
  · next hlow =>
    have h := hascii.mp hlow
    simp only [hexValue?, Bool.and_eq_true, decide_eq_true_eq, hle, hchar h, Char.reduceToNat]
    split_ifs <;> simp only [Option.some.injEq, false_iff] <;> omega
  · next hhigh =>
    rw [hascii] at hhigh
    simp only [reduceCtorEq, false_iff]
    omega

theorem IsDigit.lt {b : UInt8} {value : Nat} (h : IsDigit b value) : value < 16 := by
  rcases h with h | h <;> omega

theorem IsDigit.byte_lt {b : UInt8} {value : Nat} (h : IsDigit b value) : b.toNat < 0x80 := by
  rcases h with h | h <;> omega

theorem IsDigit.unique {b : UInt8} {v w : Nat} (hv : IsDigit b v) (hw : IsDigit b w) : v = w := by
  rw [← digit?_eq_some_iff] at hv hw
  exact Option.some.inj (hv.symm.trans hw)

theorem not_isDigit_plus {value : Nat} : ¬ IsDigit 0x2B value := by
  have hplus : (0x2B : UInt8).toNat = 0x2B := rfl
  rw [IsDigit, hplus]
  omega

theorem not_isDigit_percent {value : Nat} : ¬ IsDigit 0x25 value := by
  have hpercent : (0x25 : UInt8).toNat = 0x25 := rfl
  rw [IsDigit, hpercent]
  omega

theorem pair?_eq_some_iff {a b value : UInt8} :
    pair? a b = some value ↔ IsLoosePair a b value := by
  rw [pair?, IsLoosePair, IsPair, IsSignedDigit]
  by_cases hplus : a = 0x2B
  · subst hplus
    simp only [beq_self_eq_true, if_true, Option.map_eq_some_iff, digit?_eq_some_iff,
      not_isDigit_plus, false_and, exists_false, false_or, true_and, @eq_comm _ _ value]
  · rw [beq_eq_false_iff_ne.mpr hplus]
    simp only [← digit?_eq_some_iff, hplus, false_and, or_false]
    cases digit? a with
    | none => simp
    | some high => cases digit? b <;> simp [eq_comm]

/-- A pair stands for one byte at most. -/
def Determines (pair : UInt8 → UInt8 → UInt8 → Prop) : Prop :=
  ∀ ⦃a b v w⦄, pair a b v → pair a b w → v = w

theorem isPair_determines : Determines IsPair := by
  intro a b v w hv hw
  obtain ⟨high, low, hhigh, hlow, rfl⟩ := hv
  obtain ⟨high', low', hhigh', hlow', rfl⟩ := hw
  rw [hhigh.unique hhigh', hlow.unique hlow']

theorem isLoosePair_determines : Determines IsLoosePair := by
  intro a b v w hv hw
  rw [← pair?_eq_some_iff] at hv hw
  exact Option.some.inj (hv.symm.trans hw)

end Digits

section Unescapes

variable {pair : UInt8 → UInt8 → UInt8 → Prop}

theorem isEscape_iff {bytes : Bytes} :
    IsEscape pair bytes ↔ ∃ a b value rest, bytes = 0x25 :: a :: b :: rest ∧ pair a b value := by
  constructor
  · rintro ⟨h⟩
    exact ⟨_, _, _, _, rfl, h⟩
  · rintro ⟨a, b, value, rest, rfl, h⟩
    exact ⟨h⟩

/-- Bytes come to nothing else. -/
theorem Unescapes.unique (hpair : Determines pair)
    {bytes out out' : Bytes} (h : Unescapes pair bytes out) (h' : Unescapes pair bytes out') :
    out = out' := by
  induction h generalizing out' with
  | nil => cases h'; rfl
  | escape hvalue _ ih =>
    cases h' with
    | escape hvalue' hrest' => rw [hpair hvalue hvalue', ih hrest']
    | literal hno _ => exact absurd ⟨hvalue⟩ hno
  | literal hno _ ih =>
    cases h' with
    | escape hvalue' _ => exact absurd ⟨hvalue'⟩ hno
    | literal _ hrest' => rw [ih hrest']

theorem Unescapes.exists (pair : UInt8 → UInt8 → UInt8 → Prop) (bytes : Bytes) :
    ∃ out, Unescapes pair bytes out := by
  match bytes with
  | [] => exact ⟨[], .nil⟩
  | c :: rest =>
    by_cases h : IsEscape pair (c :: rest)
    · obtain ⟨a, b, value, after, heq, hvalue⟩ := isEscape_iff.mp h
      obtain ⟨rfl, rfl⟩ := List.cons.inj heq
      obtain ⟨out, hout⟩ := Unescapes.exists pair after
      exact ⟨value :: out, .escape hvalue hout⟩
    · obtain ⟨out, hout⟩ := Unescapes.exists pair rest
      exact ⟨c :: out, .literal h hout⟩
  termination_by bytes.length

theorem Unescapes.length_le {bytes out : Bytes} (h : Unescapes pair bytes out) :
    out.length ≤ bytes.length := by
  induction h with
  | nil => exact Nat.le_refl _
  | escape _ _ ih => simp only [List.length_cons]; omega
  | literal _ _ ih => exact Nat.succ_le_succ ih

theorem Unescapes.of_not_mem {bytes : Bytes} (h : 0x25 ∉ bytes) : Unescapes pair bytes bytes := by
  induction bytes with
  | nil => exact .nil
  | cons c rest ih =>
    obtain ⟨hc, hrest⟩ := List.ne_and_not_mem_of_not_mem_cons h
    exact .literal (fun ⟨_⟩ => hc rfl) (ih hrest)

theorem IsDecoded.unique (hpair : Determines pair)
    {name result result' : String} (h : IsDecoded pair name result)
    (h' : IsDecoded pair name result') : result = result' := by
  obtain ⟨out, hout, hresult⟩ := h
  obtain ⟨out', hout', hresult'⟩ := h'
  obtain rfl := hout.unique hpair hout'
  rcases hresult with rfl | ⟨hno, rfl⟩ <;> rcases hresult' with heq | ⟨hno', rfl⟩
  · exact (encode_injective heq).symm
  · exact absurd ⟨_, rfl⟩ hno'
  · exact absurd ⟨_, heq⟩ hno
  · rfl

end Unescapes

section Decode

theorem decodeBytes_escape {a b value : UInt8} {rest : Bytes} (h : IsLoosePair a b value) :
    decodeBytes (0x25 :: a :: b :: rest) = value :: decodeBytes rest := by
  have hpair := pair?_eq_some_iff.mpr h
  rw [decodeBytes, decodeFrom]
  simp only [beq_self_eq_true, if_true, hpair]
  rfl

theorem decodeBytes_literal {c : UInt8} {rest : Bytes} (h : ¬ IsEscape IsLoosePair (c :: rest)) :
    decodeBytes (c :: rest) = c :: decodeBytes rest := by
  rw [decodeBytes, decodeFrom]
  split
  · next a b after hmatch =>
    have hpercent : c = 0x25 := by
      by_contra hne
      rw [beq_eq_false_iff_ne.mpr hne] at hmatch
      cases hmatch
    subst hpercent
    obtain rfl : rest = a :: b :: after := by simpa using hmatch
    cases hpair : pair? a b with
    | some value => exact absurd ⟨pair?_eq_some_iff.mp hpair⟩ h
    | none => rfl
  · rfl

theorem unescapes_decodeBytes {bytes out : Bytes} (h : Unescapes IsLoosePair bytes out) :
    decodeBytes bytes = out := by
  induction h with
  | nil => rfl
  | escape hvalue _ ih => rw [decodeBytes_escape hvalue, ih]
  | literal hno _ ih => rw [decodeBytes_literal hno, ih]

theorem isDecoded_decode (name : String) : IsDecoded IsLoosePair name (decode name) := by
  obtain ⟨out, hout⟩ := Unescapes.exists IsLoosePair (encode name)
  refine ⟨out, hout, ?_⟩
  rw [decode, unescapes_decodeBytes hout]
  cases hdecode : decode? out with
  | some s => exact .inl (decode?_eq_some_iff.mp hdecode)
  | none => exact .inr ⟨decode?_eq_none_iff.mp hdecode, rfl⟩

end Decode

/-! ## Loose and strict -/

theorem hasSignedDigit_cons {c : UInt8} {rest : Bytes} :
    HasSignedDigit (c :: rest) ↔ IsEscape IsSignedDigit (c :: rest) ∨ HasSignedDigit rest := by
  simp only [HasSignedDigit, List.infix_cons_iff, and_or_left, exists_or, isEscape_iff]
  refine or_congr_left ⟨?_, ?_⟩
  · rintro ⟨b, value, hdigit, after, heq⟩
    exact ⟨0x2B, b, _, after, heq.symm, rfl, value, hdigit, rfl⟩
  · rintro ⟨a, b, -, after, heq, rfl, value, hdigit, -⟩
    exact ⟨b, value, hdigit, after, heq.symm⟩

theorem hasSignedDigit_cons_of_ne {c : UInt8} {rest : Bytes} (h : c ≠ 0x25) :
    HasSignedDigit (c :: rest) ↔ HasSignedDigit rest := by
  rw [hasSignedDigit_cons, or_iff_right]
  rintro ⟨-⟩
  exact h rfl

/-- Outputs of the loose and of the strict rule: where the former has the value of a digit, the
latter has the percent sign, the plus sign and the digit. -/
inductive Loosened : Bytes → Bytes → Prop
  | nil : Loosened [] []
  | same {c loose strict} (h : Loosened loose strict) : Loosened (c :: loose) (c :: strict)
  | signed {b value loose strict} (hb : IsDigit b value) (h : Loosened loose strict) :
      Loosened (.ofNat value :: loose) (0x25 :: 0x2B :: b :: strict)

namespace Loosened

theorem length_le {loose strict : Bytes} (h : Loosened loose strict) :
    loose.length ≤ strict.length := by
  induction h with
  | nil => exact Nat.le_refl _
  | same _ ih => exact Nat.succ_le_succ ih
  | signed _ _ ih => simp only [List.length_cons]; omega

/-- All that differs is below 0x80, so both are texts or neither is. -/
theorem isText_iff {loose strict : Bytes} (h : Loosened loose strict) (before : Bytes) :
    IsText (before ++ loose) ↔ IsText (before ++ strict) := by
  induction h generalizing before with
  | nil => rfl
  | @same c loose strict _ ih => simpa using ih (before ++ [c])
  | @signed b value loose strict hb _ ih =>
    have hvalue : (UInt8.ofNat value).toNat < 0x80 := by
      have := hb.lt
      rw [toNat_byte (by omega)]
      omega
    have hrest : IsText loose ↔ IsText strict := ih []
    have hplus : IsText (0x2B :: b :: strict) ↔ IsText [] ∧ IsText (b :: strict) :=
      isText_append_cons [] (by decide)
    have hdigit : IsText (b :: strict) ↔ IsText [] ∧ IsText strict :=
      isText_append_cons [] hb.byte_lt
    have hempty : IsText [] := ⟨"", rfl⟩
    rw [isText_append_cons _ hvalue, isText_append_cons _ (by decide), hplus, hdigit, hrest]
    simp only [hempty, true_and]

end Loosened

theorem unescapes_pair_of_literal {c : UInt8} {rest out : Bytes}
    (h : Unescapes IsPair (c :: rest) out) (hno : ¬ IsEscape IsPair (c :: rest)) :
    ∃ out', out = c :: out' ∧ Unescapes IsPair rest out' := by
  cases h with
  | escape hvalue _ => exact absurd ⟨hvalue⟩ hno
  | literal _ hrest => exact ⟨_, rfl, hrest⟩

theorem not_isEscape_of_ne {pair : UInt8 → UInt8 → UInt8 → Prop} {c : UInt8} {rest : Bytes}
    (h : c ≠ 0x25) : ¬ IsEscape pair (c :: rest) := by
  rintro ⟨-⟩
  exact h rfl

theorem IsDigit.ne_percent {b : UInt8} {value : Nat} (h : IsDigit b value) : b ≠ 0x25 := by
  rintro rfl
  exact not_isDigit_percent h

/-- The two rules differ at signed digits only, and there the strict one leaves more. -/
theorem Unescapes.loosened {bytes loose strict : Bytes} (h : Unescapes IsLoosePair bytes loose)
    (h' : Unescapes IsPair bytes strict) : Loosened loose strict ∧
      (HasSignedDigit bytes → loose.length < strict.length) ∧
      (¬ HasSignedDigit bytes → loose = strict) := by
  induction h generalizing strict with
  | nil =>
    cases h'
    refine ⟨.nil, ?_, fun _ => rfl⟩
    rintro ⟨b, value, -, hinfix⟩
    cases List.eq_nil_of_infix_nil hinfix
  | @escape a b value rest out hvalue hrest ih =>
    rcases hvalue with hpair | hsigned
    · obtain ⟨high, low, hhigh, hlow, -⟩ := id hpair
      cases h' with
      | literal hno _ => exact absurd ⟨hpair⟩ hno
      | escape hpair' hrest' =>
        obtain rfl := isPair_determines hpair hpair'
        obtain ⟨hloosened, hlt, heq⟩ := ih hrest'
        have hplain : HasSignedDigit (0x25 :: a :: b :: rest) ↔ HasSignedDigit rest := by
          rw [hasSignedDigit_cons, hasSignedDigit_cons_of_ne hhigh.ne_percent,
            hasSignedDigit_cons_of_ne hlow.ne_percent, or_iff_right]
          rintro ⟨rfl, -⟩
          exact not_isDigit_plus hhigh
        rw [hplain]
        exact ⟨.same hloosened, fun h => Nat.succ_lt_succ (hlt h),
          fun h => congrArg _ (heq h)⟩
    · obtain ⟨rfl, low, hlow, rfl⟩ := hsigned
      -- the strict rule passes over the percent sign, the plus sign and the digit
      have hno : ¬ IsEscape IsPair (0x25 :: 0x2B :: b :: rest) := by
        rintro ⟨high, -, hhigh, -⟩
        exact not_isDigit_plus hhigh
      obtain ⟨out₁, rfl, h₁⟩ := unescapes_pair_of_literal h' hno
      obtain ⟨out₂, rfl, h₂⟩ := unescapes_pair_of_literal h₁ (not_isEscape_of_ne (by decide))
      obtain ⟨out₃, rfl, h₃⟩ :=
        unescapes_pair_of_literal h₂ (not_isEscape_of_ne hlow.ne_percent)
      obtain ⟨hloosened, -, -⟩ := ih h₃
      refine ⟨.signed hlow hloosened, fun _ => ?_, fun hnone => ?_⟩
      · have := hloosened.length_le
        simp only [List.length_cons]
        omega
      · exact absurd ⟨b, low, hlow, [], rest, rfl⟩ hnone
  | @literal c rest out hno _ ih =>
    have hstrict : ¬ IsEscape IsPair (c :: rest) := by
      rintro ⟨hpair⟩
      exact hno ⟨.inl hpair⟩
    have hsigned : ¬ IsEscape IsSignedDigit (c :: rest) := by
      rintro ⟨hsigned⟩
      exact hno ⟨.inr hsigned⟩
    obtain ⟨out', rfl, hrest'⟩ := unescapes_pair_of_literal h' hstrict
    obtain ⟨hloosened, hlt, heq⟩ := ih hrest'
    rw [hasSignedDigit_cons, or_iff_right hsigned]
    exact ⟨.same hloosened, fun h => Nat.succ_lt_succ (hlt h), fun h => congrArg _ (heq h)⟩

/-- A name is decoded loosely: a percent sign goes with two digits behind it, or with a plus sign
and one digit, for the byte that they denote, all else stays, and if the outcome is no text the
name stays as it is. This is what comes of pairs of digits alone unless the name has a plus sign
and a digit behind a percent sign and does not stay as it is. -/
theorem names_unescaped (name : String) :
    (∀ result, IsDecoded IsLoosePair name result ↔ result = decode name) ∧
    (∃ strict, ∀ result, IsDecoded IsPair name result ↔ result = strict) ∧
    (IsDecoded IsPair name (decode name) ↔
      (HasSignedDigit (encode name) → decode name = name)) := by
  have hdecoded := isDecoded_decode name
  obtain ⟨loose, hloose, hresult⟩ := id hdecoded
  obtain ⟨strict, hstrict⟩ := Unescapes.exists IsPair (encode name)
  obtain ⟨hloosened, hlt, heq⟩ := hloose.loosened hstrict
  have htext : IsText loose ↔ IsText strict := hloosened.isText_iff []
  refine ⟨fun result => ⟨fun h => h.unique isLoosePair_determines hdecoded, ?_⟩, ?_, ?_, ?_⟩
  · rintro rfl
    exact hdecoded
  · have hexists : ∃ result, IsDecoded IsPair name result := by
      by_cases h : IsText strict
      · obtain ⟨result, hresult⟩ := h
        exact ⟨result, strict, hstrict, .inl hresult⟩
      · exact ⟨name, strict, hstrict, .inr ⟨h, rfl⟩⟩
    obtain ⟨exact', hexact⟩ := hexists
    refine ⟨exact', fun result => ⟨fun h => h.unique isPair_determines hexact, ?_⟩⟩
    rintro rfl
    exact hexact
  · rintro ⟨strict', hstrict', hsame⟩ hsigned
    obtain rfl := hstrict.unique isPair_determines hstrict'
    rcases hsame with hsame | ⟨-, hsame⟩
    · rcases hresult with hloose' | ⟨-, hstays⟩
      · exact absurd (congrArg List.length (hloose'.symm.trans hsame)) (Nat.ne_of_lt (hlt hsigned))
      · exact hstays
    · exact hsame
  · intro h
    refine ⟨strict, hstrict, ?_⟩
    by_cases hsigned : HasSignedDigit (encode name)
    · rcases hresult with hloose' | ⟨hno, -⟩
      · -- a name that a shorter one is decoded to is not that name
        rw [h hsigned] at hloose'
        have hshort := hlt hsigned
        have hlong := hstrict.length_le
        rw [hloose'] at hlong
        omega
      · exact .inr ⟨mt htext.mpr hno, h hsigned⟩
    · rw [← heq hsigned]
      exact hresult

/-- A sign in front of one digit is no pair of digits, but the three bytes go for one. -/
theorem signed_digit_unescaped :
    IsDecoded IsPair "%+5.dtsx" "%+5.dtsx" ∧ decode "%+5.dtsx" = "\x05.dtsx" ∧
      ¬ IsDecoded IsPair "%+5.dtsx" (decode "%+5.dtsx") := by
  have hbytes : encode "%+5.dtsx" = [0x25, 0x2B, 0x35, 0x2E, 0x64, 0x74, 0x73, 0x78] := by decide
  have hstays : IsDecoded IsPair "%+5.dtsx" "%+5.dtsx" := by
    refine ⟨_, ?_, .inl rfl⟩
    rw [hbytes]
    refine .literal ?_ (.of_not_mem (by decide))
    rintro ⟨high, -, hhigh, -⟩
    exact not_isDigit_plus hhigh
  have hdecode : decode "%+5.dtsx" = "\x05.dtsx" := by decide
  refine ⟨hstays, hdecode, fun h => ?_⟩
  have hsame := h.unique isPair_determines hstays
  rw [hdecode] at hsame
  exact absurd hsame (by decide)

end EtlSurvey.Text.Percent
