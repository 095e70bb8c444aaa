import EtlSurvey.Proofs.Text.Lower
import EtlSurvey.Secrecy.Policy

/-! # Spellings of sensitive keys

A built-in key is sensitive in every loose spelling. An extra key is sensitive up to the case of
ASCII letters only, which is finer than loose spelling. So two loose spellings of one key may be
decided differently, and no list of extra keys avoids that but one that adds nothing: the spellings
of an extra key that the built-in keys do not have are without end, and it matches only those of
its own length. -/

namespace EtlSurvey
open Text

section Letters

/-- Characters that loose spelling leaves out. -/
def isSeparator (c : Char) : Bool := c == ' ' || c == '_' || c == '-'

theorem isSeparator_toLower (c : Char) : isSeparator c.toLower = isSeparator c := by
  rcases toLower_cases c with hsame | ⟨hlow, hhigh, himage⟩
  · rw [hsame]
  · have hother : ∀ d : Char, isSeparator d = true →
        d.toNat = 32 ∨ d.toNat = 95 ∨ d.toNat = 45 := by
      intro d hd
      simp only [isSeparator, Bool.or_eq_true, beq_iff_eq] at hd
      rcases hd with (rfl | rfl) | rfl <;> decide
    rw [Bool.eq_iff_iff]
    constructor <;> intro h <;> have := hother _ h <;> omega

end Letters

section Spellings

variable {a b : String}

theorem looseKey_eq (key : String) : looseKey key =
    String.ofList ((key.toList.filter (!isSeparator ·)).flatMap lowerChar) := rfl

theorem looseKey_eq_of_map_toLower
    (h : a.toList.map Char.toLower = b.toList.map Char.toLower) : looseKey a = looseKey b := by
  have hfolded : ∀ s : List Char, (s.filter (!isSeparator ·)).flatMap lowerChar =
      ((s.map Char.toLower).filter (!isSeparator ·)).flatMap lowerChar := by
    intro s
    have hkeep : (fun c => !isSeparator c) ∘ Char.toLower = fun c => !isSeparator c :=
      funext fun c => congrArg (! ·) (isSeparator_toLower c)
    rw [List.filter_map, hkeep, List.flatMap_map]
    simp only [lowerChar_toLower]
  rw [looseKey_eq, looseKey_eq, hfolded, hfolded b.toList, h]

/-- Equality up to the case of ASCII letters is finer than loose spelling. -/
theorem looseKey_eq_of_eqIgnoringCase (h : eqIgnoringCase a b = true) :
    looseKey a = looseKey b :=
  looseKey_eq_of_map_toLower (beq_iff_eq.mp h)

/-- A key with dashes behind it. -/
def dashed (key : String) (n : Nat) : String := key ++ String.ofList (List.replicate n '-')

@[simp] theorem looseKey_dashed (key : String) (n : Nat) :
    looseKey (dashed key n) = looseKey key := by
  have hdashes : (List.replicate n '-').filter (!isSeparator ·) = [] := by
    simp [isSeparator]
  rw [looseKey_eq, looseKey_eq, dashed, String.toList_append, String.toList_ofList,
    List.filter_append, hdashes, List.append_nil]

theorem length_of_eqIgnoringCase (h : eqIgnoringCase a b = true) :
    a.toList.length = b.toList.length := by
  have hlength := congrArg List.length (beq_iff_eq.mp h)
  simpa only [List.length_map] using hlength

theorem eqIgnoringCase_congr (h : eqIgnoringCase a b = true) (k : String) :
    eqIgnoringCase k a = eqIgnoringCase k b := by
  have hab := beq_iff_eq.mp h
  rw [eqIgnoringCase, eqIgnoringCase, hab]

end Spellings

namespace RedactionPolicy

variable (p : RedactionPolicy)

/-- An extra key decides, up to the case of ASCII letters. -/
def isExtra (key : String) : Bool := p.extraKeys.any (eqIgnoringCase · key)

/-- All loose spellings of a key are decided alike. -/
def LooselyClosed : Prop := ∀ a b, looseKey a = looseKey b → p.isSensitive a = p.isSensitive b

theorem isSensitive_eq (key : String) :
    p.isSensitive key = (sensitiveKeys.contains (looseKey key) || p.isExtra key) := rfl

variable {p} {a b : String}

theorem isExtra_congr (h : eqIgnoringCase a b = true) : p.isExtra a = p.isExtra b := by
  simp only [isExtra, eqIgnoringCase_congr h]

theorem isSensitive_of_builtin {key : String} (h : looseKey key ∈ sensitiveKeys) :
    p.isSensitive key = true := by
  rw [isSensitive_eq, List.contains_iff_mem.mpr h, Bool.true_or]

/-- Two loose spellings of a key are decided alike if the key is built in, and else if the extra
keys decide them alike. -/
theorem isSensitive_eq_iff (h : looseKey a = looseKey b) :
    p.isSensitive a = p.isSensitive b ↔ looseKey a ∈ sensitiveKeys ∨ p.isExtra a = p.isExtra b := by
  rw [isSensitive_eq, isSensitive_eq, ← h]
  by_cases hbuiltin : looseKey a ∈ sensitiveKeys
  · simp [hbuiltin]
  · simp [hbuiltin]

theorem exists_length_le (keys : List String) : ∃ n, ∀ k ∈ keys, k.toList.length ≤ n := by
  induction keys with
  | nil => exact ⟨0, fun k hk => by cases hk⟩
  | cons first rest ih =>
    obtain ⟨n, hn⟩ := ih
    refine ⟨max first.toList.length n, fun k hk => ?_⟩
    rcases List.mem_cons.mp hk with rfl | hk
    · exact Nat.le_max_left ..
    · exact Nat.le_trans (hn k hk) (Nat.le_max_right ..)

/-- An extra key that the built-in keys do not have is missed in a spelling that is longer than all
extra keys. -/
theorem not_looselyClosed {k : String} (hk : k ∈ p.extraKeys)
    (hloose : looseKey k ∉ sensitiveKeys) : ¬ p.LooselyClosed := by
  intro hclosed
  obtain ⟨n, hn⟩ := exists_length_le p.extraKeys
  have hself : p.isExtra k = true := List.any_eq_true.mpr ⟨k, hk, beq_self_eq_true _⟩
  have hsame : p.isExtra k = p.isExtra (dashed k (n + 1)) := by
    have hloosely := (looseKey_dashed k (n + 1)).symm
    exact ((isSensitive_eq_iff hloosely).mp (hclosed _ _ hloosely)).resolve_left hloose
  obtain ⟨other, hother, heq⟩ := List.any_eq_true.mp (hsame ▸ hself)
  have hlength := length_of_eqIgnoringCase heq
  have hbound := hn other hother
  simp only [dashed, String.toList_append, String.toList_ofList, List.length_append,
    List.length_replicate] at hlength
  omega

/-- Extra keys that are built in anyway decide nothing. -/
theorem looselyClosed_of_builtin (h : ∀ k ∈ p.extraKeys, looseKey k ∈ sensitiveKeys) :
    p.LooselyClosed := by
  intro a b hab
  have hextra : ∀ key, p.isExtra key = true → looseKey key ∈ sensitiveKeys := by
    intro key hkey
    obtain ⟨k, hk, heq⟩ := List.any_eq_true.mp hkey
    exact looseKey_eq_of_eqIgnoringCase heq ▸ h k hk
  rw [isSensitive_eq_iff hab]
  by_cases hbuiltin : looseKey a ∈ sensitiveKeys
  · exact .inl hbuiltin
  · have ha : p.isExtra a = false := Bool.eq_false_iff.mpr (mt (hextra a) hbuiltin)
    have hb : p.isExtra b = false := Bool.eq_false_iff.mpr (mt (hextra b) (hab ▸ hbuiltin))
    exact .inr (ha.trans hb.symm)

end RedactionPolicy

open RedactionPolicy

/-- Which spellings of a key are decided alike. Every loose spelling of a built-in key is sensitive
and every extra key is, up to the case of ASCII letters. Loose spellings of another key are decided
alike exactly if the extra keys decide them alike, and that holds of all of them only where the
extra keys are built in anyway. -/
theorem spellings_decided_alike (p : RedactionPolicy) :
    (∀ key, looseKey key ∈ sensitiveKeys → p.isSensitive key = true) ∧
    (∀ k ∈ p.extraKeys, ∀ key, eqIgnoringCase k key = true → p.isSensitive key = true) ∧
    (∀ a b, eqIgnoringCase a b = true → p.isSensitive a = p.isSensitive b) ∧
    (∀ a b, looseKey a = looseKey b → (p.isSensitive a = p.isSensitive b ↔
      looseKey a ∈ sensitiveKeys ∨ p.isExtra a = p.isExtra b)) ∧
    (p.LooselyClosed ↔ ∀ k ∈ p.extraKeys, looseKey k ∈ sensitiveKeys) := by
  refine ⟨fun key hkey => isSensitive_of_builtin hkey, fun k hk key heq => ?extra,
    fun a b hab => ?ascii, fun a b hab => isSensitive_eq_iff hab, ?closed⟩
  case extra =>
    rw [isSensitive_eq, isExtra, List.any_eq_true.mpr ⟨k, hk, heq⟩, Bool.or_true]
  case ascii =>
    have hloosely := looseKey_eq_of_eqIgnoringCase hab
    exact (isSensitive_eq_iff hloosely).mpr (.inr (isExtra_congr hab))
  case closed =>
    refine ⟨fun hclosed k hk => ?_, looselyClosed_of_builtin⟩
    by_cases hbuiltin : looseKey k ∈ sensitiveKeys
    · exact hbuiltin
    · exact absurd hclosed (not_looselyClosed hk hbuiltin)

/-- A policy with one extra key. -/
def apiKeyPolicy : RedactionPolicy :=
  .ofConfig { extraSensitiveKeys := ["ApiKey"] } .dontSaveSensitive

theorem apiKeyPolicy_decides : apiKeyPolicy.isSensitive "User ID" = true ∧
    apiKeyPolicy.isSensitive "APIKEY" = true ∧
    apiKeyPolicy.isSensitive "apikey" = apiKeyPolicy.isSensitive "APIKEY" :=
  ⟨(spellings_decided_alike apiKeyPolicy).1 "User ID" (by decide +kernel),
    (spellings_decided_alike apiKeyPolicy).2.1 "ApiKey" (by decide +kernel) "APIKEY" (by decide),
    (spellings_decided_alike apiKeyPolicy).2.2.1 "apikey" "APIKEY" (by decide)⟩

theorem apiKeyPolicy_not_looselyClosed : ¬ apiKeyPolicy.LooselyClosed := by
  intro hclosed
  have hsame : apiKeyPolicy.isSensitive "ApiKey" = apiKeyPolicy.isSensitive "Api Key" :=
    hclosed "ApiKey" "Api Key" (by decide +kernel)
  exact absurd hsame (by decide +kernel)

end EtlSurvey
