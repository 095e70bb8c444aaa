import EtlSurvey.Json.Printer
import EtlSurvey.Json.Reader

/-! # Printed texts and numbers are read back

A printed text ends with its own quote, so it is read back in front of anything. A printed number
has no end of its own: what follows it must not go on with it. -/

namespace EtlSurvey.Json.Reader

theorem skipSpace_append {blanks rest : List Char} (h : ∀ c ∈ blanks, isSpace c = true) :
    skipSpace (blanks ++ rest) = skipSpace rest := List.dropWhile_append_of_pos h

theorem skipSpace_cons {c : Char} {rest : List Char} (h : isSpace c = false) :
    skipSpace (c :: rest) = c :: rest := by
  simp [skipSpace, h]

/-! ## Texts -/

theorem hexValue_hexDigit : ∀ n < 16, Text.hexValue? (Text.hexDigit n) = some n := by decide

/-- Two digits after two zeros say a number below 256. -/
theorem hex4_hexDigits {n : Nat} (h : n < 256) :
    hex4? '0' '0' (Text.hexDigit (n / 16)) (Text.hexDigit (n % 16)) = some n := by
  have hzero : Text.hexValue? '0' = some 0 := by decide
  have hhigh := hexValue_hexDigit (n / 16) (by omega)
  have hlow := hexValue_hexDigit (n % 16) (by omega)
  simp only [hex4?, hzero, hhigh, hlow, Option.bind_eq_bind, Option.bind_some, Option.pure_def]
  congr 1
  omega

theorem pieceOfUnit_toNat {c : Char} (h : c.toNat < 0xD800) : pieceOfUnit c.toNat = .char c := by
  unfold pieceOfUnit
  rw [if_neg (by simp; omega), Char.ofNat_toNat]

/-- However a character is written, it is read as itself. -/
theorem stringBody_escapeChar (c : Char) (rest : List Char) :
    stringBody (escapeChar c ++ rest) =
      (stringBody rest).map fun read => (.char c :: read.1, read.2) := by
  have hshort : ∀ e, e ≠ 'u' → shortEscape? e = some c →
      stringBody (['\\', e] ++ rest) =
        (stringBody rest).map fun read => (.char c :: read.1, read.2) := by
    intro e he hc
    rw [List.cons_append, List.cons_append, List.nil_append, stringBody.eq_4 _ _ (by
      intro _ _ _ _ _ h _; exact he h), hc]
    cases stringBody rest <;> rfl
  unfold escapeChar
  split
  · next h => exact hshort '"' (by decide) (by rw [eq_of_beq h]; rfl)
  split
  · next h => exact hshort '\\' (by decide) (by rw [eq_of_beq h]; rfl)
  split
  · next h => exact hshort 'b' (by decide) (by rw [eq_of_beq h]; rfl)
  split
  · next h => exact hshort 'f' (by decide) (by rw [eq_of_beq h]; rfl)
  split
  · next h => exact hshort 'n' (by decide) (by rw [eq_of_beq h]; rfl)
  split
  · next h => exact hshort 'r' (by decide) (by rw [eq_of_beq h]; rfl)
  split
  · next h => exact hshort 't' (by decide) (by rw [eq_of_beq h]; rfl)
  split
  · next h =>
    simp only [List.cons_append, List.nil_append, stringBody]
    have hunit : c.toNat < 0xD800 := by omega
    rw [hex4_hexDigits (by omega)]
    simp only [Option.bind_eq_bind, Option.bind_some, pieceOfUnit_toNat hunit]
    cases stringBody rest <;> rfl
  · next hquote hslash _ _ _ _ _ hcontrol =>
    have hplain : c ≠ '\\' := by simpa using hslash
    rw [List.cons_append, List.nil_append, stringBody.eq_5 c rest (by simpa using hquote)
      (fun _ _ _ _ _ h _ => hplain h) (fun _ _ h _ => hplain h)]
    rw [if_neg (by simpa using ⟨hplain, by omega⟩)]
    cases stringBody rest <;> rfl

theorem stringBody_escaped (text rest : List Char) :
    stringBody (text.flatMap escapeChar ++ '"' :: rest) = some (text.map .char, rest) := by
  induction text with
  | nil => rfl
  | cons c text ih =>
    rw [List.flatMap_cons, List.append_assoc, stringBody_escapeChar, ih]
    rfl

theorem joinPieces_chars (text : List Char) : joinPieces (text.map .char) = some text := by
  induction text with
  | nil => rfl
  | cons c text ih => simp [joinPieces, ih]

/-- What `renderText` writes after the opening quote. -/
theorem string_escaped (s : String) (rest : List Char) :
    string? (s.toList.flatMap escapeChar ++ '"' :: rest) = some (some s, rest) := by
  simp [string?, stringBody_escaped, joinPieces_chars]

theorem renderText_append (s : String) (rest : List Char) :
    renderText s ++ rest = '"' :: (s.toList.flatMap escapeChar ++ '"' :: rest) := by
  simp [renderText]

/-! ## Numbers -/

/-- A number does not go on here. -/
def Ends (rest : List Char) : Prop :=
  ∀ c ∈ rest.head?, c.isDigit = false ∧ c ≠ '.' ∧ c ≠ 'e' ∧ c ≠ 'E'

theorem ends_nil : Ends [] := by simp [Ends]

theorem ends_cons {c : Char} {rest : List Char}
    (h : c.isDigit = false ∧ c ≠ '.' ∧ c ≠ 'e' ∧ c ≠ 'E') : Ends (c :: rest) := by
  simpa [Ends] using h

theorem digits_append {number rest : List Char} (hn : ∀ c ∈ number, c.isDigit = true)
    (hr : Ends rest) : digits (number ++ rest) = number ∧ afterDigits (number ++ rest) = rest := by
  unfold digits afterDigits
  rw [List.takeWhile_append_of_pos hn, List.dropWhile_append_of_pos hn]
  cases rest with
  | nil => simp
  | cons c rest => simp [(hr c rfl).1]

theorem fraction_ends {rest : List Char} (h : Ends rest) : fraction? rest = some ([], rest) := by
  cases rest with
  | nil => rfl
  | cons c rest =>
    have hc := (h c rfl).2.1
    unfold fraction?
    split
    · next he => exact absurd (List.cons.inj he).1 hc
    · rfl

theorem exponent_ends {rest : List Char} (h : Ends rest) : exponent? rest = some ([], rest) := by
  cases rest with
  | nil => rfl
  | cons c rest =>
    obtain ⟨_, _, hlower, hupper⟩ := h c rfl
    simp [exponent?, hlower, hupper]

theorem decimalDigit_digitChar :
    ∀ n < 10, Text.decimalDigit? n.digitChar = some n ∧ (0 < n → n.digitChar ≠ '0') := by decide

/-- Decimal digits stand for the number they were made of. -/
theorem natural_toDigits (n : Nat) : Text.natural? (Nat.toDigits 10 n) = some n := by
  have hfold : (Nat.toDigits 10 n).foldlM
      (fun n c => (Text.decimalDigit? c).map (n * 10 + ·)) 0 = some n := by
    induction n using Nat.strongRecOn with
    | ind n ih =>
      rw [Nat.toDigits_eq_if (by decide)]
      split
      · next h => simp [(decimalDigit_digitChar n h).1]
      · next h =>
        have hlast := (decimalDigit_digitChar (n % 10) (by omega)).1
        rw [List.foldlM_append, ih (n / 10) (by omega)]
        simp only [Option.bind_eq_bind, Option.bind_some, List.foldlM_cons, hlast, Option.map_some,
          List.foldlM_nil, Option.pure_def]
        congr 1
        omega
  unfold Text.natural?
  rw [if_neg (by simp), hfold]

theorem head_toDigits {n : Nat} (hn : 0 < n) : (Nat.toDigits 10 n).head? ≠ some '0' := by
  induction n using Nat.strongRecOn with
  | ind n ih =>
    rw [Nat.toDigits_eq_if (by decide)]
    split
    · next h => simpa using (decimalDigit_digitChar n h).2 hn
    · next h =>
      have hhead := ih (n / 10) (by omega) (by omega)
      rw [List.head?_append]
      cases hd : (Nat.toDigits 10 (n / 10)).head? with
      | none => simp at hd
      | some c => simpa [hd] using hhead

/-- There is no leading zero. -/
theorem toDigits_wellFormed (n : Nat) : ((Nat.toDigits 10 n).isEmpty ||
    ((Nat.toDigits 10 n).head? == some '0' && (Nat.toDigits 10 n).length != 1)) = false := by
  rcases Nat.eq_zero_or_pos n with rfl | hn
  · rfl
  · have hhead := head_toDigits hn
    simp [hhead]

theorem number_toDigits (negative : Bool) (n : Nat) {rest : List Char} (hr : Ends rest)
    (hzero : negative = true → 0 < n) :
    number? negative (Nat.toDigits 10 n ++ rest) =
      some (.int (if negative then -(n : Int) else n), rest) := by
  have hall : ∀ c ∈ Nat.toDigits 10 n, c.isDigit = true := fun c hc =>
    Nat.isDigit_of_mem_toDigits (by decide) (by decide) hc
  obtain ⟨hdigits, hafter⟩ := digits_append hall hr
  have hsign : (negative && n == 0) = false := by
    cases negative with
    | false => rfl
    | true => have := hzero rfl; simp; omega
  simp only [number?, hdigits, hafter, toDigits_wellFormed, fraction_ends hr, natural_toDigits,
    Bool.false_eq_true, if_false, Option.bind_eq_bind, Option.bind_some, exponent_ends hr, hsign]
  rfl

end EtlSurvey.Json.Reader
