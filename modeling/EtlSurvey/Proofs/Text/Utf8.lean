import EtlSurvey.Text.Utf8
import Mathlib.Data.List.Basic

/-! # Well-formed bytes

Decoding takes bytes apart into the characters whose bytes they are. So it accepts the bytes of
texts and no others, and a byte below 0x80 separates what is before it from what is behind it. -/

namespace EtlSurvey.Text.Utf8

section Bytes

theorem within_iff {low high b : UInt8} :
    within low high b ↔ low.toNat ≤ b.toNat ∧ b.toNat ≤ high.toNat := by
  rw [within, Bool.and_eq_true, decide_eq_true_iff, decide_eq_true_iff, UInt8.le_iff_toNat_le,
    UInt8.le_iff_toNat_le]

theorem isContinuation_iff {b : UInt8} : isContinuation b ↔ 0x80 ≤ b.toNat ∧ b.toNat < 0xC0 := by
  rw [isContinuation, within_iff]
  show 128 ≤ _ ∧ _ ≤ 191 ↔ _
  omega

theorem announced_eq (lead : UInt8) : announced lead =
    if lead.toNat < 0x80 then some 1
    else if 0xC2 ≤ lead.toNat ∧ lead.toNat < 0xE0 then some 2
    else if 0xE0 ≤ lead.toNat ∧ lead.toNat < 0xF0 then some 3
    else if 0xF0 ≤ lead.toNat ∧ lead.toNat < 0xF5 then some 4
    else none := by
  simp only [announced, within_iff, UInt8.lt_iff_toNat_lt]
  simp only [UInt8.reduceToNat, Nat.lt_succ_iff]

theorem secondAllowed_iff {lead b : UInt8} : secondAllowed lead b ↔
    0x80 ≤ b.toNat ∧ b.toNat < 0xC0 ∧ (lead.toNat = 0xE0 → 0xA0 ≤ b.toNat) ∧
      (lead.toNat = 0xED → b.toNat < 0xA0) ∧ (lead.toNat = 0xF0 → 0x90 ≤ b.toNat) ∧
      (lead.toNat = 0xF4 → b.toNat < 0x90) := by
  simp only [secondAllowed, isContinuation, beq_iff_eq, ← UInt8.toNat_inj]
  split_ifs <;> simp only [within_iff, UInt8.reduceToNat] at * <;> omega

theorem toNat_byte {n : Nat} (h : n < 256) : (UInt8.ofNat n).toNat = n := by
  rw [UInt8.toNat_ofNat', Nat.mod_eq_of_lt h]

theorem byte_eq {n : Nat} {b : UInt8} (h : n = b.toNat) : UInt8.ofNat n = b := by
  rw [h, UInt8.ofNat_toNat]

theorem toNat_ofNat {n : Nat} (h : n.isValidChar) : (Char.ofNat n).toNat = n := by
  rw [Char.ofNat, dif_pos h]
  rfl

end Bytes

/-- What a byte string begins with, spelled out by the number of bytes of the character. -/
theorem first_eq_some_iff {lead : UInt8} {rest : Bytes} {c : Char} {n : Nat} :
    first lead rest = (some c, n) ↔
      (announced lead = some 1 ∧ Char.ofNat lead.toNat = c ∧ 0 = n) ∨
      (announced lead = some 2 ∧ ∃ b r, rest = b :: r ∧ secondAllowed lead b ∧
        Char.ofNat (lead.toNat % 32 * 64 + low6 b) = c ∧ 1 = n) ∨
      (announced lead = some 3 ∧ ∃ b d r, rest = b :: d :: r ∧ secondAllowed lead b ∧
        isContinuation d ∧
        Char.ofNat ((lead.toNat % 16 * 64 + low6 b) * 64 + low6 d) = c ∧ 2 = n) ∨
      (announced lead = some 4 ∧ ∃ b d e r, rest = b :: d :: e :: r ∧ secondAllowed lead b ∧
        isContinuation d ∧ isContinuation e ∧
        Char.ofNat (((lead.toNat % 8 * 64 + low6 b) * 64 + low6 d) * 64 + low6 e) = c ∧
          3 = n) := by
  have hannounced := announced_eq lead
  rw [first]
  split_ifs at hannounced with h1 h2 h3 h4 <;> rw [hannounced]
  · simp
  · cases rest with
    | nil => simp
    | cons b r => by_cases hb : secondAllowed lead b <;> simp [hb]
  · rcases rest with _ | ⟨b, _ | ⟨d, r⟩⟩
    · simp
    · by_cases hb : secondAllowed lead b <;> simp [hb]
    · by_cases hb : secondAllowed lead b <;> by_cases hd : isContinuation d <;> simp [hb, hd]
  · rcases rest with _ | ⟨b, _ | ⟨d, _ | ⟨e, r⟩⟩⟩
    · simp
    · by_cases hb : secondAllowed lead b <;> simp [hb]
    · by_cases hb : secondAllowed lead b <;> by_cases hd : isContinuation d <;> simp [hb, hd]
    · by_cases hb : secondAllowed lead b <;> by_cases hd : isContinuation d <;>
        by_cases he : isContinuation e <;> simp [hb, hd, he]
  · simp

/-- The bytes of a character; those of one byte are the code points below 0x80. -/
theorem encodeChar_eq (c : Char) : String.utf8EncodeChar c =
    if c.toNat < 0x80 then [.ofNat c.toNat]
    else if c.toNat < 0x800 then [.ofNat (c.toNat / 64 + 0xC0), .ofNat (c.toNat % 64 + 0x80)]
    else if c.toNat < 0x10000 then
      [.ofNat (c.toNat / 4096 + 0xE0), .ofNat (c.toNat / 64 % 64 + 0x80),
        .ofNat (c.toNat % 64 + 0x80)]
    else [.ofNat (c.toNat / 262144 + 0xF0), .ofNat (c.toNat / 4096 % 64 + 0x80),
      .ofNat (c.toNat / 64 % 64 + 0x80), .ofNat (c.toNat % 64 + 0x80)] := by
  have hvalid : c.toNat.isValidChar := c.valid
  have hval : c.val.toNat = c.toNat := rfl
  rw [Nat.isValidChar] at hvalid
  simp only [String.utf8EncodeChar, hval, ← Nat.lt_succ_iff]
  split_ifs with h1 h2 h3
  · rfl
  · rw [Nat.mod_eq_of_lt (by omega : c.toNat / 64 < 32)]
  · rw [Nat.mod_eq_of_lt (by omega : c.toNat / 4096 < 16)]
  · rw [Nat.mod_eq_of_lt (by omega : c.toNat / 262144 < 8)]

theorem ofNat_eq {n : Nat} {c : Char} (h : n = c.toNat) : Char.ofNat n = c := by
  rw [h, Char.ofNat_toNat]

/-- A character is read off its bytes, whatever follows them. -/
theorem first_encodeChar (c : Char) : ∃ lead more, String.utf8EncodeChar c = lead :: more ∧
    ∀ rest, first lead (more ++ rest) = (some c, more.length) := by
  have hvalid : c.toNat.isValidChar := c.valid
  rw [Nat.isValidChar] at hvalid
  rw [encodeChar_eq]
  split_ifs with h1 h2 h3
  · refine ⟨_, _, rfl, fun rest => first_eq_some_iff.mpr (.inl ⟨?_, ofNat_eq ?_, rfl⟩)⟩
    · rw [announced_eq, toNat_byte (by omega), if_pos h1]
    · rw [toNat_byte (by omega)]
  · refine ⟨_, _, rfl, fun rest => first_eq_some_iff.mpr (.inr (.inl
      ⟨?_, _, _, rfl, ?_, ofNat_eq ?_, rfl⟩))⟩
    · rw [announced_eq, toNat_byte (by omega), if_neg (by omega), if_pos (by omega)]
    · rw [secondAllowed_iff, toNat_byte (by omega), toNat_byte (by omega)]
      omega
    · rw [low6, toNat_byte (by omega), toNat_byte (by omega)]
      omega
  · refine ⟨_, _, rfl, fun rest => first_eq_some_iff.mpr (.inr (.inr (.inl
      ⟨?_, _, _, _, rfl, ?_, ?_, ofNat_eq ?_, rfl⟩)))⟩
    · rw [announced_eq, toNat_byte (by omega), if_neg (by omega), if_neg (by omega),
        if_pos (by omega)]
    · rw [secondAllowed_iff, toNat_byte (by omega), toNat_byte (by omega)]
      omega
    · rw [isContinuation_iff, toNat_byte (by omega)]
      omega
    · rw [low6, low6, toNat_byte (by omega), toNat_byte (by omega), toNat_byte (by omega)]
      omega
  · refine ⟨_, _, rfl, fun rest => first_eq_some_iff.mpr (.inr (.inr (.inr
      ⟨?_, _, _, _, _, rfl, ?_, ?_, ?_, ofNat_eq ?_, rfl⟩)))⟩
    · rw [announced_eq, toNat_byte (by omega), if_neg (by omega), if_neg (by omega),
        if_neg (by omega), if_pos (by omega)]
    · rw [secondAllowed_iff, toNat_byte (by omega), toNat_byte (by omega)]
      omega
    · rw [isContinuation_iff, toNat_byte (by omega)]
      omega
    · rw [isContinuation_iff, toNat_byte (by omega)]
      omega
    · rw [low6, low6, low6, toNat_byte (by omega), toNat_byte (by omega), toNat_byte (by omega),
        toNat_byte (by omega)]
      omega

/-- What is read as a character are its bytes. -/
theorem encodeChar_of_first {lead : UInt8} {rest : Bytes} {c : Char} {n : Nat}
    (h : first lead rest = (some c, n)) : String.utf8EncodeChar c = lead :: rest.take n := by
  have hlead := announced_eq lead
  rcases first_eq_some_iff.mp h with ⟨ha, rfl, rfl⟩ | ⟨ha, b, r, rfl, hb, rfl, rfl⟩ |
    ⟨ha, b, d, r, rfl, hb, hd, rfl, rfl⟩ | ⟨ha, b, d, e, r, rfl, hb, hd, he, rfl, rfl⟩ <;>
    rw [ha] at hlead <;> split_ifs at hlead <;> try cases hlead
  · rw [encodeChar_eq, toNat_ofNat (.inl (by omega)), if_pos ‹_›, byte_eq rfl]
    rfl
  · obtain ⟨hb1, hb2, -⟩ := secondAllowed_iff.mp hb
    have hvalue : lead.toNat % 32 * 64 + low6 b =
        (lead.toNat - 0xC0) * 64 + (b.toNat - 0x80) := by
      rw [low6]
      omega
    rw [hvalue, encodeChar_eq, toNat_ofNat (.inl (by omega)), if_neg (by omega), if_pos (by omega),
      byte_eq (b := lead) (by omega), byte_eq (b := b) (by omega)]
    rfl
  · obtain ⟨hb1, hb2, hb3, hb4, -⟩ := secondAllowed_iff.mp hb
    obtain ⟨hd1, hd2⟩ := isContinuation_iff.mp hd
    have hvalue : (lead.toNat % 16 * 64 + low6 b) * 64 + low6 d =
        (lead.toNat - 0xE0) * 4096 + (b.toNat - 0x80) * 64 + (d.toNat - 0x80) := by
      rw [low6, low6]
      omega
    rw [hvalue, encodeChar_eq, toNat_ofNat (by rw [Nat.isValidChar]; omega), if_neg (by omega),
      if_neg (by omega), if_pos (by omega), byte_eq (b := lead) (by omega),
      byte_eq (b := b) (by omega), byte_eq (b := d) (by omega)]
    rfl
  · obtain ⟨hb1, hb2, -, -, hb5, hb6⟩ := secondAllowed_iff.mp hb
    obtain ⟨hd1, hd2⟩ := isContinuation_iff.mp hd
    obtain ⟨he1, he2⟩ := isContinuation_iff.mp he
    have hvalue : ((lead.toNat % 8 * 64 + low6 b) * 64 + low6 d) * 64 + low6 e =
        (lead.toNat - 0xF0) * 262144 + (b.toNat - 0x80) * 4096 + (d.toNat - 0x80) * 64 +
          (e.toNat - 0x80) := by
      rw [low6, low6, low6]
      omega
    rw [hvalue, encodeChar_eq, toNat_ofNat (by rw [Nat.isValidChar]; omega), if_neg (by omega),
      if_neg (by omega), if_neg (by omega), byte_eq (b := lead) (by omega),
      byte_eq (b := b) (by omega), byte_eq (b := d) (by omega), byte_eq (b := e) (by omega)]
    rfl

theorem piecesFrom_eq (taken : Nat) (bytes : Bytes) :
    piecesFrom taken bytes = pieces (bytes.drop taken) := by
  induction taken generalizing bytes with
  | zero => rfl
  | succ taken ih =>
    cases bytes with
    | nil => rfl
    | cons b rest => exact ih rest

theorem pieces_cons (lead : UInt8) (rest : Bytes) : pieces (lead :: rest) =
    (first lead rest).1 :: pieces (rest.drop (first lead rest).2) := by
  rw [← piecesFrom_eq]
  rfl

/-- Bytes are taken apart into characters if they are the bytes of those. -/
theorem pieces_eq_iff {bytes : Bytes} {cs : List Char} :
    pieces bytes = cs.map some ↔ cs.flatMap String.utf8EncodeChar = bytes := by
  constructor
  · intro h
    induction cs generalizing bytes with
    | nil =>
      cases bytes with
      | nil => rfl
      | cons lead rest =>
        rw [pieces_cons] at h
        cases h
    | cons c cs ih =>
      cases bytes with
      | nil => cases h
      | cons lead rest =>
        rw [pieces_cons, List.map_cons] at h
        obtain ⟨hfirst, hrest⟩ := List.cons.inj h
        rw [List.flatMap_cons, ih hrest, encodeChar_of_first (Prod.ext hfirst rfl),
          List.cons_append, List.take_append_drop]
  · rintro rfl
    induction cs with
    | nil => rfl
    | cons c cs ih =>
      obtain ⟨lead, more, hc, hfirst⟩ := first_encodeChar c
      rw [List.flatMap_cons, hc, List.cons_append, pieces_cons, hfirst, List.drop_left, ih,
        List.map_cons]

theorem mapM_id_eq_some_iff {as : List (Option α)} {bs : List α} :
    as.mapM id = some bs ↔ as = bs.map some := by
  induction as generalizing bs with
  | nil => cases bs <;> simp
  | cons a as ih =>
    cases a with
    | none => cases bs <;> simp [List.mapM_cons]
    | some a =>
      have hstep : (some a :: as).mapM id = (as.mapM id).map (a :: ·) := by
        rw [List.mapM_cons]
        cases as.mapM id <;> rfl
      rw [hstep, Option.map_eq_some_iff]
      cases bs <;> simp [ih, and_comm]

/-- Decoding is the inverse of encoding. -/
theorem decode?_eq_some_iff {bytes : Bytes} {s : String} :
    decode? bytes = some s ↔ encode s = bytes := by
  rw [decode?, Option.map_eq_some_iff, encode, ← pieces_eq_iff]
  constructor
  · rintro ⟨cs, hcs, rfl⟩
    rw [String.toList_ofList]
    exact mapM_id_eq_some_iff.mp hcs
  · intro h
    exact ⟨s.toList, mapM_id_eq_some_iff.mpr h, String.ofList_toList⟩

/-- The bytes are those of a text. -/
def IsText (bytes : Bytes) : Prop := ∃ s, encode s = bytes

theorem decode?_eq_none_iff {bytes : Bytes} : decode? bytes = none ↔ ¬ IsText bytes := by
  rw [Option.eq_none_iff_forall_ne_some, IsText, not_exists]
  exact forall_congr' fun s => not_congr decode?_eq_some_iff

theorem isText_iff_chars {bytes : Bytes} :
    IsText bytes ↔ ∃ cs : List Char, cs.flatMap String.utf8EncodeChar = bytes := by
  constructor
  · rintro ⟨s, rfl⟩
    exact ⟨s.toList, rfl⟩
  · rintro ⟨cs, rfl⟩
    exact ⟨String.ofList cs, encode_ofList cs⟩

/-- A byte below 0x80 is a character by itself. -/
theorem encodeChar_of_mem {c : Char} {b : UInt8} (hb : b.toNat < 0x80)
    (h : b ∈ String.utf8EncodeChar c) : String.utf8EncodeChar c = [b] := by
  have hvalid : c.toNat.isValidChar := c.valid
  rw [Nat.isValidChar] at hvalid
  have hhigh : ∀ n, n < 0x80 → b ≠ .ofNat (n + 0x80) := by
    rintro n hn rfl
    rw [toNat_byte (by omega)] at hb
    omega
  rw [encodeChar_eq] at h ⊢
  split_ifs at h ⊢ with h1 h2 h3
  · rw [List.mem_singleton.mp h]
  · simp only [List.mem_cons, List.not_mem_nil, or_false] at h
    rcases h with h | h
    · exact absurd h (hhigh (c.toNat / 64 + 0x40) (by omega))
    · exact absurd h (hhigh _ (by omega))
  · simp only [List.mem_cons, List.not_mem_nil, or_false] at h
    rcases h with h | h | h
    · exact absurd h (hhigh (c.toNat / 4096 + 0x60) (by omega))
    · exact absurd h (hhigh _ (by omega))
    · exact absurd h (hhigh _ (by omega))
  · simp only [List.mem_cons, List.not_mem_nil, or_false] at h
    rcases h with h | h | h | h
    · exact absurd h (hhigh (c.toNat / 262144 + 0x70) (by omega))
    · exact absurd h (hhigh _ (by omega))
    · exact absurd h (hhigh _ (by omega))
    · exact absurd h (hhigh _ (by omega))

theorem encodeChar_byte {b : UInt8} (hb : b.toNat < 0x80) :
    String.utf8EncodeChar (Char.ofNat b.toNat) = [b] := by
  rw [encodeChar_eq, toNat_ofNat (.inl (by omega)), if_pos hb, byte_eq rfl]

/-- Around a byte below 0x80 there are texts. -/
theorem isText_append_cons (before : Bytes) {after : Bytes} {b : UInt8} (hb : b.toNat < 0x80) :
    IsText (before ++ b :: after) ↔ IsText before ∧ IsText after := by
  simp only [isText_iff_chars]
  constructor
  · rintro ⟨cs, hcs⟩
    induction cs generalizing before with
    | nil => simp at hcs
    | cons c cs ih =>
      rw [List.flatMap_cons] at hcs
      rcases List.append_eq_append_iff.mp hcs with ⟨later, rfl, hlater⟩ | ⟨part, hc, hpart⟩
      · obtain ⟨⟨cs', hcs'⟩, hafter⟩ := ih later hlater
        exact ⟨⟨c :: cs', by rw [List.flatMap_cons, hcs']⟩, hafter⟩
      · cases part with
        | nil =>
          rw [List.append_nil] at hc
          obtain ⟨-, hafter⟩ := ih [] hpart.symm
          exact ⟨⟨[c], by rw [List.flatMap_singleton, hc]⟩, hafter⟩
        | cons b' part =>
          obtain ⟨rfl, hafter⟩ := List.cons.inj hpart
          -- the byte is in a character, so it is that character
          have hsingle := encodeChar_of_mem hb (hc ▸ List.mem_append_right _ List.mem_cons_self)
          rw [hsingle] at hc
          obtain ⟨rfl, hrest⟩ := List.append_eq_singleton_iff.mp hc.symm |>.resolve_right (by simp)
          obtain rfl := (List.cons.inj hrest).2
          exact ⟨⟨[], rfl⟩, cs, hafter.symm⟩
  · rintro ⟨⟨cs, rfl⟩, cs', rfl⟩
    refine ⟨cs ++ Char.ofNat b.toNat :: cs', ?_⟩
    rw [List.flatMap_append, List.flatMap_cons, encodeChar_byte hb]
    rfl

section Prefixes

theorem encode_append (s t : String) : encode (s ++ t) = encode s ++ encode t := by
  rw [encode, String.toList_append, List.flatMap_append, ← encode, ← encode]

theorem prefix_of_flatMap_encodeChar {cs ds : List Char}
    (h : cs.flatMap String.utf8EncodeChar <+: ds.flatMap String.utf8EncodeChar) : cs <+: ds := by
  induction cs generalizing ds with
  | nil => exact List.nil_prefix
  | cons c cs ih =>
    obtain ⟨lead, more, hc, hfirst⟩ := first_encodeChar c
    obtain ⟨rest, hrest⟩ := h
    cases ds with
    | nil =>
      rw [List.flatMap_cons, hc] at hrest
      cases hrest
    | cons d ds =>
      obtain ⟨lead', more', hd, hfirst'⟩ := first_encodeChar d
      rw [List.flatMap_cons, List.flatMap_cons, hc, hd, List.append_assoc, List.cons_append,
        List.cons_append] at hrest
      obtain ⟨rfl, htail⟩ := List.cons.inj hrest
      -- The same bytes begin with both characters.
      have hsame : (some c, more.length) = (some d, more'.length) := by
        rw [← hfirst, htail, hfirst']
      obtain rfl : c = d := Option.some.inj (Prod.mk.inj hsame).1
      obtain rfl : more = more' := (List.cons.inj (hc.symm.trans hd)).2
      exact List.cons_prefix_cons.mpr ⟨rfl, ih ⟨rest, List.append_cancel_left htail⟩⟩

/-- A text is in front of another exactly if its bytes are in front of the other's. -/
theorem encode_prefix_iff {s t : String} : encode s <+: encode t ↔ s.toList <+: t.toList := by
  refine ⟨prefix_of_flatMap_encodeChar, ?_⟩
  rintro ⟨rest, hrest⟩
  rw [encode, encode, ← hrest, List.flatMap_append]
  exact List.prefix_append _ _

end Prefixes

end EtlSurvey.Text.Utf8
