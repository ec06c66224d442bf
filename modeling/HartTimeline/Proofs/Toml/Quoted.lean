import HartTimeline.Toml.Quoted
import Mathlib.Algebra.Group.Nat.Defs

/-!
# How strings are written in TOML

A text has many forms as a basic string: every character can be escaped, some in several ways, and
most can stand as they are. The forms are told here without reading them.

Main statements: `basicBody_eq_some_iff`, a basic string is read as a text exactly if it is a form
of it, and `exists_spells`, every text has a form.
-/

namespace HartTimeline.Toml

variable {c : Char} {s w t rest : Text}

/-! ## Code points in hexadecimal -/

theorem ofDigits_concat (base : Nat) (ds : Text) (d : Char) :
    ofDigits base (ds ++ [d]) = ofDigits base ds * base + digitValue d := by
  rw [ofDigits, List.foldl_append]
  rfl

/-- Every number has digits, as many as one likes if they are enough for it. -/
theorem exists_hexDigits {n k : Nat} (h : n < 16 ^ k) :
    ∃ ds : Text, ds.length = k ∧ (∀ d ∈ ds, isHexDigit d = true) ∧ ofDigits 16 ds = n := by
  induction k generalizing n with
  | zero =>
    obtain rfl : n = 0 := by simpa using h
    exact ⟨[], rfl, nofun, rfl⟩
  | succ k ih =>
    have hdigit : ∀ r < 16, isHexDigit (Nat.digitChar r) = true ∧
        digitValue (Nat.digitChar r) = r := by decide
    obtain ⟨hhex, hvalue⟩ := hdigit (n % 16) (Nat.mod_lt n (by decide))
    have hfront : n / 16 < 16 ^ k := by
      rw [pow_succ] at h
      omega
    obtain ⟨ds, hlength, hall, hds⟩ := ih hfront
    refine ⟨ds ++ [Nat.digitChar (n % 16)], by simp [hlength], ?_, ?_⟩
    · intro d hd
      rcases List.mem_append.1 hd with hd | hd
      · exact hall d hd
      · rw [List.mem_singleton.1 hd]
        exact hhex
    · rw [ofDigits_concat, hds, hvalue]
      omega

theorem charOfHex?_eq_some_iff {ds : Text} :
    charOfHex? ds = some c ↔ (∀ d ∈ ds, isHexDigit d = true) ∧ ofDigits 16 ds = c.toNat := by
  simp only [charOfHex?]
  constructor
  · intro h
    split at h
    · rename_i hvalid
      rw [Bool.and_eq_true, List.all_eq_true, decide_eq_true_eq] at hvalid
      refine ⟨hvalid.1, ?_⟩
      rw [← Option.some.inj h, Char.ofNat, dif_pos hvalid.2]
      rfl
    · cases h
  · rintro ⟨hall, hvalue⟩
    have hvalid : (ofDigits 16 ds).isValidChar := by
      rw [hvalue]
      exact c.valid
    rw [if_pos (by simpa [hvalid] using hall), hvalue, Char.ofNat_toNat]

/-! ## Escapes -/

/-- The letters of the short escapes, each with the character that it stands for. -/
def shortEscapes : List (Char × Char) :=
  [('b', '\x08'), ('t', '\t'), ('n', '\n'), ('f', '\x0c'), ('r', '\r'), ('"', '"'), ('\\', '\\')]

/-- The ways to write a character after a backslash. -/
inductive Escapes (c : Char) : Text → Prop
  /-- One letter. -/
  | short {letter : Char} (known : (letter, c) ∈ shortEscapes) : Escapes c [letter]
  /-- The code point in four digits. -/
  | four {ds : Text} (length : ds.length = 4) (hex : ∀ d ∈ ds, isHexDigit d = true)
      (value : ofDigits 16 ds = c.toNat) : Escapes c ('u' :: ds)
  /-- The code point in eight digits. -/
  | eight {ds : Text} (length : ds.length = 8) (hex : ∀ d ∈ ds, isHexDigit d = true)
      (value : ofDigits 16 ds = c.toNat) : Escapes c ('U' :: ds)

theorem shortEscape?_eq_some_iff {letter : Char} :
    shortEscape? letter = some c ↔ (letter, c) ∈ shortEscapes := by
  simp only [shortEscape?, shortEscapes]
  split <;> simp_all [eq_comm]

/-- An escape is read as the character that it stands for, and nothing else is read as one. -/
theorem escape_eq_some_iff :
    escape t = some (c, rest) ↔ ∃ w, Escapes c w ∧ t = w ++ rest := by
  constructor
  · intro h
    unfold escape at h
    split at h
    · obtain ⟨e, he, heq⟩ := Option.map_eq_some_iff.1 h
      cases heq
      obtain ⟨hex, value⟩ := charOfHex?_eq_some_iff.1 he
      exact ⟨_, .four rfl hex value, rfl⟩
    · obtain ⟨e, he, heq⟩ := Option.map_eq_some_iff.1 h
      cases heq
      obtain ⟨hex, value⟩ := charOfHex?_eq_some_iff.1 he
      exact ⟨_, .eight rfl hex value, rfl⟩
    · obtain ⟨e, he, heq⟩ := Option.map_eq_some_iff.1 h
      cases heq
      exact ⟨_, .short (shortEscape?_eq_some_iff.1 he), rfl⟩
    · cases h
  · rintro ⟨w, hw, rfl⟩
    cases hw with
    | short known =>
      have hletter := shortEscape?_eq_some_iff.2 known
      rw [List.singleton_append, escape.eq_def]
      -- no short escape has the letter of a code point
      split
      · rename_i heq
        cases heq
        cases hletter
      · rename_i heq
        cases heq
        cases hletter
      · rename_i heq
        cases heq
        rw [hletter]
        rfl
      · rename_i heq
        cases heq
    | @four ds length hex value =>
      have hchar := charOfHex?_eq_some_iff.2 ⟨hex, value⟩
      match ds, length with
      | [_, _, _, _], _ => simp [escape, hchar]
    | @eight ds length hex value =>
      have hchar := charOfHex?_eq_some_iff.2 ⟨hex, value⟩
      match ds, length with
      | [_, _, _, _, _, _, _, _], _ => simp [escape, hchar]

/-- Every character has an escape. -/
theorem exists_escapes (c : Char) : ∃ w, Escapes c w := by
  have hbound : c.toNat < 16 ^ 8 := by
    have hvalid : c.toNat.isValidChar := c.valid
    simp only [Nat.isValidChar] at hvalid
    omega
  obtain ⟨ds, hlength, hhex, hvalue⟩ := exists_hexDigits hbound
  exact ⟨_, .eight hlength hhex hvalue⟩

/-! ## Strings -/

/-- The ways to write a text between double quotes: each character as it stands, unless it is a
quote, a backslash or a control character, or by an escape. -/
inductive Spells : Text → Text → Prop
  | nil : Spells [] []
  | plain {c : Char} {s w : Text} (char : isPlain c = true) (quote : c ≠ '"')
      (backslash : c ≠ '\\') (rest : Spells s w) : Spells (c :: s) (c :: w)
  | escape {c : Char} {s e w : Text} (char : Escapes c e) (rest : Spells s w) :
      Spells (c :: s) ('\\' :: (e ++ w))

/-- A text can always be written, whatever characters it has. -/
theorem exists_spells (s : Text) : ∃ w, Spells s w := by
  induction s with
  | nil => exact ⟨[], .nil⟩
  | cons c s ih =>
    obtain ⟨w, hw⟩ := ih
    obtain ⟨e, he⟩ := exists_escapes c
    exact ⟨_, .escape he hw⟩

/-! ## Reading strings -/

theorem basicBody_quote (rest : Text) : basicBody ('"' :: rest) = some ([], rest) := by
  rw [basicBody]

theorem basicBody_backslash (rest : Text) :
    basicBody ('\\' :: rest) =
      (escape rest).bind fun (c, rest) => consChar c (basicBody rest) := by
  rw [basicBody]
  split <;> simp_all

theorem basicBody_of_ne (hquote : c ≠ '"') (hbackslash : c ≠ '\\') (rest : Text) :
    basicBody (c :: rest) = if isPlain c then consChar c (basicBody rest) else none := by
  rw [basicBody]
  · simpa using hquote
  · simpa using hbackslash

theorem consChar_eq_some_iff {r : Option (Text × Text)} :
    consChar c r = some (s, rest) ↔ ∃ s', s = c :: s' ∧ r = some (s', rest) := by
  rw [consChar, Option.map_eq_some_iff]
  constructor
  · rintro ⟨⟨s', rest'⟩, hr, heq⟩
    cases heq
    exact ⟨s', rfl, hr⟩
  · rintro ⟨s', rfl, hr⟩
    exact ⟨(s', rest), hr, rfl⟩

theorem basicBody_of_spells (h : Spells s w) (rest : Text) :
    basicBody (w ++ '"' :: rest) = some (s, rest) := by
  induction h with
  | nil => exact basicBody_quote rest
  | plain char quote backslash _ ih =>
    rw [List.cons_append, basicBody_of_ne quote backslash, if_pos char, ih]
    rfl
  | @escape c s e w char _ ih =>
    have hescape : escape (e ++ (w ++ '"' :: rest)) = some (c, w ++ '"' :: rest) :=
      escape_eq_some_iff.2 ⟨e, char, rfl⟩
    rw [List.cons_append, List.append_assoc, basicBody_backslash, hescape]
    exact consChar_eq_some_iff.2 ⟨s, rfl, ih⟩

theorem exists_spells_of_basicBody (h : basicBody t = some (s, rest)) :
    ∃ w, Spells s w ∧ t = w ++ '"' :: rest := by
  induction t using basicBody.induct generalizing s with
  | case1 => simp [basicBody] at h
  | case2 rest' =>
    rw [basicBody_quote] at h
    cases h
    exact ⟨[], .nil, rfl⟩
  | case3 t c t' hescape _ ih =>
    rw [basicBody_backslash, hescape] at h
    obtain ⟨s, rfl, htail⟩ := consChar_eq_some_iff.1 h
    obtain ⟨w, hw, rfl⟩ := ih htail
    obtain ⟨e, he, rfl⟩ := escape_eq_some_iff.1 hescape
    exact ⟨_, .escape he hw, by simp⟩
  | case4 t hescape =>
    rw [basicBody_backslash, hescape] at h
    cases h
  | case5 c t hquote hbackslash hplain ih =>
    rw [basicBody_of_ne (by simpa using hquote) (by simpa using hbackslash), if_pos hplain] at h
    obtain ⟨s, rfl, htail⟩ := consChar_eq_some_iff.1 h
    obtain ⟨w, hw, rfl⟩ := ih htail
    exact ⟨_, .plain hplain (by simpa using hquote) (by simpa using hbackslash) hw, rfl⟩
  | case6 c t hquote hbackslash hplain =>
    rw [basicBody_of_ne (by simpa using hquote) (by simpa using hbackslash), if_neg hplain] at h
    cases h

/-- A text is read from what it is written as up to the closing quote. -/
theorem basicBody_eq_some_iff :
    basicBody t = some (s, rest) ↔ ∃ w, Spells s w ∧ t = w ++ '"' :: rest := by
  constructor
  · exact exists_spells_of_basicBody
  · rintro ⟨w, hw, rfl⟩
    exact basicBody_of_spells hw rest

theorem literalBody_append (h : ∀ c ∈ s, isPlain c = true ∧ c ≠ '\'') (rest : Text) :
    literalBody (s ++ '\'' :: rest) = some (s, rest) := by
  induction s with
  | nil => rw [List.nil_append, literalBody]
  | cons c s ih =>
    obtain ⟨⟨hplain, hquote⟩, hs⟩ := List.forall_mem_cons.1 h
    rw [List.cons_append, literalBody]
    · rw [if_pos hplain, ih hs]
      rfl
    · simpa using hquote

/-- Two quotes that no third one follows are an empty string and do not open one over several
lines. -/
theorem string_of_spells (h : Spells s w) (hrest : rest.head? ≠ some '"') :
    string ('"' :: (w ++ '"' :: rest)) = some (s, rest) := by
  have hshort : string ('"' :: (w ++ '"' :: rest)) = shortString ('"' :: (w ++ '"' :: rest)) := by
    unfold string
    split
    · rename_i heq
      obtain ⟨-, hopen⟩ := List.cons.inj heq
      cases h with
      | nil =>
        obtain ⟨-, hopen⟩ := List.cons.inj hopen
        rw [hopen] at hrest
        exact absurd rfl hrest
      | plain char quote _ _ => exact absurd (List.cons.inj hopen).1 quote
      | escape => exact absurd (List.cons.inj hopen).1 (by decide)
    · rename_i heq
      cases heq
    · rfl
  rw [hshort]
  exact basicBody_of_spells h rest

end HartTimeline.Toml
