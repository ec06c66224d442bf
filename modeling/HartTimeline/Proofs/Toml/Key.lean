import HartTimeline.Toml.Document
import HartTimeline.Proofs.Toml.Quoted

/-!
# How keys are written in TOML

A name stands as it is, if it consists of letters, digits, dashes and underscores, or between quotes
of either kind. A key is one name or several with dots between them, and there may be blanks around
the dots.

Main statement: `key_of_spellsNames`.
-/

namespace HartTimeline.Toml

variable {c d : Char} {name w t rest : Text} {ns : List Text} {n : Nat}

/-! ## Runs of characters -/

section Runs

variable {p : Char → Bool}

theorem dropWhile_of_head? (h : ∀ c ∈ t.head?, p c = false) : t.dropWhile p = t := by
  cases t with
  | nil => rfl
  | cons c t => simp [h c rfl]

theorem takeWhile_of_head? (h : ∀ c ∈ t.head?, p c = false) : t.takeWhile p = [] := by
  cases t with
  | nil => rfl
  | cons c t => simp [h c rfl]

end Runs

/-! ## Blanks -/

/-- Blanks within a line, or none. -/
def IsSpaces (t : Text) : Prop :=
  ∀ c ∈ t, isSpace c = true

theorem isSpaces_nil : IsSpaces [] := nofun

theorem isSpaces_space : IsSpaces [' '] := List.forall_mem_singleton.2 rfl

theorem eq_of_isSpace (h : isSpace c = true) : c = ' ' ∨ c = '\t' := by
  simpa [isSpace] using h

/-- What no blank is like is no blank. -/
theorem isSpace_eq_false_of {p : Char → Bool} (hc : p c = true) (hblank : p ' ' = false)
    (htab : p '\t' = false) : isSpace c = false := by
  cases hspace : isSpace c with
  | false => rfl
  | true =>
    rcases eq_of_isSpace hspace with rfl | rfl
    · rw [hblank] at hc
      cases hc
    · rw [htab] at hc
      cases hc

theorem skipSpaces_append (h : IsSpaces t) (rest : Text) :
    skipSpaces (t ++ rest) = skipSpaces rest :=
  List.dropWhile_append_of_pos h

theorem skipSpaces_of_head? (h : ∀ c ∈ t.head?, isSpace c = false) : skipSpaces t = t :=
  dropWhile_of_head? h

/-! ## Names -/

/-- The ways to write a name in a key. -/
inductive SpellsName : Text → Text → Prop
  /-- As it stands. -/
  | bare {name : Text} (nonempty : name ≠ []) (chars : ∀ c ∈ name, isBareKeyChar c = true) :
      SpellsName name name
  /-- As a basic string. -/
  | basic {name w : Text} (body : Spells name w) : SpellsName name ('"' :: (w ++ ['"']))
  /-- As a literal string. -/
  | literal {name : Text} (chars : ∀ c ∈ name, isPlain c = true ∧ c ≠ '\'') :
      SpellsName name ('\'' :: (name ++ ['\'']))

/-- A character that a name can begin with. -/
def beginsName (c : Char) : Bool :=
  isBareKeyChar c || c = '"' || c = '\''

theorem SpellsName.exists_cons (h : SpellsName name w) :
    ∃ c w', w = c :: w' ∧ beginsName c = true := by
  cases h with
  | bare nonempty chars =>
    obtain ⟨c, w, rfl⟩ := List.exists_cons_of_ne_nil nonempty
    exact ⟨c, w, rfl, by simp [beginsName, chars c List.mem_cons_self]⟩
  | basic => exact ⟨_, _, rfl, rfl⟩
  | literal => exact ⟨_, _, rfl, rfl⟩

theorem simpleKey_of_spellsName (h : SpellsName name w)
    (hrest : ∀ c ∈ rest.head?, isBareKeyChar c = false) :
    simpleKey (w ++ rest) = some (name, rest) := by
  cases h with
  | basic body =>
    rw [List.cons_append, List.append_assoc, simpleKey]
    exact basicBody_of_spells body rest
  | literal chars =>
    rw [List.cons_append, List.append_assoc, simpleKey]
    exact literalBody_append chars rest
  | bare nonempty chars =>
    obtain ⟨c, t, rfl⟩ := List.exists_cons_of_ne_nil nonempty
    have hc : isBareKeyChar c = true := chars c List.mem_cons_self
    rw [simpleKey.eq_def]
    split
    · rename_i heq
      rw [(List.cons.inj heq).1] at hc
      cases hc
    · rename_i heq
      rw [(List.cons.inj heq).1] at hc
      cases hc
    · rw [List.takeWhile_append_of_pos chars, List.dropWhile_append_of_pos chars,
        takeWhile_of_head? hrest, dropWhile_of_head? hrest, List.append_nil]
      rfl

/-! ## Keys -/

/-- The ways to write the names of a key, up to the blanks after the last of them. -/
inductive SpellsNames : List Text → Text → Prop
  | last {name w after : Text} (first : SpellsName name w) (gap : IsSpaces after) :
      SpellsNames [name] (w ++ after)
  | dotted {name w before after t : Text} {names : List Text} (first : SpellsName name w)
      (front : IsSpaces before) (back : IsSpaces after) (others : SpellsNames names t) :
      SpellsNames (name :: names) (w ++ (before ++ '.' :: (after ++ t)))

theorem SpellsNames.exists_cons (h : SpellsNames ns w) :
    ∃ c w', w = c :: w' ∧ beginsName c = true := by
  cases h with
  | last first =>
    obtain ⟨c, w, rfl, hc⟩ := first.exists_cons
    exact ⟨c, _, rfl, hc⟩
  | dotted first =>
    obtain ⟨c, w, rfl, hc⟩ := first.exists_cons
    exact ⟨c, _, rfl, hc⟩

/-- The characters that can stand behind a key. -/
def EndsKey (d : Char) : Prop :=
  d = '=' ∨ d = ']'

theorem EndsKey.isBareKeyChar_eq_false (hd : EndsKey d) : isBareKeyChar d = false := by
  rcases hd with rfl | rfl <;> rfl

theorem EndsKey.isSpace_eq_false (hd : EndsKey d) : isSpace d = false := by
  rcases hd with rfl | rfl <;> rfl

/-- A name ends where blanks, a dot or the end of the key stand. -/
theorem isBareKeyChar_head?_append (ht : IsSpaces t) (hd : isBareKeyChar d = false)
    (rest : Text) :
    ∀ c ∈ (t ++ d :: rest).head?, isBareKeyChar c = false := by
  intro c hc
  cases t with
  | nil =>
    cases hc
    exact hd
  | cons b t =>
    have hspace : isSpace b = true := ht b List.mem_cons_self
    cases hc
    rcases eq_of_isSpace hspace with rfl | rfl <;> rfl

theorem SpellsName.skipSpaces_append (h : SpellsName name w) (rest : Text) :
    skipSpaces (w ++ rest) = w ++ rest := by
  obtain ⟨c, w, rfl, hc⟩ := h.exists_cons
  apply skipSpaces_of_head?
  intro d hd
  cases hd
  exact isSpace_eq_false_of hc rfl rfl

theorem keyNames_spaces_append (ht : IsSpaces t) (n : Nat) (rest : Text) :
    keyNames n (t ++ rest) = keyNames n rest := by
  cases n with
  | zero => rfl
  | succ n => rw [keyNames, keyNames, skipSpaces_append ht]

/-- A key is read to its end. Only the number of its names can be too great. -/
theorem keyNames_of_spellsNames (h : SpellsNames ns w) (hd : EndsKey d) (n : Nat) (rest : Text) :
    keyNames n (w ++ d :: rest) =
      if ns.length ≤ n then some (ns, d :: rest) else none := by
  -- a name takes one of the `n` steps, and the names behind its dot the others
  induction h generalizing n with
  | last first gap =>
    cases n with
    | zero => rfl
    | succ n =>
      have hname := simpleKey_of_spellsName first
        (isBareKeyChar_head?_append gap hd.isBareKeyChar_eq_false rest)
      have hend : skipSpaces (d :: rest) = d :: rest :=
        skipSpaces_of_head? fun c hc => by cases hc; exact hd.isSpace_eq_false
      rw [keyNames, List.append_assoc, first.skipSpaces_append, hname]
      simp only [skipSpaces_append gap, hend]
      rcases hd with rfl | rfl <;> simp
  | @dotted name w before after t names first front back others ih =>
    cases n with
    | zero => rfl
    | succ n =>
      -- blanks around the dot belong to neither name
      have hdot : isBareKeyChar '.' = false := by decide
      have hname := simpleKey_of_spellsName first
        (isBareKeyChar_head?_append front hdot (after ++ (t ++ d :: rest)))
      have hend : skipSpaces ('.' :: (after ++ (t ++ d :: rest))) =
          '.' :: (after ++ (t ++ d :: rest)) :=
        skipSpaces_of_head? fun c hc => by cases hc; rfl
      rw [keyNames]
      simp only [List.append_assoc, List.cons_append, first.skipSpaces_append, hname,
        skipSpaces_append front, hend, keyNames_spaces_append back, ih]
      by_cases hn : names.length ≤ n <;> simp [hn]

/-! ## Keys with their place -/

/-- The names of a key, the last one included. -/
def Key.names (k : Key) : List Text :=
  k.path ++ [k.name]

theorem key_spaces_append (ht : IsSpaces t) (rest : Text) : key (t ++ rest) = key rest := by
  rw [key, key, keyNames_spaces_append ht]

/-- A key is read as the names that it is written from, unless there are too many of them. -/
theorem key_of_spellsNames {k : Key} (h : SpellsNames k.names w) (hd : EndsKey d) (rest : Text) :
    key (w ++ d :: rest) =
      if k.path.length < depthLimit then some (k, d :: rest) else none := by
  rw [key, keyNames_of_spellsNames h hd]
  simp only [Key.names, List.length_append, List.length_singleton, Nat.add_one_le_iff]
  by_cases hk : k.path.length < depthLimit <;> simp [hk]

/-- Every list of names that is written is the list of a key. -/
theorem SpellsNames.exists_key (h : SpellsNames ns w) : ∃ k : Key, k.names = ns := by
  rcases List.eq_nil_or_concat ns with rfl | ⟨path, name, rfl⟩
  · cases h
  · exact ⟨⟨path, name⟩, (List.concat_eq_append ..).symm⟩

end HartTimeline.Toml
