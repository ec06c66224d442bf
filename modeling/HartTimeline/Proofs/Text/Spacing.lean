import HartTimeline.Proofs.Text.Paragraphs
import Mathlib.Data.List.TakeWhile

/-!
# Words and the white space around them

White space says where words begin and end and nothing else: how much of it stands between two
words is lost when a text is read. So the words of a text are told without reading it, as those that
it can be written from, and they are counted by the places where they begin.

Main statements: `words_eq_iff`, a text has certain words exactly if it is spread from them, and
`length_words`, it has as many as it has runs without white space.
-/

namespace HartTimeline.Text

/-- A run of white space, which may be empty. -/
def IsGap (g : Text) : Prop :=
  ∀ c ∈ g, isBlank c = true

/-- A text is spread from words if it consists of them, in order, each after a gap, and of one more
gap at the end. Between two words there is white space; before the first word there need not be
any. -/
def IsSpread (ws : List Text) (t : Text) : Prop :=
  (∀ w ∈ ws, IsWord w) ∧
    ∃ (gaps : List Text) (back : Text), gaps.length = ws.length ∧
      (∀ g ∈ gaps, IsGap g) ∧ [] ∉ gaps.tail ∧ IsGap back ∧
      t = (gaps.zipWith (· ++ ·) ws).flatten ++ back

/-- The number of runs without white space, each as long as it can be. A run begins with a character
that is not white space and has white space before it, or nothing. -/
def runCount (t : Text) : Nat :=
  ((' ' :: t).zip t).countP fun (before, c) => isBlank before && !isBlank c

variable {g w t : Text} {ws gaps : List Text}

/-! ## Taking the first word off -/

theorem words_gap_append (hg : IsGap g) (t : Text) : words (g ++ t) = words t := by
  induction g with
  | nil => rfl
  | cons b g ih =>
    have hb : isBlank b = true := hg b List.mem_cons_self
    rw [List.cons_append, words_blank_cons _ hb]
    apply ih
    intro c hc
    exact hg c (List.mem_cons_of_mem b hc)

/-- A word ends where the text ends or white space begins. -/
theorem words_word_append (hw : IsWord w) {rest : Text}
    (hrest : ∀ c ∈ rest.head?, isBlank c = true) : words (w ++ rest) = w :: words rest := by
  have hone : words w = [w] := words_of_forall_not_blank hw.1 hw.2
  cases rest with
  | nil =>
    rw [List.append_nil, hone]
    rfl
  | cons b rest =>
    have hb : isBlank b = true := hrest b rfl
    rw [words_append_blank w rest hb, words_blank_cons rest hb, hone]
    rfl

theorem IsWord.exists_cons (hw : IsWord w) : ∃ c w', w = c :: w' ∧ isBlank c = false := by
  obtain ⟨c, w', rfl⟩ := List.exists_cons_of_ne_nil hw.1
  exact ⟨c, w', rfl, hw.2 c List.mem_cons_self⟩

/-- A text that begins with no white space begins with a word. -/
theorem exists_word_append {c : Char} (hc : isBlank c = false) (t : Text) :
    ∃ w rest, c :: t = w ++ rest ∧ IsWord w ∧ ∀ d ∈ rest.head?, isBlank d = true := by
  refine ⟨(c :: t).takeWhile (!isBlank ·), (c :: t).dropWhile (!isBlank ·),
    List.takeWhile_append_dropWhile.symm, ⟨?_, ?_⟩, ?_⟩
  · rw [List.takeWhile_cons_of_pos (by rw [hc]; rfl)]
    exact List.cons_ne_nil _ _
  · intro d hd
    simpa using List.mem_takeWhile_imp hd
  · intro d hd
    have hstop := List.head?_dropWhile_not (!isBlank ·) (c :: t)
    rw [Option.mem_def.1 hd] at hstop
    simpa using hstop

/-- A text that has words begins with a gap and the first of them. -/
theorem exists_of_words_eq_cons (h : words t = w :: ws) :
    ∃ front rest, t = front ++ (w ++ rest) ∧ IsGap front ∧ IsWord w ∧
      (∀ c ∈ rest.head?, isBlank c = true) ∧ words rest = ws := by
  have hsplit : t.takeWhile isBlank ++ t.dropWhile isBlank = t := List.takeWhile_append_dropWhile
  have hfront : IsGap (t.takeWhile isBlank) := fun c hc => List.mem_takeWhile_imp hc
  have hwords : words (t.dropWhile isBlank) = w :: ws := by
    rw [← words_gap_append hfront, hsplit, h]
  cases hrest : t.dropWhile isBlank with
  | nil =>
    rw [hrest] at hwords
    cases hwords
  | cons c u =>
    have hc : isBlank c = false := by
      have hstop := List.head?_dropWhile_not isBlank t
      rw [hrest] at hstop
      simpa using hstop
    obtain ⟨w', rest, hu, hw', hhead⟩ := exists_word_append hc u
    rw [hrest, hu, words_word_append hw' hhead] at hwords
    obtain ⟨rfl, hws⟩ := List.cons.inj hwords
    refine ⟨t.takeWhile isBlank, rest, ?_, hfront, hw', hhead, hws⟩
    rw [← hu, ← hrest, hsplit]

/-! ## Texts spread from words -/

/-- What comes after a word begins with white space. -/
theorem head?_spread (hlength : gaps.length = ws.length) (hgaps : ∀ g ∈ gaps, IsGap g)
    (hne : [] ∉ gaps) {back : Text} (hback : IsGap back) :
    ∀ c ∈ ((gaps.zipWith (· ++ ·) ws).flatten ++ back).head?, isBlank c = true := by
  cases gaps with
  | nil =>
    intro c hc
    exact hback c (List.mem_of_mem_head? hc)
  | cons g gaps =>
    cases ws with
    | nil => cases hlength
    | cons w ws =>
      intro c hc
      cases g with
      | nil => exact absurd List.mem_cons_self hne
      | cons b g =>
        obtain rfl : b = c := by simpa using hc
        exact hgaps (b :: g) List.mem_cons_self b List.mem_cons_self

theorem words_of_isSpread (h : IsSpread ws t) : words t = ws := by
  obtain ⟨hws, gaps, back, hlength, hgaps, hne, hback, rfl⟩ := h
  induction ws generalizing gaps with
  | nil =>
    obtain rfl : gaps = [] := List.length_eq_zero_iff.1 hlength
    exact words_eq_nil_iff.2 hback
  | cons w ws ih =>
    cases gaps with
    | nil => cases hlength
    | cons g gaps =>
      obtain ⟨hg, hgaps⟩ := List.forall_mem_cons.1 hgaps
      obtain ⟨hw, hws⟩ := List.forall_mem_cons.1 hws
      have hlength : gaps.length = ws.length := Nat.succ.inj hlength
      rw [List.zipWith_cons_cons, List.flatten_cons, List.append_assoc, List.append_assoc,
        words_gap_append hg, words_word_append hw (head?_spread hlength hgaps hne hback)]
      congr 1
      apply ih hws gaps hlength hgaps
      exact fun hmem => hne (List.mem_of_mem_tail hmem)

theorem isSpread_of_words (h : words t = ws) : IsSpread ws t := by
  induction ws generalizing t with
  | nil => exact ⟨nofun, [], t, rfl, nofun, nofun, words_eq_nil_iff.1 h, rfl⟩
  | cons w ws ih =>
    obtain ⟨front, rest, rfl, hfront, hw, hhead, hrest⟩ := exists_of_words_eq_cons h
    obtain ⟨hws, gaps, back, hlength, hgaps, hne, hback, rfl⟩ := ih hrest
    -- the rest begins with white space, so that a word of it has a gap before it
    have hnil : [] ∉ gaps := by
      cases gaps with
      | nil => exact List.not_mem_nil
      | cons g gaps =>
        cases ws with
        | nil => cases hlength
        | cons w' ws =>
          obtain ⟨c, w'', rfl, hc⟩ := (hws w' List.mem_cons_self).exists_cons
          intro hmem
          rcases List.mem_cons.1 hmem with rfl | hmem
          · have hblank := hhead c rfl
            rw [hc] at hblank
            cases hblank
          · exact hne hmem
    refine ⟨List.forall_mem_cons.2 ⟨hw, hws⟩, front :: gaps, back, congrArg (· + 1) hlength,
      List.forall_mem_cons.2 ⟨hfront, hgaps⟩, hnil, hback, ?_⟩
    simp

/-- The words of a text are the words that it is spread from. -/
theorem words_eq_iff : words t = ws ↔ IsSpread ws t :=
  ⟨isSpread_of_words, words_of_isSpread⟩

/-! ## Counting words by their beginnings -/

/-- One more character before a word makes it longer. -/
theorem length_words_cons {b c : Char} (hb : isBlank b = false) (hc : isBlank c = false)
    (t : Text) : (words (b :: c :: t)).length = (words (c :: t)).length := by
  obtain ⟨w, rest, ht, hw, hhead⟩ := exists_word_append hc t
  have hlonger : IsWord (b :: w) :=
    ⟨List.cons_ne_nil b w, List.forall_mem_cons.2 ⟨hb, hw.2⟩⟩
  rw [ht, ← List.cons_append, words_word_append hlonger hhead, words_word_append hw hhead]
  rfl

theorem length_words_eq_countP (b : Char) (t : Text) :
    (words (b :: t)).length =
      (((b :: t).zip t).countP fun (before, c) => isBlank before && !isBlank c) +
        if isBlank b then 0 else 1 := by
  induction t generalizing b with
  | nil =>
    cases hb : isBlank b with
    | true =>
      rw [words_blank_cons [] hb]
      rfl
    | false =>
      rw [words_of_forall_not_blank (List.cons_ne_nil b []) (by simpa using hb)]
      rfl
  | cons c t ih =>
    rw [List.zip_cons_cons, List.countP_cons]
    cases hb : isBlank b with
    | true =>
      rw [words_blank_cons (c :: t) hb, ih]
      cases hc : isBlank c <;> simp [hb, hc]
    | false =>
      cases hc : isBlank c with
      | true =>
        have hone : words [b] = [[b]] :=
          words_of_forall_not_blank (List.cons_ne_nil b []) (by simpa using hb)
        have hrest := ih c
        rw [words_blank_cons t hc] at hrest
        have happend := words_append_blank [b] t hc
        rw [List.singleton_append] at happend
        rw [happend, hone, List.length_append, hrest, hc]
        simp [hb, Nat.add_comm]
      | false =>
        rw [length_words_cons hb hc, ih, hc]
        simp [hb]

/-- A text has as many words as it has runs without white space. -/
theorem length_words (t : Text) : (words t).length = runCount t := by
  have hblank : isBlank ' ' = true := by decide
  rw [← words_blank_cons t hblank, length_words_eq_countP, if_pos hblank]
  rfl

end HartTimeline.Text
