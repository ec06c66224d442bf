import HartTimeline.Text.Blank
import HartTimeline.Text.Lines
import Mathlib.Data.List.Infix

/-!
# Words, lines and paragraphs

The words of a text hold no blank and its lines no line feed. A stream is a text of paragraphs, each
ended by two line feeds; as long as no paragraph holds two line feeds in a row or ends in one, the
paragraphs can be told apart again.

Main statements: `paragraphs_ofParagraphs`, splitting a stream gives back the paragraphs it is made
of, and `not_three_feeds_ofParagraphs`, no other two line feeds could be taken for an end.
-/

namespace HartTimeline.Text

/-! ## Pieces of a split -/

/-- No piece of a split holds a character that was split on. -/
theorem not_of_mem_splitOnP {α : Type} {p : α → Bool} {xs piece : List α}
    (h : piece ∈ xs.splitOnP p) : ∀ c ∈ piece, p c = false := by
  induction xs generalizing piece with
  | nil =>
    rw [List.splitOnP_nil, List.mem_singleton] at h
    simp [h]
  | cons x xs ih =>
    rw [List.splitOnP_cons_eq_if_modifyHead] at h
    cases hx : p x with
    | true =>
      rw [if_pos hx, List.mem_cons] at h
      rcases h with rfl | h
      · simp
      · exact ih h
    | false =>
      rw [if_neg (by simp [hx])] at h
      cases hs : xs.splitOnP p with
      | nil => exact absurd hs (List.splitOnP_ne_nil p xs)
      | cons first rest =>
        rw [hs, List.modifyHead_cons, List.mem_cons] at h
        rcases h with rfl | h
        · intro c hc
          rcases List.mem_cons.1 hc with rfl | hc
          · exact hx
          · exact ih (by simp [hs]) c hc
        · exact ih (by simp [hs, h])

theorem not_mem_of_mem_splitOn {xs piece : Text} {c : Char} (h : piece ∈ xs.splitOn c) :
    c ∉ piece := by
  rw [List.splitOn_eq_splitOnP] at h
  intro hc
  simpa using not_of_mem_splitOnP h c hc

/-- Pieces put together hold a character if one of them does, or if it stands between them. -/
theorem not_mem_intercalate {pieces : List Text} {c sep : Char} (hc : c ≠ sep)
    (h : ∀ p ∈ pieces, c ∉ p) : c ∉ [sep].intercalate pieces := by
  induction pieces with
  | nil => simp
  | cons p ps ih =>
    have hp := h p (by simp)
    have hps := ih fun q hq => h q (by simp [hq])
    cases ps with
    | nil => simpa using hp
    | cons q ps =>
      rw [List.intercalate_cons_cons, List.mem_append, List.mem_append, List.mem_singleton]
      rintro ((hmem | hmem) | hmem)
      · exact hp hmem
      · exact hc hmem
      · exact hps hmem

/-- A word: not empty and without a blank. -/
def IsWord (w : Text) : Prop :=
  w ≠ [] ∧ ∀ c ∈ w, isBlank c = false

instance : DecidablePred IsWord := fun w =>
  decidable_of_iff (w ≠ [] ∧ w.all (fun c => !isBlank c) = true) (by simp [IsWord])

theorem isWord_of_mem_words {t w : Text} (h : w ∈ words t) : IsWord w := by
  obtain ⟨hmem, hne⟩ := List.mem_filter.1 h
  exact ⟨by simpa using hne, not_of_mem_splitOnP hmem⟩

/-- A text without words is blank throughout. -/
theorem words_eq_nil_iff {t : Text} : words t = [] ↔ ∀ c ∈ t, isBlank c = true := by
  induction t with
  | nil => simp
  | cons c t ih =>
    rw [List.forall_mem_cons]
    cases hc : isBlank c with
    | true =>
      rw [words_blank_cons t hc, ih]
      simp
    | false =>
      -- the first piece begins with the character
      obtain ⟨piece, pieces, hsplit⟩ := List.exists_cons_of_ne_nil (List.splitOnP_ne_nil isBlank t)
      simp [words, List.splitOnP_cons_eq_if_modifyHead, hc, hsplit]

theorem IsWord.not_mem {w : Text} {c : Char} (hw : IsWord w) (hc : isBlank c = true) : c ∉ w := by
  intro hmem
  rw [hw.2 c hmem] at hc
  exact absurd hc (by decide)

theorem mem_of_mem_dropReturn {l : Text} {c : Char} (h : c ∈ dropReturn l) : c ∈ l := by
  rw [dropReturn] at h
  split at h
  · exact List.mem_of_mem_dropLast h
  · exact h

/-- The lines of a text hold no line feed. -/
theorem feed_not_mem_of_mem_lines {t l : Text} (h : l ∈ lines t) : '\n' ∉ l := by
  have hpieces : ∀ pieces : List Text, (∀ p ∈ pieces, '\n' ∉ p) →
      ∀ l ∈ linesOfPieces pieces, '\n' ∉ l := by
    intro pieces
    induction pieces using linesOfPieces.induct with
    | case1 => simp [linesOfPieces]
    | case2 last hempty => simp [linesOfPieces, hempty]
    | case3 last hne =>
      intro hp l hl
      simp only [linesOfPieces, hne] at hl
      rw [List.mem_singleton.1 hl]
      exact hp last (by simp)
    | case4 piece rest hne ih =>
      intro hp l hl
      rw [linesOfPieces, List.mem_cons] at hl
      · rcases hl with rfl | hl
        · exact fun hc => hp piece (by simp) (mem_of_mem_dropReturn hc)
        · exact ih (fun p hmem => hp p (by simp [hmem])) l hl
      · exact hne
  exact hpieces _ (fun p hp => not_mem_of_mem_splitOn hp) l h

/-! ## Paragraphs -/

/-- The pieces of a text between pairs of line feeds, the first pair taken first. -/
def paragraphs : Text → List Text
  | [] => [[]]
  | [c] => [[c]]
  | c :: d :: rest =>
    if c = '\n' ∧ d = '\n' then [] :: paragraphs rest
    else (paragraphs (d :: rest)).modifyHead (c :: ·)

theorem paragraphs_ne_nil (t : Text) : paragraphs t ≠ [] := by
  induction t using paragraphs.induct with
  | case1 => simp [paragraphs]
  | case2 c => simp [paragraphs]
  | case3 c d rest hfeeds => simp [paragraphs, hfeeds]
  | case4 c d rest hother ih => simpa [paragraphs, hother] using ih

/-- The pieces, with a pair of line feeds between them, are the text. -/
theorem intercalate_paragraphs (t : Text) : ['\n', '\n'].intercalate (paragraphs t) = t := by
  induction t using paragraphs.induct with
  | case1 => simp [paragraphs]
  | case2 c => simp [paragraphs]
  | case3 c d rest hfeeds ih =>
    obtain ⟨rfl, rfl⟩ := hfeeds
    obtain ⟨p, ps, hps⟩ := List.exists_cons_of_ne_nil (paragraphs_ne_nil rest)
    rw [paragraphs, if_pos ⟨rfl, rfl⟩, hps, List.intercalate_cons_cons, ← hps, ih]
    rfl
  | case4 c d rest hother ih =>
    obtain ⟨p, ps, hps⟩ := List.exists_cons_of_ne_nil (paragraphs_ne_nil (d :: rest))
    -- a character in front of the first piece is in front of the whole
    have hcons : ['\n', '\n'].intercalate ((c :: p) :: ps) =
        c :: ['\n', '\n'].intercalate (p :: ps) := by
      cases ps <;> simp
    rw [paragraphs, if_neg hother, hps, List.modifyHead_cons, hcons, ← hps, ih]

/-- A text that can be told from what follows two line feeds after it: no two line feeds stand in it
in a row, and none at its end. -/
def IsParagraph (p : Text) : Prop :=
  ¬['\n', '\n'] <:+: p ++ ['\n']

theorem isParagraph_of_not_mem {l : Text} (hl : '\n' ∉ l) : IsParagraph l := by
  induction l with
  | nil => simp [IsParagraph, List.infix_cons_iff]
  | cons c l ih =>
    simp only [List.mem_cons, not_or] at hl
    rw [IsParagraph, List.cons_append, List.infix_cons_iff, List.cons_prefix_cons]
    rintro (⟨hc, -⟩ | h)
    · exact hl.1 hc
    · exact ih hl.2 h

/-- A line, a line feed and a paragraph that does not begin with one are a paragraph. -/
theorem isParagraph_append {l p : Text} (hl : '\n' ∉ l) (hp : IsParagraph p) (hne : p ≠ [])
    (hhead : p.head? ≠ some '\n') : IsParagraph (l ++ '\n' :: p) := by
  induction l with
  | nil =>
    cases p with
    | nil => exact absurd rfl hne
    | cons c p =>
      have hc : '\n' ≠ c := fun e => hhead (by rw [← e]; rfl)
      rw [IsParagraph, List.nil_append, List.cons_append, List.infix_cons_iff,
        List.cons_prefix_cons, List.cons_append, List.cons_prefix_cons]
      rintro (⟨-, hc', -⟩ | h)
      · exact hc hc'
      · exact hp h
  | cons c l ih =>
    simp only [List.mem_cons, not_or] at hl
    rw [IsParagraph, List.cons_append, List.cons_append, List.infix_cons_iff,
      List.cons_prefix_cons]
    rintro (⟨hc, -⟩ | h)
    · exact hl.1 hc
    · exact ih hl.2 h

/-- Lines that are not empty make a paragraph. -/
theorem isParagraph_intercalate {ls : List Text} (h : ∀ l ∈ ls, l ≠ [] ∧ '\n' ∉ l) :
    IsParagraph (['\n'].intercalate ls) := by
  induction ls with
  | nil => exact isParagraph_of_not_mem (by simp)
  | cons l ls ih =>
    have hl := h l (by simp)
    cases ls with
    | nil => simpa using isParagraph_of_not_mem hl.2
    | cons l' ls =>
      have hl' := h l' (by simp)
      obtain ⟨c, l', rfl⟩ := List.exists_cons_of_ne_nil hl'.1
      have hc : '\n' ≠ c := fun e => hl'.2 (by rw [← e]; exact List.mem_cons_self)
      -- what follows the line feed begins with a character of the second line
      have hhead : (['\n'].intercalate ((c :: l') :: ls)).head? = some c := by
        cases ls <;> simp
      rw [List.intercalate_cons_cons, List.append_assoc, List.singleton_append]
      refine isParagraph_append hl.2 (ih fun l hmem => h l (by simp [hmem])) ?_ ?_
      · intro hnil
        rw [hnil] at hhead
        cases hhead
      · rw [hhead]
        simpa using fun e => hc e.symm

/-- Two line feeds after a paragraph end it. -/
theorem paragraphs_append {p : Text} (t : Text) (hp : IsParagraph p) :
    paragraphs (p ++ '\n' :: '\n' :: t) = p :: paragraphs t := by
  induction p with
  | nil => simp [paragraphs]
  | cons c p ih =>
    rw [IsParagraph, List.cons_append, List.infix_cons_iff, not_or] at hp
    -- no pair of line feeds begins at the first character, which therefore stays with the rest
    have hrest := ih hp.2
    cases p with
    | nil =>
      have hc : ¬c = '\n' := by
        rintro rfl
        exact hp.1 (by simp)
      rw [List.nil_append] at hrest
      rw [List.cons_append, List.nil_append, paragraphs, if_neg (by simp [hc]), hrest,
        List.modifyHead_cons]
    | cons d p =>
      have hcd : ¬(c = '\n' ∧ d = '\n') := by
        rintro ⟨rfl, rfl⟩
        exact hp.1 (by simp)
      rw [List.cons_append] at hrest
      rw [List.cons_append, List.cons_append, paragraphs, if_neg hcd, hrest,
        List.modifyHead_cons]

/-! ## Texts of paragraphs -/

/-- Paragraphs put together, each ended by two line feeds. -/
def ofParagraphs (ps : List Text) : Text :=
  ps.flatMap fun p => p ++ ['\n', '\n']

@[simp] theorem ofParagraphs_nil : ofParagraphs [] = [] := rfl

theorem ofParagraphs_cons (p : Text) (ps : List Text) :
    ofParagraphs (p :: ps) = p ++ '\n' :: '\n' :: ofParagraphs ps := by
  simp [ofParagraphs]

/-- Splitting a text of paragraphs gives them back, and nothing after the last. -/
theorem paragraphs_ofParagraphs {ps : List Text} (h : ∀ p ∈ ps, IsParagraph p) :
    paragraphs (ofParagraphs ps) = ps ++ [[]] := by
  induction ps with
  | nil => rfl
  | cons p ps ih =>
    rw [ofParagraphs_cons, paragraphs_append _ (h p (by simp)), ih fun q hq => h q (by simp [hq]),
      List.cons_append]

/-- A text of paragraphs is empty or ends in two line feeds. -/
theorem ofParagraphs_eq_nil_or_feeds_suffix (ps : List Text) :
    ofParagraphs ps = [] ∨ ['\n', '\n'] <:+ ofParagraphs ps := by
  induction ps with
  | nil => exact Or.inl rfl
  | cons p ps ih =>
    right
    rw [ofParagraphs_cons]
    rcases ih with hnil | hsuffix
    · rw [hnil]
      exact List.suffix_append p _
    · have hrest : ofParagraphs ps <:+ p ++ '\n' :: '\n' :: ofParagraphs ps :=
        ⟨p ++ ['\n', '\n'], by simp⟩
      exact hsuffix.trans hrest

/-- After a paragraph three line feeds in a row can only come from a text that begins with one. -/
theorem not_three_feeds_append {p t : Text} (hp : IsParagraph p) (hhead : t.head? ≠ some '\n')
    (ht : ¬['\n', '\n', '\n'] <:+: t) :
    ¬['\n', '\n', '\n'] <:+: p ++ '\n' :: '\n' :: t := by
  have hstart : ∀ s : Text, ¬ ('\n' :: s <+: t) := by
    intro s hs
    obtain ⟨rest, hrest⟩ := hs
    exact hhead (by rw [← hrest]; rfl)
  induction p with
  | nil =>
    rw [List.nil_append, List.infix_cons_iff, List.infix_cons_iff]
    simp only [List.cons_prefix_cons, true_and]
    rintro (h | h | h)
    · exact hstart _ h
    · exact hstart _ h
    · exact ht h
  | cons c p ih =>
    rw [IsParagraph, List.cons_append, List.infix_cons_iff, not_or] at hp
    have hrest := ih hp.2
    rw [List.cons_append, List.infix_cons_iff]
    rintro (h | h)
    · -- the first two of the three would stand in the paragraph and its line feed
      apply hp.1
      rw [List.cons_prefix_cons] at h ⊢
      refine ⟨h.1, ?_⟩
      cases p with
      | nil => exact ⟨[], rfl⟩
      | cons d p =>
        rw [List.cons_append, List.cons_prefix_cons] at h
        rw [List.cons_append, List.cons_prefix_cons]
        exact ⟨h.2.1, List.nil_prefix⟩
    · exact hrest h

/-- No three line feeds stand in a row in a text of paragraphs that do not begin with one. -/
theorem not_three_feeds_ofParagraphs {ps : List Text}
    (h : ∀ p ∈ ps, IsParagraph p ∧ p ≠ [] ∧ p.head? ≠ some '\n') :
    ¬['\n', '\n', '\n'] <:+: ofParagraphs ps := by
  induction ps with
  | nil => simp
  | cons p ps ih =>
    have hps := fun q hq => h q (List.mem_cons_of_mem p hq)
    rw [ofParagraphs_cons]
    apply not_three_feeds_append (h p List.mem_cons_self).1 _ (ih hps)
    cases ps with
    | nil => simp
    | cons q ps =>
      obtain ⟨-, hne, hhead⟩ := hps q List.mem_cons_self
      obtain ⟨c, q, rfl⟩ := List.exists_cons_of_ne_nil hne
      simpa [ofParagraphs_cons] using hhead

end HartTimeline.Text
