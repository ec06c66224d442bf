import HartTimeline.Proofs.Toml.Key
import HartTimeline.Proofs.Toml.Number

/-!
# How lines are written in TOML

A line holds one statement or none. There may be blanks before and behind the statement and a
comment at the end. Of the values only those are written here that hold no others and are no dates
or floats, each kind in one form, but strings in every form that a basic string has.

Main statement: `exists_statements_append`, lines are read as the statements that they are written
from, whatever comes after them.
-/

namespace HartTimeline.Toml

variable {c d : Char} {t u w rest trailer front brk : Text} {v : Value} {s : Statement}
  {ss : List Statement} {n : Nat}

/-! ## Ends of lines -/

/-- What may stand before the end of a line: blanks, and then a comment or none. -/
inductive IsTrailer : Text → Prop
  | blank {t : Text} (spaces : IsSpaces t) : IsTrailer t
  | comment {t remark : Text} (spaces : IsSpaces t) (chars : ∀ c ∈ remark, isPlain c = true) :
      IsTrailer (t ++ '#' :: remark)

/-- A line break. -/
def IsBreak (t : Text) : Prop :=
  t = ['\n'] ∨ t = ['\r', '\n']

/-- A text at the end of a line: it is empty, or a line break comes next. -/
def AtBreak (t : Text) : Prop :=
  ∀ c ∈ t.head?, c = '\n' ∨ c = '\r'

theorem atBreak_nil : AtBreak [] := nofun

theorem IsBreak.atBreak_append (h : IsBreak brk) (rest : Text) : AtBreak (brk ++ rest) := by
  rcases h with rfl | rfl
  · rintro c ⟨⟩
    exact Or.inl rfl
  · rintro c ⟨⟩
    exact Or.inr rfl

theorem IsBreak.newLine?_append (h : IsBreak brk) (rest : Text) :
    newLine? (brk ++ rest) = some rest := by
  rcases h with rfl | rfl <;> rfl

theorem AtBreak.skipSpaces_eq (h : AtBreak rest) : skipSpaces rest = rest := by
  apply skipSpaces_of_head?
  intro c hc
  rcases h c hc with rfl | rfl <;> rfl

theorem AtBreak.skipComment_eq (h : AtBreak rest) : skipComment rest = rest := by
  rw [skipComment.eq_def]
  split
  · rcases h '#' rfl with heq | heq <;> cases heq
  · rfl

/-- A comment ends before a line break. -/
theorem skipComment_remark_append {remark : Text} (hchars : ∀ c ∈ remark, isPlain c = true)
    (h : AtBreak rest) : skipComment ('#' :: (remark ++ rest)) = rest := by
  rw [skipComment, List.dropWhile_append_of_pos hchars]
  apply dropWhile_of_head?
  intro c hc
  rcases h c hc with rfl | rfl <;> rfl

theorem skipComment_skipSpaces_append (h : IsTrailer t) (hrest : AtBreak rest) :
    skipComment (skipSpaces (t ++ rest)) = rest := by
  cases h with
  | blank spaces => rw [skipSpaces_append spaces, hrest.skipSpaces_eq, hrest.skipComment_eq]
  | comment spaces chars =>
    rw [List.append_assoc, skipSpaces_append spaces, List.cons_append,
      skipSpaces_of_head? fun c hc => by cases hc; rfl, skipComment_remark_append chars hrest]

theorem endsValue_append (h : IsTrailer t) (hrest : AtBreak rest) : EndsValue (t ++ rest) := by
  have hspaces {t u : Text} (ht : IsSpaces t) (hu : EndsValue u) : EndsValue (t ++ u) := by
    cases t with
    | nil => exact hu
    | cons b t =>
      have hb : isSpace b = true := ht b List.mem_cons_self
      rintro c ⟨⟩
      rcases eq_of_isSpace hb with rfl | rfl <;> decide
  cases h with
  | blank spaces =>
    apply hspaces spaces
    intro c hc
    rcases hrest c hc with rfl | rfl <;> decide
  | comment spaces chars =>
    rw [List.append_assoc]
    apply hspaces spaces
    rintro c ⟨⟩
    decide

theorem lineEnd?_of_isTrailer (h : IsTrailer t) : lineEnd? t = some [] := by
  have hskip := skipComment_skipSpaces_append h atBreak_nil
  rw [List.append_nil] at hskip
  rw [lineEnd?, hskip]

theorem lineEnd?_append (h : IsTrailer t) (hbrk : IsBreak brk) (rest : Text) :
    lineEnd? (t ++ (brk ++ rest)) = some rest := by
  rw [lineEnd?, skipComment_skipSpaces_append h (hbrk.atBreak_append rest)]
  rcases hbrk with rfl | rfl <;> rfl

/-! ## Values -/

/-- The ways to write a value without others in it, in which only strings have more than one. -/
inductive SpellsValue : Value → Text → Prop
  | string {s w : Text} (body : Spells s w) : SpellsValue (.string s) ('"' :: (w ++ ['"']))
  | integer {n : Nat} (fits : (n : Int) ≤ Text.int64Max) :
      SpellsValue (.integer n) (Text.decimal n)
  | yes : SpellsValue (.boolean true) (Text.of "true")
  | no : SpellsValue (.boolean false) (Text.of "false")

theorem scalar_of_spellsValue (h : SpellsValue v w) (hrest : EndsValue rest) :
    scalar (w ++ rest) = some (v, rest) := by
  cases h with
  | string body =>
    rw [List.cons_append, List.append_assoc, scalar]
    have hquote : rest.head? ≠ some '"' := hrest.head?_ne (by decide)
    rw [List.singleton_append, string_of_spells body hquote]
    rfl
  | @integer n fits =>
    rw [scalar.eq_def]
    split
    · rename_i heq
      cases isDigit_of_decimal_append_eq heq
    · rename_i heq
      cases isDigit_of_decimal_append_eq heq
    · rename_i heq
      cases isDigit_of_decimal_append_eq heq
    · rename_i heq
      cases isDigit_of_decimal_append_eq heq
    -- a numeral is tried as a date and as a float before it is an integer
    · simp only [dateTime?_decimal n hrest, float_decimal n hrest, integer_decimal fits hrest]
  | yes => rfl
  | no => rfl

theorem value_of_spellsValue (h : SpellsValue v w) (hrest : EndsValue rest) (depth : Nat) :
    value depth (w ++ rest) = some (v, rest) := by
  rw [← scalar_of_spellsValue h hrest]
  cases depth with
  | zero => rfl
  | succ depth =>
    cases h with
    | string => rfl
    | yes => rfl
    | no => rfl
    | @integer n fits =>
      rw [value]
      · exact fun _ heq => by cases isDigit_of_decimal_append_eq heq
      · exact fun _ heq => by cases isDigit_of_decimal_append_eq heq

/-! ## Statements -/

/-- The ways to write a statement of a document, up to the end of its value or header. -/
inductive SpellsStatement : Statement → Text → Prop
  | table {k : Key} {gap w : Text} (spaces : IsSpaces gap) (names : SpellsNames k.names w)
      (few : k.path.length < depthLimit) :
      SpellsStatement (.table k) ('[' :: (gap ++ (w ++ [']'])))
  | assign {k : Key} {w gap u : Text} {v : Value} (names : SpellsNames k.names w)
      (few : k.path.length < depthLimit) (spaces : IsSpaces gap) (value : SpellsValue v u) :
      SpellsStatement (.assign k v) (w ++ '=' :: (gap ++ u))

/-- A character that a statement can begin with. -/
def beginsStatement (c : Char) : Bool :=
  c = '[' || beginsName c

theorem SpellsStatement.exists_cons (h : SpellsStatement s w) :
    ∃ c w', w = c :: w' ∧ beginsStatement c = true := by
  cases h with
  | table => exact ⟨_, _, rfl, rfl⟩
  | assign names =>
    obtain ⟨c, w, rfl, hc⟩ := names.exists_cons
    exact ⟨c, _, rfl, by simp [beginsStatement, hc]⟩

theorem statement_header (ht : t.head? ≠ some '[') :
    statement ('[' :: t) = (tableHeader t).map fun (k, t) => (.table k, t) := by
  rw [statement]
  rintro rest rfl
  exact ht rfl

theorem statement_of_ne (hc : c ≠ '[') (t : Text) :
    statement (c :: t) =
      (assignment (value depthLimit) (c :: t)).map fun ((k, v), t) => (.assign k v, t) := by
  rw [statement]
  · rintro rest heq
    exact hc (List.cons.inj heq).1
  · rintro rest heq
    exact hc (List.cons.inj heq).1

theorem tableHeader_of_spellsNames {k : Key} (hspaces : IsSpaces t) (hnames : SpellsNames k.names w)
    (rest : Text) :
    tableHeader (t ++ (w ++ ']' :: rest)) =
      if k.path.length < depthLimit then some (k, rest) else none := by
  rw [tableHeader, key_spaces_append hspaces, key_of_spellsNames hnames (Or.inr rfl)]
  split <;> simp [expect?]

/-- In a header no further bracket follows the first, but blanks or a name. -/
theorem head?_gap_append_ne (hspaces : IsSpaces t) {ns : List Text} (hnames : SpellsNames ns w)
    (rest : Text) : (t ++ (w ++ rest)).head? ≠ some '[' := by
  cases t with
  | nil =>
    obtain ⟨c, w, rfl, hc⟩ := hnames.exists_cons
    rintro ⟨⟩
    cases hc
  | cons b t =>
    have hb : isSpace b = true := hspaces b List.mem_cons_self
    rintro ⟨⟩
    cases hb

theorem skipSpaces_append_of_spellsValue (h : SpellsValue v u) (rest : Text) :
    skipSpaces (u ++ rest) = u ++ rest := by
  cases h with
  | string => rfl
  | yes => rfl
  | no => rfl
  | integer =>
    apply skipSpaces_of_head?
    intro c hc
    obtain ⟨t, ht⟩ := List.head?_eq_some_iff.1 hc
    exact isSpace_eq_false_of (isDigit_of_decimal_append_eq ht) rfl rfl

theorem statement_of_spellsStatement (h : SpellsStatement s w) (hrest : EndsValue rest) :
    statement (w ++ rest) = some (s, rest) := by
  cases h with
  | @table k gap w spaces names few =>
    simp only [List.cons_append, List.append_assoc, List.nil_append]
    rw [statement_header (head?_gap_append_ne spaces names _),
      tableHeader_of_spellsNames spaces names, if_pos few]
    rfl
  | @assign k w gap u v names few spaces value =>
    have hkey : key (w ++ '=' :: (gap ++ (u ++ rest))) = some (k, '=' :: (gap ++ (u ++ rest))) := by
      rw [key_of_spellsNames names (Or.inl rfl), if_pos few]
    have hvalue : Toml.value depthLimit (skipSpaces (gap ++ (u ++ rest))) = some (v, rest) := by
      rw [skipSpaces_append spaces, skipSpaces_append_of_spellsValue value,
        value_of_spellsValue value hrest]
    simp only [List.cons_append, List.append_assoc]
    obtain ⟨c, w, rfl, hc⟩ := names.exists_cons
    have hbracket : c ≠ '[' := by
      rintro rfl
      cases hc
    rw [List.cons_append, statement_of_ne hbracket]
    rw [List.cons_append] at hkey
    simp [assignment, hkey, expect?, hvalue]

/-! ## Lines -/

/-- A line that begins with a statement is read as one. -/
theorem statements_of_beginsStatement (hfront : IsSpaces front) (hc : beginsStatement c = true)
    (n : Nat) (t : Text) :
    statements (n + 1) (front ++ c :: t) =
      (statement (c :: t)).bind fun (s, rest) =>
        (lineEnd? rest).bind fun rest => (statements n rest).map (s :: ·) := by
  have hspace : isSpace c = false := isSpace_eq_false_of hc rfl rfl
  have hskip : skipSpaces (c :: t) = c :: t :=
    skipSpaces_of_head? fun d hd => by cases hd; exact hspace
  have hcomment : skipComment (c :: t) = c :: t := by
    rw [skipComment.eq_def]
    split
    · rename_i heq
      cases heq
      cases hc
    · rfl
  have hbreak : newLine? (c :: t) = none := by
    rw [newLine?.eq_def]
    split
    · rename_i heq
      cases heq
      cases hc
    · rename_i heq
      cases heq
      cases hc
    · rfl
  rw [statements, skipSpaces_append hfront, hskip]
  simp only [hcomment, hbreak]
  rfl

theorem statements_of_spellsStatement (hfront : IsSpaces front) (h : SpellsStatement s w)
    (hrest : EndsValue rest) (n : Nat) :
    statements (n + 1) (front ++ (w ++ rest)) =
      (lineEnd? rest).bind fun rest => (statements n rest).map (s :: ·) := by
  have hread := statement_of_spellsStatement h hrest
  obtain ⟨c, w, rfl, hc⟩ := h.exists_cons
  rw [List.cons_append] at hread ⊢
  rw [statements_of_beginsStatement hfront hc, hread]
  rfl

/-- A line without a statement says nothing. -/
theorem statements_of_isTrailer (htrailer : IsTrailer trailer) (hbrk : IsBreak brk) (n : Nat)
    (rest : Text) : statements (n + 1) (trailer ++ (brk ++ rest)) = statements n rest := by
  have hskip := skipComment_skipSpaces_append htrailer (hbrk.atBreak_append rest)
  rw [statements]
  cases hline : skipSpaces (trailer ++ (brk ++ rest)) with
  | nil =>
    rw [hline] at hskip
    rcases hbrk with rfl | rfl <;> cases hskip
  | cons c t =>
    rw [hline] at hskip
    simp only [hskip, hbrk.newLine?_append]

/-- So does the end of a document. -/
theorem statements_of_isTrailer_end (htrailer : IsTrailer trailer) (n : Nat) :
    statements (n + 1) trailer = some [] := by
  have hskip := skipComment_skipSpaces_append htrailer atBreak_nil
  rw [List.append_nil] at hskip
  rw [statements]
  cases hline : skipSpaces trailer with
  | nil => rfl
  | cons c t =>
    rw [hline] at hskip
    simp [hskip, newLine?]

/-- Whole lines that are written from statements. -/
inductive SpellsLines : List Statement → Text → Prop
  | nil : SpellsLines [] []
  | blank {trailer brk t : Text} {ss : List Statement} (back : IsTrailer trailer)
      (feed : IsBreak brk) (others : SpellsLines ss t) : SpellsLines ss (trailer ++ (brk ++ t))
  | statement {front w trailer brk t : Text} {s : Statement} {ss : List Statement}
      (spaces : IsSpaces front) (first : SpellsStatement s w) (back : IsTrailer trailer)
      (feed : IsBreak brk) (others : SpellsLines ss t) :
      SpellsLines (s :: ss) (front ++ (w ++ (trailer ++ (brk ++ t))))

theorem IsBreak.length_pos (h : IsBreak brk) : 0 < brk.length := by
  rcases h with rfl | rfl <;> decide

/-- Lines are read one after the other, whatever comes then. Each of them has a line break, so that
a count that bounds the characters bounds the lines. -/
theorem statements_of_spellsLines (h : SpellsLines ss t) :
    ∃ k ≤ t.length, ∀ n rest,
      statements (n + k) (t ++ rest) = (statements n rest).map (ss ++ ·) := by
  -- `k` is the number of lines, those without a statement included
  induction h with
  | nil => exact ⟨0, Nat.le_refl 0, fun n rest => by simp⟩
  | @blank trailer brk t ss back feed _ ih =>
    obtain ⟨k, hk, hread⟩ := ih
    refine ⟨k + 1, ?_, fun n rest => ?_⟩
    · have hfeed := feed.length_pos
      simp only [List.length_append]
      omega
    · simp only [List.append_assoc]
      rw [← Nat.add_assoc, statements_of_isTrailer back feed, hread]
  | @statement front w trailer brk t s ss spaces first back feed _ ih =>
    obtain ⟨k, hk, hread⟩ := ih
    refine ⟨k + 1, ?_, fun n rest => ?_⟩
    · have hfeed := feed.length_pos
      simp only [List.length_append]
      omega
    · simp only [List.append_assoc]
      rw [← Nat.add_assoc, statements_of_spellsStatement spaces first
        (endsValue_append back (feed.atBreak_append _)), lineEnd?_append back feed]
      simp [hread, Function.comp_def]

/-- In a text that begins with lines there are steps left for the rest after them. -/
theorem exists_statements_append (h : SpellsLines ss t) (rest : Text) :
    ∃ n ≥ rest.length, statements ((t ++ rest).length + 1) (t ++ rest) =
      (statements (n + 1) rest).map (ss ++ ·) := by
  obtain ⟨k, hk, hread⟩ := statements_of_spellsLines h
  have hsteps : (t ++ rest).length + 1 = t.length - k + rest.length + 1 + k := by
    rw [List.length_append]
    omega
  exact ⟨t.length - k + rest.length, Nat.le_add_left _ _, by rw [hsteps, hread]⟩

end HartTimeline.Toml
