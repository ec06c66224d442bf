import HartTimeline.Proofs.Toml.Lines
import HartTimeline.Proofs.Toml.Tree

/-!
# How documents are written in TOML

A document consists of whole lines and of one more, which may be empty and has no line break. What
it says is known from the statements that it is written from. If only its first lines are known and
how the statement after them begins, it is known at least that the document holds what that
statement is about.

Main statements: `read_of_spellsDocument` and `holds_of_addresses`.
-/

namespace HartTimeline.Toml

variable {c : Char} {t w rest front : Text} {v : Value} {s : Statement} {ss : List Statement}

/-! ## Statements of a document -/

/-- A document that is written from statements: whole lines, and at the end one that no line break
follows. -/
inductive SpellsDocument : List Statement → Text → Prop
  | blank {t trailer : Text} {ss : List Statement} (lines : SpellsLines ss t)
      (back : IsTrailer trailer) : SpellsDocument ss (t ++ trailer)
  | statement {t front w trailer : Text} {s : Statement} {ss : List Statement}
      (lines : SpellsLines ss t) (spaces : IsSpaces front) (last : SpellsStatement s w)
      (back : IsTrailer trailer) : SpellsDocument (ss ++ [s]) (t ++ (front ++ (w ++ trailer)))

theorem statements_of_spellsDocument (h : SpellsDocument ss t) :
    statements (t.length + 1) t = some ss := by
  cases h with
  | @blank t trailer ss lines back =>
    obtain ⟨n, -, hread⟩ := exists_statements_append lines trailer
    rw [hread, statements_of_isTrailer_end back]
    simp
  | @statement t front w trailer s ss lines spaces last back =>
    obtain ⟨n, hn, hread⟩ := exists_statements_append lines (front ++ (w ++ trailer))
    -- the statement has a character, which leaves a step for the end
    obtain ⟨c, w', hw, -⟩ := last.exists_cons
    obtain ⟨n, rfl⟩ : ∃ m, n = m + 1 := by
      simp only [List.length_append, hw, List.length_cons] at hn
      exact ⟨n - 1, by omega⟩
    have hend := endsValue_append back atBreak_nil
    rw [List.append_nil] at hend
    rw [hread, statements_of_spellsStatement spaces last hend, lineEnd?_of_isTrailer back]
    rfl

/-- No line begins with a byte order mark. -/
theorem head?_front_append_ne (hfront : IsSpaces front) (hc : beginsStatement c = true) (t : Text) :
    (front ++ c :: t).head? ≠ some '\ufeff' := by
  cases front with
  | nil =>
    rintro ⟨⟩
    exact absurd hc (by decide)
  | cons b front =>
    have hb : isSpace b = true := hfront b List.mem_cons_self
    rintro ⟨⟩
    exact absurd hb (by decide)

theorem SpellsLines.head?_append_ne (h : SpellsLines ss t) (hrest : rest.head? ≠ some '\ufeff') :
    (t ++ rest).head? ≠ some '\ufeff' := by
  cases h with
  | nil => exact hrest
  | blank back feed _ =>
    simp only [List.append_assoc]
    exact (endsValue_append back (feed.atBreak_append _)).head?_ne (by decide)
  | statement spaces first _ _ _ =>
    obtain ⟨c, w, rfl, hc⟩ := first.exists_cons
    simp only [List.append_assoc, List.cons_append]
    exact head?_front_append_ne spaces hc _

theorem SpellsDocument.head?_ne (h : SpellsDocument ss t) : t.head? ≠ some '\ufeff' := by
  cases h with
  | blank lines back =>
    have hend := endsValue_append back atBreak_nil
    rw [List.append_nil] at hend
    exact lines.head?_append_ne (hend.head?_ne (by decide))
  | statement lines spaces last back =>
    obtain ⟨c, w, rfl, hc⟩ := last.exists_cons
    exact lines.head?_append_ne (head?_front_append_ne spaces hc _)

theorem read_of_head? (h : t.head? ≠ some '\ufeff') :
    read t = (statements (t.length + 1) t).bind fun ss =>
      (ss.foldlM Tree.add ⟨[], []⟩).map Tree.root := by
  have hmark : dropMark t = t := by
    rw [dropMark.eq_def]
    split
    · exact absurd rfl h
    · rfl
  rw [read, hmark]
  simp only [Option.map_eq_bind]
  rfl

/-- A document is read from the statements that it is written from. -/
theorem read_of_spellsDocument (h : SpellsDocument ss t) :
    read t = (ss.foldlM Tree.add ⟨[], []⟩).map Tree.root := by
  rw [read_of_head? h.head?_ne, statements_of_spellsDocument h]
  rfl

/-! ## Where a statement begins -/

/-- The ways to begin a statement about a place: the key of an entry of the table that is open, with
the equals sign behind it, or a header. -/
inductive Addresses (current : List Text) : List Text → Text → Prop
  | entry {ns : List Text} {w : Text} (names : SpellsNames ns w) :
      Addresses current (current ++ ns) (w ++ ['='])
  | table {ns : List Text} {gap w : Text} (spaces : IsSpaces gap) (names : SpellsNames ns w) :
      Addresses current ns ('[' :: (gap ++ (w ++ [']'])))
  | arrayTable {ns : List Text} {gap w : Text} (spaces : IsSpaces gap)
      (names : SpellsNames ns w) : Addresses current ns ('[' :: '[' :: (gap ++ (w ++ [']', ']'])))

variable {current place : List Text}

theorem Addresses.exists_cons (h : Addresses current place w) :
    ∃ c w', w = c :: w' ∧ beginsStatement c = true := by
  cases h with
  | table => exact ⟨_, _, rfl, rfl⟩
  | arrayTable => exact ⟨_, _, rfl, rfl⟩
  | entry names =>
    obtain ⟨c, w, rfl, hc⟩ := names.exists_cons
    exact ⟨c, _, rfl, by simp [beginsStatement, hc]⟩

theorem exists_key_of_assignment {item : Reader Value} {k : Key}
    (h : assignment item t = some ((k, v), rest)) : ∃ rest', key t = some (k, rest') := by
  rw [assignment] at h
  obtain ⟨⟨k', t'⟩, hkey, h⟩ := Option.bind_eq_some_iff.1 h
  obtain ⟨u, -, h⟩ := Option.bind_eq_some_iff.1 h
  obtain ⟨⟨v', rest'⟩, -, h⟩ := Option.bind_eq_some_iff.1 h
  cases h
  exact ⟨t', hkey⟩

/-- What begins like a statement about a place is one, if it is a statement at all. -/
theorem place_of_addresses (h : Addresses current place w)
    (hread : statement (w ++ t) = some (s, rest)) : s.place current = place := by
  cases h with
  | @entry ns w names =>
    -- the key is read before the value, which may be anything
    obtain ⟨k, rfl⟩ := names.exists_key
    have hkey := key_of_spellsNames names (Or.inl rfl) t
    obtain ⟨c, w, rfl, hc⟩ := names.exists_cons
    have hbracket : c ≠ '[' := by
      rintro rfl
      cases hc
    rw [List.append_assoc, List.cons_append, statement_of_ne hbracket] at hread
    obtain ⟨⟨⟨k', v⟩, t'⟩, hassign, heq⟩ := Option.map_eq_some_iff.1 hread
    cases heq
    obtain ⟨rest', hkey'⟩ := exists_key_of_assignment hassign
    rw [List.singleton_append, ← List.cons_append, hkey] at hkey'
    split at hkey'
    · cases hkey'
      rfl
    · cases hkey'
  | @table ns gap w spaces names =>
    obtain ⟨k, rfl⟩ := names.exists_key
    simp only [List.cons_append, List.append_assoc, List.nil_append] at hread
    rw [statement_header (head?_gap_append_ne spaces names _),
      tableHeader_of_spellsNames spaces names] at hread
    split at hread
    · cases hread
      rfl
    · cases hread
  | @arrayTable ns gap w spaces names =>
    obtain ⟨k, rfl⟩ := names.exists_key
    simp only [List.cons_append, List.append_assoc, List.nil_append] at hread
    rw [statement, tableHeader_of_spellsNames spaces names] at hread
    split at hread
    · cases hread
      rfl
    · cases hread

/-- A document in which a statement about a place begins after some lines holds the place, whatever
comes then, if it can be read at all. -/
theorem holds_of_addresses {es : Entries} (hlines : SpellsLines ss t) (hfront : IsSpaces front)
    (h : Addresses (ss.foldl Statement.opened []) place w)
    (hread : read (t ++ (front ++ (w ++ rest))) = some es) : es.Holds place := by
  obtain ⟨c, w', hw, hc⟩ := h.exists_cons
  have hmark : (t ++ (front ++ (w ++ rest))).head? ≠ some '\ufeff' := by
    rw [hw]
    exact hlines.head?_append_ne (head?_front_append_ne hfront hc _)
  rw [read_of_head? hmark] at hread
  obtain ⟨all, hall, htree⟩ := Option.bind_eq_some_iff.1 hread
  obtain ⟨tree, hfold, rfl⟩ := Option.map_eq_some_iff.1 htree
  -- the lines are read, and then the statement that begins
  obtain ⟨n, -, hlines⟩ := exists_statements_append hlines (front ++ (w ++ rest))
  rw [hlines] at hall
  obtain ⟨later, hlater, rfl⟩ := Option.map_eq_some_iff.1 hall
  rw [hw, List.cons_append, statements_of_beginsStatement hfront hc] at hlater
  obtain ⟨⟨s, rest'⟩, hstatement, hlater⟩ := Option.bind_eq_some_iff.1 hlater
  obtain ⟨rest'', -, hlater⟩ := Option.bind_eq_some_iff.1 hlater
  obtain ⟨others, -, rfl⟩ := Option.map_eq_some_iff.1 hlater
  rw [← List.cons_append, ← hw] at hstatement
  rw [← place_of_addresses h hstatement]
  exact holds_place hfold

end HartTimeline.Toml
