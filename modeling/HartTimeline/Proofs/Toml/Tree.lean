import HartTimeline.Toml.Document
import HartTimeline.Proofs.Toml.Key
import Mathlib.Data.List.Basic

/-!
# What statements do to a document

A statement adds to a document and takes nothing away: whatever names led to before, they lead to
after it, and so do the names that the statement itself is about.

Main statement: `holds_place`, the names of every statement are found in the document.
-/

namespace HartTimeline.Toml

/-! ## Paths -/

/-- Names lead from a value into the tables below it, in an array of tables into any of them. -/
inductive Value.Leads : Value → List Text → Prop
  | here (v : Value) : Leads v []
  | table {origin : Origin} {es : Entries} {name : Text} {v : Value} {path : List Text}
      (entry : (name, v) ∈ es) (further : Leads v path) : Leads (.table origin es) (name :: path)
  | tables {earlier : List Entries} {last es : Entries} {name : Text} {v : Value}
      {path : List Text} (among : es ∈ earlier ++ [last]) (entry : (name, v) ∈ es)
      (further : Leads v path) : Leads (.tables earlier last) (name :: path)

namespace Entries

/-- Names lead from the entries of a table to something. -/
def Holds (es : Entries) : List Text → Prop
  | [] => True
  | name :: path => ∃ v, (name, v) ∈ es ∧ v.Leads path

end Entries

/-- Whatever is found in one value is found in another. -/
def Value.Grows (v v' : Value) : Prop :=
  ∀ path, v.Leads path → v'.Leads path

/-- Whatever is found among some entries is found among others. -/
def Entries.Grows (es es' : Entries) : Prop :=
  ∀ path, es.Holds path → es'.Holds path

variable {es es' : Entries} {key name : Text} {path names : List Text} {v v' : Value}
  {f : Option Value → Option Value}

theorem Entries.Grows.refl (es : Entries) : es.Grows es := fun _ h => h

theorem Entries.Grows.trans {es₁ es₂ es₃ : Entries} (h : es₁.Grows es₂) (h' : es₂.Grows es₃) :
    es₁.Grows es₃ :=
  fun path hpath => h' path (h path hpath)

theorem leads_table_iff {origin : Origin} : (Value.table origin es).Leads path ↔ es.Holds path := by
  cases path with
  | nil => exact ⟨fun _ => trivial, fun _ => .here _⟩
  | cons name path =>
    constructor
    · rintro ⟨⟩
      rename_i v entry further
      exact ⟨v, entry, further⟩
    · rintro ⟨v, entry, further⟩
      exact .table entry further

theorem leads_tables_iff {earlier : List Entries} {last : Entries} :
    (Value.tables earlier last).Leads path ↔ ∃ es ∈ earlier ++ [last], es.Holds path := by
  cases path with
  | nil => exact ⟨fun _ => ⟨last, by simp, trivial⟩, fun _ => .here _⟩
  | cons name path =>
    constructor
    · rintro ⟨⟩
      rename_i es v among entry further
      exact ⟨es, among, v, entry, further⟩
    · rintro ⟨es, among, v, entry, further⟩
      exact .tables among entry further

theorem grows_table {origin origin' : Origin} (h : es.Grows es') :
    (Value.table origin es).Grows (.table origin' es') := by
  intro path hpath
  rw [leads_table_iff] at hpath ⊢
  exact h path hpath

theorem grows_tables {earlier : List Entries} (h : es.Grows es') :
    (Value.tables earlier es).Grows (.tables earlier es') := by
  intro path hpath
  rw [leads_tables_iff] at hpath ⊢
  obtain ⟨table, hmem, htable⟩ := hpath
  rcases List.mem_append.1 hmem with hearlier | hlast
  · exact ⟨table, List.mem_append_left _ hearlier, htable⟩
  · obtain rfl := List.mem_singleton.1 hlast
    exact ⟨es', by simp, h path htable⟩

/-! ## One entry -/

namespace Entries

/-- An entry is changed where it stands or added at the end. -/
theorem alter_eq_some (h : alter key f es = some es') :
    (∃ v, f none = some v ∧ es' = es ++ [(key, v)]) ∨
      ∃ front v back v', es = front ++ (key, v) :: back ∧ f (some v) = some v' ∧
        es' = front ++ (key, v') :: back := by
  induction es generalizing es' with
  | nil =>
    obtain ⟨v, hv, rfl⟩ := Option.map_eq_some_iff.1 h
    exact Or.inl ⟨v, hv, rfl⟩
  | cons e rest ih =>
    obtain ⟨key', v⟩ := e
    rw [alter] at h
    split at h
    · rename_i hkey
      subst hkey
      obtain ⟨v', hv', rfl⟩ := Option.map_eq_some_iff.1 h
      exact Or.inr ⟨[], v, rest, v', rfl, hv', rfl⟩
    · obtain ⟨rest', hrest, rfl⟩ := Option.map_eq_some_iff.1 h
      rcases ih hrest with ⟨w, hw, rfl⟩ | ⟨front, w, back, w', rfl, hw, rfl⟩
      · exact Or.inl ⟨w, hw, rfl⟩
      · exact Or.inr ⟨(key', v) :: front, w, back, w', rfl, hw, rfl⟩

theorem alter_of_not_mem (h : key ∉ es.map Prod.fst) :
    alter key f es = (f none).map fun v => es ++ [(key, v)] := by
  induction es with
  | nil => rfl
  | cons e rest ih =>
    obtain ⟨key', v⟩ := e
    rw [List.map_cons, List.mem_cons, not_or] at h
    rw [alter, if_neg fun hkey => h.1 hkey.symm, ih h.2]
    cases f none <;> rfl

/-- What comes of an entry leads at least as far as the entry did and as it must. -/
theorem grows_alter (h : alter key f es = some es')
    (hnew : ∀ v, f none = some v → v.Leads names)
    (hold : ∀ v v', f (some v) = some v' → v.Grows v' ∧ v'.Leads names) :
    es.Grows es' ∧ es'.Holds (key :: names) := by
  rcases alter_eq_some h with ⟨v, hv, rfl⟩ | ⟨front, v, back, v', rfl, hv, rfl⟩
  · refine ⟨?_, v, by simp, hnew v hv⟩
    intro path hpath
    cases path with
    | nil => trivial
    | cons name path =>
      obtain ⟨w, hmem, hw⟩ := hpath
      exact ⟨w, List.mem_append_left _ hmem, hw⟩
  · obtain ⟨hgrows, hleads⟩ := hold v v' hv
    refine ⟨?_, v', by simp, hleads⟩
    intro path hpath
    cases path with
    | nil => trivial
    | cons name path =>
      obtain ⟨w, hmem, hw⟩ := hpath
      rcases List.mem_append.1 hmem with hfront | hback
      · exact ⟨w, List.mem_append_left _ hfront, hw⟩
      rcases List.mem_cons.1 hback with heq | hback
      · cases heq
        exact ⟨v', by simp, hgrows path hw⟩
      · exact ⟨w, List.mem_append_right _ (List.mem_cons_of_mem _ hback), hw⟩

/-! ## Operations -/

theorem grows_assign (h : assign v path key es = some es') :
    es.Grows es' ∧ es'.Holds (path ++ [key]) := by
  induction path generalizing es es' with
  | nil =>
    apply grows_alter h
    · rintro w ⟨⟩
      exact .here v
    · rintro w w' ⟨⟩
  | cons name path ih =>
    apply grows_alter h
    · intro w hw
      obtain ⟨inner, hinner, rfl⟩ := Option.map_eq_some_iff.1 hw
      exact leads_table_iff.2 (ih hinner).2
    · intro w w' hw
      split at hw
      case h_1 heq => cases heq
      case h_2 inner heq =>
        cases heq
        obtain ⟨inner', hinner, rfl⟩ := Option.map_eq_some_iff.1 hw
        exact ⟨grows_table (ih hinner).1, leads_table_iff.2 (ih hinner).2⟩
      case h_3 => cases hw

theorem grows_within {f : Entries → Option Entries}
    (hf : ∀ es es', f es = some es' → es.Grows es' ∧ es'.Holds names)
    (h : within f path es = some es') : es.Grows es' ∧ es'.Holds (path ++ names) := by
  induction path generalizing es es' with
  | nil => exact hf es es' h
  | cons name path ih =>
    apply grows_alter h
    · intro w hw
      obtain ⟨inner, hinner, rfl⟩ := Option.map_eq_some_iff.1 hw
      exact leads_table_iff.2 (ih hinner).2
    · intro w w' hw
      split at hw
      case h_1 heq => cases heq
      case h_2 => cases hw
      case h_3 origin inner _ heq =>
        cases heq
        obtain ⟨inner', hinner, rfl⟩ := Option.map_eq_some_iff.1 hw
        exact ⟨grows_table (ih hinner).1, leads_table_iff.2 (ih hinner).2⟩
      case h_4 earlier last heq =>
        cases heq
        obtain ⟨last', hlast, rfl⟩ := Option.map_eq_some_iff.1 hw
        exact ⟨grows_tables (ih hlast).1, leads_tables_iff.2 ⟨last', by simp, (ih hlast).2⟩⟩
      case h_5 => cases hw

theorem grows_openTable (h : openTable path key es = some es') :
    es.Grows es' ∧ es'.Holds (path ++ [key]) := by
  refine grows_within (fun es es' hopen => grows_alter hopen ?_ ?_) h
  · intro w hw
    exact .here w
  · intro w w' hw
    split at hw
    case h_1 heq => cases heq
    case h_2 inner heq =>
      cases heq
      cases hw
      exact ⟨grows_table (Grows.refl inner), .here _⟩
    case h_3 => cases hw

theorem grows_openArrayTable (h : openArrayTable path key es = some es') :
    es.Grows es' ∧ es'.Holds (path ++ [key]) := by
  refine grows_within (fun es es' hopen => grows_alter hopen ?_ ?_) h
  · intro w hw
    exact .here w
  · intro w w' hw
    split at hw
    case h_1 heq => cases heq
    case h_2 earlier last heq =>
      cases heq
      cases hw
      refine ⟨?_, .here _⟩
      intro path hpath
      rw [leads_tables_iff] at hpath ⊢
      obtain ⟨table, hmem, htable⟩ := hpath
      exact ⟨table, List.mem_append_left _ hmem, htable⟩
    case h_3 => cases hw

end Entries

/-! ## Statements -/

/-- The table that is open after a statement. -/
def Statement.opened (current : List Text) : Statement → List Text
  | .table k | .arrayTable k => k.names
  | .assign _ _ => current

/-- The names that a statement is about, from the root of the document. -/
def Statement.place (current : List Text) : Statement → List Text
  | .table k | .arrayTable k => k.names
  | .assign k _ => current ++ k.names

variable {tree tree' : Tree} {s : Statement} {ss : List Statement}

theorem current_add (h : tree.add s = some tree') : tree'.current = s.opened tree.current := by
  cases s with
  | table | arrayTable | assign =>
    obtain ⟨root, -, rfl⟩ := Option.map_eq_some_iff.1 h
    rfl

/-- A statement keeps what there is and adds what it is about. -/
theorem grows_add (h : tree.add s = some tree') :
    tree.root.Grows tree'.root ∧ tree'.root.Holds (s.place tree.current) := by
  cases s with
  | table k =>
    obtain ⟨root, hroot, rfl⟩ := Option.map_eq_some_iff.1 h
    exact Entries.grows_openTable hroot
  | arrayTable k =>
    obtain ⟨root, hroot, rfl⟩ := Option.map_eq_some_iff.1 h
    exact Entries.grows_openArrayTable hroot
  | assign k v =>
    obtain ⟨root, hroot, rfl⟩ := Option.map_eq_some_iff.1 h
    exact Entries.grows_within (fun _ _ => Entries.grows_assign) hroot

theorem current_foldlM (h : ss.foldlM Tree.add tree = some tree') :
    tree'.current = ss.foldl Statement.opened tree.current := by
  induction ss generalizing tree with
  | nil =>
    cases h
    rfl
  | cons s ss ih =>
    rw [List.foldlM_cons] at h
    obtain ⟨mid, hmid, h⟩ := Option.bind_eq_some_iff.1 h
    rw [ih h, current_add hmid]
    rfl

theorem grows_foldlM (h : ss.foldlM Tree.add tree = some tree') : tree.root.Grows tree'.root := by
  induction ss generalizing tree with
  | nil =>
    cases h
    exact Entries.Grows.refl _
  | cons s ss ih =>
    rw [List.foldlM_cons] at h
    obtain ⟨mid, hmid, h⟩ := Option.bind_eq_some_iff.1 h
    exact (grows_add hmid).1.trans (ih h)

/-- What a statement is about is found in the document, whatever statements come before it and
after it. -/
theorem holds_place {others : List Statement}
    (h : (ss ++ s :: others).foldlM Tree.add tree = some tree') :
    tree'.root.Holds (s.place (ss.foldl Statement.opened tree.current)) := by
  rw [List.foldlM_append] at h
  obtain ⟨before, hbefore, h⟩ := Option.bind_eq_some_iff.1 h
  rw [List.foldlM_cons] at h
  obtain ⟨after, hafter, h⟩ := Option.bind_eq_some_iff.1 h
  rw [← current_foldlM hbefore]
  exact grows_foldlM h _ (grows_add hafter).2

/-! ## One table -/

/-- The statement that sets an entry of the table that is open. -/
def Statement.ofEntry (e : Text × Value) : Statement :=
  .assign ⟨[], e.1⟩ e.2

theorem add_ofEntry {name : Text} {es : Entries} {e : Text × Value} (h : e.1 ∉ es.map Prod.fst) :
    Tree.add ⟨[(name, .table .header es)], [name]⟩ (.ofEntry e) =
      some ⟨[(name, .table .header (es ++ [e]))], [name]⟩ := by
  have hassign : es.assign e.2 [] e.1 = some (es ++ [e]) := by
    rw [Entries.assign, Entries.alter_of_not_mem h]
    rfl
  simp [Tree.add, Statement.ofEntry, Entries.within, Entries.alter, hassign]

theorem foldlM_ofEntry {name : Text} {es fs : Entries} (h : ((es ++ fs).map Prod.fst).Nodup) :
    (fs.map Statement.ofEntry).foldlM Tree.add ⟨[(name, .table .header es)], [name]⟩ =
      some ⟨[(name, .table .header (es ++ fs))], [name]⟩ := by
  induction fs generalizing es with
  | nil =>
    rw [List.append_nil]
    rfl
  | cons e fs ih =>
    have hnew : e.1 ∉ es.map Prod.fst := by
      rw [List.map_append, List.map_cons] at h
      exact fun hmem => (List.nodup_append.1 h).2.2 e.1 hmem e.1 List.mem_cons_self rfl
    rw [List.append_cons] at h ⊢
    rw [List.map_cons, List.foldlM_cons, add_ofEntry hnew]
    exact ih h

/-- A header and entries with different keys make a document with one table, which holds them. -/
theorem foldlM_table (name : Text) {es : Entries} (h : (es.map Prod.fst).Nodup) :
    (Statement.table ⟨[], name⟩ :: es.map Statement.ofEntry).foldlM Tree.add ⟨[], []⟩ =
      some ⟨[(name, .table .header es)], [name]⟩ :=
  foldlM_ofEntry h

end HartTimeline.Toml
