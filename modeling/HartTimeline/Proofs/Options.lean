import HartTimeline.Options
import HartTimeline.Proofs.Toml.Document
import Mathlib.Data.List.Perm.Basic

/-!
# What configurations say

A configuration gives some of the options and leaves the others to the layer below it. It is written
as one table, in which the options stand in any order, and there is no room in it for anything else.

Main statements: `ofToml_of_isWritten`, `exists_isWritten` and `ofToml_of_hasFurtherKey`.
-/

namespace HartTimeline.Options

/-! ## Layers of options -/

/-- One option with its value. -/
inductive Setting
  | cores (n : Nat)
  | skipBlank (b : Bool)
  | outputDir (d : Text)

/-- The entry that an option has in a configuration. -/
def Setting.entry : Setting → Text × Toml.Value
  | cores n => (Text.of "cores", .integer n)
  | skipBlank b => (Text.of "skip_blank_lines", .boolean b)
  | outputDir d => (Text.of "output_dir", .string d)

/-- The names of the options in a configuration. -/
def names : List Text :=
  [Text.of "cores", Text.of "skip_blank_lines", Text.of "output_dir"]

theorem Setting.entry_mem_names (s : Setting) : s.entry.1 ∈ names := by
  cases s with
  | cores => exact List.mem_cons_self
  | skipBlank => exact List.mem_cons_of_mem _ List.mem_cons_self
  | outputDir => exact List.mem_cons_of_mem _ (List.mem_cons_of_mem _ List.mem_cons_self)

/-- The options with one of them set. -/
def set (o : Options) : Setting → Options
  | .cores n => { o with cores := n }
  | .skipBlank b => { o with skipBlank := b }
  | .outputDir d => { o with outputDir := d }

/-- A layer of options, each of them given or not. -/
structure Layer where
  cores? : Option Nat
  skipBlank? : Option Bool
  outputDir? : Option Text

namespace Layer

/-- What a layer gives. -/
def settings (l : Layer) : List Setting :=
  (l.cores?.map .cores).toList ++ (l.skipBlank?.map .skipBlank).toList ++
    (l.outputDir?.map .outputDir).toList

/-- Options with those replaced that a layer gives. -/
def above (l : Layer) (o : Options) : Options where
  cores := l.cores?.getD o.cores
  skipBlank := l.skipBlank?.getD o.skipBlank
  outputDir := l.outputDir?.getD o.outputDir

/-- A configuration of a layer: a table with an entry for each option that the layer gives, in any
order, and nothing else. -/
def IsWritten (l : Layer) (text : Text) : Prop :=
  ∃ order : List Setting, order.Perm l.settings ∧
    Toml.SpellsDocument
      (.table ⟨[], Text.of "sanitizer"⟩ :: (order.map Setting.entry).map .ofEntry) text

end Layer

variable {o : Options} {l : Layer} {order : List Setting} {text : Text}

/-! ## Reading a configuration -/

theorem setEntry_entry (o : Options) (s : Setting) : o.setEntry s.entry = some (o.set s) := by
  cases s with
  | cores n => simp [setEntry, Setting.entry, setCores, set]
  | skipBlank b => rfl
  | outputDir d => rfl

theorem foldlM_setEntry (order : List Setting) (o : Options) :
    (order.map Setting.entry).foldlM setEntry o = some (order.foldl set o) := by
  induction order generalizing o with
  | nil => rfl
  | cons s order ih =>
    rw [List.map_cons, List.foldlM_cons, setEntry_entry]
    exact ih (o.set s)

theorem mem_settings_iff {s : Setting} : s ∈ l.settings ↔
    match s with
    | .cores n => l.cores? = some n
    | .skipBlank b => l.skipBlank? = some b
    | .outputDir d => l.outputDir? = some d := by
  cases s <;> simp [Layer.settings]

/-- A layer gives every option once at most, so that their order does not matter. -/
theorem foldl_set_of_perm (h : order.Perm l.settings) (o : Options) :
    order.foldl set o = l.above o := by
  -- two settings of one option are one setting of the layer, and others do not touch each other
  have hcomm : ∀ s ∈ order, ∀ s' ∈ order, ∀ o : Options, (o.set s).set s' = (o.set s').set s := by
    intro s hs s' hs' o
    have hs := mem_settings_iff.1 (h.mem_iff.1 hs)
    have hs' := mem_settings_iff.1 (h.mem_iff.1 hs')
    cases s with
    | cores n =>
      cases s' with
      | cores m => rw [Option.some.inj (hs.symm.trans hs')]
      | skipBlank | outputDir => rfl
    | skipBlank b =>
      cases s' with
      | skipBlank b' => rw [Option.some.inj (hs.symm.trans hs')]
      | cores | outputDir => rfl
    | outputDir d =>
      cases s' with
      | outputDir d' => rw [Option.some.inj (hs.symm.trans hs')]
      | cores | skipBlank => rfl
  rw [h.foldl_eq' hcomm]
  obtain ⟨cores?, skipBlank?, outputDir?⟩ := l
  cases cores? <;> cases skipBlank? <;> cases outputDir? <;> rfl

theorem nodup_keys_of_perm (h : order.Perm l.settings) :
    ((order.map Setting.entry).map Prod.fst).Nodup := by
  rw [((h.map Setting.entry).map Prod.fst).nodup_iff]
  obtain ⟨cores?, skipBlank?, outputDir?⟩ := l
  cases cores? <;> cases skipBlank? <;> cases outputDir? <;>
    simp [Layer.settings, Setting.entry, Text.of]

/-- A configuration of a layer gives the options of the layer and keeps the others. -/
theorem ofToml_of_isWritten (h : l.IsWritten text) : ofToml text = (l.above {}).check := by
  obtain ⟨order, hperm, hdocument⟩ := h
  have hread := Toml.read_of_spellsDocument hdocument
  rw [Toml.foldlM_table _ (nodup_keys_of_perm hperm)] at hread
  have hvalue : ofDocument [(Text.of "sanitizer", .table .header (order.map Setting.entry))] =
      some (l.above {}) := by
    rw [ofDocument, if_pos rfl, ofValue, foldlM_setEntry, foldl_set_of_perm hperm]
  rw [ofToml, hread]
  simp only [Option.map_some, Option.bind_some, hvalue]

/-! ## Writing a configuration -/

theorem exists_spellsLines {ss : List Toml.Statement}
    (h : ∀ s ∈ ss, ∃ w, Toml.SpellsStatement s w) : ∃ t, Toml.SpellsLines ss t := by
  induction ss with
  | nil => exact ⟨[], .nil⟩
  | cons s ss ih =>
    obtain ⟨⟨w, hw⟩, hss⟩ := List.forall_mem_cons.1 h
    obtain ⟨t, ht⟩ := ih hss
    exact ⟨_, .statement Toml.isSpaces_nil hw (.blank Toml.isSpaces_nil) (Or.inl rfl) ht⟩

/-- Names of letters and underscores can stand as they are. -/
theorem spellsNames_self {name gap : Text} (h : name ∈ Text.of "sanitizer" :: names)
    (hgap : Toml.IsSpaces gap) : Toml.SpellsNames [name] (name ++ gap) := by
  have hbare : ∀ name ∈ Text.of "sanitizer" :: names,
      name ≠ [] ∧ name.all Toml.isBareKeyChar = true := by decide
  obtain ⟨hne, hchars⟩ := hbare name h
  exact .last (.bare hne (List.all_eq_true.1 hchars)) hgap

theorem exists_spellsStatement {s : Setting} (hs : s ∈ l.settings)
    (hcores : ∀ n ∈ l.cores?, (n : Int) ≤ Text.int64Max) :
    ∃ w, Toml.SpellsStatement (.ofEntry s.entry) w := by
  have hgiven := mem_settings_iff.1 hs
  obtain ⟨u, hu⟩ : ∃ u, Toml.SpellsValue s.entry.2 u := by
    cases s with
    | cores n => exact ⟨_, .integer (hcores n hgiven)⟩
    | skipBlank b =>
      cases b with
      | false => exact ⟨_, .no⟩
      | true => exact ⟨_, .yes⟩
    | outputDir d =>
      obtain ⟨u, hu⟩ := Toml.exists_spells d
      exact ⟨_, .string hu⟩
  have hname := spellsNames_self (List.mem_cons_of_mem _ s.entry_mem_names) Toml.isSpaces_nil
  have hfew : 0 < Toml.depthLimit := by decide
  exact ⟨_, .assign hname hfew Toml.isSpaces_nil hu⟩

/-- Every layer has a configuration, whatever characters the directory has. -/
theorem exists_isWritten (hcores : ∀ n ∈ l.cores?, (n : Int) ≤ Text.int64Max) :
    ∃ text, l.IsWritten text := by
  have hlines : ∀ s ∈ Toml.Statement.table ⟨[], Text.of "sanitizer"⟩ ::
      (l.settings.map Setting.entry).map .ofEntry, ∃ w, Toml.SpellsStatement s w := by
    intro s hs
    rcases List.mem_cons.1 hs with rfl | hs
    · have hname := spellsNames_self List.mem_cons_self Toml.isSpaces_nil
      exact ⟨_, .table Toml.isSpaces_nil hname (by decide)⟩
    · rw [List.map_map] at hs
      obtain ⟨setting, hmem, rfl⟩ := List.mem_map.1 hs
      exact exists_spellsStatement hmem hcores
  obtain ⟨t, ht⟩ := exists_spellsLines hlines
  exact ⟨_, l.settings, List.Perm.refl _, .blank ht (.blank Toml.isSpaces_nil)⟩

/-! ## Further keys -/

/-- Names of a place at which a configuration has nothing: they are not those of the table of the
options, or in this table they are not those of an option. -/
def IsUnknown : List Text → Prop
  | [] => False
  | [table] => table ≠ Text.of "sanitizer"
  | table :: name :: _ => table ≠ Text.of "sanitizer" ∨ name ∉ names

/-- A text in which, behind whole lines, a statement begins about a place at which a configuration
has nothing. Anything may come then. -/
def HasFurtherKey (text : Text) : Prop :=
  ∃ ss lines front start rest place, text = lines ++ (front ++ (start ++ rest)) ∧
    Toml.SpellsLines ss lines ∧ Toml.IsSpaces front ∧
    Toml.Addresses (ss.foldl Toml.Statement.opened []) place start ∧ IsUnknown place

theorem setEntry_of_not_mem {e : Text × Toml.Value} (h : e.1 ∉ names) : o.setEntry e = none := by
  simp only [names, List.mem_cons, List.not_mem_nil, or_false, not_or] at h
  rw [setEntry, if_neg h.1, if_neg h.2.1, if_neg h.2.2]

theorem foldlM_setEntry_of_not_mem {es : Toml.Entries} {e : Text × Toml.Value} (hmem : e ∈ es)
    (h : e.1 ∉ names) (o : Options) : es.foldlM setEntry o = none := by
  induction es generalizing o with
  | nil => cases hmem
  | cons e' es ih =>
    rw [List.foldlM_cons]
    rcases List.mem_cons.1 hmem with rfl | hmem
    · rw [setEntry_of_not_mem h]
      rfl
    · cases o.setEntry e' with
      | none => rfl
      | some o' => exact ih hmem o'

/-- A document with anything at such a place gives no options. -/
theorem ofDocument_of_holds {es : Toml.Entries} {place : List Text} (h : es.Holds place)
    (hunknown : IsUnknown place) : ofDocument es = none := by
  obtain _ | ⟨table, path⟩ := place
  · cases hunknown
  obtain ⟨v, hmem, hleads⟩ := h
  rcases es with _ | ⟨first, _ | ⟨second, others⟩⟩
  · cases hmem
  · obtain rfl := List.mem_singleton.1 hmem
    rw [ofDocument]
    split
    · rename_i htable
      obtain _ | ⟨name, path⟩ := path
      · exact absurd htable hunknown
      have hname : name ∉ names := hunknown.resolve_left (not_not.2 htable)
      cases hleads with
      | table entry => exact foldlM_setEntry_of_not_mem entry hname {}
      | tables => rfl
    · rfl
  · rfl

/-- No configuration has a further key, in the table or beside it. -/
theorem ofToml_of_hasFurtherKey (h : HasFurtherKey text) : ofToml text = .error .malformed := by
  obtain ⟨ss, lines, front, start, rest, place, rfl, hlines, hfront, hplace, hunknown⟩ := h
  rw [ofToml]
  cases hread : Toml.read (lines ++ (front ++ (start ++ rest))) with
  | none => rfl
  | some es =>
    have hholds := Toml.holds_of_addresses hlines hfront hplace hread
    rw [Option.bind_some, ofDocument_of_holds hholds hunknown]

end HartTimeline.Options
