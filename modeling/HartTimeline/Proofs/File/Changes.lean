import HartTimeline.Proofs.File.Tree

/-!
# What has been written between two trees

Making directories changes no file, and writing a file changes no other. What any number of these
operations has done to a tree is told by the list of the texts that have been written, with the
paths that they have been written to.

Main statements: `Wrote.trans`, what two parts of the work have written, and `wrote_writeText` and
`wrote_makePath`, what the operations write.
-/

namespace HartTimeline.FileTree

variable {tree next tree' : FileTree} {loc : Location}

/-! ## The files of a tree -/

/-- The content of the file at a location, if a file stands there. -/
def content? (tree : FileTree) (loc : Location) : Option Content :=
  match tree.node? loc with
  | some (.file content) => some content
  | _ => none

theorem content?_eq_some_iff {content : Content} :
    tree.content? loc = some content ↔ tree.node? loc = some (.file content) := by
  unfold content?
  split <;> simp_all

/-- A text is read from the file that its path leads to. -/
theorem readText_eq_ok_iff_content? {path text : Text} :
    tree.readText path = .ok text ↔
      ∃ loc, tree.locate path = .ok loc ∧ tree.content? loc = some (.text text) := by
  rw [readText_eq_ok_iff]
  simp only [content?_eq_some_iff]

/-- Where something is put, no other file changes. -/
theorem content?_put_of_ne {loc' : Location} (node : FileNode) (h : loc ≠ loc') :
    (tree.put loc node).content? loc' = tree.content? loc' := by
  have hnode : (tree.put loc node).node? loc' = tree.node? loc' := by
    rw [node?_put, if_neg h]
    by_cases hhome : loc'.isPrefixOf tree.home
    · rw [if_pos hhome, node?, if_pos hhome]
    · exact if_neg hhome
  unfold content?
  rw [hnode]

/-! ## What has been written -/

theorem Within.refl (tree : FileTree) : Within tree tree :=
  ⟨rfl, fun _ h => h⟩

theorem Within.trans (h : Within tree next) (h' : Within next tree') : Within tree tree' where
  home := h'.home.trans h.home
  directories := fun loc hdirectory => h'.directories loc (h.directories loc hdirectory)

/-- One tree has come from another by writing texts to paths. No directory is gone, the paths lead
to the texts, and any other file is what it was. -/
structure Wrote (tree tree' : FileTree) (written : List (Text × Text)) : Prop where
  within : Within tree tree'
  holds : ∀ f ∈ written, tree'.readText f.1 = .ok f.2
  others : ∀ loc, (∀ f ∈ written, tree'.locate f.1 ≠ .ok loc) →
    tree'.content? loc = tree.content? loc

/-- No path of one list leads where a path of the other leads. -/
def Apart (tree : FileTree) (first second : List (Text × Text)) : Prop :=
  ∀ f ∈ first, ∀ g ∈ second, ∀ loc, tree.locate f.1 = .ok loc → tree.locate g.1 ≠ .ok loc

variable {first second : List (Text × Text)}

theorem Wrote.refl (tree : FileTree) : Wrote tree tree [] :=
  ⟨.refl tree, nofun, fun _ _ => rfl⟩

/-- What has been written first is there in the end if its paths lead elsewhere. -/
theorem Wrote.trans (h : Wrote tree next first) (h' : Wrote next tree' second)
    (hapart : Apart tree' first second) : Wrote tree tree' (first ++ second) where
  within := h.within.trans h'.within
  holds := by
    intro f hf
    rcases List.mem_append.1 hf with hf | hf
    · obtain ⟨loc, hlocate, hcontent⟩ := readText_eq_ok_iff_content?.1 (h.holds f hf)
      have hlocate' : tree'.locate f.1 = .ok loc := h'.within.locate hlocate
      have hkept : tree'.content? loc = next.content? loc :=
        h'.others loc fun g hg => hapart f hf g hg loc hlocate'
      exact readText_eq_ok_iff_content?.2 ⟨loc, hlocate', hkept.trans hcontent⟩
    · exact h'.holds f hf
  others := by
    intro loc hother
    have hsecond : tree'.content? loc = next.content? loc :=
      h'.others loc fun g hg => hother g (List.mem_append_right first hg)
    have hfirst : next.content? loc = tree.content? loc := by
      apply h.others loc
      intro f hf hlocate
      exact hother f (List.mem_append_left second hf) (h'.within.locate hlocate)
    exact hsecond.trans hfirst

/-- What has written nothing may come before. -/
theorem Wrote.trans_nil {written : List (Text × Text)} (h : Wrote tree next [])
    (h' : Wrote next tree' written) : Wrote tree tree' written :=
  h.trans h' nofun

/-! ## The operations -/

theorem wrote_writeText {path text : Text} (h : tree.writeText path text = .ok tree') :
    Wrote tree tree' [(path, text)] := by
  obtain ⟨loc, hlocate, hdirectory, rfl⟩ := writeText_eq_ok h
  have hwithin : Within tree (tree.put loc (.file (.text text))) := within_put hdirectory
  refine ⟨hwithin, List.forall_mem_singleton.2 (readText_of_writeText h), ?_⟩
  intro loc' hother
  apply content?_put_of_ne
  intro heq
  exact hother (path, text) List.mem_cons_self (heq ▸ hwithin.locate hlocate)

/-- A directory is put where nothing was. -/
theorem wrote_put_directory (h : tree.node? loc = none) :
    Wrote tree (tree.put loc .directory) [] := by
  have hwithin : Within tree (tree.put loc .directory) := by
    refine ⟨rfl, fun loc' hdirectory => ?_⟩
    rw [node?_put, hdirectory, ite_self, ite_self]
  refine ⟨hwithin, nofun, fun loc' _ => ?_⟩
  by_cases hloc : loc = loc'
  · have hnew : (tree.put loc .directory).content? loc' = none := by
      unfold content?
      rw [node?_put, hloc, if_pos rfl, ite_self]
    have hold : tree.content? loc' = none := by
      unfold content?
      rw [← hloc, h]
    rw [hnew, hold]
  · exact content?_put_of_ne _ hloc

theorem wrote_makeDirectory {start : Location} {ps : List Text}
    (h : tree.makeDirectory start ps = .ok tree') : Wrote tree tree' [] := by
  unfold makeDirectory at h
  split at h
  · cases h
  · split at h
    · cases h
    · rename_i hnone
      cases h
      exact wrote_put_directory hnone

/-- Making directories changes no file, whether it gets to its end or not. -/
theorem wrote_makeDirectories (tree : FileTree) (start : Location) (ps : List Text) :
    Wrote tree (tree.makeDirectories start ps).1 [] := by
  fun_induction makeDirectories tree start ps with
  | case1 => exact .refl tree
  | case2 ps hne next hmade => exact wrote_makeDirectory hmade
  | case3 ps hne hmissing hshorter next fault hparent ih =>
    rw [hparent] at ih
    exact ih
  | case4 ps hne hmissing hshorter next hparent tree' hmade ih =>
    rw [hparent] at ih
    exact ih.trans_nil (wrote_makeDirectory hmade)
  | case5 ps hne hmissing hshorter next hparent fault hfailed ih =>
    rw [hparent] at ih
    exact ih
  | case6 ps hne fault hother hfailed => exact .refl tree

theorem wrote_makePath (tree : FileTree) (path : Text) : Wrote tree (tree.makePath path).1 [] := by
  unfold makePath
  split
  · exact .refl tree
  · split
    · exact .refl tree
    · exact wrote_makeDirectories _ _ _

end HartTimeline.FileTree
