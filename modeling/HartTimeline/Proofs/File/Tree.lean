import HartTimeline.File.Tree
import Mathlib.Data.List.Basic

/-!
# Reading what was written

A write changes what stands at one location, and that was no directory before. So every path that
led somewhere before the write leads there after it, and what is read from a path is what was
written to it last.

Main statements: `readText_of_writeText`, a text that was written is read back, and
`getLast?_of_locate`, a path in a directory leads to its own name.
-/

namespace HartTimeline

/-! ## Paths in a directory -/

namespace Path

/-- A name that stands for a file of its own in every directory. -/
structure IsPlainName (name : Text) : Prop where
  ne_nil : name ≠ []
  slash_not_mem : '/' ∉ name
  ne_dot : name ≠ ['.']
  ne_dots : name ≠ ['.', '.']

variable {directory name : Text}

theorem parts_append_slash (s t : Text) : parts (s ++ '/' :: t) = parts s ++ parts t := by
  rw [parts, List.splitOn_append_cons_self, List.filter_append]
  rfl

theorem parts_of_isPlainName (h : IsPlainName name) : parts name = [name] := by
  rw [parts, List.splitOn_eq_singleton h.slash_not_mem]
  simp [h.ne_nil]

/-- The name comes after the parts of the directory. -/
theorem parts_join (h : IsPlainName name) :
    parts (join directory name) = parts directory ++ [name] := by
  rw [← parts_of_isPlainName h, join]
  split
  · rename_i hempty
    rw [List.isEmpty_iff.1 hempty]
    rfl
  · split
    · rename_i hslash
      -- the slash that the directory ends in leaves no part behind it
      obtain ⟨front, rfl⟩ := List.getLast?_eq_some_iff.1 hslash
      have hnil : parts [] = [] := rfl
      rw [List.append_assoc, List.singleton_append, parts_append_slash, parts_append_slash, hnil,
        List.append_nil]
    · exact parts_append_slash directory name

/-- Nothing comes after the name. -/
theorem getLast?_join (h : IsPlainName name) : (join directory name).getLast? = name.getLast? := by
  obtain ⟨last, hlast⟩ := Option.ne_none_iff_exists'.1
    (fun hnone => h.ne_nil (List.getLast?_eq_none_iff.1 hnone))
  rw [join, hlast]
  split
  · exact hlast
  · split <;> simp [List.getLast?_append, List.getLast?_cons, hlast]

end Path

namespace FileTree

variable {tree tree' : FileTree} {loc loc' : Location}

/-! ## Locations -/

/-- What is put at a location stands there, unless that is around the working directory. -/
theorem node?_put (tree : FileTree) (loc loc' : Location) (node : FileNode) :
    (tree.put loc node).node? loc' =
      if loc'.isPrefixOf tree.home then some .directory
      else if loc = loc' then some node else tree.node? loc' := by
  have hget : (tree.put loc node).nodes.get? loc' =
      if loc = loc' then some node else tree.nodes.get? loc' := Assoc.get?_insert _ _ _ _
  rw [node?, hget, node?]
  by_cases hhome : loc'.isPrefixOf tree.home
  · rw [if_pos hhome]
    exact if_pos hhome
  · rw [if_neg hhome, if_neg hhome]
    exact if_neg hhome

theorem enter_eq_ok_iff : tree.enter loc = .ok () ↔ tree.node? loc = some .directory := by
  rw [enter]
  split <;> simp_all

/-- Where one part of a path leads from a directory. A name may be too long. -/
def next? (loc : Location) (part : Text) : Option Location :=
  if part = ['.'] then some loc
  else if part = ['.', '.'] then some loc.dropLast
  else if 255 < Text.byteLength part then none
  else some (loc ++ [part])

/-- A path leads somewhere if it starts at a directory and its first part leads to where the others
lead on from. -/
theorem walk_cons_eq_ok_iff {part : Text} {ps : List Text} :
    tree.walk loc (part :: ps) = .ok loc' ↔
      tree.node? loc = some .directory ∧
        ∃ next, next? loc part = some next ∧ tree.walk next ps = .ok loc' := by
  rw [walk, ← enter_eq_ok_iff]
  cases tree.enter loc with
  | error fault => simp
  | ok u =>
    by_cases hdot : part = ['.']
    · simp [next?, hdot]
    · by_cases hdots : part = ['.', '.']
      · simp [next?, hdots]
      · by_cases hlong : 255 < Text.byteLength part <;> simp [next?, hdot, hdots, hlong]

/-- Going to a name in a directory ends at the name. -/
theorem getLast?_of_walk {name : Text} (hname : Path.IsPlainName name) {ps : List Text}
    (h : tree.walk loc (ps ++ [name]) = .ok loc') : loc'.getLast? = some name := by
  induction ps generalizing loc with
  | nil =>
    obtain ⟨-, next, hnext, hend⟩ := walk_cons_eq_ok_iff.1 h
    cases hend
    rw [next?, if_neg hname.ne_dot, if_neg hname.ne_dots] at hnext
    split at hnext
    · cases hnext
    · cases hnext
      exact List.getLast?_concat
  | cons p ps ih =>
    obtain ⟨-, next, -, hrest⟩ := walk_cons_eq_ok_iff.1 h
    exact ih hrest

/-- The path of a name in a directory leads to the name. -/
theorem getLast?_of_locate {directory name : Text} (hname : Path.IsPlainName name)
    (h : tree.locate (Path.join directory name) = .ok loc) : loc.getLast? = some name := by
  have hslash : (Path.join directory name).getLast? ≠ some '/' := by
    rw [Path.getLast?_join hname]
    exact fun hlast => hname.slash_not_mem (List.mem_of_getLast? hlast)
  rw [locate] at h
  split at h
  · cases h
  · rw [if_neg hslash, List.append_nil, Path.parts_join hname] at h
    exact getLast?_of_walk hname h

/-! ## Directories that stay -/

/-- Every directory of a tree is one of another tree. -/
structure Within (tree tree' : FileTree) : Prop where
  home : tree'.home = tree.home
  directories : ∀ loc, tree.node? loc = some .directory → tree'.node? loc = some .directory

namespace Within

/-- As long as the directories stay, every path that leads somewhere leads there still. -/
theorem walk (h : Within tree tree') {ps : List Text} (hwalk : tree.walk loc ps = .ok loc') :
    tree'.walk loc ps = .ok loc' := by
  induction ps generalizing loc with
  | nil => exact hwalk
  | cons p ps ih =>
    obtain ⟨hdirectory, next, hnext, hrest⟩ := walk_cons_eq_ok_iff.1 hwalk
    exact walk_cons_eq_ok_iff.2 ⟨h.directories loc hdirectory, next, hnext, ih hrest⟩

theorem locate (h : Within tree tree') {path : Text} (hlocate : tree.locate path = .ok loc) :
    tree'.locate path = .ok loc := by
  have hstart : tree'.start path = tree.start path := by rw [start, start, h.home]
  rw [FileTree.locate] at hlocate ⊢
  split at hlocate
  · cases hlocate
  · rw [hstart]
    exact h.walk hlocate

end Within

/-! ## Writing -/

/-- A text is written to where its path leads, unless a directory stands there. -/
theorem writeText_eq_ok {path text : Text} (h : tree.writeText path text = .ok tree') :
    ∃ loc, tree.locate path = .ok loc ∧ tree.node? loc ≠ some .directory ∧
      tree' = tree.put loc (.file (.text text)) := by
  rw [writeText] at h
  split at h
  · cases h
  · rename_i loc hlocate
    split at h
    · cases h
    · cases h
    · rename_i hdirectory
      cases h
      exact ⟨loc, hlocate, hdirectory, rfl⟩

/-- A text is read from where its path leads. -/
theorem readText_eq_ok_iff {path text : Text} :
    tree.readText path = .ok text ↔
      ∃ loc, tree.locate path = .ok loc ∧ tree.node? loc = some (.file (.text text)) := by
  rw [readText]
  cases tree.locate path with
  | error fault => simp
  | ok loc =>
    simp only [Except.ok.injEq, exists_eq_left']
    split <;> simp_all

/-- A file put where no directory stands leaves all directories. -/
theorem within_put {content : Content} (h : tree.node? loc ≠ some .directory) :
    Within tree (tree.put loc (.file content)) where
  home := rfl
  directories := by
    intro loc' hdirectory
    have hne : loc ≠ loc' := fun e => h (e ▸ hdirectory)
    rw [node?_put, if_neg hne, hdirectory]
    exact ite_self _

/-- What was written is read back. -/
theorem readText_of_writeText {path text : Text} (h : tree.writeText path text = .ok tree') :
    tree'.readText path = .ok text := by
  obtain ⟨loc, hlocate, hdirectory, rfl⟩ := writeText_eq_ok h
  refine readText_eq_ok_iff.2 ⟨loc, (within_put hdirectory).locate hlocate, ?_⟩
  have haround : ¬loc.isPrefixOf tree.home := fun hhome => hdirectory (if_pos hhome)
  rw [node?_put, if_neg haround, if_pos rfl]

end FileTree

end HartTimeline
