import HartTimeline.Proofs.File.Changes
import HartTimeline.Streams
import Mathlib.Data.List.Nodup

/-!
# Saved streams

The files of a timeline have plain and different names. So none of them is written over another one,
and once all of them are written, each holds its own stream. Should the system break off the work on
the way, the first files are written and the others are what they were.

Main statements: `Timeline.save_own_files`, what is written and what is not, and
`Timeline.readText_of_saveUnder`, what saving leaves if it succeeds.
-/

namespace HartTimeline

/-! ## The names of the files -/

theorem isPlainName_globalStreamName : Path.IsPlainName globalStreamName := by
  constructor <;> decide

/-- A core's stream has a name of its own. -/
theorem coreStreamName_inj {core core' : Nat} (h : coreStreamName core = coreStreamName core') :
    core = core' :=
  Text.decimal_inj (List.append_cancel_left (List.append_cancel_right h))

theorem slash_not_mem_coreStreamName (core : Nat) : '/' ∉ coreStreamName core := by
  have hdigits : '/' ∉ Text.decimal core :=
    fun h => absurd (Text.isDigit_of_mem_decimal h) (by decide)
  have hfront : '/' ∉ Text.of "sanitized_log_" := by decide
  have hback : '/' ∉ Text.of ".log" := by decide
  simp [coreStreamName, hdigits, hfront, hback]

theorem isPlainName_coreStreamName (core : Nat) : Path.IsPlainName (coreStreamName core) where
  ne_nil := nofun
  slash_not_mem := slash_not_mem_coreStreamName core
  ne_dot := nofun
  ne_dots := nofun

/-- An underscore stands in the name of a core's stream where the global stream's name has its
dot. -/
theorem coreStreamName_ne_globalStreamName (core : Nat) :
    coreStreamName core ≠ globalStreamName := by
  have hcore : coreStreamName core =
      Text.of "sanitized_log" ++ '_' :: (Text.decimal core ++ Text.of ".log") := rfl
  have hglobal : globalStreamName = Text.of "sanitized_log" ++ Text.of ".log" := rfl
  intro h
  rw [hcore, hglobal] at h
  exact absurd (List.cons.inj (List.append_cancel_left h)).1 (by decide)

namespace FileTree

/-! ## Work that is broken off -/

/-- An action that is broken off leaves all files as they were, though maybe new directories. -/
def Refusal.SparesFiles (refusal : Refusal) : Prop :=
  ∀ tree action tree' fault, refusal tree action = some (tree', fault) → Wrote tree tree' []

theorem performAllUnder_never (tree : FileTree) (actions : List FileAction) :
    tree.performAllUnder .never actions = tree.performAll actions := by
  induction actions generalizing tree with
  | nil => rfl
  | cons action rest ih =>
    have hperform : tree.performUnder .never action = tree.perform action := rfl
    rw [performAllUnder, performAll, hperform]
    rcases tree.perform action with ⟨next, fault | -⟩
    · rfl
    · exact ih next

variable {refusal : Refusal} {tree next tree' : FileTree} {directory name path text : Text}
  {named : List (Text × Text)} {result : Except FileFault Unit}

/-- After an action that fails nothing more is done. -/
theorem performAllUnder_cons_of_error {action : FileAction} {fault : FileFault}
    (h : tree.performUnder refusal action = (next, .error fault)) (rest : List FileAction) :
    tree.performAllUnder refusal (action :: rest) = (next, .error fault) := by
  rw [performAllUnder, h]

theorem performAllUnder_cons_of_ok {action : FileAction}
    (h : tree.performUnder refusal action = (next, .ok ())) (rest : List FileAction) :
    tree.performAllUnder refusal (action :: rest) = next.performAllUnder refusal rest := by
  rw [performAllUnder, h]

/-- An action that succeeds was not broken off. -/
theorem perform_of_performUnder {action : FileAction}
    (h : tree.performUnder refusal action = (next, .ok ())) :
    tree.perform action = (next, .ok ()) := by
  unfold performUnder at h
  split at h
  · cases h
  · exact h

/-- Work that is done to its end was not broken off. -/
theorem performAll_of_performAllUnder {actions : List FileAction}
    (h : tree.performAllUnder refusal actions = (tree', .ok ())) :
    tree.performAll actions = (tree', .ok ()) := by
  induction actions generalizing tree with
  | nil => exact h
  | cons action rest ih =>
    rcases hperform : tree.performUnder refusal action with ⟨next, fault | ⟨⟩⟩
    · rw [performAllUnder_cons_of_error hperform] at h
      cases h
    · rw [performAllUnder_cons_of_ok hperform] at h
      rw [performAll, perform_of_performUnder hperform]
      exact ih h

/-! ## What one action writes -/

/-- A file is written as a whole or not at all. -/
theorem wrote_write (hspares : refusal.SparesFiles)
    (h : tree.performUnder refusal (.write path text) = (tree', result)) :
    Wrote tree tree' (if result = .ok () then [(path, text)] else []) := by
  unfold performUnder at h
  split at h
  · rename_i hrefusal
    cases h
    exact hspares _ _ _ _ hrefusal
  · cases hwrite : tree.writeText path text with
    | error fault =>
      simp only [perform, hwrite] at h
      cases h
      exact .refl tree
    | ok next =>
      simp only [perform, hwrite] at h
      cases h
      exact wrote_writeText hwrite

theorem wrote_performUnder_makePath (hspares : refusal.SparesFiles)
    (h : tree.performUnder refusal (.makePath path) = (tree', result)) : Wrote tree tree' [] := by
  unfold performUnder at h
  split at h
  · rename_i hrefusal
    cases h
    exact hspares _ _ _ _ hrefusal
  · have htree : (tree.makePath path).1 = tree' := congrArg Prod.fst h
    rw [← htree]
    exact wrote_makePath tree path

/-! ## Writing one file after another -/

/-- What it takes to write texts under their names in a directory. -/
def writes (directory : Text) (named : List (Text × Text)) : List FileAction :=
  named.map fun f => .write (Path.join directory f.1) f.2

/-- The paths of names in a directory, with the texts. -/
def located (directory : Text) (named : List (Text × Text)) : List (Text × Text) :=
  named.map fun f => (Path.join directory f.1, f.2)

/-- Different names in a directory are different files. -/
theorem locate_ne_of_ne {other : Text} (hname : Path.IsPlainName name)
    (hother : Path.IsPlainName other) (hne : name ≠ other) {loc : Location}
    (hlocate : tree.locate (Path.join directory name) = .ok loc) :
    tree.locate (Path.join directory other) ≠ .ok loc := by
  intro hlocate'
  have hlast := getLast?_of_locate hname hlocate
  rw [getLast?_of_locate hother hlocate'] at hlast
  exact hne (Option.some.inj hlast).symm

theorem apart_located (hname : Path.IsPlainName name) (hplain : ∀ f ∈ named, Path.IsPlainName f.1)
    (hnew : name ∉ named.map Prod.fst) :
    Apart tree [(Path.join directory name, text)] (located directory named) := by
  intro f hf g hg loc hlocate
  obtain rfl := List.mem_singleton.1 hf
  obtain ⟨other, hother, rfl⟩ := List.mem_map.1 hg
  have hne : name ≠ other.1 := by
    intro heq
    exact hnew (heq ▸ List.mem_map_of_mem hother)
  exact locate_ne_of_ne hname (hplain other hother) hne hlocate

/-- Of texts that are to be written under different names in a directory, some first ones are
written, and all of them if nothing fails. -/
theorem exists_wrote_of_writes (hspares : refusal.SparesFiles)
    (hplain : ∀ f ∈ named, Path.IsPlainName f.1) (hnodup : (named.map Prod.fst).Nodup)
    (h : tree.performAllUnder refusal (writes directory named) = (tree', result)) :
    ∃ k ≤ named.length, (k = named.length ↔ result = .ok ()) ∧
      Wrote tree tree' (located directory (named.take k)) := by
  induction named generalizing tree with
  | nil =>
    cases h
    exact ⟨0, Nat.le_refl 0, ⟨fun _ => rfl, fun _ => rfl⟩, .refl _⟩
  | cons f named ih =>
    obtain ⟨hnew, hnodup⟩ := List.nodup_cons.1 hnodup
    obtain ⟨hf, hplain⟩ := List.forall_mem_cons.1 hplain
    rw [writes, List.map_cons] at h
    rcases hperform : tree.performUnder refusal (.write (Path.join directory f.1) f.2) with
      ⟨next, fault | done⟩
    · -- this file and those after it are not written
      rw [performAllUnder_cons_of_error hperform] at h
      cases h
      refine ⟨0, Nat.zero_le _, by simp, ?_⟩
      exact wrote_write hspares hperform
    · rw [performAllUnder_cons_of_ok hperform] at h
      obtain ⟨k, hk, hall, hwrote⟩ := ih hplain hnodup h
      have hfirst : Wrote tree next [(Path.join directory f.1, f.2)] :=
        wrote_write hspares hperform
      have hplain' : ∀ g ∈ named.take k, Path.IsPlainName g.1 :=
        fun g hg => hplain g (List.mem_of_mem_take hg)
      have hnew' : f.1 ∉ (named.take k).map Prod.fst := by
        rw [List.map_take]
        exact fun hmem => hnew (List.mem_of_mem_take hmem)
      refine ⟨k + 1, Nat.succ_le_succ hk, ?_, ?_⟩
      · rw [← hall, List.length_cons]
        omega
      · exact hfirst.trans hwrote (apart_located hf hplain' hnew')

end FileTree

/-! ## The files of a timeline -/

namespace Timeline

variable {t : Timeline} {directory : Text} {tree tree' : FileTree} {paths : List Text}

/-- The names of the files of a timeline, with what they are to hold. -/
def named (t : Timeline) : List (Text × Text) :=
  (globalStreamName, t.globalStream)
    :: (List.range t.cores).map fun core => (coreStreamName core, t.coreStream core)

theorem mem_named {core : Nat} (h : core < t.cores) :
    (coreStreamName core, t.coreStream core) ∈ t.named :=
  List.mem_cons_of_mem _ (List.mem_map_of_mem (List.mem_range.2 h))

theorem isPlainName_of_mem_named {f : Text × Text} (h : f ∈ t.named) : Path.IsPlainName f.1 := by
  rcases List.mem_cons.1 h with rfl | h
  · exact isPlainName_globalStreamName
  · obtain ⟨core, -, rfl⟩ := List.mem_map.1 h
    exact isPlainName_coreStreamName core

/-- No two files of a timeline have one name. -/
theorem nodup_named (t : Timeline) : (t.named.map Prod.fst).Nodup := by
  have hnames : t.named.map Prod.fst =
      globalStreamName :: (List.range t.cores).map coreStreamName := by
    rw [named, List.map_cons, List.map_map]
    rfl
  rw [hnames, List.nodup_cons]
  constructor
  · intro h
    obtain ⟨core, -, hcore⟩ := List.mem_map.1 h
    exact coreStreamName_ne_globalStreamName core hcore
  · exact List.nodup_range.map fun _ _ h => coreStreamName_inj h

theorem files_eq (t : Timeline) (directory : Text) :
    t.files directory = FileTree.located directory t.named := by
  have hzip : t.coreStreams.zipIdx =
      (List.range t.cores).map fun core => (t.coreStream core, core) := by
    refine List.ext_getElem (by simp [coreStreams]) fun core hcore hcore' => ?_
    simp [coreStreams]
  rw [files, hzip, FileTree.located, named, List.map_cons, List.map_map, List.map_map]
  rfl

theorem actions_eq (t : Timeline) (directory : Text) :
    t.actions directory = .makePath directory :: FileTree.writes directory t.named := by
  rw [actions, files_eq, FileTree.located, List.map_map]
  rfl

theorem length_named (t : Timeline) : t.named.length = t.cores + 1 := by
  simp [named]

theorem saveUnder_never (t : Timeline) (directory : Text) (tree : FileTree) :
    t.saveUnder .never directory tree = t.save directory tree := by
  unfold saveUnder
  rw [FileTree.performAllUnder_never]
  rfl

/-- What comes of saving is what comes of the actions. -/
theorem saveUnder_eq {refusal : FileTree.Refusal} {result : Except FileFault Unit}
    (h : tree.performAllUnder refusal (t.actions directory) = (tree', result)) :
    t.saveUnder refusal directory tree =
      (tree', result.map fun _ => (t.files directory).map Prod.fst) := by
  unfold saveUnder
  rw [h]
  cases result <;> rfl

/-- Some first files of a timeline are written, and all of them if nothing fails. -/
theorem exists_wrote_of_actions {refusal : FileTree.Refusal} (hspares : refusal.SparesFiles)
    {result : Except FileFault Unit}
    (h : tree.performAllUnder refusal (t.actions directory) = (tree', result)) :
    ∃ k ≤ t.named.length, (k = t.named.length ↔ result = .ok ()) ∧
      FileTree.Wrote tree tree' (FileTree.located directory (t.named.take k)) := by
  rw [actions_eq] at h
  rcases hmake : tree.performUnder refusal (.makePath directory) with ⟨next, fault | done⟩
  · rw [FileTree.performAllUnder_cons_of_error hmake] at h
    cases h
    refine ⟨0, Nat.zero_le _, ?_, FileTree.wrote_performUnder_makePath hspares hmake⟩
    rw [length_named]
    simp
  · rw [FileTree.performAllUnder_cons_of_ok hmake] at h
    obtain ⟨k, hk, hall, hwrote⟩ := FileTree.exists_wrote_of_writes hspares
      (fun _ => isPlainName_of_mem_named) t.nodup_named h
    have hmade := FileTree.wrote_performUnder_makePath hspares hmake
    exact ⟨k, hk, hall, hmade.trans_nil hwrote⟩

/-- So they are when it is saved, and then the paths of all of them are answered. -/
theorem exists_wrote_of_saveUnder {refusal : FileTree.Refusal} (hspares : refusal.SparesFiles)
    (t : Timeline) (directory : Text) (tree : FileTree) :
    ∃ k ≤ t.named.length,
      (k = t.named.length ↔
        (t.saveUnder refusal directory tree).2 = .ok ((t.files directory).map Prod.fst)) ∧
      FileTree.Wrote tree (t.saveUnder refusal directory tree).1
        (FileTree.located directory (t.named.take k)) := by
  rcases hactions : tree.performAllUnder refusal (t.actions directory) with ⟨tree', result⟩
  obtain ⟨k, hk, hall, hwrote⟩ := exists_wrote_of_actions hspares hactions
  rw [saveUnder_eq hactions]
  refine ⟨k, hk, ?_, hwrote⟩
  rw [hall]
  cases result <;> simp [Except.map]

/-- A system that breaks nothing off spares all files. -/
theorem sparesFiles_never : FileTree.Refusal.never.SparesFiles := by
  intro tree action tree' fault h
  cases h

theorem paths_of_saveUnder {refusal : FileTree.Refusal}
    (h : (t.saveUnder refusal directory tree).2 = .ok paths) :
    paths = (t.files directory).map Prod.fst := by
  unfold saveUnder at h
  split at h
  · cases h
  · exact (Except.ok.inj h).symm

/-- A timeline that is saved was saved without being broken off. -/
theorem save_of_saveUnder {refusal : FileTree.Refusal}
    (h : t.saveUnder refusal directory tree = (tree', .ok paths)) :
    t.save directory tree = (tree', .ok paths) := by
  rcases hactions : tree.performAllUnder refusal (t.actions directory) with ⟨next, fault | ⟨⟩⟩
  · rw [saveUnder_eq hactions] at h
    cases h
  · rw [saveUnder_eq hactions] at h
    rw [save, FileTree.performAll_of_performAllUnder hactions]
    exact h

/-- Once a timeline is saved, each of its files holds its own stream. -/
theorem readText_of_saveUnder {refusal : FileTree.Refusal}
    (h : t.saveUnder refusal directory tree = (tree', .ok paths)) :
    ∀ f ∈ t.named, tree'.readText (Path.join directory f.1) = .ok f.2 := by
  have hsaved : t.saveUnder .never directory tree = (tree', .ok paths) := by
    rw [saveUnder_never, save_of_saveUnder h]
  obtain ⟨k, -, hall, hwrote⟩ := exists_wrote_of_saveUnder sparesFiles_never t directory tree
  have hpaths := paths_of_saveUnder (congrArg Prod.snd hsaved)
  rw [hsaved] at hall hwrote
  have hk : k = t.named.length := hall.2 (congrArg Except.ok hpaths)
  rw [hk, List.take_length] at hwrote
  intro f hf
  exact hwrote.holds _ (List.mem_map_of_mem hf)

/-- The files of a timeline are the global one and one for every core, in order. -/
theorem files_eq_cons (t : Timeline) (directory : Text) :
    t.files directory = (Path.join directory globalStreamName, t.globalStream) ::
      (List.range t.cores).map fun core =>
        (Path.join directory (coreStreamName core), t.coreStream core) := by
  rw [files_eq, FileTree.located, named, List.map_cons, List.map_map]
  rfl

/-- No two files of a timeline are one file, whatever tree they are in. -/
theorem pairwise_files (t : Timeline) (directory : Text) (tree : FileTree) :
    (t.files directory).Pairwise fun f g =>
      f.1 ≠ g.1 ∧ ∀ loc, tree.locate f.1 = .ok loc → tree.locate g.1 ≠ .ok loc := by
  have hnames : t.named.Pairwise fun f g => f.1 ≠ g.1 := List.pairwise_map.1 t.nodup_named
  rw [files_eq, FileTree.located, List.pairwise_map]
  apply hnames.imp_of_mem
  intro f g hf hg hne
  have hplain := isPlainName_of_mem_named hf
  have hplain' := isPlainName_of_mem_named hg
  refine ⟨?_, fun loc => FileTree.locate_ne_of_ne hplain hplain' hne⟩
  intro hjoin
  have hparts := congrArg Path.parts hjoin
  rw [Path.parts_join hplain, Path.parts_join hplain'] at hparts
  exact hne (List.singleton_inj.1 (List.append_cancel_left hparts))

/-- The file of a core that is not tracked is none of the files of a timeline. -/
theorem locate_ne_of_further {core : Nat} (hcore : t.cores ≤ core) {loc : Location}
    (hlocate : tree.locate (Path.join directory (coreStreamName core)) = .ok loc) :
    ∀ f ∈ t.files directory, tree.locate f.1 ≠ .ok loc := by
  intro f hf
  rw [files_eq] at hf
  obtain ⟨g, hg, rfl⟩ := List.mem_map.1 hf
  have hne : coreStreamName core ≠ g.1 := by
    rcases List.mem_cons.1 hg with rfl | hg
    · exact coreStreamName_ne_globalStreamName core
    · obtain ⟨tracked, htracked, rfl⟩ := List.mem_map.1 hg
      have hlt : tracked < t.cores := List.mem_range.1 htracked
      intro hname
      have heq : core = tracked := coreStreamName_inj hname
      omega
  exact FileTree.locate_ne_of_ne (isPlainName_coreStreamName core)
    (isPlainName_of_mem_named hg) hne hlocate

/-- A timeline is saved into files of its own. Whether or not the system breaks the work off, which
leaves the files as they were then, the files are the global one and those of the cores, in order,
with different paths that lead to different places. If nothing fails, these paths are what is
answered, each of the files holds its own stream and no more, and no other file has changed, those
of further cores included that another run may have left. If anything fails, only some first ones of
the files have been written; those after them and all other files are what they were. -/
theorem save_own_files (refusal : FileTree.Refusal) (hspares : refusal.SparesFiles)
    (t : Timeline) (directory : Text) (tree : FileTree) :
    let files := (Path.join directory globalStreamName, t.globalStream) ::
      (List.range t.cores).map fun core =>
        (Path.join directory (coreStreamName core), t.coreStream core)
    let saved := t.saveUnder refusal directory tree
    (refusal = .never → saved = t.save directory tree) ∧
    (files.Pairwise fun f g =>
      f.1 ≠ g.1 ∧ ∀ loc, saved.1.locate f.1 = .ok loc → saved.1.locate g.1 ≠ .ok loc) ∧
    (∀ paths, saved.2 = .ok paths →
      paths = files.map Prod.fst ∧ FileTree.Wrote tree saved.1 files ∧
      ∀ core, t.cores ≤ core → ∀ loc,
        saved.1.locate (Path.join directory (coreStreamName core)) = .ok loc →
        saved.1.content? loc = tree.content? loc) ∧
    ∀ fault, saved.2 = .error fault →
      ∃ k < files.length, FileTree.Wrote tree saved.1 (files.take k) ∧
        ∀ f ∈ files.drop k, ∀ loc, saved.1.locate f.1 = .ok loc →
          saved.1.content? loc = tree.content? loc := by
  rw [← files_eq_cons]
  intro files saved
  obtain ⟨k, hk, hall, hwrote⟩ := exists_wrote_of_saveUnder hspares t directory tree
  have hlength : files.length = t.named.length := by
    show (t.files directory).length = _
    rw [files_eq, FileTree.located, List.length_map]
  have htake : FileTree.located directory (t.named.take k) = files.take k := by
    show _ = (t.files directory).take k
    rw [files_eq, FileTree.located, FileTree.located, List.map_take]
  rw [htake] at hwrote
  have hpairwise : files.Pairwise fun f g =>
      f.1 ≠ g.1 ∧ ∀ loc, saved.1.locate f.1 = .ok loc → saved.1.locate g.1 ≠ .ok loc :=
    pairwise_files t directory saved.1
  refine ⟨?_, hpairwise, fun paths hpaths => ?_, fun fault hfault => ?_⟩
  · intro hnever
    show t.saveUnder refusal directory tree = _
    rw [hnever, saveUnder_never]
  · have heq : paths = files.map Prod.fst := paths_of_saveUnder hpaths
    have hlast : k = files.length := hlength ▸ hall.2 (heq ▸ hpaths)
    rw [hlast, List.take_length] at hwrote
    refine ⟨heq, hwrote, fun core hcore loc hlocate => ?_⟩
    exact hwrote.others loc (locate_ne_of_further hcore hlocate)
  · have hfailed : k ≠ t.named.length := by
      intro heq
      have hok : saved.2 = .ok (files.map Prod.fst) := hall.1 heq
      rw [hfault] at hok
      cases hok
    refine ⟨k, by omega, hwrote, fun f hf loc hlocate => ?_⟩
    -- a file that is written leads elsewhere
    rw [← List.take_append_drop k files, List.pairwise_append] at hpairwise
    apply hwrote.others loc
    intro g hg hlocate'
    exact (hpairwise.2.2 g hg f hf).2 loc hlocate' hlocate

/-- A system whose disk has no space left for what a path names. -/
def noSpaceFor (full : Text) : FileTree.Refusal := fun tree action =>
  match action with
  | .write path _ =>
    if path = full then some (tree, .other (Text.of "No space left on device (os error 28)"))
    else none
  | .makePath _ => none

theorem sparesFiles_noSpaceFor (full : Text) : (noSpaceFor full).SparesFiles := by
  intro tree action tree' fault h
  unfold noSpaceFor at h
  split at h
  · split at h
    · cases h
      exact .refl tree
    · cases h
  · cases h

/-- A directory with the files of a longer log of three cores. -/
def leftOver : FileTree where
  home := [Text.of "w"]
  nodes := Assoc.ofList <|
    ([Text.of "w", Text.of "out"], .directory) ::
      (globalStreamName :: (List.range 3).map coreStreamName).map fun name =>
        ([Text.of "w", Text.of "out", name], .file (.text (Text.of "riscv: hart:1, addi\n\n")))

/-- If the disk is full before the second core's stream, the global stream and that of the first
core have taken the place of the longer ones, and the other files are as they were. -/
theorem save_own_files_of_noSpace :
    let t : Timeline := ⟨2, #[.trace (Text.of "riscv: hart:1,") (some 0)]⟩
    let refusal := noSpaceFor (Text.of "out/sanitized_log_1.log")
    let saved := t.saveUnder refusal (Text.of "out") leftOver
    refusal.SparesFiles ∧
      saved.2 = .error (.other (Text.of "No space left on device (os error 28)")) ∧
      (∃ k < 3, FileTree.Wrote leftOver saved.1 ((t.files (Text.of "out")).take k)) ∧
      saved.1.readText (Text.of "out/sanitized_log_0.log") =
        .ok (Text.of "riscv: hart:1,\n\n") ∧
      saved.1.readText (Text.of "out/sanitized_log_1.log") =
        .ok (Text.of "riscv: hart:1, addi\n\n") := by
  intro t refusal saved
  have hspares : refusal.SparesFiles := sparesFiles_noSpaceFor _
  have hfailed : saved.2 = .error (.other (Text.of "No space left on device (os error 28)")) := by
    decide +kernel
  obtain ⟨-, -, -, herror⟩ := save_own_files refusal hspares t (Text.of "out") leftOver
  obtain ⟨k, hk, hwrote, -⟩ := herror _ hfailed
  refine ⟨hspares, hfailed, ⟨k, hk, ?_⟩, by decide +kernel, by decide +kernel⟩
  rw [files_eq_cons]
  exact hwrote

end Timeline

end HartTimeline
