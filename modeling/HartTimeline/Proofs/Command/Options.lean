import HartTimeline.Proofs.Command.Prepare
import HartTimeline.Proofs.Options

/-!
# Which options an invocation has

Options come from three layers: the defaults, a configuration if the invocation names one, and the
arguments. Each option is decided by the last layer that gives it.

Main statement: `later_layer_wins`.
-/

namespace HartTimeline

namespace Options

variable {l : Layer}

/-- Above the defaults a layer leaves no core to track only if it asks for that. -/
theorem cores_above_ne_zero_iff : (l.above {}).cores ≠ 0 ↔ l.cores? ≠ some 0 := by
  rw [Layer.above]
  cases l.cores? <;> simp

/-- A configuration gives its layer above the defaults, unless the layer asks for zero cores. -/
theorem ofToml_eq_ok_iff_of_isWritten {text : Text} {base : Options} (h : l.IsWritten text) :
    ofToml text = .ok base ↔ l.cores? ≠ some 0 ∧ base = l.above {} := by
  rw [ofToml_of_isWritten h, check_eq_ok_iff, cores_above_ne_zero_iff]

end Options

namespace Invocation

variable {inv : Invocation} {read : FileReader} {given : Options.Layer} {options : Options}
  {path text : Text}

/-! ## With a configuration and without one -/

theorem options_of_no_config (hconfig : inv.config? = none) :
    inv.options read = (Options.override {} inv).check.mapError .options := by
  rw [Invocation.options, hconfig]

theorem options_of_refused {fault : OptionsFault} (hconfig : inv.config? = some path)
    (hread : read path = .ok text) (htoml : Options.ofToml text = .error fault) :
    inv.options read = .error (.config (.refused path fault)) := by
  simp only [Invocation.options, hconfig, Options.ofFile, hread, htoml, Except.mapError]

/-- The arguments are applied to what the configuration gives. -/
theorem options_eq_ok_iff_of_config (hconfig : inv.config? = some path)
    (hread : read path = .ok text) :
    inv.options read = .ok options ↔
      ∃ base, Options.ofToml text = .ok base ∧
        (base.override inv).check.mapError CommandFault.options = .ok options := by
  cases htoml : Options.ofToml text with
  | error fault => simp [options_of_refused hconfig hread htoml]
  | ok base => simp [Invocation.options, hconfig, Options.ofFile, hread, htoml, Except.mapError]

/-! ## Options one by one -/

/-- What the arguments give and a layer below them, above the defaults. -/
theorem mapError_check_override_eq_ok_iff (hcores : given.cores? ≠ some 0) :
    ((given.above {}).override inv).check.mapError CommandFault.options = .ok options ↔
      inv.cores? ≠ some 0 ∧
        options.cores = inv.cores?.getD (given.cores?.getD 4) ∧
        options.outputDir = inv.outputDir?.getD (given.outputDir?.getD (Text.of ".")) ∧
        options.skipBlank = (inv.skipBlank || given.skipBlank?.getD false) := by
  rw [mapError_eq_ok_iff, Options.check_eq_ok_iff,
    Options.cores_override_ne_zero_iff (Options.cores_above_ne_zero_iff.2 hcores)]
  refine and_congr_right fun _ => ?_
  obtain ⟨cores, skipBlank, outputDir⟩ := options
  rw [Options.override, Options.Layer.above, Options.mk.injEq, Bool.or_comm]
  tauto

/-- The last layer that gives an option decides about it, and no layer gets a zero through. Every
layer has a configuration, whatever it gives. With that or with none there are options exactly if no
layer asks for zero cores, and they are then those of the arguments, or else those of the
configuration, or else the defaults; blank lines are skipped if either asks for it. A configuration
with a further key, in the table or beside it, is refused whatever the arguments are. -/
theorem later_layer_wins (given : Options.Layer)
    (hfits : ∀ n ∈ given.cores?, (n : Int) ≤ Text.int64Max) :
    (∃ text, given.IsWritten text) ∧
      ∀ (inv : Invocation) (read : FileReader),
        (inv.config? = none → ∀ options, inv.options read = .ok options ↔
          inv.cores? ≠ some 0 ∧
            options.cores = inv.cores?.getD 4 ∧
            options.outputDir = inv.outputDir?.getD (Text.of ".") ∧
            options.skipBlank = inv.skipBlank) ∧
        ∀ path text, inv.config? = some path → read path = .ok text →
          (given.IsWritten text → ∀ options, inv.options read = .ok options ↔
            (given.cores? ≠ some 0 ∧ inv.cores? ≠ some 0) ∧
              options.cores = inv.cores?.getD (given.cores?.getD 4) ∧
              options.outputDir = inv.outputDir?.getD (given.outputDir?.getD (Text.of ".")) ∧
              options.skipBlank = (inv.skipBlank || given.skipBlank?.getD false)) ∧
          (Options.HasFurtherKey text →
            inv.options read = .error (.config (.refused path .malformed))) := by
  refine ⟨Options.exists_isWritten hfits, fun inv read => ⟨?_, ?_⟩⟩
  · intro hconfig options
    -- no configuration is a layer that gives nothing
    have hlayer : Options.Layer.above ⟨none, none, none⟩ {} = {} := rfl
    rw [options_of_no_config hconfig, ← hlayer, mapError_check_override_eq_ok_iff (by simp)]
    simp
  · intro path text hconfig hread
    refine ⟨fun hwritten options => ?_, fun hfurther => ?_⟩
    · rw [options_eq_ok_iff_of_config hconfig hread, and_assoc]
      simp only [Options.ofToml_eq_ok_iff_of_isWritten hwritten]
      constructor
      · rintro ⟨base, ⟨hcores, rfl⟩, hbase⟩
        exact ⟨hcores, (mapError_check_override_eq_ok_iff hcores).1 hbase⟩
      · rintro ⟨hcores, hparts⟩
        exact ⟨_, ⟨hcores, rfl⟩, (mapError_check_override_eq_ok_iff hcores).2 hparts⟩
    · exact options_of_refused hconfig hread (Options.ofToml_of_hasFurtherKey hfurther)

/-- A layer that gives every option, with a quote in the name of the directory. -/
def quotedDirectory : Options.Layer :=
  ⟨some 2, some true, some (Text.of "a\"b")⟩

/-- Lines with two of its options, in which the quote is written by its code point. -/
def quotedDirectoryLines : Text :=
  Text.of "[sanitizer]\r\noutput_dir = \"a\\u0022b\"\ncores = 2 # two\n"

theorem spellsLines_quotedDirectoryLines :
    Toml.SpellsLines [.table ⟨[], Text.of "sanitizer"⟩,
      .assign ⟨[], Text.of "output_dir"⟩ (.string (Text.of "a\"b")),
      .assign ⟨[], Text.of "cores"⟩ (.integer 2)] quotedDirectoryLines := by
  have hspace := Toml.isSpaces_space
  have hquote : Toml.Escapes '"' ['u', '0', '0', '2', '2'] :=
    .four rfl (List.all_eq_true.1 rfl) rfl
  have hdirectory := Toml.Spells.plain (c := 'a') rfl (by decide) (by decide)
    (.escape hquote (.plain (c := 'b') rfl (by decide) (by decide) .nil))
  have hremark : Toml.IsTrailer ([' '] ++ '#' :: Text.of " two") :=
    .comment hspace (List.all_eq_true.1 rfl)
  have hheader := Toml.SpellsStatement.table (k := ⟨[], Text.of "sanitizer"⟩) Toml.isSpaces_nil
    (Options.spellsNames_self (by decide) Toml.isSpaces_nil) (by decide)
  have hfirst := Toml.SpellsStatement.assign (k := ⟨[], Text.of "output_dir"⟩)
    (Options.spellsNames_self (by decide) hspace) (by decide) hspace (.string hdirectory)
  have hsecond := Toml.SpellsStatement.assign (k := ⟨[], Text.of "cores"⟩)
    (Options.spellsNames_self (by decide) hspace) (by decide) hspace (.integer (n := 2) (by decide))
  convert Toml.SpellsLines.statement Toml.isSpaces_nil hheader (.blank Toml.isSpaces_nil)
    (Or.inr rfl) (.statement Toml.isSpaces_nil hfirst (.blank Toml.isSpaces_nil) (Or.inl rfl)
      (.statement Toml.isSpaces_nil hsecond hremark (Or.inl rfl) .nil)) using 1
  · rfl
  · decide +kernel

/-- The lines with the last option on a line of its own. -/
def quotedDirectoryText : Text :=
  quotedDirectoryLines ++ Text.of "skip_blank_lines = true"

theorem isWritten_quotedDirectoryText : quotedDirectory.IsWritten quotedDirectoryText := by
  have hspace := Toml.isSpaces_space
  have hlast := Toml.SpellsStatement.assign (k := ⟨[], Text.of "skip_blank_lines"⟩)
    (Options.spellsNames_self (by decide) hspace) (by decide) hspace .yes
  refine ⟨[.outputDir (Text.of "a\"b"), .cores 2, .skipBlank true], ?_, ?_⟩
  · exact (List.Perm.swap ..).trans (.cons _ (.swap ..))
  · convert Toml.SpellsDocument.statement spellsLines_quotedDirectoryLines Toml.isSpaces_nil hlast
      (.blank Toml.isSpaces_nil) using 1
    · rfl
    · decide +kernel

/-- The lines with a further key. -/
def furtherKeyText : Text :=
  quotedDirectoryLines ++ Text.of "core = 3"

theorem hasFurtherKey_furtherKeyText : Options.HasFurtherKey furtherKeyText := by
  have hspace := Toml.isSpaces_space
  refine ⟨_, quotedDirectoryLines, [], Text.of "core" ++ [' '] ++ ['='], Text.of " 3", _, ?_,
    spellsLines_quotedDirectoryLines, Toml.isSpaces_nil,
    .entry (.last (.bare (by decide) (List.all_eq_true.1 rfl)) hspace), Or.inr ?_⟩
  · decide +kernel
  · decide

/-- An invocation that names a configuration and sets the number of cores. -/
def manyCores : Invocation where
  log := Text.of "log"
  outputDir? := none
  cores? := some 8
  skipBlank := false
  config? := some (Text.of "toml")
  summary := false
  format := .text
  successMarker? := none
  transcript? := none
  debug := false

/-- The cores are those of the arguments, and the other options those of the configuration if there
is one. -/
theorem later_layer_wins_of_quotedDirectory :
    manyCores.options (fun _ => .ok quotedDirectoryText) = .ok ⟨8, true, Text.of "a\"b"⟩ ∧
      manyCores.options (fun _ => .ok furtherKeyText) =
        .error (.config (.refused (Text.of "toml") .malformed)) ∧
      { manyCores with config? := none }.options (fun _ => .ok []) =
        .ok ⟨8, false, Text.of "."⟩ := by
  obtain ⟨-, hlayers⟩ := later_layer_wins quotedDirectory (by rintro n ⟨⟩; decide)
  refine ⟨?_, ?_, ?_⟩
  · obtain ⟨-, hconfig⟩ := hlayers manyCores fun _ => .ok quotedDirectoryText
    obtain ⟨hoptions, -⟩ := hconfig _ _ rfl rfl
    exact (hoptions isWritten_quotedDirectoryText _).2 ⟨⟨by decide, by decide⟩, rfl, rfl, rfl⟩
  · obtain ⟨-, hconfig⟩ := hlayers manyCores fun _ => .ok furtherKeyText
    obtain ⟨-, hrefused⟩ := hconfig _ _ rfl rfl
    exact hrefused hasFurtherKey_furtherKeyText
  · obtain ⟨hoptions, -⟩ := hlayers { manyCores with config? := none } fun _ => .ok []
    exact (hoptions rfl _).2 ⟨by decide, rfl, rfl, rfl⟩

end Invocation

end HartTimeline
