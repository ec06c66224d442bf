import HartTimeline.Line
import HartTimeline.Proofs.Text.Spacing

/-!
# The grammar of lines

A register line is spread from the names and values of its registers, and any line that is spread
from an even number of words is one, unless it begins like a trace line. What a line gives is told
here by the ways to write it; which words a reader finds in it does not come into it.

Main statement: `Line.ofText_grammar`.
-/

namespace HartTimeline.Line

variable {α : Type}

/-- A trace line begins with a letter. -/
theorem head?_of_isTrace {text : Text} (h : isTrace text = true) : text.head? = some 'r' := by
  obtain ⟨rest, rfl⟩ := List.isPrefixOf_iff_prefix.1 h
  simp [traceStart, Text.of]

/-! ## Words in pairs -/

/-- An odd list cannot be taken in pairs. -/
theorem pairUp?_eq_none_iff (ws : List α) : pairUp? ws = none ↔ ws.length % 2 = 1 := by
  induction ws using pairUp?.induct with
  | case1 => simp [pairUp?]
  | case2 => simp [pairUp?]
  | case3 a b rest ih => simp [pairUp?, ih]; omega

/-- Pairs are taken from the list and nothing else, none left out. -/
theorem pairUp?_eq_some_iff {ws : List α} {ps : List (α × α)} :
    pairUp? ws = some ps ↔ ws = ps.flatMap fun p => [p.1, p.2] := by
  induction ws using pairUp?.induct generalizing ps with
  | case1 => cases ps <;> simp [pairUp?]
  | case2 a => cases ps <;> simp [pairUp?]
  | case3 a b rest ih =>
    cases ps with
    | nil => simp [pairUp?]
    | cons p ps =>
      obtain ⟨x, y⟩ := p
      simp only [pairUp?, Option.map_eq_some_iff, List.cons.injEq, List.flatMap_cons,
        List.cons_append, List.nil_append, Prod.mk.injEq]
      constructor
      · rintro ⟨qs, hqs, ⟨rfl, rfl⟩, rfl⟩
        exact ⟨rfl, rfl, ih.1 hqs⟩
      · rintro ⟨rfl, rfl, hrest⟩
        exact ⟨ps, ih.2 hrest, ⟨rfl, rfl⟩, rfl⟩

/-! ## Register lines -/

/-- A text gives registers if it is spread from their names and values, in order. -/
def Gives (registers : List Register) (text : Text) : Prop :=
  Text.IsSpread (registers.flatMap fun r => [r.1, r.2]) text

/-- A text gives no register at all. -/
def GivesNone (text : Text) : Prop :=
  ∀ registers, registers ≠ [] → ¬Gives registers text

variable {skipBlank : Bool} {text : Text} {registers : List Register}

theorem pairUp?_words_eq_some_iff : pairUp? (Text.words text) = some registers ↔
    Gives registers text := by
  unfold Gives
  rw [pairUp?_eq_some_iff, Text.words_eq_iff]

/-- A text cannot give one list of registers and another one. -/
theorem Gives.unique {registers' : List Register} (h : Gives registers text)
    (h' : Gives registers' text) : registers = registers' := by
  rw [← pairUp?_words_eq_some_iff] at h h'
  exact Option.some.inj (h.symm.trans h')

theorem gives_nil_iff : Gives [] text ↔ Text.runCount text = 0 := by
  rw [← Text.length_words, List.length_eq_zero_iff]
  exact Text.words_eq_iff.symm

/-- A text gives no register if its words are no pairs, or if it has none. -/
theorem givesNone_iff :
    GivesNone text ↔ Text.runCount text % 2 = 1 ∨ Text.runCount text = 0 := by
  rw [← gives_nil_iff, ← Text.length_words, ← pairUp?_eq_none_iff]
  constructor
  · intro hnone
    cases hpairs : pairUp? (Text.words text) with
    | none => exact Or.inl rfl
    | some registers =>
      have hgives := pairUp?_words_eq_some_iff.1 hpairs
      by_cases hnil : registers = []
      · exact Or.inr (hnil ▸ hgives)
      · exact absurd hgives (hnone registers hnil)
  · intro hcases registers hne hgives
    rcases hcases with hpairs | hnil
    · rw [pairUp?_words_eq_some_iff.2 hgives] at hpairs
      cases hpairs
    · exact hne (hgives.unique hnil)

/-! ## Kinds of lines -/

/-- What a line is, by what it gives: a trace line or none, and then with one register, with several
or with none. -/
inductive HasKind (skipBlank : Bool) (text : Text) : Except HartTokenFault Line → Prop
  /-- A trace line without a hart number. -/
  | faulty {fault : HartTokenFault} (start : traceStart <+: text)
      (token : traceCore text = .error fault) : HasKind skipBlank text (.error fault)
  /-- A trace line of a core, or of none. -/
  | trace {core : Int} (start : traceStart <+: text) (token : traceCore text = .ok core) :
      HasKind skipBlank text (.ok (trace text core))
  /-- A line with one register. -/
  | single {name value : Text} (plain : ¬traceStart <+: text)
      (gives : Gives [(name, value)] text) : HasKind skipBlank text (.ok (single name value))
  /-- A line with several registers. -/
  | multi {registers : List Register} (plain : ¬traceStart <+: text)
      (several : 2 ≤ registers.length) (gives : Gives registers text) :
      HasKind skipBlank text (.ok (multi registers))
  /-- A line without anything that is skipped. -/
  | blank (plain : ¬traceStart <+: text) (bare : GivesNone text)
      (empty : Text.runCount text = 0) (skip : skipBlank = true) :
      HasKind skipBlank text (.ok blank)
  /-- A line without registers that is not skipped. -/
  | malformed (plain : ¬traceStart <+: text) (bare : GivesNone text)
      (kept : ¬(Text.runCount text = 0 ∧ skipBlank = true)) :
      HasKind skipBlank text (.ok (malformed (Text.runCount text)))

theorem isTrace_eq_true_iff : isTrace text = true ↔ traceStart <+: text :=
  List.isPrefixOf_iff_prefix

theorem ofText_of_trace (h : traceStart <+: text) :
    ofText skipBlank text = (traceCore text).map (trace text) :=
  if_pos (isTrace_eq_true_iff.2 h)

theorem ofText_of_plain (h : ¬traceStart <+: text) :
    ofText skipBlank text = .ok (ofWords skipBlank (Text.words text)) :=
  if_neg fun htrace => h (isTrace_eq_true_iff.1 htrace)

theorem ofWords_of_several (h : 2 ≤ registers.length) (hgives : Gives registers text) :
    ofWords skipBlank (Text.words text) = multi registers := by
  unfold ofWords
  rw [pairUp?_words_eq_some_iff.2 hgives]
  rcases registers with _ | ⟨first, _ | ⟨second, rest⟩⟩
  · cases h
  · simp at h
  · rfl

theorem ofWords_of_givesNone (h : GivesNone text) :
    ofWords skipBlank (Text.words text) =
      if Text.runCount text = 0 ∧ skipBlank = true then blank
      else malformed (Text.runCount text) := by
  unfold ofWords
  rcases givesNone_iff.1 h with hodd | hzero
  · have hpairs : pairUp? (Text.words text) = none := by
      rw [pairUp?_eq_none_iff, Text.length_words, hodd]
    have hkept : ¬(Text.runCount text = 0 ∧ skipBlank = true) := by
      intro hboth
      omega
    rw [hpairs, if_neg hkept, ← Text.length_words]
  · rw [pairUp?_words_eq_some_iff.2 (gives_nil_iff.2 hzero), hzero]
    cases skipBlank <;> rfl

/-- Every line has a kind. -/
theorem hasKind_ofText (skipBlank : Bool) (text : Text) :
    HasKind skipBlank text (ofText skipBlank text) := by
  by_cases hstart : traceStart <+: text
  · rw [ofText_of_trace hstart]
    cases htoken : traceCore text with
    | error fault => exact .faulty hstart htoken
    | ok core => exact .trace hstart htoken
  · rw [ofText_of_plain hstart]
    by_cases hnone : GivesNone text
    · rw [ofWords_of_givesNone hnone]
      split
      · rename_i hskipped
        exact .blank hstart hnone hskipped.1 hskipped.2
      · rename_i hkept
        exact .malformed hstart hnone hkept
    · obtain ⟨registers, hne, hgives⟩ : ∃ registers, registers ≠ [] ∧ Gives registers text := by
        simpa [GivesNone] using hnone
      rcases registers with _ | ⟨first, _ | ⟨second, rest⟩⟩
      · exact absurd rfl hne
      · rw [ofWords, pairUp?_words_eq_some_iff.2 hgives]
        exact .single hstart hgives
      · have hseveral : 2 ≤ (first :: second :: rest).length := Nat.le_add_left 2 _
        rw [ofWords_of_several hseveral hgives]
        exact .multi hstart hseveral hgives

/-- And it has no other. -/
theorem ofText_eq_iff {kind : Except HartTokenFault Line} :
    ofText skipBlank text = kind ↔ HasKind skipBlank text kind := by
  constructor
  · intro h
    rw [← h]
    exact hasKind_ofText skipBlank text
  · intro h
    cases h with
    | faulty start token =>
      rw [ofText_of_trace start, token]
      rfl
    | trace start token =>
      rw [ofText_of_trace start, token]
      rfl
    | single plain gives =>
      rw [ofText_of_plain plain, ofWords, pairUp?_words_eq_some_iff.2 gives]
    | multi plain several gives => rw [ofText_of_plain plain, ofWords_of_several several gives]
    | blank plain bare empty skip =>
      rw [ofText_of_plain plain, ofWords_of_givesNone bare, if_pos ⟨empty, skip⟩]
    | malformed plain bare kept =>
      rw [ofText_of_plain plain, ofWords_of_givesNone bare, if_neg kept]

/-- A line is what it is written as. It has the kind of a line with one register, or with several,
exactly if it does not begin like a trace line and gives this one register, or these. If it gives
none, which is to say that its runs without white space are odd in number or that there are none of
them, it is malformed with that number; where blank lines are skipped, a line without them is blank.
A line that begins like a trace line is one, with its text as it stands, or has a fault in its hart
token, whatever words it is made of. -/
theorem ofText_grammar (skipBlank : Bool) (text : Text) :
    (∀ name value, ofText skipBlank text = .ok (single name value) ↔
      ¬Text.of "riscv" <+: text ∧ Gives [(name, value)] text) ∧
    (∀ registers, ofText skipBlank text = .ok (multi registers) ↔
      ¬Text.of "riscv" <+: text ∧ 2 ≤ registers.length ∧ Gives registers text) ∧
    (∀ runs, ofText skipBlank text = .ok (malformed runs) ↔
      ¬Text.of "riscv" <+: text ∧ GivesNone text ∧ runs = Text.runCount text ∧
        ¬(runs = 0 ∧ skipBlank = true)) ∧
    (ofText skipBlank text = .ok blank ↔
      ¬Text.of "riscv" <+: text ∧ GivesNone text ∧ Text.runCount text = 0 ∧ skipBlank = true) ∧
    (GivesNone text ↔ Text.runCount text % 2 = 1 ∨ Text.runCount text = 0) ∧
    (∀ copied core, ofText skipBlank text = .ok (trace copied core) ↔
      Text.of "riscv" <+: text ∧ copied = text ∧ traceCore text = .ok core) ∧
    ∀ fault, ofText skipBlank text = .error fault ↔
      Text.of "riscv" <+: text ∧ traceCore text = .error fault := by
  refine ⟨fun name value => ?_, fun registers => ?_, fun runs => ?_, ?_, givesNone_iff,
    fun copied core => ?_, fun fault => ?_⟩ <;> rw [ofText_eq_iff]
  · constructor
    · intro h
      cases h with
      | single plain gives => exact ⟨plain, gives⟩
    · intro ⟨plain, gives⟩
      exact .single plain gives
  · constructor
    · intro h
      cases h with
      | multi plain several gives => exact ⟨plain, several, gives⟩
    · intro ⟨plain, several, gives⟩
      exact .multi plain several gives
  · constructor
    · intro h
      cases h with
      | malformed plain bare kept => exact ⟨plain, bare, rfl, kept⟩
    · intro ⟨plain, bare, hruns, kept⟩
      rw [hruns] at kept ⊢
      exact .malformed plain bare kept
  · constructor
    · intro h
      cases h with
      | blank plain bare empty skip => exact ⟨plain, bare, empty, skip⟩
    · intro ⟨plain, bare, empty, skip⟩
      exact .blank plain bare empty skip
  · constructor
    · intro h
      cases h with
      | trace start token => exact ⟨start, rfl, token⟩
    · intro ⟨start, hcopied, token⟩
      rw [hcopied]
      exact .trace start token
  · constructor
    · intro h
      cases h with
      | faulty start token => exact ⟨start, token⟩
    · intro ⟨start, token⟩
      exact .faulty start token

/-- A wide blank before it makes the start of a trace line a name. -/
example :
    ofText true (Text.of "\u2003riscv 1\u00a0pc\t2 ") =
      .ok (multi [(Text.of "riscv", Text.of "1"), (Text.of "pc", Text.of "2")]) := by
  decide +kernel

end HartTimeline.Line
