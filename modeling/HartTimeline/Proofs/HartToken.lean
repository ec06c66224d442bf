import HartTimeline.HartToken
import HartTimeline.Proofs.Text.Numeral
import HartTimeline.Proofs.Text.Spacing

/-!
# The grammar of hart tokens

A trace line names its hart in its second word: a label, a colon, a numeral and one more character,
after which another colon may follow. Every other line has exactly one fault, and which one it is
can be told from the place where it first leaves this form.

Main statement: `traceCore_grammar`.
-/

namespace HartTimeline

open Text (Denotes IsSpread int64Min int64Max)

/-! ## Hart numbers -/

section

variable {numeral : Text} {hart : Int}

theorem hartCore_of_denotes (h : Denotes numeral hart) (hlow : int64Min < hart)
    (hhigh : hart ≤ int64Max) : hartCore numeral = .ok (hart - 1) := by
  have hread : Text.signed64? numeral = some hart :=
    Text.signed64?_eq_some_iff.2 ⟨h, Int.le_of_lt hlow, hhigh⟩
  have hmore : hart ≠ int64Min := by omega
  rw [hartCore, hread]
  exact if_neg hmore

theorem hartCore_of_denotes_least (h : Denotes numeral int64Min) :
    hartCore numeral = .error .noCore := by
  have hread : Text.signed64? numeral = some int64Min :=
    Text.signed64?_eq_some_iff.2 ⟨h, by decide, by decide⟩
  rw [hartCore, hread]
  exact if_pos rfl

theorem hartCore_of_beyond (h : ∀ hart, Denotes numeral hart → hart < int64Min ∨ int64Max < hart) :
    hartCore numeral = .error .notNumeric := by
  rw [hartCore, Text.signed64?_eq_none_iff.2 h]

/-- A numeral denotes a number with a core, or the least of all, or none that is a hart number. -/
theorem denotes_cases (numeral : Text) :
    (∃ hart, Denotes numeral hart ∧ int64Min < hart ∧ hart ≤ int64Max) ∨
      Denotes numeral int64Min ∨
      ∀ hart, Denotes numeral hart → hart < int64Min ∨ int64Max < hart := by
  cases hread : Text.signed64? numeral with
  | none => exact Or.inr (Or.inr (Text.signed64?_eq_none_iff.1 hread))
  | some hart =>
    obtain ⟨hdenotes, hlow, hhigh⟩ := Text.signed64?_eq_some_iff.1 hread
    by_cases hleast : hart = int64Min
    · rw [hleast] at hdenotes
      exact Or.inr (Or.inl hdenotes)
    · exact Or.inl ⟨hart, hdenotes, by omega, hhigh⟩

end

/-! ## Tokens -/

/-- What follows a segment: nothing, or the next colon. -/
def AtColon (rest : Text) : Prop :=
  rest = [] ∨ ∃ more, rest = ':' :: more

/-- A token holds a numeral if it is a label, a colon, the numeral and one more character, up to the
end or the next colon. -/
def HoldsNumeral (token numeral : Text) : Prop :=
  ∃ label sep rest, token = label ++ ':' :: (numeral ++ sep :: rest) ∧
    ':' ∉ label ∧ ':' ∉ numeral ∧ sep ≠ ':' ∧ AtColon rest

/-- A token holds nothing if its first colon is followed by the end or by the next colon. -/
def HoldsNothing (token : Text) : Prop :=
  ∃ label rest, token = label ++ ':' :: rest ∧ ':' ∉ label ∧ AtColon rest

section

variable {token label segment rest numeral : Text}

/-- Up to the next colon or the end, a text is a segment. -/
theorem exists_segment (t : Text) : ∃ segment rest, t = segment ++ rest ∧ ':' ∉ segment ∧
    AtColon rest := by
  by_cases hcolon : ':' ∈ t
  · obtain ⟨segment, more, ht, hsegment⟩ := List.eq_append_cons_of_mem hcolon
    exact ⟨segment, ':' :: more, ht, hsegment, Or.inr ⟨more, rfl⟩⟩
  · exact ⟨t, [], (List.append_nil t).symm, hcolon, Or.inl rfl⟩

/-- The second piece between colons is the segment after the first one. -/
theorem splitOn_segment (hlabel : ':' ∉ label) (hsegment : ':' ∉ segment) (hrest : AtColon rest) :
    ((label ++ ':' :: (segment ++ rest)).splitOn ':')[1]? = some segment := by
  have hhead : ((segment ++ rest).splitOn ':').head? = some segment := by
    rcases hrest with rfl | ⟨more, rfl⟩
    · rw [List.append_nil, List.splitOn_eq_singleton hsegment]
      rfl
    · rw [List.splitOn_append_cons_self, List.splitOn_eq_singleton hsegment]
      rfl
  rw [List.splitOn_append_cons_self, List.splitOn_eq_singleton hlabel, List.singleton_append,
    List.getElem?_cons_succ, ← List.head?_eq_getElem?, hhead]

theorem tokenCore_of_not_mem (h : ':' ∉ token) :
    tokenCore token = .error (.missingSegment token) := by
  unfold tokenCore
  rw [List.splitOn_eq_singleton h]
  rfl

theorem tokenCore_of_holdsNothing (h : HoldsNothing token) :
    tokenCore token = .error (.emptySegment token) := by
  obtain ⟨label, rest, htoken, hlabel, hrest⟩ := h
  have hsegment := splitOn_segment hlabel List.not_mem_nil hrest
  rw [List.nil_append, ← htoken] at hsegment
  unfold tokenCore
  rw [hsegment]

theorem tokenCore_of_holdsNumeral (h : HoldsNumeral token numeral) :
    tokenCore token = (hartCore numeral).mapError (HartTokenFault.ofNumber numeral) := by
  obtain ⟨label, sep, rest, htoken, hlabel, hnumeral, hsep, hrest⟩ := h
  have hcolon : ':' ∉ numeral ++ [sep] := by
    rw [List.mem_append, List.mem_singleton]
    exact not_or.2 ⟨hnumeral, hsep.symm⟩
  have hsegment := splitOn_segment hlabel hcolon hrest
  rw [List.append_assoc, List.singleton_append, ← htoken] at hsegment
  obtain ⟨c, more, hcons⟩ : ∃ c more, numeral ++ [sep] = c :: more :=
    List.exists_cons_of_ne_nil (by simp)
  have hdrop : (c :: more).dropLast = numeral := by rw [← hcons, List.dropLast_concat]
  unfold tokenCore
  rw [hsegment, hcons]
  show (hartCore (c :: more).dropLast).mapError (HartTokenFault.ofNumber (c :: more).dropLast) = _
  rw [hdrop]

/-- A token without a colon holds no segment; any other holds a numeral or nothing. -/
theorem holds_cases (token : Text) :
    ':' ∉ token ∨ HoldsNothing token ∨ ∃ numeral, HoldsNumeral token numeral := by
  by_cases hcolon : ':' ∈ token
  · obtain ⟨label, after, rfl, hlabel⟩ := List.eq_append_cons_of_mem hcolon
    obtain ⟨segment, rest, rfl, hsegment, hrest⟩ := exists_segment after
    rcases List.eq_nil_or_concat' segment with rfl | ⟨numeral, sep, rfl⟩
    · exact Or.inr (Or.inl ⟨label, rest, rfl, hlabel, hrest⟩)
    · rw [List.mem_append, List.mem_singleton, not_or] at hsegment
      refine Or.inr (Or.inr ⟨numeral, label, sep, rest, ?_, hlabel, hsegment.1,
        Ne.symm hsegment.2, hrest⟩)
      rw [List.append_assoc, List.singleton_append]
  · exact Or.inl hcolon

/-- What a token names: a core, or the fault for which it names none. -/
inductive TokenNames (token : Text) : Except HartTokenFault Int → Prop
  /-- A hart number that has a core. -/
  | core {numeral : Text} {hart : Int} (holds : HoldsNumeral token numeral)
      (denotes : Denotes numeral hart) (low : int64Min < hart) (high : hart ≤ int64Max) :
      TokenNames token (.ok (hart - 1))
  /-- The hart number that has none. -/
  | noCore {numeral : Text} (holds : HoldsNumeral token numeral)
      (denotes : Denotes numeral int64Min) : TokenNames token (.error (.noCore numeral))
  /-- What is no hart number. -/
  | notNumeric {numeral : Text} (holds : HoldsNumeral token numeral)
      (beyond : ∀ hart, Denotes numeral hart → hart < int64Min ∨ int64Max < hart) :
      TokenNames token (.error (.notNumeric numeral))
  /-- Nothing where a number should stand. -/
  | emptySegment (holds : HoldsNothing token) : TokenNames token (.error (.emptySegment token))
  /-- No place for a number. -/
  | missingSegment (colon : ':' ∉ token) : TokenNames token (.error (.missingSegment token))

/-- Every token names a core or has a fault. -/
theorem tokenNames_tokenCore (token : Text) : TokenNames token (tokenCore token) := by
  rcases holds_cases token with hcolon | hnothing | ⟨numeral, holds⟩
  · rw [tokenCore_of_not_mem hcolon]
    exact .missingSegment hcolon
  · rw [tokenCore_of_holdsNothing hnothing]
    exact .emptySegment hnothing
  · rw [tokenCore_of_holdsNumeral holds]
    rcases denotes_cases numeral with ⟨hart, denotes, low, high⟩ | denotes | beyond
    · rw [hartCore_of_denotes denotes low high]
      exact .core holds denotes low high
    · rw [hartCore_of_denotes_least denotes]
      exact .noCore holds denotes
    · rw [hartCore_of_beyond beyond]
      exact .notNumeric holds beyond

/-- And it names no other, nor has it another fault. -/
theorem tokenCore_eq_iff {result : Except HartTokenFault Int} :
    tokenCore token = result ↔ TokenNames token result := by
  constructor
  · intro h
    rw [← h]
    exact tokenNames_tokenCore token
  · intro h
    cases h with
    | core holds denotes low high =>
      rw [tokenCore_of_holdsNumeral holds, hartCore_of_denotes denotes low high]
      rfl
    | noCore holds denotes =>
      rw [tokenCore_of_holdsNumeral holds, hartCore_of_denotes_least denotes]
      rfl
    | notNumeric holds beyond =>
      rw [tokenCore_of_holdsNumeral holds, hartCore_of_beyond beyond]
      rfl
    | emptySegment holds => exact tokenCore_of_holdsNothing holds
    | missingSegment colon => exact tokenCore_of_not_mem colon

end

/-- No numeral holds a colon. -/
theorem colon_not_mem_of_denotes {numeral : Text} {hart : Int} (h : Denotes numeral hart) :
    ':' ∉ numeral := by
  have hdigits : ∀ ds : Text, Text.IsDigits ds → ':' ∉ ds := by
    intro ds hds hmem
    exact absurd (hds.2 ':' hmem) (by decide)
  cases h with
  | bare digits => exact hdigits _ digits
  | plus digits => exact List.not_mem_cons_of_ne_of_not_mem (by decide) (hdigits _ digits)
  | minus digits => exact List.not_mem_cons_of_ne_of_not_mem (by decide) (hdigits _ digits)

/-! ## Trace lines -/

/-- The second word of a line. -/
def IsSecondWord (token line : Text) : Prop :=
  ∃ first rest, IsSpread (first :: token :: rest) line

section

variable {line token : Text}

theorem words_getElem?_one : (Text.words line)[1]? = some token ↔ IsSecondWord token line := by
  constructor
  · intro h
    rcases hwords : Text.words line with _ | ⟨first, _ | ⟨second, rest⟩⟩
    · simp [hwords] at h
    · simp [hwords] at h
    · obtain rfl : second = token := by simpa [hwords] using h
      exact ⟨first, rest, Text.words_eq_iff.1 hwords⟩
  · intro ⟨first, rest, hspread⟩
    rw [Text.words_of_isSpread hspread]
    rfl

theorem traceCore_of_isSecondWord (h : IsSecondWord token line) :
    traceCore line = tokenCore token := by
  unfold traceCore
  rw [words_getElem?_one.2 h]

theorem traceCore_of_short (h : Text.runCount line < 2) :
    traceCore line = .error .missingToken := by
  have hnone : (Text.words line)[1]? = none := by
    rw [List.getElem?_eq_none_iff, Text.length_words]
    omega
  unfold traceCore
  rw [hnone]

/-- A line of two words or more has a second one. -/
theorem exists_isSecondWord (h : ¬Text.runCount line < 2) : ∃ token, IsSecondWord token line := by
  have hlength : 1 < (Text.words line).length := by
    rw [Text.length_words]
    omega
  exact ⟨(Text.words line)[1], words_getElem?_one.1 (List.getElem?_eq_getElem hlength)⟩

theorem traceCore_eq_missingToken_iff :
    traceCore line = .error .missingToken ↔ Text.runCount line < 2 := by
  constructor
  · intro h
    by_contra hlong
    obtain ⟨token, htoken⟩ := exists_isSecondWord hlong
    rw [traceCore_of_isSecondWord htoken, tokenCore_eq_iff] at h
    cases h
  · exact traceCore_of_short

/-- What else comes of a line comes of its second word. -/
theorem traceCore_eq_iff {result : Except HartTokenFault Int}
    (h : result ≠ .error .missingToken) :
    traceCore line = result ↔ ∃ token, IsSecondWord token line ∧ TokenNames token result := by
  constructor
  · intro hresult
    have hlong : ¬Text.runCount line < 2 := by
      intro hshort
      rw [traceCore_of_short hshort] at hresult
      exact h hresult.symm
    obtain ⟨token, htoken⟩ := exists_isSecondWord hlong
    rw [traceCore_of_isSecondWord htoken] at hresult
    exact ⟨token, htoken, tokenCore_eq_iff.1 hresult⟩
  · intro ⟨token, htoken, hnames⟩
    rw [traceCore_of_isSecondWord htoken]
    exact tokenCore_eq_iff.2 hnames

end

/-- A line names a core exactly if its second word holds a numeral that denotes a hart number but
the least one, and then it names the core below. It has no token if it has fewer than two runs
without white space; the token has no segment if it has no colon, and an empty one if nothing
follows the first colon up to the next one or the end. A numeral that denotes the least hart number
has no core, and one that denotes no hart number is none. Every hart number but the least is read
back from what is written for it, whatever the label and whatever character comes after it. -/
theorem traceCore_grammar (line : Text) :
    (∀ core, traceCore line = .ok core ↔
      ∃ token numeral hart, IsSecondWord token line ∧ HoldsNumeral token numeral ∧
        Denotes numeral hart ∧ int64Min < hart ∧ hart ≤ int64Max ∧ core = hart - 1) ∧
    (traceCore line = .error .missingToken ↔ Text.runCount line < 2) ∧
    (∀ token, traceCore line = .error (.missingSegment token) ↔
      IsSecondWord token line ∧ ':' ∉ token) ∧
    (∀ token, traceCore line = .error (.emptySegment token) ↔
      IsSecondWord token line ∧ HoldsNothing token) ∧
    (∀ numeral, traceCore line = .error (.noCore numeral) ↔
      ∃ token, IsSecondWord token line ∧ HoldsNumeral token numeral ∧
        Denotes numeral int64Min) ∧
    (∀ numeral, traceCore line = .error (.notNumeric numeral) ↔
      ∃ token, IsSecondWord token line ∧ HoldsNumeral token numeral ∧
        ∀ hart, Denotes numeral hart → hart < int64Min ∨ int64Max < hart) ∧
    ∀ label sep hart, ':' ∉ label → sep ≠ ':' → int64Min < hart → hart ≤ int64Max →
      IsSecondWord (label ++ ':' :: (Text.signedDecimal hart ++ [sep])) line →
      traceCore line = .ok (hart - 1) := by
  refine ⟨fun core => ?_, traceCore_eq_missingToken_iff, fun token => ?_, fun token => ?_,
    fun numeral => ?_, fun numeral => ?_, ?_⟩
  · rw [traceCore_eq_iff (by simp)]
    constructor
    · intro ⟨token, hsecond, hnames⟩
      cases hnames with
      | core holds denotes low high =>
        exact ⟨token, _, _, hsecond, holds, denotes, low, high, rfl⟩
    · intro ⟨token, numeral, hart, hsecond, holds, denotes, low, high, hcore⟩
      rw [hcore]
      exact ⟨token, hsecond, .core holds denotes low high⟩
  · rw [traceCore_eq_iff (by simp)]
    constructor
    · intro ⟨token', hsecond, hnames⟩
      cases hnames with
      | missingSegment colon => exact ⟨hsecond, colon⟩
    · intro ⟨hsecond, colon⟩
      exact ⟨token, hsecond, .missingSegment colon⟩
  · rw [traceCore_eq_iff (by simp)]
    constructor
    · intro ⟨token', hsecond, hnames⟩
      cases hnames with
      | emptySegment holds => exact ⟨hsecond, holds⟩
    · intro ⟨hsecond, holds⟩
      exact ⟨token, hsecond, .emptySegment holds⟩
  · rw [traceCore_eq_iff (by simp)]
    constructor
    · intro ⟨token, hsecond, hnames⟩
      cases hnames with
      | noCore holds denotes => exact ⟨token, hsecond, holds, denotes⟩
    · intro ⟨token, hsecond, holds, denotes⟩
      exact ⟨token, hsecond, .noCore holds denotes⟩
  · rw [traceCore_eq_iff (by simp)]
    constructor
    · intro ⟨token, hsecond, hnames⟩
      cases hnames with
      | notNumeric holds beyond => exact ⟨token, hsecond, holds, beyond⟩
    · intro ⟨token, hsecond, holds, beyond⟩
      exact ⟨token, hsecond, .notNumeric holds beyond⟩
  · intro label sep hart hlabel hsep hlow hhigh hsecond
    have hdenotes := Text.denotes_signedDecimal hart
    have holds : HoldsNumeral _ (Text.signedDecimal hart) :=
      ⟨label, sep, [], rfl, hlabel, colon_not_mem_of_denotes hdenotes, hsep, Or.inl rfl⟩
    rw [traceCore_of_isSecondWord hsecond, tokenCore_eq_iff]
    exact .core holds hdenotes hlow hhigh

/-- A separator may take several bytes, and what follows the second colon does not matter. -/
example :
    traceCore (Text.of "riscv: hart:+0012→:x 80000000") = .ok 11 ∧
      traceCore (Text.of "riscv: :-9223372036854775808,") =
        .error (.noCore (Text.of "-9223372036854775808")) ∧
      traceCore (Text.of "riscv: hart:5") = .error (.notNumeric []) := by
  decide +kernel

end HartTimeline
