import HartTimeline.Verdict.Trial
import Mathlib.Data.List.Basic
import Mathlib.Data.List.Forall2

/-!
# Exception markers by position

Exception markers are looked for from left to right, each search going on behind the marker found
before. Nothing is passed over in this way, because a marker has its first character nowhere else:
no marker begins within another one, and none goes on across a character that it cannot hold.

Main statements: `codes_eq_filterMap`, the codes are those of the markers at all positions, and
`exceptions_by_position`, what that says of a verdict.
-/

namespace HartTimeline

namespace ExceptionMarker

variable {s t code rest : Text} {c : Char}

/-- The code of an exception: one or more decimal digits. -/
def IsCode (code : Text) : Prop :=
  code ≠ [] ∧ ∀ c ∈ code, Text.isDecimalDigit c = true

instance : DecidablePred IsCode := fun code =>
  decidable_of_iff (code ≠ [] ∧ code.all Text.isDecimalDigit = true) (by simp [IsCode])

/-- The marker of an exception with a code. -/
def marker (code : Text) : Text :=
  opening ++ code ++ [')']

/-- The marker of a code stands at a position of a text. -/
def StandsAt (t : Text) (i : Nat) (code : Text) : Prop :=
  IsCode code ∧ marker code <+: t.drop i

/-! ## The marker at the start -/

theorem marker_append (code rest : Text) :
    marker code ++ rest = opening ++ (code ++ ')' :: rest) := by
  simp [marker]

/-- A marker at the start is read, and what follows it does not matter. -/
theorem atStart?_marker_append (hcode : IsCode code) (rest : Text) :
    atStart? (marker code ++ rest) = some (code, rest) := by
  have hclose : Text.isDecimalDigit ')' = false := by decide +kernel
  have hafter : Text.after? opening (marker code ++ rest) = some (code ++ ')' :: rest) :=
    Text.after?_eq_some_iff.2 (marker_append code rest)
  -- the digits end where the closing bracket stands
  have htake : (code ++ ')' :: rest).takeWhile Text.isDecimalDigit = code := by
    rw [List.takeWhile_append_of_pos hcode.2, List.takeWhile_cons_of_neg (by simp [hclose]),
      List.append_nil]
  have hdrop : (code ++ ')' :: rest).dropWhile Text.isDecimalDigit = ')' :: rest := by
    rw [List.dropWhile_append_of_pos hcode.2, List.dropWhile_cons_of_neg (by simp [hclose])]
  obtain ⟨d, ds, rfl⟩ := List.exists_cons_of_ne_nil hcode.1
  simp only [atStart?, hafter, htake, hdrop]

/-- What is read as a marker and a rest consists of them. -/
theorem of_atStart?_eq_some (h : atStart? t = some (code, rest)) :
    IsCode code ∧ t = marker code ++ rest := by
  unfold atStart? at h
  split at h
  · cases h
  · rename_i body hbody
    rw [Text.after?_eq_some_iff] at hbody
    split at h
    · rename_i d ds rest' htake hdrop
      cases h
      have hall := List.all_takeWhile (p := Text.isDecimalDigit) (l := body)
      rw [htake, List.all_eq_true] at hall
      refine ⟨⟨List.cons_ne_nil d ds, hall⟩, ?_⟩
      rw [hbody, marker_append, ← htake, ← hdrop, List.takeWhile_append_dropWhile]
    · cases h

/-- A text is read as a marker and a rest exactly if it consists of them. -/
theorem atStart?_eq_some_iff :
    atStart? t = some (code, rest) ↔ IsCode code ∧ t = marker code ++ rest := by
  refine ⟨of_atStart?_eq_some, ?_⟩
  rintro ⟨hcode, rfl⟩
  exact atStart?_marker_append hcode rest

/-- The code of the marker at the start of a text. -/
def startCode? (t : Text) : Option Text :=
  (atStart? t).map Prod.fst

theorem startCode?_eq_some_iff : startCode? t = some code ↔ IsCode code ∧ marker code <+: t := by
  simp only [startCode?, Option.map_eq_some_iff, Prod.exists, atStart?_eq_some_iff]
  constructor
  · rintro ⟨code, rest, ⟨hcode, rfl⟩, rfl⟩
    exact ⟨hcode, List.prefix_append _ _⟩
  · rintro ⟨hcode, rest, rfl⟩
    exact ⟨code, rest, ⟨hcode, rfl⟩, rfl⟩

theorem startCode?_drop_eq_some_iff {i : Nat} :
    startCode? (t.drop i) = some code ↔ StandsAt t i code :=
  startCode?_eq_some_iff

/-! ## Where a marker cannot go on -/

/-- A character that a marker may hold behind its first one. -/
def GoesOn (c : Char) : Prop :=
  c ∈ opening.tail ∨ Text.isDecimalDigit c = true ∨ c = ')'

instance : DecidablePred GoesOn := fun c =>
  inferInstanceAs (Decidable (c ∈ opening.tail ∨ Text.isDecimalDigit c = true ∨ c = ')'))

theorem marker_eq_cons (code : Text) :
    marker code = 'E' :: (opening.tail ++ code ++ [')']) := rfl

/-- Behind its first character a marker holds nothing else. -/
theorem goesOn_of_mem_tail (hcode : IsCode code) (hc : c ∈ (marker code).tail) : GoesOn c := by
  rw [marker_eq_cons, List.tail_cons, List.mem_append, List.mem_append, List.mem_singleton] at hc
  obtain (hopening | hdigit) | hclose := hc
  · exact .inl hopening
  · exact .inr (.inl (hcode.2 c hdigit))
  · exact .inr (.inr hclose)

/-- The first character of a marker is none of these. -/
theorem not_goesOn_first : ¬GoesOn 'E' := by decide +kernel

/-- A text that no marker goes on into takes no part in reading what stands before it. -/
theorem startCode?_append (hs : s ≠ []) (ht : ∀ c ∈ t.head?, ¬GoesOn c) :
    startCode? (s ++ t) = startCode? s := by
  obtain ⟨d, s, rfl⟩ := List.exists_cons_of_ne_nil hs
  ext code
  rw [startCode?_eq_some_iff, startCode?_eq_some_iff]
  refine and_congr_right fun hcode => Text.prefix_append_iff ?_
  intro c hc hmem
  rw [List.length_cons, ← List.drop_tail] at hmem
  exact ht c hc (goesOn_of_mem_tail hcode (List.mem_of_mem_drop hmem))

/-! ## All markers of a text -/

theorem codes_nil : codes [] = [] := by
  rw [codes]

theorem codes_of_atStart?_eq_some (h : atStart? t = some (code, rest)) :
    codes t = code :: codes rest := by
  cases t with
  | nil => cases h
  | cons c t =>
    rw [codes]
    split
    · rename_i code' rest' hread
      rw [h] at hread
      cases hread
      rfl
    · rename_i hread
      rw [h] at hread
      cases hread

theorem codes_of_atStart?_eq_none (h : atStart? (c :: t) = none) : codes (c :: t) = codes t := by
  rw [codes]
  split
  · rename_i hread
    rw [h] at hread
    cases hread
  · rfl

/-- Text in which no marker begins can be passed over. -/
theorem codes_append_of_not_mem (hs : 'E' ∉ s) (t : Text) : codes (s ++ t) = codes t := by
  induction s with
  | nil => rfl
  | cons c s ih =>
    rw [List.mem_cons, not_or] at hs
    have hnone : atStart? (c :: (s ++ t)) = none := by
      rw [Option.eq_none_iff_forall_not_mem]
      rintro ⟨code, rest⟩ hread
      obtain ⟨-, hmarker⟩ := of_atStart?_eq_some hread
      rw [marker_eq_cons, List.cons_append] at hmarker
      exact hs.1 (List.cons.inj hmarker).1.symm
    rw [List.cons_append, codes_of_atStart?_eq_none hnone, ih hs.2]

/-- Going on behind a marker passes over nothing: the codes are that of the marker at the start, if
there is one, and those of the text from its second character on. -/
theorem codes_cons (c : Char) (t : Text) :
    codes (c :: t) = (startCode? (c :: t)).toList ++ codes t := by
  cases hread : atStart? (c :: t) with
  | none =>
    rw [codes_of_atStart?_eq_none hread, startCode?, hread]
    rfl
  | some found =>
    obtain ⟨code, rest⟩ := found
    obtain ⟨hcode, hmarker⟩ := of_atStart?_eq_some hread
    rw [codes_of_atStart?_eq_some hread, startCode?, hread]
    -- the rest of the marker does not hold the character that a marker begins with
    have htail : t = (marker code).tail ++ rest := by
      rw [marker_eq_cons, List.cons_append] at hmarker
      exact (List.cons.inj hmarker).2
    have hfirst : 'E' ∉ (marker code).tail := by
      intro hmem
      exact not_goesOn_first (goesOn_of_mem_tail hcode hmem)
    rw [htail, codes_append_of_not_mem hfirst]
    rfl

/-- The codes are those of the markers at all positions, from left to right. -/
theorem codes_eq_filterMap (t : Text) :
    codes t = (List.range t.length).filterMap fun i => startCode? (t.drop i) := by
  induction t with
  | nil => exact codes_nil
  | cons c t ih =>
    rw [codes_cons, ih, List.length_cons, List.range_succ_eq_map, List.filterMap_cons,
      List.filterMap_map, List.drop_zero]
    cases startCode? (c :: t) <;> rfl

theorem isCode_of_mem_codes (h : code ∈ codes t) : IsCode code := by
  rw [codes_eq_filterMap, List.mem_filterMap] at h
  obtain ⟨i, -, hcode⟩ := h
  exact (startCode?_eq_some_iff.1 hcode).1

/-- The codes of a text that is cut where no marker goes on are those of its two parts. -/
theorem codes_append (s : Text) (ht : ∀ c ∈ t.head?, ¬GoesOn c) :
    codes (s ++ t) = codes s ++ codes t := by
  induction s with
  | nil => rw [codes_nil, List.nil_append, List.nil_append]
  | cons c s ih =>
    have hstart : startCode? (c :: (s ++ t)) = startCode? (c :: s) :=
      startCode?_append (List.cons_ne_nil c s) ht
    rw [List.cons_append, codes_cons, codes_cons, hstart, ih, List.append_assoc]

/-- A marker is found whatever stands before it, an unfinished marker too. -/
theorem codes_append_marker (hcode : IsCode code) (s t : Text) :
    codes (s ++ marker code ++ t) = codes s ++ code :: codes t := by
  rw [List.append_assoc, codes_append s,
    codes_of_atStart?_eq_some (atStart?_marker_append hcode t)]
  rintro c hc
  rw [marker_eq_cons, List.cons_append, List.head?_cons, Option.mem_some_iff] at hc
  rw [← hc]
  exact not_goesOn_first

theorem codes_append_feed (s t : Text) : codes (s ++ '\n' :: t) = codes s ++ codes t := by
  have hfeed : ¬GoesOn '\n' := by decide +kernel
  rw [codes_append s (by simpa using hfeed)]
  exact congrArg (codes s ++ ·) (codes_append_of_not_mem (s := ['\n']) (by decide) t)

/-! ## Positions -/

/-- The positions at which markers stand. -/
def positions (t : Text) : List Nat :=
  (List.range t.length).filter fun i => (startCode? (t.drop i)).isSome

theorem StandsAt.unique {i : Nat} {code' : Text} (h : StandsAt t i code) (h' : StandsAt t i code') :
    code = code' := by
  rw [← startCode?_drop_eq_some_iff] at h h'
  exact Option.some.inj (h.symm.trans h')

theorem mem_positions_iff {i : Nat} : i ∈ positions t ↔ ∃ code, StandsAt t i code := by
  simp only [positions, List.mem_filter, List.mem_range, Option.isSome_iff_exists,
    startCode?_drop_eq_some_iff, and_iff_right_iff_imp]
  rintro ⟨code, -, hprefix⟩
  -- a marker takes up some of the text
  by_contra hlength
  rw [List.drop_eq_nil_of_le (by omega), marker_eq_cons, List.prefix_nil] at hprefix
  cases hprefix

/-- The results of a partial function stand in the order of the arguments that have one. -/
theorem forall₂_filterMap {α β : Type} (f : α → Option β) (l : List α) :
    List.Forall₂ (fun a b => f a = some b) (l.filter fun a => (f a).isSome) (l.filterMap f) := by
  induction l with
  | nil => exact .nil
  | cons a l ih =>
    cases hf : f a with
    | none => simpa [hf] using ih
    | some b => simpa [hf] using ih

theorem forall₂_positions (t : Text) : List.Forall₂ (StandsAt t) (positions t) (codes t) := by
  rw [codes_eq_filterMap]
  refine (forall₂_filterMap _ _).imp fun i code hcode => ?_
  exact startCode?_drop_eq_some_iff.1 hcode

theorem codes_eq_nil_iff : codes t = [] ↔ ∀ i code, ¬StandsAt t i code := by
  have hpositions : codes t = [] ↔ positions t = [] := by
    rw [← List.length_eq_zero_iff, ← (forall₂_positions t).length_eq, List.length_eq_zero_iff]
  rw [hpositions, List.eq_nil_iff_forall_not_mem]
  simp only [mem_positions_iff, not_exists]

end ExceptionMarker

namespace Trial

open ExceptionMarker

/-- Without exceptions the status tells whether the success marker was found. -/
theorem eq_of_status {t t' : Trial} (hstatus : t.status = t'.status)
    (hexceptions : t.exceptions = t'.exceptions) (hnone : t.exceptions = []) : t = t' := by
  have hfound : ∀ t : Trial, t.exceptions = [] →
      t.status = if t.markerFound then Text.of "OK" else Text.of "FAILED" := by
    intro t h
    rw [Trial.status, Trial.passed, h, List.isEmpty_nil, Bool.and_true]
  have hmarker : t.markerFound = t'.markerFound := by
    rw [hfound t hnone, hfound t' (hexceptions ▸ hnone)] at hstatus
    cases hm : t.markerFound <;> cases hm' : t'.markerFound <;> simp_all [Text.of]
  cases t
  cases t'
  simp_all

/-- A verdict shows the code of every marker of the output and nothing else: the markers stand at
certain positions, and their codes are shown in the order of these, one for each. A position has one
code. A marker is found whatever stands before it and after it, and what stands there is judged as
if it were alone; so is what a line feed separates. The run passed exactly if the success marker
occurs in the output and no exception marker stands anywhere. -/
theorem exceptions_by_position (output successMarker : Text) :
    (∃ positions : List Nat, positions.Pairwise (· < ·) ∧
      (∀ i, i ∈ positions ↔ ∃ code, StandsAt output i code) ∧
      List.Forall₂ (StandsAt output) positions (ofOutput output successMarker).exceptions) ∧
    (∀ i code code', StandsAt output i code → StandsAt output i code' → code = code') ∧
    (∀ before code after, IsCode code → output = before ++ marker code ++ after →
      (ofOutput output successMarker).exceptions =
        (ofOutput before successMarker).exceptions ++
          code :: (ofOutput after successMarker).exceptions) ∧
    (∀ a b, output = a ++ '\n' :: b →
      (ofOutput output successMarker).exceptions =
        (ofOutput a successMarker).exceptions ++ (ofOutput b successMarker).exceptions) ∧
    ((ofOutput output successMarker).passed = true ↔
      successMarker <:+: output ∧ ∀ i code, ¬StandsAt output i code) := by
  refine ⟨⟨positions output, ?_, fun i => mem_positions_iff, forall₂_positions output⟩,
    fun i code code' => StandsAt.unique, ?_, ?_, ?_⟩
  · exact List.pairwise_lt_range.filter _
  · rintro before code after hcode rfl
    exact codes_append_marker hcode before after
  · rintro a b rfl
    exact codes_append_feed a b
  · rw [passed, Bool.and_eq_true, List.isEmpty_iff]
    exact and_congr Text.occursIn_iff codes_eq_nil_iff

/-- An output with unfinished markers before the finished ones, a marker right after another one,
and a code in digits of another script. -/
def unfinishedMarkers : Text :=
  Text.of "Exception(Exception(5)Exception(1Exception(2)\nException(12 Exception(\u0663)(ok)"

/-- All of them are found, so that the run has failed, although it shows the success marker. -/
theorem exceptions_of_unfinishedMarkers :
    let before := Text.of "Exception(Exception(5)Exception(1"
    let after := Text.of "\nException(12 Exception(\u0663)(ok)"
    IsCode (Text.of "2") ∧ unfinishedMarkers = before ++ marker (Text.of "2") ++ after ∧
      (ofOutput unfinishedMarkers (Text.of "(ok)")).exceptions =
        [Text.of "5", Text.of "2", Text.of "\u0663"] ∧
      StandsAt unfinishedMarkers 10 (Text.of "5") ∧
      Text.of "(ok)" <:+: unfinishedMarkers ∧
      (ofOutput unfinishedMarkers (Text.of "(ok)")).passed = false := by
  intro before after
  have hcode : IsCode (Text.of "2") := by decide +kernel
  have hsplit : unfinishedMarkers = before ++ marker (Text.of "2") ++ after := by decide +kernel
  have hstands : StandsAt unfinishedMarkers 10 (Text.of "5") := by
    exact ⟨by decide +kernel, by decide +kernel⟩
  obtain ⟨-, -, haround, -, hpassed⟩ :=
    exceptions_by_position unfinishedMarkers (Text.of "(ok)")
  refine ⟨hcode, hsplit, ?_, hstands, by decide +kernel, ?_⟩
  · rw [haround before (Text.of "2") after hcode hsplit]
    simp only [ofOutput, codes_eq_filterMap]
    decide +kernel
  · rw [Bool.eq_false_iff, ne_eq, hpassed]
    exact fun h => h.2 10 (Text.of "5") hstands

end Trial

end HartTimeline
