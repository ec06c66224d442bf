import HartTimeline.Text.Charset

/-!
# Searching a text

Whether one text occurs in another as a contiguous piece.

Main statements: `occursIn_iff`, what the search finds, and `infix_append_cons_iff`, a piece without
a separator is on one side of it.
-/

namespace HartTimeline.Text

/-- Whether `needle` occurs in a text. -/
def occursIn (needle : Text) : Text → Bool
  | [] => needle.isEmpty
  | c :: cs => needle.isPrefixOf (c :: cs) || occursIn needle cs

/-- The search finds exactly the contiguous pieces. -/
theorem occursIn_iff {needle t : Text} : occursIn needle t = true ↔ needle <:+: t := by
  induction t with
  | nil => simp [occursIn]
  | cons c cs ih => simp [occursIn, ih, List.infix_cons_iff]

/-- The text after `head`, if it starts with it. -/
def after? (head t : Text) : Option Text :=
  if head.isPrefixOf t then some (t.drop head.length) else none

theorem after?_eq_some_iff {head t rest : Text} : after? head t = some rest ↔ t = head ++ rest := by
  unfold after?
  split
  · rename_i hhead
    obtain ⟨rest', rfl⟩ := List.isPrefixOf_iff_prefix.1 hhead
    simp [eq_comm]
  · rename_i hhead
    refine ⟨nofun, fun h => absurd ?_ hhead⟩
    exact List.isPrefixOf_iff_prefix.2 ⟨rest, h.symm⟩

/-! ## Searching around a separator -/

section Separator

variable {needle s t : Text} {c : Char}

/-- What begins a text ends where it cannot go on. -/
theorem prefix_append_iff (ht : ∀ c ∈ t.head?, c ∉ needle.drop s.length) :
    needle <+: s ++ t ↔ needle <+: s := by
  refine ⟨fun h => ?_, fun h => h.trans (List.prefix_append s t)⟩
  rcases List.prefix_or_prefix_of_prefix h (List.prefix_append s t) with hshort | hlong
  · exact hshort
  · obtain ⟨more, rfl⟩ := hlong
    rw [List.prefix_append_right_inj] at h
    cases more with
    | nil => simp
    | cons c more =>
      obtain ⟨rest, rfl⟩ := h
      exact absurd (by simp) (ht c rfl)

/-- What begins a text and does not hold a separator begins the text before it. -/
theorem prefix_append_cons_iff (hc : c ∉ needle) (s t : Text) :
    needle <+: s ++ c :: t ↔ needle <+: s := by
  refine prefix_append_iff ?_
  rintro _ ⟨⟩ hmem
  exact hc (List.mem_of_mem_drop hmem)

/-- A piece that does not hold a separator stands before it or after it. -/
theorem infix_append_cons_iff (hc : c ∉ needle) (s t : Text) :
    needle <:+: s ++ c :: t ↔ needle <:+: s ∨ needle <:+: t := by
  induction s with
  | nil =>
    have hstart := prefix_append_cons_iff hc [] t
    rw [List.nil_append] at hstart
    rw [List.nil_append, List.infix_cons_iff, hstart, List.infix_nil, List.prefix_nil]
  | cons d s ih =>
    rw [List.cons_append, List.infix_cons_iff, ih, ← List.cons_append,
      prefix_append_cons_iff hc, List.infix_cons_iff, or_assoc]

theorem occursIn_append_cons (hc : c ∉ needle) (s t : Text) :
    occursIn needle (s ++ c :: t) = (occursIn needle s || occursIn needle t) := by
  rw [Bool.eq_iff_iff, Bool.or_eq_true]
  simp only [occursIn_iff]
  exact infix_append_cons_iff hc s t

end Separator

end HartTimeline.Text
