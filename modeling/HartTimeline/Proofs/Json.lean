import HartTimeline.Json
import HartTimeline.Proofs.Text.Delimited

/-!
# JSON documents are read in one way only

A JSON value shows by its first character of which kind it is, and where it ends; a number ends
where no digit follows.

Main statement: `render_injective`, different values have different texts.
-/

namespace HartTimeline

open Text (Delimited Never StartsApart startsApart_never delimited_decimal exists_decimal_eq_cons)

namespace Json

/-! ## Strings -/

/-- The characters that do not stand for themselves in a string. -/
def escaped : List Char :=
  '"' :: '\\' :: (List.range 32).map Char.ofNat

theorem mem_escaped_of_lt {c : Char} (h : c < ' ') : c ∈ escaped := by
  have hcode : c.toNat < 32 := h
  refine List.mem_cons_of_mem _ (List.mem_cons_of_mem _ (List.mem_map.2 ⟨c.toNat, ?_, ?_⟩))
  · exact List.mem_range.2 hcode
  · exact Char.ofNat_toNat c

theorem escapeChar_of_not_mem {c : Char} (h : c ∉ escaped) : escapeChar c = [c] := by
  have hlow : ¬c < ' ' := fun hlt => h (mem_escaped_of_lt hlt)
  unfold escapeChar
  split
  case h_8 => exact if_neg hlow
  all_goals exact absurd (by decide) h

/-- An escape begins with a backslash. -/
theorem head?_escapeChar {c : Char} (hc : c ∈ escaped) : (escapeChar c).head? = some '\\' := by
  have hall : (escaped.all fun c => (escapeChar c).head? = some '\\') = true := by
    decide +kernel
  simpa using List.all_eq_true.1 hall c hc

/-- No escape begins with another one. -/
theorem eq_of_isPrefix_escapeChar {c d : Char} (hc : c ∈ escaped) (hd : d ∈ escaped)
    (h : escapeChar c <+: escapeChar d) : c = d := by
  have hall : (escaped.all fun c => escaped.all fun d =>
      !(escapeChar c).isPrefixOf (escapeChar d) || c = d) = true := by
    decide +kernel
  have hpair := List.all_eq_true.1 (List.all_eq_true.1 hall c hc) d hd
  simpa [List.isPrefixOf_iff_prefix.2 h] using hpair

theorem delimited_escapeChar : Delimited Never escapeChar := by
  -- an escape is not taken for a character that stands for itself
  have hother : ∀ {c d : Char} {r s : Text}, c ∈ escaped → d ∉ escaped →
      escapeChar c ++ r ≠ escapeChar d ++ s := by
    intro c d r s hc hd h
    have hhead := congrArg List.head? h
    rw [escapeChar_of_not_mem hd, List.head?_append, head?_escapeChar hc] at hhead
    have hd' : d = '\\' := (Option.some.inj hhead).symm
    exact hd (hd' ▸ by decide)
  intro c d r s _ _ h
  by_cases hc : c ∈ escaped <;> by_cases hd : d ∈ escaped
  · have hcd : c = d := by
      have hpre : escapeChar c <+: escapeChar d ++ s := ⟨r, h⟩
      rcases List.prefix_or_prefix_of_prefix hpre (List.prefix_append _ s) with hle | hge
      · exact eq_of_isPrefix_escapeChar hc hd hle
      · exact (eq_of_isPrefix_escapeChar hd hc hge).symm
    subst hcd
    exact ⟨rfl, List.append_cancel_left h⟩
  · exact absurd h (hother hc hd)
  · exact absurd h.symm (hother hd hc)
  · rw [escapeChar_of_not_mem hc, escapeChar_of_not_mem hd] at h
    exact List.cons.inj h

/-- No character of a string is written so that it could be taken for the closing quote. -/
theorem exists_head?_escapeChar (c : Char) : ∃ d ∈ (escapeChar c).head?, d ≠ '"' := by
  by_cases hc : c ∈ escaped
  · exact ⟨'\\', head?_escapeChar hc, by decide⟩
  · rw [escapeChar_of_not_mem hc]
    refine ⟨c, rfl, ?_⟩
    rintro rfl
    exact hc (by decide)

theorem delimited_renderString : Delimited Never renderString := by
  intro t u r s _ _ h
  simp only [renderString, List.cons_append, List.append_assoc, List.cons.injEq, true_and,
    List.nil_append] at h
  obtain ⟨rfl, hrest⟩ :=
    delimited_escapeChar.flatMap exists_head?_escapeChar (by simp) (by simp) h
  exact ⟨rfl, (List.cons.inj hrest).2⟩

/-! ## Kinds of values -/

/-- The kinds of JSON values. -/
inductive Kind
  | bool
  | number
  | string
  | array
  | object
deriving DecidableEq

/-- The kind of a value. -/
def kind : Json → Kind
  | bool _ => .bool
  | number _ => .number
  | string _ => .string
  | array _ => .array
  | object _ => .object

/-- The kind of the values that begin with a character. -/
def Kind.ofFirst (c : Char) : Kind :=
  if c.isDigit then .number
  else if c = '"' then .string
  else if c = '[' then .array
  else if c = '\x7b' then .object
  else .bool

/-- The first character of a value tells its kind. -/
theorem ofFirst_head?_renderAt (level : Nat) (j : Json) :
    (renderAt level j).head?.map Kind.ofFirst = some j.kind := by
  cases j with
  | bool b => cases b <;> rfl
  | number n =>
    obtain ⟨c, cs, hn, hc⟩ := exists_decimal_eq_cons n
    simp [renderAt, hn, Kind.ofFirst, hc, kind]
  | string t => rfl
  | array items => cases items <;> rfl
  | object fields => cases fields <;> rfl

theorem kind_eq_of_append_eq {level : Nat} {j j' : Json} {r s : Text}
    (h : renderAt level j ++ r = renderAt level j' ++ s) : j.kind = j'.kind := by
  have hfirst : ∀ (j : Json) (r : Text),
      (renderAt level j ++ r).head?.map Kind.ofFirst = some j.kind := by
    intro j r
    have hj := ofFirst_head?_renderAt level j
    cases hhead : (renderAt level j).head? with
    | none =>
      rw [hhead] at hj
      cases hj
    | some c =>
      rw [hhead] at hj
      rw [List.head?_append, hhead]
      exact hj
  have hj := hfirst j r
  rw [h, hfirst j' s] at hj
  exact (Option.some.inj hj).symm

/-! ## Values -/

theorem startsApart_renderItems (level : Nat) (items : List Json) (r : Text) :
    StartsApart (·.isDigit = true) (renderItems level items ++ r) := by
  cases items <;> simp [renderItems, newLine]

theorem startsApart_renderFields (level : Nat) (fields : List (Text × Json)) (r : Text) :
    StartsApart (·.isDigit = true) (renderFields level fields ++ r) := by
  cases fields <;> simp [renderFields, newLine]

mutual

/-- A value is told from what follows it, unless it is a number and a digit follows. -/
theorem renderAt_append_inj (level : Nat) : ∀ (j j' : Json) {r s : Text},
    StartsApart (·.isDigit = true) r → StartsApart (·.isDigit = true) s →
    renderAt level j ++ r = renderAt level j' ++ s → j = j' ∧ r = s
  | bool b, j', r, s, _, _, h => by
    have hkind := kind_eq_of_append_eq h
    cases j' with
    | bool b' =>
      cases b <;> cases b' <;> simp_all [renderAt, Text.of]
    | number | string | array | object => cases hkind
  | number n, j', r, s, hr, hs, h => by
    have hkind := kind_eq_of_append_eq h
    cases j' with
    | number n' =>
      rw [renderAt, renderAt] at h
      obtain ⟨rfl, hrest⟩ := delimited_decimal hr hs h
      exact ⟨rfl, hrest⟩
    | bool | string | array | object => cases hkind
  | string t, j', r, s, _, _, h => by
    have hkind := kind_eq_of_append_eq h
    cases j' with
    | string t' =>
      rw [renderAt, renderAt] at h
      obtain ⟨rfl, hrest⟩ := delimited_renderString startsApart_never startsApart_never h
      exact ⟨rfl, hrest⟩
    | bool | number | array | object => cases hkind
  | array [], j', r, s, _, _, h => by
    have hkind := kind_eq_of_append_eq h
    cases j' with
    | array items' =>
      cases items' with
      | nil => exact ⟨rfl, List.append_cancel_left h⟩
      | cons => simp [renderAt, newLine, Text.of] at h
    | bool | number | string | object => cases hkind
  | array (item :: items), j', r, s, _, _, h => by
    have hkind := kind_eq_of_append_eq h
    cases j' with
    | array items' =>
      cases items' with
      | nil => simp [renderAt, newLine, Text.of] at h
      | cons item' items' =>
        simp only [renderAt, List.cons_append, List.append_assoc, List.cons.injEq, true_and,
          List.append_cancel_left_eq] at h
        obtain ⟨rfl, htail⟩ := renderAt_append_inj (level + 1) item item'
          (startsApart_renderItems level items r) (startsApart_renderItems level items' s) h
        obtain ⟨rfl, hrest⟩ := renderItems_append_inj level items items' htail
        exact ⟨rfl, hrest⟩
    | bool | number | string | object => cases hkind
  | object [], j', r, s, _, _, h => by
    have hkind := kind_eq_of_append_eq h
    cases j' with
    | object fields' =>
      cases fields' with
      | nil => exact ⟨rfl, List.append_cancel_left h⟩
      | cons => simp [renderAt, newLine] at h
    | bool | number | string | array => cases hkind
  | object (field :: fields), j', r, s, _, _, h => by
    have hkind := kind_eq_of_append_eq h
    cases j' with
    | object fields' =>
      cases fields' with
      | nil => simp [renderAt, newLine] at h
      | cons field' fields' =>
        simp only [renderAt, List.cons_append, List.append_assoc, List.cons.injEq, true_and,
          List.append_cancel_left_eq] at h
        obtain ⟨rfl, htail⟩ := renderField_append_inj (level + 1) field field'
          (startsApart_renderFields level fields r) (startsApart_renderFields level fields' s) h
        obtain ⟨rfl, hrest⟩ := renderFields_append_inj level fields fields' htail
        exact ⟨rfl, hrest⟩
    | bool | number | string | array => cases hkind

theorem renderItems_append_inj (level : Nat) : ∀ (items items' : List Json) {r s : Text},
    renderItems level items ++ r = renderItems level items' ++ s → items = items' ∧ r = s
  | [], [], _, _, h => ⟨rfl, List.append_cancel_left h⟩
  | [], _ :: _, _, _, h => by simp [renderItems, newLine] at h
  | _ :: _, [], _, _, h => by simp [renderItems, newLine] at h
  | item :: items, item' :: items', r, s, h => by
    simp only [renderItems, List.cons_append, List.append_assoc, List.cons.injEq, true_and,
      List.append_cancel_left_eq] at h
    obtain ⟨rfl, htail⟩ := renderAt_append_inj (level + 1) item item'
      (startsApart_renderItems level items r) (startsApart_renderItems level items' s) h
    obtain ⟨rfl, hrest⟩ := renderItems_append_inj level items items' htail
    exact ⟨rfl, hrest⟩

theorem renderField_append_inj (level : Nat) : ∀ (field field' : Text × Json) {r s : Text},
    StartsApart (·.isDigit = true) r → StartsApart (·.isDigit = true) s →
    renderField level field ++ r = renderField level field' ++ s → field = field' ∧ r = s
  | (name, value), (name', value'), r, s, hr, hs, h => by
    simp only [renderField, List.append_assoc] at h
    obtain ⟨rfl, htail⟩ := delimited_renderString startsApart_never startsApart_never h
    have hvalue := List.append_cancel_left htail
    obtain ⟨rfl, hrest⟩ := renderAt_append_inj level value value' hr hs hvalue
    exact ⟨rfl, hrest⟩

theorem renderFields_append_inj (level : Nat) :
    ∀ (fields fields' : List (Text × Json)) {r s : Text},
    renderFields level fields ++ r = renderFields level fields' ++ s → fields = fields' ∧ r = s
  | [], [], _, _, h => ⟨rfl, List.append_cancel_left h⟩
  | [], _ :: _, _, _, h => by simp [renderFields, newLine] at h
  | _ :: _, [], _, _, h => by simp [renderFields, newLine] at h
  | field :: fields, field' :: fields', r, s, h => by
    simp only [renderFields, List.cons_append, List.append_assoc, List.cons.injEq, true_and,
      List.append_cancel_left_eq] at h
    obtain ⟨rfl, htail⟩ := renderField_append_inj (level + 1) field field'
      (startsApart_renderFields level fields r) (startsApart_renderFields level fields' s) h
    obtain ⟨rfl, hrest⟩ := renderFields_append_inj level fields fields' htail
    exact ⟨rfl, hrest⟩

end

/-- The text of a document determines its value. -/
theorem render_injective : Function.Injective render := by
  intro j j' h
  exact (renderAt_append_inj 0 j j' Text.startsApart_nil Text.startsApart_nil
    (congrArg (· ++ []) h)).1

end Json

end HartTimeline
