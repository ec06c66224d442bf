import HartTimeline.Log.Filter

/-!
# Settings that can be read

A log setting ends the program only if a directive is cut within a character. The places to cut at
are right unless blanks shift them, and only blanks in front of a directive do: what stands behind
the last place is cut off with it.

Main statement: `LogFilter.reads_of_forall_not_blank`.
-/

namespace HartTimeline

/-- Work that goes on with the result of other work fails only in the ways that one of them does. -/
theorem bind_ne_error {α β ε : Type} {x : Except ε α} {f : α → Except ε β} {e : ε}
    (hx : x ≠ .error e) (hf : ∀ a, f a ≠ .error e) : x >>= f ≠ .error e := by
  cases x with
  | error e' => exact fun h => hx (congrArg _ (Except.error.inj h))
  | ok a => exact hf a

namespace LogDirective

/-- A text that does not begin with a blank begins with what is left of it without the blanks around
it. -/
theorem bare_isPrefix_written {t : Text} (h : ∀ c ∈ t.head?, Text.isBlank c = false) :
    (Draft.ofText t).bare <+: (Draft.ofText t).written := by
  have hfront : t.dropWhile Text.isBlank = t := by
    cases t with
    | nil => rfl
    | cons c t => exact List.dropWhile_cons_of_neg (by simp [h c rfl])
  have hbare : (Draft.ofText t).bare = (t.reverse.dropWhile Text.isBlank).reverse := by
    rw [Draft.ofText, Text.strip, hfront]
  have hsuffix : t.reverse.dropWhile Text.isBlank <:+ t.reverse := List.dropWhile_suffix _
  rw [hbare, ← List.reverse_suffix, List.reverse_reverse]
  exact hsuffix

namespace Draft

variable {d : Draft} {start stop rest target : Text}

/-! ## Cutting -/

/-- The place of a rest is where it stands behind what comes before it. -/
theorem place_eq {front : Text} (h : d.bare = front ++ rest) :
    d.place rest = Text.byteLength front := by
  rw [place, h, Text.byteLength_append, Nat.add_sub_cancel]

/-- Between two rests stands what the first has more. -/
theorem cut_eq_ok (hwritten : d.bare <+: d.written) {middle : Text}
    (hrest : middle ++ stop <:+ d.bare) : d.cut (middle ++ stop) stop = .ok middle := by
  obtain ⟨front, hfront⟩ := hrest
  obtain ⟨back, hback⟩ := hwritten
  have hstart : d.place (middle ++ stop) = Text.byteLength front := place_eq hfront.symm
  have hstop : d.place stop = Text.byteLength front + Text.byteLength middle := by
    rw [← Text.byteLength_append]
    exact place_eq (by rw [← hfront, List.append_assoc])
  have hparts : d.written = front ++ (middle ++ (stop ++ back)) := by
    rw [← hback, ← hfront]
    simp only [List.append_assoc]
  rw [cut, hstart, hstop, hparts, Text.slice?_append]
  rfl

/-- So it is where the second rest is found by looking for a character. -/
theorem cut_dropWhile_eq_ok {p : Char → Bool} (hwritten : d.bare <+: d.written)
    (hstart : start <:+ d.bare) :
    d.cut start (start.dropWhile p) = .ok (start.takeWhile p) := by
  have hparts : start.takeWhile p ++ start.dropWhile p = start := List.takeWhile_append_dropWhile
  have hrest : start.takeWhile p ++ start.dropWhile p <:+ d.bare := by rwa [hparts]
  have hcut := cut_eq_ok hwritten hrest
  rwa [hparts] at hcut

theorem exists_cutFrom_eq_ok (hwritten : d.bare <+: d.written) (hrest : rest <:+ d.bare) :
    ∃ t, d.cutFrom rest = .ok t := by
  obtain ⟨front, hfront⟩ := hrest
  obtain ⟨back, hback⟩ := hwritten
  have hparts : d.written = front ++ (rest ++ back) := by
    rw [← hback, ← hfront, List.append_assoc]
  refine ⟨rest ++ back, ?_⟩
  rw [cutFrom, place_eq hfront.symm, hparts, Text.dropBytes?_append]
  rfl

/-! ## Parts of a directive -/

/-- Where a rest was found by looking for a character, it is one after that character too. -/
theorem suffix_of_dropWhile {p : Char → Bool} {c : Char} (h : start.dropWhile p = c :: rest)
    (hstart : start <:+ d.bare) : rest <:+ d.bare := by
  have hcons : rest <:+ start.dropWhile p := h ▸ List.suffix_cons c rest
  exact (hcons.trans (List.dropWhile_suffix p)).trans hstart

theorem limitFrom_ne (hwritten : d.bare <+: d.written) (hrest : rest <:+ d.bare) :
    d.limitFrom rest ≠ .error .withinCharacter := by
  obtain ⟨t, ht⟩ := exists_cutFrom_eq_ok hwritten hrest
  refine bind_ne_error (by rw [ht]; nofun) fun t => ?_
  split
  · nofun
  · cases limit? t <;> nofun

theorem fieldOf_ne (t : Text) : fieldOf t ≠ .error .withinCharacter := by
  unfold fieldOf
  split
  · split <;> nofun
  · split <;> nofun

theorem close_ne (hwritten : d.bare <+: d.written) (hrest : rest <:+ d.bare) (field : Option Text)
    (spansOnly : Bool) : d.close target field spansOnly rest ≠ .error .withinCharacter := by
  unfold close
  split
  · nofun
  · exact bind_ne_error (limitFrom_ne hwritten ((List.suffix_cons '=' _).trans hrest)) nofun
  · nofun

theorem withBrackets_ne (hwritten : d.bare <+: d.written) (hstart : start <:+ d.bare) :
    d.withBrackets target start ≠ .error .withinCharacter := by
  have hspan := cut_dropWhile_eq_ok (p := fun c => c ≠ ']' && c ≠ '\x7b') hwritten hstart
  unfold withBrackets
  -- the brackets close behind the name of a span, or braces open there
  split
  · rename_i rest hrest
    refine bind_ne_error (by rw [← hrest, hspan]; nofun) fun _ => ?_
    exact close_ne hwritten (suffix_of_dropWhile hrest hstart) none true
  · rename_i inner hinner
    refine bind_ne_error (by rw [← hinner, hspan]; nofun) fun span => ?_
    have hinner' := suffix_of_dropWhile hinner hstart
    split
    · rename_i rest hrest
      have hfield := cut_dropWhile_eq_ok (p := fun c => c ≠ '\x7d') hwritten hinner'
      refine bind_ne_error (by rw [← hrest, hfield]; nofun) fun field => ?_
      refine bind_ne_error (fieldOf_ne field) fun named => ?_
      have hrest' := suffix_of_dropWhile hrest hinner'
      dsimp only
      split
      · exact close_ne hwritten ((List.suffix_cons ']' _).trans hrest') _ _
      · nofun
    · nofun
  · nofun

end Draft

/-! ## Whole directives -/

/-- A directive without blanks in front is never cut within a character. -/
theorem parse_ne_withinCharacter {t : Text} (h : ∀ c ∈ t.head?, Text.isBlank c = false) :
    parse t ≠ .error .withinCharacter := by
  have hwritten := bare_isPrefix_written h
  have htarget := Draft.cut_dropWhile_eq_ok (p := fun c => c ≠ '=' && c ≠ '[') hwritten
    (List.suffix_refl _)
  unfold parse
  dsimp only
  split
  · nofun
  · rename_i rest hbare
    exact Draft.withBrackets_ne hwritten (hbare ▸ List.suffix_cons '[' rest)
  · split
    · nofun
    · split
      · nofun
      · rename_i rest hrest
        refine bind_ne_error (by rw [← hrest, htarget]; nofun) fun target => ?_
        refine bind_ne_error (Draft.limitFrom_ne hwritten ?_) nofun
        exact Draft.suffix_of_dropWhile hrest (List.suffix_refl _)
      · rename_i bracket rest _ hrest
        refine bind_ne_error (by rw [← hrest, htarget]; nofun) fun target => ?_
        exact Draft.withBrackets_ne hwritten (Draft.suffix_of_dropWhile hrest (List.suffix_refl _))

end LogDirective

namespace LogFilter

/-! ## Whole settings -/

theorem reads_none (all : Bool) : reader.Reads all none := by
  cases all <;> nofun

/-- The pieces of a setting are read to the end if none of them is cut within a character. -/
theorem readPieces_ne_none {ps : List Text}
    (h : ∀ p ∈ ps, LogDirective.parse p ≠ .error .withinCharacter) : (readPieces ps).2 ≠ none := by
  induction ps with
  | nil => nofun
  | cons p ps ih =>
    obtain ⟨hp, hps⟩ := List.forall_mem_cons.1 h
    unfold readPieces
    split
    · rename_i hcut
      exact absurd hcut hp
    · exact ih hps
    · simpa using ih hps

/-- The first piece that cannot be read decides, and it is one of the pieces. -/
theorem mapM_parse_ne {ps : List Text}
    (h : ∀ p ∈ ps, LogDirective.parse p ≠ .error .withinCharacter) :
    ps.mapM LogDirective.parse ≠ .error .withinCharacter := by
  induction ps with
  | nil => nofun
  | cons p ps ih =>
    obtain ⟨hp, hps⟩ := List.forall_mem_cons.1 h
    rw [List.mapM_cons]
    exact bind_ne_error hp fun d => bind_ne_error (ih hps) nofun

/-- The program reads every setting to the end in which no directive has blanks in front of it. -/
theorem reads_of_forall_not_blank {setting : Text}
    (h : ∀ p ∈ pieces setting, ∀ c ∈ p.head?, Text.isBlank c = false) (all : Bool) :
    reader.Reads all (some setting) := by
  have hpieces : ∀ p ∈ pieces setting, LogDirective.parse p ≠ .error .withinCharacter :=
    fun p hp => LogDirective.parse_ne_withinCharacter (h p hp)
  cases all with
  | true => simpa [LogReader.Reads, reader] using readPieces_ne_none hpieces
  | false =>
    have hparsed := mapM_parse_ne hpieces
    unfold LogReader.Reads
    cases hds : (pieces setting).mapM LogDirective.parse with
    | ok ds => simp [reader, hds]
    | error fault =>
      -- a piece that is no directive ends the reading, but not the program
      rw [hds] at hparsed
      cases fault with
      | withinCharacter => exact absurd rfl hparsed
      | malformed | badLevel | badValue _ => simp [reader, hds]

end LogFilter

end HartTimeline
