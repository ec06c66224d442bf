import HartTimeline.Proofs.Json
import HartTimeline.Proofs.Verdict.Trial
import HartTimeline.Summary
import Mathlib.Data.Set.List
import Mathlib.Tactic.Lift

/-!
# Summaries tell what they are made of

Two runs have the same summary only if they are alike: the table shows every counter and every
verdict, but for the question whether a run with exceptions showed the success marker, and the JSON
document shows that, too. Lines that are left out and columns that numbers outgrow lose nothing.

Main statements: `render_eq_iff` for the table, `renderJson_injective` for the JSON document, and
`summaries_faithful` for both.
-/

namespace HartTimeline

open Text (Delimited Never StartsApart startsApart_nil startsApart_cons startsApart_never
  delimited_decimal exists_decimal_eq_cons)

namespace Summary

/-! ## Counters -/

/-- A number between fixed texts is told from them. -/
theorem delimited_between (before : Text) {after : Text}
    (hafter : ∃ c ∈ after.head?, c.isDigit = false) :
    Delimited Never fun n => before ++ Text.decimal n ++ after := by
  intro m n r s _ _ h
  have hend : ∀ r, StartsApart (·.isDigit = true) (after ++ r) := by
    obtain ⟨c, hc, hdigit⟩ := hafter
    obtain ⟨after, rfl⟩ := List.head?_eq_some_iff.1 hc
    simp [hdigit]
  simp only [List.append_assoc, List.append_cancel_left_eq] at h
  obtain ⟨rfl, hrest⟩ := delimited_decimal (hend r) (hend s) h
  exact ⟨rfl, List.append_cancel_left hrest⟩

theorem delimited_counterLine (label : String) : Delimited Never (counterLine label) :=
  delimited_between (Text.of label) ⟨'\n', rfl, by decide⟩

/-- The part of a counter is told from the counter by the bracket, and from what it is called by its
digits. -/
theorem splitCounterLine_append_inj {label what : String} {m m' n n' : Nat} {r s : Text}
    (hwhat : StartsApart (·.isDigit = true) (Text.of what))
    (h : splitCounterLine label m m' what ++ r = splitCounterLine label n n' what ++ s) :
    m = n ∧ m' = n' ∧ r = s := by
  simp only [splitCounterLine, List.append_assoc, List.append_cancel_left_eq] at h
  obtain ⟨rfl, hpart⟩ := delimited_decimal (by simp [Text.of]) (by simp [Text.of]) h
  have hend : ∀ r, StartsApart (·.isDigit = true) (Text.of what ++ (Text.of ")\n" ++ r)) :=
    fun r => hwhat.append (by simp [Text.of])
  obtain ⟨rfl, hrest⟩ := delimited_decimal (hend r) (hend s) (List.append_cancel_left hpart)
  exact ⟨rfl, rfl, List.append_cancel_left (List.append_cancel_left hrest)⟩

/-- The counters of the whole run are told from what follows them, and each from the next; only a
line that begins like the last one, which may be left out, could be taken for it. -/
theorem renderCounters_append_inj {t t' : Tally} {r s : Text} (hr : StartsApart (· = 't') r)
    (hs : StartsApart (· = 't') s) (h : renderCounters t ++ r = renderCounters t' ++ s) :
    t = { t' with cores := t.cores } ∧ r = s := by
  have hblankLine : Delimited (· = 'b') fun n =>
      if n = 0 then [] else counterLine "blank lines skipped:   " n :=
    (delimited_counterLine _).unlessZero fun n => ⟨'b', rfl, rfl⟩
  have hdiscardedLine : Delimited (· = 't') fun n =>
      if n = 0 then [] else Text.of "trailing snapshot:     " ++ Text.decimal n
        ++ Text.of " registers discarded\n" :=
    (delimited_between _ ⟨' ', rfl, by decide⟩).unlessZero fun n => ⟨'t', rfl, rfl⟩
  -- the line after the one on blank lines begins otherwise
  have hclosedLine : ∀ (t : Tally) (r : Text), StartsApart (· = 'b')
      (splitCounterLine "snapshots closed:      " t.closedSnapshots t.droppedSnapshots " dropped"
        ++ r) := by
    intro t r
    simp [splitCounterLine, Text.of]
  simp only [renderCounters, List.append_assoc] at h
  obtain ⟨hlines, h₁⟩ := delimited_counterLine _ startsApart_never startsApart_never h
  obtain ⟨htrace, hunattributed, h₂⟩ := splitCounterLine_append_inj (by simp [Text.of]) h₁
  obtain ⟨hregister, h₃⟩ := delimited_counterLine _ startsApart_never startsApart_never h₂
  obtain ⟨hblank, h₄⟩ := hblankLine (hclosedLine t _) (hclosedLine t' _) h₃
  obtain ⟨hclosed, hdropped, h₅⟩ := splitCounterLine_append_inj (by simp [Text.of]) h₄
  simp only [← List.append_assoc] at h₅
  obtain ⟨hdiscarded, hrest⟩ := hdiscardedLine hr hs h₅
  refine ⟨?_, hrest⟩
  cases t
  cases t'
  simp_all

/-! ## The table of cores -/

/-- A number in a column is told from its padding, also where it is wider than the column. -/
theorem delimited_cell (width : Nat) :
    Delimited (·.isDigit = true) fun n => rightAligned width (Text.decimal n) := by
  have hpadding : ∀ k, ∀ c ∈ List.replicate k ' ', (c == ' ') = true := by
    intro k c hc
    rw [List.eq_of_mem_replicate hc]
    rfl
  have hnumeral : ∀ (n : Nat) (r : Text), StartsApart (fun c => (c == ' ') = true)
      (Text.decimal n ++ r) := by
    intro n r
    obtain ⟨c, cs, hn, hdigit⟩ := exists_decimal_eq_cons n
    rw [hn, List.cons_append, startsApart_cons, beq_iff_eq]
    rintro rfl
    cases hdigit
  intro m n r s hr hs h
  simp only [rightAligned, List.append_assoc] at h
  obtain ⟨-, hcell⟩ :=
    Text.run_append_inj (hpadding _) (hpadding _) (hnumeral m r) (hnumeral n s) h
  exact delimited_decimal hr hs hcell

theorem delimited_renderCore : Delimited Never renderCore := by
  intro c d r s _ _ h
  simp only [renderCore, row, List.append_assoc, List.singleton_append] at h
  obtain ⟨hcore, h₁⟩ := delimited_cell 6 (by simp) (by simp) h
  obtain ⟨htraces, h₂⟩ := delimited_cell 10 (by simp) (by simp) (List.cons.inj h₁).2
  obtain ⟨hsnapshots, h₃⟩ := delimited_cell 10 (by simp) (by simp) (List.cons.inj h₂).2
  obtain ⟨hnew, h₄⟩ := delimited_cell 10 (by simp) (by simp) (List.cons.inj h₃).2
  obtain ⟨hchanged, h₅⟩ := delimited_cell 10 (by simp) (by simp) (List.cons.inj h₄).2
  refine ⟨?_, (List.cons.inj h₅).2⟩
  cases c
  cases d
  simp_all

/-- A row begins with padding or a digit, so that it is not taken for an empty line. -/
theorem exists_head?_renderCore (c : CoreTally) : ∃ d ∈ (renderCore c).head?, d ≠ '\n' := by
  obtain ⟨d, ds, hcore, hdigit⟩ := exists_decimal_eq_cons c.core
  cases hwidth : 6 - (Text.decimal c.core).length with
  | zero =>
    refine ⟨d, ?_, ?_⟩
    · rw [renderCore, row, rightAligned, hwidth, hcore]
      rfl
    · rintro rfl
      cases hdigit
  | succ k =>
    refine ⟨' ', ?_, by decide⟩
    simp [renderCore, row, rightAligned, hwidth, List.replicate_succ]

/-! ## The verdict -/

theorem exceptionLines_inj {es es' : List Text} (hes : ∀ e ∈ es, '\n' ∉ e)
    (hes' : ∀ e ∈ es', '\n' ∉ e)
    (h : (es.flatMap fun code => Text.of "  exception " ++ code ++ ['\n']) =
      es'.flatMap fun code => Text.of "  exception " ++ code ++ ['\n']) : es = es' := by
  have hline : Delimited Never fun l : {l : Text // '\n' ∉ l} =>
      Text.of "  exception " ++ l.1 ++ ['\n'] := by
    rintro ⟨l, hl⟩ ⟨l', hl'⟩ r s - - h
    simp only [List.append_assoc, List.append_cancel_left_eq, List.singleton_append] at h
    obtain ⟨rfl, hrest⟩ := Text.line_append_inj hl hl' h
    exact ⟨rfl, hrest⟩
  lift es to List {l : Text // '\n' ∉ l} using hes
  lift es' to List {l : Text // '\n' ∉ l} using hes'
  rw [List.flatMap_map, List.flatMap_map] at h
  have hlines : Delimited (· = ' ') (List.flatMap fun l : {l : Text // '\n' ∉ l} =>
      Text.of "  exception " ++ l.1 ++ ['\n']) :=
    hline.flatMap fun l => ⟨' ', rfl, rfl⟩
  rw [hlines.injective h]

theorem renderTrial_inj {t t' : Trial} (ht : ∀ e ∈ t.exceptions, '\n' ∉ e)
    (ht' : ∀ e ∈ t'.exceptions, '\n' ∉ e) (h : renderTrial t = renderTrial t') :
    t.status = t'.status ∧ t.exceptions = t'.exceptions := by
  have hstatus : ∀ t : Trial, '\n' ∉ t.status := by
    intro t
    rw [Trial.status]
    split <;> decide
  simp only [renderTrial, List.append_assoc, List.append_cancel_left_eq, List.singleton_append] at h
  obtain ⟨hsame, hlines⟩ := Text.line_append_inj (hstatus t) (hstatus t') h
  refine ⟨hsame, exceptionLines_inj ht ht' ?_⟩
  simpa only [List.append_assoc] using hlines

/-! ## The table as a whole -/

/-- What the table shows of a verdict. -/
def shownOf (t : Trial) : Text × List Text :=
  (t.status, t.exceptions)

/-- The exceptions of a verdict are codes, so that none of them could be taken for two lines. -/
theorem feed_not_mem_exceptions (output successMarker : Text) :
    ∀ e ∈ (Trial.ofOutput output successMarker).exceptions, '\n' ∉ e := by
  intro e he hfeed
  have hdigit := (ExceptionMarker.isCode_of_mem_codes he).2 '\n' hfeed
  exact absurd hdigit (by decide +kernel)

/-- The table shows whether there is a verdict, and its status and exceptions. -/
theorem trialPart_eq_iff {v v' : Option Trial} (hv : ∀ t ∈ v, ∀ e ∈ t.exceptions, '\n' ∉ e)
    (hv' : ∀ t ∈ v', ∀ e ∈ t.exceptions, '\n' ∉ e) :
    (v.map renderTrial).getD [] = (v'.map renderTrial).getD [] ↔
      v.map shownOf = v'.map shownOf := by
  have hne : ∀ t : Trial, renderTrial t ≠ [] := fun t => by simp [renderTrial, Text.of]
  cases v with
  | none =>
    cases v' with
    | none => exact iff_of_true rfl rfl
    | some t' => exact ⟨fun h => absurd h.symm (hne t'), nofun⟩
  | some t =>
    cases v' with
    | none => exact ⟨fun h => absurd h (hne t), nofun⟩
    | some t' =>
      constructor
      · intro h
        obtain ⟨hstatus, hexceptions⟩ := renderTrial_inj (hv t rfl) (hv' t' rfl) h
        exact congrArg some (Prod.ext hstatus hexceptions)
      · intro h
        obtain ⟨hstatus, hexceptions⟩ := Prod.mk.inj (Option.some.inj h)
        simp only [Option.map_some, Option.getD_some, renderTrial, hstatus, hexceptions]

/-- Two summaries have the same table exactly if they have the same counters and show the same of
the verdict. -/
theorem render_eq_iff {s s' : Summary} (hs : ∀ t ∈ s.trial?, ∀ e ∈ t.exceptions, '\n' ∉ e)
    (hs' : ∀ t ∈ s'.trial?, ∀ e ∈ t.exceptions, '\n' ∉ e) :
    s.render = s'.render ↔
      s.tally = s'.tally ∧ s.trial?.map shownOf = s'.trial?.map shownOf := by
  rw [← trialPart_eq_iff hs hs']
  constructor
  · intro h
    have htrial : ∀ v : Option Trial,
        StartsApart (· ≠ '\n') ((v.map renderTrial).getD []) := by
      intro v
      cases v <;> simp [renderTrial, Text.of]
    simp only [render, List.append_assoc] at h
    obtain ⟨hcounters, htable⟩ := renderCounters_append_inj (by simp) (by simp) h
    have hrows := List.append_cancel_left (List.append_cancel_left htable)
    obtain ⟨hcores, hverdict⟩ :=
      delimited_renderCore.flatMap exists_head?_renderCore (htrial _) (htrial _) hrows
    exact ⟨by rw [hcounters, hcores], hverdict⟩
  · rintro ⟨htally, htrial⟩
    rw [render, render, htally, htrial]

/-! ## The JSON document -/

theorem coreJson_injective : Function.Injective coreJson := by
  intro c d h
  cases c
  cases d
  simpa [coreJson] using h

theorem tallyJson_injective : Function.Injective tallyJson := by
  intro t t' h
  simp only [tallyJson, Json.object.injEq, Json.array.injEq, Json.number.injEq, List.cons.injEq,
    Prod.mk.injEq, true_and, and_true, coreJson_injective.list_map.eq_iff] at h
  cases t
  cases t'
  simpa using h

theorem trialJson_injective : Function.Injective trialJson := by
  have hstring : Function.Injective Json.string := fun _ _ => Json.string.inj
  intro t t' h
  simp only [trialJson, Json.object.injEq, Json.array.injEq, Json.bool.injEq, List.cons.injEq,
    Prod.mk.injEq, true_and, and_true, hstring.list_map.eq_iff] at h
  cases t
  cases t'
  simpa using h.2

theorem json_injective : Function.Injective json := by
  rintro ⟨t, v⟩ ⟨t', v'⟩ h
  simp only [json, Json.object.injEq, List.cons_append, List.nil_append, List.cons.injEq,
    Prod.mk.injEq, true_and] at h
  obtain ⟨htally, htrial⟩ := h
  have hv : v = v' := by
    cases v with
    | none =>
      cases v' with
      | none => rfl
      | some u' => cases htrial
    | some u =>
      cases v' with
      | none => cases htrial
      | some u' => simpa [trialJson_injective.eq_iff] using htrial
  rw [tallyJson_injective htally, hv]

/-- Different summaries have different JSON documents. -/
theorem renderJson_injective : Function.Injective renderJson :=
  Json.render_injective.comp json_injective

/-! ## Both summaries -/

/-- Both summaries are faithful. From the table the counters can be told, also where a line is left
out or a number is wider than its column, and whether there is a verdict; and of a verdict its
status and its exceptions in order, so that nothing of it is lost if there are none. The JSON
document tells the counters and the verdict and nothing else. So summaries that are the same in JSON
are the same as tables. -/
theorem summaries_faithful (s s' : Summary)
    (hs : ∀ v ∈ s.trial?, ∃ output marker, v = Trial.ofOutput output marker)
    (hs' : ∀ v ∈ s'.trial?, ∃ output marker, v = Trial.ofOutput output marker) :
    (s.render = s'.render →
      s.tally = s'.tally ∧ s.trial?.isSome = s'.trial?.isSome ∧
      ∀ v ∈ s.trial?, ∀ v' ∈ s'.trial?,
        v.status = v'.status ∧ v.exceptions = v'.exceptions ∧ (v.exceptions = [] → v = v')) ∧
    (s.renderJson = s'.renderJson ↔ s.tally = s'.tally ∧ s.trial? = s'.trial?) ∧
    (s.renderJson = s'.renderJson → s.render = s'.render) := by
  have hfeeds : ∀ s : Summary,
      (∀ v ∈ s.trial?, ∃ output marker, v = Trial.ofOutput output marker) →
      ∀ v ∈ s.trial?, ∀ e ∈ v.exceptions, '\n' ∉ e := by
    intro s hs v hv
    obtain ⟨output, marker, rfl⟩ := hs v hv
    exact feed_not_mem_exceptions output marker
  refine ⟨fun h => ?_, ?_, fun h => congrArg render (renderJson_injective h)⟩
  · obtain ⟨htally, htrial⟩ := (render_eq_iff (hfeeds s hs) (hfeeds s' hs')).1 h
    refine ⟨htally, ?_, fun v hv v' hv' => ?_⟩
    · simpa using congrArg Option.isSome htrial
    · rw [Option.mem_def.1 hv, Option.mem_def.1 hv'] at htrial
      obtain ⟨hstatus, hexceptions⟩ := Prod.mk.inj (Option.some.inj htrial)
      exact ⟨hstatus, hexceptions, fun hnone => Trial.eq_of_status hstatus hexceptions hnone⟩
  · constructor
    · intro h
      rw [renderJson_injective h]
      exact ⟨rfl, rfl⟩
    · rintro ⟨htally, htrial⟩
      rw [renderJson, renderJson, json, json, htally, htrial]

/-- The summary of a run with numbers that are wider than their columns, judged by an output. -/
def wideRun (output : Text) : Summary where
  tally := { lines := 12345678901, traceLines := 12345678901, cores :=
    [{ core := 1234567, traceLines := 12345678901, newRegisters := 2 }, { core := 0 }] }
  trial? := some (Trial.ofOutput output (Text.of "ok"))

/-- The same exception with and without the success marker is the same table, and another JSON
document. -/
theorem summaries_of_wideRuns :
    let silent := wideRun (Text.of "Exception(5)")
    let finished := wideRun (Text.of "Exception(5) ok")
    (∀ v ∈ silent.trial?, ∃ output marker, v = Trial.ofOutput output marker) ∧
      (∀ v ∈ finished.trial?, ∃ output marker, v = Trial.ofOutput output marker) ∧
      silent.render = finished.render ∧ silent.tally = finished.tally ∧
      silent.renderJson ≠ finished.renderJson := by
  intro silent finished
  have hsilent : Trial.ofOutput (Text.of "Exception(5)") (Text.of "ok") =
      ⟨false, [Text.of "5"]⟩ := by
    rw [Trial.ofOutput, ExceptionMarker.codes_eq_filterMap]
    decide +kernel
  have hfinished : Trial.ofOutput (Text.of "Exception(5) ok") (Text.of "ok") =
      ⟨true, [Text.of "5"]⟩ := by
    rw [Trial.ofOutput, ExceptionMarker.codes_eq_filterMap]
    decide +kernel
  have hjudged : ∀ output, ∀ v ∈ (wideRun output).trial?,
      ∃ output marker, v = Trial.ofOutput output marker := by
    rintro output v ⟨⟩
    exact ⟨output, _, rfl⟩
  have hrender : silent.render = finished.render := by
    simp only [silent, finished, wideRun, hsilent, hfinished]
    decide +kernel
  obtain ⟨htable, hjson, -⟩ := summaries_faithful silent finished (hjudged _) (hjudged _)
  refine ⟨hjudged _, hjudged _, hrender, (htable hrender).1, fun h => ?_⟩
  have htrial := Option.some.inj (hjson.1 h).2
  rw [hsilent, hfinished] at htrial
  cases htrial

end Summary

end HartTimeline
