import HartTimeline.Proofs.Recording.Restriction
import HartTimeline.Proofs.Run.Agreement

/-!
# Cores do not disturb each other

Two runs read the same log, but the second one is not given the snapshots of other cores than the
chosen ones. Where a chosen snapshot is followed by removed ones, the second run does not see the
line that closed it: it is behind by one block until the next line that it is given closes the
snapshot in its stead.

Main statements: `Follows.step`, one line keeps the second run in step with the first or behind it
in this way, and `blocks_of_restriction`, at the end it has shown the blocks of the chosen cores and
no others.
-/

namespace HartTimeline.Run

open Recording (registers)

variable {chosen : Nat → Bool} {r r' : Run} {text : Text} {index : Nat}

/-! ## What accepted lines do -/

/-- A line without registers shows no block, whether it is accepted or not. -/
theorem step_of_registers (hr : registers text = []) (r : Run) (index : Nat) :
    Alongside r (r.step index text).1 ∧ (r.step index text).1.assembly = r.assembly := by
  have hspec := r.step_spec index text
  generalize r.step index text = out at hspec
  cases hspec with
  | badToken => exact ⟨⟨rfl, rfl, rfl⟩, rfl⟩
  | traceOutOfRange => exact ⟨⟨rfl, rfl, rfl⟩, rfl⟩
  | copied => exact ⟨⟨rfl, rfl, Timeline.blocks_push_trace _ _ _⟩, rfl⟩
  | malformed => exact ⟨⟨rfl, rfl, rfl⟩, rfl⟩
  | blank => exact ⟨⟨rfl, rfl, rfl⟩, rfl⟩
  | gathered some => exact absurd hr some
  | unattributed closed => exact absurd hr (registers_ne_nil_of_closedBy closed)
  | snapshotOutOfRange closed => exact absurd hr (registers_ne_nil_of_closedBy closed)
  | dropped closed => exact absurd hr (registers_ne_nil_of_closedBy closed)
  | rendered closed => exact absurd hr (registers_ne_nil_of_closedBy closed)

/-- Whether it is accepted depends on the options and the number of cores alone. -/
theorem accepts_of_registers (hr : registers text = []) (hskip : r'.skipBlank = r.skipBlank)
    (hcores : r'.cores = r.cores) (haccepts : (r.step index text).2.fault? = none) (index' : Nat) :
    (r'.step index' text).2.fault? = none := by
  have hopen : ∀ r : Run, r.closedBy text = false := by
    intro r
    rw [Bool.eq_false_iff]
    exact fun hclosed => registers_ne_nil_of_closedBy hclosed hr
  cases htrace : Line.isTrace text with
  | true =>
    rw [fault?_of_isTrace htrace] at haccepts ⊢
    rw [hcores]
    cases htoken : traceCore text with
    | error reason =>
      rw [htoken] at haccepts
      cases haccepts
    | ok core =>
      rw [htoken] at haccepts
      simpa using haccepts
  | false =>
    rw [fault?_of_plain htrace (hopen _)] at haccepts ⊢
    rw [hskip]
    simpa using haccepts

theorem alongside_gather (r : Run) (text : Text) : Alongside r (r.gather text) :=
  ⟨rfl, rfl, rfl⟩

/-- An accepted line that closes a snapshot shows it, unless it belongs to no core, and begins the
next one. -/
theorem step_of_closedBy (hclosed : r.closedBy text = true)
    (haccepts : (r.step index text).2.fault? = none) :
    ∃ core : Int, r.assembly.snapshot.core = .ok core ∧ (∀ n ∈ core.toNat?, n < r.cores) ∧
      Alongside (r.settle core.toNat?) (r.step index text).1 ∧
      (r.step index text).1.assembly.snapshot = Assoc.ofList (registers text) := by
  cases hart : r.assembly.snapshot.core with
  | error reason =>
    rw [fault?_of_closedBy hclosed, hart] at haccepts
    cases haccepts
  | ok core =>
    have hrange : core < r.cores := by
      rw [fault?_of_closedBy hclosed, hart] at haccepts
      simpa using haccepts
    refine ⟨core, rfl, ?_⟩
    cases core with
    | negSucc n =>
      rw [step_eq_of_spec (.dropped hclosed hart (Int.negSucc_lt_zero n))]
      exact ⟨fun _ h => (by cases h), ⟨rfl, rfl, rfl⟩, rfl⟩
    | ofNat n =>
      have hlt : n < r.cores := Int.ofNat_lt.1 hrange
      rw [step_eq_of_spec (.rendered hclosed hart hlt rfl)]
      refine ⟨fun m hm => ?_, ⟨rfl, rfl, rfl⟩, rfl⟩
      cases hm
      exact hlt

/-- A line that closes a snapshot of a tracked core is accepted. -/
theorem accepts_of_closedBy {core : Nat} (hclosed : r.closedBy text = true)
    (hart : r.assembly.snapshot.core = .ok core) (hrange : core < r.cores) (index : Nat) :
    (r.step index text).2.fault? = none := by
  rw [step_eq_of_spec (.rendered hclosed hart hrange rfl)]
  rfl

/-- When the first of two runs that agree closes a snapshot of a chosen core, the second one agrees
with it as soon as it has shown the same snapshot. -/
theorem agree_of_closedBy (hagree : Agree chosen r r')
    (hsame : r'.assembly.snapshot = r.assembly.snapshot) (hclosed : r.closedBy text = true)
    (haccepts : (r.step index text).2.fault? = none) {core : Int}
    (hart : r.assembly.snapshot.core = .ok core) (hchosen : core.toNat?.any chosen = true) :
    ∃ n : Nat, core = n ∧ chosen n = true ∧ n < r'.cores ∧
      Agree chosen (r.step index text).1 (r'.settle (some n)) := by
  obtain ⟨core', hart', hrange, hfirst, -⟩ := step_of_closedBy hclosed haccepts
  rw [hart, Except.ok.injEq] at hart'
  subst hart'
  cases hn : core.toNat? with
  | none =>
    rw [hn] at hchosen
    cases hchosen
  | some n =>
    rw [hn, Option.any_some] at hchosen
    rw [hn] at hfirst
    have hlt : n < r.cores := hrange n hn
    refine ⟨n, Int.mem_toNat?.1 hn, hchosen, hagree.cores.symm ▸ hlt, ?_⟩
    exact hfirst.agree.symm.trans (hagree.settle hsame hchosen hlt)

/-! ## In step or one block behind -/

/-- How the second run stands to the first while the open snapshot of the first is not given to it:
it has gathered nothing yet, or a chosen snapshot that the first has closed already. -/
inductive Behind (chosen : Nat → Bool) (r r' : Run) : Prop
  | idle (nothing : r'.assembly.snapshot = Assoc.empty) (agree : Agree chosen r r')
  | pending {core : Nat} (among : chosen core = true) (range : core < r'.cores)
      (counter : r'.assembly.snapshot.contains counterRegister = true)
      (hart : r'.assembly.snapshot.core = .ok core)
      (agree : Agree chosen r (r'.settle (some core)))

/-- The second run after the lines that it was given, when the open snapshot of the first is one
that stays or one that goes. -/
structure Follows (chosen : Nat → Bool) (stays : Prop) (r r' : Run) : Prop where
  confined : Confined chosen r'
  inStep : stays → Agree chosen r r' ∧ r'.assembly.snapshot = r.assembly.snapshot
  behind : ¬stays → Behind chosen r r'

namespace Behind

variable {r₁ : Run}

/-- What the first run shows of other cores does not matter. -/
theorem of_agree (h : Behind chosen r r') (hagree : Agree chosen r r₁) : Behind chosen r₁ r' := by
  cases h with
  | idle nothing agree => exact .idle nothing (hagree.symm.trans agree)
  | pending among range counter hart agree =>
    exact .pending among range counter hart (hagree.symm.trans agree)

/-- Nor does a line that shows nothing and is not gathered. -/
theorem of_alongside (h : Behind chosen r r') (halongside : Alongside r' r₁)
    (hassembly : r₁.assembly = r'.assembly) : Behind chosen r r₁ := by
  cases h with
  | idle nothing agree =>
    exact .idle (by rw [hassembly, nothing]) (agree.trans halongside.agree)
  | pending among range counter hart agree =>
    have hcores : r₁.cores = r'.cores := (halongside.agree : Agree chosen r' r₁).cores
    have hsettle := halongside.agree.settle (by rw [hassembly]) among range
    refine .pending among (hcores ▸ range) ?_ ?_ (agree.trans hsettle)
    · rw [hassembly]
      exact counter
    · rw [hassembly]
      exact hart

theorem options (h : Behind chosen r r') : r'.skipBlank = r.skipBlank ∧ r'.cores = r.cores := by
  cases h with
  | idle nothing agree => exact ⟨agree.skipBlank, agree.cores⟩
  | @pending core among range counter hart agree =>
    have hcores : (r'.settle (some core)).cores = r'.cores := Baselines.cores_set _ _ _
    exact ⟨agree.skipBlank, hcores.symm.trans agree.cores⟩

/-- The next line alone with the program counter is accepted and brings the second run in step: it
closes the snapshot that was pending. -/
theorem catchUp (h : Behind chosen r r') (hconfined : Confined chosen r')
    (hcounter : Recording.isCounterLine text = true) (index : Nat) :
    (r'.step index text).2.fault? = none ∧ Agree chosen r (r'.step index text).1 ∧
      (r'.step index text).1.assembly.snapshot = Assoc.ofList (registers text) ∧
      Confined chosen (r'.step index text).1 := by
  cases h with
  | idle nothing agree =>
    -- there is no counter yet, so the line is gathered and begins the snapshot all the same
    have hopen : r'.closedBy text = false := by
      unfold closedBy
      rw [nothing, hcounter]
      rfl
    have hr := Recording.registers_ne_nil_of_isCounterLine hcounter
    have halongside := alongside_gather r' text
    rw [step_eq_gather hr hopen]
    refine ⟨rfl, agree.trans halongside.agree, ?_, halongside.confined hconfined⟩
    show r'.assembly.snapshot.insertAll (registers text) = _
    rw [nothing, Assoc.ofList]
  | @pending core among range counter hart agree =>
    -- the line closes the pending snapshot, which the first run has shown long before
    have hclosed : r'.closedBy text = true := by
      unfold closedBy
      rw [hcounter, counter]
      rfl
    have haccepts := accepts_of_closedBy hclosed hart range index
    obtain ⟨core', hart', -, halongside, hassembly⟩ := step_of_closedBy hclosed haccepts
    rw [hart, Except.ok.injEq] at hart'
    subst hart'
    exact ⟨haccepts, agree.trans halongside.agree, hassembly,
      halongside.confined (confined_settle hconfined among)⟩

end Behind

/-! ## One line of both runs -/

namespace Follows

variable {stays : Prop}

theorem options (h : Follows chosen stays r r') :
    r'.skipBlank = r.skipBlank ∧ r'.cores = r.cores := by
  by_cases hstays : stays
  · have hagree := (h.inStep hstays).1
    exact ⟨hagree.skipBlank, hagree.cores⟩
  · exact (h.behind hstays).options

/-- A line without registers is given to both runs. -/
theorem of_registers (h : Follows chosen stays r r') (hr : registers text = [])
    (haccepts : (r.step index text).2.fault? = none) (index' : Nat) :
    (r'.step index' text).2.fault? = none ∧
      Follows chosen stays (r.step index text).1 (r'.step index' text).1 := by
  obtain ⟨hskip, hcores⟩ := h.options
  obtain ⟨hfirst, hassembly⟩ := step_of_registers hr r index
  obtain ⟨hsecond, hassembly'⟩ := step_of_registers hr r' index'
  refine ⟨accepts_of_registers hr hskip hcores haccepts index', hsecond.confined h.confined,
    fun hstays => ?_, fun hgoes => ?_⟩
  · obtain ⟨hagree, hsame⟩ := h.inStep hstays
    refine ⟨hfirst.agree.symm.trans (hagree.trans hsecond.agree), ?_⟩
    rw [hassembly, hassembly', hsame]
  · exact ((h.behind hgoes).of_agree hfirst.agree).of_alongside hsecond hassembly'

/-- A register line that closes nothing is gathered by both runs if the open snapshot stays. -/
theorem gather_of_stays (h : Follows chosen stays r r') (hstays : stays)
    (hr : registers text ≠ []) (hopen : r.closedBy text = false) (index' : Nat) :
    (r'.step index' text).2.fault? = none ∧
      Follows chosen stays (r.gather text) (r'.step index' text).1 := by
  obtain ⟨hagree, hsame⟩ := h.inStep hstays
  have hopen' : r'.closedBy text = false := by
    unfold closedBy
    rw [hsame]
    exact hopen
  have hfirst := alongside_gather r text
  have hsecond := alongside_gather r' text
  rw [step_eq_gather hr hopen']
  refine ⟨rfl, hsecond.confined h.confined, fun _ => ⟨?_, ?_⟩, fun hgoes => absurd hstays hgoes⟩
  · exact hfirst.agree.symm.trans (hagree.trans hsecond.agree)
  · show r'.assembly.snapshot.insertAll (registers text) = _
    rw [hsame]
    rfl

/-- It is gathered by the first run alone if the open snapshot goes. -/
theorem gather_of_goes (h : Follows chosen stays r r') (hgoes : ¬stays) (text : Text) :
    Follows chosen stays (r.gather text) r' where
  confined := h.confined
  inStep := fun hstays => absurd hstays hgoes
  behind := fun _ => (h.behind hgoes).of_agree (alongside_gather r text).agree

variable {stays' : Prop}

/-- The line that closes a snapshot of the first run, when the next snapshot stays: it is given to
the second run too, which closes the same snapshot or the one that was pending. -/
theorem close_of_stays (h : Follows chosen stays r r') (hstays' : stays')
    (hclosed : r.closedBy text = true) (haccepts : (r.step index text).2.fault? = none)
    (hstays : ∀ core : Int, r.assembly.snapshot.core = .ok core →
      (stays ↔ core.toNat?.any chosen = true)) (index' : Nat) :
    (r'.step index' text).2.fault? = none ∧
      Follows chosen stays' (r.step index text).1 (r'.step index' text).1 := by
  obtain ⟨core, hart, hrange, hfirst, hassembly⟩ := step_of_closedBy hclosed haccepts
  have hcounter := (closedBy_eq_true_iff.1 hclosed).1
  by_cases hchosen : core.toNat?.any chosen = true
  · -- both runs close the same snapshot.
    obtain ⟨hagree, hsame⟩ := h.inStep ((hstays core hart).2 hchosen)
    obtain ⟨n, rfl, hamong, hlt, hsettled⟩ :=
      agree_of_closedBy hagree hsame hclosed haccepts hart hchosen
    have hclosed' : r'.closedBy text = true := by
      unfold closedBy
      rw [hsame]
      exact hclosed
    have haccepts' := accepts_of_closedBy hclosed' (by rw [hsame, hart]) hlt index'
    obtain ⟨core', hart', -, hsecond, hassembly'⟩ := step_of_closedBy hclosed' haccepts'
    rw [hsame, hart, Except.ok.injEq] at hart'
    subst hart'
    refine ⟨haccepts', hsecond.confined (confined_settle h.confined hamong),
      fun _ => ⟨hsettled.trans hsecond.agree, ?_⟩, fun hgoes' => absurd hstays' hgoes'⟩
    rw [hassembly, hassembly']
  · -- the first run closes a snapshot that the second has not been given.
    have hgoes : ¬stays := fun hs => hchosen ((hstays core hart).1 hs)
    have hunseen : Agree chosen r (r.settle core.toNat?) :=
      agree_settle (by simpa using hchosen) hrange
    obtain ⟨haccepts', hagree, hassembly', hconfined⟩ :=
      (h.behind hgoes).catchUp h.confined hcounter index'
    refine ⟨haccepts', hconfined, fun _ => ⟨?_, ?_⟩, fun hgoes' => absurd hstays' hgoes'⟩
    · exact (hunseen.trans hfirst.agree).symm.trans hagree
    · rw [hassembly, hassembly']

/-- When the next snapshot goes, the line is not given to the second run. If the closed snapshot was
a chosen one, it is pending there from now on. -/
theorem close_of_goes (h : Follows chosen stays r r') (hgoes' : ¬stays')
    (hclosed : r.closedBy text = true) (haccepts : (r.step index text).2.fault? = none)
    (hstays : ∀ core : Int, r.assembly.snapshot.core = .ok core →
      (stays ↔ core.toNat?.any chosen = true)) :
    Follows chosen stays' (r.step index text).1 r' := by
  obtain ⟨core, hart, hrange, hfirst, -⟩ := step_of_closedBy hclosed haccepts
  refine ⟨h.confined, fun hstays' => absurd hstays' hgoes', fun _ => ?_⟩
  by_cases hchosen : core.toNat?.any chosen = true
  · obtain ⟨hagree, hsame⟩ := h.inStep ((hstays core hart).2 hchosen)
    obtain ⟨n, rfl, hamong, hlt, hsettled⟩ :=
      agree_of_closedBy hagree hsame hclosed haccepts hart hchosen
    rw [closedBy, Bool.and_eq_true, ← hsame] at hclosed
    exact .pending hamong hlt hclosed.2 (by rw [hsame, hart]) hsettled
  · have hgoes : ¬stays := fun hs => hchosen ((hstays core hart).1 hs)
    have hunseen : Agree chosen r (r.settle core.toNat?) :=
      agree_settle (by simpa using hchosen) hrange
    exact (h.behind hgoes).of_agree (hunseen.trans hfirst.agree)

variable {cores k : Nat} {log : Recording}

/-- Every line keeps the second run behind the first in the way that the recording says. A line that
is taken away leaves it as it is, and any other line is accepted by it. -/
theorem step (h : Follows chosen (log.Keeps chosen k) r r') (hreads : Reads cores log k r)
    (ht : log[k]? = some text) (haccepts : (r.step index text).2.fault? = none) (index' : Nat) :
    if log.removed chosen k then Follows chosen (log.Keeps chosen (k + 1)) (r.step index text).1 r'
    else (r'.step index' text).2.fault? = none ∧
      Follows chosen (log.Keeps chosen (k + 1)) (r.step index text).1 (r'.step index' text).1 := by
  have hclosedBy := hreads.closedBy_eq ht
  by_cases hr : registers text = []
  · -- a line without registers is given to both runs
    have hopen := Recording.closes_eq_false_of_registers ht hr
    rw [if_neg (by simp [Recording.removed_of_registers ht hr]),
      propext (Recording.keeps_of_not_closes hopen)]
    exact h.of_registers hr haccepts index'
  · have hremoved : log.removed chosen k = true ↔ ¬log.Keeps chosen (k + 1) :=
      Recording.removed_iff ht hr
    cases hc : log.closes k with
    | false =>
      -- the same snapshot is open after the line, so that it decides about the line
      rw [hc] at hclosedBy
      rw [propext (Recording.keeps_of_not_closes hc)] at hremoved ⊢
      rw [step_eq_gather hr hclosedBy]
      by_cases hstays : log.Keeps chosen k
      · rw [if_neg fun hgone => hremoved.1 hgone hstays]
        exact h.gather_of_stays hstays hr hclosedBy index'
      · rw [if_pos (hremoved.2 hstays)]
        exact h.gather_of_goes hstays text
    | true =>
      -- the closed snapshot decides how the runs stand, and the next one about the line
      rw [hc] at hclosedBy
      have hbelongs : ∀ core : Int, r.assembly.snapshot.core = .ok core →
          (log.Keeps chosen k ↔ core.toNat?.any chosen = true) := by
        intro core hart
        rw [hreads.assembly, Recording.core_snapshot_eq_ok_iff] at hart
        rw [Recording.keeps_of_closes hc, Recording.belongs, hart, Option.bind_some]
      by_cases hstays' : log.Keeps chosen (k + 1)
      · rw [if_neg fun hgone => hremoved.1 hgone hstays']
        exact h.close_of_stays hstays' hclosedBy haccepts hbelongs index'
      · rw [if_pos (hremoved.2 hstays')]
        exact h.close_of_goes hstays' hclosedBy haccepts hbelongs

end Follows

/-! ## All lines -/

/-- The lines among the first `k` that stay. -/
def given (lines : List (Text × Nat)) (chosen : Nat → Bool) (k : Nat) : List (Text × Nat) :=
  (Recording.remaining (lines.map Prod.fst) chosen k).filterMap fun j => lines[j]?

variable {cores : Nat} {skipBlank : Bool} {lines kept : List (Text × Nat)}

theorem given_succ {k : Nat} (hk : k < lines.length) :
    given lines chosen (k + 1) =
      given lines chosen k ++
        if Recording.removed (lines.map Prod.fst) chosen k then [] else [lines[k]] := by
  rw [given, Recording.remaining_succ, List.filterMap_append, ← given]
  split
  · rfl
  · simp [List.getElem?_eq_getElem hk]

theorem map_given (lines : List (Text × Nat)) (chosen : Nat → Bool) :
    (given lines chosen lines.length).map Prod.fst =
      Recording.restrict (lines.map Prod.fst) chosen := by
  unfold given
  rw [List.map_filterMap, Recording.restrict, List.length_map]
  simp only [List.getElem?_map]

theorem follows_start (cores : Nat) (skipBlank : Bool) (stays : Prop) :
    Follows chosen stays (start cores skipBlank) (start cores skipBlank) where
  confined := fun b hb => by cases hb
  inStep := fun _ => ⟨.refl _, rfl⟩
  behind := fun _ => .idle rfl (.refl _)

/-- After any number of lines that the first run accepts, the second one has accepted those that it
was given and follows the first. -/
theorem follows_after (chosen : Nat → Bool) (haccepts : (start cores skipBlank).Accepts lines) :
    ∀ k ≤ lines.length, (start cores skipBlank).Accepts (given lines chosen k) ∧
      Follows chosen (Recording.Keeps (lines.map Prod.fst) chosen k)
        ((start cores skipBlank).after (lines.take k))
        ((start cores skipBlank).after (given lines chosen k)) := by
  intro k
  induction k with
  | zero => exact fun _ => ⟨accepts_nil _, follows_start cores skipBlank _⟩
  | succ k ih =>
    intro hk
    obtain ⟨hgiven, hfollows⟩ := ih (by omega)
    have hline : lines[k]? = some lines[k] := List.getElem?_eq_getElem hk
    have ht : (lines.map Prod.fst)[k]? = some lines[k].1 := by
      rw [List.getElem?_map, hline, Option.map_some]
    have htake : lines.take (k + 1) = lines.take k ++ [lines[k]] := by
      rw [List.take_add_one, hline, Option.toList_some]
    -- the line is accepted by the first run, and given to the second unless it is taken away
    have hlast := accepts_take haccepts (k + 1)
    rw [htake, accepts_concat] at hlast
    have hreads := Reads.after cores skipBlank lines k (by omega)
    have hstep := hfollows.step hreads ht hlast.2 lines[k].2
    rw [htake, after_concat, given_succ hk]
    cases hremoved : Recording.removed (lines.map Prod.fst) chosen k with
    | true =>
      rw [hremoved, if_pos rfl] at hstep
      rw [if_pos rfl, List.append_nil]
      exact ⟨hgiven, hstep⟩
    | false =>
      rw [hremoved, if_neg (by decide)] at hstep
      rw [if_neg (by decide), accepts_concat, after_concat]
      exact ⟨⟨hgiven, hstep.1⟩, hstep.2⟩

/-- Cores do not disturb each other. From lines that a run accepts, take away the register lines of
every closed snapshot that belongs to none of the chosen cores. A run accepts what remains; it shows
the blocks of the chosen cores that were shown before, the same with the same texts and in the same
order, in the stream of all entries and in each of their own streams, and no block of another core;
and the open snapshot that it discards is as large as before. -/
theorem blocks_of_restriction (cores : Nat) (skipBlank : Bool) (chosen : Nat → Bool)
    (lines kept : List (Text × Nat)) (haccepts : (start cores skipBlank).Accepts lines)
    (hkept : kept.map Prod.fst = Recording.restrict (lines.map Prod.fst) chosen) :
    let full := (start cores skipBlank).after lines
    let part := (start cores skipBlank).after kept
    (start cores skipBlank).Accepts kept ∧
      part.timeline.blocks = (full.timeline.blocks.filter fun b => chosen b.core) ∧
      part.timeline.blocks.map Block.render =
        (full.timeline.blocks.filter fun b => chosen b.core).map Block.render ∧
      (∀ core, chosen core = true →
        part.timeline.coreBlocks core = full.timeline.coreBlocks core ∧
        (part.timeline.coreBlocks core).map Block.render =
          (full.timeline.coreBlocks core).map Block.render) ∧
      (∀ core, chosen core = false → part.timeline.coreBlocks core = []) ∧
      part.report.tally.discardedRegisters = full.report.tally.discardedRegisters := by
  intro full part
  have hfst : kept.map Prod.fst = (given lines chosen lines.length).map Prod.fst := by
    rw [hkept, map_given]
  obtain ⟨hgiven, hfollows⟩ := follows_after chosen haccepts lines.length (Nat.le_refl _)
  rw [List.take_length, ← after_congr hfst] at hfollows
  rw [← accepts_congr hfst] at hgiven
  -- the snapshot that is open at the end stays, so that the second run has caught up
  have hend := Recording.keeps_length (lines.map Prod.fst) chosen
  rw [List.length_map] at hend
  obtain ⟨hagree, hsame⟩ := hfollows.inStep hend
  have hblocks : part.timeline.blocks = full.timeline.blocks.filter fun b => chosen b.core := by
    rw [← hagree.blocks, List.filter_eq_self.2 hfollows.confined]
  refine ⟨hgiven, hblocks, congrArg _ hblocks, fun core hcore => ?_, fun core hcore => ?_, ?_⟩
  · have hown : part.timeline.coreBlocks core = full.timeline.coreBlocks core := by
      rw [Timeline.coreBlocks_eq, Timeline.coreBlocks_eq, hblocks, List.filter_filter]
      refine List.filter_congr fun b _ => ?_
      by_cases hb : b.core = core <;> simp [hb, hcore]
    exact ⟨hown, congrArg _ hown⟩
  · rw [Timeline.coreBlocks_eq, List.filter_eq_nil_iff]
    intro b hb hself
    have hamong := hfollows.confined b hb
    rw [of_decide_eq_true hself, hcore] at hamong
    cases hamong
  · show part.assembly.snapshot.size = full.assembly.snapshot.size
    rw [hsame]

/-- Snapshots of two cores in turn. -/
def interleaved : Recording :=
  ["mhartid 1", "pc 10", "pc 20", "mhartid 2", "pc 14", "mhartid 1", "pc 18"].map Text.of

/-- Without the snapshot of the second core, the first core's two blocks are what they were. -/
theorem blocks_of_interleaved :
    let kept := (["mhartid 1", "pc 10", "pc 14", "mhartid 1", "pc 18"].map Text.of).zipIdx
    (start 2 false).Accepts interleaved.zipIdx ∧ (start 2 false).Accepts kept ∧
      ((start 2 false).after kept).timeline.blocks =
        [⟨0, [.new (Text.of "mhartid") (Text.of "1"), .new (Text.of "pc") (Text.of "10")]⟩,
          ⟨0, [.changed (Text.of "pc") (Text.of "10") (Text.of "14")]⟩] ∧
      ((start 2 false).after kept).timeline.blocks.map Block.render =
        [Text.of "Core 0:\nmhartid = 1\npc = 10\n\n", Text.of "Core 0:\npc = 10 -> 14\n\n"] ∧
      ((start 2 false).after kept).report.tally.discardedRegisters = 1 := by
  intro kept
  have haccepts : (start 2 false).Accepts interleaved.zipIdx := by decide +kernel
  have hkept : kept.map Prod.fst =
      Recording.restrict (interleaved.zipIdx.map Prod.fst) fun core => core = 0 := by
    decide +kernel
  obtain ⟨hrest, hblocks, htexts, -, -, hdiscarded⟩ := blocks_of_restriction 2 false
    (fun core => core = 0) interleaved.zipIdx kept haccepts hkept
  refine ⟨haccepts, hrest, hblocks.trans ?_, htexts.trans ?_, hdiscarded.trans ?_⟩
  · decide +kernel
  · decide +kernel
  · decide +kernel

end HartTimeline.Run
