import HartTimeline.Proofs.Run.Step

/-!
# Many lines

A run may be fed any lines with any positions, and may go on after a line has been rejected. Reading
a log is the case in which the positions count up from 0 and the first rejected line ends it.

Main statements: `after_induction`, what every line keeps, all lines keep; `steps_eq`, reading up to
the first rejected line in terms of feeding all lines; `after_congr` and `accepts_congr`, the
positions of lines matter to the reported faults alone.
-/

namespace HartTimeline.Run

/-- The run after lines with their positions; a rejected line is passed over. -/
def after (r : Run) : List (Text × Nat) → Run
  | [] => r
  | line :: rest => (r.step line.2 line.1).1.after rest

/-- What comes of lines with their positions, one after another. -/
def outcomes (r : Run) : List (Text × Nat) → List Outcome
  | [] => []
  | line :: rest => (r.step line.2 line.1).2 :: (r.step line.2 line.1).1.outcomes rest

/-- None of the lines is rejected. -/
def Accepts (r : Run) (lines : List (Text × Nat)) : Prop :=
  ∀ o ∈ r.outcomes lines, o.fault? = none

instance (r : Run) (lines : List (Text × Nat)) : Decidable (r.Accepts lines) :=
  inferInstanceAs (Decidable (∀ o ∈ r.outcomes lines, o.fault? = none))

variable {r : Run} {lines : List (Text × Nat)} {line : Text × Nat}

@[simp] theorem after_nil (r : Run) : r.after [] = r := rfl

@[simp] theorem outcomes_nil (r : Run) : r.outcomes [] = [] := rfl

theorem after_append (r : Run) (lines rest : List (Text × Nat)) :
    r.after (lines ++ rest) = (r.after lines).after rest := by
  induction lines generalizing r with
  | nil => rfl
  | cons line lines ih => exact ih _

theorem outcomes_append (r : Run) (lines rest : List (Text × Nat)) :
    r.outcomes (lines ++ rest) = r.outcomes lines ++ (r.after lines).outcomes rest := by
  induction lines generalizing r with
  | nil => rfl
  | cons line lines ih =>
    rw [List.cons_append, outcomes, outcomes, ih, List.cons_append]
    rfl

theorem after_concat (r : Run) (lines : List (Text × Nat)) (line : Text × Nat) :
    r.after (lines ++ [line]) = ((r.after lines).step line.2 line.1).1 := by
  rw [after_append]; rfl

/-- What every line keeps, all lines keep. -/
theorem after_induction {P : Run → Prop} (hstep : ∀ r index text, P r → P (r.step index text).1)
    (h : P r) (lines : List (Text × Nat)) : P (r.after lines) := by
  induction lines generalizing r with
  | nil => exact h
  | cons line lines ih => exact ih (hstep r line.2 line.1 h)

@[simp] theorem accepts_nil (r : Run) : r.Accepts [] := by
  simp [Accepts]

theorem accepts_append {rest : List (Text × Nat)} :
    r.Accepts (lines ++ rest) ↔ r.Accepts lines ∧ (r.after lines).Accepts rest := by
  simp only [Accepts, outcomes_append, List.mem_append, or_imp, forall_and]

theorem accepts_cons :
    r.Accepts (line :: lines) ↔
      (r.step line.2 line.1).2.fault? = none ∧ (r.step line.2 line.1).1.Accepts lines := by
  simp only [Accepts, outcomes, List.mem_cons, forall_eq_or_imp]

theorem accepts_concat :
    r.Accepts (lines ++ [line]) ↔
      r.Accepts lines ∧ ((r.after lines).step line.2 line.1).2.fault? = none := by
  rw [accepts_append]
  simp [Accepts, outcomes]

theorem accepts_take (h : r.Accepts lines) (k : Nat) : r.Accepts (lines.take k) := by
  rw [← List.take_append_drop k lines, accepts_append] at h
  exact h.1

/-- What comes of a line depends on the run after the lines before it. -/
theorem getElem?_outcomes (r : Run) (lines : List (Text × Nat)) (k : Nat) :
    (r.outcomes lines)[k]? =
      lines[k]?.map fun line => ((r.after (lines.take k)).step line.2 line.1).2 := by
  induction lines generalizing r k with
  | nil => simp
  | cons line lines ih =>
    cases k with
    | zero => simp [outcomes]
    | succ k =>
      rw [outcomes, List.getElem?_cons_succ, List.getElem?_cons_succ, List.take_succ_cons, after,
        ih]

/-! ## What no line changes -/

/-- The options of a run and its numbers of cores and streams stay what they were. -/
theorem step_fixed (r : Run) (index : Nat) (text : Text) :
    (r.step index text).1.skipBlank = r.skipBlank ∧ (r.step index text).1.cores = r.cores ∧
      (r.step index text).1.timeline.cores = r.timeline.cores := by
  have hspec := r.step_spec index text
  generalize r.step index text = out at hspec
  cases hspec with
  | rendered => exact ⟨rfl, Baselines.cores_set _ _ _, rfl⟩
  | _ => exact ⟨rfl, rfl, rfl⟩

theorem after_fixed (r : Run) (lines : List (Text × Nat)) :
    (r.after lines).skipBlank = r.skipBlank ∧ (r.after lines).cores = r.cores ∧
      (r.after lines).timeline.cores = r.timeline.cores := by
  refine after_induction (P := fun r' => r'.skipBlank = r.skipBlank ∧ r'.cores = r.cores ∧
    r'.timeline.cores = r.timeline.cores) ?_ ⟨rfl, rfl, rfl⟩ lines
  rintro r' index text ⟨hskip, hcores, hstreams⟩
  have hstep := step_fixed r' index text
  exact ⟨hstep.1.trans hskip, hstep.2.1.trans hcores, hstep.2.2.trans hstreams⟩

@[simp] theorem cores_start (cores : Nat) (skipBlank : Bool) :
    (start cores skipBlank).cores = cores :=
  Baselines.cores_initial cores

/-- Whatever lines it is fed, a run keeps the number of cores that it was started with. -/
theorem cores_after_start (cores : Nat) (skipBlank : Bool) (lines : List (Text × Nat)) :
    ((start cores skipBlank).after lines).cores = cores ∧
      ((start cores skipBlank).after lines).timeline.cores = cores :=
  ⟨(after_fixed _ lines).2.1.trans (cores_start cores skipBlank), (after_fixed _ lines).2.2⟩

/-! ## Reading a log -/

/-- A rejected line ends the reading, and any other line leaves the rest to be read. -/
theorem steps_cons (r : Run) (index : Nat) (text : Text) (rest : List Text) :
    r.steps index (text :: rest) =
      match (r.step index text).2.fault? with
      | some fault => .error fault
      | none => (r.step index text).1.steps (index + 1) rest := by
  rw [steps]
  rcases r.step index text with ⟨r', outcome⟩
  cases outcome <;> rfl

/-- Reading stops at the first rejected line, and else ends where feeding all lines ends. -/
theorem steps_eq (r : Run) (index : Nat) (texts : List Text) :
    r.steps index texts =
      match (r.outcomes (texts.zipIdx index)).findSome? Outcome.fault? with
      | some fault => .error fault
      | none => .ok (r.after (texts.zipIdx index)) := by
  induction texts generalizing r index with
  | nil => rfl
  | cons text rest ih =>
    rw [List.zipIdx_cons, steps_cons, outcomes, after, List.findSome?_cons]
    -- only a rejected line ends the reading, and then its fault is the first one
    cases h : (r.step index text).2.fault? with
    | some fault => rfl
    | none => exact ih _ _

/-- Reading goes on where it stopped, unless a line has been rejected. -/
theorem steps_append (r : Run) (index : Nat) (texts rest : List Text) :
    r.steps index (texts ++ rest) =
      match r.steps index texts with
      | .error fault => .error fault
      | .ok r' => r'.steps (index + texts.length) rest := by
  rw [steps_eq, steps_eq, List.zipIdx_append, outcomes_append, List.findSome?_append, after_append]
  cases (r.outcomes (texts.zipIdx index)).findSome? Outcome.fault? with
  | some fault => rfl
  | none =>
    show _ = (r.after (texts.zipIdx index)).steps (index + texts.length) rest
    rw [steps_eq, Option.none_or]

theorem steps_eq_ok_iff {index : Nat} {texts : List Text} {r' : Run} :
    r.steps index texts = .ok r' ↔
      r.Accepts (texts.zipIdx index) ∧ r.after (texts.zipIdx index) = r' := by
  rw [steps_eq, Accepts, ← List.findSome?_eq_none_iff]
  -- reading ends well exactly if there is no first fault
  cases (r.outcomes (texts.zipIdx index)).findSome? Outcome.fault? with
  | some fault => simp
  | none => simp

/-- Reading fails for the first line that is rejected. -/
theorem steps_eq_error_iff {index : Nat} {texts : List Text} {fault : LogFault} :
    r.steps index texts = .error fault ↔
      ∃ read text rest, texts = read ++ text :: rest ∧ r.Accepts (read.zipIdx index) ∧
        ((r.after (read.zipIdx index)).step (index + read.length) text).2.fault? = some fault := by
  constructor
  · intro h
    induction texts generalizing r index with
    | nil => cases h
    | cons text rest ih =>
      rw [steps_cons] at h
      cases hfault : (r.step index text).2.fault? with
      | some f =>
        rw [hfault] at h
        obtain rfl : f = fault := Except.error.inj h
        exact ⟨[], text, rest, rfl, accepts_nil r, hfault⟩
      | none =>
        -- the first line is accepted, and reading fails at one of the others
        rw [hfault] at h
        obtain ⟨read, text', rest', hsplit, haccepts, hlast⟩ := ih h
        refine ⟨text :: read, text', rest', by rw [hsplit, List.cons_append],
          accepts_cons.2 ⟨hfault, haccepts⟩, ?_⟩
        rw [List.length_cons, Nat.add_comm read.length, ← Nat.add_assoc]
        exact hlast
  · rintro ⟨read, text, rest, rfl, haccepts, hfault⟩
    rw [steps_append, steps_eq_ok_iff.2 ⟨haccepts, rfl⟩]
    show (r.after (read.zipIdx index)).steps (index + read.length) (text :: rest) = .error fault
    rw [steps_cons, hfault]

/-- A fault is reported with the number of the rejected line. -/
theorem line_of_fault? {index : Nat} {text : Text} {fault : LogFault}
    (h : (r.step index text).2.fault? = some fault) : fault.line = index + 1 := by
  have hspec := r.step_spec index text
  generalize r.step index text = out at hspec h
  cases hspec with
  | badToken | traceOutOfRange | malformed | unattributed | snapshotOutOfRange =>
    cases h
    rfl
  | copied | blank | gathered | dropped | rendered => cases h

/-- A log is read to its end if no line of it is rejected, and leaves what a run holds then. -/
theorem ofLog_eq_ok_iff {cores : Nat} {skipBlank : Bool} {log : Text} {report : Report} :
    Report.ofLog cores skipBlank log = .ok report ↔
      (start cores skipBlank).Accepts (Text.lines log).zipIdx ∧
        ((start cores skipBlank).after (Text.lines log).zipIdx).report = report := by
  rw [Report.ofLog]
  cases hs : (start cores skipBlank).steps 0 (Text.lines log) with
  | error fault =>
    have hrejected : ¬(start cores skipBlank).Accepts (Text.lines log).zipIdx := by
      intro haccepts
      rw [steps_eq_ok_iff.2 ⟨haccepts, rfl⟩] at hs
      cases hs
    simp [Except.map, hrejected]
  | ok r =>
    obtain ⟨haccepts, hafter⟩ := steps_eq_ok_iff.1 hs
    simp [Except.map, haccepts, hafter]

/-- A log is refused for the fault at which its reading ends. -/
theorem ofLog_eq_error_iff {cores : Nat} {skipBlank : Bool} {log : Text} {fault : LogFault} :
    Report.ofLog cores skipBlank log = .error fault ↔
      (start cores skipBlank).steps 0 (Text.lines log) = .error fault := by
  rw [Report.ofLog]
  cases (start cores skipBlank).steps 0 (Text.lines log) <;> simp [Except.map]

/-- A log whose first lines are accepted can only be refused for a later one. -/
theorem lt_line_of_ofLog {cores k : Nat} {skipBlank : Bool} {log : Text} {fault : LogFault}
    (hk : k ≤ (Text.lines log).length)
    (haccepts : (start cores skipBlank).Accepts ((Text.lines log).take k).zipIdx)
    (h : Report.ofLog cores skipBlank log = .error fault) : k < fault.line := by
  rw [ofLog_eq_error_iff, ← List.take_append_drop k (Text.lines log), steps_append,
    steps_eq_ok_iff.2 ⟨haccepts, rfl⟩] at h
  obtain ⟨read, text, rest, -, -, hfault⟩ := steps_eq_error_iff.1 h
  have hline := line_of_fault? hfault
  rw [List.length_take, Nat.min_eq_left hk] at hline
  omega

/-! ## Positions -/

/-- Two results that differ in what is reported of a rejected line at most. -/
def Alike (a b : Run × Outcome) : Prop :=
  a.1 = b.1 ∧ (a.2.fault? = none ↔ b.2.fault? = none)

theorem alike_rejected (r : Run) (f g : LogFault) :
    Alike (r, .rejected f) (r, .rejected g) :=
  ⟨rfl, by simp [Outcome.fault?]⟩

theorem Alike.refl (a : Run × Outcome) : Alike a a :=
  ⟨rfl, Iff.rfl⟩

theorem takeTrace_alike (r : Run) (i j : Nat) (text : Text) (core : Int) :
    Alike (r.takeTrace i text core) (r.takeTrace j text core) := by
  rw [takeTrace, takeTrace, streamOf_eq, streamOf_eq]
  by_cases h : core < r.cores
  · rw [if_pos h, if_pos h]
    exact .refl _
  · rw [if_neg h, if_neg h]
    exact alike_rejected _ _ _

theorem close_alike (r : Run) (i j : Nat) (s : Snapshot) :
    Alike (r.close i s) (r.close j s) := by
  rw [close, close, streamOfSnapshot, streamOfSnapshot]
  cases s.core with
  | error reason => exact alike_rejected _ _ _
  | ok core =>
    simp only [streamOf_eq]
    by_cases h : core < r.cores
    · rw [if_pos h, if_pos h]
      exact .refl _
    · rw [if_neg h, if_neg h]
      exact alike_rejected _ _ _

theorem takeLine_alike (r : Run) (i j : Nat) (text : Text) (kind : Line) :
    Alike (r.takeLine i text kind) (r.takeLine j text kind) := by
  cases kind with
  | trace text core => exact takeTrace_alike r i j text core
  | single name value =>
    simp only [takeLine, takeSingle]
    split
    · exact .refl _
    · exact close_alike _ i j _
  | multi registers => exact .refl _
  | blank => exact .refl _
  | malformed words => exact alike_rejected _ _ _

/-- The position of a line matters to the fault that is reported of it alone. -/
theorem step_alike (r : Run) (i j : Nat) (text : Text) :
    Alike (r.step i text) (r.step j text) := by
  rw [step, step]
  cases Line.ofText r.skipBlank text with
  | error reason => exact alike_rejected _ _ _
  | ok kind => exact takeLine_alike _ _ _ _ _

variable {lines' : List (Text × Nat)}

/-- A run ends in the same state whatever the positions of its lines. -/
theorem after_congr (h : lines.map Prod.fst = lines'.map Prod.fst) :
    r.after lines = r.after lines' := by
  induction lines generalizing r lines' with
  | nil =>
    cases lines' with
    | nil => rfl
    | cons => simp at h
  | cons line rest ih =>
    cases lines' with
    | nil => simp at h
    | cons line' rest' =>
      simp only [List.map_cons, List.cons.injEq] at h
      rw [after, after, ih h.2, h.1, (step_alike r line.2 line'.2 line'.1).1]

/-- Whether lines are accepted does not depend on their positions. -/
theorem accepts_congr (h : lines.map Prod.fst = lines'.map Prod.fst) :
    r.Accepts lines ↔ r.Accepts lines' := by
  induction lines generalizing r lines' with
  | nil =>
    cases lines' with
    | nil => rfl
    | cons => simp at h
  | cons line rest ih =>
    cases lines' with
    | nil => simp at h
    | cons line' rest' =>
      simp only [List.map_cons, List.cons.injEq] at h
      have hstep := step_alike r line.2 line'.2 line'.1
      rw [accepts_cons, accepts_cons, h.1, hstep.2, hstep.1, ih h.2]

end HartTimeline.Run
