import HartTimeline.Diff
import HartTimeline.Proofs.Assoc.Collected

/-!
# Replaying changes

A reader of blocks holds a map, empty at first, and sets a register at each change. The map only
grows, while every block was written against one snapshot alone: a register that was not in that
snapshot may well be in the map. What carries over from block to block is that the reader agrees
with the last snapshot on the registers of that snapshot, and this is all that the next block needs.

Main statements: `allFit_chain`, every old value that is shown is the one the reader holds, and
`within_replay_chain`, after each block the reader agrees with the snapshot it was written for.
-/

namespace HartTimeline

namespace Change

/-- What a reader holds after a change. -/
def apply (m : Snapshot) (c : Change) : Snapshot :=
  m.insert c.name c.value

/-- What a reader holds after some changes. -/
def replay (m : Snapshot) (cs : List Change) : Snapshot :=
  cs.foldl apply m

/-- A change fits what a reader holds: the old value that it shows is held and is not the new
one. -/
def Fits (m : Snapshot) : Change → Prop
  | new .. => True
  | changed n old v => m.get? n = some old ∧ old ≠ v

/-- Every change fits what a reader holds on coming to it. -/
def AllFit (m : Snapshot) : List Change → Prop
  | [] => True
  | c :: cs => Fits m c ∧ AllFit (apply m c) cs

variable {m : Snapshot} {name value : Text} {cs : List Change}

@[simp] theorem replay_nil (m : Snapshot) : replay m [] = m := rfl

@[simp] theorem replay_cons (m : Snapshot) (c : Change) (cs : List Change) :
    replay m (c :: cs) = replay (apply m c) cs := rfl

theorem replay_append (m : Snapshot) (cs ds : List Change) :
    replay m (cs ++ ds) = replay (replay m cs) ds :=
  List.foldl_append

theorem allFit_append {ds : List Change} :
    AllFit m (cs ++ ds) ↔ AllFit m cs ∧ AllFit (replay m cs) ds := by
  induction cs generalizing m with
  | nil => simp [AllFit]
  | cons c cs ih => simp [AllFit, ih, and_assoc]

theorem get?_apply (m : Snapshot) (c : Change) (name : Text) :
    (apply m c).get? name = if c.name = name then some c.value else m.get? name :=
  Assoc.get?_insert m c.name name c.value

/-- Changes of other registers leave a register as it is. -/
theorem get?_replay_of_not_mem (h : name ∉ cs.map Change.name) :
    (replay m cs).get? name = m.get? name := by
  induction cs generalizing m with
  | nil => rfl
  | cons c cs ih =>
    simp only [List.map_cons, List.mem_cons, not_or] at h
    have hne : c.name ≠ name := fun e => h.1 e.symm
    rw [replay_cons, ih h.2, get?_apply, if_neg hne]

/-- A reader that begins with nothing holds no register that it was not shown. -/
theorem mem_of_get?_replay (h : (replay Assoc.empty cs).get? name = some value) :
    name ∈ cs.map Change.name := by
  by_contra hnot
  rw [get?_replay_of_not_mem hnot] at h
  cases h

end Change

open Change (replay AllFit)

/-! ## One entry -/

namespace Change

variable {previous m : Snapshot} {name value : Text}

/-- A register that was not there is shown as new, and one with another value with that value. -/
theorem of?_eq_some_iff {c : Change} :
    of? previous name value = some c ↔
      c = new name value ∧ previous.get? name = none ∨
        ∃ old, c = changed name old value ∧ previous.get? name = some old ∧ old ≠ value := by
  rw [of?]
  cases previous.get? name with
  | none => simp [eq_comm]
  | some old =>
    by_cases h : old = value
    · simp [h]
    · simp only [h, if_false, Option.some.injEq, reduceCtorEq, and_false, false_or]
      constructor
      · rintro rfl
        exact ⟨old, rfl, rfl, h⟩
      · rintro ⟨old', rfl, rfl, -⟩
        rfl

/-- A change shows the register that it was made for. -/
theorem name_of_of? {c : Change} (h : of? previous name value = some c) : c.name = name := by
  obtain ⟨rfl, -⟩ | ⟨old, rfl, -⟩ := of?_eq_some_iff.1 h
  · rfl
  · rfl

/-- A reader that holds a register as the snapshot before does is shown a change that fits, and then
holds the new value and all else as before. With no change to show, it has the value already. -/
theorem replay_of? (value : Text)
    (hm : ∀ old, previous.get? name = some old → m.get? name = some old) :
    AllFit m (of? previous name value).toList ∧
      ∀ other, (replay m (of? previous name value).toList).get? other =
        if name = other then some value else m.get? other := by
  rw [of?]
  cases hold : previous.get? name with
  | none =>
    refine ⟨⟨trivial, trivial⟩, fun other => ?_⟩
    exact get?_apply m (new name value) other
  | some old =>
    have hheld := hm old hold
    by_cases heq : old = value
    · subst heq
      simp only [if_true, Option.toList_none, replay_nil]
      refine ⟨trivial, fun other => ?_⟩
      by_cases hname : name = other
      · rw [if_pos hname, ← hname, hheld]
      · rw [if_neg hname]
    · simp only [heq, if_false, Option.toList_some]
      refine ⟨⟨⟨hheld, heq⟩, trivial⟩, fun other => ?_⟩
      exact get?_apply m (changed name old value) other

end Change

/-! ## One block -/

/-- Every register of a snapshot has the same value in a map. -/
def Snapshot.Within (s m : Snapshot) : Prop :=
  ∀ name value, s.get? name = some value → m.get? name = some value

theorem Snapshot.within_empty (m : Snapshot) :
    ((none : Option Snapshot).getD Assoc.empty).Within m :=
  fun _ _ h => by cases h

namespace Change

variable {previous m : Snapshot} {name value : Text} {es : List (Text × Text)}

/-- The changes of some entries against a snapshot. -/
def against (previous : Snapshot) (es : List (Text × Text)) : List Change :=
  es.filterMap fun e => of? previous e.1 e.2

theorem against_cons (previous : Snapshot) (e : Text × Text) (es : List (Text × Text)) :
    against previous (e :: es) = (of? previous e.1 e.2).toList ++ against previous es := by
  unfold against
  rw [List.filterMap_cons]
  cases of? previous e.1 e.2 <;> rfl

/-- Only registers of the entries change. -/
theorem mem_keys_of_mem_against (h : name ∈ (against previous es).map Change.name) :
    name ∈ es.map Prod.fst := by
  obtain ⟨c, hc, rfl⟩ := List.mem_map.1 h
  obtain ⟨e, he, hof⟩ := List.mem_filterMap.1 hc
  rw [name_of_of? hof]
  exact List.mem_map_of_mem he

/-- The changes of entries with different keys fit a reader that holds the entries' registers as the
snapshot before does, and leave it with the entries. No change disturbs the later ones, since it
sets another register. -/
theorem replay_against (hnodup : (es.map Prod.fst).Nodup)
    (hm : ∀ name ∈ es.map Prod.fst, ∀ old,
      previous.get? name = some old → m.get? name = some old) :
    AllFit m (against previous es) ∧ ∀ name value, Assoc.find? name es = some value →
      (replay m (against previous es)).get? name = some value := by
  induction es generalizing m with
  | nil => exact ⟨trivial, fun _ _ h => by cases h⟩
  | cons e es ih =>
    obtain ⟨n, v⟩ := e
    obtain ⟨hfirst, hrest⟩ := List.nodup_cons.1 hnodup
    -- the first entry is settled by its own change, and the later ones do not see it
    obtain ⟨hfits, hget⟩ := replay_of? v (hm n List.mem_cons_self)
    have hothers : ∀ name ∈ es.map Prod.fst, ∀ old, previous.get? name = some old →
        (replay m (of? previous n v).toList).get? name = some old := by
      intro name hname old hold
      have hne : n ≠ name := fun e => hfirst (e ▸ hname)
      rw [hget, if_neg hne]
      exact hm name (List.mem_cons_of_mem _ hname) old hold
    obtain ⟨hallFit, hentries⟩ := ih hrest hothers
    rw [against_cons, allFit_append, replay_append]
    refine ⟨⟨hfits, hallFit⟩, fun name value hvalue => ?_⟩
    by_cases hname : n = name
    · subst hname
      have hv : v = value := by simpa [Assoc.find?] using hvalue
      -- the register is not among the later ones, so that none of them sets it again
      rw [get?_replay_of_not_mem fun h => hfirst (mem_keys_of_mem_against h), hget, if_pos rfl, hv]
    · exact hentries name value (by simpa [Assoc.find?, hname] using hvalue)

end Change

namespace Block

variable {core : Nat} {previous : Option Snapshot} {next m : Snapshot}

/-- A reader that agrees with the snapshot before is shown a block that fits, and then agrees with
the snapshot that the block was written for. -/
theorem replay_between (core : Nat) (next : Snapshot)
    (hm : (previous.getD Assoc.empty).Within m) :
    AllFit m (between core previous next).changes ∧
      next.Within (replay m (between core previous next).changes) :=
  Change.replay_against next.nodup_keys fun name _ old hold => hm name old hold

/-! ## One block after another -/

/-- The blocks of a core for snapshots that follow one another, each written against the snapshot
before it. -/
def chain (core : Nat) (previous : Option Snapshot) : List Snapshot → List Block
  | [] => []
  | s :: rest => between core previous s :: chain core (some s) rest

@[simp] theorem length_chain (core : Nat) (previous : Option Snapshot) (ss : List Snapshot) :
    (chain core previous ss).length = ss.length := by
  induction ss generalizing previous with
  | nil => rfl
  | cons s ss ih => rw [chain, List.length_cons, ih, List.length_cons]

/-- One more snapshot adds the block against the one that was last before. -/
theorem chain_concat (core : Nat) (previous : Option Snapshot) (ss : List Snapshot)
    (s : Snapshot) :
    chain core previous (ss ++ [s]) =
      chain core previous ss ++ [between core (ss.getLast?.or previous) s] := by
  induction ss generalizing previous with
  | nil => rfl
  | cons first ss ih =>
    -- without later snapshots, the first one is what the next block is written against
    have hlast : (first :: ss).getLast?.or previous = ss.getLast?.or (some first) := by
      cases ss with
      | nil => rfl
      | cons s' ss => rw [List.getLast?_cons_cons]; simp [List.getLast?_cons]
    rw [List.cons_append, chain, ih, chain, List.cons_append, hlast]

/-- The changes that the blocks show, one after another. -/
def shown (bs : List Block) : List Change :=
  bs.flatMap Block.changes

theorem flatten_map_changes (bs : List Block) : (bs.map Block.changes).flatten = shown bs :=
  List.flatMap_def.symm

@[simp] theorem shown_nil : shown [] = [] := rfl

@[simp] theorem shown_cons (b : Block) (bs : List Block) :
    shown (b :: bs) = b.changes ++ shown bs :=
  List.flatMap_cons

theorem shown_append (bs bs' : List Block) : shown (bs ++ bs') = shown bs ++ shown bs' :=
  List.flatMap_append

/-- A block leaves the registers that it does not show as they are. -/
theorem get?_replay_take_succ {bs : List Block} {i : Nat} {name : Text}
    (h : ∀ b ∈ bs[i]?, name ∉ b.changes.map Change.name) :
    (replay m (shown (bs.take (i + 1)))).get? name =
      (replay m (shown (bs.take i))).get? name := by
  rw [List.take_add_one, shown_append, Change.replay_append]
  cases hb : bs[i]? with
  | none => rfl
  | some b =>
    have hnot := h b hb
    rw [Option.toList_some, shown_cons, shown_nil, List.append_nil,
      Change.get?_replay_of_not_mem hnot]

/-- Every old value that the blocks show is the one that the reader holds. -/
theorem allFit_chain (core : Nat) (ss : List Snapshot)
    (hm : (previous.getD Assoc.empty).Within m) : AllFit m (shown (chain core previous ss)) := by
  induction ss generalizing previous m with
  | nil => trivial
  | cons s ss ih =>
    obtain ⟨hfirst, hwithin⟩ := replay_between core s hm
    rw [chain, shown_cons, Change.allFit_append]
    exact ⟨hfirst, ih hwithin⟩

/-- After each block, the reader agrees with the snapshot that the block was written for. -/
theorem within_replay_chain {ss : List Snapshot} {s : Snapshot} {i : Nat}
    (hm : (previous.getD Assoc.empty).Within m) (hs : ss[i]? = some s) :
    s.Within (replay m (shown ((chain core previous ss).take (i + 1)))) := by
  induction ss generalizing previous m i with
  | nil => cases hs
  | cons first ss ih =>
    obtain ⟨-, hwithin⟩ := replay_between core first hm
    rw [chain, List.take_succ_cons, shown_cons, Change.replay_append]
    cases i with
    | zero =>
      rw [List.getElem?_cons_zero, Option.some.injEq] at hs
      rw [List.take_zero, shown_nil, Change.replay_nil, ← hs]
      exact hwithin
    | succ i => exact ih hwithin (by rwa [List.getElem?_cons_succ] at hs)

/-- Only registers of the snapshots are shown. -/
theorem exists_of_mem_shown_chain {ss : List Snapshot} {name : Text}
    (h : name ∈ (shown (chain core previous ss)).map Change.name) :
    ∃ s ∈ ss, name ∈ s.entries.map Prod.fst := by
  induction ss generalizing previous with
  | nil => cases h
  | cons s ss ih =>
    rw [chain, shown_cons, List.map_append, List.mem_append] at h
    rcases h with h | h
    · exact ⟨s, List.mem_cons_self, Change.mem_keys_of_mem_against h⟩
    · obtain ⟨s', hs', hname⟩ := ih h
      exact ⟨s', List.mem_cons_of_mem s hs', hname⟩

end Block

end HartTimeline
