import HartTimeline.Assembly
import HartTimeline.Proofs.Recording

/-!
# Where snapshots are cut

An assembly is fed registers and finished, in any order and any number of times. What is done
between two ends of the input is an epoch. Which registers belong together is said here of the list
of all that is done, by positions counted from 0: a program counter on its own cuts if any register
of the same epoch before it was a program counter, and so does the end of the input.

The assembly itself only looks at what it holds. That this comes to the same is
`counter_mem_gathered_iff`: what is held has a program counter as soon as the epoch has had one,
since the counter that cuts is the first register of the next piece.

Main statement: `cut_at_counters`.
-/

namespace HartTimeline

namespace Assembly

open Recording (latestBefore latestBefore_succ latestBefore_eq_some_iff take_succ)

/-! ## What is done to an assembly -/

/-- Something that is done to an assembly. -/
inductive Op
  | single (name value : Text)
  | multi (registers : List Register)
  | finish
deriving DecidableEq, Repr

/-- The assembly after it. -/
def perform (a : Assembly) : Op → Assembly
  | .single name value => (a.single name value).1
  | .multi registers => a.multi registers
  | .finish => a.finish.1

/-- The assembly after some of them, one after another. -/
def performAll (a : Assembly) (ops : List Op) : Assembly :=
  ops.foldl perform a

namespace Op

/-- The registers that it brings. -/
def registers : Op → List Register
  | single name value => [(name, value)]
  | multi registers => registers
  | finish => []

/-- Whether it brings a program counter, alone or among others. -/
def givesCounter (op : Op) : Bool :=
  counterRegister ∈ op.registers.map Prod.fst

/-- Whether it brings a program counter on its own. -/
def isCounter : Op → Bool
  | single name _ => name = counterRegister
  | _ => false

end Op

/-! ## Pieces by position -/

/-- Where the epoch of position `k` begins: after the last end of the input before it. -/
def epochStart (ops : List Op) (k : Nat) : Nat :=
  (latestBefore (fun j => ops[j]? = some .finish) k).elim 0 (· + 1)

/-- What has been done before position `k` in its epoch. -/
def epoch (ops : List Op) (k : Nat) : List Op :=
  (ops.take k).drop (epochStart ops k)

/-- Whether a snapshot is closed at position `k`: a program counter comes on its own, and another
one has come before it in the epoch. -/
def closesAt (ops : List Op) (k : Nat) : Bool :=
  ops[k]?.any Op.isCounter && (epoch ops k).any Op.givesCounter

/-- Where the piece begins that is open before position `k`: at the position that closed the piece
before it, or at the start of the epoch. -/
def opening (ops : List Op) (k : Nat) : Nat :=
  max (epochStart ops k) ((latestBefore (closesAt ops) k).getD 0)

/-- The registers of the piece that is open before position `k`, in order. -/
def gathered (ops : List Op) (k : Nat) : List Register :=
  ((ops.take k).drop (opening ops k)).flatMap Op.registers

/-- Whether a piece ends at position `k`. -/
def cutsAt (ops : List Op) (k : Nat) : Bool :=
  closesAt ops k || ops[k]? = some .finish

/-! ## One more position -/

variable {ops : List Op} {k : Nat} {op : Op}

@[simp] theorem epochStart_zero (ops : List Op) : epochStart ops 0 = 0 := rfl

@[simp] theorem gathered_zero (ops : List Op) : gathered ops 0 = [] := by
  simp [gathered]

theorem epochStart_succ (h : ops[k]? = some op) :
    epochStart ops (k + 1) = if op = .finish then k + 1 else epochStart ops k := by
  rw [epochStart, latestBefore_succ, h]
  by_cases hfinish : op = .finish <;> simp [hfinish, epochStart]

theorem epochStart_le (ops : List Op) (k : Nat) : epochStart ops k ≤ k := by
  rw [epochStart]
  cases h : latestBefore (fun j => decide (ops[j]? = some .finish)) k with
  | none => exact Nat.zero_le k
  | some j => exact (latestBefore_eq_some_iff.1 h).1

theorem opening_le (ops : List Op) (k : Nat) : opening ops k ≤ k := by
  refine Nat.max_le.2 ⟨epochStart_le ops k, ?_⟩
  cases h : latestBefore (closesAt ops) k with
  | none => exact Nat.zero_le k
  | some j => exact Nat.le_of_lt (latestBefore_eq_some_iff.1 h).1

theorem epoch_succ (h : ops[k]? = some op) :
    epoch ops (k + 1) = if op = .finish then [] else epoch ops k ++ [op] := by
  have hk : k < ops.length := (List.getElem?_eq_some_iff.1 h).1
  have hle := epochStart_le ops k
  rw [epoch, epochStart_succ h]
  by_cases hfinish : op = .finish
  · rw [if_pos hfinish, if_pos hfinish]
    exact List.drop_of_length_le (List.length_take_le (k + 1) ops)
  · rw [if_neg hfinish, if_neg hfinish, take_succ h,
      List.drop_append_of_le_length (by simp; omega), epoch]

/-- Nothing is closed at an end of the input. -/
theorem closesAt_of_finish (h : ops[k]? = some .finish) : closesAt ops k = false := by
  simp [closesAt, h, Op.isCounter]

/-- After an end of the input nothing is held. -/
theorem gathered_succ_of_finish (h : ops[k]? = some .finish) : gathered ops (k + 1) = [] := by
  have hopen : k + 1 ≤ opening ops (k + 1) := by
    rw [opening, epochStart_succ h, if_pos rfl]
    exact Nat.le_max_left _ _
  rw [gathered, List.drop_of_length_le (Nat.le_trans (List.length_take_le (k + 1) ops) hopen),
    List.flatMap_nil]

/-- A program counter that closes a piece is the first of the next one. -/
theorem gathered_succ_of_closesAt (h : ops[k]? = some op) (hc : closesAt ops k = true) :
    gathered ops (k + 1) = op.registers := by
  have hk : k < ops.length := (List.getElem?_eq_some_iff.1 h).1
  have hfinish : op ≠ .finish := by
    rintro rfl
    rw [closesAt_of_finish h] at hc
    cases hc
  have hle := epochStart_le ops k
  have hopen : opening ops (k + 1) = k := by
    rw [opening, epochStart_succ h, if_neg hfinish, latestBefore_succ, if_pos hc, Option.getD_some]
    exact Nat.max_eq_right hle
  rw [gathered, hopen, take_succ h, List.drop_append_of_le_length (by simp; omega)]
  simp

/-- Anything else adds its registers to the open piece. -/
theorem gathered_succ (h : ops[k]? = some op) (hfinish : op ≠ .finish)
    (hc : closesAt ops k = false) : gathered ops (k + 1) = gathered ops k ++ op.registers := by
  have hk : k < ops.length := (List.getElem?_eq_some_iff.1 h).1
  have hle := opening_le ops k
  have hopen : opening ops (k + 1) = opening ops k := by
    rw [opening, epochStart_succ h, if_neg hfinish, latestBefore_succ, if_neg (by simp [hc]),
      ← opening]
  rw [gathered, hopen, take_succ h, List.drop_append_of_le_length (by simp; omega),
    List.flatMap_append, List.flatMap_cons, List.flatMap_nil, List.append_nil, ← gathered]

/-- A program counter on its own is brought. -/
theorem Op.givesCounter_of_isCounter (h : op.isCounter = true) : op.givesCounter = true := by
  cases op with
  | single name value =>
    have hname : name = counterRegister := by simpa [isCounter] using h
    simp [givesCounter, registers, hname]
  | multi registers => cases h
  | finish => cases h

/-- What is held has a program counter exactly if the epoch has had one. -/
theorem counter_mem_gathered_iff (hk : k ≤ ops.length) :
    counterRegister ∈ (gathered ops k).map Prod.fst ↔
      (epoch ops k).any Op.givesCounter = true := by
  induction k with
  | zero => simp [epoch]
  | succ k ih =>
    obtain ⟨op, h⟩ : ∃ op, ops[k]? = some op := ⟨_, List.getElem?_eq_getElem (by omega)⟩
    rw [epoch_succ h]
    by_cases hfinish : op = .finish
    · subst hfinish
      simp [gathered_succ_of_finish h]
    · rw [if_neg hfinish, List.any_append]
      cases hc : closesAt ops k with
      | true =>
        -- the piece begins anew, but what closes it brings a counter
        have hcounter : op.isCounter = true := by
          rw [closesAt, h, Option.any_some, Bool.and_eq_true] at hc
          exact hc.1
        have hgives := Op.givesCounter_of_isCounter hcounter
        rw [gathered_succ_of_closesAt h hc]
        refine iff_of_true ?_ (by simp [hgives])
        simpa only [Op.givesCounter, decide_eq_true_eq] using hgives
      | false =>
        rw [gathered_succ h hfinish hc, List.map_append, List.mem_append, ih (by omega),
          Bool.or_eq_true]
        simp [Op.givesCounter]

/-- What is gathered comes last in the epoch. -/
theorem gathered_suffix (ops : List Op) (k : Nat) :
    gathered ops k <:+ (epoch ops k).flatMap Op.registers := by
  have hle : epochStart ops k ≤ opening ops k := Nat.le_max_left _ _
  have hdrop : (ops.take k).drop (opening ops k) =
      (epoch ops k).drop (opening ops k - epochStart ops k) := by
    rw [epoch, List.drop_drop, Nat.add_sub_cancel' hle]
  rw [gathered, hdrop]
  refine ⟨((epoch ops k).take (opening ops k - epochStart ops k)).flatMap Op.registers, ?_⟩
  rw [← List.flatMap_append, List.take_append_drop]

/-- In an epoch without registers nothing is gathered. -/
theorem gathered_eq_nil (h : (epoch ops k).flatMap Op.registers = []) : gathered ops k = [] :=
  List.suffix_nil.1 (h ▸ gathered_suffix ops k)

/-! ## What the assembly holds -/

/-- What an assembly holds before position `k`: what is gathered, if the epoch has begun. -/
def Holds (ops : List Op) (k : Nat) (a : Assembly) : Prop :=
  a.current? = if epoch ops k = [] then none else some (Assoc.ofList (gathered ops k))

namespace Holds

variable {a : Assembly}

theorem snapshot_eq (ha : Holds ops k a) : a.snapshot = Assoc.ofList (gathered ops k) := by
  rw [snapshot, ha]
  by_cases h : epoch ops k = []
  · rw [if_pos h, gathered_eq_nil (by rw [h, List.flatMap_nil])]
    rfl
  · rw [if_neg h, Option.getD_some]

/-- A program counter on its own is found to close exactly if it does. -/
theorem closes_eq (ha : Holds ops k a) {name value : Text}
    (h : ops[k]? = some (.single name value)) : a.closes name = closesAt ops k := by
  have hk : k ≤ ops.length := Nat.le_of_lt (List.getElem?_eq_some_iff.1 h).1
  have hcontains : a.snapshot.contains counterRegister = (epoch ops k).any Op.givesCounter := by
    rw [Bool.eq_iff_iff, ← counter_mem_gathered_iff hk, ha.snapshot_eq, Assoc.contains,
      Assoc.get?_ofList, Assoc.isSome_lastValue?]
  rw [closes, closesAt, h, hcontains, Option.any_some, Op.isCounter]

/-- One register on its own closes the piece that is open, or is added to it. -/
theorem single_eq (ha : Holds ops k a) {name value : Text}
    (h : ops[k]? = some (.single name value)) :
    a.single name value = (⟨some (Assoc.ofList (gathered ops (k + 1)))⟩,
      if closesAt ops k then some (Assoc.ofList (gathered ops k)) else none) := by
  rw [single, ha.closes_eq h]
  cases hc : closesAt ops k with
  | true =>
    -- the epoch has begun, since it has had a counter
    have hbegun : epoch ops k ≠ [] := by
      intro hnil
      simp [closesAt, hnil] at hc
    rw [gathered_succ_of_closesAt h hc, ha, if_neg hbegun]
    rfl
  | false =>
    rw [gathered_succ h (by simp) hc, ha.snapshot_eq, Op.registers, Assoc.ofList_concat]
    rfl

/-- Registers on one line are added to the piece that is open. -/
theorem multi_eq (ha : Holds ops k a) {registers : List Register}
    (h : ops[k]? = some (.multi registers)) :
    a.multi registers = ⟨some (Assoc.ofList (gathered ops (k + 1)))⟩ := by
  have hc : closesAt ops k = false := by simp [closesAt, h, Op.isCounter]
  rw [multi, gathered_succ h (by simp) hc, ha.snapshot_eq, Op.registers, Assoc.ofList_append]

/-- As many registers are dropped as names are gathered. -/
theorem finish_eq (ha : Holds ops k a) :
    a.finish = (idle, (Assoc.firstKeys (gathered ops k)).length) := by
  have hsize := congrArg List.length (Assoc.keys_ofList (gathered ops k))
  rw [List.length_map] at hsize
  rw [finish, leftover, ha.snapshot_eq, Assoc.size, hsize]

theorem start (ops : List Op) : Holds ops 0 idle := by
  rw [Holds, epoch, List.take_zero, List.drop_nil, if_pos rfl]
  rfl

theorem step (ha : Holds ops k a) (h : ops[k]? = some op) : Holds ops (k + 1) (a.perform op) := by
  rw [Holds, epoch_succ h]
  cases op with
  | single name value => simp [perform, ha.single_eq h]
  | multi registers => simp [perform, ha.multi_eq h]
  | finish => rfl

theorem after (hk : k ≤ ops.length) : Holds ops k (idle.performAll (ops.take k)) := by
  induction k with
  | zero => exact start ops
  | succ k ih =>
    obtain ⟨op, h⟩ : ∃ op, ops[k]? = some op := ⟨_, List.getElem?_eq_getElem (by omega)⟩
    have hsucc : idle.performAll (ops.take (k + 1)) =
        (idle.performAll (ops.take k)).perform op := by
      rw [take_succ h, performAll, List.foldl_append]
      rfl
    rw [hsucc]
    exact (ih (by omega)).step h

end Holds

/-- The pieces that have ended before position `k` and the one that is open hold all registers, each
once and in order. -/
theorem flatMap_gathered_append (hk : k ≤ ops.length) :
    ((List.range k).filter (cutsAt ops)).flatMap (gathered ops) ++ gathered ops k =
      (ops.take k).flatMap Op.registers := by
  induction k with
  | zero => simp
  | succ k ih =>
    obtain ⟨op, h⟩ : ∃ op, ops[k]? = some op := ⟨_, List.getElem?_eq_getElem (by omega)⟩
    rw [take_succ h, List.range_succ, List.filter_append, List.flatMap_append, List.flatMap_append,
      ← ih (by omega), List.flatMap_cons, List.flatMap_nil, List.append_nil]
    by_cases hfinish : op = .finish
    · subst hfinish
      have hcut : cutsAt ops k = true := by simp [cutsAt, h]
      simp [hcut, gathered_succ_of_finish h, Op.registers]
    · cases hc : closesAt ops k with
      | true =>
        have hcut : cutsAt ops k = true := by simp [cutsAt, hc]
        simp [hcut, gathered_succ_of_closesAt h hc]
      | false =>
        have hcut : cutsAt ops k = false := by simp [cutsAt, hc, h, hfinish]
        simp [hcut, gathered_succ h hfinish hc]

/-- Whatever is done to an assembly, it is cut where a program counter comes on its own after
another one of the same epoch, and nowhere else. The snapshot that is closed there is made of the
registers since the last such place of the epoch or since the epoch began; so is the one that is
held from then on, which begins with the counter. Registers that come together never close anything.
At the end of the input the names that are held are counted and dropped, and none are if the epoch
has had none. No register is lost and none comes twice. -/
theorem cut_at_counters (ops : List Op) :
    (∀ k name value, ops[k]? = some (.single name value) →
      (idle.performAll (ops.take k)).single name value =
        (⟨some (Assoc.ofList (gathered ops (k + 1)))⟩,
          if closesAt ops k then some (Assoc.ofList (gathered ops k)) else none)) ∧
    (∀ k registers, ops[k]? = some (.multi registers) →
      (idle.performAll (ops.take k)).multi registers =
        ⟨some (Assoc.ofList (gathered ops (k + 1)))⟩) ∧
    (∀ k, ops[k]? = some .finish →
      (idle.performAll (ops.take k)).finish =
        (idle, (Assoc.firstKeys (gathered ops k)).length) ∧
      ((epoch ops k).flatMap Op.registers = [] →
        (idle.performAll (ops.take k)).finish = (idle, 0))) ∧
    ∀ k ≤ ops.length, ((List.range k).filter (cutsAt ops)).flatMap (gathered ops) ++
      gathered ops k = (ops.take k).flatMap Op.registers := by
  have hholds : ∀ k op, ops[k]? = some op → Holds ops k (idle.performAll (ops.take k)) :=
    fun k op h => .after (Nat.le_of_lt (List.getElem?_eq_some_iff.1 h).1)
  refine ⟨fun k name value h => (hholds k _ h).single_eq h,
    fun k registers h => (hholds k _ h).multi_eq h,
    fun k h => ⟨(hholds k _ h).finish_eq, fun hnone => ?_⟩, fun k => flatMap_gathered_append⟩
  rw [(hholds k _ h).finish_eq, gathered_eq_nil hnone]
  rfl

/-- A counter among other registers is one, too, and an end of the input makes it forgotten. -/
example :
    let pc (value : String) : Register := (counterRegister, Text.of value)
    let sp : Register := (Text.of "sp", Text.of "5")
    let ops := [.multi [pc "10", sp], .multi [], .single counterRegister (Text.of "14"), .finish,
      .single counterRegister (Text.of "18")]
    (List.range 5).map (closesAt ops) = [false, false, true, false, false] ∧
      (List.range 6).map (gathered ops) =
        [[], [pc "10", sp], [pc "10", sp], [pc "14"], [], [pc "18"]] := by
  decide +kernel

end Assembly

end HartTimeline
