/-!
# Maps in order of first insertion

A list of keys with their values in which no key stands twice. Inserting a key that is there
replaces its value and keeps its place; a new key goes to the end.
-/

namespace HartTimeline

/-- A finite map that remembers the order in which its keys were first inserted. -/
structure Assoc (α β : Type) where
  entries : List (α × β)
  nodup_keys : (entries.map Prod.fst).Nodup

namespace Assoc

variable {α β : Type} [DecidableEq α]

instance [DecidableEq β] : DecidableEq (Assoc α β) := fun a b =>
  decidable_of_iff (a.entries = b.entries) <| by
    cases a; cases b; simp

/-- The map without entries. -/
def empty : Assoc α β := ⟨[], by simp⟩

instance : Inhabited (Assoc α β) := ⟨empty⟩

/-! ## Lists of entries -/

/-- The value of a key in a list of entries. -/
def find? (k : α) : List (α × β) → Option β
  | [] => none
  | (k', v) :: rest => if k' = k then some v else find? k rest

/-- A list of entries with a key's value replaced, or the entry added at the end. -/
def put (k : α) (v : β) : List (α × β) → List (α × β)
  | [] => [(k, v)]
  | (k', v') :: rest => if k' = k then (k', v) :: rest else (k', v') :: put k v rest

/-- The keys stay what they were, but for a new one at the end. -/
theorem keys_put (k : α) (v : β) (es : List (α × β)) :
    (put k v es).map Prod.fst =
      if k ∈ es.map Prod.fst then es.map Prod.fst else es.map Prod.fst ++ [k] := by
  induction es with
  | nil => simp [put]
  | cons e rest ih =>
    obtain ⟨k', v'⟩ := e
    by_cases h : k' = k
    · simp [put, h]
    · have h' : ¬ k = k' := fun e => h e.symm
      by_cases hk : k ∈ rest.map Prod.fst
      · rw [if_pos hk] at ih
        simp only [put, h, if_false, List.map_cons, ih]
        rw [if_pos (List.mem_cons_of_mem _ hk)]
      · rw [if_neg hk] at ih
        simp only [put, h, if_false, List.map_cons, ih]
        rw [if_neg (by simp [h', hk])]
        simp

theorem nodup_keys_put {k : α} {v : β} {es : List (α × β)}
    (h : (es.map Prod.fst).Nodup) : ((put k v es).map Prod.fst).Nodup := by
  rw [keys_put]
  split
  · exact h
  · rename_i hk
    exact List.nodup_append.2 ⟨h, by simp, by
      intro a ha b hb e
      rw [List.mem_singleton] at hb
      exact hk (hb ▸ e ▸ ha)⟩

/-- After an insertion the key has the new value and the others keep theirs. -/
theorem find?_put (k k' : α) (v : β) (es : List (α × β)) :
    find? k' (put k v es) = if k = k' then some v else find? k' es := by
  induction es with
  | nil => simp [put, find?]
  | cons e rest ih =>
    obtain ⟨k₀, v₀⟩ := e
    by_cases h : k₀ = k
    · subst h
      by_cases hk : k₀ = k' <;> simp [put, find?, hk]
    · by_cases hk : k₀ = k'
      · subst hk
        have h' : ¬ k = k₀ := fun e => h e.symm
        simp [put, find?, h, h']
      · simp [put, find?, h, hk, ih]

/-! ## The map -/

/-- The value of a key. -/
def get? (m : Assoc α β) (k : α) : Option β :=
  find? k m.entries

/-- Whether a key has a value. -/
def contains (m : Assoc α β) (k : α) : Bool :=
  (m.get? k).isSome

/-- The number of keys. -/
def size (m : Assoc α β) : Nat :=
  m.entries.length

/-- The map with a key's value set. -/
def insert (m : Assoc α β) (k : α) (v : β) : Assoc α β :=
  ⟨put k v m.entries, nodup_keys_put m.nodup_keys⟩

/-- The map with a list of entries inserted one after another. -/
def insertAll (m : Assoc α β) (es : List (α × β)) : Assoc α β :=
  es.foldl (fun m e => m.insert e.1 e.2) m

/-- The map that a list of entries makes. -/
def ofList (es : List (α × β)) : Assoc α β :=
  empty.insertAll es

@[simp] theorem get?_empty (k : α) : (empty : Assoc α β).get? k = none := rfl

omit [DecidableEq α] in
@[simp] theorem entries_empty : (empty : Assoc α β).entries = [] := rfl

/-- Insertion changes one key's value and no other. -/
theorem get?_insert (m : Assoc α β) (k k' : α) (v : β) :
    (m.insert k v).get? k' = if k = k' then some v else m.get? k' :=
  find?_put k k' v m.entries

/-- Insertion keeps the order of the keys and puts a new one last. -/
theorem keys_insert (m : Assoc α β) (k : α) (v : β) :
    (m.insert k v).entries.map Prod.fst =
      if k ∈ m.entries.map Prod.fst then m.entries.map Prod.fst
      else m.entries.map Prod.fst ++ [k] :=
  keys_put k v m.entries

@[simp] theorem insertAll_nil (m : Assoc α β) : m.insertAll [] = m := rfl

@[simp] theorem insertAll_cons (m : Assoc α β) (e : α × β) (es : List (α × β)) :
    m.insertAll (e :: es) = (m.insert e.1 e.2).insertAll es := rfl

theorem insertAll_append (m : Assoc α β) (es fs : List (α × β)) :
    m.insertAll (es ++ fs) = (m.insertAll es).insertAll fs := by
  simp [insertAll, List.foldl_append]

end Assoc

end HartTimeline
