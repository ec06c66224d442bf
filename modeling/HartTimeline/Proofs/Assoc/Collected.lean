import HartTimeline.Assoc
import Mathlib.Data.List.Basic
import Mathlib.Data.List.Induction

/-!
# What a list of entries says

Inserting a list of entries one after another must give every key its last value, and the keys in
the order in which they first appeared. Both are said here of the list alone.

Main statements: `entries_ofList`, the map that a list makes holds exactly what the list says,
`get?_eq_some_iff`, a key has a value in a map exactly if they stand together among its entries, and
`insertAll_entries_ofList`, a list can be replaced by the entries of the map that it makes.
-/

namespace HartTimeline.Assoc

variable {α β : Type} [DecidableEq α]

/-- The keys of a list of entries, in order of first appearance. -/
def firstKeys (es : List (α × β)) : List α :=
  (es.map Prod.fst).eraseDups

/-- The value that a list of entries gives to a key last. -/
def lastValue? (es : List (α × β)) (k : α) : Option β :=
  (es.filter fun e => e.1 = k).getLast?.map Prod.snd

/-- The keys in order of first appearance, each with its last value. -/
def collected (es : List (α × β)) : List (α × β) :=
  (firstKeys es).filterMap fun k => (lastValue? es k).map fun v => (k, v)

/-! ## One more entry -/

@[simp] theorem firstKeys_nil : firstKeys ([] : List (α × β)) = [] := rfl

@[simp] theorem lastValue?_nil (k : α) : lastValue? ([] : List (α × β)) k = none := rfl

theorem mem_firstKeys {es : List (α × β)} {k : α} :
    k ∈ firstKeys es ↔ k ∈ es.map Prod.fst :=
  List.mem_eraseDups

/-- A key that has been there before keeps its place, a new one goes to the end. -/
theorem firstKeys_concat (es : List (α × β)) (e : α × β) :
    firstKeys (es ++ [e]) =
      if e.1 ∈ firstKeys es then firstKeys es else firstKeys es ++ [e.1] := by
  have hsplit : firstKeys (es ++ [e]) =
      firstKeys es ++ ([e.1].removeAll (es.map Prod.fst)).eraseDups := by
    simp only [firstKeys, List.map_append, List.map_cons, List.map_nil, List.eraseDups_append]
  rw [hsplit]
  -- what is left of the new key after the removal decides
  by_cases h : e.1 ∈ es.map Prod.fst
  · have hnone : [e.1].removeAll (es.map Prod.fst) = [] := by
      simpa [List.removeAll] using h
    rw [hnone, if_pos (mem_firstKeys.2 h), List.eraseDups_nil, List.append_nil]
  · have hone : [e.1].removeAll (es.map Prod.fst) = [e.1] := by
      simpa [List.removeAll] using h
    rw [hone, if_neg (fun hk => h (mem_firstKeys.1 hk))]
    simp [List.eraseDups_cons]

/-- The last entry decides about its own key and about no other. -/
theorem lastValue?_concat (es : List (α × β)) (e : α × β) (k : α) :
    lastValue? (es ++ [e]) k = if e.1 = k then some e.2 else lastValue? es k := by
  by_cases h : e.1 = k <;> simp [lastValue?, h]

/-- A key has a value if it appears. -/
theorem isSome_lastValue? {es : List (α × β)} {k : α} :
    (lastValue? es k).isSome = true ↔ k ∈ es.map Prod.fst := by
  unfold lastValue?
  rw [Option.isSome_map, List.getLast?_isSome]
  simp [List.filter_eq_nil_iff]

/-- The value comes from one of the entries. -/
theorem mem_of_lastValue? {es : List (α × β)} {k : α} {v : β} (h : lastValue? es k = some v) :
    (k, v) ∈ es := by
  obtain ⟨e, he, rfl⟩ := Option.map_eq_some_iff.1 h
  have hmem := List.mem_filter.1 (List.mem_of_getLast? he)
  have hk : e.1 = k := by simpa using hmem.2
  rw [← hk]
  exact hmem.1

/-! ## Order and last entries -/

/-- A key stands before those that have not come when it first comes. -/
theorem pairwise_firstKeys (es : List (α × β)) :
    (firstKeys es).Pairwise fun k l =>
      ∃ before after, es.map Prod.fst = before ++ k :: after ∧ l ∉ before := by
  induction es using List.reverseRecOn with
  | nil => exact List.Pairwise.nil
  | append_singleton es e ih =>
    have hold : (firstKeys es).Pairwise fun k l =>
        ∃ before after, (es ++ [e]).map Prod.fst = before ++ k :: after ∧ l ∉ before := by
      apply ih.imp
      rintro k l ⟨before, after, hsplit, hl⟩
      exact ⟨before, after ++ [e.1], by simp [hsplit], hl⟩
    rw [firstKeys_concat]
    split
    · exact hold
    · rename_i hnew
      refine List.pairwise_append.2 ⟨hold, List.pairwise_singleton _ _, ?_⟩
      intro k hk l hl
      obtain rfl := List.mem_singleton.1 hl
      obtain ⟨before, after, hsplit⟩ := List.append_of_mem (mem_firstKeys.1 hk)
      refine ⟨before, after ++ [e.1], by simp [hsplit], ?_⟩
      intro hmem
      apply hnew
      rw [mem_firstKeys, hsplit]
      exact List.mem_append_left _ hmem

/-- The last value of a key stands in an entry that no other one of the key follows. -/
theorem lastValue?_eq_some_iff {es : List (α × β)} {k : α} {v : β} :
    lastValue? es k = some v ↔
      ∃ before after, es = before ++ (k, v) :: after ∧ k ∉ after.map Prod.fst := by
  induction es using List.reverseRecOn with
  | nil => simp
  | append_singleton es e ih =>
    obtain ⟨k', v'⟩ := e
    rw [lastValue?_concat]
    constructor
    · intro h
      split at h
      · rename_i hkey
        cases hkey
        cases h
        exact ⟨es, [], rfl, List.not_mem_nil⟩
      · rename_i hkey
        obtain ⟨before, after, rfl, hafter⟩ := ih.1 h
        refine ⟨before, after ++ [(k', v')], by simp, ?_⟩
        simpa [hafter, eq_comm] using hkey
    · rintro ⟨before, after, hsplit, hafter⟩
      rcases List.eq_nil_or_concat after with rfl | ⟨front, last, rfl⟩
      · obtain ⟨-, hlast⟩ := List.append_inj' hsplit rfl
        cases hlast
        exact if_pos rfl
      · rw [List.concat_eq_append] at hsplit hafter
        rw [← List.cons_append, ← List.append_assoc] at hsplit
        obtain ⟨rfl, hlast⟩ := List.append_inj' hsplit rfl
        cases hlast
        simp only [List.map_append, List.mem_append, not_or] at hafter
        have hother : ¬k' = k := fun h => hafter.2 (List.mem_singleton.2 h.symm)
        rw [if_neg hother]
        exact ih.2 ⟨before, front, rfl, hafter.1⟩

/-- Keys that come later go behind those that were there before. -/
theorem firstKeys_append (es fs : List (α × β)) :
    firstKeys (es ++ fs) = firstKeys es ++ (firstKeys fs).filter (· ∉ firstKeys es) := by
  induction fs using List.reverseRecOn with
  | nil => simp
  | append_singleton fs f ih =>
    rw [← List.append_assoc, firstKeys_concat, firstKeys_concat, ih]
    by_cases hes : f.1 ∈ firstKeys es
    · by_cases hfs : f.1 ∈ firstKeys fs <;> simp [hes, hfs]
    · by_cases hfs : f.1 ∈ firstKeys fs <;> simp [hes, hfs]

/-- Later values count before earlier ones. -/
theorem lastValue?_append (es fs : List (α × β)) (k : α) :
    lastValue? (es ++ fs) k = (lastValue? fs k).or (lastValue? es k) := by
  induction fs using List.reverseRecOn with
  | nil => simp
  | append_singleton fs f ih =>
    rw [← List.append_assoc, lastValue?_concat, lastValue?_concat, ih]
    split <;> rfl

/-! ## The map of a list -/

theorem ofList_concat (es : List (α × β)) (e : α × β) :
    ofList (es ++ [e]) = (ofList es).insert e.1 e.2 := by
  rw [ofList, insertAll_append, insertAll_cons, insertAll_nil, ofList]

theorem ofList_append (es fs : List (α × β)) : ofList (es ++ fs) = (ofList es).insertAll fs :=
  insertAll_append empty es fs

/-- A key has the value that the list gives it last. -/
theorem get?_ofList (es : List (α × β)) (k : α) : (ofList es).get? k = lastValue? es k := by
  induction es using List.reverseRecOn with
  | nil => rfl
  | append_singleton es e ih => rw [ofList_concat, get?_insert, lastValue?_concat, ih]

/-- The keys stand in order of first appearance. -/
theorem keys_ofList (es : List (α × β)) : (ofList es).entries.map Prod.fst = firstKeys es := by
  induction es using List.reverseRecOn with
  | nil => rfl
  | append_singleton es e ih => rw [ofList_concat, keys_insert, firstKeys_concat, ih]

/-- A list of entries without repeated keys is its keys, each with its value. -/
theorem filterMap_find?_keys {es : List (α × β)} (h : (es.map Prod.fst).Nodup) :
    (es.map Prod.fst).filterMap (fun k => (find? k es).map fun v => (k, v)) = es := by
  induction es with
  | nil => rfl
  | cons e rest ih =>
    obtain ⟨k, v⟩ := e
    obtain ⟨hk, hrest⟩ := List.nodup_cons.1 h
    -- the first key does not come again, so the later ones find the same values in the rest
    have hkeep : ∀ k' ∈ rest.map Prod.fst,
        (find? k' ((k, v) :: rest)).map (fun v => (k', v)) =
          (find? k' rest).map fun v => (k', v) := by
      intro k' hk'
      have hne : k ≠ k' := fun e => hk (e ▸ hk')
      simp [find?, hne]
    rw [List.map_cons, List.filterMap_cons, List.filterMap_congr hkeep, ih hrest]
    simp [find?]

/-- The map that a list makes: the keys in order of first appearance, each with its last value. -/
theorem entries_ofList (es : List (α × β)) : (ofList es).entries = collected es := by
  rw [← filterMap_find?_keys (ofList es).nodup_keys, keys_ofList, collected]
  congr 1
  funext k
  rw [← get?_ofList, get?]

example : collected [(1, 'a'), (2, 'b'), (1, 'c')] = [(1, 'c'), (2, 'b')] := by decide

/-! ## Looking up an entry -/

theorem find?_eq_none_iff {es : List (α × β)} {k : α} :
    find? k es = none ↔ k ∉ es.map Prod.fst := by
  induction es with
  | nil => simp [find?]
  | cons e rest ih =>
    obtain ⟨k', v⟩ := e
    by_cases h : k' = k
    · simp [find?, h]
    · have h' : ¬k = k' := fun e => h e.symm
      simp [find?, h, h', ih]

/-- Among entries with different keys a key has the value that it stands with. -/
theorem find?_eq_some_iff {es : List (α × β)} (hnodup : (es.map Prod.fst).Nodup) {k : α} {v : β} :
    find? k es = some v ↔ (k, v) ∈ es := by
  induction es with
  | nil => simp [find?]
  | cons e rest ih =>
    obtain ⟨k', v'⟩ := e
    obtain ⟨hfirst, hrest⟩ := List.nodup_cons.1 hnodup
    by_cases h : k' = k
    · subst h
      -- the key does not come again
      have hnot : (k', v) ∉ rest := fun hmem => hfirst (List.mem_map.2 ⟨_, hmem, rfl⟩)
      simp [find?, hnot, eq_comm]
    · have h' : ¬k = k' := fun e => h e.symm
      simp [find?, h, h', ih hrest]

theorem get?_eq_none_iff {m : Assoc α β} {k : α} :
    m.get? k = none ↔ k ∉ m.entries.map Prod.fst :=
  find?_eq_none_iff

theorem get?_eq_some_iff {m : Assoc α β} {k : α} {v : β} :
    m.get? k = some v ↔ (k, v) ∈ m.entries :=
  find?_eq_some_iff m.nodup_keys

/-- The order of the entries does not matter to a look-up. -/
theorem get?_eq_of_perm {m m' : Assoc α β} (h : m.entries.Perm m'.entries) (k : α) :
    m.get? k = m'.get? k := by
  apply Option.ext
  intro v
  rw [get?_eq_some_iff, get?_eq_some_iff]
  exact h.mem_iff

/-! ## Collecting again -/

/-- Maps with the same keys in the same order and the same values are equal. -/
theorem eq_of_keys_of_get? {m m' : Assoc α β}
    (hkeys : m.entries.map Prod.fst = m'.entries.map Prod.fst)
    (hget : ∀ k, m.get? k = m'.get? k) : m = m' := by
  have hentries : m.entries = m'.entries := by
    rw [← filterMap_find?_keys m.nodup_keys, ← filterMap_find?_keys m'.nodup_keys, hkeys]
    apply List.filterMap_congr
    intro k _
    have hk : find? k m.entries = find? k m'.entries := hget k
    rw [hk]
  cases m
  cases m'
  cases hentries
  rfl

/-- Keys that do not come again stand as they are. -/
theorem firstKeys_of_nodup {es : List (α × β)} (h : (es.map Prod.fst).Nodup) :
    firstKeys es = es.map Prod.fst := by
  induction es using List.reverseRecOn with
  | nil => rfl
  | append_singleton es e ih =>
    rw [List.map_append] at h
    obtain ⟨hes, -, hnew⟩ := List.nodup_append.1 h
    have hlast : e.1 ∉ es.map Prod.fst := fun hmem => hnew _ hmem _ List.mem_cons_self rfl
    rw [firstKeys_concat, ih hes, if_neg hlast, List.map_append]
    rfl

/-- A map is what its own entries make. -/
theorem ofList_entries (m : Assoc α β) : ofList m.entries = m := by
  apply eq_of_keys_of_get?
  · rw [keys_ofList, firstKeys_of_nodup m.nodup_keys]
  · intro k
    apply Option.ext
    intro v
    rw [get?_ofList, lastValue?_eq_some_iff, get?_eq_some_iff]
    constructor
    · rintro ⟨before, after, hsplit, -⟩
      rw [hsplit]
      exact List.mem_append_right before List.mem_cons_self
    · intro hmem
      obtain ⟨before, after, hsplit⟩ := List.append_of_mem hmem
      have hnodup := m.nodup_keys
      rw [hsplit, List.map_append, List.map_cons] at hnodup
      have hlater := (List.nodup_cons.1 (List.nodup_append.1 hnodup).2.1).1
      exact ⟨before, after, hsplit, hlater⟩

theorem insertAll_eq_ofList (m : Assoc α β) (es : List (α × β)) :
    m.insertAll es = ofList (m.entries ++ es) := by
  rw [ofList_append, ofList_entries]

/-- Inserting entries is inserting what they make. -/
theorem insertAll_entries_ofList (m : Assoc α β) (es : List (α × β)) :
    m.insertAll (ofList es).entries = m.insertAll es := by
  have hkeys : firstKeys (ofList es).entries = firstKeys es := by
    rw [firstKeys_of_nodup (ofList es).nodup_keys, keys_ofList]
  have hvalues (k : α) : lastValue? (ofList es).entries k = lastValue? es k := by
    rw [← get?_ofList, ofList_entries, get?_ofList]
  rw [insertAll_eq_ofList, insertAll_eq_ofList]
  apply eq_of_keys_of_get?
  · rw [keys_ofList, keys_ofList, firstKeys_append, firstKeys_append, hkeys]
  · intro k
    rw [get?_ofList, get?_ofList, lastValue?_append, lastValue?_append, hvalues]

end HartTimeline.Assoc
