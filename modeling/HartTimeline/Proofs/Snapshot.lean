import HartTimeline.Proofs.Assoc.Collected
import HartTimeline.Snapshot

/-!
# Snapshots as ordered maps

What a snapshot holds is told by the insertions alone: the place of a name by where it first comes
in them, its value by where it comes last.

Main statement: `ordered_by_first_insertion`.
-/

namespace HartTimeline.Snapshot

open Assoc

/-- A snapshot is an ordered map. However registers are inserted, it lists every name once, in the
order in which the names came first, and each with the value that came last. A look-up finds what
is listed and nothing else. The listed entries make the same snapshot again, and inserting further
entries is inserting the snapshot that these make. -/
theorem ordered_by_first_insertion (entries : List (Text × Text)) :
    let s : Snapshot := empty.insertAll entries
    let names := entries.map Prod.fst
    (s.entries.map Prod.fst).Nodup ∧
    (∀ name, name ∈ s.entries.map Prod.fst ↔ name ∈ names) ∧
    (s.entries.map Prod.fst).Pairwise (fun name later =>
      ∃ before after, names = before ++ name :: after ∧ later ∉ before) ∧
    (∀ name value, (name, value) ∈ s.entries ↔
      ∃ before after, entries = before ++ (name, value) :: after ∧
        name ∉ after.map Prod.fst) ∧
    (∀ name value, s.get? name = some value ↔ (name, value) ∈ s.entries) ∧
    (∀ name, s.contains name = true ↔ name ∈ s.entries.map Prod.fst) ∧
    s.size = s.entries.length ∧
    ofList s.entries = s ∧
    ∀ more, s.insertAll (ofList more).entries = s.insertAll more ∧
      s.insertAll more = empty.insertAll (entries ++ more) := by
  intro s names
  have hkeys : s.entries.map Prod.fst = firstKeys entries := keys_ofList entries
  refine ⟨s.nodup_keys, ?_, ?_, ?_, ?_, ?_, rfl, ofList_entries s, ?_⟩
  · intro name
    rw [hkeys]
    exact mem_firstKeys
  · rw [hkeys]
    exact pairwise_firstKeys entries
  · intro name value
    have hget : s.get? name = lastValue? entries name := get?_ofList entries name
    rw [← get?_eq_some_iff, hget, lastValue?_eq_some_iff]
  · intro name value
    exact get?_eq_some_iff
  · intro name
    rw [contains, Option.isSome_iff_ne_none, Ne, get?_eq_none_iff, not_not]
  · intro more
    exact ⟨insertAll_entries_ofList s more, (insertAll_append empty entries more).symm⟩

end HartTimeline.Snapshot
