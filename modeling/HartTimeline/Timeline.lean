import HartTimeline.Diff

/-!
# Timelines

The sanitized log is a sequence of entries: trace lines as they are, and diff blocks. The global
stream shows all of them; a core's stream shows those that belong to it. Every entry ends with an
empty line.
-/

namespace HartTimeline

/-- One entry of the sanitized log. A trace line may belong to no core. -/
inductive Entry
  | trace (text : Text) (core? : Option Nat)
  | block (block : Block)
deriving DecidableEq, Repr

namespace Entry

/-- The core that the entry belongs to. -/
def core? : Entry → Option Nat
  | trace _ c => c
  | block b => some b.core

/-- Whether the entry is a diff block. -/
def isBlock : Entry → Bool
  | trace .. => false
  | block _ => true

/-- The entry as it stands in a stream. -/
def render : Entry → Text
  | trace t _ => t ++ ['\n', '\n']
  | block b => b.render

end Entry

/-- The entries of a sanitized log in order, and the number of cores that have a stream. -/
structure Timeline where
  cores : Nat
  entries : Array Entry
deriving DecidableEq

namespace Timeline

/-- No entry yet. -/
def empty (cores : Nat) : Timeline :=
  ⟨cores, #[]⟩

/-- The timeline with one more entry. -/
def push (t : Timeline) (e : Entry) : Timeline :=
  { t with entries := t.entries.push e }

/-- The text of a list of entries. -/
def render (es : List Entry) : Text :=
  es.flatMap Entry.render

/-- The stream of all entries. -/
def globalStream (t : Timeline) : Text :=
  render t.entries.toList

/-- The stream of a core. -/
def coreStream (t : Timeline) (core : Nat) : Text :=
  render (t.entries.toList.filter fun e => e.core? = some core)

/-- The stream of a core if it is tracked. -/
def coreStream? (t : Timeline) (core : Nat) : Option Text :=
  if core < t.cores then some (t.coreStream core) else none

/-- The streams of all tracked cores. -/
def coreStreams (t : Timeline) : List Text :=
  (List.range t.cores).map t.coreStream

/-! ## The streams of the cores in a row -/

theorem getElem?_coreStreams (t : Timeline) (core : Nat) :
    t.coreStreams[core]? = t.coreStream? core := by
  rw [coreStreams, List.getElem?_map, coreStream?]
  by_cases hcore : core < t.cores
  · rw [List.getElem?_range hcore, if_pos hcore]
    rfl
  · rw [List.getElem?_eq_none (by simpa using hcore), if_neg hcore]
    rfl

theorem coreStreams_empty (cores : Nat) :
    (empty cores).coreStreams = List.replicate cores [] := by
  refine List.ext_getElem? fun core => ?_
  rw [getElem?_coreStreams, List.getElem?_replicate]
  rfl

/-! ## One more entry -/

@[simp] theorem cores_push (t : Timeline) (e : Entry) : (t.push e).cores = t.cores := rfl

@[simp] theorem toList_push (t : Timeline) (e : Entry) :
    (t.push e).entries.toList = t.entries.toList ++ [e] := by simp [push]

/-- An entry goes to the end of the global stream. -/
theorem globalStream_push (t : Timeline) (e : Entry) :
    (t.push e).globalStream = t.globalStream ++ e.render := by
  simp [globalStream, render]

/-- An entry goes to the end of its own core's stream and to no other. -/
theorem coreStream_push (t : Timeline) (e : Entry) (core : Nat) :
    (t.push e).coreStream core =
      if e.core? = some core then t.coreStream core ++ e.render else t.coreStream core := by
  by_cases h : e.core? = some core <;> simp [coreStream, render, h]

/-- So it goes to the end of one of the cores' streams, or of none. -/
theorem coreStreams_push (t : Timeline) (e : Entry) :
    (t.push e).coreStreams =
      match e.core? with
      | none => t.coreStreams
      | some core => t.coreStreams.modify core (· ++ e.render) := by
  refine List.ext_getElem? fun core => ?_
  rw [getElem?_coreStreams, coreStream?, coreStream_push, cores_push]
  cases hcore : e.core? with
  | none => simp [getElem?_coreStreams, coreStream?]
  | some own =>
    rw [List.getElem?_modify, getElem?_coreStreams, coreStream?]
    by_cases hlt : core < t.cores
    · by_cases hown : own = core <;> simp [hlt, hown]
    · simp [hlt]

end Timeline

end HartTimeline
