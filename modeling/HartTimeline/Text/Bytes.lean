import HartTimeline.Text.Charset

/-!
# Bytes of a text

How many bytes a text takes up in UTF-8, and the pieces between given positions in bytes. A piece
that would begin or end within a character does not exist.

Main statement: `slice?_append`, the piece at the place where a text stands in a longer one is that
text.
-/

namespace HartTimeline.Text

/-- The number of bytes of a text in UTF-8. -/
def byteLength (t : Text) : Nat :=
  t.foldr (fun c n => c.utf8Size + n) 0

/-- The text after a number of bytes. -/
def dropBytes? : Nat → Text → Option Text
  | 0, t => some t
  | _ + 1, [] => none
  | n + 1, c :: t => if c.utf8Size ≤ n + 1 then dropBytes? (n + 1 - c.utf8Size) t else none

/-- The first bytes of a text, as many as asked for. -/
def takeBytes? : Nat → Text → Option Text
  | 0, _ => some []
  | _ + 1, [] => none
  | n + 1, c :: t =>
    if c.utf8Size ≤ n + 1 then (takeBytes? (n + 1 - c.utf8Size) t).map (c :: ·) else none

/-- The text between two positions in bytes. -/
def slice? (start stop : Nat) (t : Text) : Option Text :=
  (dropBytes? start t).bind (takeBytes? (stop - start))

/-! ## Pieces of texts put together -/

@[simp] theorem byteLength_nil : byteLength [] = 0 := rfl

@[simp] theorem byteLength_cons (c : Char) (t : Text) :
    byteLength (c :: t) = c.utf8Size + byteLength t := rfl

@[simp] theorem byteLength_append (s t : Text) :
    byteLength (s ++ t) = byteLength s + byteLength t := by
  induction s with
  | nil => simp
  | cons c s ih => rw [List.cons_append, byteLength_cons, byteLength_cons, ih, Nat.add_assoc]

/-- After the bytes of the first part stands the second. -/
theorem dropBytes?_append (s t : Text) : dropBytes? (byteLength s) (s ++ t) = some t := by
  induction s with
  | nil => simp [dropBytes?]
  | cons c s ih =>
    obtain ⟨n, hn⟩ : ∃ n, byteLength (c :: s) = n + 1 :=
      ⟨byteLength (c :: s) - 1, by have := c.utf8Size_pos; rw [byteLength_cons]; omega⟩
    rw [hn, List.cons_append, dropBytes?]
    rw [byteLength_cons] at hn
    rw [if_pos (by omega), show n + 1 - c.utf8Size = byteLength s by omega, ih]

/-- The bytes of the first part are the first part. -/
theorem takeBytes?_append (s t : Text) : takeBytes? (byteLength s) (s ++ t) = some s := by
  induction s with
  | nil => simp [takeBytes?]
  | cons c s ih =>
    obtain ⟨n, hn⟩ : ∃ n, byteLength (c :: s) = n + 1 :=
      ⟨byteLength (c :: s) - 1, by have := c.utf8Size_pos; rw [byteLength_cons]; omega⟩
    rw [hn, List.cons_append, takeBytes?]
    rw [byteLength_cons] at hn
    rw [if_pos (by omega), show n + 1 - c.utf8Size = byteLength s by omega, ih, Option.map_some]

/-- What stands between two parts is found at its place. -/
theorem slice?_append (s t u : Text) :
    slice? (byteLength s) (byteLength s + byteLength t) (s ++ (t ++ u)) = some t := by
  rw [slice?, dropBytes?_append, Option.bind_some, Nat.add_sub_cancel_left, takeBytes?_append]

end HartTimeline.Text
