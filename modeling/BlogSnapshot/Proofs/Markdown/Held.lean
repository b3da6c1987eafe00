import BlogSnapshot.Markdown.Held
import BlogSnapshot.Proofs.Text.Split

/-! Pieces that were held back return where their marks stand, and nothing else of a text changes.
-/

namespace BlogSnapshot

namespace Markdown

open Text

variable {s : List Char}

theorem markNumber?_of_plain (word : List Char) (plain : markStart ∉ s)
    : markNumber? word s = none := by
  unfold markNumber?
  cases found : afterLead? (markStart :: word) s with
  | none => rfl
  | some rest =>
      rw [afterLead?_eq_some_iff.mp found] at plain
      exact absurd (List.mem_append_left rest List.mem_cons_self) plain

/-- A text without marks does not start with one, not even within a paragraph. -/
theorem heldMark?_of_plain (held : Held) (plain : markStart ∉ s) : heldMark? held s = none := by
  unfold heldMark?
  rw [markNumber?_of_plain heldWord plain]
  cases found : afterLead? "<p>".toList s with
  | none => rfl
  | some rest =>
      have plainRest : markStart ∉ rest := by
        rw [afterLead?_eq_some_iff.mp found] at plain
        exact fun member => plain (List.mem_append_right _ member)
      simp [markNumber?_of_plain heldWord plainRest]

theorem released_go_of_plain (held : Held) (depth : Nat) (plain : markStart ∉ s)
    : released.go held depth 0 s = s := by
  induction s with
  | nil => rw [released.go]
  | cons c rest ih =>
      have plainRest : markStart ∉ rest := fun member => plain (List.mem_cons_of_mem c member)
      rw [released.go, heldMark?_of_plain held plain]
      exact congrArg (c :: ·) (ih plainRest)

/-- A text without marks stays as it is. -/
theorem released_of_plain (held : Held) (depth : Nat) (plain : markStart ∉ s)
    : released held depth s = s := by
  cases depth with
  | zero => rw [released]
  | succ depth => rw [released, released_go_of_plain held depth plain]

/-- The characters of a mark are passed over, by induction on them. -/
theorem released_go_length (held : Held) (depth : Nat) (s : List Char)
    : released.go held depth s.length s = [] := by
  induction s with
  | nil => rw [released.go]
  | cons c rest ih => rw [List.length_cons, released.go, ih]

/-- A block without marks of its own takes the place of a text that is nothing but its mark. -/
theorem released_of_heldMark? {held : Held} {piece : List Char} (depth : Nat) (wrapped : Bool)
    (isMark : heldMark? held s = some (wrapped, piece, [])) (isBlock : beginsBlock piece = true)
    (plain : markStart ∉ piece) (nonempty : s ≠ [])
    : released held (depth + 1) s = piece := by
  cases s with
  | nil => exact absurd rfl nonempty
  | cons c rest =>
      rw [released, released.go, isMark]
      simp [isBlock, released_of_plain held depth plain, released_go_length]

end Markdown

end BlogSnapshot
