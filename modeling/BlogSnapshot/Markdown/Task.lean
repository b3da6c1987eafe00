import BlogSnapshot.Markdown.Held

/-! Items of lists that are tasks: they start with a box, which is checked or not.
-/

namespace BlogSnapshot.Markdown.Task

open Text

/-- Reads a box at the start of a text: whether it is checked, and the text after it. -/
def readBox? (s : List Char) : Option (Bool × List Char) := do
  let s ← afterLead? ['['] (s.dropWhile (· = ' '))
  match s with
  | c :: ']' :: ' ' :: rest =>
      if c = 'x' || c = 'X' || c = ' ' then some (c ≠ ' ', rest.dropWhile (· = ' ')) else none
  | _ => none

/-- The final HTML of a box. -/
def boxHtml (checked : Bool) : List Char :=
  ("<input type=\"checkbox\" disabled" ++ (if checked then " checked" else "") ++ "/> ").toList

/-- A text with the mark of a box in the place of the box. -/
def holdBox? (s : List Char) : StateM Held (Option (List Char)) := do
  match readBox? s with
  | some (checked, rest) => pure (some ((← hold (boxHtml checked)) ++ rest))
  | none => pure none

/-- An item that may be a task, with the mark of its box; nothing if it is none. The box is in the
text of the item or in its first paragraph.
-/
def holdItem? (item : Element) : StateM Held (Option Element) := do
  let done (item : Element) : Element := item.addClass "task-list-item".toList
  if !item.lead.isEmpty then
    match ← holdBox? item.lead.chars with
    | some text => pure (some (done { item with lead := .plain text }))
    | none => pure none
  else match item.children with
    | (first, tail) :: rest =>
        if first.tag = "p" && !first.lead.isEmpty then
          match ← holdBox? first.lead.chars with
          | some text =>
              let first := { first with lead := .plain text }
              pure (some (done { item with children := (first, tail) :: rest }))
          | none => pure none
        else pure none
    | [] => pure none

mutual

/-- The element with the boxes of all tasks in it held back, and whether it is a task itself.
What has a task for a child is a list of tasks.
-/
def holdBoxes (e : Element) : StateM Held (Element × Bool) := do
  let (children, hasTask) ← holdChildren e.children
  let e := { e with children := children }
  let e := if hasTask then e.addClass "task-list".toList else e
  match ← if e.tag = "li" then holdItem? e else pure none with
  | some item => pure (item, true)
  | none => pure (e, false)
termination_by sizeOf e
decreasing_by exact e.sizeOf_children_lt

/-- Children with the boxes of all tasks in them held back, and whether one is a task. -/
def holdChildren : List (Element × Run) → StateM Held (List (Element × Run) × Bool)
  | [] => pure ([], false)
  | (child, tail) :: rest => do
      let (child, isTask) ← holdBoxes child
      let (rest, hasTask) ← holdChildren rest
      pure ((child, tail) :: rest, isTask || hasTask)
termination_by children => sizeOf children

end

end BlogSnapshot.Markdown.Task
