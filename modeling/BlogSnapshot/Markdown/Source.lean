import BlogSnapshot.Markdown.Held

/-! The text of a document before its markup is read: one kind of line end, no tabs, and no
spaces in empty lines.
-/

namespace BlogSnapshot.Markdown

/-- The text with a line feed for every line end. -/
def withLineFeeds : List Char → List Char
  | '\r' :: '\n' :: rest => '\n' :: withLineFeeds rest
  | '\r' :: rest => '\n' :: withLineFeeds rest
  | c :: rest => c :: withLineFeeds rest
  | [] => []

/-- The text with spaces up to the next multiple of four columns for every tab. -/
def withoutTabs (column : Nat) : List Char → List Char
  | [] => []
  | '\t' :: rest =>
      let width := 4 - column % 4
      List.replicate width ' ' ++ withoutTabs (column + width) rest
  | '\n' :: rest => '\n' :: withoutTabs 0 rest
  | c :: rest => c :: withoutTabs (column + 1) rest

/-- The text with every line of spaces emptied that comes after another line. -/
def withoutBlankLines : List Char → List Char
  | [] => []
  | '\n' :: rest =>
      let after := rest.dropWhile (· = ' ')
      '\n' :: withoutBlankLines (if after.head? = some '\n' then after else rest)
  | c :: rest => c :: withoutBlankLines rest
  termination_by s => s.length
  decreasing_by
    · have := (List.dropWhile_suffix (l := rest) (· = ' ')).length_le
      simp only [List.length_cons]
      split <;> omega
    · simp

/-- The text of a document, ready to be read. -/
def sourceText (document : List Char) : List Char :=
  let text := document.filter fun c => c ≠ markStart && c ≠ markEnd
  withoutBlankLines (withoutTabs 0 (withLineFeeds text ++ ['\n', '\n']))

end BlogSnapshot.Markdown
