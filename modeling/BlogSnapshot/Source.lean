import BlogSnapshot.Error
import BlogSnapshot.Text.Blank
import BlogSnapshot.Text.Split

/-! Markdown documents: a frontmatter block between two lines of three dashes, and a body. Main
definition: `splitDocument`, which is the inverse of `joinDocument`.
-/

namespace BlogSnapshot

open Text

/-- A Markdown file that has been read; the path is relative to the corpus. -/
structure SourceFile where
  path : String
  contents : String
  deriving DecidableEq, Repr

namespace SourceFile

/-- The line that opens a document. -/
def opening : List Char := ['-', '-', '-', '\n']

/-- The line that closes a frontmatter block, with the end of the line before it. -/
def closing : List Char := ['\n', '-', '-', '-', '\n']

/-- A document with the given frontmatter block and body. -/
def joinDocument (block body : List Char) : List Char :=
  opening ++ block ++ closing ++ body

/-- The frontmatter block and the body of a document. -/
def splitDocument (contents : List Char) : Except Cause (List Char × List Char) :=
  match afterLead? opening contents with
  | none => .error .noOpening
  | some rest =>
      match cutAtText? closing rest with
      | none => .error .noClosing
      | some (block, body) => if allBlank body then .error .emptyBody else .ok (block, body)

/-- The frontmatter block and the body of a text that may come from a file. -/
def split (contents : String) (path : Option String)
    : Except ContentError (String × String) :=
  match splitDocument contents.toList with
  | .ok (block, body) => .ok (String.ofList block, String.ofList body)
  | .error cause => .error ⟨cause, path⟩

end SourceFile

end BlogSnapshot
