import BlogSnapshot.Settings
import BlogSnapshot.Text.Split

/-! Paths of files: names between slashes. Empty names and single dots say nothing.
-/

namespace BlogSnapshot

/-- A path: whether it starts at the root, and its names in order. -/
structure Path where
  absolute : Bool
  names : List String
  deriving DecidableEq, Repr

namespace Path

/-- The path that a text spells. -/
def ofString (s : String) : Path where
  absolute := s.toList.head? = some '/'
  names := ((Text.splitAt (· = '/') s.toList).map String.ofList).filter fun n => n ≠ "" ∧ n ≠ "."

/-- A path as text; the empty relative path is a single dot. -/
def text (p : Path) : String :=
  if p.absolute then "/" ++ String.intercalate "/" p.names
  else if p.names.isEmpty then "."
  else String.intercalate "/" p.names

/-- A path that is read from a base, unless it starts at the root itself. -/
def under (base p : Path) : Path :=
  if p.absolute then p else ⟨base.absolute, base.names ++ p.names⟩

/-- Names with each pair of dots removed together with the name before it; `kept` holds the names
read, last first.
-/
def foldDots (kept : List String) : List String → List String
  | [] => kept.reverse
  | ".." :: rest => foldDots kept.tail rest
  | n :: rest => foldDots (n :: kept) rest

/-- The path without pairs of dots. -/
def normal (p : Path) : Path :=
  { p with names := foldDots [] p.names }

end Path

/-- The directory of the content: the given one or that of the settings, below the base directory
unless it starts at the root.
-/
def contentDirectory (settings : Settings) (base : Path) (given : Option String) : Path :=
  (base.under (.ofString (given.getD settings.contentDir))).normal

end BlogSnapshot
