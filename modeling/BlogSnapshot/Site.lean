import BlogSnapshot.Files.Tree
import BlogSnapshot.Snapshot.Build
import BlogSnapshot.Snapshot.Lazy

/-! A site: its settings, its files, and the snapshot that all its readers share. The snapshot is
loaded on first access, or at the start of the site if the settings ask for it.
-/

namespace BlogSnapshot

namespace Snapshot

/-- The snapshot of the files in a directory, which the settings or the caller choose. -/
def load (settings : Settings) (builtAt : Moment) (files : FileTree) (base : Path)
    (given : Option String)
    : Except Failure Snapshot := do
  let sources ← (SourceFile.loadAll files (contentDirectory settings base given)).mapError
    .content
  build settings builtAt sources

end Snapshot

/-- A running site. -/
structure Site where
  settings : Settings
  builtAt : Moment
  base : Path
  files : FileTree
  cell : LazyCell Snapshot := {}

namespace Site

/-- What loading gives at this moment. -/
def load (s : Site) : Except Failure Snapshot :=
  Snapshot.load s.settings s.builtAt s.files s.base none

/-- The shared snapshot. -/
def content (s : Site) : Except Failure Snapshot × Site :=
  let (r, cell) := s.cell.get fun _ => s.load
  (r, { s with cell })

/-- The start of the site, which is an access if the settings ask for it. -/
def ready (s : Site) : Except Failure Unit × Site :=
  if s.settings.loadOnStartup then
    let (r, s) := s.content
    (r.map fun _ => (), s)
  else (.ok (), s)

/-- Whether the snapshot is there. -/
def loaded (s : Site) : Bool :=
  s.cell.loaded

/-- The site with other files. -/
def withFiles (s : Site) (files : FileTree) : Site :=
  { s with files }

end Site

end BlogSnapshot
