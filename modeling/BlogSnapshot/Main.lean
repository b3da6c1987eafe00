import BlogSnapshot.Command

/-! The command line: it reads the files of a directory, runs the command on them, and prints what
comes of it. The time of the build is not printed, so that any moment does.
-/

namespace BlogSnapshot

/-- The tree at an entry of a directory. Only Markdown files are opened, and links to directories
are not followed.
-/
partial def readTree (entry : IO.FS.DirEntry) : IO FileTree := do
  match (← entry.path.symlinkMetadata).type with
  | .dir =>
      let entries ← entry.path.readDir
      let children ← entries.toList.mapM fun child => do
        pure (child.fileName, ← readTree child)
      pure (.directory children)
  | _ =>
      if FileTree.isMarkdownName entry.fileName && !(← entry.path.isDir) then
        pure (.file (← IO.FS.readBinFile entry.path))
      else pure (.file ByteArray.empty)

/-- The tree that holds nothing but the directory of a path, if there is one. -/
def readDirectory (path : Path) : IO FileTree := do
  let entry : IO.FS.DirEntry := { root := path.text, fileName := "." }
  if ← entry.path.isDir then
    pure (FileTree.put (← readTree entry) .empty path.names)
  else pure .empty

end BlogSnapshot

open BlogSnapshot

/-- Runs the command on the words of the command line. -/
def main (words : List String) : IO UInt32 := do
  match Command.withWords {} words with
  | .error fault =>
      IO.eprintln ("error: " ++ fault.message)
      pure 2
  | .ok command =>
      let settings : Settings := {}
      let base := Path.ofString (toString (← IO.currentDir))
      let files ← readDirectory (contentDirectory settings base command.directory)
      let builtAt : Moment := { date := .epoch }
      match command.output settings builtAt files base with
      | .ok text =>
          IO.print text
          pure 0
      | .error failure =>
          IO.eprintln ("CommandError: " ++ failure.message)
          pure 1
