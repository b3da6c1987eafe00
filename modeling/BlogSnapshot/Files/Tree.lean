import BlogSnapshot.Error
import BlogSnapshot.Files.Path
import BlogSnapshot.Source

/-! Trees of files, and the Markdown sources in them.
-/

namespace BlogSnapshot

/-- A file with its bytes, or a directory with its entries in the order in which they are
visited.
-/
inductive FileTree
  | file (bytes : ByteArray)
  | directory (entries : List (String × FileTree))
  deriving Inhabited

/-- Why a file cannot be read. -/
inductive FileFault
  | notFound
  | notDirectory
  | isDirectory
  deriving DecidableEq, Repr

/-- The wording of a file fault with the path that was to be read. -/
def FileFault.message (path : String) : FileFault → String
  | notFound => "[Errno 2] No such file or directory: " ++ path.quotedText
  | notDirectory => "[Errno 20] Not a directory: " ++ path.quotedText
  | isDirectory => "[Errno 21] Is a directory: " ++ path.quotedText

namespace FileTree

/-- An empty directory. -/
def empty : FileTree :=
  .directory []

def isDirectory : FileTree → Bool
  | directory _ => true
  | file _ => false

/-- The tree reached by names; two dots lead back to the directory before, of which `outer` holds
the chain.
-/
def walk (outer : List FileTree) (t : FileTree) : List String → Except FileFault FileTree
  | [] => .ok t
  | n :: names =>
      match t with
      | file _ => .error .notDirectory
      | directory entries =>
          if n = ".." then
            match outer with
            | [] => walk [] t names
            | o :: outer => walk outer o names
          else
            match entries.lookup n with
            | none => .error .notFound
            | some child => walk (t :: outer) child names

/-- The tree at a path. -/
def at? (t : FileTree) (p : Path) : Except FileFault FileTree :=
  walk [] t p.names

/-- The bytes of the file at a path. -/
def read (t : FileTree) (p : Path) : Except FileFault ByteArray :=
  match t.at? p with
  | .error e => .error e
  | .ok (directory _) => .error .isDirectory
  | .ok (file bytes) => .ok bytes

/-- The entries with the one of a name replaced, or added at the end. -/
def setEntry (name : String) (child : FileTree)
    : List (String × FileTree) → List (String × FileTree)
  | [] => [(name, child)]
  | (n, t) :: rest => if n = name then (n, child) :: rest else (n, t) :: setEntry name child rest

/-- The tree with another tree put at names; missing directories are made. -/
def put (leaf : FileTree) (t : FileTree) : List String → FileTree
  | [] => leaf
  | n :: names =>
      match t with
      | file _ => t
      | directory entries =>
          directory (setEntry n (put leaf ((entries.lookup n).getD empty) names) entries)

/-- The tree with a file at a path. -/
def write (t : FileTree) (p : Path) (bytes : ByteArray) : FileTree :=
  put (.file bytes) t p.names

/-- The tree with a directory at a path, which stays as it is if it is there. -/
def makeDirectory (t : FileTree) (p : Path) : FileTree :=
  match t.at? p with
  | .ok (directory _) => t
  | _ => put empty t p.names

/-- Whether a file name has the suffix of Markdown after a name of its own. -/
def isMarkdownName (name : String) : Bool :=
  name.toList.drop (name.length - 3) = ".md".toList && 3 < name.length

mutual

/-- The names and the bytes of the Markdown files in a tree, at any depth, in the order in which
they are visited. Directories count by what is in them only.
-/
def markdownFiles (names : List String) : FileTree → List (List String × ByteArray)
  | file bytes =>
      if (names.getLast?).any isMarkdownName then [(names, bytes)] else []
  | directory entries => markdownFilesOf names entries

def markdownFilesOf (names : List String)
    : List (String × FileTree) → List (List String × ByteArray)
  | [] => []
  | (n, t) :: rest => markdownFiles (names ++ [n]) t ++ markdownFilesOf names rest

end

end FileTree

namespace SourceFile

/-- A source from the bytes of its file. -/
def ofBytes (path : String) (bytes : ByteArray) : Except ContentError SourceFile :=
  match String.fromUTF8? bytes with
  | some contents => .ok ⟨path, contents⟩
  | none => .error ⟨.notUtf8, some path⟩

/-- The source at a path below a root. -/
def read (t : FileTree) (root p : Path) : Except ContentError SourceFile :=
  match t.read (root.under p) with
  | .error e => .error ⟨.unreadable (e.message (root.under p).text), some p.text⟩
  | .ok bytes => ofBytes p.text bytes

/-- All Markdown sources below a root, in the order in which their files are visited. -/
def loadAll (t : FileTree) (root : Path) : Except ContentError (List SourceFile) :=
  match t.at? root with
  | .ok (.directory entries) =>
      match FileTree.markdownFilesOf [] entries with
      | [] => .error { cause := .noFiles root.text }
      | files => files.mapM fun (names, bytes) => ofBytes (String.intercalate "/" names) bytes
  | _ => .error { cause := .noDirectory root.text }

end SourceFile

end BlogSnapshot
