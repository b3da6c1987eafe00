import BlogSnapshot.Site

/-! The command that checks a directory of posts: it prints what they amount to, or the routes of
the site one to a line.
-/

namespace BlogSnapshot

/-- A text as a line of output: it ends in a line feed, which is added where it does not. -/
def lineText (s : String) : String :=
  if s.toList.getLast? = some '\n' then s else s ++ "\n"

/-- What is printed about a snapshot: its routes one to a line, or a count of its records. -/
def Snapshot.listing (s : Snapshot) (routes : Bool) : String :=
  if routes then String.join (s.routes.map lineText)
  else
    lineText (toString s.posts.length ++ " posts, " ++ toString s.categories.length
      ++ " categories, " ++ toString s.tags.length ++ " tags")

/-- What the command is asked to do: which directory it reads, if not that of the settings, and
whether it lists the routes.
-/
structure Command where
  directory : Option String := none
  listsRoutes : Bool := false
  deriving DecidableEq, Repr

/-- Words that do not make up a command. -/
inductive UsageFault where
  | unknownWord (word : String)
  | noDirectory
  deriving DecidableEq, Repr

/-- The wording of a usage fault. -/
def UsageFault.message : UsageFault → String
  | unknownWord word => "unrecognized arguments: " ++ word
  | noDirectory => "argument --dir: expected one argument"

namespace Command

/-- The command with further words. The last directory counts. -/
def withWords (c : Command) : List String → Except UsageFault Command
  | [] => .ok c
  | "--routes" :: words => withWords { c with listsRoutes := true } words
  | ["--dir"] => .error .noDirectory
  | "--dir" :: directory :: words => withWords { c with directory := some directory } words
  | word :: words =>
      match Text.afterLead? "--dir=".toList word.toList with
      | some directory =>
          withWords { c with directory := some (String.ofList directory) } words
      | none => .error (.unknownWord word)

/-- What the command prints. -/
def output (c : Command) (settings : Settings) (builtAt : Moment) (files : FileTree) (base : Path)
    : Except Failure String := do
  let snapshot ← Snapshot.load settings builtAt files base c.directory
  pure (snapshot.listing c.listsRoutes)

end Command

end BlogSnapshot
