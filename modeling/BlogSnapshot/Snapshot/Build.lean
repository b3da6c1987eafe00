import BlogSnapshot.Frontmatter.Read
import BlogSnapshot.Snapshot

/-! The snapshot of a list of sources. Sources are parsed in the order of their paths and numbered
in the order of their slugs, so that the order in which they are found does not matter.
-/

namespace BlogSnapshot.Snapshot

/-- Fails for the first source whose slug has been seen before. -/
def checkSlugs (seen : List String) : List ParsedSource → Except ContentError Unit
  | [] => .ok ()
  | s :: rest =>
      if seen.contains s.frontmatter.slug then
        .error ⟨.duplicateSlug s.frontmatter.slug, some s.path⟩
      else checkSlugs (s.frontmatter.slug :: seen) rest

/-- Posts with consecutive ids from `id` on. -/
def buildPosts (settings : Settings) (builtAt : Moment) (tables : Post.Tables) (id : Nat)
    : List ParsedSource → Except Failure (List Post)
  | [] => .ok []
  | s :: rest => do
      let post ← Post.build settings builtAt tables id s
      let posts ← buildPosts settings builtAt tables (id + 1) rest
      pure (post :: posts)

/-- Parsed sources in ascending order of slugs, those of one slug in the given order. -/
def inSlugOrder (sources : List ParsedSource) : List ParsedSource :=
  sources.mergeSort fun a b => a.frontmatter.slug ≤ b.frontmatter.slug

/-- The snapshot of parsed sources. -/
def ofParsed (settings : Settings) (builtAt : Moment) (parsed : List ParsedSource)
    : Except Failure Snapshot := do
  if parsed.isEmpty then .error (.content { cause := .noSources })
  else
    let parsed := inSlugOrder parsed
    (checkSlugs [] parsed).mapError .content
    let entities ← (Entities.resolve settings builtAt parsed).mapError .content
    let posts ← buildPosts settings builtAt (.ofEntities entities) 1 parsed
    pure (ofRecords posts entities.categories entities.tags)

/-- The snapshot of sources; the first failure ends the build. -/
def build (settings : Settings) (builtAt : Moment) (sources : List SourceFile)
    : Except Failure Snapshot := do
  let parsed ← (sources.mergeSort fun a b => a.path ≤ b.path).mapM SourceFile.parse
  ofParsed settings builtAt parsed

end BlogSnapshot.Snapshot
