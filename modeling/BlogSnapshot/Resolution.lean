import BlogSnapshot.Settings
import BlogSnapshot.Taxonomy
import BlogSnapshot.Text.Lowercase

/-! Entities across a corpus. Every post declares its author, category and tags; declarations of
one key are folded into one entity, the first declaration gives its value, and each later one that
differs is a conflict.
-/

namespace BlogSnapshot

/-- A value declared for a key by a source. -/
structure Declaration (ν : Type) where
  key : String
  value : ν
  path : String
  deriving DecidableEq, Repr

/-- The entities of a fold and the conflicts in the order in which they were met. -/
structure Resolution (ε : Type) where
  entities : List ε
  conflicts : List ContentError
  deriving DecidableEq, Repr

namespace Resolution

def ok {ε : Type} (r : Resolution ε) : Bool :=
  r.conflicts.isEmpty

/-- The entities, unless there is a conflict; then the first one. -/
def unwrap {ε : Type} (r : Resolution ε) : Except ContentError (List ε) :=
  match r.conflicts with
  | [] => .ok r.entities
  | e :: _ => .error e

end Resolution

/-- The identity of an author: the email trimmed and in lower case. -/
def authorKey (email : String) : String :=
  email.trimBlanks.lowerFull

namespace Declaration

variable {ν : Type} [DecidableEq ν]

/-- The first value of each key, in the order of first declarations, and the conflicts. -/
def fold (conflict : Declaration ν → ν → Cause)
    : List (Declaration ν) → List (String × ν) × List ContentError →
      List (String × ν) × List ContentError
  | [], done => done
  | d :: rest, (table, conflicts) =>
      match table.lookup d.key with
      | none => fold conflict rest (table ++ [(d.key, d.value)], conflicts)
      | some first =>
          if first = d.value then fold conflict rest (table, conflicts)
          else fold conflict rest (table, conflicts ++ [⟨conflict d first, some d.path⟩])

/-- The keys of a table in ascending order with their values, numbered from 1. -/
def numbered (table : List (String × ν)) : List (Nat × String × ν) :=
  ((table.mergeSort fun a b => a.1 ≤ b.1).zipIdx 1).map fun (entry, id) => (id, entry)

/-- The numbered entities of the declarations, and the conflicts. -/
def resolve {ε : Type} (conflict : Declaration ν → ν → Cause) (entity : Nat → String → ν → ε)
    (ds : List (Declaration ν)) : Resolution ε :=
  let (table, conflicts) := fold conflict ds ([], [])
  ⟨(numbered table).map fun (id, key, value) => entity id key value, conflicts⟩

end Declaration

namespace ParsedSource

/-- The author that a source declares. -/
def author (s : ParsedSource) : Declaration String :=
  ⟨authorKey s.frontmatter.author.email, s.frontmatter.author.name.trimBlanks, s.path⟩

end ParsedSource

/-- A label as a declaration of name and color; a missing color is the default. -/
def FrontmatterLabel.declaration (default : Option String) (path : String) (l : FrontmatterLabel)
    : Declaration (String × Option String) :=
  ⟨l.slug.trimBlanks, (l.name.trimBlanks, l.color.or default), path⟩

namespace ParsedSource

/-- The category that a source declares. -/
def category (default : Option String) (s : ParsedSource)
    : Declaration (String × Option String) :=
  s.frontmatter.category.declaration default s.path

/-- The tags that a source declares. -/
def tags (default : Option String) (s : ParsedSource)
    : List (Declaration (String × Option String)) :=
  s.frontmatter.tags.map (·.declaration default s.path)

end ParsedSource

namespace Resolution

/-- The authors of the sources. -/
def authors (sources : List ParsedSource) : Resolution Author :=
  Declaration.resolve (fun d first => .conflictingAuthor d.key first d.value)
    (fun id key name => ⟨id, name, key⟩) (sources.map (·.author))

/-- The categories of the sources. -/
def categories (settings : Settings) (builtAt : Moment) (sources : List ParsedSource)
    : Resolution Category :=
  Declaration.resolve (fun d _ => .conflictingCategory d.key)
    (fun id slug (name, color) =>
      {
        id, name, slug, color
        textColor := settings.textColor
        createdAt := builtAt
        updatedAt := builtAt
      })
    (sources.map (·.category settings.categoryColor))

/-- The tags of the sources. -/
def tags (settings : Settings) (builtAt : Moment) (sources : List ParsedSource)
    : Resolution Tag :=
  Declaration.resolve (fun d _ => .conflictingTag d.key)
    (fun id slug (name, color) =>
      {
        id, name, slug, color
        textColor := settings.textColor
        createdAt := builtAt
        updatedAt := builtAt
      })
    (sources.flatMap (·.tags settings.tagColor))

end Resolution

/-- The entities of a corpus. -/
structure Entities where
  authors : List Author
  categories : List Category
  tags : List Tag
  deriving DecidableEq, Repr

namespace Entities

/-- The author with an email. -/
def authorFor? (e : Entities) (email : String) : Option Author :=
  e.authors.find? fun a => a.email = authorKey email

/-- All entities of the sources. Conflicts of authors come before those of categories, and these
before those of tags.
-/
def resolve (settings : Settings) (builtAt : Moment) (sources : List ParsedSource)
    : Except ContentError Entities := do
  let authors ← (Resolution.authors sources).unwrap
  let categories ← (Resolution.categories settings builtAt sources).unwrap
  let tags ← (Resolution.tags settings builtAt sources).unwrap
  pure { authors, categories, tags }

end Entities

end BlogSnapshot
