import BlogSnapshot.Calendar.Moment

/-! Frontmatter records and parsed sources.
-/

namespace BlogSnapshot

structure FrontmatterAuthor where
  name : String
  email : String
  deriving DecidableEq, Repr

/-- A category or a tag as a post declares it. -/
structure FrontmatterLabel where
  name : String
  slug : String
  color : Option String := none
  deriving DecidableEq, Repr

structure FrontmatterImage where
  fileUrl : String
  width : Option Int := none
  height : Option Int := none
  deriving DecidableEq, Repr

/-- The metadata of a post. -/
structure Frontmatter where
  title : String
  slug : String
  publishedAt : Moment
  author : FrontmatterAuthor
  category : FrontmatterLabel
  featuredImage : FrontmatterImage
  excerpt : Option String := none
  updatedAt : Option Moment := none
  tags : List FrontmatterLabel := []
  deriving DecidableEq, Repr

/-- A source with its metadata and its body. -/
structure ParsedSource where
  path : String
  frontmatter : Frontmatter
  body : String
  deriving DecidableEq, Repr

end BlogSnapshot
