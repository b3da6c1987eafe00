import BlogSnapshot.Taxonomy

/-! Posts. Author, category and tags are copies, so a post is shown without any further lookup.
-/

namespace BlogSnapshot

structure PostAuthor where
  id : Int
  name : String
  email : String
  avatar : Option Media := none
  deriving DecidableEq, Repr

structure PostCategory where
  id : Int
  name : String
  slug : String
  color : Option String
  logo : Option Media := none
  cover : Option Media := none
  deriving DecidableEq, Repr

structure PostTag where
  id : Int
  name : String
  slug : String
  color : Option String
  deriving DecidableEq, Repr

/-- A block of finished HTML. -/
structure RawBlock where
  html : String
  id : Option String := none
  deriving DecidableEq, Repr

/-- The content of a post: blocks stamped with milliseconds since the epoch. -/
structure PostContent where
  time : Int
  blocks : List RawBlock
  version : Option String
  deriving DecidableEq, Repr

structure Post where
  id : Int
  title : String
  slug : String
  content : PostContent
  excerpt : Option String
  featuredImage : Option Media
  publishedAt : Option Moment
  createdAt : Moment
  updatedAt : Option Moment
  author : PostAuthor
  category : PostCategory
  tags : List PostTag := []
  likesCount : Int := 0
  viewCount : Int := 0
  commentCount : Int := 0
  deriving DecidableEq, Repr

/-- The data of a media record that may be absent. -/
def Data.ofMedia? (m : Option Media) : Data :=
  m.elim .null Media.toData

def PostAuthor.toData (a : PostAuthor) : Data :=
  .record [
    ("id", .int a.id), ("name", .text a.name), ("email", .text a.email),
    ("avatar", .ofMedia? a.avatar)
  ]

def PostCategory.toData (c : PostCategory) : Data :=
  .record [
    ("id", .int c.id), ("name", .text c.name), ("slug", .text c.slug),
    ("color", .ofText? c.color), ("logo", .ofMedia? c.logo), ("cover", .ofMedia? c.cover)
  ]

def PostTag.toData (t : PostTag) : Data :=
  .record [
    ("id", .int t.id), ("name", .text t.name), ("slug", .text t.slug),
    ("color", .ofText? t.color)
  ]

def RawBlock.toData (b : RawBlock) : Data :=
  .record [
    ("id", .ofText? b.id), ("type", .text "raw"), ("data", .record [("html", .text b.html)])
  ]

namespace PostContent

/-- The HTML of all blocks in order. -/
def html (c : PostContent) : String :=
  c.blocks.foldl (fun s b => s ++ b.html) ""

def toData (c : PostContent) : Data :=
  .record [
    ("time", .int c.time), ("blocks", .list (c.blocks.map RawBlock.toData)),
    ("version", .ofText? c.version)
  ]

end PostContent

namespace Post

def url (p : Post) : String :=
  "/posts/" ++ p.slug

/-- The moment by which posts are ordered: of publication, or else of creation. -/
def displayDate (p : Post) : Moment :=
  p.publishedAt.getD p.createdAt

/-- Every post of a corpus is published. -/
def status : String := "Published"

def toData (p : Post) : Data :=
  .record [
    ("id", .int p.id), ("title", .text p.title), ("slug", .text p.slug),
    ("content", p.content.toData), ("excerpt", .ofText? p.excerpt),
    ("featured_image", .ofMedia? p.featuredImage), ("published_at", .ofMoment? p.publishedAt),
    ("created_at", .text p.createdAt.iso), ("updated_at", .ofMoment? p.updatedAt),
    ("author", p.author.toData), ("category", p.category.toData),
    ("tags", .list (p.tags.map PostTag.toData)), ("likes_count", .int p.likesCount),
    ("view_count", .int p.viewCount), ("comment_count", .int p.commentCount),
    ("status", .text status)
  ]

end Post

end BlogSnapshot
