import BlogSnapshot.Pagination
import BlogSnapshot.Post.Build

/-! Snapshots: all posts in display order, the categories and the tags, with lookups by slug and
by id.
-/

namespace BlogSnapshot

namespace Post

/-- Newest first, and in ascending order of slugs among posts of one instant. -/
def displayOrder (posts : List Post) : List Post :=
  (posts.mergeSort fun p q => p.slug ≤ q.slug).mergeSort fun p q =>
    q.displayDate.instant ≤ p.displayDate.instant

/-- The posts in buckets by their ids of some kind, each bucket in display order. -/
def bucketsBy (idsOf : Post → List Int) (posts : List Post) : List (Int × List Post) :=
  Index.arrange displayOrder (Index.buckets idsOf posts)

end Post

/-- A snapshot of the content. -/
structure Snapshot where
  posts : List Post
  categories : List Category
  tags : List Tag
  deriving DecidableEq, Repr

namespace Snapshot

/-- The snapshot of the given records. -/
def ofRecords (posts : List Post) (categories : List Category) (tags : List Tag) : Snapshot :=
  ⟨Post.displayOrder posts, categories, tags⟩

/-- The last post with a slug. -/
def postBySlug? (s : Snapshot) (slug : String) : Option Post :=
  lastWithSlug? Post.slug slug s.posts

/-- The last category with a slug. -/
def categoryBySlug? (s : Snapshot) (slug : String) : Option Category :=
  lastWithSlug? Category.slug slug s.categories

/-- The last tag with a slug. -/
def tagBySlug? (s : Snapshot) (slug : String) : Option Tag :=
  lastWithSlug? Tag.slug slug s.tags

/-- The posts of the categories in display order, by the id of the category. -/
def indexByCategory (s : Snapshot) : List (Int × List Post) :=
  Post.bucketsBy (fun p => [p.category.id]) s.posts

/-- The posts with the tags in display order, by the id of the tag. -/
def indexByTag (s : Snapshot) : List (Int × List Post) :=
  Post.bucketsBy (fun p => p.tags.map PostTag.id) s.posts

/-- The posts of a category in display order. -/
def postsByCategory (s : Snapshot) (id : Int) : List Post :=
  Index.bucket id s.indexByCategory

/-- The posts with a tag in display order, a post once for each time that it names the tag. -/
def postsByTag (s : Snapshot) (id : Int) : List Post :=
  Index.bucket id s.indexByTag

/-- Every address of a post, a tag or a category, in ascending order and without repetition. -/
def routes (s : Snapshot) : List String :=
  let all := s.posts.map Post.url ++ s.tags.map Tag.url ++ s.categories.map Category.url
  all.eraseDups.mergeSort fun a b => a ≤ b

/-- A line that counts what a snapshot holds. -/
def summary (s : Snapshot) : String :=
  "<DemoContent posts=" ++ toString s.posts.length ++ " categories="
    ++ toString s.categories.length ++ " tags=" ++ toString s.tags.length ++ ">"

end Snapshot

end BlogSnapshot
