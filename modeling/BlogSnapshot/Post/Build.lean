import BlogSnapshot.Index
import BlogSnapshot.Post.Content
import BlogSnapshot.Resolution

/-! Joining a parsed source with the resolved entities into a post.
-/

namespace BlogSnapshot

/-- The item that stands under a slug in the index of the items, which is the last one with the
slug.
-/
def lastWithSlug? {α : Type} (slugOf : α → String) (slug : String) (items : List α) : Option α :=
  (Index.byKey slugOf items).lookup slug

namespace Post

/-- The tables that posts are joined with: authors by the key of an email, categories and tags by
slug.
-/
structure Tables where
  authors : String → Option Author
  categories : String → Option Category
  tags : String → Option Tag

namespace Tables

/-- The tables of resolved entities. -/
def ofEntities (e : Entities) : Tables where
  authors key := e.authors.find? fun a => a.email = key
  categories slug := lastWithSlug? Category.slug slug e.categories
  tags slug := lastWithSlug? Tag.slug slug e.tags

/-- The tables of resolved entities, with other categories and tags where these are given. -/
def withGiven (e : Entities) (categories : Option (List Category)) (tags : Option (List Tag))
    : Tables :=
  ofEntities ⟨e.authors, categories.getD e.categories, tags.getD e.tags⟩

/-- The author with the key of an email. -/
def author? (t : Tables) (email : String) : Option Author :=
  t.authors (authorKey email)

/-- The category with a slug. -/
def category? (t : Tables) (slug : String) : Option Category :=
  t.categories slug.trimBlanks

/-- The tag with a slug. -/
def tag? (t : Tables) (slug : String) : Option Tag :=
  t.tags slug.trimBlanks

end Tables

/-- The copies of a post's tags, in the order in which the post names them. -/
def tagsOf (tables : Tables) (path : String)
    : List FrontmatterLabel → Except ContentError (List PostTag)
  | [] => .ok []
  | l :: rest =>
      match tables.tag? l.slug with
      | none => .error ⟨.unknownTag l.slug, some path⟩
      | some t => do
          let more ← tagsOf tables path rest
          pure (⟨t.id, t.name, t.slug, t.color⟩ :: more)

/-- The post of a source. A missing author is reported first, then a missing category, then the
first missing tag, then a body that cannot be rendered, and a refused image URL last.
-/
def build (settings : Settings) (builtAt : Moment) (tables : Tables) (id : Int)
    (source : ParsedSource)
    : Except Failure Post := do
  let f := source.frontmatter
  let fail {α : Type} (cause : Cause) : Except Failure α :=
    .error (.content ⟨cause, some source.path⟩)
  match tables.author? f.author.email with
  | none => fail (.unresolvedAuthor (authorKey f.author.email))
  | some author =>
      match tables.category? f.category.slug with
      | none => fail (.unknownCategory f.category.slug)
      | some category => do
          let tags ← (tagsOf tables source.path f.tags).mapError .content
          let content ← (PostContent.ofBody settings source.body f.publishedAt).mapError
            fun fault => .fault (.render fault)
          let image ← (Media.ofFeaturedImage id f.featuredImage builtAt).mapError fun fault =>
            .fault (.url fault)
          pure {
            id, content, tags
            title := f.title
            slug := f.slug
            excerpt := f.excerpt
            featuredImage := some image
            publishedAt := some f.publishedAt
            createdAt := f.publishedAt
            updatedAt := some (f.updatedAt.getD f.publishedAt)
            author := ⟨author.id, f.author.name, f.author.email, none⟩
            category := ⟨category.id, category.name, category.slug, category.color, none, none⟩
          }

end Post

end BlogSnapshot
